import Pactra.System.PaymentStates
import Pactra.System.Intents
import Pactra.System.ShadowSteps

/-!
# Repeated deliveries

A provider delivers its webhooks as often as it likes and in any order. The unique index on
`webhook_events` remembers each accepted event, and a delivery that finds its event there only notes
that it was repeated. No other step reads the audit table, so the rest of a run cannot tell whether
the repetition happened.

## Main results

- `step_webhookEvents` — the index only grows
- `deliverWebhook_repeated` — a repeated delivery leaves every row alone
- `webhook_idempotent` — the guarantee, over every run
-/

namespace Pactra

open PaymentExecutor

-- ════════════════════════════════════════════════════════════════════════
-- Audit events with ids of their own
-- ════════════════════════════════════════════════════════════════════════

/-- Nothing but the audit table changed, and that grew by events with freshly drawn ids. -/
structure Annotates (env : Env) (db db' : Db) : Prop where
  rows : db.SameRows db'
  drawn : db.drawn ≤ db'.drawn
  events : ∃ new, db'.auditEvents = db.auditEvents ++ new ∧
    ∀ e ∈ new, ∃ j, db.drawn ≤ j ∧ j < db'.drawn ∧ e.eventId = env.uuid4 j

section Annotates

variable {env : Env} {a b c : Db}

theorem Annotates.refl (env : Env) (db : Db) : Annotates env db db :=
  ⟨.refl db, Nat.le_refl _, [], by simp, by simp⟩

theorem Annotates.trans (h : Annotates env a b) (h' : Annotates env b c) : Annotates env a c := by
  obtain ⟨new, hnew, hdrawn⟩ := h.events
  obtain ⟨new', hnew', hdrawn'⟩ := h'.events
  refine ⟨h.rows.trans h'.rows, h.drawn.trans h'.drawn, new ++ new', ?_, ?_⟩
  · rw [hnew', hnew, List.append_assoc]
  · intro e he
    rcases List.mem_append.mp he with he | he
    · obtain ⟨j, hj, hj', hid⟩ := hdrawn e he
      exact ⟨j, hj, hj'.trans_le h'.drawn, hid⟩
    · obtain ⟨j, hj, hj', hid⟩ := hdrawn' e he
      exact ⟨j, h.drawn.trans hj, hj', hid⟩

lemma annotates_appendEvents {missionId : Uuid} {entries : List AuditEntry}
    (h : (appendEvents env missionId entries).run a = (.ok (), b)) : Annotates env a b := by
  induction entries generalizing a with
  | nil =>
    obtain ⟨-, rfl⟩ := Prod.mk.inj h
    exact .refl env a
  | cons e es ih =>
    obtain ⟨⟨⟩, db₁, hfirst, hrest⟩ := Tx.bind_ok.mp h
    refine Annotates.trans ?_ (ih hrest)
    have hrows := sameRows_appendEvent hfirst
    rw [run_appendEvent] at hfirst
    dsimp only at hfirst
    split at hfirst
    · simp at hfirst
    · obtain ⟨-, rfl⟩ := Prod.mk.inj hfirst
      refine ⟨hrows, Nat.le_add_right _ _, _, rfl, fun e he => ?_⟩
      obtain rfl := List.mem_singleton.mp he
      exact ⟨a.drawn + 1, Nat.le_add_right _ _, Nat.lt_succ_self _, rfl⟩

/-- After some further audit events, everything is drawn that would have been drawn without them,
and none of their ids again. -/
structure Resumes (env : Env) (d : Draws) (n m : Nat) : Prop where
  uuid4 : ∀ k, d.uuid4 (m + k) = env.uuid4 (n + k)
  utcnow : ∀ k, d.utcnow (m + k) = env.utcnow (n + k)
  tokenHex : ∀ k, d.tokenHex (m + k) = env.tokenHex (n + k)
  fresh : ∀ j, n ≤ j → j < m → ∀ k, env.uuid4 (n + k) ≠ d.uuid4 j

/-- What follows cannot see the further events. -/
lemma Annotates.shadow {d : Draws} (h : Annotates (env.drawing d) a b)
    (hd : Resumes env d a.drawn b.drawn) : Shadow env d a b := by
  obtain ⟨h₁, h₂, h₃, h₄, h₅, h₆, h₇, h₈⟩ := h.rows
  obtain ⟨new, hnew, hids⟩ := h.events
  refine ⟨?_, hd.uuid4, hd.utcnow, hd.tokenHex, ?_, ?_⟩
  · rw [Db.over, ← h₁, ← h₂, ← h₃, ← h₄, ← h₅, ← h₆, ← h₇, ← h₈]
  · rw [hnew, List.map_append]
    exact List.sublist_append_left _ _
  · intro e he
    rw [hnew] at he
    rcases List.mem_append.mp he with he | he
    · exact .inl ⟨e, he, rfl⟩
    · obtain ⟨j, hj, hj', hid⟩ := hids e he
      refine .inr fun k => ?_
      rw [hid]
      exact hd.fresh j hj hj' k

end Annotates

-- ════════════════════════════════════════════════════════════════════════
-- The index of deliveries
-- ════════════════════════════════════════════════════════════════════════

section Index

variable {env : Env} {w w' : World} {action : Action} {db db' : Db}

/-- The index of deliveries only grows. -/
lemma Change.webhookEvents (h : Change env w action db') :
    w.db.webhookEvents <+: db'.webhookEvents := by
  have hsame : db'.webhookEvents = w.db.webhookEvents →
      w.db.webhookEvents <+: db'.webhookEvents := fun heq => heq ▸ List.prefix_refl _
  cases h with
  | kept => exact List.prefix_refl _
  | planned _ _ _ h =>
    obtain ⟨d, hplanning, -⟩ := h
    exact hsame hplanning.webhookEvents
  | aftermath _ _ h =>
    cases h with
    | kept => exact List.prefix_refl _
    | recorded _ _ _ _ _ happ => exact hsame happ.rows.webhookEvents
    | ended _ _ _ _ _ _ _ _ happ => exact hsame happ.rows.webhookEvents
  | activated _ _ _ _ _ _ _ _ _ happ => exact hsame happ.rows.webhookEvents
  | created _ _ _ _ _ _ h => exact hsame h.webhookEvents
  | reused _ _ _ _ _ _ _ happ => exact hsame happ.rows.webhookEvents
  | claimed => exact List.prefix_refl _
  | recovered => exact List.prefix_refl _
  | fenced => exact List.prefix_refl _
  | handled _ _ _ _ _ _ _ _ _ _ _ _ _ _ _ _ hweb => exact hsame hweb
  | delivered _ _ _ _ _ _ _ _ _ _ _ hweb =>
    obtain ⟨id, heq⟩ := hweb
    exact ⟨_, heq.symm⟩

theorem step_webhookEvents (hreach : Reachable env w) (h : World.step env w action = some w') :
    w.db.webhookEvents <+: w'.db.webhookEvents :=
  (step_change hreach.consistent hreach.inFlight h).webhookEvents

theorem run_webhookEvents (hreach : Reachable env w) {actions : List Action}
    (hrun : Runs.run (World.step env) w actions = some w') :
    w.db.webhookEvents <+: w'.db.webhookEvents :=
  Runs.relates (I := Reachable env)
    (r := fun w w' : World => w.db.webhookEvents <+: w'.db.webhookEvents)
    (fun _ => List.prefix_refl _) (fun _ _ _ h h' => h.trans h')
    (fun _ _ _ hi hs => ⟨(hi.step hs).1, step_webhookEvents hi hs⟩) hreach hrun

/-- An event keeps its place in the index. -/
lemma alreadyDelivered_of_prefix {event event' : VerifiedWebhookEvent}
    (h : db.webhookEvents <+: db'.webhookEvents) (hd : alreadyDelivered db event = true)
    (hprov : event'.provider = event.provider)
    (hid : event'.providerEventId = event.providerEventId) :
    alreadyDelivered db' event' = true := by
  obtain ⟨row, hrow, hkey⟩ := List.any_eq_true.mp hd
  refine List.any_eq_true.mpr ⟨row, h.subset hrow, ?_⟩
  rw [hprov, hid]
  exact hkey

/-- An accepted delivery leaves its event in the index. -/
lemma PaymentExecutor.Delivered.recorded {event : VerifiedWebhookEvent} {u u' : UnitOfWork} {id : Uuid}
    {applied : Option (Option PaymentIntentState)} {now : Datetime}
    (h : Delivered db event u u' applied)
    (hweb : db'.webhookEvents =
      db.webhookEvents ++ (applied.map (webhookRow id u'.intent.id event now)).toList) :
    alreadyDelivered db' event = true := by
  have hnew : ∀ state, applied = some state → alreadyDelivered db' event = true := by
    rintro state rfl
    refine List.any_eq_true.mpr ⟨webhookRow id u'.intent.id event now state, ?_, ?_⟩
    · rw [hweb]
      exact List.mem_append_right _ List.mem_cons_self
    · simp [webhookRow]
  cases h with
  | duplicate hd => exact alreadyDelivered_of_prefix ⟨_, hweb.symm⟩ hd rfl rfl
  | held => exact hnew _ rfl
  | observed => exact hnew _ rfl
  | outOfOrder => exact hnew _ rfl
  | applied => exact hnew _ rfl

end Index

-- ════════════════════════════════════════════════════════════════════════
-- Repeated deliveries
-- ════════════════════════════════════════════════════════════════════════

section Repeated

variable {env : Env} {w : World} {db db' : Db}

/-- A unit of work that only noted events leaves every row as it is. -/
lemma annotates_commitWork (hc : Consistent env db) {i : PaymentIntentRow}
    (hi : i ∈ db.paymentIntents) {entries : List AuditEntry} {d : Draws}
    (h : (World.commitWork (env.drawing d) ⟨i, db.getMission i.missionId, entries, []⟩).run db =
      (.ok (), db')) :
    Annotates (env.drawing d) db db' := by
  unfold World.commitWork at h
  rw [Tx.run_bind_of_ok (Tx.run_get db)] at h
  split at h
  · simp at h
  rw [Tx.run_bind_of_ok (Tx.run_modify _ _)] at h
  have hintent : db.updatePaymentIntent i.id (fun _ => i) = db := by
    rw [Db.updatePaymentIntent, hc.paymentIntents.update_self hi]
  dsimp only at h
  rw [hintent] at h
  cases hm : db.getMission i.missionId with
  | none =>
    rw [hm] at h
    exact annotates_appendEvents h
  | some m =>
    have hmission : db.updateMission m.id (fun _ => m) = db := by
      rw [Db.updateMission, hc.missions.update_self (Table.mem_of_find hm)]
    rw [hm] at h
    dsimp only at h
    rw [Tx.run_bind_of_ok (Tx.run_modify _ _), hmission] at h
    exact annotates_appendEvents h

/-- A delivery whose event is in the index leaves every row as it is. -/
theorem deliverWebhook_repeated (hc : Consistent env w.db) {event : VerifiedWebhookEvent}
    (hd : alreadyDelivered w.db event = true) (provider : String) (now : Datetime) (d : Draws) :
    ∃ db', World.deliverWebhook (env.drawing d) w provider event now = { w with db := db' } ∧
      Annotates (env.drawing d) w.db db' := by
  have hkept : ∃ db', w = { w with db := db' } ∧ Annotates (env.drawing d) w.db db' :=
    ⟨w.db, rfl, .refl _ _⟩
  unfold World.deliverWebhook
  split
  · exact hkept
  split
  · exact hkept
  next i hi =>
  split
  · exact hkept
  next outcome applied u hrun =>
  split
  · next db' hcommit =>
    refine ⟨db', rfl, ?_⟩
    obtain ⟨hmem, -, -⟩ := findIntent_some hi
    obtain ⟨-, hdelivered⟩ := handleWebhook_ok hrun
    cases hdelivered with
    | duplicate => exact annotates_commitWork hc hmem hcommit
    | held hfirst => simp [hfirst] at hd
    | observed hfirst => simp [hfirst] at hd
    | outOfOrder hfirst => simp [hfirst] at hd
    | applied _ hfirst => simp [hfirst] at hd
  · exact hkept

end Repeated

-- ════════════════════════════════════════════════════════════════════════
-- Guarantees
-- ════════════════════════════════════════════════════════════════════════

/-- The payment of an intent changed its state. -/
def Transitions (id : Uuid) (db db' : Db) : Prop :=
  ∃ i i', db.getPaymentIntent id = some i ∧ db'.getPaymentIntent id = some i' ∧ i.state ≠ i'.state

/-- The payment of an intent came to a terminal state. -/
def Terminates (id : Uuid) (db db' : Db) : Prop :=
  (∃ i', db'.getPaymentIntent id = some i' ∧ i'.state.isTerminal = true) ∧
    ∀ i, db.getPaymentIntent id = some i → i.state.isTerminal = false

/-- Two deliveries of one event: the columns of the unique index agree. -/
def SameEvent (event event' : VerifiedWebhookEvent) : Prop :=
  event'.provider = event.provider ∧ event'.providerEventId = event.providerEventId

/-- A delivery is accepted, and leads to a database. -/
def Accepts (env : Env) (w : World) (provider : String) (event : VerifiedWebhookEvent)
    (now : Datetime) (db' : Db) : Prop :=
  event.provider = provider ∧ ∃ i outcome applied u, findIntent w.db event = some i ∧
    (handleWebhook w.db event).run (World.lockIntent w.db i) = (.ok (outcome, applied), u) ∧
    (World.commitWebhook env event now u applied).run w.db = (.ok (), db')

/-- A delivery is rejected: it names another provider, or no known payment, or its evidence
contradicts the payment. -/
def Rejects (w : World) (provider : String) (event : VerifiedWebhookEvent) : Prop :=
  event.provider ≠ provider ∨ findIntent w.db event = none ∨
    ∃ i code detail u, findIntent w.db event = some i ∧
      (handleWebhook w.db event).run (World.lockIntent w.db i) =
        (.error (.webhookRejected code detail), u)

section Guarantees

variable {env : Env} {w w₁ w₂ w₃ : World} {provider provider' : String}
  {event event' : VerifiedWebhookEvent} {now now' : Datetime} {actions : List Action} {id id' : Uuid}

/-- A delivery is accepted or changes nothing. -/
lemma deliverWebhook_cases (env : Env) (w : World) (provider : String)
    (event : VerifiedWebhookEvent) (now : Datetime) :
    World.deliverWebhook env w provider event now = w ∨
      ∃ db', Accepts env w provider event now db' ∧
        World.deliverWebhook env w provider event now = { w with db := db' } := by
  unfold World.deliverWebhook
  split
  · exact .inl rfl
  next hprov =>
  split
  · exact .inl rfl
  next i hi =>
  split
  · exact .inl rfl
  next outcome applied u hrun =>
  split
  · next db' hcommit =>
    exact .inr ⟨db', ⟨not_not.mp hprov, i, outcome, applied, u, hi, hrun, hcommit⟩, rfl⟩
  · exact .inl rfl

lemma Accepts.step {db' : Db} (h : Accepts env w provider event now db') :
    World.deliverWebhook env w provider event now = { w with db := db' } := by
  obtain ⟨hprov, i, outcome, applied, u, hi, hrun, hcommit⟩ := h
  unfold World.deliverWebhook
  rw [if_neg (not_not.mpr hprov), hi]
  dsimp only
  rw [hrun]
  dsimp only
  rw [hcommit]

/-- An accepted delivery leaves its event in the index. -/
lemma Accepts.recorded {db' : Db} (h : Accepts env w provider event now db') :
    alreadyDelivered db' event = true := by
  obtain ⟨-, i, outcome, applied, u, -, hrun, hcommit⟩ := h
  obtain ⟨-, hdelivered⟩ := handleWebhook_ok hrun
  obtain ⟨-, -, id, hweb⟩ := commitWebhook_ok hcommit
  exact hdelivered.recorded hweb

/-- An event that was accepted once stays in the index. -/
lemma Accepts.remembered {db' : Db} (h : Accepts env w provider event now db')
    (hreach : Reachable env { w with db := db' })
    (hrun : Runs.run (World.step env) { w with db := db' } actions = some w₂)
    (hsame : SameEvent event event') : alreadyDelivered w₂.db event' = true :=
  alreadyDelivered_of_prefix (run_webhookEvents hreach hrun) h.recorded hsame.1 hsame.2

lemma not_transitions_self {db : Db} : ¬Transitions id db db := by
  rintro ⟨i, i', hi, hi', hne⟩
  obtain rfl := Option.some.inj (hi.symm.trans hi')
  exact hne rfl

/-- A delivery moves the payment that it names, if any. -/
lemma Transitions.named (hreach : Reachable env w)
    (hstep : World.step env w (.webhook provider event now) = some w₁)
    (h : Transitions id w.db w₁.db) : ∃ i, findIntent w.db event = some i ∧ i.id = id := by
  obtain ⟨i, i', hi, hi', hne⟩ := h
  rcases step_intent hreach hstep hi' with ⟨j, hj, hintent⟩ | ⟨hnone, -⟩
  · obtain rfl := Option.some.inj (hi.symm.trans hj)
    cases hintent with
    | kept => exact absurd rfl hne
    | delivered _ _ _ _ _ _ hfind => exact ⟨i, hfind, Table.key_of_find hi⟩
  · rw [hi] at hnone
    cases hnone

/-- A delivery takes a payment along one transition at most. -/
lemma delivered_transition (hreach : Reachable env w)
    (hstep : World.step env w (.webhook provider event now) = some w₁) {i i' : PaymentIntentRow}
    (hi : w.db.getPaymentIntent id = some i) (hi' : w₁.db.getPaymentIntent id = some i') :
    i'.state = i.state ∨ i.state.canTransition i'.state = true := by
  rcases step_intent hreach hstep hi' with ⟨j, hj, hintent⟩ | ⟨hnone, -⟩
  · obtain rfl := Option.some.inj (hi.symm.trans hj)
    cases hintent with
    | kept => exact .inl rfl
    | delivered _ _ _ _ u _ _ h =>
      cases h with
      | applied target _ _ _ hs =>
        right
        have hstate : (withSettledMission target (transitioned target (webhookEventType target)
            (webhookEvidence event) (attemptReason event)
            (withIntent (storeProviderEvidence event target)
              (noted .webhookVerified (verifiedPayload (World.lockIntent w.db i).intent event)
                (World.lockIntent w.db i))))).intent.state = target := by
          unfold withSettledMission
          split <;> rfl
        rw [hstate]
        exact hs
      | _ => exact .inl rfl
  · rw [hi] at hnone
    cases hnone

/-- A repeated delivery leaves every row as it is. -/
lemma sameRows_of_repeated (hreach : Reachable env w) (hd : alreadyDelivered w.db event = true)
    (hstep : World.step env w (.webhook provider event now) = some w₁) : w.db.SameRows w₁.db := by
  obtain rfl := Option.some.inj hstep
  obtain ⟨db', heq, h⟩ := deliverWebhook_repeated hreach.consistent hd provider now
    ⟨env.uuid4, env.utcnow, env.tokenHex⟩
  change World.deliverWebhook env w provider event now = _ at heq
  rw [heq]
  exact h.rows

/-- Of all deliveries of an event, one moves a payment at most. -/
lemma transitions_once (hreach : Reachable env w)
    (hstep : World.step env w (.webhook provider event now) = some w₁)
    (hrun : Runs.run (World.step env) w₁ actions = some w₂)
    (hstep' : World.step env w₂ (.webhook provider' event' now') = some w₃)
    (hsame : SameEvent event event') (h : Transitions id w.db w₁.db) :
    ¬Transitions id' w₂.db w₃.db := by
  have hreach₁ := (hreach.step hstep).1
  have hreach₂ := run_reachable hreach₁ hrun
  obtain rfl := Option.some.inj hstep
  rcases deliverWebhook_cases env w provider event now with hkept | ⟨db', haccepts, heq⟩
  · rw [hkept] at h
    exact absurd h not_transitions_self
  · rw [heq] at hrun hreach₁
    have hrows := sameRows_of_repeated hreach₂ (haccepts.remembered hreach₁ hrun hsame) hstep'
    rintro ⟨i, i', hi, hi', hne⟩
    rw [Db.getPaymentIntent, hrows.paymentIntents] at hi'
    obtain rfl := Option.some.inj (hi.symm.trans hi')
    exact hne rfl

/-- A payment comes to a terminal state once at most. -/
lemma terminates_once {action : Action} (hreach : Reachable env w)
    (hstep : World.step env w action = some w₁)
    (hrun : Runs.run (World.step env) w₁ actions = some w₂) (h : Terminates id w.db w₁.db)
    (db : Db) : ¬Terminates id w₂.db db := by
  obtain ⟨⟨i₁, hi₁, hterm⟩, -⟩ := h
  have hreach₁ := (hreach.step hstep).1
  obtain ⟨i₂, hi₂, hmoves₂⟩ := (run_grows hreach₁ hrun).paymentIntents _ _ hi₁
  have hstate₂ := hmoves₂.path.eq_of_isTerminal hterm
  rintro ⟨-, hopen⟩
  have := hopen i₂ hi₂
  rw [hstate₂, hterm] at this
  cases this

/-- A repeated delivery cannot be told from none by whatever follows. -/
lemma redelivery_invisible {d : Draws} (hreach : Reachable env w₂)
    (hd : alreadyDelivered w₂.db event' = true)
    (hresumes : Resumes env d w₂.db.drawn
      (World.deliverWebhook (env.drawing d) w₂ provider' event' now').db.drawn)
    (hrun : Runs.run (World.step env) w₂ actions = some w₃) :
    ∃ w₃', Runs.run (World.step (env.drawing d)) w₂ (.webhook provider' event' now' :: actions) =
        some w₃' ∧ w₃.db.SameRows w₃'.db ∧
      (w₃.db.auditEvents.map AuditEventRow.content).Sublist
        (w₃'.db.auditEvents.map AuditEventRow.content) := by
  obtain ⟨db', heq, hnotes⟩ := deliverWebhook_repeated hreach.consistent hd provider' now' d
  rw [heq] at hresumes
  have hshadows : World.Shadows env d w₂ { w₂ with db := db' } := ⟨hnotes.shadow hresumes, rfl⟩
  obtain ⟨w₃', hrun', hend⟩ := World.run_shadows hshadows hrun
  refine ⟨w₃', Runs.run_cons.mpr ⟨_, congrArg some heq, hrun'⟩, ?_, hend.db.events⟩
  rw [hend.db.rows]
  exact ⟨rfl, rfl, rfl, rfl, rfl, rfl, rfl, rfl⟩

/-- A rejected delivery has written nothing, and leaves the system as it was. -/
lemma rejected_unchanged (env : Env) (now : Datetime) (h : Rejects w provider event) :
    World.deliverWebhook env w provider event now = w ∧
      ∀ i code detail u, (handleWebhook w.db event).run (World.lockIntent w.db i) =
        (.error (.webhookRejected code detail), u) → u = World.lockIntent w.db i := by
  refine ⟨?_, fun i code detail u hrun => handleWebhook_rejected hrun⟩
  unfold World.deliverWebhook
  rcases h with hprov | hnone | ⟨i, code, detail, u, hi, hrun⟩
  · rw [if_pos hprov]
  · rw [hnone]
    simp
  · rw [hi]
    dsimp only
    rw [hrun]
    simp

/-- From every reachable state: a delivery takes at most one payment along one transition, and after
it no delivery of the same event moves a payment; a payment comes to a terminal state once at most;
a delivery of an event that was accepted before can be inserted anywhere without changing a row of
the final state, only adding audit events; and a rejected delivery changes nothing. -/
theorem webhook_idempotent (h : World.exec env actions = some w) :
    (∀ provider event now w₁,
      World.step env w (.webhook provider event now) = some w₁ →
      (∀ id id', Transitions id w.db w₁.db → Transitions id' w.db w₁.db → id = id') ∧
      (∀ id i i', w.db.getPaymentIntent id = some i → w₁.db.getPaymentIntent id = some i' →
        i'.state = i.state ∨ i.state.canTransition i'.state = true) ∧
      ∀ more w₂ provider' event' now' w₃, Runs.run (World.step env) w₁ more = some w₂ →
        World.step env w₂ (.webhook provider' event' now') = some w₃ → SameEvent event event' →
        ∀ id id', Transitions id w.db w₁.db → ¬Transitions id' w₂.db w₃.db) ∧
    (∀ action w₁ more w₂ action' w₃ id, World.step env w action = some w₁ →
      Runs.run (World.step env) w₁ more = some w₂ → World.step env w₂ action' = some w₃ →
      Terminates id w.db w₁.db → ¬Terminates id w₂.db w₃.db) ∧
    (∀ provider event now db₁, Accepts env w provider event now db₁ →
      ∀ more w₂, Runs.run (World.step env) { w with db := db₁ } more = some w₂ →
      ∀ provider' event' now' d rest w₃, SameEvent event event' →
        Resumes env d w₂.db.drawn
          (World.deliverWebhook (env.drawing d) w₂ provider' event' now').db.drawn →
        Runs.run (World.step env) w₂ rest = some w₃ →
        ∃ w₃', Runs.run (World.step (env.drawing d)) w₂
            (.webhook provider' event' now' :: rest) = some w₃' ∧ w₃.db.SameRows w₃'.db ∧
          (w₃.db.auditEvents.map AuditEventRow.content).Sublist
            (w₃'.db.auditEvents.map AuditEventRow.content)) ∧
    ∀ provider event now, Rejects w provider event →
      World.step env w (.webhook provider event now) = some w ∧
      ∀ i code detail u, (handleWebhook w.db event).run (World.lockIntent w.db i) =
        (.error (.webhookRejected code detail), u) → u = World.lockIntent w.db i := by
  have hreach := exec_reachable h
  refine ⟨?_, ?_, ?_, ?_⟩
  · intro provider event now w₁ hstep
    refine ⟨?_, ?_, ?_⟩
    · intro id id' hmoved hmoved'
      obtain ⟨i, hi, hid⟩ := hmoved.named hreach hstep
      obtain ⟨i', hi', hid'⟩ := hmoved'.named hreach hstep
      rw [← hid, ← hid', Option.some.inj (hi.symm.trans hi')]
    · intro id i i' hi hi'
      exact delivered_transition hreach hstep hi hi'
    · intro more w₂ provider' event' now' w₃ hrun hstep' hsame id id' hmoved
      exact transitions_once hreach hstep hrun hstep' hsame hmoved
  · intro action w₁ more w₂ action' w₃ id hstep hrun _ hterm
    exact terminates_once hreach hstep hrun hterm w₃.db
  · intro provider event now db₁ haccepts more w₂ hrun provider' event' now' d rest w₃ hsame
      hresumes hrest
    have hstep : World.step env w (.webhook provider event now) = some { w with db := db₁ } :=
      congrArg some haccepts.step
    have hreach₁ := (hreach.step hstep).1
    exact redelivery_invisible (run_reachable hreach₁ hrun)
      (haccepts.remembered hreach₁ hrun hsame) hresumes hrest
  · intro provider event now hrejects
    obtain ⟨hsame, hwritten⟩ := rejected_unchanged env now hrejects
    exact ⟨congrArg some hsame, hwritten⟩

end Guarantees

namespace Sample

/-- An order whose payment the provider creates and leaves open. -/
def opened : List Action :=
  order "fake" ++ claim 0 "fake" ++
    [.handle 0 .notFound (.payment (payment "fake" "pay_1" .pending pay_1_ne))]

/-- The draws of a run in which the webhook is delivered again. -/
def repeatedDraws : Draws where
  uuid4 n := if n < 51 then ⟨""⟩ else ⟨toString (n - 2)⟩
  utcnow _ := 0
  tokenHex := env.tokenHex

lemma succeeded_twice : (World.exec env opened).map (fun w =>
    let w₁ := World.deliverWebhook env w "fake" succeeded 0
    ((w.db.getPaymentIntent intentId).map PaymentIntentRow.state,
      (w₁.db.getPaymentIntent intentId).map PaymentIntentRow.state, w₁.db.drawn,
      (World.deliverWebhook (env.drawing repeatedDraws) w₁ "fake" succeeded 0).db.drawn)) =
    some (some .providerPending, some .succeeded, 49, 51) := by decide +kernel

lemma resumes_repeatedDraws : Resumes env repeatedDraws 49 51 where
  uuid4 k := by
    have h : ¬51 + k < 51 := by omega
    have h' : 51 + k - 2 = 49 + k := by omega
    simp [repeatedDraws, env, h, h']
  utcnow _ := rfl
  tokenHex _ := rfl
  fresh j _ hj k := by simp [repeatedDraws, env, hj]

end Sample

theorem webhook_idempotent_succeeded : ∃ w w₁ w₂,
    World.exec Sample.env Sample.opened = some w ∧
    World.step Sample.env w (.webhook "fake" Sample.succeeded 0) = some w₁ ∧
    Transitions Sample.intentId w.db w₁.db ∧
    World.step Sample.env w₁ (.webhook "fake" Sample.succeeded 0) = some w₂ ∧
    (∀ id, ¬Transitions id w₁.db w₂.db) ∧
    ∀ rest w₃, Runs.run (World.step Sample.env) w₁ rest = some w₃ →
      ∃ w₃', Runs.run (World.step (Sample.env.drawing Sample.repeatedDraws)) w₁
        (.webhook "fake" Sample.succeeded 0 :: rest) = some w₃' ∧ w₃.db.SameRows w₃'.db := by
  obtain ⟨w, hw, hfacts⟩ := Option.map_eq_some_iff.mp Sample.succeeded_twice
  dsimp only at hfacts
  simp only [Prod.mk.injEq, Option.map_eq_some_iff] at hfacts
  obtain ⟨⟨i, hi, hs⟩, ⟨i', hi', hs'⟩, hn, hm⟩ := hfacts
  obtain ⟨honce, -, hinsert, -⟩ := webhook_idempotent hw
  have hmoved : Transitions Sample.intentId w.db
      (World.deliverWebhook Sample.env w "fake" Sample.succeeded 0).db :=
    ⟨i, i', hi, hi', by simp [hs, hs']⟩
  rcases deliverWebhook_cases Sample.env w "fake" Sample.succeeded 0 with hkept | ⟨db₁, haccepts, heq⟩
  · rw [hkept] at hmoved
    exact absurd hmoved not_transitions_self
  rw [heq] at hmoved hn hm
  have hsame : SameEvent Sample.succeeded Sample.succeeded := ⟨rfl, rfl⟩
  refine ⟨w, { w with db := db₁ }, _, hw, congrArg some heq, hmoved, rfl, fun id => ?_,
    fun rest w₃ hrest => ?_⟩
  · exact (honce _ _ _ _ (congrArg some heq)).2.2 [] _ _ _ _ _ rfl rfl hsame _ id hmoved
  · obtain ⟨w₃', hrun', hrows, -⟩ := hinsert "fake" Sample.succeeded 0 db₁ haccepts [] _ rfl "fake"
      Sample.succeeded 0 Sample.repeatedDraws rest w₃ hsame
      (by rw [hn, hm]; exact Sample.resumes_repeatedDraws) hrest
    exact ⟨w₃', hrun', hrows⟩

end Pactra
