import Pactra.System.PaymentStates

/-!
# One authorization, one intent

Payment requests race on the key, on the authorization and on the insert. Whatever the order of
their statements, an authorization is consumed by exactly one intent, which is committed together
with its first outbox event, and a request that does not commit an intent changes nothing but the
audit chain.

## Main results

- `Change.new_intent` — an intent appears only when a request commits it
- `one_authorization_one_intent` — the guarantee, over every run
-/

namespace Pactra

open PaymentExecutor

variable {env : Env} {actions : List Action} {w w' : World}

/-- An update of one row adds none. -/
lemma not_added_of_update {db : Db} {id : Uuid} (j : PaymentIntentRow) {rows : List PaymentIntentRow}
    (h : db.getPaymentIntent id = none)
    (hrows : rows = (db.updatePaymentIntent j.id (fun _ => j)).paymentIntents) :
    Table.find PaymentIntentRow.id id rows = none := by
  have hget := getPaymentIntent_update db j.id id (f := fun _ => j) (fun _ _ => rfl)
  rw [h] at hget
  rw [hrows]
  exact hget.trans (by split <;> rfl)

/-- An intent appears only when a request commits it. -/
lemma Change.new_intent {action : Action} {db' : Db}
    (h : Change env w action db') {id : Uuid} {i : PaymentIntentRow}
    (hnone : w.db.getPaymentIntent id = none) (hi : db'.getPaymentIntent id = some i) :
    ∃ k args t intent, action = .requestStep k ∧ Intends env w.db args t intent ∧
      Created args t intent w.db db' ∧ intent.id = id := by
  have hsame : ∀ {rows}, rows = w.db.paymentIntents →
      Table.find PaymentIntentRow.id id rows = some i → False := by
    rintro rows rfl hsome
    cases hnone.symm.trans hsome
  cases h with
  | kept => exact (hsame rfl hi).elim
  | planned _ _ _ h =>
    obtain ⟨d, hplanning, -⟩ := h
    exact (hsame hplanning.paymentIntents hi).elim
  | aftermath _ _ h =>
    cases h with
    | kept => exact (hsame rfl hi).elim
    | recorded _ _ _ _ _ happ => exact (hsame happ.rows.paymentIntents hi).elim
    | ended _ _ _ _ _ _ _ _ happ => exact (hsame happ.rows.paymentIntents hi).elim
  | activated _ _ _ _ _ _ _ _ _ happ => exact (hsame happ.rows.paymentIntents hi).elim
  | created k args t intent _ hintends h =>
    refine ⟨k, args, t, intent, rfl, hintends, h, ?_⟩
    have hfind : Table.find PaymentIntentRow.id id
        (w.db.paymentIntents ++ [{ intent with state := .queued }]) = some i :=
      h.paymentIntents ▸ hi
    have hbefore : Table.find PaymentIntentRow.id id w.db.paymentIntents = none := hnone
    rw [Table.find_append, hbefore, Option.none_or] at hfind
    have hmem := List.mem_singleton.mp (Table.mem_of_find hfind)
    rw [← Table.key_of_find hfind, hmem]
  | reused _ _ _ _ _ _ _ happ => exact (hsame happ.rows.paymentIntents hi).elim
  | claimed => exact (hsame rfl hi).elim
  | recovered => exact (hsame rfl hi).elim
  | fenced k j fence =>
    cases (not_added_of_update { j with providerCreateFencedAt := fence } hnone rfl).symm.trans hi
  | handled k lookup create turn event j t _ _ _ _ _ _ _ hcommit =>
    cases (not_added_of_update t.work.intent hnone hcommit.paymentIntents).symm.trans hi
  | delivered _ _ _ j u _ _ _ _ hcommit =>
    cases (not_added_of_update u.intent hnone hcommit.paymentIntents).symm.trans hi

/-- The events of an intent. -/
def Db.eventsOf (db : Db) (id : Uuid) : List OutboxEventRow :=
  db.outboxEvents.filter fun e => decide (e.paymentIntentId = id)

/-- An intent is committed together with exactly one event, a CREATE. -/
lemma Created.first_event (hc : Consistent env w.db) {args : PaymentArgs} {t : BoundTransaction}
    {intent : PaymentIntentRow} {db' : Db} (h : Created args t intent w.db db') :
    ∃ e, db'.eventsOf intent.id = [e] ∧ e.eventType = .paymentCreateRequested ∧
      e.status = .pending := by
  obtain ⟨rows, hrows, heq⟩ := h.outboxEvents.rows
  obtain ⟨e, rfl, id, createdAt, rfl⟩ : ∃ e, rows = [e] ∧ Enqueued intent.id e _ := by
    cases hrows with
    | cons hx hrest =>
      cases hrest
      exact ⟨_, rfl, hx⟩
  have hbefore : w.db.eventsOf intent.id = [] := by
    refine List.filter_eq_nil_iff.mpr fun e he hid => ?_
    obtain ⟨i, hi, hie⟩ := hc.enqueued e he
    exact (not_insertConflicts h.free i hi).1 (hie.trans (of_decide_eq_true hid))
  refine ⟨outboxRow id intent.id ⟨.paymentCreateRequested,
    [("idempotency_key", .str args.idempotencyKey)], args.now⟩ createdAt, ?_, rfl, rfl⟩
  unfold Db.eventsOf at hbefore ⊢
  rw [heq, List.filter_append, hbefore]
  simp [outboxRow]

/-- The row that a request inserted is for its authorization. -/
lemma Created.authorizationId_of_new {args : PaymentArgs} {t : BoundTransaction}
    {intent i : PaymentIntentRow} {id : Uuid} {db' : Db} (h : Created args t intent w.db db')
    (hi : Intends env w.db args t intent) (hnone : w.db.getPaymentIntent id = none)
    (hnew : db'.getPaymentIntent id = some i) : i.authorizationId = args.authorizationId := by
  have hmem := Table.mem_of_find hnew
  rw [h.paymentIntents] at hmem
  obtain ⟨_, _, _, -, -, -, rfl⟩ := hi
  rcases List.mem_append.mp hmem with hmem | hmem
  · have hid := Table.key_of_find hnew
    exact absurd hid (Table.find_eq_none.mp hnone i hmem)
  · rw [List.mem_singleton.mp hmem]
    rfl

/-- A statement of a request that does not return a new intent changes no row. -/
lemma requestStep_rows (hreach : Reachable env w) {k : Nat}
    (h : World.step env w (.requestStep k) = some w')
    (hnot : ∀ call id, w'.calls[k]? = some call → call.phase ≠ .returned id true) :
    w'.db.authorizations = w.db.authorizations ∧ w'.db.paymentIntents = w.db.paymentIntents ∧
      w'.db.outboxEvents = w.db.outboxEvents := by
  simp only [World.step] at h
  split at h
  · cases h
  next call₀ hcall₀ =>
  split at h
  · cases h
  next p' db' hstep =>
  obtain rfl := Option.some.inj h
  have hp := hreach.inFlight.calls call₀ (List.mem_of_getElem? hcall₀)
  have hk := (List.getElem?_eq_some_iff.mp hcall₀).1
  have hafter := List.getElem?_set_self (a := { call₀ with phase := p' }) hk
  obtain ⟨args, p⟩ := call₀
  cases stepCall_cases hp hreach.consistent.paymentIntents hstep with
  | read => exact ⟨rfl, rfl, rfl⟩
  | created t intent => exact absurd rfl (hnot _ intent.id hafter)
  | reused _ _ _ _ _ happ =>
    exact ⟨happ.rows.authorizations, happ.rows.paymentIntents, happ.rows.outboxEvents⟩

/-- A request that is abandoned leaves the database as it is. -/
lemma abandonRequest_rows {k : Nat} (h : World.step env w (.abandonRequest k) = some w') :
    w'.db.authorizations = w.db.authorizations ∧ w'.db.paymentIntents = w.db.paymentIntents ∧
      w'.db.outboxEvents = w.db.outboxEvents := by
  simp only [World.step] at h
  split at h
  · cases h
  split at h
  · cases h
  · obtain rfl := Option.some.inj h
    exact ⟨rfl, rfl, rfl⟩

/-- In every committed state of every run: an idempotency key and an authorization have at most one
intent; an authorization is CONSUMED exactly if one intent references it; that intent carries the
bound columns of the authorization, for good; it was committed by a request, in the step that
consumed the authorization, together with exactly one CREATE event; and a request that is refused,
abandoned or returns an existing intent consumes nothing and adds no intent and no event. -/
theorem one_authorization_one_intent (h : World.exec env actions = some w) :
    (∀ i ∈ w.db.paymentIntents, ∀ j ∈ w.db.paymentIntents,
      i.idempotencyKey = j.idempotencyKey ∨ i.authorizationId = j.authorizationId → i = j) ∧
    (∀ a ∈ w.db.authorizations, a.status = .consumed ↔
      ∃! i, i ∈ w.db.paymentIntents ∧ i.authorizationId = a.authorizationId) ∧
    (∀ i ∈ w.db.paymentIntents,
      (∃ a ∈ w.db.authorizations, a.authorizationId = i.authorizationId ∧
        i.amountInr = a.boundAmountInr ∧ i.currency = a.boundCurrency ∧
        i.merchantId = a.boundMerchantId ∧ i.transactionDigest = a.transactionDigest) ∧
      (∃ before k after w₀ w₁ a e, actions = before ++ .requestStep k :: after ∧
        World.exec env before = some w₀ ∧ World.step env w₀ (.requestStep k) = some w₁ ∧
        w₀.db.getPaymentIntent i.id = none ∧ (∃ i₁, w₁.db.getPaymentIntent i.id = some i₁) ∧
        w₀.db.getAuthorization i.authorizationId = some a ∧ a.status = .active ∧
        w₁.db.eventsOf i.id = [e] ∧ e.eventType = .paymentCreateRequested ∧ e.status = .pending) ∧
      ∀ more w', Runs.run (World.step env) w more = some w' →
        ∃ i', w'.db.getPaymentIntent i.id = some i' ∧ i'.authorizationId = i.authorizationId ∧
          i'.amountInr = i.amountInr ∧ i'.currency = i.currency ∧ i'.merchantId = i.merchantId ∧
          i'.transactionDigest = i.transactionDigest) ∧
    ∀ before action after w₀ w₁ k, actions = before ++ action :: after →
      action = .requestStep k ∨ action = .abandonRequest k →
      World.exec env before = some w₀ → World.step env w₀ action = some w₁ →
      (∀ call id, w₁.calls[k]? = some call → call.phase ≠ .returned id true) →
      w₁.db.authorizations = w₀.db.authorizations ∧
        w₁.db.paymentIntents = w₀.db.paymentIntents ∧ w₁.db.outboxEvents = w₀.db.outboxEvents := by
  have hreach := exec_reachable h
  have hc := hreach.consistent
  refine ⟨fun i hi j hj hor => ?_, fun a ha => ⟨fun hs => ?_, ?_⟩, fun i hi => ⟨?_, ?_, ?_⟩, ?_⟩
  · rcases hor with hkey | hauth
    · exact hc.idempotencyKeys.eq_of_key hi hj hkey
    · exact hc.intentAuthorizations.eq_of_key hi hj hauth
  · obtain ⟨i, hi, hia⟩ := hc.consumed a ha hs
    exact ⟨i, ⟨hi, hia⟩, fun j hj => hc.intentAuthorizations.eq_of_key hj.1 hi (hj.2.trans hia.symm)⟩
  · rintro ⟨i, ⟨hi, hia⟩, -⟩
    obtain ⟨a', ha', hpays⟩ := hc.paying i hi
    rw [hc.authorizations.eq_of_key ha ha' (hia.symm.trans hpays.authorizationId)]
    exact hpays.status
  · obtain ⟨a, ha, hpays⟩ := hc.paying i hi
    exact ⟨a, ha, hpays.authorizationId.symm, hpays.amountInr, hpays.currency, hpays.merchantId,
      hpays.transactionDigest⟩
  · -- the step at which the intent appeared
    obtain ⟨before, action, after, w₀, w₁, hactions, hbefore, hstep, hafter, hnot, i₁, hi₁⟩ :=
      Runs.first_step (p := fun v : World => ∃ j, v.db.getPaymentIntent i.id = some j)
        (by rintro ⟨j, hj⟩; cases hj) h ⟨i, hc.mem_intent.mp hi⟩
    have hreach₀ := exec_reachable hbefore
    have hnone : w₀.db.getPaymentIntent i.id = none := by
      cases hget : w₀.db.getPaymentIntent i.id with
      | none => rfl
      | some j => exact absurd ⟨j, hget⟩ hnot
    have hchange := step_change hreach₀.consistent hreach₀.inFlight hstep
    obtain ⟨k, args, t, intent, rfl, hintends, hcreated, hid⟩ := hchange.new_intent hnone hi₁
    obtain ⟨e, hevents, htype, hstatus⟩ := hcreated.first_event hreach₀.consistent
    obtain ⟨a, ha, hactive, -⟩ := hcreated.authorization
    rw [hid] at hevents
    -- the row that is there now is a later version of the one the request inserted
    obtain ⟨i', hi', hmoves⟩ :=
      (run_grows (hreach₀.step hstep).1 hafter).paymentIntents _ _ hi₁
    obtain rfl := Option.some.inj ((hc.mem_intent.mp hi).symm.trans hi')
    have hauth : i.authorizationId = args.authorizationId := by
      rw [PaymentIntentRow.authorizationId_of_terms hmoves.terms]
      exact hcreated.authorizationId_of_new hintends hnone hi₁
    exact ⟨before, k, after, w₀, w₁, a, e, hactions, hbefore, hstep, hnone, ⟨i₁, hi₁⟩,
      by rwa [hauth], hactive, hevents, htype, hstatus⟩
  · intro more w' hrun
    obtain ⟨i', hi', hmoves⟩ := (run_grows hreach hrun).paymentIntents _ _ (hc.mem_intent.mp hi)
    have hterms := hmoves.terms
    exact ⟨i', hi', PaymentIntentRow.authorizationId_of_terms hterms,
      (congrArg PaymentIntentRow.amountInr hterms :), (congrArg PaymentIntentRow.currency hterms :),
      (congrArg PaymentIntentRow.merchantId hterms :),
      (congrArg PaymentIntentRow.transactionDigest hterms :)⟩
  · intro before action after w₀ w₁ k hactions haction hbefore hstep hnot
    rcases haction with rfl | rfl
    · exact requestStep_rows (exec_reachable hbefore) hstep hnot
    · exact abandonRequest_rows hstep

/-- The intent that a request has committed. -/
def CallPhase.newIntent : CallPhase → Option Uuid
  | .returned id true => some id
  | _ => none

/-- Two requests with different keys for one authorization. Both pass all checks; the first inserts
and commits, and the insert of the second fails. -/
def Sample.racing : List Action :=
  [.runMission Sample.request (Sample.quotes 50 fifty_nonneg),
   .openRequest (Sample.args "fake") false,
   .openRequest { Sample.args "fake" with idempotencyKey := "other" } false] ++
    [0, 1, 0, 1, 0, 1, 0, 0, 1].map .requestStep

lemma Sample.raced : ((World.exec Sample.env Sample.racing).bind fun w =>
    (World.step Sample.env w (.requestStep 1)).map fun w' =>
      (w'.calls.map fun c => c.phase.newIntent, w'.db.paymentIntents.map PaymentIntentRow.state)) =
    some ([some Sample.intentId, none], [.queued]) := by decide +kernel

/-- The request that loses the race changes no row, and the one intent is the winner's. -/
theorem one_authorization_one_intent_raced :
    ∃ w w', World.exec Sample.env Sample.racing = some w ∧
      World.step Sample.env w (.requestStep 1) = some w' ∧
      (w'.calls.map fun c => c.phase.newIntent) = [some Sample.intentId, none] ∧
      w'.db.paymentIntents.map PaymentIntentRow.state = [.queued] ∧
      (∀ a ∈ w'.db.authorizations, a.status = .consumed ↔
        ∃! i, i ∈ w'.db.paymentIntents ∧ i.authorizationId = a.authorizationId) ∧
      w'.db.authorizations = w.db.authorizations ∧
      w'.db.paymentIntents = w.db.paymentIntents ∧ w'.db.outboxEvents = w.db.outboxEvents := by
  obtain ⟨w, hw, hlast⟩ := Option.bind_eq_some_iff.mp Sample.raced
  obtain ⟨w', hstep, hresult⟩ := Option.map_eq_some_iff.mp hlast
  obtain ⟨hcalls, hstates⟩ := Prod.mk.inj hresult
  have hw' : World.exec Sample.env (Sample.racing ++ [.requestStep 1]) = some w' :=
    Runs.run_append.mpr ⟨w, hw, Runs.run_cons.mpr ⟨w', hstep, rfl⟩⟩
  have hone := one_authorization_one_intent hw'
  refine ⟨w, w', hw, hstep, hcalls, hstates, hone.2.1,
    hone.2.2.2 Sample.racing (.requestStep 1) [] w w' 1 rfl (.inl rfl) hw hstep ?_⟩
  intro call id hcall hphase
  have hnone : (w'.calls.map fun c => c.phase.newIntent)[1]? = some (some id) := by
    rw [List.getElem?_map, hcall, Option.map_some, hphase]
    rfl
  rw [hcalls] at hnone
  cases hnone

end Pactra
