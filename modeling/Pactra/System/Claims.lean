import Pactra.System.Outbox
import Pactra.System.Turns

/-!
# Claims

A claim moves an event into IN_PROGRESS, pushes its time forward by the lease, and counts one
attempt. Between two claims of one event, either the lease lapsed or a turn put the event back.

## Main results

- `claim_step` — what a claiming step does
- `claims_bounded` — the attempts stay within the maximum, as long as no lapsed event is past it and
  no turn puts an event back that was claimed since
- `claims_exclusive` — claims of one event are separated by a lapsed lease or a reschedule, and all
  of them are counted
-/

namespace Pactra

open PaymentExecutor

variable {env : Env} {actions : List Action} {w w' : World}

-- ════════════════════════════════════════════════════════════════════════
-- One claim
-- ════════════════════════════════════════════════════════════════════════

/-- The event that a turn has just claimed. -/
def TurnPhase.claimedEvent : TurnPhase → Option Uuid
  | .claimed id => some id
  | _ => none

/-- The event that a claiming step claimed. -/
def World.claimOf (action : Action) (w' : World) : Option Uuid := do
  let k ← World.Action.claims action
  let turn ← w'.turns[k]?
  turn.phase.claimedEvent

/-- A step that claimed an event: the turn that did, and the row as it was. -/
structure Claims (w : World) (action : Action) (w' : World) (k : Nat) (turn : WorkerTurn)
    (row : OutboxEventRow) : Prop where
  haction : World.Action.claims action = some k
  hturn : w.turns[k]? = some turn
  hrow : w.db.getOutboxEvent row.id = some row
  hdue : due turn.now row = true
  hdb : w'.db = w.db.updateOutboxEvent row.id (claimedRow turn.workerId (turn.now + turn.lease))

lemma claimOf_set {action : Action} {k : Nat} {turn : WorkerTurn} (p : TurnPhase)
    (haction : World.Action.claims action = some k) (hturn : w.turns[k]? = some turn)
    (h : w'.turns = w.turns.set k { turn with phase := p }) :
    World.claimOf action w' = p.claimedEvent := by
  have hk := (List.getElem?_eq_some_iff.mp hturn).1
  simp [World.claimOf, haction, h, List.getElem?_set_self hk]

/-- A claiming step claims an event that is due, or leaves the database as it is. -/
theorem claim_step (hreach : Reachable env w) {action : Action}
    (h : World.step env w action = some w') :
    (World.claimOf action w' = none ∧ (World.Action.claims action ≠ none → w'.db = w.db)) ∨
      ∃ k turn row, World.claimOf action w' = some row.id ∧ Claims w action w' k turn row := by
  cases haction : World.Action.claims action with
  | none =>
    left
    refine ⟨?_, fun hne => absurd rfl hne⟩
    simp [World.claimOf, haction]
  | some k =>
    cases action with
    | claimPostgres k' locked =>
      obtain rfl := Option.some.inj haction
      simp only [World.step, World.Action.turn] at h
      split at h
      · cases h
      next turn hturn =>
      simp only [World.stepTurn] at h
      split at h
      · split at h
        · obtain rfl := Option.some.inj h
          exact .inl ⟨claimOf_set .ended rfl hturn rfl, fun _ => rfl⟩
        · next eventId db' hclaim =>
          obtain rfl := Option.some.inj h
          unfold claimPostgres at hclaim
          split at hclaim
          · cases hclaim
          next row hrow =>
          obtain ⟨rfl, rfl⟩ := Prod.mk.inj (Option.some.inj hclaim)
          obtain ⟨hmem, hdue⟩ := mem_of_nextDue hrow
          have hget := (Table.mem_iff_find hreach.consistent.outboxEvents).mp hmem
          exact .inr ⟨_, turn, row, claimOf_set (.claimed row.id) rfl hturn rfl, rfl, hturn, hget,
            hdue, rfl⟩
      · cases h
    | claimConditional k' =>
      obtain rfl := Option.some.inj haction
      simp only [World.step, World.Action.turn] at h
      split at h
      · cases h
      next turn hturn =>
      have hsound := hreach.inFlight.turns turn (List.mem_of_getElem? hturn)
      simp only [World.stepTurn] at h
      split at h
      · next eventId status availableAt hphase =>
        rw [hphase] at hsound
        split at h
        · obtain rfl := Option.some.inj h
          exact .inl ⟨claimOf_set .ended rfl hturn rfl, fun _ => rfl⟩
        · next db' hclaim =>
          obtain rfl := Option.some.inj h
          unfold claimConditional at hclaim
          split at hclaim
          · next row hrow =>
            split at hclaim
            · next hseen =>
              obtain rfl := Option.some.inj hclaim
              obtain rfl := Table.key_of_find hrow
              have hdue : due turn.now row = true := by
                rw [due_iff, hseen.1, hseen.2]
                exact hsound
              exact .inr ⟨_, turn, row, claimOf_set (.claimed row.id) rfl hturn rfl, rfl, hturn,
                hrow, hdue, rfl⟩
            · cases hclaim
          · cases hclaim
      · cases h
    | _ => cases haction

-- ════════════════════════════════════════════════════════════════════════
-- Attempts
-- ════════════════════════════════════════════════════════════════════════

/-- How many steps of a run claimed an event. -/
def claimCount (env : Env) (id : Uuid) : World → List Action → Nat
  | _, [] => 0
  | w, action :: rest =>
    match World.step env w action with
    | none => 0
    | some w' => (if World.claimOf action w' = some id then 1 else 0) + claimCount env id w' rest

/-- The rows after a claim. -/
lemma Claims.lookup {action : Action} {k : Nat} {turn : WorkerTurn} {row : OutboxEventRow}
    (h : Claims w action w' k turn row) (id : Uuid) :
    w'.db.getOutboxEvent id = if id = row.id then
      some (claimedRow turn.workerId (turn.now + turn.lease) row) else w.db.getOutboxEvent id := by
  rw [h.hdb, getOutboxEvent_update w.db row.id id
    (f := claimedRow turn.workerId (turn.now + turn.lease)) (fun _ he => he)]
  split
  · next heq =>
    rw [heq, h.hrow]
    rfl
  · rfl

/-- A step counts an attempt exactly when it claims the event. -/
lemma step_attempts (hreach : Reachable env w) {action : Action}
    (h : World.step env w action = some w') {id : Uuid} {e e' : OutboxEventRow}
    (he : w.db.getOutboxEvent id = some e) (he' : w'.db.getOutboxEvent id = some e') :
    e'.attempts = e.attempts + if World.claimOf action w' = some id then 1 else 0 := by
  rcases claim_step hreach h with ⟨hnone, hkept⟩ | ⟨k, turn, row, hsome, hclaims⟩
  · rw [hnone]
    obtain ⟨e'', he'', hevent⟩ := (step_outbox hreach h).old id e he
    obtain rfl := Option.some.inj (he'.symm.trans he'')
    cases hevent with
    | kept => simp
    | claimed k turn haction =>
      -- a claiming step that claimed nothing left the row as it was
      rw [hkept (by simp [haction]), he] at he'
      have hsame := congrArg OutboxEventRow.attempts (Option.some.inj he')
      simp only [claimedRow] at hsame
      omega
    | written => simp [flushEvent]
  · rw [hsome]
    rw [hclaims.lookup] at he'
    split at he'
    · next hid =>
      subst hid
      obtain rfl := Option.some.inj (he.symm.trans hclaims.hrow)
      obtain rfl := Option.some.inj he'
      simp [claimedRow]
    · next hid =>
      obtain rfl := Option.some.inj (he.symm.trans he')
      simp [Ne.symm hid]

/-- An event that appears was not claimed by the step that added it. -/
lemma claimOf_new (hreach : Reachable env w) {action : Action}
    (h : World.step env w action = some w') {id : Uuid} (he : w.db.getOutboxEvent id = none) :
    World.claimOf action w' ≠ some id := by
  intro hclaim
  rcases claim_step hreach h with ⟨hnone, -⟩ | ⟨k, turn, row, hsome, hclaims⟩
  · cases hnone.symm.trans hclaim
  · obtain rfl := Option.some.inj (hsome.symm.trans hclaim)
    cases he.symm.trans hclaims.hrow

/-- The attempts that a run adds to an event are its claims. -/
lemma run_attempts (hreach : Reachable env w) {more : List Action}
    (hrun : Runs.run (World.step env) w more = some w') {id : Uuid} {e' : OutboxEventRow}
    (he' : w'.db.getOutboxEvent id = some e') :
    e'.attempts = ((w.db.getOutboxEvent id).map OutboxEventRow.attempts).getD 0 +
      claimCount env id w more := by
  induction more generalizing w with
  | nil =>
    obtain rfl := Option.some.inj hrun
    simp [he', claimCount]
  | cons action rest ih =>
    obtain ⟨w₁, hstep, hrest⟩ := Runs.run_cons.mp hrun
    have hreach₁ := (hreach.step hstep).1
    rw [ih hreach₁ hrest, claimCount, hstep]
    dsimp only
    cases he : w.db.getOutboxEvent id with
    | none =>
      rw [if_neg (claimOf_new hreach hstep he)]
      cases he₁ : w₁.db.getOutboxEvent id with
      | none => simp
      | some e₁ =>
        have hid : e₁.id = id := Table.key_of_find he₁
        obtain ⟨-, hzero, -⟩ := (step_outbox hreach hstep).new e₁ (Table.mem_of_find he₁)
          (by rwa [hid])
        simp [hzero]
    | some e =>
      obtain ⟨e₁, hfind, -⟩ := (step_outbox hreach hstep).old id e he
      have he₁ : w₁.db.getOutboxEvent id = some e₁ := hfind
      simp only [he₁, Option.map_some, Option.getD_some, step_attempts hreach hstep he he₁]
      split
      · push_cast
        omega
      · push_cast
        omega

/-- Every attempt of an event is one of its claims. -/
lemma exec_attempts (h : World.exec env actions = some w) {e : OutboxEventRow}
    (he : e ∈ w.db.outboxEvents) : e.attempts = claimCount env e.id World.init actions := by
  have hget := (Table.mem_iff_find (exec_reachable h).consistent.outboxEvents).mp he
  have := run_attempts (reachable_init env) h hget
  simpa [World.init, Db.empty, Db.getOutboxEvent, Table.find] using this

/-- What every step that meets a condition keeps true of each outbox row, and what holds of new
rows, holds of every row after every run whose steps all meet the condition. -/
lemma run_events {guard : World → Action → Prop} {p : OutboxEventRow → Prop}
    (hfresh : ∀ e, Fresh e → p e)
    (hstep : ∀ {w : World} {action : Action} {e e' : OutboxEventRow}, Reachable env w →
      w.commits env action = true → guard w action → w.db.getOutboxEvent e.id = some e →
      EventStep w action e e' → p e → p e')
    (h : World.exec env actions = some w)
    (hguard : Runs.Along (World.step env) guard World.init actions) :
    ∀ e ∈ w.db.outboxEvents, p e := by
  have hstart : Reachable env World.init ∧ ∀ e ∈ World.init.db.outboxEvents, p e :=
    ⟨reachable_init env, fun e he => by cases he⟩
  refine (Runs.invariant_along (I := fun w : World =>
    Reachable env w ∧ ∀ e ∈ w.db.outboxEvents, p e) ?_ hstart hguard h).2
  intro w action w' ⟨hreach, hp⟩ hg hs
  have hreach' := (hreach.step hs).1
  refine ⟨hreach', fun e' he' => ?_⟩
  cases he : w.db.getOutboxEvent e'.id with
  | none => exact hfresh e' ((step_outbox hreach hs).new e' he' he)
  | some e =>
    have hpe : p e := hp e (Table.mem_of_find he)
    obtain ⟨e'', he'', hevent⟩ := step_event hreach hs he
    obtain rfl := Option.some.inj (((Table.mem_iff_find hreach'.consistent.outboxEvents).mp he').symm.trans he'')
    rcases hevent with rfl | ⟨hcommits, hevent⟩
    · exact hpe
    · exact hstep hreach hcommits hg (by rwa [Table.key_of_find he]) hevent hpe

/-- A turn that holds a version of an outbox row. -/
lemma InFlight.holds (hf : InFlight env w) {k : Nat} {turn : WorkerTurn} {e : OutboxEventRow}
    (hturn : w.turns[k]? = some turn) (h : turn.phase.holding = some e) : HoldsEvent w.db e := by
  have hsound := hf.turns turn (List.mem_of_getElem? hturn)
  generalize turn.phase = p at h hsound
  cases p with
  | loaded | reconcileFencing | fenced | recovering =>
    obtain rfl := Option.some.inj h
    exact hsound
  | fencing | reconcileFenced =>
    obtain rfl := Option.some.inj h
    exact hsound.1
  | _ => cases h

-- ════════════════════════════════════════════════════════════════════════
-- The bound on attempts
-- ════════════════════════════════════════════════════════════════════════

/-- A claim is made while no event whose attempts are used up is past its lease, and an event is
put back by a turn that knows all its claims. -/
def KeepsCount (env : Env) (w : World) (action : Action) : Prop :=
  (∀ k ∈ World.Action.claims action, ∀ turn ∈ w.turns[k]?, ∀ e ∈ w.db.outboxEvents,
    e.status = .inProgress → due turn.now e = true → e.attempts < e.maxAttempts) ∧
  ∀ held ∈ w.writesBack env action, held.2.attempts = held.1.attempts

instance (w : World) (action : Action) : Decidable (KeepsCount env w action) := by
  unfold KeepsCount
  infer_instance

/-- An event within its budget: it waits only while it may still be claimed. -/
def OutboxEventRow.WithinAttempts (e : OutboxEventRow) : Prop :=
  e.attempts ≤ e.maxAttempts ∧ (e.status = .pending → e.attempts < e.maxAttempts)

lemma EventStep.withinAttempts {action : Action} {e e' : OutboxEventRow} (hreach : Reachable env w)
    (hcommits : w.commits env action = true) (hguard : KeepsCount env w action)
    (he : w.db.getOutboxEvent e.id = some e)
    (h : EventStep w action e e') (hw : e.WithinAttempts) : e'.WithinAttempts := by
  cases h with
  | kept => exact hw
  | claimed k turn haction hturn hdue =>
    refine ⟨?_, by simp [claimedRow]⟩
    have hlt : e.attempts < e.maxAttempts := by
      rcases (due_iff.mp hdue).1 with hs | hs
      · exact hw.2 hs
      · exact hguard.1 k haction turn hturn e (Table.mem_of_find he) hs hdue
    simp only [claimedRow]
    omega
  | written k turn loaded updated haction hturn hholding hid hupdated =>
    refine ⟨hw.1, fun hs => ?_⟩
    have hcount : e.attempts = loaded.attempts :=
      hguard.2 _ (writesBack_eq hcommits haction hturn hholding (by rwa [hid]))
    obtain ⟨row, hrow, hterms⟩ := hreach.inFlight.holds hturn hholding
    rw [hid, he] at hrow
    obtain rfl := Option.some.inj hrow
    have hmax : e.maxAttempts = loaded.maxAttempts := (congrArg OutboxEventRow.maxAttempts hterms :)
    have hs' : changedColumn loaded.status updated.status e.status = .pending := hs
    unfold changedColumn at hs'
    split at hs'
    · exact hw.2 hs'
    · rcases hupdated with rfl | ⟨reason, rfl⟩
      · cases hs'
      · rw [rescheduled_status] at hs'
        split at hs'
        · cases hs'
        · show e.attempts < e.maxAttempts
          omega

/-- No event is claimed more often than its maximum, in every run in which no event whose attempts
are used up is past its lease when a worker claims, and every event is put back by a turn that knows
all its claims. -/
theorem claims_bounded (h : World.exec env actions = some w)
    (hguard : Runs.Along (World.step env) (KeepsCount env) World.init actions) :
    ∀ e ∈ w.db.outboxEvents, (claimCount env e.id World.init actions : Int) ≤ e.maxAttempts ∧
      e.attempts = claimCount env e.id World.init actions := by
  intro e he
  have hwithin : e.WithinAttempts := by
    refine run_events (p := OutboxEventRow.WithinAttempts) ?_ ?_ h hguard e he
    · rintro e ⟨hs, ha, hm⟩
      simp [OutboxEventRow.WithinAttempts, ha, hm, defaultMaxAttempts]
    · intro v action e₁ e₂ hreach hcommits hg hget hevent hw
      exact hevent.withinAttempts hreach hcommits hg hget hw
  have hcount := exec_attempts h he
  exact ⟨hcount ▸ hwithin.1, hcount⟩

/-- A worker that crashes after each claim, with every lease lapsing. -/
def Sample.crashing : List Action :=
  Sample.order "fake" ++ (List.range 9).flatMap fun n =>
    [.startTurn "worker" "fake" (60 * n) 60, .claimPostgres n [], .crash n]

lemma Sample.crashing_events : (World.exec Sample.env Sample.crashing).map (fun w =>
    w.db.outboxEvents.map fun e => (e.attempts, e.maxAttempts)) = some [(9, 8)] := by
  decide +kernel

/-- The event is claimed nine times, with a maximum of eight. -/
theorem claims_unbounded : ∃ w e, World.exec Sample.env Sample.crashing = some w ∧
    e ∈ w.db.outboxEvents ∧ e.maxAttempts = 8 ∧
    claimCount Sample.env e.id World.init Sample.crashing = 9 := by
  obtain ⟨w, hw, hrows⟩ := Option.map_eq_some_iff.mp Sample.crashing_events
  have hmem : ((9, 8) : Int × Int) ∈ w.db.outboxEvents.map fun e => (e.attempts, e.maxAttempts) := by
    rw [hrows]
    exact List.mem_singleton_self _
  obtain ⟨e, he, heq⟩ := List.mem_map.mp hmem
  obtain ⟨hattempts, hmax⟩ := Prod.mk.inj heq
  refine ⟨w, e, hw, he, hmax, ?_⟩
  have := exec_attempts hw he
  omega

lemma Sample.timedOut_keepsCount :
    decide (Runs.Along (World.step Sample.env) (KeepsCount Sample.env) World.init Sample.timedOut) = true := by
  decide +kernel

theorem claims_bounded_timedOut : ∃ w, World.exec Sample.env Sample.timedOut = some w ∧
    ∀ e ∈ w.db.outboxEvents,
      (claimCount Sample.env e.id World.init Sample.timedOut : Int) ≤ e.maxAttempts ∧
        e.attempts = claimCount Sample.env e.id World.init Sample.timedOut := by
  obtain ⟨w, hw, -⟩ := Option.map_eq_some_iff.mp Sample.timedOut_events
  exact ⟨w, hw, claims_bounded hw (of_decide_eq_true Sample.timedOut_keepsCount)⟩

-- ════════════════════════════════════════════════════════════════════════
-- Exclusion
-- ════════════════════════════════════════════════════════════════════════

/-- A step in which a turn puts an event back: it writes the rescheduled version of the row it
holds. -/
def Reschedules (id : Uuid) (w : World) (action : Action) (w' : World) : Prop :=
  ∃ k turn loaded reason row, World.Action.writes action = some k ∧ w.turns[k]? = some turn ∧
    turn.phase.holding = some loaded ∧ loaded.id = id ∧ w.db.getOutboxEvent id = some row ∧
    w'.db.getOutboxEvent id = some (flushEvent loaded (rescheduled reason turn.now loaded) row)

/-- The leases of all turns are positive. -/
def PositiveLeases (w : World) : Prop := ∀ t ∈ w.turns, 0 < t.lease

lemma PositiveLeases.step {action : Action} (hp : PositiveLeases w)
    (haction : ∀ workerId provider now lease, action = .startTurn workerId provider now lease →
      0 < lease)
    (h : World.step env w action = some w') : PositiveLeases w' := by
  intro t ht
  rcases step_turns h with ⟨-, heq⟩ | ⟨t', -, hstart, heq⟩ | ⟨k, turn, p, -, hturn, heq, -⟩
  all_goals rw [heq] at ht
  · exact hp t ht
  · rcases List.mem_append.mp ht with ht | ht
    · exact hp t ht
    · obtain rfl := List.mem_singleton.mp ht
      exact haction _ _ _ _ hstart
  · rcases List.mem_or_eq_of_mem_set ht with ht | rfl
    · exact hp t ht
    · exact hp turn (List.mem_of_getElem? hturn)

/-- An event that cannot be claimed before a given time. -/
def HeldUntil (leaseUntil : Datetime) (e : OutboxEventRow) : Prop :=
  e.status ≠ .pending ∧ (e.status = .inProgress → leaseUntil ≤ e.availableAt)

/-- A step that does not put the event back keeps it held. -/
lemma EventStep.heldUntil {action : Action} {id : Uuid} {leaseUntil : Datetime} {e e' : OutboxEventRow}
    (hp : PositiveLeases w) (he : w.db.getOutboxEvent id = some e)
    (he' : w'.db.getOutboxEvent id = some e') (h : EventStep w action e e')
    (hheld : HeldUntil leaseUntil e) : HeldUntil leaseUntil e' ∨ Reschedules id w action w' := by
  cases h with
  | kept => exact .inl hheld
  | claimed k turn haction hturn hdue =>
    left
    obtain ⟨hs | hs, hpast⟩ := due_iff.mp hdue
    · exact absurd hs hheld.1
    · have hlease := hp turn (List.mem_of_getElem? hturn)
      refine ⟨by simp [claimedRow], fun _ => ?_⟩
      calc leaseUntil ≤ e.availableAt := hheld.2 hs
        _ ≤ turn.now := hpast
        _ ≤ turn.now + turn.lease := Int.le_add_of_nonneg_right (Int.le_of_lt hlease)
  | written k turn loaded updated haction hturn hholding hid hupdated =>
    rcases hupdated with rfl | ⟨reason, rfl⟩
    · -- a completed event is not offered again
      left
      refine ⟨?_, ?_⟩
      · show changedColumn _ _ _ ≠ _
        unfold changedColumn
        split
        · exact hheld.1
        · simp [completed]
      · show changedColumn _ _ _ = _ → _ ≤ changedColumn _ _ _
        intro hs
        have htime : changedColumn loaded.availableAt (completed turn.now loaded).availableAt
            e.availableAt = e.availableAt := if_pos rfl
        rw [htime]
        unfold changedColumn at hs
        split at hs
        · exact hheld.2 hs
        · cases hs
    · right
      have hkey : e.id = id := Table.key_of_find he
      exact ⟨k, turn, loaded, reason, e, haction, hturn, hholding, hid.trans hkey, he, he'⟩

lemma exec_positiveLeases (hlease : ∀ workerId provider now lease,
      .startTurn workerId provider now lease ∈ actions → 0 < lease)
    (h : World.exec env actions = some w) : PositiveLeases w := by
  have hstep : ∀ v, ∀ a ∈ actions, ∀ v', PositiveLeases v → World.step env v a = some v' →
      PositiveLeases v' ∨ False := by
    intro v a ha v' hp hs
    refine .inl (hp.step (fun workerId provider now lease heq => ?_) hs)
    exact hlease workerId provider now lease (heq ▸ ha)
  rcases Runs.invariant_unless hstep (fun t ht => by cases ht) h with hp | ⟨_, _, _, _, _, _, _, _, hf⟩
  · exact hp
  · exact hf.elim

/-- Between two claims of one event, the first lease lapses or a turn puts the event back. -/
lemma claims_separated {between : List Action} {first second : Action} {w₀ w₁ w₂ w₃ : World}
    {k₁ k₂ : Nat} {turn₁ turn₂ : WorkerTurn} {row₁ row₂ : OutboxEventRow}
    (hreach : Reachable env w₁) (hp : PositiveLeases w₁)
    (hlease : ∀ workerId provider now lease,
      .startTurn workerId provider now lease ∈ between → 0 < lease)
    (hfirst : Claims w₀ first w₁ k₁ turn₁ row₁)
    (hbetween : Runs.run (World.step env) w₁ between = some w₂)
    (hsecond : Claims w₂ second w₃ k₂ turn₂ row₂) (hid : row₂.id = row₁.id) :
    turn₁.now + turn₁.lease ≤ turn₂.now ∨
      ∃ before a after v v', between = before ++ a :: after ∧
        Runs.run (World.step env) w₁ before = some v ∧ World.step env v a = some v' ∧
        Reschedules row₁.id v a v' := by
  have hstart : ∃ e, w₁.db.getOutboxEvent row₁.id = some e ∧
      HeldUntil (turn₁.now + turn₁.lease) e := by
    refine ⟨claimedRow turn₁.workerId (turn₁.now + turn₁.lease) row₁, ?_, by simp [claimedRow],
      fun _ => le_refl _⟩
    rw [hfirst.lookup, if_pos rfl]
  have hstep : ∀ v, ∀ a ∈ between, ∀ v', (Reachable env v ∧ PositiveLeases v ∧
        ∃ e, v.db.getOutboxEvent row₁.id = some e ∧ HeldUntil (turn₁.now + turn₁.lease) e) →
      World.step env v a = some v' →
      (Reachable env v' ∧ PositiveLeases v' ∧
        ∃ e, v'.db.getOutboxEvent row₁.id = some e ∧ HeldUntil (turn₁.now + turn₁.lease) e) ∨
      Reschedules row₁.id v a v' := by
    rintro v a ha v' ⟨hv, hpv, e, he, hheld⟩ hs
    obtain ⟨e', he', hevent⟩ := (step_outbox hv hs).old _ _ he
    rcases hevent.heldUntil hpv he he' hheld with hheld' | hresched
    · refine .inl ⟨(hv.step hs).1, hpv.step (fun workerId provider now lease heq => ?_) hs, e', he',
        hheld'⟩
      exact hlease workerId provider now lease (heq ▸ ha)
    · exact .inr hresched
  rcases Runs.invariant_unless hstep ⟨hreach, hp, hstart⟩ hbetween with ⟨-, -, e, he, hheld⟩ | hsome
  · left
    rw [← hid, hsecond.hrow] at he
    obtain rfl := Option.some.inj he
    obtain ⟨hs | hs, hpast⟩ := due_iff.mp hsecond.hdue
    · exact absurd hs hheld.1
    · exact le_trans (hheld.2 hs) hpast
  · exact .inr hsome

/-- In every run with positive leases: the attempts of an event are its successful claims; a claim
takes an event that is PENDING and scheduled, or IN_PROGRESS past its lease, and raises its attempts
by one; and any two claims of one event are separated by the lapse of the first lease or by a turn
that puts the event back. -/
theorem claims_exclusive (h : World.exec env actions = some w)
    (hlease : ∀ workerId provider now lease,
      .startTurn workerId provider now lease ∈ actions → 0 < lease) :
    (∀ e ∈ w.db.outboxEvents, e.attempts = claimCount env e.id World.init actions) ∧
    (∀ before action after w₀ w₁ id, actions = before ++ action :: after →
      World.exec env before = some w₀ → World.step env w₀ action = some w₁ →
      World.claimOf action w₁ = some id →
      ∃ k turn row row', World.Action.claims action = some k ∧ w₀.turns[k]? = some turn ∧
        w₀.db.getOutboxEvent id = some row ∧
        (row.status = .pending ∨ row.status = .inProgress) ∧ row.availableAt ≤ turn.now ∧
        w₁.db.getOutboxEvent id = some row' ∧ row'.attempts = row.attempts + 1 ∧
        row'.status = .inProgress ∧ row'.availableAt = turn.now + turn.lease) ∧
    ∀ before first between second after w₀ w₁ w₂ w₃ id,
      actions = before ++ first :: (between ++ second :: after) →
      World.exec env before = some w₀ → World.step env w₀ first = some w₁ →
      World.claimOf first w₁ = some id → Runs.run (World.step env) w₁ between = some w₂ →
      World.step env w₂ second = some w₃ → World.claimOf second w₃ = some id →
      (∃ k₁ turn₁ k₂ turn₂, World.Action.claims first = some k₁ ∧ w₀.turns[k₁]? = some turn₁ ∧
        World.Action.claims second = some k₂ ∧ w₂.turns[k₂]? = some turn₂ ∧
        turn₁.now + turn₁.lease ≤ turn₂.now) ∨
      ∃ between₁ a between₂ v v', between = between₁ ++ a :: between₂ ∧
        Runs.run (World.step env) w₁ between₁ = some v ∧ World.step env v a = some v' ∧
        Reschedules id v a v' := by
  refine ⟨fun e he => exec_attempts h he, ?_, ?_⟩
  · intro before action after w₀ w₁ id hactions hbefore hstep hclaim
    rcases claim_step (exec_reachable hbefore) hstep with ⟨hnone, -⟩ | ⟨k, turn, row, hsome, hclaims⟩
    · cases hnone.symm.trans hclaim
    · obtain rfl := Option.some.inj (hsome.symm.trans hclaim)
      obtain ⟨hstatus, hpast⟩ := due_iff.mp hclaims.hdue
      exact ⟨k, turn, row, _, hclaims.haction, hclaims.hturn, hclaims.hrow, hstatus, hpast,
        (hclaims.lookup row.id).trans (if_pos rfl), rfl, rfl, rfl⟩
  · intro before first between second after w₀ w₁ w₂ w₃ id hactions hbefore hfirst hclaim₁ hbetween
      hsecond hclaim₂
    have hreach₀ := exec_reachable hbefore
    have hreach₁ := (hreach₀.step hfirst).1
    have hreach₂ := run_reachable hreach₁ hbetween
    have hlease₀ : PositiveLeases w₀ := by
      refine exec_positiveLeases (fun workerId provider now lease hmem => ?_) hbefore
      exact hlease workerId provider now lease (by simp [hactions, hmem])
    have hlease₁ : PositiveLeases w₁ := by
      refine hlease₀.step (fun workerId provider now lease heq => ?_) hfirst
      exact hlease workerId provider now lease (by simp [hactions, heq])
    have hleases : ∀ workerId provider now lease,
        .startTurn workerId provider now lease ∈ between → 0 < lease := by
      intro workerId provider now lease hmem
      exact hlease workerId provider now lease (by simp [hactions, hmem])
    rcases claim_step hreach₀ hfirst with ⟨hnone, -⟩ | ⟨k₁, turn₁, row₁, hsome₁, hclaims₁⟩
    · cases hnone.symm.trans hclaim₁
    rcases claim_step hreach₂ hsecond with ⟨hnone, -⟩ | ⟨k₂, turn₂, row₂, hsome₂, hclaims₂⟩
    · cases hnone.symm.trans hclaim₂
    obtain rfl := Option.some.inj (hsome₁.symm.trans hclaim₁)
    have hid : row₂.id = row₁.id := Option.some.inj (hsome₂.symm.trans hclaim₂)
    rcases claims_separated hreach₁ hlease₁ hleases hclaims₁ hbetween hclaims₂ hid with
      hlapsed | hresched
    · exact .inl ⟨k₁, turn₁, k₂, turn₂, hclaims₁.haction, hclaims₁.hturn, hclaims₂.haction,
        hclaims₂.hturn, hlapsed⟩
    · exact .inr hresched

lemma Sample.crashing_leases {workerId provider : String} {now : Datetime} {lease : Int}
    (h : .startTurn workerId provider now lease ∈ Sample.crashing) : 0 < lease := by
  simp only [Sample.crashing, Sample.order, List.mem_append, List.mem_flatMap, List.mem_cons,
    List.mem_replicate, reduceCtorEq, Action.startTurn.injEq, List.not_mem_nil, or_false, false_or,
    and_false] at h
  obtain ⟨n, -, -, -, -, rfl⟩ := h
  decide

theorem claims_exclusive_crashing : ∃ w, World.exec Sample.env Sample.crashing = some w ∧
    w.db.outboxEvents.map (fun e => (e.attempts, e.maxAttempts)) = [(9, 8)] ∧
    ∀ e ∈ w.db.outboxEvents, e.attempts = claimCount Sample.env e.id World.init Sample.crashing := by
  obtain ⟨w, hw, hrows⟩ := Option.map_eq_some_iff.mp Sample.crashing_events
  refine ⟨w, hw, hrows, (claims_exclusive hw fun _ _ _ _ hmem => ?_).1⟩
  exact Sample.crashing_leases hmem

end Pactra
