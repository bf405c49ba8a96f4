import Pactra.System.Turns

/-!
# The create fence

A provider that does not promise idempotent creates is asked to create a payment at most once per
intent. The permission to do so is the fence column: the turn whose conditional update moved it
away from NULL may create once, and the column never returns to NULL. The invariant behind this
counts, for one intent, the creates that were made and the turns that still hold the permission:
together they are at most one, and none as long as the column is NULL.

## Main results

- `FenceBudget.step` — every step keeps the budget
- `create_at_most_once` — the guarantee, over every run
-/

namespace Pactra

open PaymentExecutor

variable {env : Env} {actions : List Action} {w w' : World}

-- ════════════════════════════════════════════════════════════════════════
-- The budget
-- ════════════════════════════════════════════════════════════════════════

/-- Whether an observation is a create for an intent. -/
def Observation.creates (id : Uuid) : Observation → Bool
  | .createPayment _ id' _ => decide (id' = id)
  | _ => false

/-- Whether a turn holds the create permission of an intent. -/
def WorkerTurn.permitted (id : Uuid) (turn : WorkerTurn) : Bool :=
  match turn.phase with
  | .fenced e true => decide (e.paymentIntentId = id)
  | _ => false

/-- How many creates were made for an intent. -/
def World.creates (w : World) (id : Uuid) : Nat := w.trace.countP (Observation.creates id)

/-- How many turns hold the create permission of an intent. -/
def World.permits (w : World) (id : Uuid) : Nat := w.turns.countP (WorkerTurn.permitted id)

/-- The creates that were made or are still permitted, for one intent of a provider that is not
idempotent. -/
def WithinBudget (env : Env) (w : World) (i : PaymentIntentRow) : Prop :=
  env.createRetriesAreIdempotent i.provider = false →
    w.creates i.id + w.permits i.id ≤ if i.providerCreateFencedAt = none then 0 else 1

/-- The invariant of the create fence: creates are for known intents, each intent is within its
budget, and whoever holds or used the permission committed the fence. -/
structure FenceBudget (env : Env) (w : World) : Prop where
  known : ∀ k id request, .createPayment k id request ∈ w.trace →
    ∃ i, w.db.getPaymentIntent id = some i
  budget : ∀ i ∈ w.db.paymentIntents, WithinBudget env w i
  holders : ∀ k turn e, w.turns[k]? = some turn → turn.phase = .fenced e true →
    .fenceCommitted k e.paymentIntentId true ∈ w.trace
  committed : ∀ k id request i, .createPayment k id request ∈ w.trace →
    w.db.getPaymentIntent id = some i → env.createRetriesAreIdempotent i.provider = false →
    .fenceCommitted k id true ∈ w.trace

/-- An intent that some turn may create for exists. -/
lemma exists_of_permits (hreach : Reachable env w) {id : Uuid} (h : 0 < w.permits id) :
    ∃ i, w.db.getPaymentIntent id = some i := by
  obtain ⟨turn, hmem, hp⟩ := List.countP_pos_iff.mp h
  have hsound := hreach.inFlight.turns turn hmem
  unfold WorkerTurn.permitted at hp
  split at hp
  · next e hphase =>
    rw [hphase] at hsound
    obtain ⟨e', he', hterms⟩ := hsound
    obtain ⟨i, hi, hie⟩ := hreach.consistent.enqueued e' (Table.mem_of_find he')
    refine ⟨i, ?_⟩
    rw [← of_decide_eq_true hp, ← OutboxEventRow.paymentIntentId_of_terms hterms, ← hie]
    exact hreach.consistent.mem_intent.mp hi
  · cases hp

lemma exists_of_creates (h : FenceBudget env w) {id : Uuid} (hc : 0 < w.creates id) :
    ∃ i, w.db.getPaymentIntent id = some i := by
  obtain ⟨o, hmem, ho⟩ := List.countP_pos_iff.mp hc
  cases o with
  | fenceCommitted => cases ho
  | createPayment k id' request =>
    obtain rfl := of_decide_eq_true ho
    exact h.known k id' request hmem

-- ════════════════════════════════════════════════════════════════════════
-- One step
-- ════════════════════════════════════════════════════════════════════════

/-- The turn of an action is the only one whose permission can change. -/
lemma permits_set {turn : WorkerTurn} {k : Nat} (hturn : w.turns[k]? = some turn) (p : TurnPhase)
    (id : Uuid) :
    (w.turns.set k { turn with phase := p }).countP (WorkerTurn.permitted id) +
        (if turn.permitted id then 1 else 0) =
      w.permits id + if WorkerTurn.permitted id { turn with phase := p } then 1 else 0 := by
  obtain ⟨hk, hget⟩ := List.getElem?_eq_some_iff.mp hturn
  rw [List.countP_set hk, hget, World.permits]
  have hpos : turn.permitted id = true → 0 < w.turns.countP (WorkerTurn.permitted id) :=
    fun hp => List.countP_pos_iff.mpr ⟨turn, List.mem_of_getElem? hturn, hp⟩
  by_cases hp : turn.permitted id = true
  · have := hpos hp
    split <;> split <;> omega
  · split <;> split <;> first | omega | contradiction

/-- The commit of a fence that was acquired moved the column away from NULL. -/
lemma fence_acquired (hreach : Reachable env w) {k : Nat} {id : Uuid}
    (h : World.step env w (.commitFence k) = some w')
    (htrace : w'.trace = w.trace ++ [.fenceCommitted k id true]) :
    ∃ i i', w.db.getPaymentIntent id = some i ∧ i.providerCreateFencedAt = none ∧
      w'.db.getPaymentIntent id = some i' ∧ i'.providerCreateFencedAt ≠ none := by
  simp only [World.step] at h
  split at h
  · cases h
  next turn hturn =>
  have hsound := hreach.inFlight.turns turn (List.mem_of_getElem? hturn)
  unfold World.fenceTurn at h
  split at h
  · next event requeue hphase =>
    rw [hphase] at hsound
    obtain ⟨-, rfl⟩ := hsound
    split at h
    · cases h
    next i hi =>
    obtain rfl := Option.some.inj h
    obtain ⟨fence, heq, -, hacquired⟩ := acquireProviderCreateFence_eq turn.now i
    obtain ⟨hid, hacq⟩ : i.id = id ∧ (World.acquireProviderCreateFence turn.now false i).2 = true := by
      simpa using htrace
    obtain ⟨hnone, rfl⟩ := hacquired hacq
    subst hid
    have hkey : i.id = event.paymentIntentId := Table.key_of_find hi
    rw [← hkey] at hi
    refine ⟨i, { i with providerCreateFencedAt := some turn.now }, hi, hnone, ?_, by simp⟩
    dsimp only
    rw [heq]
    exact getPaymentIntent_replaced hi rfl
  · split at h
    · cases h
    · obtain rfl := Option.some.inj h
      simp [World.setTurn] at htrace
  · cases h

/-- A turn enters the phase after the fence only by committing it. -/
lemma permitted_of_entered {action : Action} {k : Nat} {turn : WorkerTurn} {p : TurnPhase} {id : Uuid}
    (hp : Entered w action k w' p) (h : WorkerTurn.permitted id { turn with phase := p } = true) :
    action = .commitFence k ∧ w'.trace = w.trace ++ [.fenceCommitted k id true] := by
  unfold WorkerTurn.permitted at h
  split at h
  · next e hphase =>
    obtain rfl : p = .fenced e true := hphase
    obtain ⟨haction, i, hi, htrace⟩ := hp
    have hkey : i.id = e.paymentIntentId := Table.key_of_find hi
    rw [htrace, haction, hkey, of_decide_eq_true h]
    exact ⟨rfl, rfl⟩
  · cases h

/-- How a step changes the number of turns that hold a permission. -/
lemma permits_step {action : Action} (h : World.step env w action = some w') (id : Uuid) :
    w'.permits id ≤ w.permits id ∨
      (w'.permits id ≤ w.permits id + 1 ∧ ∃ k, action = .commitFence k ∧
        w'.trace = w.trace ++ [.fenceCommitted k id true]) := by
  rcases step_turns h with ⟨-, heq⟩ | ⟨t, hp, -, heq⟩ | ⟨k, turn, p, -, hturn, heq, hp⟩
  · left
    rw [World.permits, heq, World.permits]
  · left
    have hnot : t.permitted id = false := by
      unfold WorkerTurn.permitted
      rw [hp]
    rw [World.permits, heq, List.countP_append, List.countP_singleton, hnot]
    simp [World.permits]
  · have hcount := permits_set hturn p id
    rw [← heq] at hcount
    cases hafter : WorkerTurn.permitted id { turn with phase := p } with
    | false =>
      left
      rw [World.permits]
      simp only [hafter, Bool.false_eq_true, if_false] at hcount
      omega
    | true =>
      right
      obtain ⟨haction, htrace⟩ := permitted_of_entered hp hafter
      simp only [hafter, if_true] at hcount
      refine ⟨?_, k, haction, htrace⟩
      rw [World.permits]
      omega

/-- A turn that creates gives its permission up. -/
lemma permits_create {action : Action} {k : Nat} {lookup : LookupAnswer} {create : CreateAnswer}
    {turn : WorkerTurn} {id : Uuid}
    (haction : action = .handle k lookup create ∨ action = .crashHandling k lookup create)
    (h : World.step env w action = some w') (hturn : w.turns[k]? = some turn)
    (hp : turn.permitted id = true) : w'.permits id + 1 = w.permits id := by
  have hk : World.Action.turn action = some k := by rcases haction with rfl | rfl <;> rfl
  rcases step_turns h with ⟨hk', -⟩ | ⟨t, -, rfl, -⟩ | ⟨k', turn', p, hk', hturn', heq, hentered⟩
  · cases hk.symm.trans hk'
  · cases hk
  · obtain rfl := Option.some.inj (hk.symm.trans hk')
    obtain rfl := Option.some.inj (hturn.symm.trans hturn')
    have hcount := permits_set hturn p id
    rw [← heq] at hcount
    have hafter : WorkerTurn.permitted id { turn with phase := p } = false := by
      by_contra hnot
      obtain ⟨hfence, -⟩ := permitted_of_entered hentered (by simpa using hnot)
      rcases haction with rfl | rfl <;> cases hfence
    simp only [hafter, hp, if_true, Bool.false_eq_true, if_false] at hcount
    exact hcount

/-- The creates after a step. -/
lemma creates_step {action : Action} (h : World.step env w action = some w') (id : Uuid) :
    w'.creates id = w.creates id ∨ (w'.creates id = w.creates id + 1 ∧
      ∃ k request, w'.trace = w.trace ++ [.createPayment k id request] ∧
        Observed env w action (.createPayment k id request)) := by
  rcases step_trace h with heq | ⟨o, heq, ho⟩
  · left
    rw [World.creates, heq, World.creates]
  · have hcount : w'.creates id = w.creates id + if o.creates id then 1 else 0 := by
      rw [World.creates, heq, List.countP_append, List.countP_singleton, World.creates]
    cases hc : o.creates id with
    | false => exact .inl (by simpa [hc] using hcount)
    | true =>
      cases o with
      | fenceCommitted => cases hc
      | createPayment k id' request =>
        obtain rfl := of_decide_eq_true hc
        exact .inr ⟨by simpa [hc] using hcount, k, request, heq, ho⟩

lemma Observed.known {action : Action} {k : Nat} {id : Uuid} {request : PaymentRequest}
    (h : Observed env w action (.createPayment k id request)) :
    ∃ i, w.db.getPaymentIntent id = some i := by
  obtain ⟨_, _, _, event, i, -, -, hi, hid, -⟩ := h.create
  have hkey : i.id = event.paymentIntentId := Table.key_of_find hi
  exact ⟨i, by rwa [← hkey, hid] at hi⟩

/-- A create for an intent of a provider that is not idempotent is made by a turn that holds the
permission. -/
lemma Observed.permitted {action : Action} {k : Nat} {id : Uuid} {request : PaymentRequest}
    (h : Observed env w action (.createPayment k id request)) {i : PaymentIntentRow}
    (hi : w.db.getPaymentIntent id = some i)
    (hidem : env.createRetriesAreIdempotent i.provider = false) :
    ∃ lookup create turn event,
      (action = .handle k lookup create ∨ action = .crashHandling k lookup create) ∧
      w.turns[k]? = some turn ∧ turn.phase = .fenced event true ∧ event.paymentIntentId = id := by
  obtain ⟨lookup, create, turn, event, j, haction, hturn, hj, hid, -, hcreates⟩ := h.create
  have hkey : j.id = event.paymentIntentId := Table.key_of_find hj
  rw [← hkey, hid, hi] at hj
  obtain rfl := Option.some.inj hj
  refine ⟨lookup, create, turn, event, haction, hturn, ?_, hkey.symm.trans hid⟩
  rcases hcreates.permitted with ⟨hyes, -⟩ | ⟨hphase, -⟩
  · rw [TurnContext.idempotent, hcreates.provider] at hyes
    cases hyes.symm.trans hidem
  · exact hphase

/-- Every step keeps each intent within its budget. -/
lemma WithinBudget.step (hreach : Reachable env w) (hf : FenceBudget env w) {action : Action}
    (h : World.step env w action = some w') {j : PaymentIntentRow} (hj : j ∈ w'.db.paymentIntents) :
    WithinBudget env w' j := by
  intro hidem
  obtain ⟨hreach', hgrows⟩ := hreach.step h
  have hpermits := permits_step h j.id
  have hcreates := creates_step h j.id
  cases hi : w.db.getPaymentIntent j.id with
  | none =>
    -- nothing was made or permitted for an intent that this step commits
    have hzero : w.creates j.id = 0 ∧ w.permits j.id = 0 := by
      constructor <;> by_contra hne
      · obtain ⟨i, hsome⟩ := exists_of_creates hf (Nat.pos_of_ne_zero hne)
        cases hi.symm.trans hsome
      · obtain ⟨i, hsome⟩ := exists_of_permits hreach (Nat.pos_of_ne_zero hne)
        cases hi.symm.trans hsome
    have hc : w'.creates j.id = 0 := by
      rcases hcreates with heq | ⟨-, k, request, -, ho⟩
      · omega
      · obtain ⟨i, hsome⟩ := ho.known
        cases hi.symm.trans hsome
    have hp : w'.permits j.id = 0 := by
      rcases hpermits with hle | ⟨-, k, rfl, htrace⟩
      · omega
      · obtain ⟨i, _, hsome, -⟩ := fence_acquired hreach h htrace
        cases hi.symm.trans hsome
    rw [hc, hp]
    exact Nat.zero_le _
  | some i =>
    obtain ⟨j', hj', hmoves⟩ := hgrows.paymentIntents _ _ hi
    obtain rfl := Option.some.inj ((hreach'.consistent.mem_intent.mp hj).symm.trans hj')
    have hid : i.id = j.id := Table.key_of_find hi
    have hprov : i.provider = j.provider := (PaymentIntentRow.provider_of_terms hmoves.terms).symm
    have hidem' : env.createRetriesAreIdempotent i.provider = false := by rwa [hprov]
    have hbudget := hf.budget i (Table.mem_of_find hi) hidem'
    rw [hid] at hbudget
    -- the column never returns to NULL, so the budget never shrinks
    have hmono : (if i.providerCreateFencedAt = none then 0 else 1) ≤
        if j.providerCreateFencedAt = none then 0 else 1 := by
      by_cases hnone : i.providerCreateFencedAt = none
      · simp [hnone]
      · rw [hmoves.fence hnone]
    rcases hcreates with hsame | ⟨hone, k, request, htrace, ho⟩
    · rcases hpermits with hle | ⟨hle, k, rfl, htrace⟩
      · omega
      · -- the column moves away from NULL as the permission is given out
        obtain ⟨i', j', hi', hnone, hj', hsome⟩ := fence_acquired hreach h htrace
        obtain rfl := Option.some.inj (hi.symm.trans hi')
        obtain rfl := Option.some.inj ((hreach'.consistent.mem_intent.mp hj).symm.trans hj')
        rw [if_pos hnone] at hbudget
        rw [if_neg hsome]
        omega
    · obtain ⟨lookup, create, turn, event, haction, hturn, hphase, hevent⟩ := ho.permitted hi hidem'
      have hpermitted : turn.permitted j.id = true := by
        unfold WorkerTurn.permitted
        rw [hphase]
        exact decide_eq_true hevent
      have hspent := permits_create haction h hturn hpermitted
      omega

/-- Every step keeps the invariant of the create fence. -/
theorem FenceBudget.step (hreach : Reachable env w) (hf : FenceBudget env w) {action : Action}
    (h : World.step env w action = some w') : FenceBudget env w' := by
  obtain ⟨hreach', hgrows⟩ := hreach.step h
  have hprefix : ∀ o ∈ w.trace, o ∈ w'.trace := by
    rcases step_trace h with heq | ⟨o, heq, -⟩ <;> rw [heq] <;> simp +contextual
  refine ⟨?_, fun j hj => WithinBudget.step hreach hf h hj, ?_, ?_⟩
  · intro k id request hmem
    have hstays : ∀ i, w.db.getPaymentIntent id = some i → ∃ i, w'.db.getPaymentIntent id = some i :=
      fun i hi => (hgrows.paymentIntents _ _ hi).imp fun _ hj => hj.1
    rcases step_trace h with heq | ⟨o, heq, ho⟩ <;> rw [heq] at hmem
    · obtain ⟨i, hi⟩ := hf.known k id request hmem
      exact hstays i hi
    · rcases List.mem_append.mp hmem with hmem | hmem
      · obtain ⟨i, hi⟩ := hf.known k id request hmem
        exact hstays i hi
      · obtain rfl := List.mem_singleton.mp hmem
        obtain ⟨i, hi⟩ := ho.known
        exact hstays i hi
  · intro k turn e hturn hphase
    rcases step_turns h with ⟨-, heq⟩ | ⟨t, hp, -, heq⟩ | ⟨k', turn', p, -, hturn', heq, hentered⟩
    · rw [heq] at hturn
      exact hprefix _ (hf.holders k turn e hturn hphase)
    · rw [heq] at hturn
      by_cases hk : k < w.turns.length
      · rw [List.getElem?_append_left hk] at hturn
        exact hprefix _ (hf.holders k turn e hturn hphase)
      · rw [List.getElem?_append_right (by omega)] at hturn
        obtain rfl := List.mem_singleton.mp (List.mem_of_getElem? hturn)
        cases hp.symm.trans hphase
    · rw [heq] at hturn
      by_cases hk : k' = k
      · subst hk
        rw [List.getElem?_set_self (List.getElem?_eq_some_iff.mp hturn').1] at hturn
        obtain rfl := Option.some.inj hturn
        have hpermitted : WorkerTurn.permitted e.paymentIntentId { turn' with phase := p } = true := by
          unfold WorkerTurn.permitted
          rw [hphase]
          exact decide_eq_true rfl
        rw [(permitted_of_entered hentered hpermitted).2]
        simp
      · rw [List.getElem?_set_ne hk] at hturn
        exact hprefix _ (hf.holders k turn e hturn hphase)
  · intro k id request j hmem hj hidem
    rcases step_trace h with heq | ⟨o, heq, ho⟩
    · rw [heq] at hmem
      obtain ⟨i, hi⟩ := hf.known k id request hmem
      obtain ⟨j', hj', hmoves⟩ := hgrows.paymentIntents _ _ hi
      obtain rfl := Option.some.inj (hj.symm.trans hj')
      rw [PaymentIntentRow.provider_of_terms hmoves.terms] at hidem
      exact hprefix _ (hf.committed k id request i hmem hi hidem)
    · rw [heq] at hmem
      rcases List.mem_append.mp hmem with hmem | hmem
      · obtain ⟨i, hi⟩ := hf.known k id request hmem
        obtain ⟨j', hj', hmoves⟩ := hgrows.paymentIntents _ _ hi
        obtain rfl := Option.some.inj (hj.symm.trans hj')
        rw [PaymentIntentRow.provider_of_terms hmoves.terms] at hidem
        exact hprefix _ (hf.committed k id request i hmem hi hidem)
      · obtain rfl := List.mem_singleton.mp hmem
        obtain ⟨i, hi⟩ := ho.known
        obtain ⟨j', hj', hmoves⟩ := hgrows.paymentIntents _ _ hi
        obtain rfl := Option.some.inj (hj.symm.trans hj')
        rw [PaymentIntentRow.provider_of_terms hmoves.terms] at hidem
        obtain ⟨_, _, turn, event, -, hturn, hphase, hevent⟩ := ho.permitted hi hidem
        rw [← hevent]
        exact hprefix _ (hf.holders k turn event hturn hphase)

-- ════════════════════════════════════════════════════════════════════════
-- Runs
-- ════════════════════════════════════════════════════════════════════════

lemma fenceBudget_init (env : Env) : FenceBudget env World.init := by
  refine ⟨?_, ?_, ?_, ?_⟩
  · intro _ _ _ hmem
    cases hmem
  · intro _ hmem
    cases hmem
  · intro k turn e hturn
    simp [World.init] at hturn
  · intro _ _ _ _ hmem
    cases hmem

lemma exec_fenceBudget (h : World.exec env actions = some w) : FenceBudget env w := by
  have hstart : Reachable env World.init ∧ FenceBudget env World.init :=
    ⟨reachable_init env, fenceBudget_init env⟩
  exact (Runs.invariant (I := fun w => Reachable env w ∧ FenceBudget env w)
    (fun _ _ _ hi hs => ⟨(hi.1.step hs).1, FenceBudget.step hi.1 hi.2 hs⟩) hstart h).2

/-- An observation that a run made was made by one of its steps. -/
lemma exec_observed (h : World.exec env actions = some w) {o : Observation} (ho : o ∈ w.trace) :
    ∃ before action after w₀ w₁, actions = before ++ action :: after ∧
      World.exec env before = some w₀ ∧ World.step env w₀ action = some w₁ ∧
      Runs.run (World.step env) w₁ after = some w ∧ w₁.trace = w₀.trace ++ [o] ∧
      Observed env w₀ action o := by
  obtain ⟨before, action, after, w₀, w₁, hactions, hbefore, hstep, hafter, hnot, hmem⟩ :=
    Runs.first_step (p := fun w : World => o ∈ w.trace) (by simp [World.init]) h ho
  refine ⟨before, action, after, w₀, w₁, hactions, hbefore, hstep, hafter, ?_⟩
  rcases step_trace hstep with heq | ⟨o', heq, ho'⟩
  · exact absurd (heq ▸ hmem) hnot
  · rw [heq] at hmem
    obtain rfl := List.mem_singleton.mp ((List.mem_append.mp hmem).resolve_left hnot)
    exact ⟨heq, ho'⟩

/-- For an intent of a provider that does not promise idempotent creates, a run invokes
`provider.create_payment` at most once; only the turn does that whose own conditional update moved
the fence column away from NULL, in a transaction committed before; and the column keeps its value
from then on. -/
theorem create_at_most_once (h : World.exec env actions = some w) {i : PaymentIntentRow}
    (hi : i ∈ w.db.paymentIntents) (hidem : env.createRetriesAreIdempotent i.provider = false) :
    w.creates i.id ≤ 1 ∧
    (∀ k request, .createPayment k i.id request ∈ w.trace →
      ∃ before after w₀ w₁ i₀ i₁, actions = before ++ .commitFence k :: after ∧
        World.exec env before = some w₀ ∧ World.step env w₀ (.commitFence k) = some w₁ ∧
        w₀.db.getPaymentIntent i.id = some i₀ ∧ i₀.providerCreateFencedAt = none ∧
        w₁.db.getPaymentIntent i.id = some i₁ ∧ i₁.providerCreateFencedAt ≠ none ∧
        w₁.creates i.id = 0) ∧
    ∀ more w', Runs.run (World.step env) w more = some w' → i.providerCreateFencedAt ≠ none →
      ∃ i', w'.db.getPaymentIntent i.id = some i' ∧
        i'.providerCreateFencedAt = i.providerCreateFencedAt := by
  have hreach := exec_reachable h
  have hfence := exec_fenceBudget h
  have hid := hreach.consistent.mem_intent.mp hi
  refine ⟨?_, fun k request hmem => ?_, fun more w' hrun hne => ?_⟩
  · have hbudget := hfence.budget i hi hidem
    split at hbudget <;> omega
  · have hcommitted := hfence.committed k i.id request i hmem hid hidem
    obtain ⟨before, action, after, w₀, w₁, hactions, hbefore, hstep, hafter, htrace, ho⟩ :=
      exec_observed h hcommitted
    obtain ⟨rfl, -⟩ := ho.fence
    have hreach₀ := exec_reachable hbefore
    obtain ⟨i₀, i₁, hi₀, hnone, hi₁, hsome⟩ := fence_acquired hreach₀ hstep htrace
    refine ⟨before, after, w₀, w₁, i₀, i₁, hactions, hbefore, hstep, hi₀, hnone, hi₁, hsome, ?_⟩
    -- while the column was NULL no create was made
    have hkey : i₀.id = i.id := Table.key_of_find hi₀
    obtain ⟨i', hi', hmoves⟩ := (run_grows (hreach₀.step hstep).1 hafter).paymentIntents _ _ hi₁
    obtain ⟨i₁', hi₁', hmoves₀⟩ := (hreach₀.step hstep).2.paymentIntents _ _ hi₀
    obtain rfl := Option.some.inj (hid.symm.trans hi')
    obtain rfl := Option.some.inj (hi₁.symm.trans hi₁')
    rw [PaymentIntentRow.provider_of_terms hmoves.terms,
      PaymentIntentRow.provider_of_terms hmoves₀.terms] at hidem
    have hbudget := (exec_fenceBudget hbefore).budget i₀ (Table.mem_of_find hi₀) hidem
    rw [if_pos hnone, hkey] at hbudget
    have hsame : w₁.creates i.id = w₀.creates i.id := by
      rw [World.creates, htrace, List.countP_append]
      simp [World.creates, Observation.creates]
    omega
  · obtain ⟨i', hi', hmoves⟩ := (run_grows hreach hrun).paymentIntents _ _ hid
    exact ⟨i', hi', hmoves.fence hne⟩

/-- An order with a provider that is not idempotent. The lease of the first worker lapses before it
commits the fence, a second worker claims the event and commits it first, and only this one creates. -/
def Sample.fenced : List Action :=
  Sample.order "razorpay_test" ++ Sample.claim 0 "razorpay_test" ++
    [.handle 0 .notFound (.raised .integrityError),
     .startTurn "other" "razorpay_test" 60 60, .claimPostgres 1 [], .loadEvent 1,
     .handle 1 .notFound (.raised .integrityError), .commitFence 1, .commitFence 0,
     .handle 1 .notFound
      (.payment (Sample.payment "razorpay_test" "pay_1" .succeeded Sample.pay_1_ne)),
     .handle 0 .notFound
      (.payment (Sample.payment "razorpay_test" "pay_1" .succeeded Sample.pay_1_ne))]

lemma Sample.fenced_creates : (World.exec Sample.env Sample.fenced).map (fun w =>
    (w.db.paymentIntents.map fun i => (i.id, i.provider), w.creates Sample.intentId)) =
    some ([(Sample.intentId, "razorpay_test")], 1) := by decide +kernel

theorem create_at_most_once_fenced : ∃ w, World.exec Sample.env Sample.fenced = some w ∧
    w.creates Sample.intentId = 1 ∧ ∃ i ∈ w.db.paymentIntents, i.id = Sample.intentId ∧
      Sample.env.createRetriesAreIdempotent i.provider = false ∧ w.creates i.id ≤ 1 := by
  obtain ⟨w, hw, hrows⟩ := Option.map_eq_some_iff.mp Sample.fenced_creates
  obtain ⟨hrows, hone⟩ := Prod.mk.inj hrows
  have hmem : (Sample.intentId, "razorpay_test") ∈
      w.db.paymentIntents.map fun i => (i.id, i.provider) := by
    rw [hrows]
    exact List.mem_singleton_self _
  obtain ⟨i, hi, heq⟩ := List.mem_map.mp hmem
  obtain ⟨hid, hprov⟩ := Prod.mk.inj heq
  have hidem : Sample.env.createRetriesAreIdempotent i.provider = false := by
    rw [hprov]
    decide
  exact ⟨w, hw, hone, i, hi, hid, hidem, (create_at_most_once hw hi hidem).1⟩

end Pactra
