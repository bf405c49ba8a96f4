import Pactra.PaymentExecutor.Effects.Rows

/-!
# What a handler leaves to others

A handler finishes its outbox event or puts it back, may hand a follow-up to the queue, and moves
the mission when it settles the payment.

## Main results

- `Dispatched.leaves`, `Reconciled.leaves` — an event is finished only if the payment is settled or
  a follow-up was queued
- `Dispatched.coupled`, `Reconciled.coupled`, `Delivered.coupled` — the mission follows the payment
-/

namespace Pactra

namespace PaymentExecutor

open PaymentIntentState

-- ════════════════════════════════════════════════════════════════════════
-- The queue
-- ════════════════════════════════════════════════════════════════════════

/-- What a handler leaves in the queue: its event put back, or finished with the payment settled or
a follow-up queued. -/
def Leaves (now : Datetime) (u : UnitOfWork) (e e' : OutboxEventRow) : Prop :=
  (∃ reason, e' = rescheduled reason now e) ∨
    (e' = completed now e ∧ (u.intent.state.isTerminal = true ∨ u.enqueued ≠ []))

lemma enqueued_uncertain (detail : String) (now : Datetime) (reasonCode : String)
    (timedOut : Bool) (u : UnitOfWork) :
    (uncertain detail now reasonCode timedOut u).enqueued ≠ [] := by
  simp [uncertain, queuedEvent]

/-- A settled payment is terminal or still pending. -/
lemma Settles.settledOrOpen {env : Env} {db : Db} {payment : ProviderPayment} {now : Datetime}
    {u u' : UnitOfWork} (h : Settles env db payment now u u') :
    u'.intent.state = .providerPending ∨ u'.intent.state.isTerminal = true := by
  rw [h.eq, settled_state]
  have htarget : providerStatusToState payment.status = .providerPending ∨
      (providerStatusToState payment.status).isTerminal = true := by
    cases payment.status <;> simp [providerStatusToState, isTerminal]
  split
  · next hsame =>
    rcases hsame with hsame | hsame
    · rwa [hsame]
    · exact .inr hsame
  · exact htarget

lemma followedUp_leaves {now : Datetime} {u : UnitOfWork}
    (h : u.intent.state = .providerPending ∨ u.intent.state.isTerminal = true) :
    u.intent.state.isTerminal = true ∨ (followedUp now u).enqueued ≠ [] := by
  rcases h with h | h
  · right
    simp [followedUp, h, queuedEvent]
  · exact .inl h

section Handlers

variable {ctx : TurnContext} {u u' : UnitOfWork} {e e' : OutboxEventRow}

theorem Dispatched.leaves (h : Dispatched ctx u e u' e') : Leaves ctx.now u' e e' := by
  cases h with
  | finished hs => exact .inr ⟨rfl, .inl hs⟩
  | handedOver => exact .inr ⟨rfl, .inr (by simp [queuedEvent])⟩
  | uncertain => exact .inr ⟨rfl, .inr (enqueued_uncertain _ _ _ _ _)⟩
  | recovered payment v _ _ _ h =>
    refine .inr ⟨rfl, ?_⟩
    rw [followedUp_intent]
    exact followedUp_leaves h.settledOrOpen
  | recoveredRefused => exact .inr ⟨rfl, .inr (enqueued_uncertain _ _ _ _ _)⟩
  | created payment v _ _ _ h =>
    refine .inr ⟨rfl, ?_⟩
    rw [followedUp_intent]
    exact followedUp_leaves h.settledOrOpen
  | createdRefused => exact .inr ⟨rfl, .inr (enqueued_uncertain _ _ _ _ _)⟩
  | createUncertain => exact .inr ⟨rfl, .inr (enqueued_uncertain _ _ _ _ _)⟩
  | createRetryable reason => exact .inl ⟨reason, rfl⟩
  | createTerminal => exact .inr ⟨rfl, .inl rfl⟩

theorem Reconciled.leaves (h : Reconciled ctx u e u' e') : Leaves ctx.now u' e e' := by
  cases h with
  | finished hs => exact .inr ⟨rfl, .inl hs⟩
  | noPayment => exact .inr ⟨rfl, .inr (by simp [PaymentExecutor.noPayment, noted, queuedEvent])⟩
  | found payment v _ _ _ h =>
    unfold followedUpEvent
    split
    · exact .inl ⟨_, rfl⟩
    · next hopen => exact .inr ⟨rfl, .inl (h.settledOrOpen.resolve_left hopen)⟩
  | _ => exact .inl ⟨_, rfl⟩

end Handlers

-- ════════════════════════════════════════════════════════════════════════
-- The mission
-- ════════════════════════════════════════════════════════════════════════

/-- The mission state that goes with a payment state. -/
def missionStateOf : PaymentIntentState → MissionState
  | .succeeded => .paymentSucceeded
  | .failedTerminal => .paymentFailed
  | _ => .paymentPending

/-- The mission of a unit of work follows its payment. -/
def Coupled (u : UnitOfWork) : Prop :=
  ∀ m, u.mission = some m → m.state = missionStateOf u.intent.state

section Mission

variable {u u' : UnitOfWork}

/-- The row changed to a state with the same mission state. -/
lemma Coupled.of_same (h : Coupled u) (hm : u'.mission = u.mission)
    (hs : missionStateOf u'.intent.state = missionStateOf u.intent.state) : Coupled u' := by
  intro m hmission
  rw [hs]
  exact h m (hm ▸ hmission)

lemma missionStateOf_unstarted {s : PaymentIntentState} (h : unstarted s) :
    missionStateOf s = .paymentPending := by
  rcases h with rfl | rfl <;> rfl

lemma missionStateOf_maybeUncertain {s : PaymentIntentState} (h : maybeUncertain s) :
    missionStateOf s = .paymentPending := by
  rcases h with rfl | h
  · rfl
  · cases s <;> first | rfl | cases h

/-- The mission was moved along with a payment that was still open. -/
lemma Coupled.settled_mission (h : Coupled u) (hopen : missionStateOf u.intent.state = .paymentPending)
    {target : MissionState} (htarget : target = .paymentSucceeded ∨ target = .paymentFailed)
    (hm : u'.mission = u.mission.map (movedMission target))
    (hs : missionStateOf u'.intent.state = target) : Coupled u' := by
  intro m' hm'
  rw [hm, Option.map_eq_some_iff] at hm'
  obtain ⟨m, hmission, rfl⟩ := hm'
  have hpending : m.state = .paymentPending := (h m hmission).trans hopen
  rw [hs, movedMission, hpending]
  rcases htarget with rfl | rfl <;> rfl

lemma Coupled.attempted (h : Coupled u) (a b : Bool) : Coupled (attempted a b u) := by
  unfold PaymentExecutor.attempted
  split
  · next hs => exact h.of_same rfl (by rw [missionStateOf_unstarted hs]; rfl)
  · exact h

lemma Coupled.uncertain (h : Coupled u) (hs : maybeUncertain u.intent.state) (detail : String)
    (now : Datetime) (reasonCode : String) (timedOut : Bool) :
    Coupled (uncertain detail now reasonCode timedOut u) := by
  refine h.of_same ?_ ?_
  · unfold PaymentExecutor.uncertain
    dsimp only
    split <;> rfl
  · rw [missionStateOf_maybeUncertain hs, uncertain_intent]
    rfl

lemma Coupled.settles {env : Env} {db : Db} {payment : ProviderPayment} {now : Datetime}
    (h : Coupled u) (hs : Settles env db payment now u u') : Coupled u' := by
  rw [hs.eq]
  unfold settled
  dsimp only
  split
  · exact h.of_same rfl rfl
  · next hmoved =>
    have hreach := hs.reachable
    have hopen : missionStateOf u.intent.state = .paymentPending := by
      revert hmoved hreach
      cases u.intent.state <;> simp [missionStateOf, isTerminal]
    cases hstatus : providerStatusToState payment.status with
    | succeeded => exact h.settled_mission hopen (.inl rfl) rfl rfl
    | failedTerminal => exact h.settled_mission hopen (.inr rfl) rfl rfl
    | _ => exact h.of_same rfl hopen.symm

lemma Coupled.refused (h : Coupled u) (hr : Refused u u') : Coupled u' := by
  refine h.of_same ?_ (congrArg missionStateOf hr.state)
  rcases hr with rfl | ⟨i', -, rfl⟩ <;> rfl

lemma Coupled.followedUp (h : Coupled u) (now : Datetime) : Coupled (followedUp now u) := by
  unfold PaymentExecutor.followedUp
  split
  · exact h.of_same rfl rfl
  · exact h

variable {ctx : TurnContext} {e e' : OutboxEventRow}

/-- The mission follows a create turn. -/
theorem Dispatched.coupled (h : Dispatched ctx u e u' e') (hf : Coupled u) : Coupled u' := by
  have hattempted : ∀ {a b : Bool}, unstarted u.intent.state →
      missionStateOf (attempted a b u).intent.state = .paymentPending := by
    intro a b hs
    rw [attempted_state hs]
    rfl
  cases h with
  | finished => exact hf
  | handedOver => exact hf.of_same rfl rfl
  | uncertain detail reasonCode timedOut hs => exact hf.uncertain hs _ _ _ _
  | recovered payment v _ _ _ h =>
    have hv : Coupled (noted .paymentReconciled (recoveredPayload payment v.intent) v) :=
      ((hf.attempted false true).settles h).of_same rfl rfl
    exact hv.followedUp ctx.now
  | recoveredRefused detail v _ h hs =>
    rcases h with rfl | h
    · exact hf.uncertain hs _ _ _ _
    · exact ((hf.attempted false true).refused h).uncertain hs _ _ _ _
  | created payment v _ _ _ h => exact ((hf.attempted true false).settles h).followedUp ctx.now
  | createdRefused detail v hs h =>
    have hv : maybeUncertain v.intent.state := by
      rw [h.state, attempted_state hs]
      exact .inr rfl
    exact ((hf.attempted true false).refused h).uncertain hv _ _ _ _
  | createUncertain detail reasonCode timedOut hs =>
    have hv : maybeUncertain (attempted true false u).intent.state := by
      rw [attempted_state hs]
      exact .inr rfl
    exact (hf.attempted true false).uncertain hv _ _ _ _
  | createRetryable reason hs =>
    exact (hf.attempted true false).of_same rfl (hattempted hs).symm
  | createTerminal detail hs =>
    exact (hf.attempted true false).settled_mission (hattempted hs) (.inr rfl) rfl rfl

/-- The mission follows a reconcile turn. -/
theorem Reconciled.coupled (h : Reconciled ctx u e u' e') (hf : Coupled u) : Coupled u' := by
  cases h with
  | finished => exact hf
  | ambiguityObserved error _ _ hs =>
    exact hf.of_same rfl (missionStateOf_maybeUncertain hs).symm
  | lookupFailed => exact hf.of_same rfl rfl
  | ambiguous payment _ _ hs =>
    refine hf.of_same ?_ ?_
    · unfold noted ambiguityKept
      split <;> rfl
    · rw [noted_intent, ambiguityKept_state, missionStateOf_maybeUncertain hs]
      rfl
  | linkedNotFound => exact hf.of_same rfl rfl
  | fencedNotFound _ _ _ hs =>
    refine hf.of_same ?_ ?_
    · unfold retried noted fencedKept
      split <;> rfl
    · show missionStateOf (fencedKept u).intent.state = _
      rw [fencedKept_state, missionStateOf_maybeUncertain hs]
      rfl
  | noPayment _ _ _ _ hs =>
    have hopen : missionStateOf u.intent.state = .paymentPending := by
      revert hs
      cases u.intent.state <;> simp [missionStateOf, canTransition, allowedTransitions]
    exact hf.of_same rfl hopen.symm
  | found payment v _ _ _ h => exact ((hf.attempted false true).settles h).of_same rfl rfl
  | refused payment detail v _ _ _ _ h =>
    rcases h with rfl | ⟨-, h⟩
    · exact hf.of_same rfl rfl
    · exact ((hf.attempted false true).refused h).of_same rfl rfl

/-- The mission follows a webhook delivery. -/
theorem Delivered.coupled {db : Db} {event : VerifiedWebhookEvent}
    {applied : Option (Option PaymentIntentState)} (h : Delivered db event u u' applied)
    (hf : Coupled u) : Coupled u' := by
  cases h with
  | duplicate => exact hf.of_same rfl rfl
  | held => exact hf.of_same rfl rfl
  | observed => exact hf.of_same rfl rfl
  | outOfOrder => exact hf.of_same rfl rfl
  | applied target _ _ ht hs =>
    have hopen : missionStateOf u.intent.state = .paymentPending := by
      revert hs
      cases u.intent.state <;> simp [missionStateOf, canTransition, allowedTransitions]
    cases target with
    | succeeded => exact hf.settled_mission hopen (.inl rfl) rfl rfl
    | failedTerminal => exact hf.settled_mission hopen (.inr rfl) rfl rfl
    | _ => exact hf.of_same rfl hopen.symm

end Mission

end PaymentExecutor

end Pactra
