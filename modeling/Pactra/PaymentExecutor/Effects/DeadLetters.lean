import Pactra.PaymentExecutor.Effects.Agreement

/-!
# Dead letters

`reschedule_event` gives an event up when its attempts are used up, and leaves it to its caller to
record that. Most callers do; the two branches of a reconcile turn that do not are named here.

## Main results

- `Dispatched.letters` — a create turn records a dead letter exactly when it gives its event up
- `Reconciled.letters` — so does a reconcile turn, unless it is `Unrecorded` and gives up
-/

namespace Pactra

/-- An audit entry records that an outbox event was given up. -/
def AuditEntry.DeadLetters (entry : AuditEntry) (id : Uuid) : Prop :=
  entry.eventType = .outboxEventDeadLettered ∧
    Dict.get entry.payload "outbox_event_id" = some (.str id.str)

lemma AuditEntry.DeadLetters.unique {entry : AuditEntry} {id id' : Uuid} (h : entry.DeadLetters id)
    (h' : entry.DeadLetters id') : id = id' := by
  have hstr := h.2.symm.trans h'.2
  simp only [Option.some.injEq, Json.str.injEq] at hstr
  exact Uuid.str_injective hstr

namespace Replay

-- ════════════════════════════════════════════════════════════════════════
-- The flag of the view
-- ════════════════════════════════════════════════════════════════════════

lemma View.step_deadLettered (v : View) (e : AuditEntry) : (v.step e).deadLettered = true ↔
    v.deadLettered = true ∨ e.eventType = .outboxEventDeadLettered := by
  obtain ⟨eventType, a, d⟩ := e
  cases eventType
  case paymentFailed =>
    simp only [View.step]
    split <;> simp [View.moved, View.common, View.stated]
  all_goals simp [View.step, View.moved, View.authorized, View.common, View.stated]

/-- Replay flags a dead letter exactly when there is one. -/
lemma foldl_deadLettered (entries : List AuditEntry) (v : View) :
    (entries.foldl View.step v).deadLettered = true ↔
      v.deadLettered = true ∨ ∃ e ∈ entries, e.eventType = .outboxEventDeadLettered := by
  induction entries generalizing v with
  | nil => simp
  | cons e entries ih =>
    rw [List.foldl_cons, ih, View.step_deadLettered, List.exists_mem_cons_iff, or_assoc]

/-- A history that leaves the flag of some view unset has no dead letters. -/
lemma quiet_of_flag {entries : List AuditEntry} {v : View}
    (h : (entries.foldl View.step v).deadLettered = false) :
    ∀ e ∈ entries, e.eventType ≠ .outboxEventDeadLettered := by
  intro e he ht
  rw [(foldl_deadLettered entries v).mpr (.inr ⟨e, he, ht⟩)] at h
  cases h

end Replay

namespace PaymentExecutor

open Replay PaymentIntentState

-- ════════════════════════════════════════════════════════════════════════
-- Operations that record no dead letter
-- ════════════════════════════════════════════════════════════════════════

/-- A unit of work records no dead letter. -/
def Quiet (u : UnitOfWork) : Prop := ∀ e ∈ u.entries, e.eventType ≠ .outboxEventDeadLettered

lemma quiet_iff (u : UnitOfWork) : Quiet u ↔ (replayed View.init u).deadLettered = false := by
  refine ⟨fun h => ?_, quiet_of_flag⟩
  rw [← Bool.not_eq_true, replayed, foldl_deadLettered]
  rintro (hinit | ⟨e, he, ht⟩)
  · cases hinit
  · exact h e he ht

namespace Quiet

variable {u : UnitOfWork} (h : Quiet u)

include h

lemma withIntent (f : PaymentIntentRow → PaymentIntentRow) : Quiet (withIntent f u) := h

lemma withMission (target : MissionState) : Quiet (withMission target u) := h

lemma queuedEvent (eventType : OutboxEventType) (now : Datetime) :
    Quiet (queuedEvent eventType now u) := h

lemma noted {eventType : EventType} (payload : Dict) (ht : eventType ≠ .outboxEventDeadLettered) :
    Quiet (noted eventType payload u) := by
  intro e he
  rcases List.mem_append.mp he with he | he
  · exact h e he
  · rw [List.mem_singleton.mp he]
    exact ht

lemma transitioned (target : PaymentIntentState) {eventType : EventType} (payload : Dict)
    (reasonCode : Option String) (ht : eventType ≠ .outboxEventDeadLettered) :
    Quiet (transitioned target eventType payload reasonCode u) :=
  (h.withIntent _).noted _ ht

lemma attempted (a b : Bool) : Quiet (attempted a b u) := by
  rw [quiet_iff] at h ⊢
  rw [replayed_attempted]
  split <;> exact h

lemma uncertain (detail : String) (now : Datetime) (reasonCode : String) (timedOut : Bool) :
    Quiet (uncertain detail now reasonCode timedOut u) := by
  rw [quiet_iff] at h ⊢
  rw [replayed_uncertain]
  exact h

lemma settled (payment : ProviderPayment) (now : Datetime) : Quiet (settled payment now u) := by
  rw [quiet_iff] at h ⊢
  rw [replayed_settled]
  split
  · exact h
  · split <;> exact h

lemma refused {u' : UnitOfWork} (hr : Refused u u') : Quiet u' := by
  rw [quiet_iff] at h ⊢
  rwa [replayed_refused _ hr]

lemma followedUp (now : Datetime) : Quiet (followedUp now u) := by
  rw [quiet_iff] at h ⊢
  rwa [replayed_followedUp]

end Quiet

/-- A webhook delivery records no dead letter. -/
lemma Delivered.quiet {db : Db} {event : VerifiedWebhookEvent} {u u' : UnitOfWork}
    {applied : Option (Option PaymentIntentState)} (h : Delivered db event u u' applied)
    (hu : Quiet u) : Quiet u' := by
  have hverified : Quiet (noted .webhookVerified (verifiedPayload u.intent event) u) :=
    hu.noted _ (by decide)
  cases h with
  | duplicate => exact hu.noted _ (by decide)
  | held => exact (hverified.withIntent _).noted _ (by decide)
  | observed => exact (hverified.withIntent _).noted _ (by decide)
  | outOfOrder => exact hverified.noted _ (by decide)
  | applied target =>
    have hevent : webhookEventType target ≠ .outboxEventDeadLettered := by
      cases target <;> decide
    have hmoved := (hverified.withIntent (storeProviderEvidence event target)).transitioned target
      (webhookEvidence event) (attemptReason event) hevent
    unfold withSettledMission
    split <;> exact hmoved

-- ════════════════════════════════════════════════════════════════════════
-- Handlers
-- ════════════════════════════════════════════════════════════════════════

/-- A handler that records the dead letter of its event, and of no other, exactly when it gives the
event up. -/
structure Letters (e e' : OutboxEventRow) (u : UnitOfWork) : Prop where
  recorded : e'.status = .failed → ∃ entry ∈ u.entries, entry.DeadLetters e.id
  failed : ∀ entry ∈ u.entries, entry.eventType = .outboxEventDeadLettered →
    entry.DeadLetters e.id ∧ e'.status = .failed

section Handlers

variable {ctx : TurnContext} {u u' : UnitOfWork} {e e' : OutboxEventRow}

/-- Nothing was recorded, and the event was not given up. -/
lemma letters_of_quiet (hu : Quiet u) (hs : e'.status ≠ .failed) : Letters e e' u :=
  ⟨fun h => absurd h hs, fun entry hentry ht => absurd ht (hu entry hentry)⟩

lemma letters_completed (hu : Quiet u) (now : Datetime) : Letters e (completed now e) u :=
  letters_of_quiet hu (by simp [completed])

/-- An event with attempts left is put back. -/
lemma rescheduled_not_failed (reason : String) (now : Datetime) (h : e.attempts < e.maxAttempts) :
    (rescheduled reason now e).status ≠ .failed := by
  rw [rescheduled_status, if_neg (Int.not_le.mpr h)]
  decide

/-- A retry site whose event names the outbox event. -/
lemma letters_retryEvent (hu : Quiet u) (reason : String) (now : Datetime) {payload : Dict}
    (hid : Dict.get payload "outbox_event_id" = some (.str e.id.str)) :
    Letters e (rescheduled reason now e) (noted (retryEvent e) payload u) := by
  by_cases hleft : e.attempts < e.maxAttempts
  · refine letters_of_quiet (hu.noted _ ?_) (rescheduled_not_failed reason now hleft)
    simp [retryEvent, hleft]
  · have hevent : retryEvent e = .outboxEventDeadLettered := if_neg hleft
    have hstatus : (rescheduled reason now e).status = .failed := by
      rw [rescheduled_status, if_pos (Int.not_lt.mp hleft)]
    have hletter : (⟨retryEvent e, actor, payload⟩ : AuditEntry).DeadLetters e.id := ⟨hevent, hid⟩
    refine ⟨fun _ => ⟨_, List.mem_append_right _ List.mem_cons_self, hletter⟩,
      fun entry hentry ht => ⟨?_, hstatus⟩⟩
    rcases List.mem_append.mp hentry with hentry | hentry
    · exact absurd ht (hu entry hentry)
    · rwa [List.mem_singleton.mp hentry]

lemma letters_retried (hu : Quiet u) (reason : String) (now : Datetime) (code phase : String) :
    Letters e (rescheduled reason now e) (retried e code phase u) :=
  letters_retryEvent hu reason now (by simp [lookupRetryPayload])

/-- A create turn records a dead letter exactly when it gives its event up. -/
theorem Dispatched.letters (h : Dispatched ctx u e u' e') (hu : Quiet u) : Letters e e' u' := by
  cases h with
  | finished => exact letters_completed hu _
  | handedOver => exact letters_completed (hu.queuedEvent _ _) _
  | uncertain => exact letters_completed (hu.uncertain _ _ _ _) _
  | recovered payment v _ _ _ h =>
    have hset : Quiet v := h.eq ▸ (hu.attempted _ _).settled _ _
    exact letters_completed ((hset.noted _ (by decide)).followedUp _) _
  | recoveredRefused detail v _ h =>
    refine letters_completed (Quiet.uncertain ?_ _ _ _ _) _
    rcases h with rfl | h
    · exact hu
    · exact (hu.attempted _ _).refused h
  | created payment v _ _ _ h =>
    have hset : Quiet v := h.eq ▸ (hu.attempted _ _).settled _ _
    exact letters_completed (hset.followedUp _) _
  | createdRefused detail v _ h =>
    exact letters_completed (((hu.attempted _ _).refused h).uncertain _ _ _ _) _
  | createUncertain => exact letters_completed ((hu.attempted _ _).uncertain _ _ _ _) _
  | createRetryable reason =>
    have hfailed : Quiet (transitioned .failedRetryable .paymentFailed
        [("provider", .str u.intent.provider), ("retryable", .bool true)]
        (some ReasonCode.providerTransientFailure.value) (attempted true false u)) :=
      (hu.attempted _ _).transitioned _ _ _ (by decide)
    exact letters_retryEvent hfailed _ _ (by simp [retryPayload])
  | createTerminal detail =>
    have hfailed : Quiet (transitioned .failedTerminal .paymentFailed
        [("provider", .str u.intent.provider), ("retryable", .bool false), ("detail", .str detail)]
        (some ReasonCode.providerTerminalFailure.value) (attempted true false u)) :=
      (hu.attempted _ _).transitioned _ _ _ (by decide)
    exact letters_completed (hfailed.withMission _) _

/-- A reconcile turn on an open intent puts its event back and does not record what became of it: the
intent is ambiguous, or the payment it finds is still open. -/
def Unrecorded (env : Env) (lookup : LookupAnswer) (i : PaymentIntentRow) : Prop :=
  match lookup with
  | .notFound => i.providerAmbiguityObservedAt ≠ none
  | .found payment => i.providerAmbiguityObservedAt ≠ none ∨
    Adoptable env payment i ∧ providerStatusToState payment.status = .providerPending
  | _ => False

/-- The state of an open intent after an answer was folded in. -/
lemma settled_state_of_open (payment : ProviderPayment) (now : Datetime)
    (h : u.intent.state.isTerminal = false) :
    (settled payment now u).intent.state = providerStatusToState payment.status := by
  rw [settled_state]
  split
  · next hs => exact hs.resolve_right (by simp [h])
  · rfl

lemma attempted_open (h : u.intent.state.isTerminal = false) (a b : Bool) :
    (attempted a b u).intent.state.isTerminal = false := by
  rw [attempted_intent]
  split
  · rfl
  · exact h

lemma maybeUncertain_open {s : PaymentIntentState} (h : maybeUncertain s) : s.isTerminal = false := by
  rcases h with rfl | h
  · rfl
  · revert h
    cases s <;> simp [canTransition, allowedTransitions, isTerminal]

/-- A reconcile turn that is not `Unrecorded`, or has attempts left, records a dead letter exactly
when it gives its event up. -/
theorem Reconciled.letters (h : Reconciled ctx u e u' e')
    (hleft : u.intent.state.isTerminal = false → Unrecorded ctx.env ctx.lookup u.intent →
      e.attempts < e.maxAttempts)
    (hu : Quiet u) : Letters e e' u' := by
  cases h with
  | finished => exact letters_completed hu _
  | ambiguityObserved error =>
    have hmarked : Quiet (PaymentExecutor.ambiguityObserved ctx.now error.detail u) :=
      (hu.withIntent _).transitioned _ _ _ (by decide)
    exact letters_retried hmarked _ _ _ _
  | lookupFailed => exact letters_retried hu _ _ _ _
  | ambiguous payment hl ha hs =>
    have hkept : Quiet (ambiguityKept ctx.now u) := by
      unfold ambiguityKept
      split
      · exact hu.transitioned _ _ _ (by decide)
      · exact hu
    have hsilent : Unrecorded ctx.env ctx.lookup u.intent := by
      rw [hl]
      cases payment with
      | none => exact ha
      | some payment => exact .inl ha
    exact letters_of_quiet (hkept.noted _ (by decide))
      (rescheduled_not_failed _ _ (hleft (maybeUncertain_open hs) hsilent))
  | linkedNotFound => exact letters_retried (hu.noted _ (by decide)) _ _ _ _
  | fencedNotFound =>
    have hkept : Quiet (fencedKept u) := by
      unfold fencedKept
      split
      · exact hu.transitioned _ _ _ (by decide)
      · exact hu
    exact letters_retried (hkept.noted _ (by decide)) _ _ _ _
  | noPayment =>
    have hdone : Quiet (PaymentExecutor.noPayment ctx.now u) := by
      refine Quiet.noted (Quiet.queuedEvent (Quiet.withIntent ?_ _) _ _) _ (by decide)
      exact hu.noted _ (by decide)
    exact letters_completed hdone _
  | found payment v hl ha hs h =>
    have hset : Quiet v := h.eq ▸ (hu.attempted _ _).settled _ _
    refine letters_of_quiet (hset.noted _ (by decide)) ?_
    unfold followedUpEvent
    split
    · next hpending =>
      rw [h.eq, settled_state_of_open _ _ (attempted_open hs _ _)] at hpending
      refine rescheduled_not_failed _ _ (hleft hs ?_)
      rw [hl]
      exact .inr ⟨(adoptable_attempted _ _).mp h.adoptable, hpending⟩
    · simp [completed]
  | refused payment detail v _ _ _ _ h =>
    have hset : Quiet v := by
      rcases h with rfl | ⟨-, h⟩
      · exact hu
      · exact (hu.attempted _ _).refused h
    exact letters_retried hset _ _ _ _

end Handlers

end PaymentExecutor

end Pactra
