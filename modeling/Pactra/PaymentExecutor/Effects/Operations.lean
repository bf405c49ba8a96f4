import Pactra.PaymentExecutor.Executor

/-!
# What the payment operations do

The handlers of `Executor.lean`, `Reconciliation.lean` and `Webhooks.lean` are built from a few
operations on a unit of work. Each operation has a closed form here, a function on units of work,
and each handler an inductive relation in one of the sibling modules, with one constructor per way
it can end: the closed forms it composes, and the guards under which it does. Everything that is
proved about committed payment rows is proved by cases on these relations.

## Main results

- `run_recordPaymentAttempt`, `markUncertain_ok` — attempts and uncertainty compute their closed
  forms
- `linkProviderPayment_cases` — what linking a provider payment leaves behind, however it ends
- `applyProviderPayment_ok`, `applyProviderPayment_error` — the same for folding in an answer
- `verifyIntentAuthorizationBeforeProviderIo_ok` — what the check before provider I/O establishes
-/

namespace Pactra

namespace PaymentExecutor

open PaymentIntentState

-- ════════════════════════════════════════════════════════════════════════
-- Closed forms
-- ════════════════════════════════════════════════════════════════════════

/-- A unit of work with one more audit event. -/
def noted (eventType : EventType) (payload : Dict) (u : UnitOfWork) : UnitOfWork :=
  { u with entries := u.entries ++ [⟨eventType, actor, payload⟩] }

/-- A unit of work with one more outbox event. -/
def queuedEvent (eventType : OutboxEventType) (now : Datetime) (u : UnitOfWork) : UnitOfWork :=
  { u with
    enqueued := u.enqueued ++
      [⟨eventType, [("idempotency_key", .str u.intent.idempotencyKey)], now⟩] }

/-- A unit of work with a changed intent row. -/
def withIntent (f : PaymentIntentRow → PaymentIntentRow) (u : UnitOfWork) : UnitOfWork :=
  { u with intent := f u.intent }

/-- A unit of work whose mission was moved, where that is legal. -/
def withMission (target : MissionState) (u : UnitOfWork) : UnitOfWork :=
  { u with mission := u.mission.map (movedMission target) }

/-- The closed form of `applyPaymentTransition`. -/
def transitioned (target : PaymentIntentState) (eventType : EventType) (payload : Dict)
    (reasonCode : Option String) (u : UnitOfWork) : UnitOfWork :=
  noted eventType (transitionPayload u.intent target payload reasonCode)
    (withIntent (fun i => { i with state := target, lastReasonCode := reasonCode }) u)

/-- The states an attempt can be recorded from. -/
def unstarted (state : PaymentIntentState) : Prop := state = .queued ∨ state = .failedRetryable

instance : DecidablePred unstarted := fun s => by unfold unstarted; infer_instance

/-- The payload of the attempt event. -/
def attemptPayload (intent : PaymentIntentRow) (providerCreateInvoked recoveredExisting : Bool) :
    Dict :=
  [("provider", .str intent.provider), ("attempt", .int (intent.attempts + 1)),
   ("provider_create_invoked", .bool providerCreateInvoked),
   ("recovered_existing_provider_payment", .bool recoveredExisting)]

/-- The closed form of `recordPaymentAttempt`. -/
def attempted (providerCreateInvoked recoveredExisting : Bool) (u : UnitOfWork) : UnitOfWork :=
  if unstarted u.intent.state then
    withIntent (fun i => { i with attempts := i.attempts + 1 })
      (transitioned .processing .paymentAttempted
        (attemptPayload u.intent providerCreateInvoked recoveredExisting) none u)
  else u

/-- Whether an uncertainty is, or remains, a provider ambiguity. -/
def ambiguous (reasonCode : String) (intent : PaymentIntentRow) : Prop :=
  reasonCode = ReasonCode.providerAmbiguity.value ∨ intent.providerAmbiguityObservedAt ≠ none

instance (reasonCode : String) (intent : PaymentIntentRow) :
    Decidable (ambiguous reasonCode intent) := by unfold ambiguous; infer_instance

/-- The reason code an uncertainty records. -/
def recordedReason (reasonCode : String) (intent : PaymentIntentRow) : String :=
  if ambiguous reasonCode intent then ReasonCode.providerAmbiguity.value else reasonCode

/-- The intent row with an ambiguity remembered, if there is one. -/
def markedAmbiguous (now : Datetime) (reasonCode : String) (intent : PaymentIntentRow) :
    PaymentIntentRow :=
  if ambiguous reasonCode intent then rememberProviderAmbiguity now intent else intent

/-- The payload of the timeout event. -/
def timeoutPayload (intent : PaymentIntentRow) (reasonCode detail : String) : Dict :=
  [("payment_intent_id", .str intent.id.str), ("reason_code", .str reasonCode),
   ("provider", .str intent.provider), ("detail", .str detail),
   ("provider_ambiguity_remains", .bool intent.providerAmbiguityObservedAt.isSome)]

/-- The closed form of `markUncertain`. -/
def uncertain (detail : String) (now : Datetime) (reasonCode : String) (timedOut : Bool)
    (u : UnitOfWork) : UnitOfWork :=
  let marked := { u with intent := markedAmbiguous now reasonCode u.intent }
  let timed := if timedOut then
      noted .paymentProviderTimeout (timeoutPayload marked.intent reasonCode detail) marked
    else marked
  queuedEvent .paymentReconcileRequested now
    (transitioned .providerPending .paymentProviderUncertain
      (uncertainPayload marked.intent detail) (some (recordedReason reasonCode u.intent)) timed)

/-- The intent row after a provider payment was linked to it. -/
def linked (payment : ProviderPayment) (intent : PaymentIntentRow) : PaymentIntentRow :=
  reported payment.providerStatus payment.providerAttempts
    { intent with
      providerPaymentId := some payment.providerPaymentId
      providerOrderId := payment.providerOrderId.or intent.providerOrderId
      providerReceipt := payment.providerReceipt.or intent.providerReceipt
      providerTransactionId :=
        if payment.status = .succeeded then
          payment.providerTransactionId.or intent.providerTransactionId
        else intent.providerTransactionId }

/-- The closed form of `applyProviderPayment`. -/
def settled (payment : ProviderPayment) (now : Datetime) (u : UnitOfWork) : UnitOfWork :=
  let target := providerStatusToState payment.status
  let evidence := Dict.update [("provider", .str u.intent.provider)]
    (providerEvidencePayload payment)
  let v := withIntent (linked payment) u
  if u.intent.state = target ∨ u.intent.state.isTerminal = true then v
  else
    match target with
    | .succeeded =>
      withMission .paymentSucceeded (transitioned .succeeded .paymentSucceeded
        (Dict.update evidence
          [("amount_inr", .int u.intent.amountInr), ("currency", .str u.intent.currency),
           ("settled_at", .str now.isoformat)]) none v)
    | .failedTerminal =>
      withMission .paymentFailed (transitioned .failedTerminal .paymentFailed evidence
        (some ReasonCode.providerTerminalFailure.value) v)
    | _ =>
      transitioned .providerPending .paymentProviderUncertain
        (Dict.update evidence [("provider_state", .str payment.status.value)]) none v

@[simp] lemma noted_intent (eventType : EventType) (payload : Dict) (u : UnitOfWork) :
    (noted eventType payload u).intent = u.intent := rfl

@[simp] lemma withIntent_intent (f : PaymentIntentRow → PaymentIntentRow) (u : UnitOfWork) :
    (withIntent f u).intent = f u.intent := rfl

@[simp] lemma rememberProviderAmbiguity_state (now : Datetime) (intent : PaymentIntentRow) :
    (rememberProviderAmbiguity now intent).state = intent.state := rfl

-- ════════════════════════════════════════════════════════════════════════
-- The operations compute their closed forms
-- ════════════════════════════════════════════════════════════════════════

@[simp] lemma run_append (eventType : EventType) (payload : Dict) (u : UnitOfWork) :
    (append eventType payload).run u = (.ok (), noted eventType payload u) := rfl

@[simp] lemma run_enqueueOutboxEvent (eventType : OutboxEventType) (now : Datetime)
    (u : UnitOfWork) :
    (enqueueOutboxEvent eventType now).run u = (.ok (), queuedEvent eventType now u) := rfl

@[simp] lemma run_setIntent (f : PaymentIntentRow → PaymentIntentRow) (u : UnitOfWork) :
    (setIntent f).run u = (.ok (), withIntent f u) := rfl

@[simp] lemma run_applyMissionState (target : MissionState) (u : UnitOfWork) :
    (applyMissionState target).run u = (.ok (), withMission target u) := rfl

@[simp] lemma run_completeEvent (now : Datetime) (t : Turn) :
    (completeEvent now).run t = (.ok (), { t with event := completed now t.event }) := rfl

@[simp] lemma run_rescheduleEvent (reason : String) (now : Datetime) (t : Turn) :
    (rescheduleEvent reason now).run t =
      (.ok (decide (t.event.attempts < t.event.maxAttempts)),
        { t with event := rescheduled reason now t.event }) := rfl

lemma run_applyPaymentTransition (target : PaymentIntentState) (eventType : EventType)
    (payload : Dict) (reasonCode : Option String) (u : UnitOfWork) :
    (applyPaymentTransition target eventType payload reasonCode).run u =
      if u.intent.state.canTransition target then
        (.ok (), transitioned target eventType payload reasonCode u)
      else (.error (.illegalPaymentTransition u.intent.state target), u) := by
  by_cases h : u.intent.state.canTransition target = true
  · simp [applyPaymentTransition, Tx.run_bind, run_assertPaymentTransition, h]
    rfl
  · simp [applyPaymentTransition, Tx.run_bind, run_assertPaymentTransition, h]

lemma run_recordPaymentAttempt (providerCreateInvoked recoveredExisting : Bool)
    (u : UnitOfWork) :
    (recordPaymentAttempt providerCreateInvoked recoveredExisting).run u =
      (.ok (), attempted providerCreateInvoked recoveredExisting u) := by
  cases hs : u.intent.state <;>
    simp [recordPaymentAttempt, attempted, unstarted, hs, Tx.run_bind,
      run_assertPaymentTransition, run_applyPaymentTransition, canTransition, allowedTransitions,
      withIntent, transitioned, noted, transitionPayload, attemptPayload]

/-- Whether an uncertainty can be recorded from a state. -/
def maybeUncertain (state : PaymentIntentState) : Prop :=
  state = .providerPending ∨ state.canTransition .providerPending = true

lemma withIntent_state {s : PaymentIntentState} {u : UnitOfWork} (h : u.intent.state = s)
    (reasonCode : Option String) :
    withIntent (fun i => { i with lastReasonCode := reasonCode }) u =
      withIntent (fun i => { i with state := s, lastReasonCode := reasonCode }) u := by
  subst h
  rfl

lemma markUncertain_ok {detail : String} {now : Datetime} {reasonCode : String} {timedOut : Bool}
    {u u' : UnitOfWork}
    (h : (markUncertain detail now reasonCode timedOut).run u = (.ok (), u')) :
    maybeUncertain u.intent.state ∧ u' = uncertain detail now reasonCode timedOut u := by
  by_cases ha : reasonCode = ReasonCode.providerAmbiguity.value ∨
      u.intent.providerAmbiguityObservedAt ≠ none
  all_goals
    by_cases hs : u.intent.state = .providerPending
    · refine ⟨.inl hs, ?_⟩
      cases timedOut
      all_goals
        simp [markUncertain, Tx.run_bind, ha, hs] at h
        subst h
        rw [withIntent_state (by simpa using hs)]
        simp [uncertain, transitioned, markedAmbiguous, recordedReason, ambiguous, ha, withIntent,
          timeoutPayload]
    · by_cases hc : u.intent.state.canTransition .providerPending = true
      · refine ⟨.inr hc, ?_⟩
        cases timedOut
        all_goals
          simp [markUncertain, Tx.run_bind, ha, hs, hc, run_applyPaymentTransition] at h
          subst h
          simp [uncertain, markedAmbiguous, recordedReason, ambiguous, ha, withIntent,
            timeoutPayload]
      · cases timedOut <;>
          simp [markUncertain, Tx.run_bind, ha, hs, hc, run_applyPaymentTransition] at h

-- ════════════════════════════════════════════════════════════════════════
-- Linking provider evidence
-- ════════════════════════════════════════════════════════════════════════

/-- Two reports of one reference do not contradict each other. -/
def Agree (held value : Option String) : Prop := held = none ∨ value = none ∨ held = value

/-- A provider payment whose references do not contradict those the intent records. -/
structure Linkable (payment : ProviderPayment) (intent : PaymentIntentRow) : Prop where
  paymentId : Agree intent.providerPaymentId (some payment.providerPaymentId)
  orderId : Agree intent.providerOrderId payment.providerOrderId
  receipt : Agree intent.providerReceipt payment.providerReceipt
  transactionId : payment.status = .succeeded →
    Agree intent.providerTransactionId payment.providerTransactionId

/-- A column that is written at most once. -/
def KeptOnce (old new : Option String) : Prop := old = none ∨ new = old

/-- An intent row that a refused link left behind: references it lacked may have been filled in,
and one it had was contradicted. -/
structure PartlyLinked (intent intent' : PaymentIntentRow) : Prop where
  columns : intent' = { intent with
    providerPaymentId := intent'.providerPaymentId
    providerOrderId := intent'.providerOrderId
    providerReceipt := intent'.providerReceipt }
  paymentId : KeptOnce intent.providerPaymentId intent'.providerPaymentId
  orderId : KeptOnce intent.providerOrderId intent'.providerOrderId
  receipt : KeptOnce intent.providerReceipt intent'.providerReceipt
  contradicted : intent.providerPaymentId ≠ none ∨ intent.providerOrderId ≠ none ∨
    intent.providerReceipt ≠ none ∨ intent.providerTransactionId ≠ none

lemma Agree.keptOnce {held value : Option String} (h : Agree held value) :
    KeptOnce held (value.or held) := by
  rcases h with rfl | rfl | rfl
  · exact .inl rfl
  · exact .inr rfl
  · exact .inr (by cases held <;> rfl)

lemma assignOnce_cases (env : Env) (provider label : String) (held value : Option String) :
    (Agree held value ∧ ∀ u,
      (assignOnce env provider label held value).run u = (.ok (value.or held), u)) ∨
    ((held ≠ none ∧ ¬Agree held value) ∧
      ∃ detail, ∀ u, (assignOnce env provider label held value).run u =
        (.error (.provider ⟨.mismatch, provider, detail⟩), u)) := by
  cases value with
  | none => exact .inl ⟨.inr (.inl rfl), fun u => by cases held <;> rfl⟩
  | some v =>
    cases held with
    | none => exact .inl ⟨.inl rfl, fun u => rfl⟩
    | some e =>
      by_cases hev : e = v
      · subst hev
        exact .inl ⟨.inr (.inr rfl), fun u => by simp [assignOnce]⟩
      · exact .inr ⟨⟨by simp, by simp [Agree, hev]⟩, _, fun u => by
          simp only [assignOnce, if_neg hev]; rfl⟩

/-- How linking ends: with every reference recorded, at a contradiction, or at a unique
constraint. -/
lemma linkProviderPayment_cases (env : Env) (db : Db) (payment : ProviderPayment)
    (u : UnitOfWork) :
    (Linkable payment u.intent ∧ (linkProviderPayment env db payment).run u =
      (if referenceTaken db (linked payment u.intent) then
        (.error .integrityError, withIntent (linked payment) u)
      else (.ok (), withIntent (linked payment) u))) ∨
    (¬Linkable payment u.intent ∧ ∃ detail intent', PartlyLinked u.intent intent' ∧
      (linkProviderPayment env db payment).run u =
        (.error (.provider ⟨.mismatch, u.intent.provider, detail⟩),
          { u with intent := intent' })) := by
  rcases assignOnce_cases env u.intent.provider "provider reference" u.intent.providerPaymentId
    (some payment.providerPaymentId) with ⟨hp, hrun⟩ | ⟨⟨hne, hnot⟩, detail, hrun⟩
  swap
  · refine .inr ⟨fun h => hnot h.paymentId, detail, u.intent, ⟨rfl, .inr rfl, .inr rfl, .inr rfl, .inl hne⟩, ?_⟩
    simp [linkProviderPayment, Tx.run_bind, hrun]
  rcases assignOnce_cases env u.intent.provider "provider order id" u.intent.providerOrderId
    payment.providerOrderId with ⟨ho, hrun'⟩ | ⟨⟨hne, hnot⟩, detail, hrun'⟩
  swap
  · refine .inr ⟨fun h => hnot h.orderId, detail, { u.intent with providerPaymentId := some payment.providerPaymentId },
      ⟨rfl, hp.keptOnce, .inr rfl, .inr rfl, .inr (.inl hne)⟩, ?_⟩
    simp [linkProviderPayment, Tx.run_bind, hrun, hrun', withIntent]
  rcases assignOnce_cases env u.intent.provider "provider receipt" u.intent.providerReceipt
    payment.providerReceipt with ⟨hr, hrun''⟩ | ⟨⟨hne, hnot⟩, detail, hrun''⟩
  swap
  · refine .inr ⟨fun h => hnot h.receipt, detail, { u.intent with
        providerPaymentId := some payment.providerPaymentId
        providerOrderId := payment.providerOrderId.or u.intent.providerOrderId },
      ⟨rfl, hp.keptOnce, ho.keptOnce, .inr rfl, .inr (.inr (.inl hne))⟩, ?_⟩
    simp [linkProviderPayment, Tx.run_bind, hrun, hrun', hrun'', withIntent]
  by_cases hst : payment.status = .succeeded
  · rcases assignOnce_cases env u.intent.provider "provider transaction id"
      u.intent.providerTransactionId payment.providerTransactionId with
      ⟨ht, hrun₃⟩ | ⟨⟨hne, hnot⟩, detail, hrun₃⟩
    · refine .inl ⟨⟨hp, ho, hr, fun _ => ht⟩, ?_⟩
      simp [linkProviderPayment, Tx.run_bind, hrun, hrun', hrun'', hrun₃, hst, flushIntent, withIntent,
        linked]
    · refine .inr ⟨fun h => hnot (h.transactionId hst), detail, { u.intent with
          providerPaymentId := some payment.providerPaymentId
          providerOrderId := payment.providerOrderId.or u.intent.providerOrderId
          providerReceipt := payment.providerReceipt.or u.intent.providerReceipt },
        ⟨rfl, hp.keptOnce, ho.keptOnce, hr.keptOnce, .inr (.inr (.inr hne))⟩, ?_⟩
      simp [linkProviderPayment, Tx.run_bind, hrun, hrun', hrun'', hrun₃, hst, withIntent]
  · refine .inl ⟨⟨hp, ho, hr, fun h => absurd h hst⟩, ?_⟩
    simp [linkProviderPayment, Tx.run_bind, hrun, hrun', hrun'', hst, flushIntent, withIntent,
      linked]

/-- A provider payment that names the intent's provider, amount and currency, and its key where
one is given or required. -/
def Valid (env : Env) (payment : ProviderPayment) (intent : PaymentIntentRow)
    (requireIdempotencyKey : Bool) : Prop :=
  paymentMismatches env intent payment requireIdempotencyKey = []

lemma run_validateProviderPayment (env : Env) (payment : ProviderPayment)
    (requireIdempotencyKey : Bool) (u : UnitOfWork) :
    (Valid env payment u.intent requireIdempotencyKey ∧
      (validateProviderPayment env payment requireIdempotencyKey).run u = (.ok (), u)) ∨
    (¬Valid env payment u.intent requireIdempotencyKey ∧
      ∃ detail, (validateProviderPayment env payment requireIdempotencyKey).run u =
        (.error (.provider ⟨.mismatch, u.intent.provider, detail⟩), u)) := by
  by_cases hv : paymentMismatches env u.intent payment requireIdempotencyKey = []
  · exact .inl ⟨hv, by simp [validateProviderPayment, Tx.run_bind, hv]⟩
  · exact .inr ⟨hv, _, by simp only [validateProviderPayment, Tx.run_bind, Tx.run_get,
      List.isEmpty_iff, hv, if_false]; rfl⟩

/-- A provider payment that the intent can adopt. -/
structure Adoptable (env : Env) (payment : ProviderPayment) (intent : PaymentIntentRow) : Prop where
  valid : Valid env payment intent (intent.providerPaymentId == none)
  linkable : Linkable payment intent

/-- A provider answer that was folded in. -/
structure Settles (env : Env) (db : Db) (payment : ProviderPayment) (now : Datetime)
    (u u' : UnitOfWork) : Prop where
  adoptable : Adoptable env payment u.intent
  unique : referenceTaken db (linked payment u.intent) = false
  reachable : u.intent.state = providerStatusToState payment.status ∨
    u.intent.state.isTerminal = true ∨
    u.intent.state.canTransition (providerStatusToState payment.status) = true
  eq : u' = settled payment now u

lemma applyProviderPayment_ok {env : Env} {db : Db} {payment : ProviderPayment} {now : Datetime}
    {u u' : UnitOfWork} {state : PaymentIntentState}
    (h : (applyProviderPayment env db payment now).run u = (.ok state, u')) :
    Settles env db payment now u u' ∧ state = u'.intent.state := by
  unfold applyProviderPayment at h
  rw [Tx.run_bind_of_ok (Tx.run_get u)] at h
  obtain ⟨⟨⟩, u₁, hvalid, h⟩ := Tx.bind_ok.mp h
  obtain ⟨⟨⟩, u₂, hlink, h⟩ := Tx.bind_ok.mp h
  rcases run_validateProviderPayment env payment (u.intent.providerPaymentId == none) u with
    ⟨hv, hrun⟩ | ⟨hnot, detail, hrun⟩
  swap
  · rw [hrun] at hvalid
    simp at hvalid
  rw [hrun] at hvalid
  obtain rfl : u = u₁ := by simpa using hvalid
  rcases linkProviderPayment_cases env db payment u with ⟨hl, hrun'⟩ | ⟨-, _, _, -, hrun'⟩
  swap
  · rw [hrun'] at hlink
    simp at hlink
  rw [hrun'] at hlink
  split at hlink
  · simp at hlink
  next htaken =>
  obtain rfl : withIntent (linked payment) u = u₂ := by simpa using hlink
  have huniq : referenceTaken db (linked payment u.intent) = false := by simpa using htaken
  by_cases hsame : u.intent.state = providerStatusToState payment.status ∨
      u.intent.state.isTerminal = true
  · simp only [if_pos hsame, Tx.run_pure, Prod.mk.injEq, Except.ok.injEq] at h
    obtain ⟨rfl, rfl⟩ := h
    refine ⟨⟨⟨hv, hl⟩, huniq, by tauto, ?_⟩, rfl⟩
    simp [settled, hsame]
  · have hstate : (withIntent (linked payment) u).intent.state = u.intent.state := rfl
    simp only [if_neg hsame] at h
    cases hst : payment.status <;>
      simp only [hst, providerStatusToState, Tx.run_bind, run_applyPaymentTransition, hstate] at h
    all_goals
      by_cases hc : u.intent.state.canTransition (providerStatusToState payment.status) = true
      · simp [hst, providerStatusToState] at hc
        simp only [hc, if_true, Tx.run_get, run_applyMissionState, Tx.run_pure, Prod.mk.injEq,
          Except.ok.injEq] at h
        obtain ⟨rfl, rfl⟩ := h
        refine ⟨⟨⟨hv, hl⟩, huniq, by simp [hst, providerStatusToState, hc], ?_⟩, rfl⟩
        rw [settled, if_neg hsame]
        simp [hst, providerStatusToState]
      · simp [hst, providerStatusToState] at hc
        simp [hc] at h

/-- A unit of work that a refused provider answer left behind. -/
def Refused (u u' : UnitOfWork) : Prop :=
  u' = u ∨ ∃ intent', PartlyLinked u.intent intent' ∧ u' = { u with intent := intent' }

lemma applyProviderPayment_error {env : Env} {db : Db} {payment : ProviderPayment}
    {now : Datetime} {u u' : UnitOfWork} {error : ProviderError}
    (h : (applyProviderPayment env db payment now).run u = (.error (.provider error), u')) :
    Refused u u' ∧ ¬Adoptable env payment u.intent := by
  unfold applyProviderPayment at h
  rw [Tx.run_bind_of_ok (Tx.run_get u)] at h
  rcases run_validateProviderPayment env payment (u.intent.providerPaymentId == none) u with
    ⟨hv, hrun⟩ | ⟨hnot, detail, hrun⟩
  swap
  · rw [Tx.run_bind_of_error hrun] at h
    exact ⟨.inl (Prod.mk.inj h).2.symm, fun had => hnot had.valid⟩
  rw [Tx.run_bind_of_ok hrun] at h
  rcases linkProviderPayment_cases env db payment u with ⟨hl, hrun'⟩ | ⟨hnot, _, i', hi', hrun'⟩
  swap
  · rw [Tx.run_bind_of_error hrun'] at h
    exact ⟨.inr ⟨i', hi', (Prod.mk.inj h).2.symm⟩, fun had => hnot had.linkable⟩
  -- past the link only an illegal transition or a taken reference can stop the call
  split at hrun'
  · rw [Tx.run_bind_of_error hrun'] at h
    simp at h
  · rw [Tx.run_bind_of_ok hrun'] at h
    split at h
    · simp at h
    · split at h
      all_goals
        rcases Tx.bind_error.mp h with h | ⟨_, _, -, h⟩
        · rw [run_applyPaymentTransition] at h
          split at h <;> simp at h
        · simp [Tx.run_bind] at h

/-- The audit event of a retry site: a scheduled retry, or the dead letter of an event whose
attempts are used up. -/
def retryEvent (event : OutboxEventRow) : EventType :=
  if event.attempts < event.maxAttempts then .paymentRetryScheduled else .outboxEventDeadLettered

-- ════════════════════════════════════════════════════════════════════════
-- Handlers on a unit of work
-- ════════════════════════════════════════════════════════════════════════

/-- A guarded block ended normally, or its body was refused and the handler ended normally. -/
lemma exceptMismatch_ok {σ α : Type} {x : Tx σ Exc α} {handler : ProviderError → Tx σ Exc α}
    {s s' : σ} {a : α} (h : (exceptMismatch x handler).run s = (.ok a, s')) :
    x.run s = (.ok a, s') ∨
      ∃ error s₁, error.kind = .mismatch ∧ x.run s = (.error (.provider error), s₁) ∧
        (handler error).run s₁ = (.ok a, s') := by
  rcases Tx.tryCatch_ok.mp h with h | ⟨exc, s₁, hx, hh⟩
  · exact .inl h
  · cases exc with
    | provider error =>
      by_cases hk : error.kind = .mismatch
      · exact .inr ⟨error, s₁, hk, hx, by simpa [hk] using hh⟩
      · simp [hk] at hh
    | _ => simp at hh

lemma onWork_eq {α : Type} {x : Work α} {t t' : Turn} {r : Except Exc α}
    (h : (onWork x).run t = (r, t')) :
    ∃ u', x.run t.work = (r, u') ∧ t' = { t with work := u' } := by
  obtain ⟨h₁, h₂⟩ := Prod.mk.inj h
  exact ⟨_, Prod.ext h₁ rfl, h₂.symm⟩

/-- Validate an answer and fold it in, possibly after recording the attempt: the common start of
the branches that hold a provider payment. -/
lemma recover_ok {env : Env} {db : Db} {payment : ProviderPayment} {now : Datetime}
    {requireKey : Bool} {rest : Work PaymentIntentState} {u v u' : UnitOfWork}
    {state : PaymentIntentState}
    (hrest : rest.run u = (applyProviderPayment env db payment now).run v)
    (h : (do
      validateProviderPayment env payment requireKey
      rest : Work PaymentIntentState).run u = (.ok state, u')) :
    Valid env payment u.intent requireKey ∧ Settles env db payment now v u' ∧
      state = u'.intent.state := by
  rcases run_validateProviderPayment env payment requireKey u with ⟨hv, hrun⟩ | ⟨hnot, detail, hrun⟩
  · rw [Tx.run_bind_of_ok hrun, hrest] at h
    exact ⟨hv, applyProviderPayment_ok h⟩
  · rw [Tx.run_bind_of_error hrun] at h
    simp at h

lemma recover_error {env : Env} {db : Db} {payment : ProviderPayment} {now : Datetime}
    {requireKey : Bool} {rest : Work PaymentIntentState} {u v u' : UnitOfWork}
    {error : ProviderError}
    (hrest : rest.run u = (applyProviderPayment env db payment now).run v)
    (h : (do
      validateProviderPayment env payment requireKey
      rest : Work PaymentIntentState).run u = (.error (.provider error), u')) :
    (u' = u ∨ Valid env payment u.intent requireKey ∧ Refused v u') ∧
      ¬(Valid env payment u.intent requireKey ∧ Adoptable env payment v.intent) := by
  rcases run_validateProviderPayment env payment requireKey u with ⟨hv, hrun⟩ | ⟨hnot, detail, hrun⟩
  · rw [Tx.run_bind_of_ok hrun, hrest] at h
    obtain ⟨hrefused, hnot⟩ := applyProviderPayment_error h
    exact ⟨.inr ⟨hv, hrefused⟩, fun had => hnot had.2⟩
  · rw [Tx.run_bind_of_error hrun] at h
    exact ⟨.inl (Prod.mk.inj h).2.symm, fun had => hnot had.1⟩

lemma validateProviderRoute_ok {ctx : TurnContext} {t t' : Turn}
    (h : (onWork (validateProviderRoute ctx)).run t = (.ok (), t')) :
    t' = t ∧ ctx.provider = t.work.intent.provider := by
  obtain ⟨u', hrun, rfl⟩ := onWork_eq h
  unfold validateProviderRoute at hrun
  rw [Tx.run_bind_of_ok (Tx.run_get _)] at hrun
  have hp : ctx.provider = t.work.intent.provider := Tx.of_ite_raise_ok hrun
  simp only [hp, if_true, Tx.run_pure, Prod.mk.injEq, true_and] at hrun
  exact ⟨by rw [← hrun], hp⟩

/-- The durable authority of an intent: its authorization row, and the transaction that row
rebuilds to and proves, in agreement with the intent's own columns. -/
structure Verified (ctx : TurnContext) (intent : PaymentIntentRow) (a : AuthorizationRow)
    (transaction : BoundTransaction) : Prop where
  row : ctx.db.getAuthorization intent.authorizationId = some a
  proof : ((SecurityKernel.verifyAuthorizationForPayment ctx.env a .consumed ctx.now).run
    ctx.db).1 = .ok transaction
  missionId : a.missionId = intent.missionId
  digest : a.transactionDigest = intent.transactionDigest
  merchantId : transaction.merchantId = intent.merchantId
  amountInr : transaction.amountInr = intent.amountInr
  currency : transaction.currency = intent.currency

lemma verifyIntentAuthorizationBeforeProviderIo_state (ctx : TurnContext) (t : Turn) :
    ((verifyIntentAuthorizationBeforeProviderIo ctx).run t).2 = t := by
  unfold verifyIntentAuthorizationBeforeProviderIo
  rw [Tx.run_bind_of_ok (Tx.run_get t)]
  dsimp only
  split
  · rfl
  · rw [Tx.run_bind, run_reading]
    split
    · next heq =>
      obtain ⟨-, rfl⟩ := Prod.mk.inj heq
      rw [Tx.run_ite]
      exact (apply_ite Prod.snd _ _ _).trans (ite_self _)
    · next heq =>
      obtain ⟨-, rfl⟩ := Prod.mk.inj heq
      rfl

lemma verifyIntentAuthorizationBeforeProviderIo_ok {ctx : TurnContext} {t t' : Turn}
    (h : (verifyIntentAuthorizationBeforeProviderIo ctx).run t = (.ok (), t')) :
    t' = t ∧ ∃ a transaction, Verified ctx t.work.intent a transaction := by
  refine ⟨?_, ?_⟩
  · rw [← verifyIntentAuthorizationBeforeProviderIo_state ctx t, h]
  · unfold verifyIntentAuthorizationBeforeProviderIo at h
    rw [Tx.run_bind_of_ok (Tx.run_get t)] at h
    dsimp only at h
    split at h
    · simp at h
    · next a ha =>
      obtain ⟨transaction, t₁, hread, h⟩ := Tx.bind_ok.mp h
      obtain ⟨hproof, -⟩ := Prod.mk.inj hread
      have hempty := Tx.of_ite_raise_ok h
      simp only [List.isEmpty_iff, List.append_eq_nil_iff, ite_eq_right_iff, List.cons_ne_nil,
        imp_false, not_not] at hempty
      obtain ⟨⟨⟨⟨⟨⟨h₁, -⟩, h₃⟩, h₄⟩, h₅⟩, h₆⟩, -⟩ := hempty
      exact ⟨a, transaction, ha, hproof, h₁, h₃, h₄, h₅, h₆⟩

end PaymentExecutor

end Pactra
