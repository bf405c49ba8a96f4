import Pactra.PaymentExecutor.Effects.Operations
import Pactra.PaymentExecutor.Webhooks

/-!
# What a webhook delivery does

## Main results

- `handleWebhook_ok` — every accepted webhook delivery is `Delivered`
- `handleWebhook_rejected` — a rejected delivery has written nothing
-/

namespace Pactra

namespace PaymentExecutor

open PaymentIntentState

/-- The record of a verified delivery. -/
def verifiedPayload (intent : PaymentIntentRow) (event : VerifiedWebhookEvent) : Dict :=
  [("payment_intent_id", .str intent.id.str), ("provider", .str event.provider),
   ("provider_event_id", .str event.providerEventId),
   ("event_type", .str event.eventType.value), ("sequence", .ofOptInt event.sequence),
   ("provider_order_id", .ofOptStr event.providerOrderId),
   ("provider_transaction_id", .ofOptStr event.providerTransactionId),
   ("provider_status", .ofOptStr event.providerStatus),
   ("provider_attempts", .ofOptInt event.providerAttempts)]

/-- The record of a repeated delivery. -/
def duplicatePayload (intent : PaymentIntentRow) (event : VerifiedWebhookEvent) : Dict :=
  [("payment_intent_id", .str intent.id.str),
   ("reason_code", .str ReasonCode.webhookDuplicate.value),
   ("provider_event_id", .str event.providerEventId), ("state", .str intent.state.value)]

/-- The record of a delivery on an ambiguous intent. -/
def heldPayload (intent : PaymentIntentRow) (event : VerifiedWebhookEvent) : Dict :=
  [("payment_intent_id", .str intent.id.str), ("state", .str intent.state.value),
   ("provider", .str event.provider), ("provider_event_id", .str event.providerEventId),
   ("provider_ambiguity_observed", .bool true), ("webhook_applied", .bool false),
   ("manual_recovery_required", .bool true),
   ("reason_code", .str ReasonCode.providerAmbiguity.value)]

/-- The record of an observation about a payment that stays open. -/
def observedPayload (intent : PaymentIntentRow) (event : VerifiedWebhookEvent) : Dict :=
  Dict.update [("payment_intent_id", .str intent.id.str), ("state", .str intent.state.value)]
    (webhookEvidence event ++ [("reason_code", .ofOptStr (attemptReason event))])

/-- The record of a delivery that the state machine does not permit. -/
def outOfOrderPayload (intent : PaymentIntentRow) (event : VerifiedWebhookEvent) : Dict :=
  [("payment_intent_id", .str intent.id.str),
   ("reason_code", .str ReasonCode.illegalPaymentTransition.value),
   ("provider_event_id", .str event.providerEventId),
   ("current_state", .str intent.state.value),
   ("requested_state", .str (webhookTypeToState event.eventType).value),
   ("terminal", .bool intent.state.isTerminal)]

/-- The audit event of a transition a webhook caused. -/
def webhookEventType : PaymentIntentState → EventType
  | .succeeded => .paymentSucceeded
  | .failedTerminal => .paymentFailed
  | _ => .paymentProviderUncertain

/-- A unit of work whose mission follows a settled payment. -/
def withSettledMission (target : PaymentIntentState) (u : UnitOfWork) : UnitOfWork :=
  match target with
  | .succeeded => withMission .paymentSucceeded u
  | .failedTerminal => withMission .paymentFailed u
  | _ => u

/-- How an accepted delivery can end: what it does to the unit of work, and the state it records
as applied when the delivery was a first one. -/
inductive Delivered (db : Db) (event : VerifiedWebhookEvent) (u : UnitOfWork) :
    UnitOfWork → Option (Option PaymentIntentState) → Prop
  | duplicate (hd : alreadyDelivered db event = true) :
    Delivered db event u (noted .duplicateWebhookIgnored (duplicatePayload u.intent event) u) none
  | held (hd : alreadyDelivered db event = false)
    (ha : u.intent.providerAmbiguityObservedAt ≠ none) :
    Delivered db event u
      (noted .paymentProviderUncertain (heldPayload u.intent event)
        (withIntent
          (fun i => { i with lastReasonCode := some ReasonCode.providerAmbiguity.value })
          (noted .webhookVerified (verifiedPayload u.intent event) u)))
      (some none)
  | observed (hd : alreadyDelivered db event = false)
    (ha : u.intent.providerAmbiguityObservedAt = none)
    (hs : u.intent.state = .providerPending)
    (ht : webhookTypeToState event.eventType = .providerPending)
    (hunique : referenceTaken db (storeProviderEvidence event .providerPending u.intent) = false) :
    Delivered db event u
      (noted .paymentProviderUncertain (observedPayload u.intent event)
        (withIntent (fun i =>
          { storeProviderEvidence event .providerPending i with
            lastReasonCode := attemptReason event })
          (noted .webhookVerified (verifiedPayload u.intent event) u)))
      (some (some u.intent.state))
  | outOfOrder (hd : alreadyDelivered db event = false)
    (ha : u.intent.providerAmbiguityObservedAt = none)
    (hs : u.intent.state = webhookTypeToState event.eventType ∨
      u.intent.state.isTerminal = true ∨
      u.intent.state.canTransition (webhookTypeToState event.eventType) = false)
    (hp : ¬(u.intent.state = webhookTypeToState event.eventType ∧
      u.intent.state = .providerPending)) :
    Delivered db event u
      (noted .webhookOutOfOrderIgnored (outOfOrderPayload u.intent event)
        (noted .webhookVerified (verifiedPayload u.intent event) u))
      (some none)
  | applied (target : PaymentIntentState) (hd : alreadyDelivered db event = false)
    (ha : u.intent.providerAmbiguityObservedAt = none)
    (ht : webhookTypeToState event.eventType = target)
    (hs : u.intent.state.canTransition target = true)
    (hunique : referenceTaken db (storeProviderEvidence event target u.intent) = false) :
    Delivered db event u
      (withSettledMission target
        (transitioned target (webhookEventType target) (webhookEvidence event)
          (attemptReason event)
          (withIntent (storeProviderEvidence event target)
            (noted .webhookVerified (verifiedPayload u.intent event) u))))
      (some (some target))

lemma run_flushIntent (db : Db) (u : UnitOfWork) :
    (flushIntent db).run u =
      if referenceTaken db u.intent then (.error .integrityError, u) else (.ok (), u) := by
  simp [flushIntent, Tx.run_bind]

lemma applyWebhook_ok {db : Db} {event : VerifiedWebhookEvent} {u u' : UnitOfWork}
    {outcome : WebhookOutcome} {applied : Option PaymentIntentState}
    (hd : alreadyDelivered db event = false)
    (h : (applyWebhook db event).run u = (.ok (outcome, applied), u')) :
    Delivered db event u u' (some applied) := by
  unfold applyWebhook at h
  rw [Tx.run_bind_of_ok (Tx.run_get u)] at h
  dsimp only at h
  rw [Tx.run_bind_of_ok (run_append _ _ u)] at h
  split at h
  · next ha =>
    simp [Tx.run_bind] at h
    obtain ⟨⟨-, rfl⟩, rfl⟩ := h
    exact .held hd ha
  next ha =>
  have ha := not_not.mp ha
  split at h
  · next hs =>
    split at h
    · next hp =>
      obtain ⟨ht, hpending⟩ := hp
      have ht : webhookTypeToState event.eventType = .providerPending := ht.symm.trans hpending
      rw [ht] at h
      rw [Tx.run_bind_of_ok (run_setIntent _ _), Tx.run_bind_of_ok (run_setIntent _ _)] at h
      obtain ⟨⟨⟩, u₁, hflush, hrest⟩ := Tx.bind_ok.mp h
      rw [run_flushIntent] at hflush
      split at hflush
      · simp at hflush
      next htaken =>
      obtain rfl := (Prod.mk.inj hflush).2
      simp only [Tx.run_bind, run_append, Tx.run_pure, Prod.mk.injEq, Except.ok.injEq] at hrest
      obtain ⟨⟨-, rfl⟩, rfl⟩ := hrest
      exact .observed hd ha hpending ht ((Bool.not_eq_true _).mp htaken)
    · next hp =>
      simp [Tx.run_bind] at h
      obtain ⟨⟨-, rfl⟩, rfl⟩ := h
      exact .outOfOrder hd ha hs hp
  · next hs =>
    push Not at hs
    rw [Tx.run_bind_of_ok (run_setIntent _ _)] at h
    obtain ⟨⟨⟩, u₁, hflush, hrest⟩ := Tx.bind_ok.mp h
    rw [run_flushIntent] at hflush
    split at hflush
    · simp at hflush
    next htaken =>
    obtain rfl := (Prod.mk.inj hflush).2
    have hcan : u.intent.state.canTransition (webhookTypeToState event.eventType) = true := by
      simpa using hs.2.2
    obtain ⟨⟨⟩, u₂, htrans, hmission⟩ := Tx.bind_ok.mp hrest
    rw [run_applyPaymentTransition] at htrans
    split at htrans
    swap
    · next hc => exact absurd hcan hc
    obtain rfl := (Prod.mk.inj htrans).2
    have hdone : Delivered db event u _ _ :=
      .applied (webhookTypeToState event.eventType) hd ha rfl hcan
        ((Bool.not_eq_true _).mp htaken)
    generalize webhookTypeToState event.eventType = target at hmission hdone
    cases target
    all_goals
      simp only [Tx.run_bind, run_applyMissionState, Tx.run_pure, Prod.mk.injEq,
        Except.ok.injEq] at hmission
      obtain ⟨⟨-, rfl⟩, rfl⟩ := hmission
      exact hdone

/-- An accepted delivery. -/
theorem handleWebhook_ok {db : Db} {event : VerifiedWebhookEvent} {u u' : UnitOfWork}
    {outcome : WebhookOutcome} {applied : Option (Option PaymentIntentState)}
    (h : (handleWebhook db event).run u = (.ok (outcome, applied), u')) :
    evidenceMismatches u.intent event = [] ∧ Delivered db event u u' applied := by
  unfold handleWebhook at h
  rw [Tx.run_bind_of_ok (Tx.run_get u)] at h
  dsimp only at h
  split at h
  · simp at h
  next hm =>
  refine ⟨by simpa using hm, ?_⟩
  split at h
  · next hd =>
    simp [ignoreDuplicate, Tx.run_bind] at h
    obtain ⟨⟨-, rfl⟩, rfl⟩ := h
    exact .duplicate hd
  · next hd =>
    obtain ⟨⟨outcome', applied'⟩, u₁, hrun, hpure⟩ := Tx.bind_ok.mp h
    simp at hpure
    obtain ⟨⟨-, rfl⟩, rfl⟩ := hpure
    exact applyWebhook_ok (by simpa using hd) hrun

/-- Not a rejection of a webhook. -/
def Exc.Accepting (e : Exc) : Prop := ∀ code detail, e ≠ .webhookRejected code detail

/-- Once its evidence agrees with the payment, a delivery is not rejected any more. -/
lemma applyWebhook_accepting (db : Db) (event : VerifiedWebhookEvent) :
    Tx.Raises Exc.Accepting (applyWebhook db event) := by
  have hflush : Tx.Raises Exc.Accepting (flushIntent db) := by
    refine .bind .get fun u => ?_
    exact .ite (.raise nofun) (.pure _)
  have htransition : ∀ target eventType payload reasonCode, Tx.Raises Exc.Accepting
      (applyPaymentTransition target eventType payload reasonCode) := by
    intro target eventType payload reasonCode
    refine .bind .get fun u => .bind ?_ fun _ => .bind (.modify _) fun _ => .modify _
    exact .ite (.pure _) (.raise nofun)
  refine .bind .get fun u => .bind (.modify _) fun _ => .ite ?_ (.ite (.ite ?_ ?_) ?_)
  · exact .bind (.modify _) fun _ => .bind (.modify _) fun _ => .pure _
  · exact .bind (.modify _) fun _ => .bind (.modify _) fun _ => .bind hflush fun _ =>
      .bind (.modify _) fun _ => .pure _
  · exact .bind (.modify _) fun _ => .pure _
  · refine .bind (.modify _) fun _ => .bind hflush fun _ => .bind (htransition _ _ _ _) fun _ => ?_
    split
    all_goals exact .bind (.modify _) fun _ => .pure _

/-- A rejected delivery has written nothing. -/
theorem handleWebhook_rejected {db : Db} {event : VerifiedWebhookEvent} {u u' : UnitOfWork}
    {code detail : String}
    (h : (handleWebhook db event).run u = (.error (.webhookRejected code detail), u')) : u' = u := by
  unfold handleWebhook at h
  rw [Tx.run_bind_of_ok (Tx.run_get u)] at h
  dsimp only at h
  split at h
  · exact (Prod.mk.inj h).2.symm
  · -- past the evidence check nothing rejects the delivery
    refine absurd rfl ((?_ : Tx.Raises Exc.Accepting _) u _ u' h code detail)
    refine .ite ?_ (.bind (applyWebhook_accepting db event) fun _ => .pure _)
    exact .bind (.bind .get fun _ => .bind (.modify _) fun _ => .pure _) fun _ => .pure _

end PaymentExecutor

end Pactra
