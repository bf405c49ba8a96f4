import Pactra.PaymentExecutor.Executor

/-!
# Webhooks

`services/payment_executor/webhooks.py`, from the verified event on: resolve the payment from
server-side state, deduplicate on the unique index, then apply only what the payment state
machine permits.
-/

namespace Pactra

/-- `WebhookOutcome`, less the intent id. -/
structure WebhookOutcome where
  applied : Bool
  reasonCode : Option String
  state : PaymentIntentState
deriving DecidableEq

namespace PaymentExecutor

/-- `_find_intent`: by the reference the program itself recorded. -/
def findIntent (db : Db) (event : VerifiedWebhookEvent) : Option PaymentIntentRow :=
  db.paymentIntents.find? fun i =>
    decide (i.provider = event.provider ∧ i.providerPaymentId = some event.providerPaymentId)

/-- The disagreements between verified evidence and the intent. -/
def evidenceMismatches (intent : PaymentIntentRow) (event : VerifiedWebhookEvent) : List String :=
  (if event.amountInr ≠ none ∧ event.amountInr ≠ some intent.amountInr then ["amount"] else [])
    ++ (if event.currency ≠ none ∧ event.currency ≠ some intent.currency then ["currency"]
      else [])
    ++ (if event.providerOrderId ≠ none ∧ intent.providerOrderId ≠ none ∧
        event.providerOrderId ≠ intent.providerOrderId then ["provider_order_id"] else [])
    ++ (if webhookTypeToState event.eventType = .succeeded ∧
        intent.providerTransactionId ≠ none ∧
        event.providerTransactionId ≠ intent.providerTransactionId then
      ["provider_transaction_id"] else [])

/-- `_store_provider_evidence`. -/
def storeProviderEvidence (event : VerifiedWebhookEvent) (target : PaymentIntentState)
    (intent : PaymentIntentRow) : PaymentIntentRow :=
  reported event.providerStatus event.providerAttempts
    { intent with
      providerOrderId := intent.providerOrderId.or event.providerOrderId
      providerTransactionId :=
        if target = .succeeded then event.providerTransactionId.or intent.providerTransactionId
        else intent.providerTransactionId }

/-- The reason code of an observation about a still open order. -/
def attemptReason (event : VerifiedWebhookEvent) : Option String :=
  if event.eventType = .paymentAttemptFailed then
    some ReasonCode.providerPaymentAttemptFailed.value
  else none

/-- The evidence fields of a webhook in an audit payload. -/
def webhookEvidence (event : VerifiedWebhookEvent) : Dict :=
  [("provider", .str event.provider), ("provider_payment_id", .str event.providerPaymentId),
   ("provider_order_id", .ofOptStr event.providerOrderId),
   ("provider_transaction_id", .ofOptStr event.providerTransactionId),
   ("provider_status", .ofOptStr event.providerStatus),
   ("provider_attempts", .ofOptInt event.providerAttempts),
   ("provider_event_id", .str event.providerEventId), ("source", .str "webhook")]

/-- The delivery was seen before: record that, and change nothing. -/
def ignoreDuplicate (event : VerifiedWebhookEvent) : Work WebhookOutcome := do
  let u ← Tx.get
  append .duplicateWebhookIgnored
    [("payment_intent_id", .str u.intent.id.str),
     ("reason_code", .str ReasonCode.webhookDuplicate.value),
     ("provider_event_id", .str event.providerEventId), ("state", .str u.intent.state.value)]
  pure ⟨false, some ReasonCode.webhookDuplicate.value, u.intent.state⟩

/-- A first delivery: audit the verification, then apply what the state machine permits. -/
def applyWebhook (db : Db) (event : VerifiedWebhookEvent) :
    Work (WebhookOutcome × Option PaymentIntentState) := do
  let u ← Tx.get
  let intent := u.intent
  let current := intent.state
  let target := webhookTypeToState event.eventType
  append .webhookVerified
    [("payment_intent_id", .str intent.id.str), ("provider", .str event.provider),
     ("provider_event_id", .str event.providerEventId),
     ("event_type", .str event.eventType.value), ("sequence", .ofOptInt event.sequence),
     ("provider_order_id", .ofOptStr event.providerOrderId),
     ("provider_transaction_id", .ofOptStr event.providerTransactionId),
     ("provider_status", .ofOptStr event.providerStatus),
     ("provider_attempts", .ofOptInt event.providerAttempts)]
  if intent.providerAmbiguityObservedAt ≠ none then do
    setIntent fun i => { i with lastReasonCode := some ReasonCode.providerAmbiguity.value }
    append .paymentProviderUncertain
      [("payment_intent_id", .str intent.id.str), ("state", .str current.value),
       ("provider", .str event.provider), ("provider_event_id", .str event.providerEventId),
       ("provider_ambiguity_observed", .bool true), ("webhook_applied", .bool false),
       ("manual_recovery_required", .bool true),
       ("reason_code", .str ReasonCode.providerAmbiguity.value)]
    pure (⟨false, some ReasonCode.providerAmbiguity.value, current⟩, none)
  else if current = target ∨ current.isTerminal = true ∨ current.canTransition target = false then
    if current = target ∧ current = .providerPending then do
      setIntent (storeProviderEvidence event target)
      setIntent fun i => { i with lastReasonCode := attemptReason event }
      flushIntent db
      append .paymentProviderUncertain
        (Dict.update [("payment_intent_id", .str intent.id.str), ("state", .str current.value)]
          (webhookEvidence event ++ [("reason_code", .ofOptStr (attemptReason event))]))
      pure (⟨false, attemptReason event, current⟩, some current)
    else do
      append .webhookOutOfOrderIgnored
        [("payment_intent_id", .str intent.id.str),
         ("reason_code", .str ReasonCode.illegalPaymentTransition.value),
         ("provider_event_id", .str event.providerEventId),
         ("current_state", .str current.value), ("requested_state", .str target.value),
         ("terminal", .bool current.isTerminal)]
      pure (⟨false, some ReasonCode.illegalPaymentTransition.value, current⟩, none)
  else do
    setIntent (storeProviderEvidence event target)
    flushIntent db
    applyPaymentTransition target
      (match target with
        | .succeeded => .paymentSucceeded
        | .failedTerminal => .paymentFailed
        | _ => .paymentProviderUncertain)
      (webhookEvidence event) (attemptReason event)
    match target with
    | .succeeded => applyMissionState .paymentSucceeded
    | .failedTerminal => applyMissionState .paymentFailed
    | _ => pure ()
    pure (⟨true, none, target⟩, some target)

/-- The row a first delivery leaves in `webhook_events`. -/
def webhookRow (id intentId : Uuid) (event : VerifiedWebhookEvent) (now : Datetime)
    (appliedState : Option PaymentIntentState) : WebhookEventRow :=
  { id := id, provider := event.provider, providerEventId := event.providerEventId,
    eventType := event.eventType, providerPaymentId := event.providerPaymentId,
    providerTransactionId := event.providerTransactionId, paymentIntentId := intentId,
    sequence := event.sequence, receivedAt := now, processedAt := some now,
    appliedState := appliedState }

/-- Whether the unique index on deliveries already holds this event. -/
def alreadyDelivered (db : Db) (event : VerifiedWebhookEvent) : Bool :=
  db.webhookEvents.any fun w =>
    decide (w.provider = event.provider ∧ w.providerEventId = event.providerEventId)

/-- `handle_webhook` on a verified event: the outcome, and the state it recorded as applied when
the delivery was a first one. -/
def handleWebhook (db : Db) (event : VerifiedWebhookEvent) :
    Work (WebhookOutcome × Option (Option PaymentIntentState)) := do
  let u ← Tx.get
  let mismatches := evidenceMismatches u.intent event
  if !mismatches.isEmpty then
    Tx.raise (.webhookRejected ReasonCode.providerResponseMismatch.value
      ("verified provider evidence mismatches intent: " ++ String.intercalate ", " mismatches))
  else if alreadyDelivered db event then do
    let outcome ← ignoreDuplicate event
    pure (outcome, none)
  else do
    let (outcome, applied) ← applyWebhook db event
    pure (outcome, some applied)

end PaymentExecutor

end Pactra
