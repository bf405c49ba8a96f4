import Pactra.Schemas.Canonical

/-!
# Payment vocabulary

`packages/schemas/payment.py`: the states of a logical payment, what a provider says about its
own payment object, what a verified webhook carries, and the fingerprint of a payment request.
-/

namespace Pactra

/-- `PaymentIntentState`. -/
inductive PaymentIntentState where
  | created | queued | processing | providerPending | succeeded | failedRetryable
  | failedTerminal | cancelled
deriving DecidableEq

namespace PaymentIntentState

/-- The wire value of a payment state. -/
def value : PaymentIntentState → String
  | .created => "CREATED"
  | .queued => "QUEUED"
  | .processing => "PROCESSING"
  | .providerPending => "PROVIDER_PENDING"
  | .succeeded => "SUCCEEDED"
  | .failedRetryable => "FAILED_RETRYABLE"
  | .failedTerminal => "FAILED_TERMINAL"
  | .cancelled => "CANCELLED"

/-- `PaymentIntentState(raw)`. -/
def ofValue (raw : String) : Option PaymentIntentState :=
  [created, queued, processing, providerPending, succeeded, failedRetryable, failedTerminal,
    cancelled].find? (fun t => decide (t.value = raw))

@[simp] theorem ofValue_value (t : PaymentIntentState) : ofValue t.value = some t := by
  cases t <;> simp [ofValue, value]

theorem value_of_ofValue {raw : String} {s : PaymentIntentState} (h : ofValue raw = some s) :
    s.value = raw := by
  simpa using List.find?_some h

theorem value_injective : Function.Injective value := by
  intro s t h
  have hs : ofValue s.value = ofValue t.value := congrArg ofValue h
  rw [ofValue_value, ofValue_value] at hs
  exact Option.some.inj hs

end PaymentIntentState

/-- `OutboxStatus`. -/
inductive OutboxStatus where
  | pending | inProgress | processed | failed
deriving DecidableEq

/-- `OutboxEventType`. -/
inductive OutboxEventType where
  | paymentCreateRequested | paymentReconcileRequested
deriving DecidableEq

/-- `ProviderPaymentStatus`. -/
inductive ProviderPaymentStatus where
  | created | pending | succeeded | failed
deriving DecidableEq

/-- The wire value of a provider status. -/
def ProviderPaymentStatus.value : ProviderPaymentStatus → String
  | .created => "CREATED"
  | .pending => "PENDING"
  | .succeeded => "SUCCEEDED"
  | .failed => "FAILED"

/-- `provider_status_to_state`. -/
def providerStatusToState : ProviderPaymentStatus → PaymentIntentState
  | .created => .providerPending
  | .pending => .providerPending
  | .succeeded => .succeeded
  | .failed => .failedTerminal

/-- `PaymentRequest`: what the executor asks a provider to create. -/
structure PaymentRequest where
  idempotencyKey : String
  amountInr : Int
  currency : String
  merchantId : String
  transactionDigestPrefix : String
deriving DecidableEq

/-- `ProviderPayment`: a payment as the provider reports it. The schema requires a non-empty
reference. -/
structure ProviderPayment where
  provider : String
  providerPaymentId : String
  status : ProviderPaymentStatus
  amountInr : Int
  currency : String
  idempotencyKey : Option String
  providerOrderId : Option String
  providerTransactionId : Option String
  providerReceipt : Option String
  providerStatus : Option String
  providerAttempts : Option Int
  providerPaymentId_ne : providerPaymentId ≠ ""
deriving DecidableEq

/-- `WebhookEventType`. -/
inductive WebhookEventType where
  | paymentSucceeded | paymentFailed | paymentPending | paymentAttemptFailed
deriving DecidableEq

/-- The wire value of a webhook event type. -/
def WebhookEventType.value : WebhookEventType → String
  | .paymentSucceeded => "payment.succeeded"
  | .paymentFailed => "payment.failed"
  | .paymentPending => "payment.pending"
  | .paymentAttemptFailed => "payment.attempt_failed"

/-- `webhook_type_to_state`. -/
def webhookTypeToState : WebhookEventType → PaymentIntentState
  | .paymentSucceeded => .succeeded
  | .paymentFailed => .failedTerminal
  | .paymentPending => .providerPending
  | .paymentAttemptFailed => .providerPending

/-- `VerifiedWebhookEvent`: a webhook whose signature already verified. -/
structure VerifiedWebhookEvent where
  provider : String
  providerEventId : String
  eventType : WebhookEventType
  providerPaymentId : String
  providerOrderId : Option String
  providerTransactionId : Option String
  amountInr : Option Int
  currency : Option String
  providerStatus : Option String
  providerAttempts : Option Int
  sequence : Option Int
  occurredAt : Option Datetime := none
deriving DecidableEq

/-- `request_fingerprint`: commitment to everything that makes two payment requests the same. -/
def requestFingerprint (missionId authorizationId : Uuid) (transactionDigest : String)
    (amountInr : Int) (currency merchantId provider : String) : String :=
  Canonical.canonicalDigest "pactra-payment-request-v1"
    [("mission_id", .str missionId.str),
     ("authorization_id", .str authorizationId.str),
     ("transaction_digest", .str transactionDigest),
     ("amount_inr", .int amountInr),
     ("currency", .str currency),
     ("merchant_id", .str merchantId),
     ("provider", .str provider)]

end Pactra
