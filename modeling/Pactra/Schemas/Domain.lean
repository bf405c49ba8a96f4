import Pactra.Foundation.Numeric
import Pactra.Foundation.Json

/-!
# Domain vocabulary

The enumerations of `packages/schemas/domain.py` with their wire values, identifiers and
instants. A UUID is carried by its canonical text. A datetime is an instant, in microseconds
since the epoch: every datetime of the program is timezone-aware and normalized to UTC by
`as_utc` before it is compared, stored or rendered.
-/

namespace Pactra

/-- A UUID, by its canonical text. -/
structure Uuid where
  str : String
deriving DecidableEq

theorem Uuid.str_injective : Function.Injective Uuid.str := by
  rintro ⟨a⟩ ⟨b⟩ h
  exact congrArg Uuid.mk h

/-- An instant, in microseconds since 1970-01-01T00:00:00Z. -/
abbrev Datetime := Int

namespace Datetime

/-- A duration of whole seconds, in microseconds. -/
def seconds (n : Int) : Int := n * 1000000

/-- The instants a `datetime` can hold in UTC: from the year 1 to the year 9999. -/
def InRange (t : Datetime) : Prop := -62135596800000000 ≤ t ∧ t ≤ 253402300799999999

instance : DecidablePred InRange := fun t => by unfold InRange; infer_instance

/-- Date and time to the second, shared by both renderings below. -/
def dateTimeText (t : Datetime) : String :=
  let date := Numeric.civilFromDays (t / 86400000000)
  let s := t % 86400000000 / 1000000
  Numeric.zeroPad 4 date.year ++ "-" ++ Numeric.zeroPad 2 date.month ++ "-"
    ++ Numeric.zeroPad 2 date.day ++ "T" ++ Numeric.zeroPad 2 (s / 3600) ++ ":"
    ++ Numeric.zeroPad 2 (s % 3600 / 60) ++ ":" ++ Numeric.zeroPad 2 (s % 60)

/-- `datetime.isoformat()` of an aware UTC datetime. The fraction is omitted when it is zero. -/
def isoformat (t : Datetime) : String :=
  let micros := t % 1000000
  dateTimeText t ++ (if micros = 0 then "" else "." ++ Numeric.zeroPad 6 micros) ++ "+00:00"

/-- `encode_timestamp`: fixed-precision UTC, as `"%Y-%m-%dT%H:%M:%S.%fZ"`. -/
def encodeTimestamp (t : Datetime) : String :=
  dateTimeText t ++ "." ++ Numeric.zeroPad 6 (t % 1000000) ++ "Z"

example : isoformat 1767225600000000 = "2026-01-01T00:00:00+00:00" := by decide

end Datetime

/-- `MissionState`. -/
inductive MissionState where
  | created | intentParsed | discovering | offersReceived | offersNormalized | ranked
  | policyChecked | awaitingApproval | authorized | paymentPending | paymentSucceeded
  | paymentFailed | completed | cancelled
deriving DecidableEq

/-- The wire value of a mission state. -/
def MissionState.value : MissionState → String
  | .created => "CREATED"
  | .intentParsed => "INTENT_PARSED"
  | .discovering => "DISCOVERING"
  | .offersReceived => "OFFERS_RECEIVED"
  | .offersNormalized => "OFFERS_NORMALIZED"
  | .ranked => "RANKED"
  | .policyChecked => "POLICY_CHECKED"
  | .awaitingApproval => "AWAITING_APPROVAL"
  | .authorized => "AUTHORIZED"
  | .paymentPending => "PAYMENT_PENDING"
  | .paymentSucceeded => "PAYMENT_SUCCEEDED"
  | .paymentFailed => "PAYMENT_FAILED"
  | .completed => "COMPLETED"
  | .cancelled => "CANCELLED"

/-- `EventType`. -/
inductive EventType where
  | missionCreated | intentParsed | discoveryStarted | offersReceived | offersNormalized
  | offersRanked | policyDecision | approvalRequested | missionDenied | securityViolation
  | authorizationCreated | authorizationActivated | authorizationConsumed
  | authorizationExpired | authorizationRevoked | authorizationReplayDetected
  | transactionBindingFailure
  | paymentIntentCreated | paymentQueued | paymentAttempted | paymentProviderTimeout
  | paymentProviderUncertain | paymentRetryScheduled | paymentReconciled | paymentSucceeded
  | paymentFailed | paymentIntentReused | idempotencyConflict | outboxEventDeadLettered
  | webhookVerified | webhookRejected | duplicateWebhookIgnored | webhookOutOfOrderIgnored
  | riskAssessed
deriving DecidableEq

namespace EventType

/-- The wire value of an event type. -/
def value : EventType → String
  | .missionCreated => "MISSION_CREATED"
  | .intentParsed => "INTENT_PARSED"
  | .discoveryStarted => "DISCOVERY_STARTED"
  | .offersReceived => "OFFERS_RECEIVED"
  | .offersNormalized => "OFFERS_NORMALIZED"
  | .offersRanked => "OFFERS_RANKED"
  | .policyDecision => "POLICY_DECISION"
  | .approvalRequested => "APPROVAL_REQUESTED"
  | .missionDenied => "MISSION_DENIED"
  | .securityViolation => "SECURITY_VIOLATION"
  | .authorizationCreated => "AUTHORIZATION_CREATED"
  | .authorizationActivated => "AUTHORIZATION_ACTIVATED"
  | .authorizationConsumed => "AUTHORIZATION_CONSUMED"
  | .authorizationExpired => "AUTHORIZATION_EXPIRED"
  | .authorizationRevoked => "AUTHORIZATION_REVOKED"
  | .authorizationReplayDetected => "AUTHORIZATION_REPLAY_DETECTED"
  | .transactionBindingFailure => "TRANSACTION_BINDING_FAILURE"
  | .paymentIntentCreated => "PAYMENT_INTENT_CREATED"
  | .paymentQueued => "PAYMENT_QUEUED"
  | .paymentAttempted => "PAYMENT_ATTEMPTED"
  | .paymentProviderTimeout => "PAYMENT_PROVIDER_TIMEOUT"
  | .paymentProviderUncertain => "PAYMENT_PROVIDER_UNCERTAIN"
  | .paymentRetryScheduled => "PAYMENT_RETRY_SCHEDULED"
  | .paymentReconciled => "PAYMENT_RECONCILED"
  | .paymentSucceeded => "PAYMENT_SUCCEEDED"
  | .paymentFailed => "PAYMENT_FAILED"
  | .paymentIntentReused => "PAYMENT_INTENT_REUSED"
  | .idempotencyConflict => "IDEMPOTENCY_CONFLICT"
  | .outboxEventDeadLettered => "OUTBOX_EVENT_DEAD_LETTERED"
  | .webhookVerified => "WEBHOOK_VERIFIED"
  | .webhookRejected => "WEBHOOK_REJECTED"
  | .duplicateWebhookIgnored => "DUPLICATE_WEBHOOK_IGNORED"
  | .webhookOutOfOrderIgnored => "WEBHOOK_OUT_OF_ORDER_IGNORED"
  | .riskAssessed => "RISK_ASSESSED"

/-- Every event type, in declaration order. -/
def all : List EventType :=
  [missionCreated, intentParsed, discoveryStarted, offersReceived, offersNormalized,
   offersRanked, policyDecision, approvalRequested, missionDenied, securityViolation,
   authorizationCreated, authorizationActivated, authorizationConsumed, authorizationExpired,
   authorizationRevoked, authorizationReplayDetected, transactionBindingFailure,
   paymentIntentCreated, paymentQueued, paymentAttempted, paymentProviderTimeout,
   paymentProviderUncertain, paymentRetryScheduled, paymentReconciled, paymentSucceeded,
   paymentFailed, paymentIntentReused, idempotencyConflict, outboxEventDeadLettered,
   webhookVerified, webhookRejected, duplicateWebhookIgnored, webhookOutOfOrderIgnored,
   riskAssessed]

/-- `EventType(raw)`: the member with a given value, if there is one. -/
def ofValue (raw : String) : Option EventType := all.find? (fun t => decide (t.value = raw))

@[simp] theorem ofValue_value (t : EventType) : ofValue t.value = some t := by
  cases t <;> decide

theorem value_injective : Function.Injective value := by
  intro s t h
  have hs : ofValue s.value = ofValue t.value := congrArg ofValue h
  rw [ofValue_value, ofValue_value] at hs
  exact Option.some.inj hs

end EventType

/-- `PolicyOutcome`. -/
inductive PolicyOutcome where
  | allow | requireApproval | deny
deriving DecidableEq

namespace PolicyOutcome

/-- The wire value of a policy outcome. -/
def value : PolicyOutcome → String
  | .allow => "ALLOW"
  | .requireApproval => "REQUIRE_APPROVAL"
  | .deny => "DENY"

/-- `PolicyOutcome(raw)`. -/
def ofValue (raw : String) : Option PolicyOutcome :=
  [allow, requireApproval, deny].find? (fun t => decide (t.value = raw))

@[simp] theorem ofValue_value (t : PolicyOutcome) : ofValue t.value = some t := by
  cases t <;> simp [ofValue, value]

end PolicyOutcome

/-- The members of `ReasonCode` that the modelled functions write. -/
inductive ReasonCode where
  | noValidOffers | hardLimitExceeded | blockedMerchant | merchantNotAllowed | ratingBelowMin
  | currencyNotAllowed | outOfStock | merchantTrustTooLow | merchantIdentityMismatch
  | softBudgetExceeded | withinLimits | authorityEscalation
  | transactionBindingFailure | authorizationReplayDetected | authorizationExpired
  | authorizationNotActive | authorizationNotFound | authorizationSignatureInvalid
  | authorizationSignatureMalformed | authorizationSigningKeyUnknown
  | authorizationProofMissing | authorizationApprovalSchemeInvalid | bindRefusedOfferChanged
  | idempotencyConflict | paymentProviderTimeout | providerTransientFailure
  | providerAmbiguity | providerTerminalFailure | providerResponseMismatch
  | providerPaymentNotFound | providerCreateFenced | providerPaymentAttemptFailed
  | illegalPaymentTransition | missionNotAuthorized | webhookDuplicate | webhookUnknownPayment
deriving DecidableEq

/-- The wire value of a reason code. -/
def ReasonCode.value : ReasonCode → String
  | .noValidOffers => "NO_VALID_OFFERS"
  | .hardLimitExceeded => "HARD_LIMIT_EXCEEDED"
  | .blockedMerchant => "BLOCKED_MERCHANT"
  | .merchantNotAllowed => "MERCHANT_NOT_ALLOWED"
  | .ratingBelowMin => "RATING_BELOW_MIN"
  | .currencyNotAllowed => "CURRENCY_NOT_ALLOWED"
  | .outOfStock => "OUT_OF_STOCK"
  | .merchantTrustTooLow => "MERCHANT_TRUST_TOO_LOW"
  | .merchantIdentityMismatch => "MERCHANT_IDENTITY_MISMATCH"
  | .softBudgetExceeded => "SOFT_BUDGET_EXCEEDED"
  | .withinLimits => "WITHIN_LIMITS"
  | .authorityEscalation => "AUTHORITY_ESCALATION"
  | .transactionBindingFailure => "TRANSACTION_BINDING_FAILURE"
  | .authorizationReplayDetected => "AUTHORIZATION_REPLAY_DETECTED"
  | .authorizationExpired => "AUTHORIZATION_EXPIRED"
  | .authorizationNotActive => "AUTHORIZATION_NOT_ACTIVE"
  | .authorizationNotFound => "AUTHORIZATION_NOT_FOUND"
  | .authorizationSignatureInvalid => "AUTHORIZATION_SIGNATURE_INVALID"
  | .authorizationSignatureMalformed => "AUTHORIZATION_SIGNATURE_MALFORMED"
  | .authorizationSigningKeyUnknown => "AUTHORIZATION_SIGNING_KEY_UNKNOWN"
  | .authorizationProofMissing => "AUTHORIZATION_PROOF_MISSING"
  | .authorizationApprovalSchemeInvalid => "AUTHORIZATION_APPROVAL_SCHEME_INVALID"
  | .bindRefusedOfferChanged => "BIND_REFUSED_OFFER_CHANGED"
  | .idempotencyConflict => "IDEMPOTENCY_CONFLICT"
  | .paymentProviderTimeout => "PAYMENT_PROVIDER_TIMEOUT"
  | .providerTransientFailure => "PROVIDER_TRANSIENT_FAILURE"
  | .providerAmbiguity => "PROVIDER_AMBIGUITY"
  | .providerTerminalFailure => "PROVIDER_TERMINAL_FAILURE"
  | .providerResponseMismatch => "PROVIDER_RESPONSE_MISMATCH"
  | .providerPaymentNotFound => "PROVIDER_PAYMENT_NOT_FOUND"
  | .providerCreateFenced => "PROVIDER_CREATE_FENCED"
  | .providerPaymentAttemptFailed => "PROVIDER_PAYMENT_ATTEMPT_FAILED"
  | .illegalPaymentTransition => "ILLEGAL_PAYMENT_TRANSITION"
  | .missionNotAuthorized => "MISSION_NOT_AUTHORIZED"
  | .webhookDuplicate => "WEBHOOK_DUPLICATE"
  | .webhookUnknownPayment => "WEBHOOK_UNKNOWN_PAYMENT"

end Pactra
