import Pactra.Schemas.Payment
import Pactra.Schemas.Transaction

/-!
# Exceptions

The exceptions the modelled functions raise, with the data their handlers read. Provider errors
form a hierarchy in the source (`services/payment_executor/providers/base.py`); here each
constructor of `ProviderErrorKind` is one class, and the `isinstance` tests of the handlers are
the predicates below.
-/

namespace Pactra

/-- The classes of provider errors. `ambiguity` is a subclass of `transient`; all are subclasses
of `error`. -/
inductive ProviderErrorKind where
  | error | timeout | transient | ambiguity | terminal | mismatch
deriving DecidableEq

/-- The class attribute `reason_code`. -/
def ProviderErrorKind.reasonCode : ProviderErrorKind → String
  | .error => "PROVIDER_ERROR"
  | .timeout => "PAYMENT_PROVIDER_TIMEOUT"
  | .transient => "PROVIDER_TRANSIENT_FAILURE"
  | .ambiguity => "PROVIDER_AMBIGUITY"
  | .terminal => "PROVIDER_TERMINAL_FAILURE"
  | .mismatch => "PROVIDER_RESPONSE_MISMATCH"

/-- The class name, as `type(exc).__name__` gives it. -/
def ProviderErrorKind.name : ProviderErrorKind → String
  | .error => "ProviderError"
  | .timeout => "ProviderTimeout"
  | .transient => "ProviderTransientError"
  | .ambiguity => "ProviderAmbiguity"
  | .terminal => "ProviderTerminalError"
  | .mismatch => "ProviderPaymentMismatch"

/-- A provider-side failure. -/
structure ProviderError where
  kind : ProviderErrorKind
  provider : String
  detail : String
deriving DecidableEq

namespace ProviderError

/-- The error's reason code. -/
def reasonCode (e : ProviderError) : String := e.kind.reasonCode

/-- `isinstance(e, ProviderTimeout)`. -/
def isTimeout (e : ProviderError) : Bool := decide (e.kind = .timeout)

/-- `isinstance(e, ProviderTransientError)`, which an ambiguity also is. -/
def isTransient (e : ProviderError) : Bool :=
  decide (e.kind = .transient) || decide (e.kind = .ambiguity)

/-- `isinstance(e, ProviderTerminalError)`. -/
def isTerminal (e : ProviderError) : Bool := decide (e.kind = .terminal)

end ProviderError

/-- The classes of refusals to honour an authorization. -/
inductive AuthorizationFailureKind where
  | bindingFailure | replayDetected | expired | notActive | notFound | proof (reasonCode : String)
deriving DecidableEq

/-- The `reason_code` of an authorization failure. -/
def AuthorizationFailureKind.reasonCode : AuthorizationFailureKind → String
  | .bindingFailure => ReasonCode.transactionBindingFailure.value
  | .replayDetected => ReasonCode.authorizationReplayDetected.value
  | .expired => ReasonCode.authorizationExpired.value
  | .notActive => ReasonCode.authorizationNotActive.value
  | .notFound => ReasonCode.authorizationNotFound.value
  | .proof reasonCode => reasonCode

/-- The class name of an authorization failure. -/
def AuthorizationFailureKind.name : AuthorizationFailureKind → String
  | .bindingFailure => "TransactionBindingFailure"
  | .replayDetected => "AuthorizationReplayDetected"
  | .expired => "AuthorizationExpired"
  | .notActive => "AuthorizationNotActive"
  | .notFound => "AuthorizationNotFound"
  | .proof _ => "AuthorizationProofFailure"

/-- The exceptions of the modelled functions. -/
inductive Exc where
  | provider (error : ProviderError)
  | illegalPaymentTransition (current target : PaymentIntentState)
  | illegalTransition (current target : MissionState)
  | authorizationFailure (kind : AuthorizationFailureKind) (authorizationId : Uuid)
      (detail : String)
  | approvalVerification (reasonCode : ReasonCode) (detail : String)
  | invariantViolation (invariantId detail : String)
  | integrityError
  | paymentRequestRejected (detail : String)
  | idempotencyConflict (detail : String)
  | missionNotAuthorized (detail : String)
  | webhookRejected (reasonCode detail : String)
  | bindRefusedOfferChanged (missionId offerId : Uuid) (detail invariantId : String)
  | validationError (model : String)
  | valueError (text : String)
  | runtimeError (text : String)
  | other (name text : String)
deriving DecidableEq

namespace Exc

/-- `type(exc).__name__`. -/
def name : Exc → String
  | .provider e => e.kind.name
  | .illegalPaymentTransition _ _ => "IllegalPaymentTransition"
  | .illegalTransition _ _ => "IllegalTransition"
  | .authorizationFailure k _ _ => k.name
  | .approvalVerification _ _ => "ApprovalVerificationError"
  | .invariantViolation _ _ => "InvariantViolation"
  | .integrityError => "IntegrityError"
  | .paymentRequestRejected _ => "PaymentRequestRejected"
  | .idempotencyConflict _ => "IdempotencyConflict"
  | .missionNotAuthorized _ => "MissionNotAuthorized"
  | .webhookRejected _ _ => "WebhookRejected"
  | .bindRefusedOfferChanged _ _ _ _ => "BindRefusedOfferChanged"
  | .validationError _ => "ValidationError"
  | .valueError _ => "ValueError"
  | .runtimeError _ => "RuntimeError"
  | .other name _ => name

/-- `str(exc)`. The texts of database and validation errors come from their libraries and are
not reproduced. -/
def text : Exc → String
  | .provider e => e.reasonCode ++ ": " ++ e.detail
  | .illegalPaymentTransition c t =>
    ReasonCode.illegalPaymentTransition.value ++ ": illegal payment transition " ++ c.value
      ++ " -> " ++ t.value
  | .illegalTransition c t => "Illegal mission transition: " ++ c.value ++ " -> " ++ t.value
  | .authorizationFailure k _ detail => k.reasonCode ++ ": " ++ detail
  | .approvalVerification r detail => r.value ++ ": " ++ detail
  | .invariantViolation i detail => i ++ ": " ++ detail
  | .integrityError => ""
  | .paymentRequestRejected detail => "PAYMENT_REQUEST_REJECTED: " ++ detail
  | .idempotencyConflict detail => ReasonCode.idempotencyConflict.value ++ ": " ++ detail
  | .missionNotAuthorized detail => ReasonCode.missionNotAuthorized.value ++ ": " ++ detail
  | .webhookRejected code detail => code ++ ": " ++ detail
  | .bindRefusedOfferChanged _ _ detail _ =>
    ReasonCode.bindRefusedOfferChanged.value ++ ": " ++ detail
  | .validationError _ => ""
  | .valueError text => text
  | .runtimeError text => text
  | .other _ text => text

end Exc

end Pactra
