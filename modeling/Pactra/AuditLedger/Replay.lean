import Pactra.AgentOrchestrator.StateMachine
import Pactra.AuditLedger.Ledger

/-!
# Replay

`services/audit_ledger/replay.py`: the pure reducer from a mission's event history to its
reconstructed state, and the comparison of that reconstruction with the persisted rows. A reader
that meets a payload of the wrong shape refuses the whole replay; one rule per event type folds
an event into the accumulator.
-/

namespace Pactra

/-- `ReplayReasonCode`, as far as the reducer raises it. -/
inductive ReplayReasonCode where
  | replayUnsupportedEventType | replayMalformedEvent
deriving DecidableEq

/-- `ReplayRefused`. -/
structure ReplayRefused where
  reasonCode : ReplayReasonCode
  sequence : Nat
  eventType : String
  detail : String
deriving DecidableEq

/-- What leaves the reducer when it fails: its own refusal, or the overflow of a conversion to a
floating-point number, which it does not handle. -/
inductive ReplayError where
  | refused (refusal : ReplayRefused)
  | overflowError
deriving DecidableEq

/-- `ReplayedAuthorization`. -/
structure ReplayedAuthorization where
  authorizationId : Option String := none
  status : Option String := none
  transactionDigestPrefix : Option String := none
  policyVersion : Option String := none
  offerVersion : Option String := none
  bindingVersion : Option String := none
  approvalScheme : Option ApprovalScheme := none
  expiresAt : Option String := none
  consumedAt : Option String := none
  boundMerchantId : Option String := none
  boundProductId : Option String := none
  boundQuantity : Option Int := none
  boundAmountInr : Option Int := none
  boundCurrency : Option String := none
  replayDetected : Bool := false
  bindingFailures : Nat := 0

/-- `ReplayedPayment`. -/
structure ReplayedPayment where
  paymentIntentId : Option String := none
  state : Option String := none
  provider : Option String := none
  providerPaymentId : Option String := none
  idempotencyKey : Option String := none
  amountInr : Option Int := none
  currency : Option String := none
  merchantId : Option String := none
  lastReasonCode : Option String := none
  attempts : Nat := 0
  intentReused : Bool := false
  uncertainEpisodes : Nat := 0
  providerTimeouts : Nat := 0
  retriesScheduled : Nat := 0
  reconciliations : Nat := 0
  deadLettered : Bool := false
  webhooksVerified : Nat := 0
  duplicateWebhooksIgnored : Nat := 0
  outOfOrderWebhooksIgnored : Nat := 0

/-- `ReplayedSecurityEvent`. -/
structure ReplayedSecurityEvent where
  sequence : Nat
  eventType : String
  actor : String
  reasonCode : Option String
  detail : Dict

/-- `ReplayedRiskAssessment`. -/
structure ReplayedRiskAssessment where
  sequence : Nat
  assessmentId : Option String
  score : Option Rat
  band : Option String
  recommendation : Option String
  engineVersion : Option String
  modelVersion : Option String
  factorCodes : List String

/-- `SkippedTransition`. -/
structure SkippedTransition where
  sequence : Nat
  eventType : String
  fromState : MissionState
  toState : MissionState

/-- `_ReplayState`, the accumulator of the fold. -/
structure ReplayState where
  missionState : Option MissionState := none
  eventsReplayed : Nat := 0
  rawQuery : Option String := none
  quantity : Option Int := none
  policyDecision : Option String := none
  policyVersion : Option String := none
  policyReasonCodes : List String := []
  requestedAmount : Option Int := none
  softBudget : Option Int := none
  hardLimit : Option Int := none
  selectedOfferId : Option String := none
  approvalRequired : Bool := false
  approvalGranted : Bool := false
  rawOfferCount : Option Int := none
  validOfferCount : Option Int := none
  invalidOfferCount : Option Int := none
  taintedMerchantFields : List String := []
  authorization : ReplayedAuthorization := {}
  payment : ReplayedPayment := {}
  securityEvents : List ReplayedSecurityEvent := []
  skippedTransitions : List SkippedTransition := []
  riskAssessments : List ReplayedRiskAssessment := []

namespace Replay

-- ════════════════════════════════════════════════════════════════════════
-- Payload readers
-- ════════════════════════════════════════════════════════════════════════

/-- `event.payload.get(key)`, with an absent key and an explicit null both as nothing. -/
def payloadGet (event : AuditEventRow) (key : String) : Option Json :=
  match event.payload with
  | .obj d =>
    match Dict.get d key with
    | some .null => none
    | v => v
  | _ => none

/-- Whether the payload carries a key at all. -/
def payloadHas (event : AuditEventRow) (key : String) : Bool :=
  match event.payload with
  | .obj d => (Dict.get d key).isSome
  | _ => false

/-- `_refuse`. -/
def refuse (event : AuditEventRow) (detail : String) : ReplayError :=
  .refused ⟨.replayMalformedEvent, event.sequence, event.eventType, detail⟩

/-- `_opt_str`. -/
def optStr (event : AuditEventRow) (key : String) : Except ReplayError (Option String) :=
  match payloadGet event key with
  | none => .ok none
  | some (.str s) => .ok (some s)
  | some _ => .error (refuse event ("payload field '" ++ key ++ "' is not a string"))

/-- `_opt_int`. -/
def optInt (event : AuditEventRow) (key : String) : Except ReplayError (Option Int) :=
  match payloadGet event key with
  | none => .ok none
  | some (.int n) => .ok (some n)
  | some _ => .error (refuse event ("payload field '" ++ key ++ "' is not an integer"))

/-- The strings of a JSON array, if it holds nothing else. -/
def strings : List Json → Option (List String)
  | [] => some []
  | .str s :: rest => (strings rest).map (s :: ·)
  | _ :: _ => none

/-- `_opt_str_list`. -/
def optStrList (event : AuditEventRow) (key : String) :
    Except ReplayError (Option (List String)) :=
  let bad := refuse event ("payload field '" ++ key ++ "' is not a list of strings")
  match payloadGet event key with
  | none => .ok none
  | some (.arr items) =>
    match strings items with
    | some l => .ok (some l)
    | none => .error bad
  | some _ => .error bad

/-- `_opt_approval_scheme`. -/
def optApprovalScheme (env : Env) (event : AuditEventRow) :
    Except ReplayError (Option ApprovalScheme) := do
  match ← optStr event "approval_scheme" with
  | none => .ok none
  | some raw =>
    match ApprovalScheme.ofValue raw with
    | some scheme => .ok (some scheme)
    | none =>
      .error (refuse event ("approval scheme " ++ env.repr raw ++ " is not known to this build"))

/-- `a or b` on optional texts: an empty text counts as absent. -/
def orStr (a b : Option String) : Option String :=
  match a with
  | some s => if s = "" then b else some s
  | none => b

/-- `a or b` on optional numbers: zero counts as absent. -/
def orInt (a b : Option Int) : Option Int :=
  match a with
  | some n => if n = 0 then b else some n
  | none => b

/-- `_SECURITY_DETAIL_KEYS`. -/
def securityDetailKeys : List String :=
  ["field", "attempted_value", "source_authority", "target_authority", "merchant_id",
   "claimed_merchant_id", "authenticated_merchant_id", "offer_id", "rejected", "status",
   "current_state", "requested_state", "provider_event_id", "idempotency_key",
   "bound_digest_prefix", "presented_digest_prefix", "reason_codes", "terminal", "invariant_id",
   "bind_refused"]

/-- `_security_detail`. -/
def securityDetail (event : AuditEventRow) : Dict :=
  match event.payload with
  | .obj d => securityDetailKeys.filterMap (fun key => (Dict.get d key).map (fun v => (key, v)))
  | _ => []

-- ════════════════════════════════════════════════════════════════════════
-- Shared folds
-- ════════════════════════════════════════════════════════════════════════

/-- `_advance`: move the mission when the state machine permits, and record the move when it
does not. -/
def advance (state : ReplayState) (event : AuditEventRow) (target : MissionState) : ReplayState :=
  match state.missionState with
  | none => { state with missionState := some target }
  | some current =>
    if current = target then state
    else if current.canTransition target then { state with missionState := some target }
    else
      { state with
        skippedTransitions := state.skippedTransitions ++
          [⟨event.sequence, event.eventType, current, target⟩] }

/-- `_payment_state_from_payload`. -/
def paymentStateFromPayload (env : Env) (state : ReplayState) (event : AuditEventRow) :
    Except ReplayError ReplayState :=
  match payloadGet event "state" with
  | none => .ok state
  | some (.str raw) =>
    match PaymentIntentState.ofValue raw with
    | some s => .ok { state with payment := { state.payment with state := some s.value } }
    | none =>
      .error (refuse event ("payment state " ++ env.repr raw ++ " is not a state this build knows"))
  | some _ => .error (refuse event "payload field 'state' is not a string")

/-- `_common_payment_fields`: adopt whichever payment identifiers the payload carries. The
reason code is adopted whenever its key is present, also as an explicit null. -/
def commonPaymentFields (state : ReplayState) (event : AuditEventRow) :
    Except ReplayError ReplayState := do
  let p := state.payment
  let paymentIntentId ← optStr event "payment_intent_id"
  let provider ← optStr event "provider"
  let providerPaymentId ← optStr event "provider_payment_id"
  let idempotencyKey ← optStr event "idempotency_key"
  let amountInr ← optInt event "amount_inr"
  let currency ← optStr event "currency"
  let merchantId ← optStr event "merchant_id"
  let reasonCode ← if payloadHas event "reason_code" then optStr event "reason_code"
    else .ok p.lastReasonCode
  .ok { state with
    payment := { p with
      paymentIntentId := orStr paymentIntentId p.paymentIntentId
      provider := orStr provider p.provider
      providerPaymentId := orStr providerPaymentId p.providerPaymentId
      idempotencyKey := orStr idempotencyKey p.idempotencyKey
      amountInr := orInt amountInr p.amountInr
      currency := orStr currency p.currency
      merchantId := orStr merchantId p.merchantId
      lastReasonCode := reasonCode } }

/-- `_record_security`. -/
def recordSecurity (state : ReplayState) (event : AuditEventRow) :
    Except ReplayError ReplayState := do
  let reasonCode ← optStr event "reason_code"
  .ok { state with
    securityEvents := state.securityEvents ++
      [⟨event.sequence, event.eventType, event.actor, reasonCode, securityDetail event⟩] }

-- ════════════════════════════════════════════════════════════════════════
-- Handlers, one per event type
-- ════════════════════════════════════════════════════════════════════════

variable (env : Env) (state : ReplayState) (event : AuditEventRow)

/-- `_on_mission_created`. -/
def onMissionCreated : Except ReplayError ReplayState := do
  let rawQuery ← optStr event "raw_query"
  let quantity ← optInt event "quantity"
  .ok (advance { state with rawQuery := rawQuery, quantity := quantity } event .created)

/-- An integer constraint of the `INTENT_PARSED` payload, if it is one. -/
def constraintInt (constraints : Dict) (key : String) (held : Option Int) : Option Int :=
  match Dict.get constraints key with
  | some (.int n) => some n
  | _ => held

/-- `_on_intent_parsed`. -/
def onIntentParsed : Except ReplayError ReplayState :=
  match payloadGet event "constraints" with
  | none => .ok (advance state event .intentParsed)
  | some (.obj constraints) =>
    .ok (advance { state with
      softBudget := constraintInt constraints "soft_budget_inr" state.softBudget
      hardLimit := constraintInt constraints "hard_limit_inr" state.hardLimit } event
      .intentParsed)
  | some _ => .error (refuse event "payload field 'constraints' is not an object")

/-- `_on_discovery_started`. -/
def onDiscoveryStarted : Except ReplayError ReplayState :=
  .ok (advance state event .discovering)

/-- `_on_offers_received`. -/
def onOffersReceived : Except ReplayError ReplayState := do
  let rawOfferCount ← optInt event "raw_offer_count"
  .ok (advance { state with rawOfferCount := rawOfferCount } event .offersReceived)

/-- `_on_offers_normalized`. -/
def onOffersNormalized : Except ReplayError ReplayState := do
  let valid ← optInt event "valid"
  let invalid ← optInt event "invalid"
  let tainted ← optStrList event "tainted_merchant_fields"
  .ok (advance { state with
    validOfferCount := valid
    invalidOfferCount := invalid
    taintedMerchantFields := tainted.getD [] } event .offersNormalized)

/-- `_on_offers_ranked`. -/
def onOffersRanked : Except ReplayError ReplayState :=
  .ok (advance state event .ranked)

/-- `_on_policy_decision`. -/
def onPolicyDecision : Except ReplayError ReplayState := do
  let decision ← match ← optStr event "decision" with
    | none => .ok state.policyDecision
    | some raw =>
      match PolicyOutcome.ofValue raw with
      | some outcome => .ok (some outcome.value)
      | none =>
        .error (refuse event
          ("policy decision " ++ env.repr raw ++ " is not an outcome this build knows"))
  let policyVersion ← optStr event "policy_version"
  let reasonCodes ← optStrList event "reason_codes"
  let requestedAmount ← optInt event "requested_amount"
  let softBudget ← optInt event "soft_budget"
  let hardLimit ← optInt event "hard_limit"
  let selectedOfferId ← optStr event "selected_offer_id"
  .ok (advance { state with
    policyDecision := decision
    policyVersion := policyVersion
    policyReasonCodes := reasonCodes.getD []
    requestedAmount := requestedAmount
    softBudget := orInt softBudget state.softBudget
    hardLimit := orInt hardLimit state.hardLimit
    selectedOfferId := selectedOfferId } event .policyChecked)

/-- `_on_approval_requested`. -/
def onApprovalRequested : Except ReplayError ReplayState := do
  let requestedAmount ← optInt event "requested_amount"
  let authorizationId ← optStr event "authorization_id"
  .ok (advance { state with
    approvalRequired := true
    requestedAmount := orInt requestedAmount state.requestedAmount
    authorization := { state.authorization with
      authorizationId := orStr authorizationId state.authorization.authorizationId } } event
    .awaitingApproval)

/-- `_on_mission_denied`. -/
def onMissionDenied : Except ReplayError ReplayState := do
  let reasonCodes ← optStrList event "reason_codes"
  let codes := match reasonCodes with
    | some (c :: cs) => c :: cs
    | _ => state.policyReasonCodes
  let recorded ← recordSecurity { state with policyReasonCodes := codes } event
  .ok (advance recorded event .cancelled)

/-- `_on_security_violation`. -/
def onSecurityViolation : Except ReplayError ReplayState := recordSecurity state event

/-- `_on_authorization_created`. -/
def onAuthorizationCreated : Except ReplayError ReplayState := do
  let a := state.authorization
  let authorizationId ← optStr event "authorization_id"
  let status ← optStr event "status"
  let transactionDigestPrefix ← optStr event "transaction_digest_prefix"
  let policyVersion ← optStr event "policy_version"
  let offerVersion ← optStr event "offer_version"
  let version ← optStr event "binding_version"
  let approvalScheme ← optApprovalScheme env event
  let expiresAt ← optStr event "expires_at"
  let boundMerchantId ← optStr event "bound_merchant_id"
  let boundProductId ← optStr event "bound_product_id"
  let boundQuantity ← optInt event "bound_quantity"
  let boundAmountInr ← optInt event "bound_amount_inr"
  let boundCurrency ← optStr event "bound_currency"
  .ok { state with
    authorization := { a with
      authorizationId := orStr authorizationId a.authorizationId
      status := orStr status (some AuthorizationStatus.pending.value)
      transactionDigestPrefix := transactionDigestPrefix
      policyVersion := policyVersion
      offerVersion := offerVersion
      bindingVersion := version
      approvalScheme := approvalScheme
      expiresAt := expiresAt
      boundMerchantId := boundMerchantId
      boundProductId := boundProductId
      boundQuantity := boundQuantity
      boundAmountInr := boundAmountInr
      boundCurrency := boundCurrency } }

/-- `_on_authorization_activated`. -/
def onAuthorizationActivated : Except ReplayError ReplayState := do
  let a := state.authorization
  let authorizationId ← optStr event "authorization_id"
  let status ← optStr event "status"
  let transactionDigestPrefix ← optStr event "transaction_digest_prefix"
  let scheme ← optApprovalScheme env event
  .ok (advance { state with
    authorization := { a with
      authorizationId := orStr authorizationId a.authorizationId
      status := orStr status (some AuthorizationStatus.active.value)
      transactionDigestPrefix := orStr transactionDigestPrefix a.transactionDigestPrefix
      approvalScheme := scheme.or a.approvalScheme }
    approvalGranted := state.approvalGranted || state.approvalRequired } event .authorized)

/-- `_on_authorization_consumed`. -/
def onAuthorizationConsumed : Except ReplayError ReplayState := do
  let status ← optStr event "status"
  let consumedAt ← optStr event "consumed_at"
  .ok { state with
    authorization := { state.authorization with
      status := orStr status (some AuthorizationStatus.consumed.value)
      consumedAt := consumedAt } }

/-- `_on_authorization_expired`. -/
def onAuthorizationExpired : Except ReplayError ReplayState := do
  let status ← optStr event "status"
  let expiresAt ← optStr event "expires_at"
  .ok { state with
    authorization := { state.authorization with
      status := orStr status (some AuthorizationStatus.expired.value)
      expiresAt := orStr expiresAt state.authorization.expiresAt } }

/-- `_on_authorization_revoked`. -/
def onAuthorizationRevoked : Except ReplayError ReplayState := do
  let status ← optStr event "status"
  .ok { state with
    authorization := { state.authorization with
      status := orStr status (some AuthorizationStatus.revoked.value) } }

/-- `_on_authorization_replay_detected`. -/
def onAuthorizationReplayDetected : Except ReplayError ReplayState := do
  let a := state.authorization
  let status ← optStr event "status"
  let consumedAt ← optStr event "consumed_at"
  recordSecurity { state with
    authorization := { a with
      replayDetected := true
      status := orStr status a.status
      consumedAt := orStr consumedAt a.consumedAt } } event

/-- `_on_transaction_binding_failure`. -/
def onTransactionBindingFailure : Except ReplayError ReplayState :=
  recordSecurity { state with
    authorization := { state.authorization with
      bindingFailures := state.authorization.bindingFailures + 1 } } event

/-- `_on_payment_intent_created`. -/
def onPaymentIntentCreated : Except ReplayError ReplayState := do
  let state ← commonPaymentFields state event
  let authorizationId ← optStr event "authorization_id"
  .ok { state with
    authorization := { state.authorization with
      authorizationId := orStr authorizationId state.authorization.authorizationId } }

/-- `_on_payment_queued`. -/
def onPaymentQueued : Except ReplayError ReplayState := do
  let state ← commonPaymentFields state event
  let state ← paymentStateFromPayload env state event
  .ok (advance state event .paymentPending)

/-- `_on_payment_attempted`. -/
def onPaymentAttempted : Except ReplayError ReplayState := do
  let state ← commonPaymentFields state event
  let state ← paymentStateFromPayload env state event
  .ok { state with payment := { state.payment with attempts := state.payment.attempts + 1 } }

/-- `_on_payment_provider_timeout`. -/
def onPaymentProviderTimeout : Except ReplayError ReplayState := do
  let state ← commonPaymentFields state event
  .ok { state with
    payment := { state.payment with providerTimeouts := state.payment.providerTimeouts + 1 } }

/-- `_on_payment_provider_uncertain`. -/
def onPaymentProviderUncertain : Except ReplayError ReplayState := do
  let state ← commonPaymentFields state event
  let state ← paymentStateFromPayload env state event
  .ok { state with
    payment := { state.payment with uncertainEpisodes := state.payment.uncertainEpisodes + 1 } }

/-- `_on_payment_retry_scheduled`. -/
def onPaymentRetryScheduled : Except ReplayError ReplayState := do
  let state ← commonPaymentFields state event
  let state ← paymentStateFromPayload env state event
  .ok { state with
    payment := { state.payment with retriesScheduled := state.payment.retriesScheduled + 1 } }

/-- `_on_payment_reconciled`: a narration event, whose `state` is not adopted. -/
def onPaymentReconciled : Except ReplayError ReplayState := do
  let state ← commonPaymentFields state event
  .ok { state with
    payment := { state.payment with reconciliations := state.payment.reconciliations + 1 } }

/-- `_on_payment_succeeded`. -/
def onPaymentSucceeded : Except ReplayError ReplayState := do
  let state ← commonPaymentFields state event
  let state ← paymentStateFromPayload env state event
  .ok (advance state event .paymentSucceeded)

/-- `_on_payment_failed`: only a terminal failure moves the mission. -/
def onPaymentFailed : Except ReplayError ReplayState := do
  let state ← commonPaymentFields state event
  let state ← paymentStateFromPayload env state event
  if state.payment.state = some PaymentIntentState.failedTerminal.value then
    .ok (advance state event .paymentFailed)
  else .ok state

/-- `_on_payment_intent_reused`. -/
def onPaymentIntentReused : Except ReplayError ReplayState := do
  let state ← commonPaymentFields state event
  let state ← paymentStateFromPayload env state event
  .ok { state with payment := { state.payment with intentReused := true } }

/-- `_on_idempotency_conflict`. -/
def onIdempotencyConflict : Except ReplayError ReplayState := recordSecurity state event

/-- `_on_outbox_dead_lettered`. -/
def onOutboxDeadLettered : Except ReplayError ReplayState := do
  let state ← commonPaymentFields state event
  .ok { state with payment := { state.payment with deadLettered := true } }

/-- `_on_webhook_verified`. -/
def onWebhookVerified : Except ReplayError ReplayState := do
  let state ← commonPaymentFields state event
  .ok { state with
    payment := { state.payment with webhooksVerified := state.payment.webhooksVerified + 1 } }

/-- `_on_webhook_rejected`. -/
def onWebhookRejected : Except ReplayError ReplayState := recordSecurity state event

/-- `_on_duplicate_webhook_ignored`. -/
def onDuplicateWebhookIgnored : Except ReplayError ReplayState := do
  let state ← commonPaymentFields state event
  recordSecurity { state with
    payment := { state.payment with
      duplicateWebhooksIgnored := state.payment.duplicateWebhooksIgnored + 1 } } event

/-- `_on_webhook_out_of_order_ignored`. -/
def onWebhookOutOfOrderIgnored : Except ReplayError ReplayState := do
  let state ← commonPaymentFields state event
  recordSecurity { state with
    payment := { state.payment with
      outOfOrderWebhooksIgnored := state.payment.outOfOrderWebhooksIgnored + 1 } } event

/-- `_advisory_str`. -/
def advisoryStr : Option Json → Option String
  | some (.str s) => some s
  | _ => none

/-- `float(score)` of a numeric advisory score; a boolean is a number here, and an integer can be
too large for a float. -/
def advisoryScore : Option Json → Except ReplayError (Option Rat)
  | some (.int n) =>
    match Numeric.floatOfInt n with
    | some q => .ok (some q)
    | none => .error .overflowError
  | some (.float q) => .ok (some q)
  | some (.bool b) => .ok (some (if b then 1 else 0))
  | _ => .ok none

/-- `_on_risk_assessed`: appends one advisory record and touches nothing else. -/
def onRiskAssessed : Except ReplayError ReplayState := do
  let score ← advisoryScore (payloadGet event "score")
  .ok { state with
    riskAssessments := state.riskAssessments ++
      [{ sequence := event.sequence
         assessmentId := advisoryStr (payloadGet event "assessment_id")
         score := score
         band := advisoryStr (payloadGet event "band")
         recommendation := advisoryStr (payloadGet event "recommendation")
         engineVersion := advisoryStr (payloadGet event "engine_version")
         modelVersion := advisoryStr (payloadGet event "model_version")
         factorCodes := match payloadGet event "factor_codes" with
           | some (.arr codes) => codes.map env.pyStr
           | _ => [] }] }

/-- `HANDLERS`. -/
def handler : EventType → ReplayState → AuditEventRow → Except ReplayError ReplayState
  | .missionCreated => onMissionCreated
  | .intentParsed => onIntentParsed
  | .discoveryStarted => onDiscoveryStarted
  | .offersReceived => onOffersReceived
  | .offersNormalized => onOffersNormalized
  | .offersRanked => onOffersRanked
  | .policyDecision => onPolicyDecision env
  | .approvalRequested => onApprovalRequested
  | .missionDenied => onMissionDenied
  | .securityViolation => onSecurityViolation
  | .authorizationCreated => onAuthorizationCreated env
  | .authorizationActivated => onAuthorizationActivated env
  | .authorizationConsumed => onAuthorizationConsumed
  | .authorizationExpired => onAuthorizationExpired
  | .authorizationRevoked => onAuthorizationRevoked
  | .authorizationReplayDetected => onAuthorizationReplayDetected
  | .transactionBindingFailure => onTransactionBindingFailure
  | .paymentIntentCreated => onPaymentIntentCreated
  | .paymentQueued => onPaymentQueued env
  | .paymentAttempted => onPaymentAttempted env
  | .paymentProviderTimeout => onPaymentProviderTimeout
  | .paymentProviderUncertain => onPaymentProviderUncertain env
  | .paymentRetryScheduled => onPaymentRetryScheduled env
  | .paymentReconciled => onPaymentReconciled
  | .paymentSucceeded => onPaymentSucceeded env
  | .paymentFailed => onPaymentFailed env
  | .paymentIntentReused => onPaymentIntentReused env
  | .idempotencyConflict => onIdempotencyConflict
  | .outboxEventDeadLettered => onOutboxDeadLettered
  | .webhookVerified => onWebhookVerified
  | .webhookRejected => onWebhookRejected
  | .duplicateWebhookIgnored => onDuplicateWebhookIgnored
  | .webhookOutOfOrderIgnored => onWebhookOutOfOrderIgnored
  | .riskAssessed => onRiskAssessed env

-- ════════════════════════════════════════════════════════════════════════
-- The reducer and the comparison
-- ════════════════════════════════════════════════════════════════════════

/-- Whether a payload is a JSON object. -/
def isObject : Json → Bool
  | .obj _ => true
  | _ => false

/-- `apply_event`: fold one event into the accumulator. -/
def applyEvent (state : ReplayState) (event : AuditEventRow) :
    Except ReplayError ReplayState :=
  match EventType.ofValue event.eventType with
  | none =>
    .error (.refused ⟨.replayUnsupportedEventType, event.sequence, event.eventType,
      "event type " ++ env.repr event.eventType ++ " is not known to this build; refusing to "
        ++ "reconstruct a state that would silently omit it"⟩)
  | some eventType =>
    if isObject event.payload then do
      let state ← handler env eventType state event
      .ok { state with eventsReplayed := state.eventsReplayed + 1 }
    else .error (refuse event "payload is not a JSON object")

/-- The order of `sorted(events, key=lambda row: (row.sequence, str(row.event_id)))`. -/
def before (a b : AuditEventRow) : Prop :=
  a.sequence < b.sequence ∨ a.sequence = b.sequence ∧ a.eventId.str ≤ b.eventId.str

instance : DecidableRel before := fun a b => by unfold before; infer_instance

/-- `reduce_events`: sort by sequence, then fold. The accumulator stands for the projection it
is converted to field by field. -/
def reduceEvents (events : List AuditEventRow) : Except ReplayError ReplayState :=
  (events.insertionSort before).foldlM (applyEvent env) {}

/-- `StateComparison`, as `compare_with_persisted` computes it. -/
structure StateComparison where
  replayState : Option MissionState
  persistedState : Option MissionState
  replayAuthorizationStatus : Option String
  persistedAuthorizationStatus : Option String
  replayPaymentState : Option String
  persistedPaymentState : Option String

namespace StateComparison

/-- `matches`. -/
def stateMatches (c : StateComparison) : Bool := decide (c.replayState = c.persistedState)

/-- `authorization_matches`: nothing to report when neither side has one. -/
def authorizationMatches (c : StateComparison) : Option Bool :=
  if c.replayAuthorizationStatus = none ∧ c.persistedAuthorizationStatus = none then none
  else some (decide (c.replayAuthorizationStatus = c.persistedAuthorizationStatus))

/-- `payment_matches`. -/
def paymentMatches (c : StateComparison) : Option Bool :=
  if c.replayPaymentState = none ∧ c.persistedPaymentState = none then none
  else some (decide (c.replayPaymentState = c.persistedPaymentState))

/-- No field of the comparison reports a mismatch. -/
def NoMismatch (c : StateComparison) : Prop :=
  c.stateMatches = true ∧ c.authorizationMatches ≠ some false ∧ c.paymentMatches ≠ some false

end StateComparison

/-- The most recently issued authorization of a mission. -/
def authorizationForMission (db : Db) (missionId : Uuid) : Option AuthorizationRow :=
  Table.best (fun a b => decide (b.issuedAt < a.issuedAt))
    (db.authorizations.filter (fun a => decide (a.missionId = missionId)))

/-- The most recently created intent of a mission. -/
def paymentIntentForMission (db : Db) (missionId : Uuid) : Option PaymentIntentRow :=
  Table.best (fun a b => decide (b.createdAt < a.createdAt))
    (db.paymentIntents.filter (fun i => decide (i.missionId = missionId)))

/-- `compare_with_persisted`. -/
def compareWithPersisted (db : Db) (missionId : Uuid) (projection : ReplayState) :
    StateComparison :=
  { replayState := projection.missionState
    persistedState := (db.getMission missionId).map Mission.state
    replayAuthorizationStatus := projection.authorization.status
    persistedAuthorizationStatus :=
      (authorizationForMission db missionId).map (fun a => a.status.value)
    replayPaymentState := projection.payment.state
    persistedPaymentState := (paymentIntentForMission db missionId).map (fun i => i.state.value) }

end Replay

end Pactra
