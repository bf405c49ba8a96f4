import Mathlib.Algebra.Order.Group.Unbundled.Abs
import Mathlib.Algebra.Order.Ring.Rat
import Mathlib.Data.List.Sort
import Pactra.Foundation.Numeric
import Pactra.RiskEngine.Config

/-!
# Heuristic risk scorer

`services/risk_engine/heuristic.py` with the types of `models.py` that it reads and returns. Rules
are rows of a table; each takes one feature, and one of them is gated on another. Scoring applies
every rule, explains each contribution, and adds them up; a factor whose sentence is too long for its
model is refused, and the whole score with it.
-/

namespace Pactra

namespace RiskEngine

-- ════════════════════════════════════════════════════════════════════════
-- Features and factors
-- ════════════════════════════════════════════════════════════════════════

/-- `FeatureScalar`, when it is not `None`. -/
inductive FeatureScalar where
  | num (q : Rat)
  | bool (b : Bool)
deriving DecidableEq

/-- `float(value)`. -/
def FeatureScalar.float : FeatureScalar → Rat
  | .num q => q
  | .bool b => if b then 1 else 0

/-- Whether a value counts as true. -/
def FeatureScalar.truthy : FeatureScalar → Bool
  | .num q => q ≠ 0
  | .bool b => b

/-- `FeatureValue`, by the fields that scoring reads. -/
structure FeatureValue where
  value : Option FeatureScalar
  available : Bool
  derivedFromUntrustedEvidence : Bool

/-- `numeric`: the value as a float, or `None` when it was not measured. -/
def FeatureValue.numeric (feature : FeatureValue) : Option Rat :=
  if feature.available then feature.value.map FeatureScalar.float else none

/-- A mapping of features, by its lookups. -/
abbrev Features := String → Option FeatureValue

/-- Whether a code matches `^[A-Z0-9_]+$`. -/
def codeMatches (code : String) : Bool :=
  !code.toList.isEmpty &&
    code.toList.all fun c => ('A' ≤ c && c ≤ 'Z') || ('0' ≤ c && c ≤ '9') || c = '_'

/-- `RiskFactor`: one reason the score is what it is. -/
structure RiskFactor where
  code : String
  feature : String
  contribution : Rat
  weight : Rat
  observed : Option FeatureScalar
  threshold : Option Rat
  saturatesAt : Option Rat
  explanation : String
  derivedFromUntrustedEvidence : Bool
  code_valid : code.length ≤ 64 ∧ codeMatches code = true
  feature_length : 1 ≤ feature.length ∧ feature.length ≤ 80
  contribution_pos : 0 < contribution
  weight_pos : 0 < weight
  explanation_length : 1 ≤ explanation.length ∧ explanation.length ≤ 400

/-- The validated construction of a factor. -/
def RiskFactor.make (code feature : String) (contribution weight : Rat)
    (observed : Option FeatureScalar) (threshold saturatesAt : Option Rat) (explanation : String)
    (derivedFromUntrustedEvidence : Bool) : Except RiskError RiskFactor :=
  if h : (code.length ≤ 64 ∧ codeMatches code = true) ∧
      (1 ≤ feature.length ∧ feature.length ≤ 80) ∧ 0 < contribution ∧ 0 < weight ∧
      (1 ≤ explanation.length ∧ explanation.length ≤ 400) then
    .ok ⟨code, feature, contribution, weight, observed, threshold, saturatesAt, explanation,
      derivedFromUntrustedEvidence, h.1, h.2.1, h.2.2.1, h.2.2.2.1, h.2.2.2.2⟩
  else .error (.validationError "RiskFactor")

-- ════════════════════════════════════════════════════════════════════════
-- Rules
-- ════════════════════════════════════════════════════════════════════════

/-- `Shape`: how an observation becomes a fraction of the available weight. -/
inductive Shape where
  | ratio
  | count
  | shortfall
  | absentFlag
deriving DecidableEq

/-- The value of a shape. -/
def Shape.value : Shape → String
  | .ratio => "RATIO"
  | .count => "COUNT"
  | .shortfall => "SHORTFALL"
  | .absentFlag => "ABSENT_FLAG"

/-- A part of a sentence template: a text, or the place of a rendered number. -/
inductive Piece where
  | text (s : String)
  | observed
  | observedPct
  | reference

/-- `FactorRule`: one scoring rule. A configuration field is given by its projection. -/
structure FactorRule where
  code : String
  feature : String
  shape : Shape
  weightField : RiskConfig → Rat
  loField : Option (RiskConfig → Rat) := none
  hiField : Option (RiskConfig → Rat) := none
  saturatesField : Option (RiskConfig → Rat) := none
  referenceField : Option (RiskConfig → Rat) := none
  requiresFeatureTrue : Option String := none
  template : List Piece

/-- A rule that counts occurrences. -/
def countRule (code feature : String) (weight saturates : RiskConfig → Rat)
    (template : List Piece) : FactorRule :=
  { code := code, feature := feature, shape := .count, weightField := weight,
    saturatesField := some saturates, template := template }

/-- A rule over a proportion or a multiple. -/
def ratioRule (code feature : String) (weight lo hi : RiskConfig → Rat)
    (template : List Piece) : FactorRule :=
  { code := code, feature := feature, shape := .ratio, weightField := weight,
    loField := some lo, hiField := some hi, template := template }

/-- A rule that finds a flag absent. -/
def absentFlagRule (code feature : String) (weight : RiskConfig → Rat)
    (template : List Piece) : FactorRule :=
  { code := code, feature := feature, shape := .absentFlag, weightField := weight,
    template := template }

/-- `MERCHANT_UNKNOWN`. -/
def merchantUnknown : FactorRule :=
  absentFlagRule "MERCHANT_UNKNOWN" "merchant_known" RiskConfig.merchantUnknownWeight
    [.text "the authenticated merchant is not in the server-owned registry, so ",
     .text "it carries no reputation at all"]

/-- `MERCHANT_TRUST_BELOW_PREFERRED`: an unknown merchant has no trust by construction, so the rule
applies to known merchants only. -/
def merchantTrustBelowPreferred : FactorRule :=
  { code := "MERCHANT_TRUST_BELOW_PREFERRED", feature := "merchant_trust", shape := .shortfall
    weightField := RiskConfig.merchantTrustWeight
    referenceField := some RiskConfig.preferredMerchantTrust
    requiresFeatureTrue := some "merchant_known"
    template :=
      [.text "registry trust for this merchant is ", .observed, .text " against an advisory ",
       .text "preference of ", .reference, .text " (the user's own minimum-trust policy is ",
       .text "enforced separately and is unaffected)"] }

/-- The rules before `MERCHANT_UNKNOWN`: security history and adversarial behaviour. -/
def adversarialRules : List FactorRule :=
  [countRule "MERCHANT_IDENTITY_MISMATCH_HISTORY" "merchant_identity_mismatch_events"
     RiskConfig.merchantIdentityMismatchWeight RiskConfig.merchantIdentityMismatchSaturatesAt
     [.text "this merchant has asserted an identity other than the one it ",
      .text "authenticated as on ", .observed, .text " recorded occasion(s)"],
   countRule "AUTHORIZATION_REPLAY_HISTORY" "authorization_replay_attempts"
     RiskConfig.replayAttemptWeight RiskConfig.replayAttemptSaturatesAt
     [.observed, .text " authorization replay attempt(s) were detected and refused on this mission"],
   countRule "TRANSACTION_BINDING_FAILURE_HISTORY" "transaction_binding_failures"
     RiskConfig.bindingFailureWeight RiskConfig.bindingFailureSaturatesAt
     [.observed, .text " transaction-binding failure(s) on this mission — the ",
      .text "transaction changed after approval"],
   absentFlagRule "AUDIT_CHAIN_INVALID" "audit_chain_valid" RiskConfig.auditIntegrityWeight
     [.text "this mission's hash-chained audit history does not verify, so every ",
      .text "audit-derived feature above was read from untrustworthy history"],
   countRule "MERCHANT_AUTHORITY_ESCALATION_HISTORY" "merchant_authority_escalation_events"
     RiskConfig.merchantEscalationWeight RiskConfig.merchantEscalationSaturatesAt
     [.text "this merchant has attempted to write user-policy state on ", .observed, .text " ",
      .text "recorded occasion(s); the authority lattice refused each one"],
   countRule "MISSION_AUTHORITY_ESCALATION_ATTEMPTS" "mission_authority_escalation_attempts"
     RiskConfig.missionEscalationWeight RiskConfig.missionEscalationSaturatesAt
     [.observed, .text " authority-escalation attempt(s) were refused on this mission"],
   countRule "PROVIDER_RESPONSE_MISMATCH_HISTORY" "provider_response_mismatch_events"
     RiskConfig.providerMismatchWeight RiskConfig.providerMismatchSaturatesAt
     [.observed, .text " provider response(s) did not describe the transaction ",
      .text "PACTRA requested; the payment was held uncertain rather than settled"],
   countRule "IDEMPOTENCY_CONFLICT_HISTORY" "idempotency_conflict_events"
     RiskConfig.idempotencyConflictWeight RiskConfig.idempotencyConflictSaturatesAt
     [.text "an idempotency key was presented ", .observed,
      .text " time(s) for a materially different request"]]

/-- The rules after the merchant's trust: genuine concerns and mild signals. -/
def concernRules : List FactorRule :=
  [ratioRule "AMOUNT_NEAR_HARD_LIMIT" "amount_to_hard_limit_ratio"
     RiskConfig.amountHardLimitWeight RiskConfig.amountHardLimitRampLo
     RiskConfig.amountHardLimitRampHi
     [.text "the amount is ", .observedPct, .text " of the hard limit, leaving little ",
      .text "headroom before the absolute ceiling"],
   ratioRule "MERCHANT_FAILED_PAYMENT_RATIO" "merchant_failed_payment_ratio"
     RiskConfig.merchantFailureRatioWeight RiskConfig.merchantFailureRatioRampLo
     RiskConfig.merchantFailureRatioRampHi
     [.observedPct, .text " of this merchant's prior settled payments failed terminally"],
   ratioRule "PAYMENT_RETRY_PRESSURE" "payment_attempts"
     RiskConfig.paymentAttemptWeight RiskConfig.paymentAttemptRampLo RiskConfig.paymentAttemptRampHi
     [.text "the payment has been attempted ", .observed, .text " times"],
   countRule "PROVIDER_TIMEOUT_HISTORY" "provider_timeout_events"
     RiskConfig.providerTimeoutWeight RiskConfig.providerTimeoutSaturatesAt
     [.observed, .text " provider timeout(s) left this payment's outcome unknown"],
   ratioRule "AMOUNT_ABOVE_MERCHANT_HISTORY_MEDIAN" "amount_vs_merchant_median_ratio"
     RiskConfig.amountAnomalyWeight RiskConfig.amountAnomalyRampLo RiskConfig.amountAnomalyRampHi
     [.text "the amount is ", .observed,
      .text "x this merchant's historical median authorized amount"],
   ratioRule "AMOUNT_ABOVE_SOFT_BUDGET" "amount_to_soft_budget_ratio"
     RiskConfig.amountSoftBudgetWeight RiskConfig.amountSoftBudgetRampLo
     RiskConfig.amountSoftBudgetRampHi
     [.text "the amount is ", .observedPct, .text " of the soft budget; the deterministic ",
      .text "policy engine already requires approval for this"],
   ratioRule "AUTHORIZATION_NEAR_EXPIRY" "authorization_lifetime_used_ratio"
     RiskConfig.authorizationAgeWeight RiskConfig.authorizationAgeRampLo
     RiskConfig.authorizationAgeRampHi
     [.observedPct, .text " of the authorization window has elapsed; expiry itself ",
      .text "is enforced deterministically"],
   countRule "WEBHOOK_ANOMALY_HISTORY" "webhook_anomaly_events"
     RiskConfig.webhookAnomalyWeight RiskConfig.webhookAnomalySaturatesAt
     [.observed, .text " duplicate or out-of-order webhook(s) were ignored; some ",
      .text "are normal under at-least-once delivery"],
   ratioRule "RECONCILIATION_PRESSURE" "reconciliation_events"
     RiskConfig.reconciliationWeight RiskConfig.reconciliationRampLo RiskConfig.reconciliationRampHi
     [.text "this payment required reconciliation ", .observed, .text " times"],
   ratioRule "HIGH_INVALID_OFFER_RATIO" "invalid_offer_ratio"
     RiskConfig.invalidOfferWeight RiskConfig.invalidOfferRampLo RiskConfig.invalidOfferRampHi
     [.observedPct, .text " of the offers received were rejected by the kernel"]]

/-- `FACTOR_RULES`: the complete rule set, in order. -/
def factorRules : List FactorRule :=
  adversarialRules ++ [merchantUnknown, merchantTrustBelowPreferred] ++ concernRules

-- ════════════════════════════════════════════════════════════════════════
-- Rendering
-- ════════════════════════════════════════════════════════════════════════

/-- `format(value, ".<digits>f")`: exact decimal notation, rounded half to even. A negative number
keeps its sign when it rounds to zero. -/
def formatFixed (digits : Nat) (value : Rat) : String :=
  let scaled := (Numeric.roundHalfEven (|value| * 10 ^ digits)).toNat
  let whole := toString (scaled / 10 ^ digits)
  let sign := if value < 0 then "-" else ""
  if digits = 0 then sign ++ whole
  else sign ++ whole ++ "." ++ Numeric.zeroPad digits (scaled % 10 ^ digits : Nat)

/-- `_pct`. -/
def pct (value : Rat) : String := formatFixed 0 (value * 100) ++ "%"

/-- `_num`: a count or multiple without a misleading decimal tail. -/
def num (value : Rat) : String :=
  if |value - Numeric.roundHalfEven value| < 1 / 10 ^ 9 then toString (Numeric.roundHalfEven value)
  else formatFixed 2 value

-- ════════════════════════════════════════════════════════════════════════
-- Scoring
-- ════════════════════════════════════════════════════════════════════════

/-- `_read`: a configuration field that the rule's shape requires. -/
def read (rule : FactorRule) (config : RiskConfig) (field : Option (RiskConfig → Rat))
    (what : String) : Except RiskError Rat :=
  match field with
  | none => .error (.undeclared
      ("factor rule " ++ rule.code ++ " (" ++ rule.shape.value ++ ") declares no " ++ what))
  | some f => .ok (f config)

/-- `_bounds`: threshold and saturation, in the feature's own units. -/
def bounds (rule : FactorRule) (config : RiskConfig) :
    Except RiskError (Option Rat × Option Rat) :=
  match rule.shape with
  | .ratio => do
    let lo ← read rule config rule.loField "ramp lower bound"
    let hi ← read rule config rule.hiField "ramp upper bound"
    pure (some lo, some hi)
  | .count => do
    let saturates ← read rule config rule.saturatesField "saturation count"
    pure (some 0, some saturates)
  | .shortfall => do
    let reference ← read rule config rule.referenceField "reference level"
    pure (some reference, some 0)
  | .absentFlag => pure (none, none)

/-- `_fraction`: the fraction of the weight that an observation earns. -/
def fraction (rule : FactorRule) (observed : Rat) (config : RiskConfig) : Except RiskError Rat :=
  match rule.shape with
  | .ratio => do
    let lo ← read rule config rule.loField "ramp lower bound"
    let hi ← read rule config rule.hiField "ramp upper bound"
    ramp observed lo hi
  | .count => do
    let saturates ← read rule config rule.saturatesField "saturation count"
    ramp observed 0 saturates
  | .shortfall => do
    let reference ← read rule config rule.referenceField "reference level"
    if reference ≤ 0 then pure 0 else ramp (reference - observed) 0 reference
  | .absentFlag => pure (if observed ≠ 0 then 0 else 1)

/-- A piece of a template with its number filled in. -/
def Piece.render (observed : Rat) (reference : String) : Piece → String
  | .text s => s
  | .observed => num observed
  | .observedPct => pct observed
  | .reference => reference

/-- The text of a rule's reference level, if it has one. -/
def referenceText (rule : FactorRule) (config : RiskConfig) : String :=
  match rule.referenceField with
  | some f => formatFixed 2 (f config)
  | none => ""

/-- `_describe`: the factor's sentence, rendered from the numbers that produced it. -/
def describe (rule : FactorRule) (observed : Rat) (config : RiskConfig) (earned : Rat) : String :=
  String.join (rule.template.map (Piece.render observed (referenceText rule config))) ++
    " (" ++ pct earned ++ " of the available weight for this factor)"

/-- Whether the gate of a rule is open: the feature it requires is available and true. -/
def gateOpen (features : Features) (rule : FactorRule) : Bool :=
  match rule.requiresFeatureTrue with
  | none => true
  | some name =>
    match features name with
    | none => false
    | some gate => gate.available && (match gate.value with
      | none => false
      | some v => v.truthy)

/-- One rule: no factor when its feature is absent, unavailable, gated or earns nothing. -/
def applyRule (features : Features) (config : RiskConfig) (rule : FactorRule) :
    Except RiskError (Option RiskFactor) :=
  match features rule.feature with
  | none => .ok none
  | some feature =>
    if !feature.available then .ok none
    else if !gateOpen features rule then .ok none
    else
      match feature.numeric with
      | none => .ok none
      | some observed => do
        let earned ← fraction rule observed config
        let weight := rule.weightField config
        let contribution := weight * earned
        if contribution ≤ 0 then pure none
        else do
          let (threshold, saturates) ← bounds rule config
          let factor ← RiskFactor.make rule.code rule.feature contribution weight feature.value
            threshold saturates (describe rule observed config earned)
            feature.derivedFromUntrustedEvidence
          pure (some factor)

/-- The factors of rules, in the order of the rules. -/
def applyRules (features : Features) (config : RiskConfig) :
    List FactorRule → Except RiskError (List RiskFactor)
  | [] => .ok []
  | rule :: rules => do
    let factor ← applyRule features config rule
    let factors ← applyRules features config rules
    pure (factor.toList ++ factors)

/-- `score`: the factors, strongest first, and the sum of their contributions. -/
def score (features : Features) (config : RiskConfig) :
    Except RiskError (List RiskFactor × Rat) := do
  let factors ← applyRules features config factorRules
  let ranked := factors.insertionSort fun a b => b.contribution ≤ a.contribution
  pure (ranked, (ranked.map RiskFactor.contribution).sum)

/-- `normalize`: points to a normalized risk index. -/
def normalize (rawPoints : Rat) (config : RiskConfig) : Rat :=
  if rawPoints ≤ 0 then 0 else min 1 (rawPoints / config.saturationPoints)

end RiskEngine

end Pactra
