import Mathlib.Data.Rat.Defs

/-!
# Risk configuration

`services/risk_engine/config.py`: the tunables of the heuristic scorer, the ramp its factors share,
and the bands of the normalized index. Numbers are exact rationals.
-/

namespace Pactra

namespace RiskEngine

/-- What the scorer raises. -/
inductive RiskError where
  /-- `ramp` was given bounds in the wrong order. -/
  | rampBounds (lo hi : Rat)
  /-- A rule declares no bound that its shape requires. -/
  | undeclared (message : String)
  /-- A model refused its values. -/
  | validationError (model : String)
deriving DecidableEq

/-- `RiskBand`. -/
inductive RiskBand where
  | low
  | medium
  | high
  | critical
deriving DecidableEq

/-- `BAND_ORDER`: ascending severity. -/
def RiskBand.order : RiskBand → Nat
  | .low => 0
  | .medium => 1
  | .high => 2
  | .critical => 3

/-- `WEAK`. -/
def weak : Rat := 5 / 100

/-- `MODERATE`. -/
def moderate : Rat := 15 / 100

/-- `STRONG`. -/
def strong : Rat := 35 / 100

/-- `SEVERE`. -/
def severe : Rat := 60 / 100

/-- `ramp`: linear interpolation of a value across an interval, clamped. -/
def ramp (value lo hi : Rat) : Except RiskError Rat :=
  if hi ≤ lo then .error (.rampBounds lo hi)
  else if value ≤ lo then .ok 0
  else if hi ≤ value then .ok 1
  else .ok ((value - lo) / (hi - lo))

/-- `RiskConfig`: the tunables that extraction and scoring read, with their defaults. -/
structure RiskConfig where
  saturationPoints : Rat := 1
  bandMediumAt : Rat := 25 / 100
  bandHighAt : Rat := 50 / 100
  bandCriticalAt : Rat := 75 / 100
  amountHardLimitWeight : Rat := moderate
  amountHardLimitRampLo : Rat := 75 / 100
  amountHardLimitRampHi : Rat := 1
  amountSoftBudgetWeight : Rat := weak
  amountSoftBudgetRampLo : Rat := 1
  amountSoftBudgetRampHi : Rat := 150 / 100
  preferredMerchantTrust : Rat := 80 / 100
  merchantTrustWeight : Rat := moderate
  merchantUnknownWeight : Rat := strong
  merchantIdentityMismatchWeight : Rat := severe
  merchantIdentityMismatchSaturatesAt : Rat := 1
  merchantEscalationWeight : Rat := strong
  merchantEscalationSaturatesAt : Rat := 2
  merchantFailureRatioWeight : Rat := moderate
  merchantFailureRatioRampLo : Rat := 20 / 100
  merchantFailureRatioRampHi : Rat := 60 / 100
  minMerchantPaymentHistory : Nat := 3
  replayAttemptWeight : Rat := severe
  replayAttemptSaturatesAt : Rat := 1
  bindingFailureWeight : Rat := severe
  bindingFailureSaturatesAt : Rat := 1
  missionEscalationWeight : Rat := strong
  missionEscalationSaturatesAt : Rat := 2
  authorizationAgeWeight : Rat := weak
  authorizationAgeRampLo : Rat := 80 / 100
  authorizationAgeRampHi : Rat := 1
  paymentAttemptWeight : Rat := moderate
  paymentAttemptRampLo : Rat := 1
  paymentAttemptRampHi : Rat := 4
  providerTimeoutWeight : Rat := moderate
  providerTimeoutSaturatesAt : Rat := 2
  providerMismatchWeight : Rat := strong
  providerMismatchSaturatesAt : Rat := 1
  idempotencyConflictWeight : Rat := strong
  idempotencyConflictSaturatesAt : Rat := 1
  webhookAnomalyWeight : Rat := weak
  webhookAnomalySaturatesAt : Rat := 3
  reconciliationWeight : Rat := weak
  reconciliationRampLo : Rat := 1
  reconciliationRampHi : Rat := 3
  auditIntegrityWeight : Rat := severe
  invalidOfferWeight : Rat := weak
  invalidOfferRampLo : Rat := 34 / 100
  invalidOfferRampHi : Rat := 1
  minOffersForRatio : Nat := 2
  minHistoryObservations : Nat := 5
  amountAnomalyWeight : Rat := moderate
  amountAnomalyRampLo : Rat := 150 / 100
  amountAnomalyRampHi : Rat := 3

/-- `band_for`: boundaries are inclusive at the bottom. -/
def RiskConfig.bandFor (config : RiskConfig) (score : Rat) : RiskBand :=
  if config.bandCriticalAt ≤ score then .critical
  else if config.bandHighAt ≤ score then .high
  else if config.bandMediumAt ≤ score then .medium
  else .low

/-- `DEFAULT_RISK_CONFIG`. -/
def defaultRiskConfig : RiskConfig := {}

end RiskEngine

end Pactra
