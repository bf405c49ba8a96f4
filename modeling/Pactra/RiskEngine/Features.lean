import Mathlib.Algebra.Order.Field.Basic
import Mathlib.Data.List.Sort
import Mathlib.Tactic.Linarith
import Pactra.Db.Models
import Pactra.RiskEngine.Heuristic

/-!
# Feature extraction

`services/risk_engine/features.py`, with the baselines of `anomaly.py`: the rows that an assessment
of a mission reads, and the features that it makes of them. A feature with nothing behind it is
unavailable, never zero; history across missions is read through bounded windows.

## Main results

- `modest_features` — every feature of a database is as small as the columns it was computed from
-/

namespace Pactra

namespace RiskEngine

-- ════════════════════════════════════════════════════════════════════════
-- Merchant history
-- ════════════════════════════════════════════════════════════════════════

/-- `MerchantRecord`, by the fields that extraction reads. -/
structure MerchantRecord where
  trustScore : Rat
  known : Bool
  trust_range : 0 ≤ trustScore ∧ trustScore ≤ 1

/-- `MerchantRegistry.record_for`: an unknown merchant gets a synthesized record without trust. -/
def recordFor (records : List (String × MerchantRecord)) (merchantId : String) : MerchantRecord :=
  (records.lookup merchantId).getD ⟨0, false, le_refl 0, zero_le_one⟩

/-- `HISTORY_WINDOW`. -/
def historyWindow : Nat := 200

/-- `SECURITY_HISTORY_WINDOW`. -/
def securityHistoryWindow : Nat := 500

/-- Rows in descending order of a time. -/
def newestFirst {ρ : Type} (time : ρ → Datetime) (rows : List ρ) : List ρ :=
  rows.insertionSort fun a b => time b ≤ time a

/-- `statistics.median`. -/
def median (values : List Int) : Rat :=
  let sorted := values.insertionSort (· ≤ ·)
  let i := sorted.length / 2
  if sorted.length % 2 = 1 then sorted.getD i 0
  else ((sorted.getD (i - 1) 0 + sorted.getD i 0 : Int) : Rat) / 2

/-- `MerchantHistory`: prior observations for one merchant. -/
structure MerchantHistory where
  merchantId : String
  amountObservations : Nat
  medianAmountInr : Option Rat
  settledPayments : Nat
  failedPayments : Nat
  available : Bool
  coldStart : Bool

/-- `payment_observations`. -/
def MerchantHistory.paymentObservations (h : MerchantHistory) : Nat :=
  h.settledPayments + h.failedPayments

/-- `failure_ratio`. -/
def MerchantHistory.failureRatio (h : MerchantHistory) : Option Rat :=
  if h.paymentObservations = 0 then none
  else some ((h.failedPayments : Rat) / (h.paymentObservations : Rat))

/-- `amount_ratio`: how many times the historical median an amount is. -/
def MerchantHistory.amountRatio (h : MerchantHistory) (amountInr : Int) : Option Rat :=
  if !h.available then none
  else
    match h.medianAmountInr with
    | none => none
    | some median => if median ≤ 0 then none else some ((amountInr : Rat) / median)

/-- `empty_history`. -/
def emptyHistory (merchantId : String) : MerchantHistory :=
  ⟨merchantId, 0, none, 0, 0, false, true⟩

/-- `load_merchant_history`. -/
def loadMerchantHistory (db : Db) (merchantId : String) (excludeMissionId : Uuid)
    (minObservations : Nat) : MerchantHistory :=
  let amounts := ((newestFirst AuthorizationRow.issuedAt (db.authorizations.filter fun a =>
    a.boundMerchantId = merchantId ∧ a.missionId ≠ excludeMissionId)).take historyWindow).map
      AuthorizationRow.boundAmountInr
  let states := ((newestFirst PaymentIntentRow.createdAt (db.paymentIntents.filter fun i =>
    i.merchantId = merchantId ∧ i.missionId ≠ excludeMissionId)).take historyWindow).map
      PaymentIntentRow.state
  let available := decide (minObservations ≤ amounts.length)
  { merchantId := merchantId
    amountObservations := amounts.length
    medianAmountInr := if available then some (median amounts) else none
    settledPayments := states.count .succeeded
    failedPayments := states.count .failedTerminal
    available := available
    coldStart := amounts.isEmpty && states.isEmpty }

-- ════════════════════════════════════════════════════════════════════════
-- Facts
-- ════════════════════════════════════════════════════════════════════════

/-- `MissionFacts`: everything that the features of one assessment are made of. -/
structure MissionFacts where
  mission : Mission
  constraints : Option MissionConstraintsRow
  policyDecision : Option PolicyDecisionRow
  authorization : Option AuthorizationRow
  paymentIntent : Option PaymentIntentRow
  offers : List Offer
  events : List AuditEventRow
  merchantId : Option String
  merchantTrust : Rat
  merchantKnown : Bool
  history : MerchantHistory
  auditChainValid : Bool

/-- `_load_selected_merchant`. -/
def loadSelectedMerchant (db : Db) (authorization : Option AuthorizationRow)
    (decision : Option PolicyDecisionRow) : Option String :=
  match authorization with
  | some a => some a.boundMerchantId
  | none => do
    let d ← decision
    let offerId ← d.selectedOfferId
    let offer ← Table.find Offer.id offerId db.offers
    pure offer.merchantId

/-- `load_mission_facts`; `verified` is the verdict of `verify_events` over the mission's events. A
mission that does not exist has no facts. -/
def loadMissionFacts (db : Db) (records : List (String × MerchantRecord)) (config : RiskConfig)
    (verified : List AuditEventRow → Bool) (missionId : Uuid) : Option MissionFacts := do
  let mission ← db.getMission missionId
  let decision := (newestFirst PolicyDecisionRow.createdAt
    (db.policyDecisions.filter fun d => d.missionId = missionId)).head?
  let authorization := (newestFirst AuthorizationRow.issuedAt
    (db.authorizations.filter fun a => a.missionId = missionId)).head?
  let intent := (newestFirst PaymentIntentRow.createdAt
    (db.paymentIntents.filter fun i => i.missionId = missionId)).head?
  let events := (db.auditEvents.filter fun e => e.missionId = missionId).insertionSort
    fun a b => a.sequence ≤ b.sequence
  let merchantId := loadSelectedMerchant db authorization decision
  pure
    { mission := mission
      constraints := (db.missionConstraints.filter fun c => c.missionId = missionId).head?
      policyDecision := decision
      authorization := authorization
      paymentIntent := intent
      offers := db.offers.filter fun o => o.missionId = missionId
      events := events
      merchantId := merchantId
      merchantTrust := (merchantId.map fun id => (recordFor records id).trustScore).getD 0
      merchantKnown := (merchantId.map fun id => (recordFor records id).known).getD false
      history := match merchantId with
        | none => emptyHistory ""
        | some id => loadMerchantHistory db id missionId config.minHistoryObservations
      auditChainValid := verified events }

-- ════════════════════════════════════════════════════════════════════════
-- Features
-- ════════════════════════════════════════════════════════════════════════

/-- The features of `FEATURE_SPECS` that are derived from untrusted evidence. -/
def untrustedEvidence : List String :=
  ["merchant_identity_mismatch_events", "merchant_authority_escalation_events",
   "authorization_replay_attempts", "transaction_binding_failures",
   "mission_authority_escalation_attempts", "provider_response_mismatch_events",
   "idempotency_conflict_events", "webhook_anomaly_events"]

/-- `_value` of a measured feature. -/
def measured (name : String) (value : Option FeatureScalar) : String × FeatureValue :=
  (name, ⟨value, true, decide (name ∈ untrustedEvidence)⟩)

/-- `_value` of a feature that was not measured. -/
def unavailable (name : String) : String × FeatureValue :=
  (name, ⟨none, false, decide (name ∈ untrustedEvidence)⟩)

/-- A whole number as a feature. -/
def count (n : Nat) : Option FeatureScalar := some (.num n)

/-- A text of an event's payload. -/
def payloadText (event : AuditEventRow) (key : String) : Option String :=
  match event.payload with
  | .obj members =>
    match Dict.get members key with
    | some (.str text) => some text
    | _ => none
  | _ => none

/-- `_payload_reason`. -/
def payloadReason (event : AuditEventRow) : Option String := payloadText event "reason_code"

/-- `_count_type`. -/
def countType (events : List AuditEventRow) (types : List EventType) : Nat :=
  events.countP fun e => decide (e.eventType ∈ types.map EventType.value)

/-- How many events have a reason code. -/
def countReason (events : List AuditEventRow) (reason : ReasonCode) : Nat :=
  events.countP fun e => payloadReason e = some reason.value

/-- An amount over a bound, unless the bound is zero. -/
def amountOver (amount bound : Int) : Option FeatureScalar :=
  if bound = 0 then none else some (.num ((amount : Rat) / (bound : Rat)))

/-- The features about the amount. -/
def amountFeatures (facts : MissionFacts) : List (String × FeatureValue) :=
  match facts.policyDecision.bind fun d => d.requestedAmount.map fun amount => (d, amount) with
  | none =>
    [unavailable "requested_amount_inr", unavailable "amount_to_hard_limit_ratio",
     unavailable "amount_to_soft_budget_ratio"]
  | some (d, amount) =>
    [measured "requested_amount_inr" (some (.num amount)),
     measured "amount_to_hard_limit_ratio" (amountOver amount
       ((facts.constraints.map MissionConstraintsRow.hardLimitInr).getD d.hardLimit)),
     measured "amount_to_soft_budget_ratio" (amountOver amount
       ((facts.constraints.map MissionConstraintsRow.softBudgetInr).getD d.softBudget))]

/-- The features about the merchant and its payments. -/
def merchantFeatures (facts : MissionFacts) (config : RiskConfig) : List (String × FeatureValue) :=
  (if facts.merchantId.isNone then [unavailable "merchant_trust", unavailable "merchant_known"]
    else [measured "merchant_trust" (some (.num facts.merchantTrust)),
      measured "merchant_known" (some (.bool facts.merchantKnown))]) ++
  [measured "merchant_payment_observations" (count facts.history.paymentObservations),
   if config.minMerchantPaymentHistory ≤ facts.history.paymentObservations then
     measured "merchant_failed_payment_ratio" (facts.history.failureRatio.map .num)
   else unavailable "merchant_failed_payment_ratio"]

/-- The features about the time an authorization has left. -/
def lifetimeFeatures (facts : MissionFacts) (now : Option Datetime) :
    List (String × FeatureValue) :=
  match facts.authorization, now with
  | some a, some moment =>
    let window : Rat := ((a.expiresAt - a.issuedAt : Int) : Rat) / 10 ^ 6
    let elapsed : Rat := ((moment - a.issuedAt : Int) : Rat) / 10 ^ 6
    [measured "authorization_age_seconds" (some (.num (max 0 elapsed))),
     measured "authorization_lifetime_used_ratio"
       (if 0 < window then some (.num (max 0 (elapsed / window))) else none)]
  | _, _ =>
    [unavailable "authorization_age_seconds", unavailable "authorization_lifetime_used_ratio"]

/-- The features that count events of the mission. -/
def eventFeatures (facts : MissionFacts) : List (String × FeatureValue) :=
  [measured "authorization_replay_attempts"
     (count (countType facts.events [.authorizationReplayDetected])),
   measured "transaction_binding_failures"
     (count (countType facts.events [.transactionBindingFailure])),
   measured "mission_authority_escalation_attempts"
     (count (countReason (facts.events.filter fun e => e.eventType = EventType.securityViolation.value)
       .authorityEscalation)),
   measured "provider_timeout_events" (count (countType facts.events [.paymentProviderTimeout])),
   measured "provider_response_mismatch_events"
     (count (countReason facts.events .providerResponseMismatch)),
   measured "idempotency_conflict_events" (count (countType facts.events [.idempotencyConflict])),
   measured "webhook_anomaly_events"
     (count (countType facts.events [.duplicateWebhookIgnored, .webhookOutOfOrderIgnored])),
   measured "reconciliation_events" (count (countType facts.events [.paymentReconciled])),
   measured "audit_chain_valid" (some (.bool facts.auditChainValid))]

/-- The share of offers that were rejected, when there are enough of them. -/
def offerFeature (facts : MissionFacts) (config : RiskConfig) : String × FeatureValue :=
  if facts.offers.length < config.minOffersForRatio then unavailable "invalid_offer_ratio"
  else measured "invalid_offer_ratio" (some (.num
    ((facts.offers.countP fun o => !o.valid : Nat) / (facts.offers.length : Rat))))

/-- The ratio of the amount to the merchant's median. -/
def medianFeature (facts : MissionFacts) : String × FeatureValue :=
  match (facts.policyDecision.bind PolicyDecisionRow.requestedAmount).bind
      facts.history.amountRatio with
  | none => unavailable "amount_vs_merchant_median_ratio"
  | some ratio => measured "amount_vs_merchant_median_ratio" (some (.num ratio))

/-- `extract_features`. -/
def extractFeatures (facts : MissionFacts) (config : RiskConfig) (now : Option Datetime) :
    List (String × FeatureValue) :=
  amountFeatures facts ++ measured "quantity" (some (.num facts.mission.quantity)) ::
    (merchantFeatures facts config ++ lifetimeFeatures facts now ++
      (match facts.paymentIntent with
        | none => unavailable "payment_attempts"
        | some i => measured "payment_attempts" (some (.num i.attempts))) ::
      (eventFeatures facts ++ [offerFeature facts config,
        measured "merchant_amount_observations" (count facts.history.amountObservations),
        medianFeature facts]))

/-- Whether a violation names a merchant under the key that its reason code calls for. -/
def names (key : String) (reason : ReasonCode) (merchantId : String) (event : AuditEventRow) : Bool :=
  decide (payloadReason event = some reason.value ∧ payloadText event key = some merchantId)

/-- `_merchant_violation_counts` over the recent violations. -/
def merchantViolationCounts (db : Db) (merchantId : String) : Nat × Nat :=
  let rows := (newestFirst AuditEventRow.createdAt (db.auditEvents.filter fun e =>
    e.eventType = EventType.securityViolation.value)).take securityHistoryWindow
  (rows.countP (names "authenticated_merchant_id" .merchantIdentityMismatch merchantId),
   rows.countP (names "merchant_id" .authorityEscalation merchantId))

/-- `extract_merchant_history_features`. -/
def extractMerchantHistoryFeatures (db : Db) (facts : MissionFacts) : List (String × FeatureValue) :=
  match facts.merchantId with
  | none => [unavailable "merchant_identity_mismatch_events",
      unavailable "merchant_authority_escalation_events"]
  | some id =>
    [measured "merchant_identity_mismatch_events" (count (merchantViolationCounts db id).1),
     measured "merchant_authority_escalation_events" (count (merchantViolationCounts db id).2)]

/-- The mapping of features that `assess_mission` scores. -/
def missionFeatures (db : Db) (facts : MissionFacts) (config : RiskConfig) (now : Datetime) :
    Features := fun name =>
  (extractFeatures facts config (some now) ++ extractMerchantHistoryFeatures db facts).lookup name

-- ════════════════════════════════════════════════════════════════════════
-- Bounds
-- ════════════════════════════════════════════════════════════════════════

/-- What the columns that extraction reads can hold. -/
structure Storable (db : Db) : Prop where
  quantities : ∀ m ∈ db.missions, |m.quantity| ≤ 2 ^ 63
  amounts : ∀ d ∈ db.policyDecisions, ∀ n ∈ d.requestedAmount, |n| ≤ 2 ^ 63
  attempts : ∀ i ∈ db.paymentIntents, |i.attempts| ≤ 2 ^ 63
  times : ∀ a ∈ db.authorizations, a.issuedAt.InRange ∧ a.expiresAt.InRange
  sequences : ∀ e ∈ db.auditEvents, e.sequence < 2 ^ 63
  sequences_unique : db.auditEvents.Pairwise fun a b =>
    a.missionId = b.missionId → a.sequence ≠ b.sequence

/-- A history whose median is that of whole numbers, over bounded windows. -/
structure MerchantHistory.Bounded (h : MerchantHistory) : Prop where
  amounts : h.amountObservations ≤ historyWindow
  payments : h.paymentObservations ≤ 2 * historyWindow
  median : ∀ m ∈ h.medianAmountInr, 0 < m → 1 / 2 ≤ m

/-- Facts that were loaded from columns. -/
structure MissionFacts.Bounded (facts : MissionFacts) : Prop where
  quantity : |facts.mission.quantity| ≤ 2 ^ 63
  amount : ∀ d ∈ facts.policyDecision, ∀ n ∈ d.requestedAmount, |n| ≤ 2 ^ 63
  attempts : ∀ i ∈ facts.paymentIntent, |i.attempts| ≤ 2 ^ 63
  times : ∀ a ∈ facts.authorization, a.issuedAt.InRange ∧ a.expiresAt.InRange
  events : facts.events.length ≤ 2 ^ 63
  trust : 0 ≤ facts.merchantTrust ∧ facts.merchantTrust ≤ 1
  history : facts.history.Bounded

section Bounds

variable {db : Db} {facts : MissionFacts} {config : RiskConfig}

lemma one_le_cast {n : Int} (h : 0 < (n : Rat)) : 1 ≤ (n : Rat) := by
  exact_mod_cast h

/-- A positive median of whole numbers is at least a half. -/
lemma half_le_median {values : List Int} (h : 0 < median values) : 1 / 2 ≤ median values := by
  unfold median at h ⊢
  dsimp only at h ⊢
  split at h
  · next hodd =>
    rw [if_pos hodd]
    have hone := one_le_cast h
    linarith
  · next heven =>
    rw [if_neg heven]
    have hone := one_le_cast ((div_pos_iff_of_pos_right (by norm_num : (0 : Rat) < 2)).mp h)
    linarith

lemma bounded_emptyHistory (merchantId : String) : (emptyHistory merchantId).Bounded :=
  ⟨Nat.zero_le _, Nat.zero_le _, fun m hm => by cases hm⟩

lemma bounded_loadMerchantHistory (merchantId : String) (missionId : Uuid) (n : Nat) :
    (loadMerchantHistory db merchantId missionId n).Bounded := by
  refine ⟨?_, ?_, fun m hm hpos => ?_⟩
  · simp only [loadMerchantHistory, List.length_map, List.length_take]
    exact min_le_left _ _
  · simp only [loadMerchantHistory, MerchantHistory.paymentObservations]
    generalize hstates : List.map PaymentIntentRow.state _ = states
    have hlength : states.length ≤ historyWindow := by
      rw [← hstates, List.length_map, List.length_take]
      exact min_le_left _ _
    have h₁ := List.count_le_length (a := PaymentIntentState.succeeded) (l := states)
    have h₂ := List.count_le_length (a := PaymentIntentState.failedTerminal) (l := states)
    omega
  · simp only [loadMerchantHistory] at hm
    split at hm
    · obtain rfl := Option.some.inj hm
      exact half_le_median hpos
    · cases hm

lemma mem_of_newestFirst {ρ : Type} {time : ρ → Datetime} {rows : List ρ} {p : ρ → Bool} {r : ρ}
    (h : r ∈ (newestFirst time (rows.filter p)).head?) : r ∈ rows :=
  (List.mem_filter.mp ((List.mem_insertionSort _).mp (List.mem_of_mem_head? h))).1

/-- The events of a mission have different sequence numbers, so there are not more of them than
numbers. -/
lemma Storable.events_length (h : Storable db) (missionId : Uuid) :
    (db.auditEvents.filter fun e => e.missionId = missionId).length ≤ 2 ^ 63 := by
  have hnodup : ((db.auditEvents.filter fun e => e.missionId = missionId).map
      AuditEventRow.sequence).Nodup := by
    refine List.pairwise_map.mpr (List.Pairwise.imp_of_mem ?_ (h.sequences_unique.filter _))
    intro a b ha hb hne
    have ha' : a.missionId = missionId := of_decide_eq_true (List.mem_filter.mp ha).2
    have hb' : b.missionId = missionId := of_decide_eq_true (List.mem_filter.mp hb).2
    exact hne (ha'.trans hb'.symm)
  have hsubset : (db.auditEvents.filter fun e => e.missionId = missionId).map
      AuditEventRow.sequence ⊆ List.range (2 ^ 63) := by
    intro n hn
    obtain ⟨e, he, rfl⟩ := List.mem_map.mp hn
    exact List.mem_range.mpr (h.sequences e (List.mem_filter.mp he).1)
  have hlength := (List.subperm_of_subset hnodup hsubset).length_le
  rwa [List.length_map, List.length_range] at hlength

/-- Facts that were loaded are as small as the columns. -/
lemma bounded_loadMissionFacts (h : Storable db) {records : List (String × MerchantRecord)}
    {verified : List AuditEventRow → Bool} {missionId : Uuid}
    (hload : loadMissionFacts db records config verified missionId = some facts) :
    facts.Bounded := by
  obtain ⟨mission, hmission, hfacts⟩ := Option.bind_eq_some_iff.mp hload
  obtain rfl := Option.some.inj hfacts
  refine ⟨h.quantities mission (Table.mem_of_find hmission),
    fun d hd => h.amounts d (mem_of_newestFirst hd),
    fun i hi => h.attempts i (mem_of_newestFirst hi),
    fun a ha => h.times a (mem_of_newestFirst ha), ?_, ?_, ?_⟩
  · rw [List.length_insertionSort]
    exact h.events_length missionId
  · dsimp only
    generalize loadSelectedMerchant db _ _ = merchantId
    cases merchantId with
    | none => exact ⟨le_refl 0, zero_le_one⟩
    | some id => exact (recordFor records id).trust_range
  · dsimp only
    generalize loadSelectedMerchant db _ _ = merchantId
    cases merchantId with
    | none => exact bounded_emptyHistory ""
    | some id => exact bounded_loadMerchantHistory id missionId _

/-- A feature whose value, if it has one, is small enough to be shown in a sentence. -/
def FeatureValue.Modest (f : FeatureValue) : Prop := ∀ v, f.numeric = some v → |v| ≤ 10 ^ 40

lemma modest_unavailable (name : String) : (unavailable name).2.Modest := fun v hv => by cases hv

lemma modest_measured {name : String} {value : Option FeatureScalar}
    (h : ∀ x ∈ value, |x.float| ≤ 10 ^ 40) : (measured name value).2.Modest := by
  intro v hv
  obtain ⟨x, hx, rfl⟩ := Option.map_eq_some_iff.mp hv
  exact h x hx

lemma modest_num {name : String} {q : Rat} (h : |q| ≤ 10 ^ 40) :
    (measured name (some (.num q))).2.Modest := by
  refine modest_measured fun x hx => ?_
  obtain rfl := Option.some.inj hx
  exact h

lemma modest_bool (name : String) (b : Bool) : (measured name (some (.bool b))).2.Modest := by
  refine modest_measured fun x hx => ?_
  obtain rfl := Option.some.inj hx
  cases b <;> norm_num [FeatureScalar.float]

lemma modest_int {name : String} {n : Int} (h : |n| ≤ 2 ^ 63) :
    (measured name (some (.num n))).2.Modest := by
  have hn : |(n : Rat)| ≤ 2 ^ 63 := by exact_mod_cast h
  exact modest_num (hn.trans (by norm_num))

lemma modest_count {name : String} {n : Nat} (h : n ≤ 2 ^ 63) :
    (measured name (count n)).2.Modest := by
  have hn : (n : Rat) ≤ 2 ^ 63 := by exact_mod_cast h
  refine modest_num ?_
  rw [abs_of_nonneg (Nat.cast_nonneg n)]
  exact hn.trans (by norm_num)

lemma modest_amountOver {name : String} {amount bound : Int} (h : |amount| ≤ 2 ^ 63) :
    (measured name (amountOver amount bound)).2.Modest := by
  refine modest_measured fun x hx => ?_
  unfold amountOver at hx
  split at hx
  · cases hx
  · next hne =>
    obtain rfl := Option.some.inj hx
    have hamount : |(amount : Rat)| ≤ 2 ^ 63 := by exact_mod_cast h
    have hbound : 1 ≤ |(bound : Rat)| := by exact_mod_cast Int.one_le_abs hne
    show |(amount : Rat) / (bound : Rat)| ≤ 10 ^ 40
    calc |(amount : Rat) / (bound : Rat)| = |(amount : Rat)| / |(bound : Rat)| := abs_div _ _
      _ ≤ |(amount : Rat)| := div_le_self (abs_nonneg _) hbound
      _ ≤ 2 ^ 63 := hamount
      _ ≤ 10 ^ 40 := by norm_num

/-- Every feature of a list is modest. -/
def AllModest (features : List (String × FeatureValue)) : Prop := ∀ p ∈ features, p.2.Modest

lemma AllModest.cons {p : String × FeatureValue} {features : List (String × FeatureValue)}
    (hp : p.2.Modest) (h : AllModest features) : AllModest (p :: features) :=
  List.forall_mem_cons.mpr ⟨hp, h⟩

lemma AllModest.nil : AllModest [] := fun _ hp => absurd hp List.not_mem_nil

lemma AllModest.append {features features' : List (String × FeatureValue)}
    (h : AllModest features) (h' : AllModest features') : AllModest (features ++ features') :=
  List.forall_mem_append.mpr ⟨h, h'⟩

lemma modest_amountFeatures (h : facts.Bounded) : AllModest (amountFeatures facts) := by
  unfold amountFeatures
  split
  · exact .cons (modest_unavailable _) (.cons (modest_unavailable _)
      (.cons (modest_unavailable _) .nil))
  · next d amount hd =>
    obtain ⟨d', hd', hsome⟩ := Option.bind_eq_some_iff.mp hd
    obtain ⟨amount', hamount, heq⟩ := Option.map_eq_some_iff.mp hsome
    obtain ⟨rfl, rfl⟩ := Prod.mk.inj heq
    have hsmall := h.amount d' hd' amount' hamount
    exact .cons (modest_int hsmall) (.cons (modest_amountOver hsmall)
      (.cons (modest_amountOver hsmall) .nil))

lemma failureRatio_le_one (history : MerchantHistory) :
    ∀ q ∈ history.failureRatio, 0 ≤ q ∧ q ≤ 1 := by
  intro q hq
  unfold MerchantHistory.failureRatio at hq
  split at hq
  · cases hq
  · next hne =>
    obtain rfl := Option.some.inj hq
    have hle : (history.failedPayments : Rat) ≤ history.paymentObservations := by
      exact_mod_cast Nat.le_add_left _ _
    exact ⟨by positivity, div_le_one_of_le₀ hle (by positivity)⟩

lemma modest_unit {name : String} {v : Option Rat} (h : ∀ q ∈ v, 0 ≤ q ∧ q ≤ 1) :
    (measured name (v.map .num)).2.Modest := by
  refine modest_measured fun x hx => ?_
  obtain ⟨q, hq, rfl⟩ := Option.map_eq_some_iff.mp hx
  obtain ⟨h₀, h₁⟩ := h q hq
  show |q| ≤ 10 ^ 40
  rw [abs_of_nonneg h₀]
  exact h₁.trans (by norm_num)

lemma modest_merchantFeatures (h : facts.Bounded) :
    AllModest (merchantFeatures facts config) := by
  refine .append ?_ (.cons (modest_count (h.history.payments.trans (by decide))) (.cons ?_ .nil))
  · split
    · exact .cons (modest_unavailable _) (.cons (modest_unavailable _) .nil)
    · refine .cons ?_ (.cons (modest_bool _ _) .nil)
      exact modest_unit (v := some facts.merchantTrust) fun q hq => Option.some.inj hq ▸ h.trust
  · split
    · exact modest_unit (failureRatio_le_one _)
    · exact modest_unavailable _

/-- A span between two datetimes, in seconds. -/
lemma span_le {t t' : Datetime} (h : t.InRange) (h' : t'.InRange) :
    ((t' - t : Int) : Rat) / 10 ^ 6 ≤ 10 ^ 12 := by
  have hspan : (t' - t : Int) ≤ 10 ^ 18 := (Int.sub_le_sub h'.2 h.1).trans (by norm_num)
  rw [div_le_iff₀ (by norm_num)]
  calc ((t' - t : Int) : Rat) ≤ ((10 ^ 18 : Int) : Rat) := Int.cast_le.mpr hspan
    _ ≤ 10 ^ 12 * 10 ^ 6 := by norm_num

lemma modest_lifetimeFeatures (h : facts.Bounded) {now : Datetime} (hnow : now.InRange) :
    AllModest (lifetimeFeatures facts (some now)) := by
  unfold lifetimeFeatures
  split
  · next a moment ha hmoment =>
    obtain rfl := Option.some.inj hmoment
    obtain ⟨hissued, -⟩ := h.times a ha
    have helapsed := span_le hissued hnow
    dsimp only
    refine .cons (modest_num ?_) (.cons (modest_measured fun x hx => ?_) .nil)
    · rw [abs_of_nonneg (le_max_left _ _)]
      exact max_le (by norm_num) (helapsed.trans (by norm_num))
    · split at hx
      · next hwindow =>
        obtain rfl := Option.some.inj hx
        -- a positive window is a microsecond at least
        have hleast : 1 / 10 ^ 6 ≤ ((a.expiresAt - a.issuedAt : Int) : Rat) / 10 ^ 6 :=
          div_le_div_of_nonneg_right (one_le_cast (by
            by_contra hle
            exact absurd hwindow (not_lt.mpr (div_nonpos_of_nonpos_of_nonneg (not_lt.mp hle)
              (by norm_num))))) (by norm_num)
        show |max 0 _| ≤ _
        rw [abs_of_nonneg (le_max_left _ _)]
        refine max_le (by norm_num) ((div_le_iff₀ hwindow).mpr ?_)
        calc _ ≤ (10 : Rat) ^ 12 := helapsed
          _ ≤ 10 ^ 40 * (1 / 10 ^ 6) := by norm_num
          _ ≤ _ := mul_le_mul_of_nonneg_left hleast (by norm_num)
      · cases hx
  · exact .cons (modest_unavailable _) (.cons (modest_unavailable _) .nil)

lemma modest_eventFeatures (h : facts.Bounded) : AllModest (eventFeatures facts) := by
  have hcount : ∀ {name : String} {p : AuditEventRow → Bool},
      (measured name (count (facts.events.countP p))).2.Modest :=
    modest_count (List.countP_le_length.trans h.events)
  have hviolations : ∀ {name : String} {p q : AuditEventRow → Bool},
      (measured name (count ((facts.events.filter q).countP p))).2.Modest :=
    modest_count ((List.countP_le_length.trans (List.length_filter_le _ _)).trans h.events)
  exact .cons hcount (.cons hcount (.cons hviolations (.cons hcount (.cons hcount (.cons hcount
    (.cons hcount (.cons hcount (.cons (modest_bool _ _) .nil))))))))

lemma modest_offerFeature : (offerFeature facts config).2.Modest := by
  unfold offerFeature
  split
  · exact modest_unavailable _
  · refine modest_unit (v := some _) fun q hq => ?_
    obtain rfl := Option.some.inj hq
    have hle : ((facts.offers.countP fun o => !o.valid : Nat) : Rat) ≤ facts.offers.length := by
      exact_mod_cast List.countP_le_length
    exact ⟨by positivity, div_le_one_of_le₀ hle (by positivity)⟩

lemma modest_medianFeature (h : facts.Bounded) : (medianFeature facts).2.Modest := by
  unfold medianFeature
  split
  · exact modest_unavailable _
  · next ratio hratio =>
    obtain ⟨amount, hamount, hratio⟩ := Option.bind_eq_some_iff.mp hratio
    obtain ⟨d, hd, hsome⟩ := Option.bind_eq_some_iff.mp hamount
    have hsmall : |(amount : Rat)| ≤ 2 ^ 63 := by exact_mod_cast h.amount d hd amount hsome
    unfold MerchantHistory.amountRatio at hratio
    split at hratio
    · cases hratio
    split at hratio
    · cases hratio
    next median hmedian =>
    split at hratio
    · cases hratio
    next hpos =>
    obtain rfl := Option.some.inj hratio
    have hhalf := h.history.median median hmedian (not_le.mp hpos)
    refine modest_num ?_
    rw [abs_div, abs_of_pos (not_le.mp hpos), div_le_iff₀ (not_le.mp hpos)]
    calc |(amount : Rat)| ≤ 2 ^ 63 := hsmall
      _ ≤ 10 ^ 40 * (1 / 2) := by norm_num
      _ ≤ 10 ^ 40 * median := mul_le_mul_of_nonneg_left hhalf (by norm_num)

lemma modest_extractFeatures (h : facts.Bounded) {now : Datetime} (hnow : now.InRange) :
    AllModest (extractFeatures facts config (some now)) := by
  refine .append (modest_amountFeatures h) (.cons (modest_int h.quantity)
    (.append (.append (modest_merchantFeatures h) (modest_lifetimeFeatures h hnow))
      (.cons ?_ (.append (modest_eventFeatures h) (.cons modest_offerFeature
        (.cons (modest_count (h.history.amounts.trans (by decide)))
          (.cons (modest_medianFeature h) .nil)))))))
  split
  · exact modest_unavailable _
  · next i hi => exact modest_int (h.attempts i hi)

lemma modest_extractMerchantHistoryFeatures (db : Db) (facts : MissionFacts) :
    AllModest (extractMerchantHistoryFeatures db facts) := by
  have hwindow : ∀ {rows : List AuditEventRow} {p : AuditEventRow → Bool},
      (rows.take securityHistoryWindow).countP p ≤ 2 ^ 63 := by
    intro rows p
    refine List.countP_le_length.trans ?_
    rw [List.length_take]
    exact (min_le_left _ _).trans (by decide)
  unfold extractMerchantHistoryFeatures
  split
  · exact .cons (modest_unavailable _) (.cons (modest_unavailable _) .nil)
  · exact .cons (modest_count hwindow) (.cons (modest_count hwindow) .nil)

/-- Every feature of a mission is small enough to be shown in a sentence. -/
theorem modest_features (h : Storable db) {records : List (String × MerchantRecord)}
    {verified : List AuditEventRow → Bool} {missionId : Uuid} {now : Datetime}
    (hnow : now.InRange)
    (hload : loadMissionFacts db records config verified missionId = some facts) :
    ∀ name f, missionFeatures db facts config now name = some f → f.Modest := by
  intro name f hf
  obtain ⟨before, after, heq, -⟩ := List.lookup_eq_some_iff.mp hf
  have hmission : AllModest (extractFeatures facts config (some now)) :=
    modest_extractFeatures (bounded_loadMissionFacts h hload) hnow
  refine hmission.append (modest_extractMerchantHistoryFeatures db facts) (name, f) ?_
  rw [heq]
  exact List.mem_append_right _ List.mem_cons_self

end Bounds

end RiskEngine

end Pactra
