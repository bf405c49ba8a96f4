import Pactra.Db.Models
import Pactra.Foundation.PyJson

/-!
# Offers and policy

Ingress, normalization, ranking and the policy engine
(`services/security_kernel/ingress.py`, `services/policy_engine/`). The provenance labels of an
offer are fixed by the ingress and never read by a decision, so an offer is modelled by its
values; the merchant-controlled fields are the constant `merchantFields`.
-/

namespace Pactra

/-- `MissionConstraints`: validated purchase constraints. The lists of merchants are not
validated, so their texts may hold surrogates. -/
structure MissionConstraints where
  category : String
  softBudgetInr : Int
  hardLimitInr : Int
  minRating : Rat
  currency : String
  allowedMerchants : Option (List PyStr)
  blockedMerchants : List PyStr
  minMerchantTrust : Rat
  soft_pos : 0 < softBudgetInr
  soft_le_hard : softBudgetInr ≤ hardLimitInr

lemma hundred_pos : (0 : Int) < 100 := by decide

lemma hundred_le_twoHundred : (100 : Int) ≤ 200 := by decide

/-- `CreateMissionRequest`. -/
structure CreateMissionRequest where
  rawQuery : Option String
  quantity : Int
  constraints : MissionConstraints
  quantity_range : 1 ≤ quantity ∧ quantity ≤ 100

/-- `RawMerchantOffer`: an offer exactly as an untrusted merchant returned it. -/
structure RawMerchantOffer where
  merchantId : String
  productId : String
  title : String
  description : String
  price : Rat
  currency : String
  rating : Rat
  inStock : Bool
  offeredAt : Datetime
  claims : List (PyStr × PyJson)
  price_nonneg : 0 ≤ price

lemma fifty_nonneg : (0 : Rat) ≤ 50 := by decide

/-- `MerchantContext`: the authenticated identity and the server-owned record. -/
structure MerchantContext where
  merchantId : String
  recordMerchantId : String
  displayName : String
  trustScore : Rat
  known : Bool

/-- `AuthenticatedQuote`. -/
structure AuthenticatedQuote where
  context : MerchantContext
  offers : List RawMerchantOffer

/-- `ProvenancedOffer`, by its values. -/
structure ProvenancedOffer where
  offerId : Uuid
  merchantId : String
  merchantName : String
  merchantTrust : Rat
  claimedMerchantId : String
  productId : String
  title : String
  amountInr : Int
  currency : String
  rating : Rat
  inStock : Bool
  offeredAt : Datetime
  valid : Bool
  rejectionReasons : List ReasonCode
  rank : Option Nat

namespace ProvenancedOffer

/-- `offer_version`. -/
def offerVersion (o : ProvenancedOffer) : String :=
  computeOfferVersion o.merchantId o.productId o.amountInr o.currency o.rating o.inStock
    o.offeredAt

/-- `identity_mismatch`. -/
def identityMismatch (o : ProvenancedOffer) : Bool := o.claimedMerchantId ≠ o.merchantId

end ProvenancedOffer

/-- `PolicyDecision`. -/
structure PolicyDecision where
  decision : PolicyOutcome
  policyVersion : String
  reasonCodes : List ReasonCode
  requestedAmount : Option Int
  softBudget : Int
  hardLimit : Int
  selectedOfferId : Option Uuid

namespace PolicyEngine

/-- `MERCHANT_FIELDS`, sorted: the fields of every offer that stay tainted. -/
def merchantFields : List String :=
  ["amount_inr", "claimed_merchant_id", "currency", "in_stock", "offered_at", "product_id",
   "rating", "title"]

/-- The offer that ingress makes of a payload: identity and trust from the context, the rest as the
merchant stated it. -/
def ingested (env : Env) (offerId : Uuid) (raw : RawMerchantOffer) (context : MerchantContext) :
    ProvenancedOffer :=
  { offerId := offerId
    merchantId := context.merchantId
    merchantName := context.displayName
    merchantTrust := context.trustScore
    claimedMerchantId := raw.merchantId
    productId := raw.productId
    title := raw.title
    amountInr := Numeric.roundHalfEven raw.price
    currency := env.upper raw.currency
    rating := raw.rating
    inStock := raw.inStock
    offeredAt := raw.offeredAt
    valid := true
    rejectionReasons := []
    rank := none }

/-- `ingest_merchant_offer`. The raw `offered_at` is timezone-aware and stands for its instant,
which may lie outside the years a `datetime` can hold in UTC. -/
def ingestMerchantOffer (env : Env) (raw : RawMerchantOffer) (context : MerchantContext) :
    DbTx ProvenancedOffer := do
  require (context.merchantId == context.recordMerchantId)
    "merchant.context_identity_matches_record"
    ("identity '" ++ context.merchantId ++ "' != record '" ++ context.recordMerchantId ++ "'")
  -- `_normalized_instant`: converting to UTC leaves the years a `datetime` can hold
  if ¬raw.offeredAt.InRange then
    Tx.raise (.other "OverflowError" "date value out of range")
  else do
    let offerId ← drawUuid env
    pure (ingested env offerId raw context)

/-- The reasons for which `normalize_offer` rejects an ingested offer. -/
def rejections (offer : ProvenancedOffer) (c : MissionConstraints) : List ReasonCode :=
  (if offer.identityMismatch then [.merchantIdentityMismatch] else [])
    ++ (if offer.currency ≠ c.currency then [.currencyNotAllowed] else [])
    ++ (if !offer.inStock then [.outOfStock] else [])
    ++ (if offer.rating < c.minRating then [.ratingBelowMin] else [])
    ++ (if offer.merchantTrust < c.minMerchantTrust then [.merchantTrustTooLow] else [])
    ++ (match c.allowedMerchants with
        | some allowed => if (offer.merchantId : PyStr) ∈ allowed then [] else [.merchantNotAllowed]
        | none => [])
    ++ (if (offer.merchantId : PyStr) ∈ c.blockedMerchants then [.blockedMerchant] else [])

/-- `normalize_offer`. -/
def normalizeOffer (env : Env) (raw : RawMerchantOffer) (context : MerchantContext)
    (c : MissionConstraints) : DbTx ProvenancedOffer := do
  let offer ← ingestMerchantOffer env raw context
  let reasons := rejections offer c
  pure { offer with valid := reasons.isEmpty, rejectionReasons := reasons }

/-- The raw offers of all quotes, each with the context it arrived in. -/
def contextualOffers (quotes : List AuthenticatedQuote) :
    List (RawMerchantOffer × MerchantContext) :=
  quotes.flatMap (fun q => q.offers.map (fun raw => (raw, q.context)))

/-- `normalize_offers`. -/
def normalizeOffers (env : Env) (c : MissionConstraints) :
    List (RawMerchantOffer × MerchantContext) → DbTx (List ProvenancedOffer)
  | [] => pure []
  | (raw, context) :: rest => do
    let offer ← normalizeOffer env raw context c
    let offers ← normalizeOffers env c rest
    pure (offer :: offers)

/-- `_sort_key`, as the order it induces: higher rating, lower price, higher trust, then
merchant and product. -/
def ranksBefore (a b : ProvenancedOffer) : Prop :=
  b.rating < a.rating ∨ b.rating = a.rating ∧
    (a.amountInr < b.amountInr ∨ a.amountInr = b.amountInr ∧
      (b.merchantTrust < a.merchantTrust ∨ b.merchantTrust = a.merchantTrust ∧
        (a.merchantId < b.merchantId ∨ a.merchantId = b.merchantId ∧
          a.productId ≤ b.productId)))

instance : DecidableRel ranksBefore := fun a b => by unfold ranksBefore; infer_instance

/-- Number ranked offers from a starting rank. -/
def assignRanks : Nat → List ProvenancedOffer → List ProvenancedOffer
  | _, [] => []
  | i, o :: os => { o with rank := some i } :: assignRanks (i + 1) os

/-- `rank_offers`. -/
def rankOffers (offers : List ProvenancedOffer) : List ProvenancedOffer :=
  assignRanks 1 ((offers.filter ProvenancedOffer.valid).insertionSort ranksBefore)

/-- `POLICY_VERSION`. -/
def policyVersion : String := "policy-v1"

/-- `evaluate`: ALLOW, REQUIRE_APPROVAL or DENY, with explicit reason codes. -/
def evaluate (c : MissionConstraints) (best : Option ProvenancedOffer) (quantity : Int) :
    PolicyDecision :=
  let soft := c.softBudgetInr
  let hard := c.hardLimitInr
  match best with
  | none =>
    { decision := .deny, policyVersion := policyVersion, reasonCodes := [.noValidOffers],
      requestedAmount := none, softBudget := soft, hardLimit := hard, selectedOfferId := none }
  | some offer =>
    let amount := offer.amountInr * quantity
    if hard < amount then
      { decision := .deny, policyVersion := policyVersion, reasonCodes := [.hardLimitExceeded],
        requestedAmount := some amount, softBudget := soft, hardLimit := hard,
        selectedOfferId := some offer.offerId }
    else if soft < amount then
      { decision := .requireApproval, policyVersion := policyVersion,
        reasonCodes := [.softBudgetExceeded], requestedAmount := some amount,
        softBudget := soft, hardLimit := hard, selectedOfferId := some offer.offerId }
    else
      { decision := .allow, policyVersion := policyVersion, reasonCodes := [.withinLimits],
        requestedAmount := some amount, softBudget := soft, hardLimit := hard,
        selectedOfferId := some offer.offerId }

/-- An authorizable decision is for an amount within the hard limit, and one above the soft
budget requires approval. -/
theorem evaluate_amount {c : MissionConstraints} {best : Option ProvenancedOffer}
    {quantity amount : Int} (hd : (evaluate c best quantity).decision ≠ .deny)
    (ha : (evaluate c best quantity).requestedAmount = some amount) :
    amount ≤ c.hardLimitInr ∧
      (c.softBudgetInr < amount → (evaluate c best quantity).decision = .requireApproval) := by
  unfold evaluate at hd ha ⊢
  cases best with
  | none => simp at hd
  | some offer =>
    simp only at hd ha ⊢
    split at hd
    · simp at hd
    · next hhard =>
      simp only [hhard, if_false] at ha ⊢
      split at ha <;> simp_all

end PolicyEngine

end Pactra
