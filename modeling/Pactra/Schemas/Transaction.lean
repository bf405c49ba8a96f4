import Pactra.Schemas.Canonical

/-!
# Authorizations and bound transactions

`packages/schemas/authorization.py`, `approval.py` and `transaction.py`: the lifecycle statuses,
how an authorization became active, the exact transaction an authorization is bound to, and the
two digests over it.
-/

namespace Pactra

/-- `AuthorizationStatus`. -/
inductive AuthorizationStatus where
  | pending | active | consumed | expired | revoked
deriving DecidableEq

/-- The wire value of an authorization status. -/
def AuthorizationStatus.value : AuthorizationStatus → String
  | .pending => "PENDING"
  | .active => "ACTIVE"
  | .consumed => "CONSUMED"
  | .expired => "EXPIRED"
  | .revoked => "REVOKED"

theorem AuthorizationStatus.value_injective : Function.Injective AuthorizationStatus.value := by
  intro s t
  cases s <;> cases t <;> simp [AuthorizationStatus.value]

/-- `ApprovalScheme`. -/
inductive ApprovalScheme where
  | policyAuto | userEd25519 | legacyServer
deriving DecidableEq

namespace ApprovalScheme

/-- The wire value of an approval scheme. -/
def value : ApprovalScheme → String
  | .policyAuto => "POLICY_AUTO"
  | .userEd25519 => "USER_ED25519"
  | .legacyServer => "LEGACY_SERVER"

/-- `ApprovalScheme(raw)`. -/
def ofValue (raw : String) : Option ApprovalScheme :=
  [policyAuto, userEd25519, legacyServer].find? (fun t => decide (t.value = raw))

@[simp] theorem ofValue_value (t : ApprovalScheme) : ofValue t.value = some t := by
  cases t <;> simp [ofValue, value]

end ApprovalScheme

/-- `BINDING_VERSION`. -/
def bindingVersion : String := "pactra-txn-bind-v1"

/-- `BoundTransaction`: the exact transaction an authorization is bound to. The schema admits
only a positive amount and a quantity between 1 and 100. -/
structure BoundTransaction where
  merchantId : String
  productId : String
  quantity : Int
  amountInr : Int
  currency : String
  policyVersion : String
  offerVersion : String
  expiresAt : Datetime
  nonce : String
  quantity_range : 1 ≤ quantity ∧ quantity ≤ 100
  amount_pos : 1 ≤ amountInr
deriving DecidableEq

lemma single_item : (1 : Int) ≤ 1 ∧ (1 : Int) ≤ 100 := by decide

namespace BoundTransaction

/-- The values a `BoundTransaction` is constructed from, before validation. -/
structure Values where
  merchantId : String
  productId : String
  quantity : Int
  amountInr : Int
  currency : String
  policyVersion : String
  offerVersion : String
  expiresAt : Datetime
  nonce : String

/-- A text whose length is within bounds. -/
def lengthIn (lo hi : Nat) (s : String) : Bool := lo ≤ s.length && s.length ≤ hi

/-- The length and pattern constraints of the text fields. -/
def Values.textsValid (v : Values) : Bool :=
  lengthIn 1 120 v.merchantId && lengthIn 1 120 v.productId && lengthIn 3 3 v.currency
    && lengthIn 1 40 v.policyVersion && lengthIn 1 64 v.offerVersion && lengthIn 64 128 v.nonce
    && v.nonce.toList.all (fun c => ('0' ≤ c && c ≤ '9') || ('a' ≤ c && c ≤ 'f'))

/-- Construct a bound transaction, or nothing when validation fails. The currency is upper-cased
after its length was checked. -/
def make (upper : String → String) (v : Values) : Option BoundTransaction :=
  if h : v.textsValid = true ∧ (1 ≤ v.quantity ∧ v.quantity ≤ 100) ∧ 1 ≤ v.amountInr then
    some
      { merchantId := v.merchantId, productId := v.productId, quantity := v.quantity,
        amountInr := v.amountInr, currency := upper v.currency,
        policyVersion := v.policyVersion, offerVersion := v.offerVersion,
        expiresAt := v.expiresAt, nonce := v.nonce,
        quantity_range := h.2.1, amount_pos := h.2.2 }
  else none

/-- What a successfully constructed transaction carries. -/
theorem make_eq_some {upper : String → String} {v : Values} {t : BoundTransaction}
    (h : make upper v = some t) :
    t.merchantId = v.merchantId ∧ t.productId = v.productId ∧ t.quantity = v.quantity ∧
      t.amountInr = v.amountInr ∧ t.currency = upper v.currency ∧
      t.policyVersion = v.policyVersion ∧ t.offerVersion = v.offerVersion ∧
      t.expiresAt = v.expiresAt ∧ t.nonce = v.nonce := by
  unfold make at h
  split at h
  · obtain rfl := Option.some.inj h
    exact ⟨rfl, rfl, rfl, rfl, rfl, rfl, rfl, rfl, rfl⟩
  · cases h

/-- `canonical_fields`: the exact mapping the digest is computed over. -/
def canonicalFields (t : BoundTransaction) : List (String × CanonicalValue) :=
  [("merchant_id", .str t.merchantId),
   ("product_id", .str t.productId),
   ("quantity", .int t.quantity),
   ("amount_inr", .int t.amountInr),
   ("currency", .str t.currency),
   ("policy_version", .str t.policyVersion),
   ("offer_version", .str t.offerVersion),
   ("expires_at", .datetime t.expiresAt),
   ("nonce", .str t.nonce)]

/-- `digest`: the commitment to every bound field. -/
def digest (t : BoundTransaction) : String :=
  Canonical.canonicalDigest bindingVersion t.canonicalFields

end BoundTransaction

/-- `OFFER_VERSION_DOMAIN`. -/
def offerVersionDomain : String := "pactra-offer-version-v1"

/-- `int(round(rating * 100))`: the rating is scaled to hundredths in floating-point arithmetic and
then rounded. -/
def ratingCentis (rating : Rat) : Int :=
  Numeric.roundHalfEven (Numeric.nearestDouble (rating * 100))

/-- The mapping the fingerprint of an offer is computed over. -/
def offerVersionFields (merchantId productId : String) (amountInr : Int) (currency : String)
    (centis : Int) (inStock : Bool) (offeredAt : Datetime) : List (String × CanonicalValue) :=
  [("merchant_id", .str merchantId),
   ("product_id", .str productId),
   ("amount_inr", .int amountInr),
   ("currency", .str currency),
   ("rating_centis", .int centis),
   ("in_stock", .bool inStock),
   ("offered_at", .datetime offeredAt)]

/-- The first 32 characters of the digest of an offer's fields. -/
def offerFingerprint (fields : List (String × CanonicalValue)) : String :=
  String.ofList ((Canonical.canonicalDigest offerVersionDomain fields).toList.take 32)

/-- `compute_offer_version`: content fingerprint of a merchant offer. -/
def computeOfferVersion (merchantId productId : String) (amountInr : Int) (currency : String)
    (rating : Rat) (inStock : Bool) (offeredAt : Datetime) : String :=
  offerFingerprint (offerVersionFields merchantId productId amountInr currency
    (ratingCentis rating) inStock offeredAt)

/-- Whether a text is exactly `n` lowercase hexadecimal characters. -/
def isLowerHex (n : Nat) (s : String) : Bool :=
  s.length == n && s.toList.all (fun c => ('0' ≤ c && c ≤ '9') || ('a' ≤ c && c ≤ 'f'))

/-- `approval_message`: the only byte sequence the demo approver may sign. -/
def approvalMessage (authorizationId missionId : Uuid)
    (version transactionDigest signingKeyId : String) : List Nat :=
  Canonical.canonicalMessage "pactra-user-approval-v1"
    [("authorization_id", .str authorizationId.str),
     ("mission_id", .str missionId.str),
     ("binding_version", .str version),
     ("transaction_digest", .str transactionDigest),
     ("signing_key_id", .str signingKeyId)]

end Pactra
