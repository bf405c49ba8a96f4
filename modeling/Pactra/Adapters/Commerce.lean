import Pactra.Adapters.Models

/-!
# Commerce documents

`services/adapters/commerce/pactra_commerce.py`: a catalog document becomes a candidate catalog. The
types of the fields are checked before the offer schema sees them, and keys that the protocol does
not define are kept as untrusted metadata.

## Main results

- `Lossless` — every key of an object is a field of the protocol or kept with its value
- `OfferRead`, `CatalogRead` — every field of the protocol is read into its place
- `contained_translateOffer` — at which offers the conversion of a number overflows
- `contained_translatePayload` — of which documents a translation does not end in a refusal
-/

namespace Pactra

namespace Adapters

open Wire (names)

-- ════════════════════════════════════════════════════════════════════════
-- Values
-- ════════════════════════════════════════════════════════════════════════

/-- `type(value).__name__`. -/
def typeName : Value → String
  | .null => "NoneType"
  | .bool _ => "bool"
  | .int _ => "int"
  | .float _ => "float"
  | .str _ => "str"
  | .arr _ => "list"
  | .obj _ => "dict"

/-- `type(mapping.get(key)).__name__`. -/
def typeNameAt (members : List (PyStr × Value)) (key : String) : String :=
  match memberAt members key with
  | none => "NoneType"
  | some v => typeName v

/-- Whether all items of a list are texts. -/
def allTexts (items : List Value) : Bool :=
  items.all fun v => match v with
    | .str _ => true
    | _ => false

/-- Whether a value is a JSON scalar or a list of texts. -/
def isClaimValue : Value → Bool
  | .arr items => allTexts items
  | .obj _ => false
  | _ => true

/-- `_require_object`. -/
def requireObject (value : Value) (what : String) : Except Failure (List (PyStr × Value)) :=
  match value with
  | .obj members => pure members
  | v => malformed (what ++ " must be a JSON object, not " ++ typeName v)

/-- `_require_str`, of an adapter that calls its fields by some word. -/
def requireStr (rt : Runtime) (field : String) (members : List (PyStr × Value)) (key : String) :
    Except Failure PyStr :=
  match memberAt members key with
  | some (.str s) =>
    if s = "" then malformed (field ++ " " ++ rt.repr key ++ " must be a non-empty string")
    else pure s
  | _ => malformed (field ++ " " ++ rt.repr key ++ " must be a non-empty string")

/-- The integers that `float` converts: those that do not round to `2 ^ 1024`. -/
def fitsDouble (n : Int) : Bool := n.natAbs < 2 ^ 1024 - 2 ^ 970

/-- `float(n)`. -/
def floatOfInt (n : Int) : Rat :=
  if 0 ≤ n then Numeric.toDouble n else -Numeric.toDouble (-n)

/-- `_require_number`. -/
def requireNumber (rt : Runtime) (members : List (PyStr × Value)) (key : String) :
    Except Failure Wire.Float :=
  match memberAt members key with
  | some (.int n) =>
    if fitsDouble n then pure (.finite (floatOfInt n))
    else .error (.escaped (.other "OverflowError" "int too large to convert to float"))
  | some (.float x) => pure x
  | _ =>
    malformed ("offer field " ++ rt.repr key ++ " must be a JSON number, not "
      ++ typeNameAt members key ++ " — a protocol boundary does not coerce money")

/-- `_require_bool`. -/
def requireBool (rt : Runtime) (members : List (PyStr × Value)) (key : String) :
    Except Failure Bool :=
  match memberAt members key with
  | some (.bool b) => pure b
  | _ =>
    malformed ("offer field " ++ rt.repr key ++ " must be a JSON boolean, not "
      ++ typeNameAt members key)

/-- `_require_timestamp`. -/
def requireTimestamp (rt : Runtime) (members : List (PyStr × Value)) (key : String) :
    Except Failure IsoDatetime :=
  match memberAt members key with
  | some (.str s) =>
    match rt.fromisoformat s with
    | none => malformed ("offer field " ++ rt.repr key ++ " is not a valid ISO-8601 timestamp")
    | some parsed =>
      if parsed.utcoffset.isNone then
        malformed ("offer field " ++ rt.repr key
          ++ " has no UTC offset; a naive timestamp has no single instant")
      else pure parsed
  | _ =>
    malformed ("offer field " ++ rt.repr key ++ " must be an ISO-8601 string, not "
      ++ typeNameAt members key)

/-- The loop of `_claims`. -/
def checkClaims (rt : Runtime) : List (PyStr × Value) → Except Failure Unit
  | [] => pure ()
  | (name, value) :: rest =>
    match value with
    | .obj _ => malformed ("claim " ++ rt.repr name ++ " has unsupported type dict")
    | .arr items =>
      if allTexts items then checkClaims rt rest
      else malformed ("claim " ++ rt.repr name ++ " is a list of non-strings")
    | _ => checkClaims rt rest

/-- `_claims`. -/
def claimsOf (rt : Runtime) (members : List (PyStr × Value)) :
    Except Failure (List (PyStr × Value)) :=
  match memberAt members "claims" with
  | none => pure []
  | some .null => pure []
  | some v => do
    let claims ← requireObject v "offer field 'claims'"
    checkClaims rt claims
    pure claims

/-- The loop of `_unknown_fields`, of an adapter that adds some words to its refusal. -/
def keepUnknown (rt : Runtime) (known : List PyStr) (remark : String) :
    List (PyStr × Value) → Except Failure (List (PyStr × Value))
  | [] => pure []
  | (name, value) :: rest =>
    if name ∈ known then keepUnknown rt known remark rest
    else if isClaimValue value then do
      let extras ← keepUnknown rt known remark rest
      pure ((name, value) :: extras)
    else
      malformed ("unknown field " ++ rt.repr name ++ " has unsupported type " ++ typeName value
        ++ remark)

/-- `_unknown_fields`. -/
def unknownFields (rt : Runtime) (known : List PyStr) (remark : String)
    (members : List (PyStr × Value)) : Except Failure (List (PyStr × Value)) :=
  keepUnknown rt known remark (sortedItems members)

/-- The protocol that a document declares, if any, has to be the adapter's. -/
def checkProtocol (rt : Runtime) (protocolName : String) (document : List (PyStr × Value)) :
    Except Failure Unit :=
  match memberAt document "protocol" with
  | none => pure ()
  | some .null => pure ()
  | some (.str declared) => if declared = protocolName then pure () else mismatch (.str declared)
  | some declared => mismatch declared
where
  mismatch (declared : Value) : Except Failure Unit :=
    refuse .protocolMismatch
      ("document declares protocol " ++ rt.reprValue declared ++ "; this adapter speaks "
        ++ rt.repr protocolName)

section Values

variable {rt : Runtime} {members : List (PyStr × Value)} {key field : String}

/-- A field with a non-empty text. -/
def HasText (members : List (PyStr × Value)) (key : String) : Prop :=
  ∃ s, memberAt members key = some (.str s) ∧ s ≠ ""

/-- A field with an integer that is too large for a float. -/
def Overflows (members : List (PyStr × Value)) (key : String) : Prop :=
  ∃ n, memberAt members key = some (.int n) ∧ fitsDouble n = false

/-- A field that is absent, or `None`. -/
def Absent (members : List (PyStr × Value)) (key : String) : Prop :=
  memberAt members key = none ∨ memberAt members key = some .null

/-- The number of a field: its float, or its integer as a float. -/
def NumberAt (members : List (PyStr × Value)) (key : String) (x : Wire.Float) : Prop :=
  (∃ n, memberAt members key = some (.int n) ∧ fitsDouble n = true ∧ x = .finite (floatOfInt n)) ∨
    memberAt members key = some (.float x)

/-- The time that the text of a field states, with its offset. -/
def TimeAt (rt : Runtime) (members : List (PyStr × Value)) (key : String) (t : IsoDatetime) : Prop :=
  ∃ s, memberAt members key = some (.str s) ∧ rt.fromisoformat s = some t ∧ t.utcoffset ≠ none

lemma requireObject_ok {value : Value} {what : String} :
    requireObject value what = .ok members ↔ value = .obj members := by
  cases value <;> simp [requireObject, malformed, refuse, pure, Except.pure]

@[simp] lemma contained_requireObject (value : Value) (what : String) :
    Contained (requireObject value what) := by
  cases value <;> simp [requireObject]

lemma requireStr_ok {s : PyStr} :
    requireStr rt field members key = .ok s ↔ memberAt members key = some (.str s) ∧ s ≠ "" := by
  unfold requireStr
  split
  · next t ht =>
    rw [ht]
    split
    · next hempty =>
      constructor
      · intro h
        cases h
      · rintro ⟨h, hne⟩
        cases h
        exact absurd hempty hne
    · next hne =>
      constructor
      · intro h
        cases h
        exact ⟨rfl, hne⟩
      · rintro ⟨h, -⟩
        cases h
        rfl
  · next hother =>
    constructor
    · intro h
      cases h
    · rintro ⟨h, -⟩
      exact absurd h (hother s)

lemma hasText_of_ok {s : PyStr} (h : requireStr rt field members key = .ok s) :
    HasText members key := ⟨s, requireStr_ok.mp h⟩

@[simp] lemma contained_requireStr (field key : String) :
    Contained (requireStr rt field members key) := by
  unfold requireStr
  split
  · split
    · exact contained_malformed _
    · exact contained_pure _
  · exact contained_malformed _

lemma contained_requireNumber :
    Contained (requireNumber rt members key) ↔ ¬Overflows members key := by
  unfold requireNumber Overflows
  split
  · next n hn =>
    rw [hn]
    split
    · next hfits => simp [hfits]
    · next hfits => simp [hfits]
  · next x hx => simp [hx]
  · next hint hfloat =>
    simp only [contained_malformed, true_iff]
    rintro ⟨n, hn, -⟩
    exact hint n hn

lemma requireNumber_ok {x : Wire.Float} :
    requireNumber rt members key = .ok x ↔ NumberAt members key x := by
  unfold requireNumber NumberAt
  split
  · next n hn =>
    rw [hn]
    split
    · next hfits =>
      constructor
      · intro h
        cases h
        exact .inl ⟨n, rfl, hfits, rfl⟩
      · rintro (⟨m, hm, -, rfl⟩ | hx)
        · cases hm
          rfl
        · cases hx
    · next hfits => simp [hfits]
  · next y hy => simp [hy, pure, Except.pure]
  · next hint hfloat =>
    constructor
    · intro h
      cases h
    · rintro (⟨n, hn, -⟩ | hx)
      · exact absurd hn (hint n)
      · exact absurd hx (hfloat x)

lemma requireBool_ok {b : Bool} :
    requireBool rt members key = .ok b ↔ memberAt members key = some (.bool b) := by
  unfold requireBool
  split
  · next c hc => simp [hc, pure, Except.pure]
  · next hother =>
    constructor
    · intro h
      cases h
    · intro h
      exact absurd h (hother b)

lemma timeAt_of_requireTimestamp {t : IsoDatetime}
    (h : requireTimestamp rt members key = .ok t) : TimeAt rt members key t := by
  unfold requireTimestamp at h
  split at h
  · next s hs =>
    split at h
    · cases h
    · next parsed hparsed =>
      split at h
      · cases h
      · next hoffset =>
        cases h
        exact ⟨s, hs, hparsed, fun hnone => hoffset (by rw [hnone]; rfl)⟩
  · cases h

/-- The claims of an offer are those that its entry states, if any. -/
lemma claimsOf_ok {claims : List (PyStr × Value)} (h : claimsOf rt members = .ok claims) :
    memberAt members "claims" = some (.obj claims) ∨ Absent members "claims" ∧ claims = [] := by
  unfold claimsOf at h
  split at h
  · next hnone =>
    cases h
    exact .inr ⟨.inl hnone, rfl⟩
  · next hnull =>
    cases h
    exact .inr ⟨.inr hnull, rfl⟩
  · next v _ hv =>
    obtain ⟨stated, hobject, h⟩ := bind_ok.mp h
    obtain ⟨⟨⟩, -, hpure⟩ := bind_ok.mp h
    cases hpure
    rw [requireObject_ok.mp hobject] at hv
    exact .inl hv

/-- A document that declares a protocol declares the adapter's. -/
lemma checkProtocol_ok {protocolName : String}
    (h : checkProtocol rt protocolName members = .ok ()) :
    Absent members "protocol" ∨ memberAt members "protocol" = some (.str protocolName) := by
  unfold checkProtocol at h
  split at h
  · next hnone => exact .inl (.inl hnone)
  · next hnull => exact .inl (.inr hnull)
  · next declared hdeclared =>
    split at h
    · next hname =>
      rw [hname] at hdeclared
      exact .inr hdeclared
    · cases h
  · cases h

@[simp] lemma contained_requireBool (key : String) : Contained (requireBool rt members key) := by
  unfold requireBool
  split
  · exact contained_pure _
  · exact contained_malformed _

@[simp] lemma contained_requireTimestamp (key : String) :
    Contained (requireTimestamp rt members key) := by
  unfold requireTimestamp
  split
  · split
    · exact contained_malformed _
    · split
      · exact contained_malformed _
      · exact contained_pure _
  · exact contained_malformed _

@[simp] lemma contained_claimsOf : Contained (claimsOf rt members) := by
  have hcheck : ∀ claims, Contained (checkClaims rt claims) := by
    intro claims
    induction claims with
    | nil => exact contained_pure ()
    | cons p rest ih =>
      obtain ⟨name, value⟩ := p
      cases value with
      | obj _ => exact contained_malformed _
      | arr items =>
        simp only [checkClaims]
        split
        · exact ih
        · exact contained_malformed _
      | _ => exact ih
  unfold claimsOf
  split
  · exact contained_pure _
  · exact contained_pure _
  · exact (contained_requireObject _ _).bind fun claims _ =>
      (hcheck claims).bind fun _ _ => contained_pure _

@[simp] lemma contained_checkProtocol (protocolName : String) :
    Contained (checkProtocol rt protocolName members) := by
  unfold checkProtocol
  split
  · exact contained_pure ()
  · exact contained_pure ()
  · split
    · exact contained_pure ()
    · exact contained_refuse _ _
  · exact contained_refuse _ _

-- ════════════════════════════════════════════════════════════════════════
-- Unknown fields
-- ════════════════════════════════════════════════════════════════════════

variable {known : List PyStr} {remark : String} {extras : List (PyStr × Value)}

/-- What is kept of some entries: those whose name is unknown. -/
lemma keepUnknown_ok (h : keepUnknown rt known remark members = .ok extras) :
    extras = members.filter fun p => decide (p.1 ∉ known) := by
  induction members generalizing extras with
  | nil =>
    cases h
    rfl
  | cons p rest ih =>
    obtain ⟨name, value⟩ := p
    simp only [keepUnknown] at h
    split at h
    · next hknown =>
      rw [ih h]
      simp [hknown]
    · next hunknown =>
      split at h
      · obtain ⟨kept, hkept, hpure⟩ := bind_ok.mp h
        cases hpure
        rw [ih hkept]
        simp [hunknown]
      · cases h

/-- Every key of an object is a field of the protocol or kept with its value, and what is kept is
of the object. -/
structure Lossless (known : List PyStr) (members extras : List (PyStr × Value)) : Prop where
  kept : ∀ p ∈ members, p.1 ∈ known ∨ p ∈ extras
  unknown : ∀ p ∈ extras, p ∈ members ∧ p.1 ∉ known

lemma lossless_of_unknownFields (h : unknownFields rt known remark members = .ok extras) :
    Lossless known members extras := by
  have hextras := keepUnknown_ok h
  constructor
  · intro p hp
    by_cases hknown : p.1 ∈ known
    · exact .inl hknown
    · rw [hextras]
      exact .inr (List.mem_filter.mpr ⟨mem_sortedItems.mpr hp, by simpa using hknown⟩)
  · intro p hp
    rw [hextras] at hp
    obtain ⟨hmem, hunknown⟩ := List.mem_filter.mp hp
    exact ⟨mem_sortedItems.mp hmem, by simpa using hunknown⟩

@[simp] lemma contained_unknownFields : Contained (unknownFields rt known remark members) := by
  unfold unknownFields
  induction sortedItems members with
  | nil => exact contained_pure _
  | cons p rest ih =>
    obtain ⟨name, value⟩ := p
    simp only [keepUnknown]
    split
    · exact ih
    · split
      · exact ih.bind fun _ _ => contained_pure _
      · exact contained_malformed _

end Values

-- ════════════════════════════════════════════════════════════════════════
-- The adapter
-- ════════════════════════════════════════════════════════════════════════

namespace Commerce

/-- `DESCRIPTOR`. -/
def descriptor : AdapterDescriptor where
  adapterId := "pactra.commerce.v1"
  family := .commerce
  protocolName := "pactra.commerce"
  supportedProtocolVersions := ["1.0"]
  adapterVersion := "pactra-commerce-v1"

/-- `MAX_OFFERS`. -/
def maxOffers : Nat := 50

/-- `CATALOG_FIELDS`. -/
def catalogFields : List PyStr := ["protocol", "merchant_id", "offers"]

/-- `OFFER_FIELDS`. -/
def offerFields : List PyStr :=
  ["merchant_id", "product_id", "title", "description", "price", "currency", "rating", "in_stock",
   "offered_at", "claims"]

/-- What this adapter adds to the refusal of an unknown field. -/
def unknownRemark : String :=
  "; nested structures are refused rather than kept as opaque metadata"

/-- Whether a number is at least zero. -/
def nonnegative : Wire.Float → Bool
  | .finite q => 0 ≤ q
  | .infinity negative => !negative
  | .nan => false

/-- Whether a number is a rating. -/
def onScale : Wire.Float → Bool
  | .finite q => 0 ≤ q && q ≤ 5
  | _ => false

/-- The number of fields that violate the constraints of `RawMerchantOffer`. -/
def constraintViolations (o : MerchantOffer) : Nat :=
  [fits 1 120 o.merchantId, fits 1 120 o.productId,
    fits 1 300 o.title, fits 0 5000 o.description,
    nonnegative o.price, fits 3 3 o.currency, onScale o.rating].countP (!·)

/-- `offer_object.get("description", "")`, when it is a text. -/
def descriptionOf (members : List (PyStr × Value)) : Option PyStr :=
  match memberAt members "description" with
  | none => some ""
  | some (.str s) => some s
  | _ => none

/-- One round of the loop over the offers. -/
def translateOffer (rt : Runtime) (index : Nat) (entry : Value) :
    Except Failure CandidateCommerceOffer := do
  let members ← requireObject entry ("offers[" ++ toString index ++ "]")
  guardPayloadKeys rt members
  let merchantId ← requireStr rt "offer field" members "merchant_id"
  let productId ← requireStr rt "offer field" members "product_id"
  let title ← requireStr rt "offer field" members "title"
  let price ← requireNumber rt members "price"
  let currency ← requireStr rt "offer field" members "currency"
  let rating ← requireNumber rt members "rating"
  let inStock ← requireBool rt members "in_stock"
  let offeredAt ← requireTimestamp rt members "offered_at"
  let claims ← claimsOf rt members
  match descriptionOf members with
  | none => malformed "offer field 'description' must be a string"
  | some description => do
    let offer : MerchantOffer :=
      { merchantId, productId, title, description, price, currency, rating, inStock, offeredAt,
        claims }
    if constraintViolations offer ≠ 0 then
      malformed ("offers[" ++ toString index ++ "] failed PACTRA's merchant offer schema: "
        ++ toString (constraintViolations offer) ++ " constraint violation(s)")
    else do
      let extras ← unknownFields rt offerFields unknownRemark members
      pure { claimedMerchantId := merchantId, offer := offer, untrustedMetadata := extras }

/-- The loop over the offers. -/
def translateOffers (rt : Runtime) : Nat → List Value → Except Failure (List CandidateCommerceOffer)
  | _, [] => pure []
  | index, entry :: rest => do
    let offer ← translateOffer rt index entry
    let offers ← translateOffers rt (index + 1) rest
    pure (offer :: offers)

/-- The text of the warning that the claimed merchant is not authenticated. -/
def identityDetail (rt : Runtime) (claimedMerchantId : PyStr) : String :=
  "the document claims merchant " ++ rt.repr claimedMerchantId
    ++ "; it is verified against a transport-authenticated identity by ingest_merchant_offer, "
    ++ "and a mismatch is MERCHANT_IDENTITY_MISMATCH"

/-- The keys that get provenance. -/
def provenanceKeys (extras : List (PyStr × Value)) (offers : List CandidateCommerceOffer) :
    List PyStr :=
  (["claimed_merchant_id"] : List PyStr)
    ++ keysWhen (!extras.isEmpty) ["untrusted_metadata"]
    ++ offers.zipIdx.flatMap fun p => offerKeys p.2 p.1

/-- Everything before the loop over the offers: the claimed merchant, the offers and the unknown
fields. -/
def readCatalog (rt : Runtime) (payload : Value) :
    Except Failure (PyStr × List Value × List (PyStr × Value)) := do
  let document ← requireObject payload "a pactra.commerce catalog"
  guardPayloadKeys rt document
  checkProtocol rt descriptor.protocolName document
  let claimedMerchantId ← requireStr rt "offer field" document "merchant_id"
  match memberAt document "offers" with
  | some (.arr rawOffers) =>
    if rawOffers.isEmpty then malformed "catalog carries no offers"
    else if maxOffers < rawOffers.length then
      malformed ("catalog carries " ++ toString rawOffers.length ++ " offers, above the "
        ++ toString maxOffers ++ " limit")
    else do
      let extras ← unknownFields rt catalogFields unknownRemark document
      pure (claimedMerchantId, rawOffers, extras)
  | _ => malformed "catalog field 'offers' must be a JSON array"

/-- The catalog that the parts make. The schema bounds the claimed merchant. -/
def makeCatalog (claimedMerchantId : PyStr) (offers : List CandidateCommerceOffer)
    (extras : List (PyStr × Value)) : Except Failure CandidateCommerceCatalog :=
  if fits 1 120 claimedMerchantId then
    pure { claimedMerchantId, offers, untrustedMetadata := extras }
  else .error (.escaped (.validationError "CandidateCommerceCatalog"))

/-- The warnings of a translation. -/
def warningsFor (rt : Runtime) (claimedMerchantId : PyStr) (anyUnknownFields : Bool) :
    Except Failure (List AdapterWarning) := do
  let identity ← adapterWarning .claimedIdentityNotAuthenticated
    (identityDetail rt claimedMerchantId)
  let trust ← adapterWarning .merchantTrustNotAssignedByAdapter
    ("no merchant trust or display name is attached: both come from the "
      ++ "server-owned MerchantRegistry, which this adapter cannot reach")
  if anyUnknownFields then do
    let unknown ← unknownFieldsWarning
    pure [identity, trust, unknown]
  else pure [identity, trust]

/-- `translate_payload`. -/
def translatePayload (rt : Runtime) (payload : Value) : Except Failure TranslationResult := do
  let (claimedMerchantId, rawOffers, extras) ← readCatalog rt payload
  let offers ← translateOffers rt 0 rawOffers
  let warnings ← warningsFor rt claimedMerchantId
    (!extras.isEmpty || offers.any fun o => !o.untrustedMetadata.isEmpty)
  let catalog ← makeCatalog claimedMerchantId offers extras
  pure
    { canonicalPayload := .catalog catalog
      provenance := marked (provenanceSource descriptor.adapterId claimedMerchantId)
        (provenanceKeys extras offers)
      warnings := warnings }

-- ════════════════════════════════════════════════════════════════════════
-- Refusals
-- ════════════════════════════════════════════════════════════════════════

section Refusals

variable {rt : Runtime}

/-- An offer of which the checks before its price pass, with a price that is too large for a float,
or with a price, a currency, and a rating that is too large for a float. -/
def OfferOverflows (rt : Runtime) (entry : Value) : Prop :=
  ∃ members, entry = .obj members ∧ guardPayloadKeys rt members = .ok () ∧
    HasText members "merchant_id" ∧ HasText members "product_id" ∧ HasText members "title" ∧
    (Overflows members "price" ∨
      ((∃ x, NumberAt members "price" x) ∧ HasText members "currency" ∧ Overflows members "rating"))

/-- The offers at which the conversion of a number overflows are the only ones of which the
translation does not end in a refusal. -/
lemma contained_translateOffer {index : Nat} {entry : Value} :
    Contained (translateOffer rt index entry) ↔ ¬OfferOverflows rt entry := by
  unfold translateOffer OfferOverflows
  simp only [contained_bind, contained_requireObject, contained_guardPayloadKeys,
    contained_requireStr, contained_requireBool, contained_requireTimestamp, contained_claimsOf,
    contained_requireNumber, requireObject_ok, true_and]
  constructor
  · rintro h ⟨members, hentry, hguard, ⟨m, hm⟩, ⟨p, hp⟩, ⟨t, ht⟩, hnumber⟩
    obtain ⟨hprice, hafter⟩ := h members hentry () hguard m (requireStr_ok.mpr hm) p
      (requireStr_ok.mpr hp) t (requireStr_ok.mpr ht)
    rcases hnumber with hover | ⟨⟨x, hx⟩, ⟨c, hc⟩, hover⟩
    · exact hprice hover
    · exact (hafter x (requireNumber_ok.mpr hx) c (requireStr_ok.mpr hc)).1 hover
  · intro h members hentry _ hguard m hm p hp t ht
    refine ⟨fun hover => ?_, fun x hx c hc => ⟨fun hover => ?_, ?_⟩⟩
    · exact h ⟨members, hentry, hguard, hasText_of_ok hm, hasText_of_ok hp, hasText_of_ok ht,
        .inl hover⟩
    · exact h ⟨members, hentry, hguard, hasText_of_ok hm, hasText_of_ok hp, hasText_of_ok ht,
        .inr ⟨⟨x, requireNumber_ok.mp hx⟩, hasText_of_ok hc, hover⟩⟩
    · intro y _ inStock _ offeredAt _ claims _
      split
      · exact contained_malformed _
      · split
        · exact contained_malformed _
        · exact contained_unknownFields.bind fun _ _ => contained_pure _

/-- Offers of which the translation, from an index on, arrives at one that overflows. -/
def ArrivesAtOverflow (rt : Runtime) (index : Nat) (rawOffers : List Value) : Prop :=
  ∃ before entry after, rawOffers = before ++ entry :: after ∧
    (∃ offers, translateOffers rt index before = .ok offers) ∧ OfferOverflows rt entry

lemma contained_translateOffers {index : Nat} {rawOffers : List Value} :
    Contained (translateOffers rt index rawOffers) ↔ ¬ArrivesAtOverflow rt index rawOffers := by
  induction rawOffers generalizing index with
  | nil =>
    simp only [translateOffers, contained_pure, true_iff]
    rintro ⟨before, entry, after, h, -⟩
    simp at h
  | cons entry rest ih =>
    simp only [translateOffers, contained_bind, contained_pure, implies_true, and_true,
      contained_translateOffer, ih]
    constructor
    · rintro ⟨hfirst, hrest⟩ ⟨before, large, after, hsplit, ⟨offers, hbefore⟩, hover⟩
      cases before with
      | nil =>
        obtain ⟨rfl, -⟩ := List.cons.inj hsplit
        exact hfirst hover
      | cons first before =>
        obtain ⟨rfl, htail⟩ := List.cons.inj hsplit
        obtain ⟨offer, hoffer, hbefore⟩ := bind_ok.mp hbefore
        obtain ⟨others, hothers, -⟩ := bind_ok.mp hbefore
        exact hrest offer hoffer ⟨before, large, after, htail, ⟨others, hothers⟩, hover⟩
    · intro h
      refine ⟨fun hover => h ⟨[], entry, rest, rfl, ⟨[], rfl⟩, hover⟩, fun offer hoffer harrives => ?_⟩
      obtain ⟨before, large, after, hsplit, ⟨offers, hbefore⟩, hover⟩ := harrives
      refine h ⟨entry :: before, large, after, by rw [hsplit, List.cons_append], ⟨offer :: offers, ?_⟩,
        hover⟩
      exact bind_ok.mpr ⟨offer, hoffer, bind_ok.mpr ⟨offers, hbefore, rfl⟩⟩

lemma contained_readCatalog (payload : Value) : Contained (readCatalog rt payload) := by
  refine (contained_requireObject _ _).bind fun document _ =>
    (contained_guardPayloadKeys _).bind fun _ _ => (contained_checkProtocol _).bind fun _ _ =>
    (contained_requireStr _ _).bind fun claimed _ => ?_
  split
  · split
    · exact contained_malformed _
    · split
      · exact contained_malformed _
      · exact contained_unknownFields.bind fun _ _ => contained_pure _
  · exact contained_malformed _

/-- The warnings are made unless the text that names the claimed merchant is too long. -/
lemma warningsFor_cases (rt : Runtime) (claimed : PyStr) (any : Bool) :
    ((identityDetail rt claimed).length ≤ 400 ∧
        ∃ warnings, warningsFor rt claimed any = .ok warnings) ∨
      (400 < (identityDetail rt claimed).length ∧
        warningsFor rt claimed any = .error (.escaped (.validationError "AdapterWarning"))) := by
  have hidentity : 1 ≤ (identityDetail rt claimed).length := by
    have hprefix : 1 ≤ "the document claims merchant ".length := by decide
    exact one_le_length_append (one_le_length_append (one_le_length_append hprefix))
  obtain ⟨trust, htrust⟩ := adapterWarning_ok .merchantTrustNotAssignedByAdapter
    (show _ ∧ ("no merchant trust or display name is attached: both come from the "
      ++ "server-owned MerchantRegistry, which this adapter cannot reach").length ≤ 400 by
      rw [String.length_append]
      decide)
  obtain ⟨unknown, hunknown⟩ := unknownFieldsWarning_ok
  rcases adapterWarning_cases .claimedIdentityNotAuthenticated hidentity with
    ⟨hlength, identity, hok⟩ | ⟨hlength, herror⟩
  · refine .inl ⟨hlength, ?_⟩
    unfold warningsFor
    rw [hok, htrust, hunknown]
    cases any with
    | false => exact ⟨_, rfl⟩
    | true => exact ⟨_, rfl⟩
  · refine .inr ⟨hlength, ?_⟩
    unfold warningsFor
    rw [herror]
    rfl

/-- A document that passes every check of the adapter, up to an offer with a number that is too large
for a float, or up to the end with a claimed merchant that is too long for the warning that names it,
or that the schema of the catalog refuses. -/
def Escapes (rt : Runtime) (payload : Value) : Prop :=
  ∃ claimed rawOffers extras, readCatalog rt payload = .ok (claimed, rawOffers, extras) ∧
    (ArrivesAtOverflow rt 0 rawOffers ∨
      ((∃ offers, translateOffers rt 0 rawOffers = .ok offers) ∧
        (400 < (identityDetail rt claimed).length ∨ Unfit 120 claimed)))

lemma readCatalog_ok {payload : Value} {claimed : PyStr} {rawOffers : List Value}
    {extras : List (PyStr × Value)}
    (h : readCatalog rt payload = .ok (claimed, rawOffers, extras)) :
    claimed ≠ "" ∧ ∃ document, payload = .obj document ∧ guardPayloadKeys rt document = .ok () ∧
      (Absent document "protocol" ∨
        memberAt document "protocol" = some (.str descriptor.protocolName)) ∧
      memberAt document "merchant_id" = some (.str claimed) ∧
      memberAt document "offers" = some (.arr rawOffers) ∧
      Lossless catalogFields document extras := by
  obtain ⟨document, hobject, h⟩ := bind_ok.mp h
  obtain ⟨⟨⟩, hguard, h⟩ := bind_ok.mp h
  obtain ⟨⟨⟩, hprotocol, h⟩ := bind_ok.mp h
  obtain ⟨merchantId, hmerchant, h⟩ := bind_ok.mp h
  split at h
  · next offers hoffers =>
    split at h
    · cases h
    · split at h
      · cases h
      · obtain ⟨kept, hkept, hpure⟩ := bind_ok.mp h
        cases hpure
        obtain ⟨hlookup, hne⟩ := requireStr_ok.mp hmerchant
        exact ⟨hne, document, requireObject_ok.mp hobject, hguard, checkProtocol_ok hprotocol, hlookup,
          hoffers, lossless_of_unknownFields hkept⟩
  · cases h

lemma makeCatalog_cases {claimed : PyStr} (hne : claimed ≠ "")
    (offers : List CandidateCommerceOffer) (extras : List (PyStr × Value)) :
    (¬Unfit 120 claimed ∧ makeCatalog claimed offers extras = .ok ⟨claimed, offers, extras⟩) ∨
      (Unfit 120 claimed ∧ makeCatalog claimed offers extras =
        .error (.escaped (.validationError "CandidateCommerceCatalog"))) := by
  cases hfits : fits 1 120 claimed with
  | true =>
    refine .inl ⟨fun hunfit => ?_, if_pos hfits⟩
    rw [(fits_eq_false hne).mpr hunfit] at hfits
    cases hfits
  | false =>
    refine .inr ⟨(fits_eq_false hne).mp hfits, if_neg ?_⟩
    rw [hfits]
    exact Bool.false_ne_true

/-- The only way in which a translation does not end in a refusal. -/
lemma contained_translatePayload {payload : Value} :
    Contained (translatePayload rt payload) ↔ ¬Escapes rt payload := by
  unfold translatePayload Escapes
  simp only [contained_bind, contained_readCatalog, contained_translateOffers, true_and]
  constructor
  · rintro h ⟨claimed, rawOffers, extras, hread, harrives | ⟨⟨offers, hoffers⟩, hlimit⟩⟩
    · exact (h _ hread).1 harrives
    · obtain ⟨hwarnings, hrest⟩ := (h _ hread).2 offers hoffers
      obtain ⟨hne, -⟩ := readCatalog_ok hread
      rcases warningsFor_cases rt claimed _ with ⟨hshort, warnings, hok⟩ | ⟨-, herror⟩
      · rcases makeCatalog_cases hne offers extras with ⟨hfits, -⟩ | ⟨-, herror⟩
        · exact hlimit.elim (Nat.not_lt.mpr hshort) hfits
        · exact (hrest warnings hok).1 _ herror
      · exact hwarnings _ herror
  · rintro h ⟨claimed, rawOffers, extras⟩ hread
    obtain ⟨hne, -⟩ := readCatalog_ok hread
    refine ⟨fun harrives => h ⟨claimed, rawOffers, extras, hread, .inl harrives⟩,
      fun offers hoffers => ?_⟩
    have hend : ∀ hlimit, False := fun hlimit =>
      h ⟨claimed, rawOffers, extras, hread, .inr ⟨⟨offers, hoffers⟩, hlimit⟩⟩
    rcases warningsFor_cases rt claimed
      (!extras.isEmpty || offers.any fun o => !o.untrustedMetadata.isEmpty) with
      ⟨-, warnings, hok⟩ | ⟨hlong, -⟩
    · rcases makeCatalog_cases hne offers extras with ⟨-, hmake⟩ | ⟨hunfit, -⟩
      · simp only [hok, hmake]
        exact ⟨contained_ok _, fun _ _ => ⟨contained_ok _, fun _ _ => contained_pure _⟩⟩
      · exact (hend (.inr hunfit)).elim
    · exact (hend (.inl hlong)).elim

/-- A document that passes every check is translated, unless its claimed merchant is beyond a limit. -/
lemma exists_translatePayload {payload : Value} {claimed : PyStr} {rawOffers : List Value}
    {extras : List (PyStr × Value)} {offers : List CandidateCommerceOffer}
    (hread : readCatalog rt payload = .ok (claimed, rawOffers, extras))
    (hoffers : translateOffers rt 0 rawOffers = .ok offers)
    (hshort : (identityDetail rt claimed).length ≤ 400) (hfits : ¬Unfit 120 claimed) :
    ∃ result, translatePayload rt payload = .ok result := by
  rcases warningsFor_cases rt claimed
    (!extras.isEmpty || offers.any fun o => !o.untrustedMetadata.isEmpty) with
    ⟨-, warnings, hwarnings⟩ | ⟨hlong, -⟩
  · rcases makeCatalog_cases (readCatalog_ok hread).1 offers extras with ⟨-, hmake⟩ | ⟨hunfit, -⟩
    · exact ⟨_, bind_ok.mpr ⟨_, hread, bind_ok.mpr ⟨offers, hoffers, bind_ok.mpr ⟨warnings, hwarnings,
        bind_ok.mpr ⟨_, hmake, rfl⟩⟩⟩⟩⟩
    · exact absurd hunfit hfits
  · omega

-- ════════════════════════════════════════════════════════════════════════
-- Results
-- ════════════════════════════════════════════════════════════════════════

/-- A candidate offer says what the members of an entry state: every field of the protocol is read
into its place, and every other member is kept. -/
structure OfferRead (rt : Runtime) (members : List (PyStr × Value)) (c : CandidateCommerceOffer) :
    Prop where
  guarded : guardPayloadKeys rt members = .ok ()
  lossless : Lossless offerFields members c.untrustedMetadata
  claimedMerchantId : c.claimedMerchantId = c.offer.merchantId
  merchantId : memberAt members "merchant_id" = some (.str c.offer.merchantId)
  productId : memberAt members "product_id" = some (.str c.offer.productId)
  title : memberAt members "title" = some (.str c.offer.title)
  description : memberAt members "description" = some (.str c.offer.description) ∨
    memberAt members "description" = none ∧ c.offer.description = ""
  price : NumberAt members "price" c.offer.price
  currency : memberAt members "currency" = some (.str c.offer.currency)
  rating : NumberAt members "rating" c.offer.rating
  inStock : memberAt members "in_stock" = some (.bool c.offer.inStock)
  offeredAt : TimeAt rt members "offered_at" c.offer.offeredAt
  claims : memberAt members "claims" = some (.obj c.offer.claims) ∨
    Absent members "claims" ∧ c.offer.claims = []

lemma descriptionOf_ok {members : List (PyStr × Value)} {description : PyStr}
    (h : descriptionOf members = some description) :
    memberAt members "description" = some (.str description) ∨
      memberAt members "description" = none ∧ description = "" := by
  unfold descriptionOf at h
  split at h
  · next hnone =>
    cases h
    exact .inr ⟨hnone, rfl⟩
  · next s hs =>
    cases h
    exact .inl hs
  · cases h

/-- An entry that was translated into a candidate offer. -/
def OfferKept (rt : Runtime) (entry : Value) (offer : CandidateCommerceOffer) : Prop :=
  ∃ members, entry = .obj members ∧ OfferRead rt members offer

lemma translateOffer_ok {index : Nat} {entry : Value} {offer : CandidateCommerceOffer}
    (h : translateOffer rt index entry = .ok offer) : OfferKept rt entry offer := by
  obtain ⟨members, hobject, h⟩ := bind_ok.mp h
  obtain ⟨⟨⟩, hguard, h⟩ := bind_ok.mp h
  obtain ⟨merchantId, hmerchantId, h⟩ := bind_ok.mp h
  obtain ⟨productId, hproductId, h⟩ := bind_ok.mp h
  obtain ⟨title, htitle, h⟩ := bind_ok.mp h
  obtain ⟨price, hprice, h⟩ := bind_ok.mp h
  obtain ⟨currency, hcurrency, h⟩ := bind_ok.mp h
  obtain ⟨rating, hrating, h⟩ := bind_ok.mp h
  obtain ⟨inStock, hinStock, h⟩ := bind_ok.mp h
  obtain ⟨offeredAt, hofferedAt, h⟩ := bind_ok.mp h
  obtain ⟨claims, hclaims, h⟩ := bind_ok.mp h
  split at h
  · cases h
  · next description hdescription =>
    dsimp only at h
    split at h
    · cases h
    · obtain ⟨extras, hextras, hpure⟩ := bind_ok.mp h
      cases hpure
      exact ⟨members, requireObject_ok.mp hobject,
        { guarded := hguard
          lossless := lossless_of_unknownFields hextras
          claimedMerchantId := rfl
          merchantId := (requireStr_ok.mp hmerchantId).1
          productId := (requireStr_ok.mp hproductId).1
          title := (requireStr_ok.mp htitle).1
          description := descriptionOf_ok hdescription
          price := requireNumber_ok.mp hprice
          currency := (requireStr_ok.mp hcurrency).1
          rating := requireNumber_ok.mp hrating
          inStock := requireBool_ok.mp hinStock
          offeredAt := timeAt_of_requireTimestamp hofferedAt
          claims := claimsOf_ok hclaims }⟩

lemma translateOffers_ok {index : Nat} {rawOffers : List Value}
    {offers : List CandidateCommerceOffer} (h : translateOffers rt index rawOffers = .ok offers) :
    List.Forall₂ (OfferKept rt) rawOffers offers := by
  induction rawOffers generalizing index offers with
  | nil =>
    cases h
    exact .nil
  | cons entry rest ih =>
    obtain ⟨offer, hoffer, h⟩ := bind_ok.mp h
    obtain ⟨others, hothers, hpure⟩ := bind_ok.mp h
    cases hpure
    exact .cons (translateOffer_ok hoffer) (ih hothers)

/-- A candidate catalog says what a document states. -/
structure CatalogRead (rt : Runtime) (document : List (PyStr × Value))
    (catalog : CandidateCommerceCatalog) : Prop where
  guarded : guardPayloadKeys rt document = .ok ()
  lossless : Lossless catalogFields document catalog.untrustedMetadata
  protocol : Absent document "protocol" ∨
    memberAt document "protocol" = some (.str descriptor.protocolName)
  claimedMerchantId : memberAt document "merchant_id" = some (.str catalog.claimedMerchantId)
  offers : ∃ rawOffers, memberAt document "offers" = some (.arr rawOffers) ∧
    List.Forall₂ (OfferKept rt) rawOffers catalog.offers

/-- A document that was translated into a candidate catalog. -/
def CatalogKept (rt : Runtime) (payload : Value) (catalog : CandidateCommerceCatalog) : Prop :=
  ∃ document, payload = .obj document ∧ CatalogRead rt document catalog

/-- What a translation keeps, and the provenance of all of it. -/
lemma translatePayload_ok {payload : Value} {result : TranslationResult}
    (h : translatePayload rt payload = .ok result) :
    ∃ catalog, result.canonicalPayload = .catalog catalog ∧ CatalogKept rt payload catalog ∧
      result.provenance ≠ [] ∧ Tainted result.canonicalPayload result.provenance := by
  obtain ⟨⟨claimed, rawOffers, extras⟩, hread, h⟩ := bind_ok.mp h
  obtain ⟨offers, hoffers, h⟩ := bind_ok.mp h
  obtain ⟨warnings, -, h⟩ := bind_ok.mp h
  obtain ⟨catalog, hcatalog, hpure⟩ := bind_ok.mp h
  cases hpure
  obtain ⟨hne, document, hdocument, hguard, hprotocol, hclaimed, harray, hlossless⟩ :=
    readCatalog_ok hread
  obtain rfl : catalog = ⟨claimed, offers, extras⟩ := by
    rcases makeCatalog_cases hne offers extras with ⟨-, hmake⟩ | ⟨-, hmake⟩
    · rw [hmake] at hcatalog
      exact (Except.ok.inj hcatalog).symm
    · rw [hmake] at hcatalog
      cases hcatalog
  refine ⟨_, rfl, ⟨document, hdocument, hguard, hlossless, hprotocol, hclaimed, rawOffers, harray,
    translateOffers_ok hoffers⟩, by simp [marked, provenanceKeys], tainted_marked ?_⟩
  intro key hkey
  simp only [requiredProvenanceKeys, List.mem_append] at hkey
  simp only [provenanceKeys, List.mem_append]
  rcases hkey with (hclaimed | hoffer) | hmetadata
  · exact .inl (.inl hclaimed)
  · exact .inr hoffer
  · exact .inl (.inr hmetadata)

end Refusals

end Commerce

end Adapters

end Pactra
