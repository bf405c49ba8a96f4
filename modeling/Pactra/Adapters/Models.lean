import Mathlib.Data.List.Dedup
import Pactra.Adapters.Fields
import Pactra.Schemas.Provenance
import Pactra.Schemas.Transaction

/-!
# Descriptors, candidates and provenance

`services/adapters/models.py` and `translation.py`: what adapters are registered as, the candidates
they translate payloads into, the provenance of every value of a candidate, and the checks that
hold for all of them after a translation.
-/

namespace Pactra

namespace Adapters

open Wire (names)

-- ════════════════════════════════════════════════════════════════════════
-- Descriptors
-- ════════════════════════════════════════════════════════════════════════

/-- `AdapterFamily`. -/
inductive AdapterFamily where
  | commerce | paymentAuthorization | tool | agentCommunication | paymentRail
deriving DecidableEq

namespace AdapterFamily

/-- The wire value of a family. -/
def value : AdapterFamily → String
  | .commerce => "COMMERCE"
  | .paymentAuthorization => "PAYMENT_AUTHORIZATION"
  | .tool => "TOOL"
  | .agentCommunication => "AGENT_COMMUNICATION"
  | .paymentRail => "PAYMENT_RAIL"

/-- `display_name`. -/
def displayName : AdapterFamily → String
  | .commerce => "CommerceAdapter"
  | .paymentAuthorization => "PaymentAuthorizationAdapter"
  | .tool => "ToolAdapter"
  | .agentCommunication => "AgentCommunicationAdapter"
  | .paymentRail => "PaymentRailAdapter"

end AdapterFamily

/-- `AdapterDescriptor`, by the fields a translation reads. -/
structure AdapterDescriptor where
  adapterId : String
  family : AdapterFamily
  protocolName : String
  supportedProtocolVersions : List String
  adapterVersion : String
  emitsAuthority : AuthorityLevel := .agentProposal
deriving DecidableEq

/-- `SourceIdentity`: who a payload says it is. -/
structure SourceIdentity where
  claimedId : String
  channel : String
  claimedId_length : 1 ≤ claimedId.length ∧ claimedId.length ≤ 200
  channel_length : 1 ≤ channel.length ∧ channel.length ≤ 120

-- ════════════════════════════════════════════════════════════════════════
-- Candidates
-- ════════════════════════════════════════════════════════════════════════

/-- `RawMerchantOffer` with the values a payload may give it: a price may be infinite, and a text may
hold a lone surrogate. -/
structure MerchantOffer where
  merchantId : PyStr
  productId : PyStr
  title : PyStr
  description : PyStr
  price : Wire.Float
  currency : PyStr
  rating : Wire.Float
  inStock : Bool
  offeredAt : IsoDatetime
  claims : List (PyStr × Value)

/-- Whether a text meets the length bounds of a schema field. A text with a lone surrogate never
does. -/
def fits (lo hi : Nat) (s : PyStr) : Bool := s.unicode.any (BoundTransaction.lengthIn lo hi)

/-- A text that is too long for a schema field, or that holds a lone surrogate. -/
def Unfit (hi : Nat) (s : PyStr) : Prop := hi < s.length ∨ s.unicode = none

lemma fits_eq_false {hi : Nat} {s : PyStr} (hne : s ≠ "") : fits 1 hi s = false ↔ Unfit hi s := by
  unfold fits Unfit
  cases hs : s.unicode with
  | none => simp
  | some t =>
    obtain rfl := PyStr.unicode_eq_some.mp hs
    have hpositive : 1 ≤ t.length := Nat.one_le_iff_ne_zero.mpr fun h =>
      hne (congrArg PyStr.ofString (String.length_eq_zero_iff.mp h))
    simp [BoundTransaction.lengthIn, hpositive]

/-- The fields of `RawMerchantOffer`. -/
def merchantOfferFields : List PyStr :=
  ["merchant_id", "product_id", "title", "description", "price", "currency", "rating", "in_stock",
   "offered_at", "claims"]

/-- `CandidateCommerceOffer`. -/
structure CandidateCommerceOffer where
  claimedMerchantId : PyStr
  offer : MerchantOffer
  untrustedMetadata : List (PyStr × Value)

/-- `CandidateCommerceCatalog`. -/
structure CandidateCommerceCatalog where
  claimedMerchantId : PyStr
  offers : List CandidateCommerceOffer
  untrustedMetadata : List (PyStr × Value)

/-- `CandidateOperationType`. -/
inductive CandidateOperationType where
  | catalogSearch | merchantDiscover | offerRequest | offerRank | purchasePropose
deriving DecidableEq

/-- `CandidateOperation`. -/
structure CandidateOperation where
  operation : CandidateOperationType
  claimedToolName : PyStr
  arguments : List (PyStr × Value)

/-- `CandidateAuthorizationRequest`. -/
structure CandidateAuthorizationRequest where
  missionId : Option Uuid
  claimedMerchantId : PyStr
  claimedProductId : PyStr
  claimedQuantity : Int
  claimedAmountInr : Int
  claimedCurrency : PyStr
  claimedExpiresAt : Option IsoDatetime
  externalAuthorizationReference : Option PyStr
  untrustedMetadata : List (PyStr × Value)

/-- `CanonicalPayload`. No built-in adapter emits a single offer. -/
inductive CanonicalPayload where
  | catalog (catalog : CandidateCommerceCatalog)
  | operation (operation : CandidateOperation)
  | authorizationRequest (request : CandidateAuthorizationRequest)

/-- The class name of a payload. -/
def CanonicalPayload.typeName : CanonicalPayload → String
  | .catalog _ => "CandidateCommerceCatalog"
  | .operation _ => "CandidateOperation"
  | .authorizationRequest _ => "CandidateAuthorizationRequest"

/-- `FAMILY_PAYLOAD_TYPES`: whether a family may emit a payload. -/
def CanonicalPayload.permitted : AdapterFamily → CanonicalPayload → Bool
  | .commerce, .catalog _ => true
  | .tool, .operation _ => true
  | .paymentAuthorization, .authorizationRequest _ => true
  | _, _ => false

-- ════════════════════════════════════════════════════════════════════════
-- Warnings and results
-- ════════════════════════════════════════════════════════════════════════

/-- `AdapterWarningCode`. -/
inductive AdapterWarningCode where
  | claimedIdentityNotAuthenticated | externalAuthorizationReferenceNotVerified
  | unknownFieldsKeptAsUntrustedMetadata | merchantTrustNotAssignedByAdapter
deriving DecidableEq

/-- `AdapterWarning`. The schema bounds the text. -/
structure AdapterWarning where
  code : AdapterWarningCode
  detail : String
  detail_length : 1 ≤ detail.length ∧ detail.length ≤ 400

/-- Construct a warning. -/
def adapterWarning (code : AdapterWarningCode) (detail : String) : Except Failure AdapterWarning :=
  if h : 1 ≤ detail.length ∧ detail.length ≤ 400 then pure ⟨code, detail, h⟩
  else .error (.escaped (.validationError "AdapterWarning"))

lemma one_le_length_append {s t : String} (h : 1 ≤ s.length) : 1 ≤ (s ++ t).length := by
  rw [String.length_append]
  exact Nat.le_add_right_of_le h

/-- The warning that unknown fields were kept. -/
def unknownFieldsWarning : Except Failure AdapterWarning :=
  adapterWarning .unknownFieldsKeptAsUntrustedMetadata
    ("protocol-undefined fields were preserved as untrusted metadata; "
      ++ "they are never canonical and never security state")

lemma adapterWarning_ok (code : AdapterWarningCode) {detail : String}
    (h : 1 ≤ detail.length ∧ detail.length ≤ 400) :
    ∃ warning, adapterWarning code detail = .ok warning :=
  ⟨⟨code, detail, h⟩, dif_pos h⟩

/-- A warning is made unless its text is too long. -/
lemma adapterWarning_cases (code : AdapterWarningCode) {detail : String} (h : 1 ≤ detail.length) :
    (detail.length ≤ 400 ∧ ∃ warning, adapterWarning code detail = .ok warning) ∨
      (400 < detail.length ∧
        adapterWarning code detail = .error (.escaped (.validationError "AdapterWarning"))) := by
  by_cases hlength : detail.length ≤ 400
  · exact .inl ⟨hlength, adapterWarning_ok code ⟨h, hlength⟩⟩
  · exact .inr ⟨Nat.not_le.mp hlength, dif_neg fun h => hlength h.2⟩

lemma unknownFieldsWarning_ok : ∃ warning, unknownFieldsWarning = .ok warning := by
  refine adapterWarning_ok _ ?_
  rw [String.length_append]
  decide

/-- `TranslationResult`. -/
structure TranslationResult where
  canonicalPayload : CanonicalPayload
  provenance : List (PyStr × ProvenanceMeta)
  warnings : List AdapterWarning

/-- `AdapterEnvelope`, by what the translation puts into it. -/
structure AdapterEnvelope where
  adapterId : String
  adapterFamily : AdapterFamily
  protocolName : String
  protocolVersion : String
  adapterVersion : String
  source : SourceIdentity
  rawReference : String
  rawByteLength : Nat
  canonicalPayload : CanonicalPayload
  provenance : List (PyStr × ProvenanceMeta)
  warnings : List AdapterWarning

/-- `external_provenance`. -/
def externalProvenance (source : PyStr) : ProvenanceMeta :=
  { source := source, authority := .agentProposal, trust := .untrusted, tainted := true,
    transformed := true }

/-- `provenance_source`. -/
def provenanceSource (adapterId : String) (claimedId : PyStr) : PyStr :=
  "adapter:" ++ adapterId ++ ":claim:" ++ claimedId

/-- Provenance for some names, all from one source. -/
def marked (origin : PyStr) (keys : List PyStr) : List (PyStr × ProvenanceMeta) :=
  keys.map fun key => (key, externalProvenance origin)

/-- Some names, when a value has them. -/
def keysWhen (present : Bool) (keys : List PyStr) : List PyStr := if present then keys else []

lemma mem_keysWhen {present : Bool} {key k : PyStr} (h : k ∈ keysWhen present [key]) : k = key := by
  unfold keysWhen at h
  split at h
  · exact List.mem_singleton.mp h
  · cases h

/-- The name of an argument. -/
def argumentKey (name : PyStr) : PyStr := "arguments." ++ name

/-- The name of a value of an offer. -/
def offerKey (index : Nat) (field : PyStr) : PyStr :=
  "offers[" ++ toString index ++ "]." ++ field

-- ════════════════════════════════════════════════════════════════════════
-- Checks after a translation
-- ════════════════════════════════════════════════════════════════════════

/-- `_offer_keys`. -/
def offerKeys (index : Nat) (offer : CandidateCommerceOffer) : List PyStr :=
  merchantOfferFields.map (offerKey index)
    ++ keysWhen (!offer.untrustedMetadata.isEmpty) [offerKey index "untrusted_metadata"]

/-- `required_provenance_keys`. -/
def requiredProvenanceKeys : CanonicalPayload → List PyStr
  | .catalog catalog =>
    (["claimed_merchant_id"] : List PyStr)
      ++ (catalog.offers.zipIdx.flatMap fun p => offerKeys p.2 p.1)
      ++ keysWhen (!catalog.untrustedMetadata.isEmpty) ["untrusted_metadata"]
  | .operation operation =>
    (["operation", "claimed_tool_name"] : List PyStr) ++ (names operation.arguments).map argumentKey
  | .authorizationRequest request =>
    (["claimed_merchant_id", "claimed_product_id", "claimed_quantity", "claimed_amount_inr",
      "claimed_currency"] : List PyStr)
      ++ keysWhen request.missionId.isSome ["mission_id"]
      ++ keysWhen request.claimedExpiresAt.isSome ["claimed_expires_at"]
      ++ keysWhen request.externalAuthorizationReference.isSome
        ["external_authorization_reference"]
      ++ keysWhen (!request.untrustedMetadata.isEmpty) ["untrusted_metadata"]

/-- The loop of `_check_result` over the provenance. -/
def checkProvenance (rt : Runtime) (adapterId : String) (maxAuthority : AuthorityLevel) :
    List (PyStr × ProvenanceMeta) → Except Failure Unit
  | [] => pure ()
  | (name, entry) :: rest =>
    if maxAuthority.value < entry.authority.value then
      refuse .authorityCeilingViolation
        ("adapter " ++ rt.repr adapterId ++ " emitted '" ++ name ++ "' at " ++ entry.authority.name
          ++ ", above its declared ceiling " ++ maxAuthority.name)
    else if !entry.tainted then
      refuse .taintStrippedViolation
        ("adapter " ++ rt.repr adapterId ++ " emitted '" ++ name
          ++ "' untainted; translation does not sanitize authority")
    else if entry.trust ≠ .untrusted then
      refuse .taintStrippedViolation
        ("adapter " ++ rt.repr adapterId ++ " emitted '" ++ name ++ "' as " ++ entry.trust.value
          ++ "; a translating adapter emits untrusted values only")
    else checkProvenance rt adapterId maxAuthority rest

/-- `_check_result`. -/
def checkResult (rt : Runtime) (descriptor : AdapterDescriptor) (result : TranslationResult) :
    Except Failure Unit :=
  let missing := (((requiredProvenanceKeys result.canonicalPayload).filter fun key =>
    decide (key ∉ names result.provenance)).dedup).insertionSort (· ≤ ·)
  if !result.canonicalPayload.permitted descriptor.family then
    refuse .adapterError
      ("adapter " ++ rt.repr descriptor.adapterId ++ " in family " ++ descriptor.family.value
        ++ " returned a " ++ result.canonicalPayload.typeName
        ++ ", which that family may not emit")
  else if result.provenance.isEmpty then
    refuse .adapterError
      ("adapter " ++ rt.repr descriptor.adapterId
        ++ " returned a canonical payload with no provenance")
  else if !missing.isEmpty then
    refuse .provenanceIncomplete
      ("adapter " ++ rt.repr descriptor.adapterId
        ++ " returned canonical values carrying no provenance: " ++ joinComma missing)
  else checkProvenance rt descriptor.adapterId descriptor.emitsAuthority result.provenance

/-- Every value of a payload has provenance, and all of it is untrusted, tainted and of no more
authority than a proposal. -/
structure Tainted (payload : CanonicalPayload) (provenance : List (PyStr × ProvenanceMeta)) :
    Prop where
  covered : ∀ key ∈ requiredProvenanceKeys payload, key ∈ names provenance
  untrusted : ∀ p ∈ provenance, p.2.trust = .untrusted
  tainted : ∀ p ∈ provenance, p.2.tainted = true
  authority : ∀ p ∈ provenance, p.2.authority.value ≤ AuthorityLevel.agentProposal.value

section Checks

variable {rt : Runtime} {descriptor : AdapterDescriptor} {result : TranslationResult}

lemma mem_marked {origin : PyStr} {keys : List PyStr} {p : PyStr × ProvenanceMeta}
    (h : p ∈ marked origin keys) : p.2 = externalProvenance origin := by
  obtain ⟨key, -, rfl⟩ := List.mem_map.mp h
  rfl

@[simp] lemma names_marked (origin : PyStr) (keys : List PyStr) :
    names (marked origin keys) = keys := by
  simp [names, marked, Function.comp_def]

/-- Marked values are tainted when the marks cover them. -/
lemma tainted_marked {payload : CanonicalPayload} {origin : PyStr} {keys : List PyStr}
    (h : requiredProvenanceKeys payload ⊆ keys) : Tainted payload (marked origin keys) := by
  refine ⟨fun key hkey => ?_, fun p hp => ?_, fun p hp => ?_, fun p hp => ?_⟩
  · rw [names_marked]
    exact h hkey
  · rw [mem_marked hp]
    rfl
  · rw [mem_marked hp]
    rfl
  · rw [mem_marked hp]
    rfl

lemma contained_checkProvenance (adapterId : String) (maxAuthority : AuthorityLevel)
    (provenance : List (PyStr × ProvenanceMeta)) :
    Contained (checkProvenance rt adapterId maxAuthority provenance) := by
  induction provenance with
  | nil => exact contained_pure ()
  | cons p rest ih =>
    simp only [checkProvenance]
    split_ifs
    · exact contained_refuse _ _
    · exact contained_refuse _ _
    · exact contained_refuse _ _
    · exact ih

lemma contained_checkResult : Contained (checkResult rt descriptor result) := by
  unfold checkResult
  dsimp only
  split_ifs
  · exact contained_refuse _ _
  · exact contained_refuse _ _
  · exact contained_refuse _ _
  · exact contained_checkProvenance _ _ _

/-- A tainted result passes. -/
lemma checkResult_of_tainted (hfamily : result.canonicalPayload.permitted descriptor.family = true)
    (hceiling : descriptor.emitsAuthority = .agentProposal) (hsome : result.provenance ≠ [])
    (h : Tainted result.canonicalPayload result.provenance) :
    checkResult rt descriptor result = .ok () := by
  have hloop : ∀ provenance : List (PyStr × ProvenanceMeta),
      (∀ p ∈ provenance, p ∈ result.provenance) →
      checkProvenance rt descriptor.adapterId .agentProposal provenance = .ok () := by
    intro provenance
    induction provenance with
    | nil => exact fun _ => rfl
    | cons p rest ih =>
      intro hmem
      have hp := hmem p List.mem_cons_self
      rw [checkProvenance, if_neg (Nat.not_lt.mpr (h.authority p hp)),
        if_neg (by simp [h.tainted p hp]), if_neg (by simp [h.untrusted p hp])]
      exact ih fun q hq => hmem q (List.mem_cons_of_mem _ hq)
  have hmissing : ((requiredProvenanceKeys result.canonicalPayload).filter fun key =>
      decide (key ∉ names result.provenance)) = [] :=
    List.filter_eq_nil_iff.mpr fun key hkey => by simpa using h.covered key hkey
  unfold checkResult
  dsimp only
  rw [hmissing, List.dedup_nil, if_neg (by simp [hfamily]), if_neg (by simpa using hsome),
    if_neg (by simp), hceiling]
  exact hloop _ fun p hp => hp

end Checks

end Adapters

end Pactra
