import Pactra.Adapters.Commerce

/-!
# Authorization intents

`services/adapters/authorization/pactra_intent.py`: an external authorization intention becomes a
candidate request. Amounts and quantities are JSON integers, and a reference to an external
authorization is carried as it is.

## Main results

- `Intent.contained_translatePayload` — the intents of which a translation does not end in a refusal
- `Intent.IntentRead` — every field of the protocol is read into its place
- `Intent.translatePayload_ok` — what a translation keeps
-/

namespace Pactra

namespace Adapters

namespace Intent

open Wire (names)

/-- `DESCRIPTOR`. -/
def descriptor : AdapterDescriptor where
  adapterId := "pactra.authorization-intent.v1"
  family := .paymentAuthorization
  protocolName := "pactra.authorization-intent"
  supportedProtocolVersions := ["1.0"]
  adapterVersion := "pactra-authorization-intent-v1"

/-- `INTENT_FIELDS`. -/
def intentFields : List PyStr :=
  ["protocol", "mission_id", "merchant_id", "product_id", "quantity", "amount_inr", "currency",
   "expires_at", "external_authorization_reference"]

/-- `_require_int`. -/
def requireInt (rt : Runtime) (members : List (PyStr × Value)) (key : String) :
    Except Failure Int :=
  match memberAt members key with
  | some (.int n) => pure n
  | _ =>
    malformed ("field " ++ rt.repr key ++ " must be a JSON integer, not "
      ++ typeNameAt members key ++ " — a protocol boundary does not coerce money or quantity")

/-- `_optional_timestamp`. -/
def optionalTimestamp (rt : Runtime) (members : List (PyStr × Value)) (key : String) :
    Except Failure (Option IsoDatetime) :=
  match memberAt members key with
  | none => pure none
  | some .null => pure none
  | some (.str s) =>
    match rt.fromisoformat s with
    | none => malformed ("field " ++ rt.repr key ++ " is not a valid ISO-8601 timestamp")
    | some parsed =>
      if parsed.utcoffset.isNone then
        malformed ("field " ++ rt.repr key
          ++ " has no UTC offset; a naive expiry has no single instant")
      else pure (some parsed)
  | some v =>
    malformed ("field " ++ rt.repr key ++ " must be an ISO-8601 string, not " ++ typeName v)

/-- The mission that an intent names, if any. -/
def missionIdOf (rt : Runtime) (members : List (PyStr × Value)) : Except Failure (Option Uuid) :=
  match memberAt members "mission_id" with
  | none => pure none
  | some .null => pure none
  | some (.str s) =>
    match rt.uuid s with
    | none => malformed "field 'mission_id' must be a valid UUID string"
    | some id => pure (some id)
  | some _ => malformed "field 'mission_id' must be a UUID string or absent"

/-- The external reference of an intent, if any. -/
def referenceOf (members : List (PyStr × Value)) : Except Failure (Option PyStr) :=
  match memberAt members "external_authorization_reference" with
  | none => pure none
  | some .null => pure none
  | some (.str s) => pure (some s)
  | some _ => malformed "field 'external_authorization_reference' must be a string or absent"

/-- The number of fields that violate the constraints of `CandidateAuthorizationRequest`. -/
def constraintViolations (c : CandidateAuthorizationRequest) : Nat :=
  [fits 1 120 c.claimedMerchantId,
    fits 1 120 c.claimedProductId,
    decide (1 ≤ c.claimedQuantity ∧ c.claimedQuantity ≤ 100), decide (1 ≤ c.claimedAmountInr),
    fits 3 3 c.claimedCurrency,
    c.externalAuthorizationReference.all (fits 0 400)].countP (!·)

/-- Everything before the warnings: the candidate. The currency is upper-cased after its length was
checked. -/
def readIntent (rt : Runtime) (payload : Value) : Except Failure CandidateAuthorizationRequest := do
  let document ← requireObject payload "an authorization intent"
  guardPayloadKeys rt document
  checkProtocol rt descriptor.protocolName document
  let missionId ← missionIdOf rt document
  let reference ← referenceOf document
  let merchantId ← requireStr rt "field" document "merchant_id"
  let productId ← requireStr rt "field" document "product_id"
  let quantity ← requireInt rt document "quantity"
  let amount ← requireInt rt document "amount_inr"
  let currency ← requireStr rt "field" document "currency"
  let expiresAt ← optionalTimestamp rt document "expires_at"
  let extras ← unknownFields rt intentFields "" document
  let candidate : CandidateAuthorizationRequest :=
    { missionId := missionId, claimedMerchantId := merchantId, claimedProductId := productId
      claimedQuantity := quantity, claimedAmountInr := amount, claimedCurrency := currency
      claimedExpiresAt := expiresAt, externalAuthorizationReference := reference
      untrustedMetadata := extras }
  if constraintViolations candidate ≠ 0 then
    malformed ("authorization intent failed candidate validation: "
      ++ toString (constraintViolations candidate) ++ " constraint violation(s)")
  else pure { candidate with claimedCurrency := rt.upper currency }

/-- The text of the warning that the caller is not authenticated. -/
def identityDetail (rt : Runtime) (claimedId : String) : String :=
  "the caller claimed to be " ++ rt.repr claimedId
    ++ "; PACTRA authenticates no protocol channel, so this candidate authorizes nothing on its own"

/-- The warnings of a translation. -/
def warningsFor (rt : Runtime) (claimedId : String) (c : CandidateAuthorizationRequest) :
    Except Failure (List AdapterWarning) := do
  let identity ← adapterWarning .claimedIdentityNotAuthenticated (identityDetail rt claimedId)
  let reference ← adapterWarning .externalAuthorizationReferenceNotVerified
    ("an external authorization reference was carried through unverified: "
      ++ "PACTRA has no verifier for this external reference, so it is a "
      ++ "correlation handle and never evidence of approval")
  let unknown ← unknownFieldsWarning
  pure (identity
    :: (if c.externalAuthorizationReference.isSome then [reference] else [])
      ++ if c.untrustedMetadata.isEmpty then [] else [unknown])

/-- The keys that get provenance. -/
def provenanceKeys (c : CandidateAuthorizationRequest) : List PyStr :=
  (["mission_id", "claimed_merchant_id", "claimed_product_id", "claimed_quantity",
    "claimed_amount_inr", "claimed_currency", "claimed_expires_at"] : List PyStr)
    ++ keysWhen c.externalAuthorizationReference.isSome ["external_authorization_reference"]
    ++ keysWhen (!c.untrustedMetadata.isEmpty) ["untrusted_metadata"]

/-- `translate_payload`. -/
def translatePayload (rt : Runtime) (source : SourceIdentity) (payload : Value) :
    Except Failure TranslationResult := do
  let candidate ← readIntent rt payload
  let warnings ← warningsFor rt source.claimedId candidate
  pure
    { canonicalPayload := .authorizationRequest candidate
      provenance := marked (provenanceSource descriptor.adapterId source.claimedId)
        (provenanceKeys candidate)
      warnings := warnings }

-- ════════════════════════════════════════════════════════════════════════
-- Refusals
-- ════════════════════════════════════════════════════════════════════════

section Refusals

variable {rt : Runtime} {members : List (PyStr × Value)}

lemma contained_requireInt (key : String) : Contained (requireInt rt members key) := by
  unfold requireInt
  split
  · exact contained_pure _
  · exact contained_malformed _

lemma contained_optionalTimestamp (key : String) :
    Contained (optionalTimestamp rt members key) := by
  unfold optionalTimestamp
  split
  · exact contained_pure _
  · exact contained_pure _
  · split
    · exact contained_malformed _
    · split
      · exact contained_malformed _
      · exact contained_pure _
  · exact contained_malformed _

lemma contained_missionIdOf : Contained (missionIdOf rt members) := by
  unfold missionIdOf
  split
  · exact contained_pure _
  · exact contained_pure _
  · split
    · exact contained_malformed _
    · exact contained_pure _
  · exact contained_malformed _

lemma contained_referenceOf : Contained (referenceOf members) := by
  unfold referenceOf
  split
  · exact contained_pure _
  · exact contained_pure _
  · exact contained_pure _
  · exact contained_malformed _

lemma contained_readIntent (payload : Value) : Contained (readIntent rt payload) := by
  refine (contained_requireObject _ _).bind fun document _ =>
    (contained_guardPayloadKeys _).bind fun _ _ => (contained_checkProtocol _).bind fun _ _ =>
    contained_missionIdOf.bind fun _ _ => contained_referenceOf.bind fun _ _ =>
    (contained_requireStr _ _).bind fun _ _ => (contained_requireStr _ _).bind fun _ _ =>
    (contained_requireInt _).bind fun _ _ => (contained_requireInt _).bind fun _ _ =>
    (contained_requireStr _ _).bind fun _ _ => (contained_optionalTimestamp _).bind fun _ _ =>
    contained_unknownFields.bind fun _ _ => ?_
  dsimp only
  split
  · exact contained_malformed _
  · exact contained_pure _

/-- The warnings are made unless the text that names the caller is too long. -/
lemma warningsFor_cases (rt : Runtime) (claimedId : String) (c : CandidateAuthorizationRequest) :
    ((identityDetail rt claimedId).length ≤ 400 ∧
        ∃ warnings, warningsFor rt claimedId c = .ok warnings) ∨
      (400 < (identityDetail rt claimedId).length ∧
        warningsFor rt claimedId c = .error (.escaped (.validationError "AdapterWarning"))) := by
  have hidentity : 1 ≤ (identityDetail rt claimedId).length := by
    have hprefix : 1 ≤ "the caller claimed to be ".length := by decide
    exact one_le_length_append (one_le_length_append hprefix)
  obtain ⟨reference, hreference⟩ := adapterWarning_ok .externalAuthorizationReferenceNotVerified
    (show _ ∧ ("an external authorization reference was carried through unverified: "
      ++ "PACTRA has no verifier for this external reference, so it is a "
      ++ "correlation handle and never evidence of approval").length ≤ 400 by
      rw [String.length_append, String.length_append]
      decide)
  obtain ⟨unknown, hunknown⟩ := unknownFieldsWarning_ok
  rcases adapterWarning_cases .claimedIdentityNotAuthenticated hidentity with
    ⟨hlength, identity, hok⟩ | ⟨hlength, herror⟩
  · refine .inl ⟨hlength, ?_⟩
    unfold warningsFor
    rw [hok, hreference, hunknown]
    exact ⟨_, rfl⟩
  · refine .inr ⟨hlength, ?_⟩
    unfold warningsFor
    rw [herror]
    rfl

/-- An intent that passes every check, of a caller whose claimed identity is too long for the warning
that names it. -/
def Escapes (rt : Runtime) (source : SourceIdentity) (payload : Value) : Prop :=
  (∃ candidate, readIntent rt payload = .ok candidate) ∧
    400 < (identityDetail rt source.claimedId).length

/-- The only way in which a translation does not end in a refusal. -/
lemma contained_translatePayload {source : SourceIdentity} {payload : Value} :
    Contained (translatePayload rt source payload) ↔ ¬Escapes rt source payload := by
  unfold translatePayload Escapes
  simp only [contained_bind, contained_readIntent, contained_pure, implies_true, and_true, true_and]
  constructor
  · rintro h ⟨⟨candidate, hread⟩, hlong⟩
    rcases warningsFor_cases rt source.claimedId candidate with ⟨hshort, -⟩ | ⟨-, herror⟩
    · omega
    · exact h candidate hread _ herror
  · intro h candidate hread
    rcases warningsFor_cases rt source.claimedId candidate with ⟨-, warnings, hok⟩ | ⟨hlong, -⟩
    · rw [hok]
      exact contained_ok _
    · exact (h ⟨⟨candidate, hread⟩, hlong⟩).elim

/-- An intent that passes every check is translated, unless the warning is too long. -/
lemma exists_translatePayload {source : SourceIdentity} {payload : Value}
    {candidate : CandidateAuthorizationRequest} (hread : readIntent rt payload = .ok candidate)
    (hshort : (identityDetail rt source.claimedId).length ≤ 400) :
    ∃ result, translatePayload rt source payload = .ok result := by
  rcases warningsFor_cases rt source.claimedId candidate with ⟨-, warnings, hok⟩ | ⟨hlong, -⟩
  · exact ⟨_, bind_ok.mpr ⟨candidate, hread, bind_ok.mpr ⟨warnings, hok, rfl⟩⟩⟩
  · omega

-- ════════════════════════════════════════════════════════════════════════
-- Results
-- ════════════════════════════════════════════════════════════════════════

lemma requireInt_ok {key : String} {n : Int} (h : requireInt rt members key = .ok n) :
    memberAt members key = some (.int n) := by
  unfold requireInt at h
  split at h
  · next m hm =>
    cases h
    exact hm
  · cases h

/-- The value that a field states, or none of an absent field. -/
def OptionalAt {α : Type} (Reads : PyStr → α → Prop) (members : List (PyStr × Value)) (key : String)
    (a : Option α) : Prop :=
  (Absent members key ∧ a = none) ∨
    ∃ s b, memberAt members key = some (.str s) ∧ Reads s b ∧ a = some b

lemma missionIdOf_ok {missionId : Option Uuid} (h : missionIdOf rt members = .ok missionId) :
    OptionalAt (fun s id => rt.uuid s = some id) members "mission_id" missionId := by
  unfold missionIdOf at h
  split at h
  · next hnone =>
    cases h
    exact .inl ⟨.inl hnone, rfl⟩
  · next hnull =>
    cases h
    exact .inl ⟨.inr hnull, rfl⟩
  · next s hs =>
    split at h
    · cases h
    · next id hid =>
      cases h
      exact .inr ⟨s, id, hs, hid, rfl⟩
  · cases h

lemma referenceOf_ok {reference : Option PyStr} (h : referenceOf members = .ok reference) :
    OptionalAt Eq members "external_authorization_reference" reference := by
  unfold referenceOf at h
  split at h
  · next hnone =>
    cases h
    exact .inl ⟨.inl hnone, rfl⟩
  · next hnull =>
    cases h
    exact .inl ⟨.inr hnull, rfl⟩
  · next s hs =>
    cases h
    exact .inr ⟨s, s, hs, rfl, rfl⟩
  · cases h

lemma optionalTimestamp_ok {key : String} {t : Option IsoDatetime}
    (h : optionalTimestamp rt members key = .ok t) :
    OptionalAt (fun s parsed => rt.fromisoformat s = some parsed ∧ parsed.utcoffset ≠ none) members key
      t := by
  unfold optionalTimestamp at h
  split at h
  · next hnone =>
    cases h
    exact .inl ⟨.inl hnone, rfl⟩
  · next hnull =>
    cases h
    exact .inl ⟨.inr hnull, rfl⟩
  · next s hs =>
    split at h
    · cases h
    · next parsed hparsed =>
      split at h
      · cases h
      · next hoffset =>
        cases h
        exact .inr ⟨s, parsed, hs, ⟨hparsed, fun hnone => hoffset (by rw [hnone]; rfl)⟩, rfl⟩
  · cases h

/-- A candidate request says what the members of a document state: every field of the protocol is
read into its place, the currency in upper case, and every other member is kept. -/
structure IntentRead (rt : Runtime) (document : List (PyStr × Value))
    (c : CandidateAuthorizationRequest) : Prop where
  guarded : guardPayloadKeys rt document = .ok ()
  lossless : Lossless intentFields document c.untrustedMetadata
  protocol : Absent document "protocol" ∨
    memberAt document "protocol" = some (.str descriptor.protocolName)
  missionId : OptionalAt (fun s id => rt.uuid s = some id) document "mission_id" c.missionId
  merchantId : memberAt document "merchant_id" = some (.str c.claimedMerchantId)
  productId : memberAt document "product_id" = some (.str c.claimedProductId)
  quantity : memberAt document "quantity" = some (.int c.claimedQuantity)
  amount : memberAt document "amount_inr" = some (.int c.claimedAmountInr)
  currency : ∃ s, memberAt document "currency" = some (.str s) ∧ c.claimedCurrency = rt.upper s
  expiresAt : OptionalAt (fun s t => rt.fromisoformat s = some t ∧ t.utcoffset ≠ none) document
    "expires_at" c.claimedExpiresAt
  reference : OptionalAt Eq document "external_authorization_reference"
    c.externalAuthorizationReference

/-- A document that was translated into a candidate request. -/
def IntentKept (rt : Runtime) (payload : Value) (candidate : CandidateAuthorizationRequest) : Prop :=
  ∃ document, payload = .obj document ∧ IntentRead rt document candidate

lemma readIntent_ok {payload : Value} {candidate : CandidateAuthorizationRequest}
    (h : readIntent rt payload = .ok candidate) : IntentKept rt payload candidate := by
  obtain ⟨document, hobject, h⟩ := bind_ok.mp h
  obtain ⟨⟨⟩, hguard, h⟩ := bind_ok.mp h
  obtain ⟨⟨⟩, hprotocol, h⟩ := bind_ok.mp h
  obtain ⟨missionId, hmissionId, h⟩ := bind_ok.mp h
  obtain ⟨reference, hreference, h⟩ := bind_ok.mp h
  obtain ⟨merchantId, hmerchantId, h⟩ := bind_ok.mp h
  obtain ⟨productId, hproductId, h⟩ := bind_ok.mp h
  obtain ⟨quantity, hquantity, h⟩ := bind_ok.mp h
  obtain ⟨amount, hamount, h⟩ := bind_ok.mp h
  obtain ⟨currency, hcurrency, h⟩ := bind_ok.mp h
  obtain ⟨expiresAt, hexpiresAt, h⟩ := bind_ok.mp h
  obtain ⟨extras, hextras, h⟩ := bind_ok.mp h
  dsimp only at h
  split at h
  · cases h
  · cases h
    exact ⟨document, requireObject_ok.mp hobject,
      { guarded := hguard
        lossless := lossless_of_unknownFields hextras
        protocol := checkProtocol_ok hprotocol
        missionId := missionIdOf_ok hmissionId
        merchantId := (requireStr_ok.mp hmerchantId).1
        productId := (requireStr_ok.mp hproductId).1
        quantity := requireInt_ok hquantity
        amount := requireInt_ok hamount
        currency := ⟨currency, (requireStr_ok.mp hcurrency).1, rfl⟩
        expiresAt := optionalTimestamp_ok hexpiresAt
        reference := referenceOf_ok hreference }⟩

/-- What a translation keeps, and the provenance of all of it. -/
lemma translatePayload_ok {source : SourceIdentity} {payload : Value} {result : TranslationResult}
    (h : translatePayload rt source payload = .ok result) :
    ∃ candidate, result.canonicalPayload = .authorizationRequest candidate ∧
      IntentKept rt payload candidate ∧ result.provenance ≠ [] ∧
      Tainted result.canonicalPayload result.provenance := by
  obtain ⟨candidate, hread, h⟩ := bind_ok.mp h
  obtain ⟨warnings, -, hpure⟩ := bind_ok.mp h
  cases hpure
  refine ⟨candidate, rfl, readIntent_ok hread, by simp [marked, provenanceKeys], tainted_marked ?_⟩
  intro key hkey
  simp only [requiredProvenanceKeys, List.mem_append] at hkey
  simp only [provenanceKeys, List.mem_append]
  rcases hkey with (((hclaims | hmission) | hexpires) | hreference) | hmetadata
  · have hfields := List.mem_append_left (["claimed_expires_at"] : List PyStr) hclaims
    exact .inl (.inl (List.mem_cons_of_mem _ hfields))
  · obtain rfl := mem_keysWhen hmission
    exact .inl (.inl List.mem_cons_self)
  · obtain rfl := mem_keysWhen hexpires
    exact .inl (.inl (by simp))
  · exact .inl (.inr hreference)
  · exact .inr hmetadata

end Refusals

end Intent

end Adapters

end Pactra
