import Mathlib.Algebra.Group.Int.Defs
import Pactra.Adapters.Intent
import Pactra.Adapters.Mcp
import Pactra.Adapters.Payload

/-!
# Translation

`services/adapters/translate.py` and the registry: a payload becomes an envelope. The adapter is
looked up by its name and family, the version is checked before the payload is read, and what the
adapter returns is checked before the envelope is made.

## Main results

- `translate_contained_iff` — the payloads of which a translation does not end in a refusal
- `translation_lossless_and_tainted` — what adapters keep, and the provenance of all of it
-/

namespace Pactra

namespace Adapters

open Wire (names)

-- ════════════════════════════════════════════════════════════════════════
-- The registry
-- ════════════════════════════════════════════════════════════════════════

/-- The built-in adapters. -/
inductive Adapter where
  | commerce | intent | mcp
deriving DecidableEq

namespace Adapter

/-- The descriptor of an adapter. -/
def descriptor : Adapter → AdapterDescriptor
  | .commerce => Commerce.descriptor
  | .intent => Intent.descriptor
  | .mcp => Mcp.descriptor

/-- `translate_payload`. -/
def translatePayload (rt : Runtime) (source : SourceIdentity) :
    Adapter → Value → Except Failure TranslationResult
  | .commerce => Commerce.translatePayload rt
  | .intent => Intent.translatePayload rt source
  | .mcp => Mcp.translatePayload rt source

end Adapter

/-- `_ADAPTERS`, by the ids of the adapters. -/
def registered : List (String × Adapter) :=
  [Adapter.commerce, .intent, .mcp].map fun a => (a.descriptor.adapterId, a)

/-- `REGISTRY.get`. -/
def resolve (rt : Runtime) (adapterId : String) (family : AdapterFamily) :
    Except Failure Adapter :=
  match registered.lookup adapterId with
  | none => refuse .unknownAdapter ("no adapter registered as " ++ rt.repr adapterId)
  | some adapter =>
    if adapter.descriptor.family ≠ family then
      refuse .adapterFamilyMismatch
        ("adapter " ++ rt.repr adapterId ++ " is registered as "
          ++ adapter.descriptor.family.displayName ++ ", not " ++ family.displayName)
    else pure adapter

lemma resolve_descriptor (rt : Runtime) (adapter : Adapter) :
    resolve rt adapter.descriptor.adapterId adapter.descriptor.family = .ok adapter := by
  cases adapter <;> rfl

/-- `translate`. -/
def translate (rt : Runtime) (adapterId : String) (family : AdapterFamily)
    (protocolVersion : String) (payload : Payload) (source : SourceIdentity) :
    Except Failure AdapterEnvelope := do
  let adapter ← resolve rt adapterId family
  let descriptor := adapter.descriptor
  if protocolVersion ∉ descriptor.supportedProtocolVersions then
    refuse .unsupportedProtocolVersion
      ("adapter " ++ rt.repr adapterId ++ " does not support protocol version "
        ++ rt.repr protocolVersion ++ " (supported: "
        ++ joinComma (descriptor.supportedProtocolVersions.map PyStr.ofString) ++ ")")
  else do
    let (raw, parsed) ← asBytesAndObject rt payload
    let result ← adapter.translatePayload rt source parsed
    checkResult rt descriptor result
    pure
      { adapterId := descriptor.adapterId
        adapterFamily := descriptor.family
        protocolName := descriptor.protocolName
        protocolVersion := protocolVersion
        adapterVersion := descriptor.adapterVersion
        source := source
        rawReference := rawReference raw
        rawByteLength := raw.size
        canonicalPayload := result.canonicalPayload
        provenance := result.provenance
        warnings := result.warnings }

section Translate

variable {rt : Runtime} {source : SourceIdentity} {adapter : Adapter} {version : String}
  {payload : Payload} {document : Value} {result : TranslationResult}

/-- A translation by a built-in adapter at a version that it supports. -/
lemma translate_eq (hversion : version ∈ adapter.descriptor.supportedProtocolVersions) :
    translate rt adapter.descriptor.adapterId adapter.descriptor.family version payload source =
      (do
        let (raw, parsed) ← asBytesAndObject rt payload
        let result ← adapter.translatePayload rt source parsed
        checkResult rt adapter.descriptor result
        pure
          { adapterId := adapter.descriptor.adapterId
            adapterFamily := adapter.descriptor.family
            protocolName := adapter.descriptor.protocolName
            protocolVersion := version
            adapterVersion := adapter.descriptor.adapterVersion
            source := source
            rawReference := rawReference raw
            rawByteLength := raw.size
            canonicalPayload := result.canonicalPayload
            provenance := result.provenance
            warnings := result.warnings }) := by
  unfold translate
  rw [resolve_descriptor]
  exact if_neg (not_not.mpr hversion)

-- ════════════════════════════════════════════════════════════════════════
-- Refusals
-- ════════════════════════════════════════════════════════════════════════

/-- The documents of which a translation by an adapter does not end in a refusal. -/
def Adapter.Escapes (rt : Runtime) (source : SourceIdentity) : Adapter → Value → Prop
  | .commerce => Commerce.Escapes rt
  | .intent => Intent.Escapes rt source
  | .mcp => Mcp.Escapes rt source

lemma contained_translatePayload :
    Contained (adapter.translatePayload rt source document) ↔
      ¬adapter.Escapes rt source document := by
  cases adapter with
  | commerce => exact Commerce.contained_translatePayload
  | intent => exact Intent.contained_translatePayload
  | mcp => exact Mcp.contained_translatePayload

/-- A payload that cannot be encoded, or one that reads as a document of which the translation does
not end in a refusal. -/
def Escapes (rt : Runtime) (adapter : Adapter) (source : SourceIdentity) (payload : Payload) :
    Prop :=
  Unencodable rt payload ∨
    ∃ raw document, asBytesAndObject rt payload = .ok (raw, document) ∧
      adapter.Escapes rt source document

/-- A translation by a built-in adapter at a version that it supports ends in an envelope or in a
refusal, except for the payloads that escape. -/
theorem translate_contained_iff (rt : Runtime) (adapter : Adapter) (version : String)
    (hversion : version ∈ adapter.descriptor.supportedProtocolVersions) (payload : Payload)
    (source : SourceIdentity) :
    Contained (translate rt adapter.descriptor.adapterId adapter.descriptor.family version payload
      source) ↔ ¬Escapes rt adapter source payload := by
  rw [translate_eq hversion, contained_bind, contained_asBytesAndObject, Escapes, not_or]
  refine and_congr_right fun _ => ?_
  constructor
  · rintro h ⟨raw, document, hread, hescapes⟩
    exact contained_translatePayload.mp (contained_bind.mp (h _ hread)).1 hescapes
  · rintro h ⟨raw, document⟩ hread
    refine (contained_translatePayload.mpr fun hescapes => h ⟨raw, document, hread, hescapes⟩).bind
      fun result _ => contained_checkResult.bind fun _ _ => contained_pure _

end Translate

namespace Sample

/-- A text with its characters mapped. -/
def mapChars (f : Char → Char) (s : PyStr) : PyStr :=
  ⟨s.points.map fun point => match point with
    | .char c => .char (f c)
    | .surrogate offset => .surrogate offset⟩

/-- A runtime that knows one document, one time, and texts of letters, digits and punctuation. -/
def runtime (text : String) (document : Value) : Runtime where
  lower := mapChars Char.toLower
  upper := mapChars Char.toUpper
  isalnum
    | .char c => c.isAlphanum
    | .surrogate _ => false
  repr s := "'" ++ s.unicode.getD "" ++ "'"
  reprValue
    | .str s => "'" ++ s.unicode.getD "" ++ "'"
    | v => typeName v
  floatRepr _ := "0.0"
  nestingLimit := 1000
  parse s := if s = text then .ok document else .error "Expecting value"
  fromisoformat s :=
    if s = "2026-01-01T00:00:00+00:00" then some ⟨1767225600000000, some 0⟩ else none
  uuid _ := none

lemma parse_runtime (text : String) (document : Value) :
    (runtime text document).parse text = .ok document := if_pos rfl

/-- A caller. -/
def source : SourceIdentity where
  claimedId := "agent"
  channel := "http"
  claimedId_length := by decide
  channel_length := by decide

/-- A catalog with a price of 401 digits. -/
def costly : Value :=
  .obj [("merchant_id", .str "m"), ("offers", .arr [.obj [("merchant_id", .str "m"),
    ("product_id", .str "p"), ("title", .str "t"), ("price", .int (10 ^ 400))]])]

/-- The text of the catalog. -/
def costlyText : String :=
  "\x7b\"merchant_id\":\"m\",\"offers\":[\x7b\"merchant_id\":\"m\",\"product_id\":\"p\","
    ++ "\"title\":\"t\",\"price\":1" ++ String.ofList (List.replicate 400 '0') ++ "\x7d]\x7d"

/-- An intent with a field that the protocol does not define. -/
def intent : Value :=
  .obj [("merchant_id", .str "m"), ("product_id", .str "p"), ("quantity", .int 1),
    ("amount_inr", .int 100), ("currency", .str "INR"), ("note", .str "gift")]

/-- The text of the intent. -/
def intentText : String :=
  "\x7b\"merchant_id\":\"m\",\"product_id\":\"p\",\"quantity\":1,\"amount_inr\":100,"
    ++ "\"currency\":\"INR\",\"note\":\"gift\"\x7d"

lemma identityDetail_length :
    (Intent.identityDetail (runtime intentText intent) source.claimedId).length ≤ 400 := by
  decide +kernel

end Sample

lemma exists_translatePayload_intent : ∃ result, Adapter.intent.translatePayload
    (Sample.runtime Sample.intentText Sample.intent) Sample.source Sample.intent = .ok result := by
  obtain ⟨candidate, hread⟩ := exists_ok_of_isOk
    (show (Intent.readIntent (Sample.runtime Sample.intentText Sample.intent)
      Sample.intent).isOk = true by decide +kernel)
  exact Intent.exists_translatePayload hread Sample.identityDetail_length

/-- The bytes of a catalog with a price that is too large for a float. -/
theorem translate_overflows : ¬∀ (rt : Runtime) (adapter : Adapter) (version : String)
    (payload : Payload) (source : SourceIdentity),
    version ∈ adapter.descriptor.supportedProtocolVersions →
      Contained (translate rt adapter.descriptor.adapterId adapter.descriptor.family version payload
        source) := by
  intro h
  have hcontained := h (Sample.runtime Sample.costlyText Sample.costly) .commerce "1.0"
    (.bytes Sample.costlyText.toUTF8) Sample.source (by decide)
  rw [translate_eq (by decide)] at hcontained
  have hread := asBytesAndObject_utf8
    (by decide +kernel) (Sample.parse_runtime Sample.costlyText Sample.costly)
  refine not_contained_of_raisesOther ?_
    (contained_bind.mp ((contained_bind.mp hcontained).2 _ hread)).1
  decide +kernel

/-- The intent is translated. -/
theorem translate_contained_intent :
    Contained (translate (Sample.runtime Sample.intentText Sample.intent)
      "pactra.authorization-intent.v1" .paymentAuthorization "1.0"
      (.bytes Sample.intentText.toUTF8) Sample.source) := by
  refine (translate_contained_iff _ .intent "1.0" (by decide) _ Sample.source).mpr ?_
  rintro (hunencodable | ⟨raw, document, -, -, hlong⟩)
  · exact hunencodable
  · exact absurd Sample.identityDetail_length (Nat.not_le.mpr hlong)

-- ════════════════════════════════════════════════════════════════════════
-- What is kept
-- ════════════════════════════════════════════════════════════════════════

section Kept

variable {rt : Runtime} {source : SourceIdentity} {adapter : Adapter} {version : String}
  {payload : Payload} {document : Value} {result : TranslationResult}
  {canonical : CanonicalPayload}

/-- The documents that an adapter translates into a payload: every key of every object of them was
read as a field of the protocol, or is kept with its value. -/
def Adapter.Kept (rt : Runtime) : Adapter → Value → CanonicalPayload → Prop
  | .commerce, document, .catalog catalog => Commerce.CatalogKept rt document catalog
  | .intent, document, .authorizationRequest request => Intent.IntentKept rt document request
  | .mcp, document, .operation operation => Mcp.CallKept rt document operation
  | _, _, _ => False

lemma kept_commerce (h : Adapter.commerce.Kept rt document canonical) :
    ∃ catalog, canonical = .catalog catalog ∧ Commerce.CatalogKept rt document catalog := by
  cases canonical with
  | catalog catalog => exact ⟨catalog, rfl, h⟩
  | _ => exact h.elim

lemma kept_intent (h : Adapter.intent.Kept rt document canonical) :
    ∃ request, canonical = .authorizationRequest request ∧
      Intent.IntentKept rt document request := by
  cases canonical with
  | authorizationRequest request => exact ⟨request, rfl, h⟩
  | _ => exact h.elim

lemma kept_mcp (h : Adapter.mcp.Kept rt document canonical) :
    ∃ operation, canonical = .operation operation ∧ Mcp.CallKept rt document operation := by
  cases canonical with
  | operation operation => exact ⟨operation, rfl, h⟩
  | _ => exact h.elim

/-- The keys that a payload keeps. -/
def keptKeys : CanonicalPayload → List PyStr
  | .catalog catalog =>
    names catalog.untrustedMetadata ++ catalog.offers.flatMap fun o => names o.untrustedMetadata
  | .operation operation => names operation.arguments
  | .authorizationRequest request => names request.untrustedMetadata

/-- What is kept of an object that passed the checks on its keys is not reserved. -/
lemma Lossless.not_reserved {known : List PyStr} {members extras : List (PyStr × Value)}
    (h : Lossless known members extras) (hguard : guardPayloadKeys rt members = .ok ()) :
    ∀ key ∈ names extras, normalizeKey rt key ∉ reservedSecurityFields := by
  intro key hkey
  obtain ⟨p, hp, rfl⟩ := List.mem_map.mp hkey
  exact (guardPayloadKeys_ok.mp hguard).2 p.1 (List.mem_map_of_mem (h.unknown p hp).1)

/-- Every entry of a list that corresponds to another has a partner there. -/
lemma exists_left_of_forall₂ {α β : Type} {R : α → β → Prop} {as : List α} {bs : List β}
    (h : List.Forall₂ R as bs) : ∀ b ∈ bs, ∃ a ∈ as, R a b := by
  induction h with
  | nil => exact fun b hb => absurd hb List.not_mem_nil
  | cons hab _ ih =>
    intro b hb
    rcases List.mem_cons.mp hb with rfl | hb
    · exact ⟨_, List.mem_cons_self, hab⟩
    · obtain ⟨a, ha, hR⟩ := ih b hb
      exact ⟨a, List.mem_cons_of_mem _ ha, hR⟩

lemma Adapter.Kept.not_reserved
    (h : adapter.Kept rt document canonical) :
    ∀ key ∈ keptKeys canonical, normalizeKey rt key ∉ reservedSecurityFields := by
  cases adapter with
  | commerce =>
    obtain ⟨catalog, rfl, document, -, hread⟩ := kept_commerce h
    obtain ⟨rawOffers, -, hoffers⟩ := hread.offers
    intro key hkey
    rcases List.mem_append.mp hkey with hkey | hkey
    · exact hread.lossless.not_reserved hread.guarded key hkey
    · obtain ⟨offer, hoffer, hkey⟩ := List.mem_flatMap.mp hkey
      obtain ⟨entry, -, members, -, hread⟩ := exists_left_of_forall₂ hoffers offer hoffer
      exact hread.lossless.not_reserved hread.guarded key hkey
  | intent =>
    obtain ⟨request, rfl, document, -, hread⟩ := kept_intent h
    exact hread.lossless.not_reserved hread.guarded
  | mcp =>
    obtain ⟨operation, rfl, message, -, hread⟩ := kept_mcp h
    obtain ⟨params, -, hparams⟩ := hread.params
    obtain ⟨arguments, -, hguard, hlossless⟩ := hparams.arguments
    exact hlossless.not_reserved hguard

/-- What an adapter keeps of a document, and the provenance of it, which passes the check. -/
lemma translatePayload_ok (h : adapter.translatePayload rt source document = .ok result) :
    adapter.Kept rt document result.canonicalPayload ∧
      Tainted result.canonicalPayload result.provenance ∧
      checkResult rt adapter.descriptor result = .ok () := by
  cases adapter with
  | commerce =>
    obtain ⟨catalog, hpayload, hkept, hsome, htainted⟩ := Commerce.translatePayload_ok h
    refine ⟨?_, htainted, checkResult_of_tainted ?_ rfl hsome htainted⟩
    · rw [hpayload]
      exact hkept
    · rw [hpayload]
      rfl
  | intent =>
    obtain ⟨request, hpayload, hkept, hsome, htainted⟩ := Intent.translatePayload_ok h
    refine ⟨?_, htainted, checkResult_of_tainted ?_ rfl hsome htainted⟩
    · rw [hpayload]
      exact hkept
    · rw [hpayload]
      rfl
  | mcp =>
    obtain ⟨operation, hpayload, hkept, hsome, htainted⟩ := Mcp.translatePayload_ok h
    refine ⟨?_, htainted, checkResult_of_tainted ?_ rfl hsome htainted⟩
    · rw [hpayload]
      exact hkept
    · rw [hpayload]
      rfl

/-- An accepted payload was read as a document that the adapter translated. -/
lemma translate_ok (hversion : version ∈ adapter.descriptor.supportedProtocolVersions)
    {envelope : AdapterEnvelope}
    (h : translate rt adapter.descriptor.adapterId adapter.descriptor.family version payload source
      = .ok envelope) :
    ∃ raw document result, asBytesAndObject rt payload = .ok (raw, document) ∧
      adapter.translatePayload rt source document = .ok result ∧
      envelope.canonicalPayload = result.canonicalPayload ∧
      envelope.provenance = result.provenance := by
  rw [translate_eq hversion] at h
  obtain ⟨⟨raw, document⟩, hread, h⟩ := bind_ok.mp h
  obtain ⟨result, hresult, h⟩ := bind_ok.mp h
  obtain ⟨⟨⟩, -, hpure⟩ := bind_ok.mp h
  cases hpure
  exact ⟨raw, document, result, hread, hresult, rfl, rfl⟩

/-- The check after a translation does not stop it. -/
lemma translate_of_translatePayload
    (hversion : version ∈ adapter.descriptor.supportedProtocolVersions) {raw : ByteArray}
    (hread : asBytesAndObject rt payload = .ok (raw, document))
    (h : adapter.translatePayload rt source document = .ok result) :
    ∃ envelope, translate rt adapter.descriptor.adapterId adapter.descriptor.family version payload
        source = .ok envelope ∧
      envelope.canonicalPayload = result.canonicalPayload ∧
      envelope.provenance = result.provenance := by
  rw [translate_eq hversion]
  refine ⟨_, bind_ok.mpr ⟨_, hread, bind_ok.mpr ⟨_, h, bind_ok.mpr
    ⟨(), (translatePayload_ok h).2.2, rfl⟩⟩⟩, rfl, rfl⟩

/-- Translations are lossless, keep no reserved key, and are tainted throughout. The check after a
translation passes, so that the envelope has the payload and its provenance. -/
theorem translation_lossless_and_tainted (rt : Runtime) (source : SourceIdentity)
    (adapter : Adapter) (document : Value) (result : TranslationResult)
    (h : adapter.translatePayload rt source document = .ok result) :
    adapter.Kept rt document result.canonicalPayload ∧
      (∀ key ∈ keptKeys result.canonicalPayload, normalizeKey rt key ∉ reservedSecurityFields) ∧
      Tainted result.canonicalPayload result.provenance ∧
      checkResult rt adapter.descriptor result = .ok () ∧
      ∀ payload raw version, asBytesAndObject rt payload = .ok (raw, document) →
        version ∈ adapter.descriptor.supportedProtocolVersions →
        ∃ envelope, translate rt adapter.descriptor.adapterId adapter.descriptor.family version
            payload source = .ok envelope ∧
          envelope.canonicalPayload = result.canonicalPayload ∧
          envelope.provenance = result.provenance := by
  obtain ⟨hkept, htainted, hcheck⟩ := translatePayload_ok h
  exact ⟨hkept, hkept.not_reserved, htainted, hcheck, fun payload raw version hread hversion =>
    translate_of_translatePayload hversion hread h⟩

end Kept

namespace Sample

/-- An offer with an integer price, without a description, and with a color, which the protocol does
not define. -/
def lamp : Value :=
  .obj [("color", .str "red"), ("merchant_id", .str "m"), ("product_id", .str "p"),
    ("title", .str "Lamp"), ("price", .int 50), ("currency", .str "INR"),
    ("rating", .float (.finite 4)), ("in_stock", .bool true),
    ("offered_at", .str "2026-01-01T00:00:00+00:00"),
    ("claims", .obj [("hard_limit_inr", .int 900), ("tags", .arr [.str "new"])])]

/-- A catalog with the offer, and with a page, which the protocol does not define. -/
def catalog : Value :=
  .obj [("protocol", .str "pactra.commerce"), ("merchant_id", .str "m"), ("page", .int 1),
    ("offers", .arr [lamp])]

lemma readCatalog_catalog :
    Commerce.readCatalog (runtime "" catalog) catalog = .ok ("m", [lamp], [("page", .int 1)]) := by
  rfl

lemma exists_translateOffers_lamp :
    ∃ offers, Commerce.translateOffers (runtime "" catalog) 0 [lamp] = .ok offers :=
  exists_ok_of_isOk (show (Commerce.translateOffers (runtime "" catalog) 0 [lamp]).isOk = true by
    decide +kernel)

lemma identityDetail_m : (Commerce.identityDetail (runtime "" catalog) "m").length ≤ 400 := by
  decide +kernel

end Sample

/-- The page and the color are kept, and every other member is read into its place. -/
theorem translation_lossless_catalog :
    ∃ result, Adapter.commerce.translatePayload (Sample.runtime "" Sample.catalog) Sample.source
        Sample.catalog = .ok result ∧
      Adapter.commerce.Kept (Sample.runtime "" Sample.catalog) Sample.catalog
        result.canonicalPayload ∧
      (∀ key ∈ keptKeys result.canonicalPayload,
        normalizeKey (Sample.runtime "" Sample.catalog) key ∉ reservedSecurityFields) ∧
      Tainted result.canonicalPayload result.provenance ∧
      checkResult (Sample.runtime "" Sample.catalog) Adapter.commerce.descriptor result
        = .ok () := by
  obtain ⟨offers, hoffers⟩ := Sample.exists_translateOffers_lamp
  have hfits : ¬Unfit 120 "m" := by
    rw [← fits_eq_false (by decide)]
    decide
  obtain ⟨result, h⟩ := Commerce.exists_translatePayload Sample.readCatalog_catalog hoffers
    Sample.identityDetail_m hfits
  obtain ⟨hkept, hreserved, htainted, hcheck, -⟩ :=
    translation_lossless_and_tainted _ Sample.source .commerce _ _ h
  exact ⟨result, h, hkept, hreserved, htainted, hcheck⟩

end Adapters

end Pactra
