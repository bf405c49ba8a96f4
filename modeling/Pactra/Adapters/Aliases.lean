import Pactra.Adapters.Translate

/-!
# Fields that are stated twice

The checks on the keys of an object see what the decoder made of it. Names that differ only in case
or separators are refused there. Of a name that is repeated in the same spelling the decoder has
kept the last value, so the checks do not see the others.

## Main results

- `stated_once_iff` — the accepted documents that state no field twice
-/

namespace Pactra

namespace Adapters

open Wire (names decode decodeItems decodeMembers)

/-- The values that an object states for a name. -/
def valuesAt (members : List (PyStr × Value)) (name : PyStr) : List Value :=
  members.filterMap fun p => if p.1 = name then some p.2 else none

/-- The members of a value, when it is an object. -/
def objectOf : Value → Option (List (PyStr × Value))
  | .obj members => some members
  | _ => none

/-- The items of a value, when it is an array. -/
def itemsOf : Value → List Value
  | .arr items => items
  | _ => []

/-- The objects of a document, as it is written, whose keys an adapter checks for aliases. -/
def Adapter.guarded : Adapter → Value → List (List (PyStr × Value))
  | .commerce, .obj members =>
    members :: (valuesAt members "offers").flatMap fun v => (itemsOf v).filterMap objectOf
  | .intent, .obj members => [members]
  | .mcp, .obj members =>
    members :: (valuesAt members "params").flatMap fun v =>
      match objectOf v with
      | none => []
      | some params => params :: (valuesAt params "arguments").filterMap objectOf
  | _, _ => []

/-- No two members of an object have names with one normal form. -/
def StatedOnce (rt : Runtime) (members : List (PyStr × Value)) : Prop :=
  ((names members).map (normalizeKey rt)).Nodup

section Stated

variable {rt : Runtime} {members : List (PyStr × Value)} {name : PyStr}

/-- Of a name that is stated once, the value is the one that is looked up. -/
lemma valuesAt_of_nodup (h : (names members).Nodup) {v : Value} (hv : v ∈ valuesAt members name) :
    memberAt members name = some v := by
  induction members with
  | nil => simp [valuesAt] at hv
  | cons p rest ih =>
    obtain ⟨k, w⟩ := p
    have hnodup : k ∉ names rest ∧ (names rest).Nodup := List.nodup_cons.mp h
    by_cases hk : k = name
    · subst hk
      have hnone : valuesAt rest k = [] := by
        refine List.filterMap_eq_nil_iff.mpr fun q hq => ?_
        have hq : q.1 ≠ k := fun heq => hnodup.1 (heq ▸ List.mem_map_of_mem hq)
        exact if_neg hq
      have hv : v ∈ w :: valuesAt rest k := by simpa [valuesAt] using hv
      rw [hnone, List.mem_singleton] at hv
      simp [memberAt, hv]
    · have hv : v ∈ valuesAt rest name := by simpa [valuesAt, hk] using hv
      have hname : (name == k) = false := beq_false_of_ne (Ne.symm hk)
      simpa [memberAt, List.lookup_cons, hname] using ih hnodup.2 hv

lemma memberAt_decodeMembers :
    memberAt (decodeMembers members) name = (memberAt members name).map decode := by
  induction members with
  | nil => rfl
  | cons p rest ih =>
    obtain ⟨k, w⟩ := p
    by_cases hk : name = k
    · subst hk
      simp [decodeMembers, memberAt]
    · have hname : (name == k) = false := beq_false_of_ne hk
      simpa [decodeMembers, memberAt, List.lookup_cons, hname] using ih

/-- Members with distinct names are decoded one by one. -/
lemma decode_obj (h : (names members).Nodup) : decode (.obj members) = .obj (decodeMembers members) := by
  rw [decode, Wire.mapping_eq_self (by rwa [Wire.names_decodeMembers])]

/-- An object whose names are distinct and whose decoded form passes the checks. -/
lemma statedOnce_of_decoded (h : (names members).Nodup) {decoded : List (PyStr × Value)}
    (hdecoded : decode (.obj members) = .obj decoded)
    (hguard : guardPayloadKeys rt decoded = .ok ()) : StatedOnce rt members := by
  obtain rfl : decodeMembers members = decoded := by
    rw [decode_obj h] at hdecoded
    exact Wire.Value.obj.inj hdecoded
  have hnodup := (guardPayloadKeys_ok.mp hguard).1
  rwa [Wire.names_decodeMembers] at hnodup

lemma mem_decodeItems {items : List Value} {v : Value} (h : v ∈ items) :
    decode v ∈ decodeItems items := by
  induction items with
  | nil => cases h
  | cons w rest ih =>
    rcases List.mem_cons.mp h with rfl | h
    · exact List.mem_cons_self
    · exact List.mem_cons_of_mem _ (ih h)


/-- The catalog document of an accepted payload. -/
lemma statedOnce_commerce {document : Value} {catalog : CandidateCommerceCatalog}
    (hkept : Commerce.CatalogKept rt (decode document) catalog)
    (hnodup : ∀ members ∈ Adapter.commerce.guarded document, (names members).Nodup) :
    ∀ members ∈ Adapter.commerce.guarded document, StatedOnce rt members := by
  obtain ⟨decoded, hdecoded, hread⟩ := hkept
  obtain ⟨rawOffers, hoffers, hpairs⟩ := hread.offers
  cases document with
  | obj top =>
    have htop : (names top).Nodup := hnodup top List.mem_cons_self
    intro members hmem
    have hmembers := hnodup members hmem
    rcases List.mem_cons.mp hmem with rfl | hmem
    · exact statedOnce_of_decoded htop hdecoded hread.guarded
    · obtain ⟨v, hv, hmem⟩ := List.mem_flatMap.mp hmem
      obtain ⟨entry, hentry, hobject⟩ := List.mem_filterMap.mp hmem
      -- The array that was translated is the decoded form of the only one that is stated.
      have harray : decode v = .arr rawOffers := by
        rw [decode_obj htop] at hdecoded
        rw [← Wire.Value.obj.inj hdecoded, memberAt_decodeMembers, valuesAt_of_nodup htop hv] at hoffers
        exact Option.some.inj hoffers
      obtain ⟨items, rfl, hitems⟩ : ∃ items, v = .arr items ∧ decodeItems items = rawOffers := by
        cases v with
        | arr items => exact ⟨items, rfl, Wire.Value.arr.inj harray⟩
        | _ => simp [decode] at harray
      obtain rfl : entry = .obj members := by
        cases entry with
        | obj inner =>
          rw [Option.some.inj hobject]
        | _ => cases hobject
      have hentry : decode (.obj members) ∈ rawOffers := hitems ▸ mem_decodeItems hentry
      have hflip := List.Forall₂.flip (R := flip (Commerce.OfferKept rt)) hpairs
      obtain ⟨offer, -, inner, hinner, hread⟩ := exists_left_of_forall₂ hflip _ hentry
      exact statedOnce_of_decoded hmembers hinner hread.guarded
  | _ => exact fun members hmem => absurd hmem List.not_mem_nil

/-- The request of an accepted payload. -/
lemma statedOnce_mcp {document : Value} {operation : CandidateOperation}
    (hkept : Mcp.CallKept rt (decode document) operation)
    (hnodup : ∀ members ∈ Adapter.mcp.guarded document, (names members).Nodup) :
    ∀ members ∈ Adapter.mcp.guarded document, StatedOnce rt members := by
  obtain ⟨decoded, hdecoded, hread⟩ := hkept
  obtain ⟨params, hparams, hcall⟩ := hread.params
  obtain ⟨arguments, harguments, hguardArguments, -⟩ := hcall.arguments
  cases document with
  | obj top =>
    have htop : (names top).Nodup := hnodup top List.mem_cons_self
    intro members hmem
    have hmembers := hnodup members hmem
    rcases List.mem_cons.mp hmem with rfl | hmem'
    · exact statedOnce_of_decoded htop hdecoded hread.guarded
    · obtain ⟨v, hv, hmem'⟩ := List.mem_flatMap.mp hmem'
      have hvalue : decode v = .obj params := by
        rw [decode_obj htop] at hdecoded
        rw [← Wire.Value.obj.inj hdecoded, memberAt_decodeMembers, valuesAt_of_nodup htop hv] at hparams
        exact Option.some.inj hparams
      cases v with
      | obj written =>
        rcases List.mem_cons.mp hmem' with rfl | hinner
        · exact statedOnce_of_decoded hmembers hvalue hcall.guarded
        · have hwritten : (names written).Nodup :=
            hnodup written (List.mem_cons_of_mem _ (List.mem_flatMap.mpr
              ⟨.obj written, hv, List.mem_cons_self⟩))
          obtain ⟨w, hw, hobject⟩ := List.mem_filterMap.mp hinner
          obtain rfl : w = .obj members := by
            cases w with
            | obj inner =>
              rw [Option.some.inj hobject]
            | _ => cases hobject
          have hargument : decode (.obj members) = .obj arguments := by
            rw [decode_obj hwritten] at hvalue
            have hstated : memberAt params "arguments" = some (decode (.obj members)) := by
              rw [← Wire.Value.obj.inj hvalue, memberAt_decodeMembers, valuesAt_of_nodup hwritten hw]
              rfl
            rw [Absent, hstated] at harguments
            rcases harguments with harguments | ⟨habsent | hnull, -⟩
            · exact Option.some.inj harguments
            · cases habsent
            · simp [decode] at hnull
          exact statedOnce_of_decoded hmembers hargument hguardArguments
      | _ => exact absurd hmem' List.not_mem_nil
  | _ => exact fun members hmem => absurd hmem List.not_mem_nil

/-- An accepted document states no field twice exactly if none of the objects that are checked for
aliases has a name twice in the same spelling: the decoder keeps the last value of such a name, so
that the checks do not see the others. -/
theorem stated_once_iff (rt : Runtime) (source : SourceIdentity) (adapter : Adapter)
    (version : String) (hversion : version ∈ adapter.descriptor.supportedProtocolVersions)
    (raw : ByteArray) (text : String) (htext : String.fromUTF8? raw = some text) (document : Value)
    (hdocument : rt.parse text = .ok document) (envelope : AdapterEnvelope)
    (h : translate rt adapter.descriptor.adapterId adapter.descriptor.family version (.bytes raw)
      source = .ok envelope) :
    (∀ members ∈ adapter.guarded document, StatedOnce rt members) ↔
      ∀ members ∈ adapter.guarded document, (names members).Nodup := by
  constructor
  · exact fun hstated members hmem => List.Nodup.of_map _ (hstated members hmem)
  · intro hnodup
    obtain ⟨raw', parsed, result, hread, hresult, -, -⟩ := translate_ok hversion h
    obtain rfl : parsed = decode document := by
      obtain ⟨bytes, hbytes, hread⟩ := bind_ok.mp hread
      cases hbytes
      split at hread
      · cases hread
      · obtain ⟨value, hloads, hpure⟩ := bind_ok.mp hread
        cases hpure
        simp only [loads, htext, hdocument] at hloads
        exact (Except.ok.inj hloads).symm
    have hkept := (translatePayload_ok hresult).1
    cases adapter with
    | commerce =>
      obtain ⟨catalog, -, hkept⟩ := kept_commerce hkept
      exact statedOnce_commerce hkept hnodup
    | intent =>
      obtain ⟨request, -, decoded, hdecoded, hintent⟩ := kept_intent hkept
      cases document with
      | obj top =>
        intro members hmem
        have hmembers := hnodup members hmem
        obtain rfl := List.mem_singleton.mp hmem
        exact statedOnce_of_decoded hmembers hdecoded hintent.guarded
      | _ => exact fun members hmem => absurd hmem List.not_mem_nil
    | mcp =>
      obtain ⟨operation, -, hkept⟩ := kept_mcp hkept
      exact statedOnce_mcp hkept hnodup

end Stated

namespace Sample

/-- An intent that names two merchants. -/
def twice : Value :=
  .obj [("merchant_id", .str "a"), ("merchant_id", .str "b"), ("product_id", .str "p"),
    ("quantity", .int 1), ("amount_inr", .int 100), ("currency", .str "INR")]

/-- The text of the intent. -/
def twiceText : String :=
  "\x7b\"merchant_id\":\"a\",\"merchant_id\":\"b\",\"product_id\":\"p\",\"quantity\":1,"
    ++ "\"amount_inr\":100,\"currency\":\"INR\"\x7d"

lemma translate_twice : ∃ envelope, translate (runtime twiceText twice)
    Adapter.intent.descriptor.adapterId Adapter.intent.descriptor.family "1.0"
    (.bytes twiceText.toUTF8) source = .ok envelope := by
  have hread := asBytesAndObject_utf8 (by decide) (parse_runtime twiceText twice)
  obtain ⟨candidate, hcandidate⟩ := exists_ok_of_isOk
    (show (Intent.readIntent (runtime twiceText twice) (decode twice)).isOk = true by
      decide)
  obtain ⟨result, hresult⟩ := Intent.exists_translatePayload hcandidate identityDetail_length
  have hversion : "1.0" ∈ Adapter.intent.descriptor.supportedProtocolVersions := by decide
  obtain ⟨envelope, h, -⟩ := translate_of_translatePayload hversion hread hresult
  exact ⟨envelope, h⟩

end Sample

/-- The intent that names two merchants is accepted. -/
theorem accepted_twice : ¬∀ (rt : Runtime) (source : SourceIdentity) (adapter : Adapter)
    (version : String) (raw : ByteArray) (text : String) (document : Value)
    (envelope : AdapterEnvelope),
    version ∈ adapter.descriptor.supportedProtocolVersions → String.fromUTF8? raw = some text →
    rt.parse text = .ok document →
    translate rt adapter.descriptor.adapterId adapter.descriptor.family version (.bytes raw) source
      = .ok envelope →
    ∀ members ∈ adapter.guarded document, StatedOnce rt members := by
  intro h
  obtain ⟨envelope, htranslate⟩ := Sample.translate_twice
  have hstated := h _ _ .intent _ _ _ _ envelope (by decide)
    (dif_pos Sample.twiceText.isValidUTF8) (Sample.parse_runtime _ _) htranslate _
    List.mem_cons_self
  have hnames := List.Nodup.of_map _ hstated
  revert hnames
  decide

/-- The condition at the intent that names two merchants. -/
theorem stated_once_iff_twice :
    (∀ members ∈ Adapter.intent.guarded Sample.twice,
        StatedOnce (Sample.runtime Sample.twiceText Sample.twice) members) ↔
      ∀ members ∈ Adapter.intent.guarded Sample.twice, (names members).Nodup := by
  obtain ⟨envelope, htranslate⟩ := Sample.translate_twice
  exact stated_once_iff _ _ .intent "1.0" (by decide) _ Sample.twiceText
    (dif_pos Sample.twiceText.isValidUTF8) Sample.twice (Sample.parse_runtime _ _) envelope
    htranslate

end Adapters

end Pactra
