import Pactra.Db.Exceptions
import Pactra.Foundation.PyStr
import Pactra.Foundation.Tx
import Pactra.Foundation.Wire

/-!
# Payload keys

`services/adapters/errors.py` and `fields.py`: how adapters refuse, the normal form of a key, and
the two checks on the keys of an object. No two keys may have one normal form, and none may be that
of a reserved field.

## Main results

- `guardPayloadKeys_ok` — what the keys of an object are like that passes
- `Contained` — nothing but refusals, with the rules for sequences of checks
-/

namespace Pactra

namespace Adapters

open Wire (names)

/-- A decoded value. -/
abbrev Value := Wire.Value PyStr Wire.Float

/-- `mapping.get(key)`, if there is one. -/
def memberAt (members : List (PyStr × Value)) (key : PyStr) : Option Value := members.lookup key

/-- Entries in the order of their names. -/
def sortedItems {α : Type} (members : List (PyStr × α)) : List (PyStr × α) :=
  members.insertionSort fun a b => a.1 ≤ b.1

lemma mem_sortedItems {α : Type} {members : List (PyStr × α)} {p : PyStr × α} :
    p ∈ sortedItems members ↔ p ∈ members := (List.perm_insertionSort _ members).mem_iff

/-- A datetime that was read from a text: wall clock time, and the offset if there is one. -/
structure IsoDatetime where
  wall : Int
  utcoffset : Option Int
deriving DecidableEq

/-- What adapters use of the Python runtime. -/
structure Runtime where
  /-- `str.lower`. -/
  lower : PyStr → PyStr
  /-- `str.upper`. -/
  upper : PyStr → PyStr
  /-- `str.isalnum` of one code point. -/
  isalnum : CodePoint → Bool
  /-- `repr` of a text, which escapes a lone surrogate. -/
  repr : PyStr → String
  /-- `repr` of a decoded value. -/
  reprValue : Value → String
  /-- `repr` of a finite float. -/
  floatRepr : Rat → String
  /-- How many objects and arrays inside one another `json.dumps` enters. -/
  nestingLimit : Nat
  /-- The document that a JSON text spells, or the message of the `JSONDecodeError`. -/
  parse : String → Except String Value
  /-- `datetime.fromisoformat`. -/
  fromisoformat : PyStr → Option IsoDatetime
  /-- `UUID(text)`. -/
  uuid : PyStr → Option Uuid

-- ════════════════════════════════════════════════════════════════════════
-- Refusals
-- ════════════════════════════════════════════════════════════════════════

/-- The subclasses of `AdapterError` that translation raises, and the class itself. -/
inductive AdapterErrorKind where
  | adapterError | unknownAdapter | adapterFamilyMismatch | unsupportedProtocolVersion
  | protocolMismatch | malformedProtocolPayload | ambiguousProtocolField | reservedFieldRejected
  | unsupportedOperation | authorityCeilingViolation | provenanceIncomplete
  | taintStrippedViolation
deriving DecidableEq

/-- `reason_code`. -/
def AdapterErrorKind.reasonCode : AdapterErrorKind → String
  | .adapterError => "ADAPTER_ERROR"
  | .unknownAdapter => "ADAPTER_NOT_REGISTERED"
  | .adapterFamilyMismatch => "ADAPTER_FAMILY_MISMATCH"
  | .unsupportedProtocolVersion => "ADAPTER_PROTOCOL_VERSION_UNSUPPORTED"
  | .protocolMismatch => "ADAPTER_PROTOCOL_MISMATCH"
  | .malformedProtocolPayload => "ADAPTER_PAYLOAD_MALFORMED"
  | .ambiguousProtocolField => "ADAPTER_AMBIGUOUS_FIELD"
  | .reservedFieldRejected => "ADAPTER_RESERVED_FIELD_REJECTED"
  | .unsupportedOperation => "ADAPTER_OPERATION_UNSUPPORTED"
  | .authorityCeilingViolation => "ADAPTER_AUTHORITY_CEILING"
  | .provenanceIncomplete => "ADAPTER_PROVENANCE_INCOMPLETE"
  | .taintStrippedViolation => "ADAPTER_TAINT_STRIPPED"

/-- An exception that leaves a translation: an adapter's refusal, or any other. -/
inductive Failure where
  | adapter (kind : AdapterErrorKind) (detail : PyStr)
  | escaped (exc : Exc)
deriving DecidableEq

/-- Raise an adapter error. -/
def refuse {α : Type} (kind : AdapterErrorKind) (detail : PyStr) : Except Failure α :=
  .error (.adapter kind detail)

/-- Raise a `MalformedProtocolPayload`. -/
def malformed {α : Type} (detail : PyStr) : Except Failure α :=
  refuse .malformedProtocolPayload detail

/-- Nothing but refusals. -/
def Contained {α : Type} (x : Except Failure α) : Prop := ∀ exc, x ≠ .error (.escaped exc)

section Contained

variable {α β : Type} {x : Except Failure α} {f : α → Except Failure β}

@[simp] theorem contained_ok (a : α) : Contained (.ok a : Except Failure α) := nofun

@[simp] theorem contained_pure (a : α) : Contained (pure a : Except Failure α) := nofun

@[simp] theorem contained_refuse (kind : AdapterErrorKind) (detail : PyStr) :
    Contained (refuse kind detail : Except Failure α) := nofun

@[simp] theorem contained_malformed (detail : PyStr) :
    Contained (malformed detail : Except Failure α) := nofun

@[simp] theorem not_contained_escaped (exc : Exc) :
    ¬Contained (.error (.escaped exc) : Except Failure α) := fun h => h exc rfl

theorem bind_ok {b : β} : (x >>= f) = .ok b ↔ ∃ a, x = .ok a ∧ f a = .ok b :=
  Tx.except_bind_ok

/-- Whether an exception other than a refusal was raised. -/
def raisesOther : Except Failure α → Bool
  | .error (.escaped _) => true
  | _ => false

lemma not_contained_of_raisesOther (h : raisesOther x = true) : ¬Contained x := by
  cases x with
  | error e =>
    cases e with
    | adapter kind detail => cases h
    | escaped exc => exact not_contained_escaped exc
  | ok a => cases h

lemma exists_ok_of_isOk (h : x.isOk = true) : ∃ a, x = .ok a := by
  cases x with
  | error e => cases h
  | ok a => exact ⟨a, rfl⟩

/-- A sequence is contained when its first part is, and the rest is after it. -/
theorem contained_bind :
    Contained (x >>= f) ↔ Contained x ∧ ∀ a, x = .ok a → Contained (f a) := by
  cases x with
  | error e => simp [Contained, Bind.bind, Except.bind]
  | ok a => simp [Contained, Bind.bind, Except.bind]

theorem Contained.bind (hx : Contained x) (hf : ∀ a, x = .ok a → Contained (f a)) :
    Contained (x >>= f) := contained_bind.mpr ⟨hx, hf⟩

end Contained

-- ════════════════════════════════════════════════════════════════════════
-- Keys
-- ════════════════════════════════════════════════════════════════════════

/-- `RESERVED_SECURITY_FIELDS`. -/
def reservedSecurityFields : List PyStr :=
  ["authority", "authoritylevel", "capability", "capabilities", "capabilityset", "paymentexecute",
   "refundexecute", "policymodify", "authorizationissue", "merchantmodify", "trust", "trusted",
   "trustlevel", "tainted", "taint", "principal", "system", "systempolicy", "provenance",
   "authorization", "authorizationid", "authorizationvalid", "authorizationstatus", "nonce",
   "transactiondigest", "digest", "signature", "signed", "verified", "consumedat",
   "bindingversion", "policyoverride", "policyversion", "softbudgetinr", "hardlimitinr",
   "minrating", "allowedmerchants", "blockedmerchants", "minmerchanttrust", "merchanttrust",
   "merchanttrustscore", "trustscore", "merchantname", "adapterid", "adapterfamily",
   "adapterversion", "riskscore", "riskband", "riskrecommendation"]

/-- `normalize_key`. -/
def normalizeKey (rt : Runtime) (key : PyStr) : PyStr := ⟨(rt.lower key).points.filter rt.isalnum⟩

/-- Texts separated by a comma and a blank. -/
def joinComma (texts : List PyStr) : PyStr :=
  ⟨List.intercalate (PyStr.ofString ", ").points (texts.map PyStr.points)⟩

/-- `reserved_fields_in`. -/
def reservedFieldsIn (rt : Runtime) (keys : List PyStr) : List PyStr :=
  (keys.filter fun key => decide (normalizeKey rt key ∈ reservedSecurityFields)).insertionSort
    (· ≤ ·)

/-- `reject_reserved_fields`. -/
def rejectReservedFields (rt : Runtime) (keys : List PyStr) : Except Failure Unit :=
  let found := reservedFieldsIn rt keys
  if found.isEmpty then pure ()
  else
    refuse .reservedFieldRejected
      ("payload declares security-reserved field(s) that an external source may never set: "
        ++ joinComma found)

/-- The loop of `reject_aliased_keys`, with the keys seen so far by normal form. -/
def rejectAliasedFrom (rt : Runtime) : List (PyStr × PyStr) → List PyStr → Except Failure Unit
  | _, [] => pure ()
  | seen, key :: rest =>
    let canonical := normalizeKey rt key
    match seen.lookup canonical with
    | some first =>
      refuse .ambiguousProtocolField
        ("keys " ++ rt.repr first ++ " and " ++ rt.repr key ++ " both name the field "
          ++ rt.repr canonical ++ "; a payload that states one field twice has no single meaning")
    | none => rejectAliasedFrom rt ((canonical, key) :: seen) rest

/-- `reject_aliased_keys`. -/
def rejectAliasedKeys (rt : Runtime) (keys : List PyStr) : Except Failure Unit :=
  rejectAliasedFrom rt [] keys

/-- `guard_payload_keys`. -/
def guardPayloadKeys (rt : Runtime) (members : List (PyStr × Value)) : Except Failure Unit := do
  rejectAliasedKeys rt (names members)
  rejectReservedFields rt (names members)

section Guard

variable {rt : Runtime}

lemma lookup_isNone {seen : List (PyStr × PyStr)} {key : PyStr} :
    seen.lookup key = none ↔ key ∉ names seen := by
  induction seen with
  | nil => simp [names]
  | cons p seen ih =>
    obtain ⟨k, v⟩ := p
    by_cases hk : key = k
    · subst hk
      simp [names]
    · simp [List.lookup_cons, names, hk, beq_false_of_ne hk, ih]

lemma rejectAliasedFrom_ok {seen : List (PyStr × PyStr)} {keys : List PyStr} :
    rejectAliasedFrom rt seen keys = .ok () ↔
      (keys.map (normalizeKey rt)).Nodup ∧ ∀ key ∈ keys, normalizeKey rt key ∉ names seen := by
  induction keys generalizing seen with
  | nil => simp [rejectAliasedFrom, pure, Except.pure]
  | cons key rest ih =>
    simp only [rejectAliasedFrom]
    cases hseen : seen.lookup (normalizeKey rt key) with
    | some first =>
      have hmem : normalizeKey rt key ∈ names seen := by
        by_contra hnot
        rw [lookup_isNone.mpr hnot] at hseen
        cases hseen
      simp [refuse, hmem]
    | none =>
      have hmem := lookup_isNone.mp hseen
      simp only [ih]
      rw [List.map_cons, List.nodup_cons]
      constructor
      · rintro ⟨hnodup, hrest⟩
        refine ⟨⟨fun h => ?_, hnodup⟩, fun k hk => ?_⟩
        · obtain ⟨k, hk, heq⟩ := List.mem_map.mp h
          exact hrest k hk (heq ▸ List.mem_cons_self)
        · rcases List.mem_cons.mp hk with rfl | hk
          · exact hmem
          · exact fun h => hrest k hk (List.mem_cons_of_mem _ h)
      · rintro ⟨⟨hnew, hnodup⟩, hseen⟩
        refine ⟨hnodup, fun k hk h => ?_⟩
        rcases List.mem_cons.mp h with heq | h
        · have heq : normalizeKey rt k = normalizeKey rt key := heq
          exact hnew (heq ▸ List.mem_map_of_mem hk)
        · exact hseen k (List.mem_cons_of_mem _ hk) h

lemma rejectReservedFields_ok {keys : List PyStr} :
    rejectReservedFields rt keys = .ok () ↔
      ∀ key ∈ keys, normalizeKey rt key ∉ reservedSecurityFields := by
  have hempty : (reservedFieldsIn rt keys).isEmpty ↔
      ∀ key ∈ keys, normalizeKey rt key ∉ reservedSecurityFields := by
    rw [List.isEmpty_iff, ← List.length_eq_zero_iff, reservedFieldsIn, List.length_insertionSort,
      List.length_eq_zero_iff, List.filter_eq_nil_iff]
    simp
  rw [← hempty, rejectReservedFields]
  split
  · next h => simp [h, pure, Except.pure]
  · next h => simp [h, refuse]

/-- The keys of an object that passes: no two have one normal form, none is reserved. -/
theorem guardPayloadKeys_ok {members : List (PyStr × Value)} :
    guardPayloadKeys rt members = .ok () ↔
      ((names members).map (normalizeKey rt)).Nodup ∧
        ∀ name ∈ names members, normalizeKey rt name ∉ reservedSecurityFields := by
  rw [guardPayloadKeys, bind_ok]
  constructor
  · rintro ⟨⟨⟩, haliased, hreserved⟩
    exact ⟨(rejectAliasedFrom_ok.mp haliased).1, rejectReservedFields_ok.mp hreserved⟩
  · rintro ⟨hnodup, hreserved⟩
    exact ⟨(), rejectAliasedFrom_ok.mpr ⟨hnodup, by simp [names]⟩,
      rejectReservedFields_ok.mpr hreserved⟩

@[simp] lemma contained_guardPayloadKeys (members : List (PyStr × Value)) :
    Contained (guardPayloadKeys rt members) := by
  have haliased : ∀ keys seen, Contained (rejectAliasedFrom rt seen keys) := by
    intro keys
    induction keys with
    | nil => exact fun seen => contained_pure ()
    | cons key rest ih =>
      intro seen
      simp only [rejectAliasedFrom]
      split
      · exact contained_refuse _ _
      · exact ih _
  refine (haliased (names members) []).bind fun _ _ => ?_
  unfold rejectReservedFields
  dsimp only
  split
  · exact contained_pure ()
  · exact contained_refuse _ _

end Guard

end Adapters

end Pactra
