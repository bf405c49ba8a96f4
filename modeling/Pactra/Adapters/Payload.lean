import Pactra.Adapters.Models
import Pactra.Foundation.Json
import Pactra.Foundation.Sha256

/-!
# Payloads

`services/adapters/translate.py`: the bytes of a payload, and the document that it spells. A mapping
is serialized for its bytes. That fails at an integer with too many digits, and where objects and
arrays are nested too deep.

## Main results

- `dumps_ok` — the values that can be serialized
- `contained_asBytesAndObject` — the payloads of which reading ends in a document or a refusal
-/

namespace Pactra

namespace Adapters

open Wire (decode spellable spellableItems spellableMembers)

-- ════════════════════════════════════════════════════════════════════════
-- Serialization
-- ════════════════════════════════════════════════════════════════════════

/-- The exception of `str` at an integer with too many digits. -/
def tooManyDigits : Exc :=
  .valueError "Exceeds the limit (4300 digits) for integer string conversion"

/-- The exception of the encoder where values are nested too deep. -/
def tooDeep : Exc :=
  .other "RecursionError" "maximum recursion depth exceeded while encoding a JSON object"

/-- One code point inside a string literal of ASCII characters. -/
def escapePoint : CodePoint → String
  | .char c => Json.escapeChar true c
  | .surrogate offset => "\\u" ++ Json.hex4 (55296 + offset)

/-- A string literal. -/
def quote (s : PyStr) : String := "\"" ++ String.join (s.points.map escapePoint) ++ "\""

/-- A number as a literal. Those that JSON lacks are written as names. -/
def floatText (rt : Runtime) : Wire.Float → String
  | .finite q => rt.floatRepr q
  | .infinity false => "Infinity"
  | .infinity true => "-Infinity"
  | .nan => "NaN"

/-- The text of a member, when its value has one. -/
def memberText (member : PyStr × Except Exc String) : Except Exc String :=
  member.2.map fun text => quote member.1 ++ ":" ++ text

/-- All texts, or the exception of the first part that has none. -/
def collect : List (Except Exc String) → Except Exc (List String)
  | [] => pure []
  | part :: rest => do
    let text ← part
    let texts ← collect rest
    pure (text :: texts)

mutual

/-- `json.dumps(value, sort_keys=True, separators=(",", ":"))` where so many objects and arrays can
still be entered. -/
def dumps (rt : Runtime) : Nat → Value → Except Exc String
  | _, .null => pure "null"
  | _, .bool b => pure (if b then "true" else "false")
  | _, .int n => if Wire.spellsInt n then pure (toString n) else .error tooManyDigits
  | _, .float x => pure (floatText rt x)
  | _, .str s => pure (quote s)
  | 0, .arr _ => .error tooDeep
  | limit + 1, .arr items => do
    let texts ← collect (dumpsItems rt limit items)
    pure ("[" ++ Json.commaJoin texts ++ "]")
  | 0, .obj _ => .error tooDeep
  | limit + 1, .obj members => do
    let texts ← collect ((sortedItems (dumpsMembers rt limit members)).map memberText)
    pure ("\x7b" ++ Json.commaJoin texts ++ "\x7d")

def dumpsItems (rt : Runtime) : Nat → List Value → List (Except Exc String)
  | _, [] => []
  | limit, v :: vs => dumps rt limit v :: dumpsItems rt limit vs

def dumpsMembers (rt : Runtime) : Nat → List (PyStr × Value) → List (PyStr × Except Exc String)
  | _, [] => []
  | limit, (name, v) :: rest => (name, dumps rt limit v) :: dumpsMembers rt limit rest

end

mutual

/-- How many objects and arrays of a value are inside one another. -/
def nesting : Value → Nat
  | .arr items => nestingItems items + 1
  | .obj members => nestingMembers members + 1
  | _ => 0

def nestingItems : List Value → Nat
  | [] => 0
  | v :: vs => max (nesting v) (nestingItems vs)

def nestingMembers : List (PyStr × Value) → Nat
  | [] => 0
  | (_, v) :: rest => max (nesting v) (nestingMembers rest)

end

section Dumps

variable {rt : Runtime}

lemma collect_ok {parts : List (Except Exc String)} :
    (∃ texts, collect parts = .ok texts) ↔ ∀ part ∈ parts, ∃ text, part = .ok text := by
  induction parts with
  | nil => simp [collect, pure, Except.pure]
  | cons part rest ih =>
    rw [List.forall_mem_cons, ← ih]
    cases part with
    | error exc => simp [collect, Bind.bind, Except.bind]
    | ok text =>
      cases hrest : collect rest with
      | error exc => simp [collect, hrest, Bind.bind, Except.bind]
      | ok texts => simp [collect, hrest, Bind.bind, Except.bind, pure, Except.pure]

lemma memberText_ok {member : PyStr × Except Exc String} :
    (∃ text, memberText member = .ok text) ↔ ∃ text, member.2 = .ok text := by
  obtain ⟨name, part⟩ := member
  cases part <;> simp [memberText, Except.map]

/-- Texts around collected ones. -/
lemma collect_map_ok {parts : List (Except Exc String)} {f : List String → String} :
    (∃ text, (do
      let texts ← collect parts
      pure (f texts) : Except Exc String) = .ok text) ↔ ∀ part ∈ parts, ∃ text, part = .ok text := by
  rw [← collect_ok]
  cases collect parts <;> simp [Bind.bind, Except.bind, pure, Except.pure]

mutual

/-- The values that can be serialized: no integer has too many digits, and no more objects and arrays
are inside one another than can be entered. -/
theorem dumps_ok : ∀ {limit : Nat} {v : Value},
    (∃ text, dumps rt limit v = .ok text) ↔ spellable v = true ∧ nesting v ≤ limit
  | _, .null => by simp [dumps, spellable, nesting, pure, Except.pure]
  | _, .bool _ => by simp [dumps, spellable, nesting, pure, Except.pure]
  | _, .int n => by
    cases hn : Wire.spellsInt n <;> simp [dumps, spellable, nesting, hn, pure, Except.pure]
  | _, .float _ => by simp [dumps, spellable, nesting, pure, Except.pure]
  | _, .str _ => by simp [dumps, spellable, nesting, pure, Except.pure]
  | 0, .arr items => by simp [dumps, nesting]
  | limit + 1, .arr items => by
    rw [dumps, collect_map_ok, dumpsItems_ok, spellable, nesting, Nat.add_le_add_iff_right]
  | 0, .obj members => by simp [dumps, nesting]
  | limit + 1, .obj members => by
    rw [dumps, collect_map_ok, List.forall_mem_map, spellable, nesting, Nat.add_le_add_iff_right,
      ← dumpsMembers_ok]
    exact ⟨fun h p hp => memberText_ok.mp (h p (mem_sortedItems.mpr hp)),
      fun h p hp => memberText_ok.mpr (h p (mem_sortedItems.mp hp))⟩

theorem dumpsItems_ok : ∀ {limit : Nat} {items : List Value},
    (∀ part ∈ dumpsItems rt limit items, ∃ text, part = .ok text) ↔
      spellableItems items = true ∧ nestingItems items ≤ limit
  | _, [] => by simp [dumpsItems, spellableItems, nestingItems]
  | limit, v :: vs => by
    rw [dumpsItems, List.forall_mem_cons, dumps_ok, dumpsItems_ok, spellableItems, nestingItems,
      Bool.and_eq_true, Nat.max_le, and_and_and_comm]

theorem dumpsMembers_ok : ∀ {limit : Nat} {members : List (PyStr × Value)},
    (∀ p ∈ dumpsMembers rt limit members, ∃ text, p.2 = .ok text) ↔
      spellableMembers members = true ∧ nestingMembers members ≤ limit
  | _, [] => by simp [dumpsMembers, spellableMembers, nestingMembers]
  | limit, (name, v) :: rest => by
    rw [dumpsMembers, List.forall_mem_cons, dumps_ok, dumpsMembers_ok, spellableMembers,
      nestingMembers, Bool.and_eq_true, Nat.max_le, and_and_and_comm]

end

end Dumps

-- ════════════════════════════════════════════════════════════════════════
-- Payloads
-- ════════════════════════════════════════════════════════════════════════

/-- A payload. A mapping is given by the assignments that build it. -/
inductive Payload where
  | bytes (raw : ByteArray)
  | text (text : PyStr)
  | dict (members : List (PyStr × Value))

/-- `MAX_PAYLOAD_BYTES`. -/
def maxPayloadBytes : Nat := 256 * 1024

/-- The bytes of a payload. -/
def rawBytes (rt : Runtime) : Payload → Except Failure ByteArray
  | .bytes raw => pure raw
  | .text text =>
    match text.unicode with
    | some characters => pure characters.toUTF8
    | none => .error (.escaped (.other "UnicodeEncodeError" "surrogates not allowed"))
  | .dict members =>
    match dumps rt rt.nestingLimit (decode (.obj members)) with
    | .ok text => pure text.toUTF8
    | .error exc => .error (.escaped exc)

/-- `json.loads(raw.decode("utf-8"))`. -/
def loads (rt : Runtime) (raw : ByteArray) : Except Failure Value :=
  match String.fromUTF8? raw with
  | none => malformed "payload is not valid UTF-8"
  | some text =>
    match rt.parse text with
    | .error msg => malformed ("payload is not valid JSON: " ++ msg)
    | .ok document => pure (decode document)

/-- `as_bytes_and_object`. -/
def asBytesAndObject (rt : Runtime) (payload : Payload) : Except Failure (ByteArray × Value) := do
  let raw ← rawBytes rt payload
  if maxPayloadBytes < raw.size then
    malformed ("payload is " ++ toString raw.size ++ " bytes, above the "
      ++ toString maxPayloadBytes ++ "-byte adapter limit")
  else
    match payload with
    | .dict members => pure (raw, decode (.obj members))
    | _ => do
      let parsed ← loads rt raw
      pure (raw, parsed)

/-- `raw_reference`. -/
def rawReference (raw : ByteArray) : String :=
  "sha256:" ++ Sha256.hexdigest (raw.data.toList.map UInt8.toNat)

/-- A text with a lone surrogate, or a mapping that cannot be serialized. -/
def Unencodable (rt : Runtime) : Payload → Prop
  | .bytes _ => False
  | .text text => ∃ offset, CodePoint.surrogate offset ∈ text.points
  | .dict members =>
    spellable (decode (.obj members)) = false ∨ rt.nestingLimit < nesting (decode (.obj members))

section Payload

variable {rt : Runtime} {payload : Payload} {document : Value}

/-- The bytes of a text that is small enough and spells a document. -/
lemma asBytesAndObject_utf8 {text : String} (hsize : text.toUTF8.size ≤ maxPayloadBytes)
    (hparse : rt.parse text = .ok document) :
    asBytesAndObject rt (.bytes text.toUTF8) = .ok (text.toUTF8, decode document) := by
  have htext : String.fromUTF8? text.toUTF8 = some text := dif_pos text.isValidUTF8
  have hloads : loads rt text.toUTF8 = .ok (decode document) := by
    simp only [loads, htext, hparse]
    rfl
  refine bind_ok.mpr ⟨text.toUTF8, rfl, ?_⟩
  rw [if_neg (Nat.not_lt.mpr hsize)]
  exact bind_ok.mpr ⟨decode document, hloads, rfl⟩

lemma contained_rawBytes : Contained (rawBytes rt payload) ↔ ¬Unencodable rt payload := by
  cases payload with
  | bytes raw => simp [rawBytes, Unencodable]
  | text text =>
    rw [Unencodable, ← PyStr.unicode_eq_none, rawBytes]
    cases text.unicode with
    | none => simp
    | some characters => simp
  | dict members =>
    have hdumps : (∃ text, dumps rt rt.nestingLimit (decode (.obj members)) = .ok text) ↔ _ := dumps_ok
    rw [Unencodable, not_or, Bool.not_eq_false, Nat.not_lt, ← hdumps, rawBytes]
    cases dumps rt rt.nestingLimit (decode (.obj members)) with
    | error exc => simp
    | ok text => simp

lemma contained_loads (raw : ByteArray) : Contained (loads rt raw) := by
  unfold loads
  split
  · exact contained_malformed _
  · split
    · exact contained_malformed _
    · exact contained_pure _

/-- Reading a payload ends in a document or a refusal, unless the payload cannot be encoded. -/
theorem contained_asBytesAndObject :
    Contained (asBytesAndObject rt payload) ↔ ¬Unencodable rt payload := by
  unfold asBytesAndObject
  rw [contained_bind, contained_rawBytes, and_iff_left]
  intro raw _
  split
  · exact contained_malformed _
  · split
    · exact contained_pure _
    · exact (contained_loads raw).bind fun _ _ => contained_pure _

end Payload

end Adapters

end Pactra
