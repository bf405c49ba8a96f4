import Mathlib.Data.List.Sort
import Mathlib.Data.Rat.Defs
import Mathlib.Tactic.Common

/-!
# JSON values and string-keyed dictionaries

A dictionary is an insertion-ordered list of entries in which assigning to a key that is
already present replaces the value in place. The serializer produces the compact form with
sorted keys; whether characters outside ASCII are escaped is a parameter, and so is the decimal
rendering of a floating-point number.

## Main results

- `Dict.get_set`, `Dict.get_update_of_nodup` — lookups after assignment and merging
- `Dict.nodup_update` — merging keeps the keys distinct
-/

/-- A JSON value. A finite floating-point number is its exact rational value. -/
inductive Json where
  | null
  | bool (b : Bool)
  | int (n : Int)
  | float (q : Rat)
  | str (s : String)
  | arr (items : List Json)
  | obj (fields : List (String × Json))

namespace Json

/-- `None` as `null`, a present text as a string. -/
def ofOptStr : Option String → Json
  | none => .null
  | some s => .str s

/-- `None` as `null`, a present number as an integer. -/
def ofOptInt : Option Int → Json
  | none => .null
  | some n => .int n

@[simp] theorem ofOptStr_none : ofOptStr none = .null := rfl

@[simp] theorem ofOptStr_some (s : String) : ofOptStr (some s) = .str s := rfl

end Json

/-- A string-keyed dictionary, in insertion order. -/
abbrev Dict := List (String × Json)

namespace Dict

/-- The value at a key. -/
def get : Dict → String → Option Json
  | [], _ => none
  | (k, v) :: d, key => if k = key then some v else get d key

/-- Assign a value to a key, in place when the key is present. -/
def set : Dict → String → Json → Dict
  | [], key, v => [(key, v)]
  | (k, w) :: d, key, v => if k = key then (k, v) :: d else (k, w) :: set d key v

/-- Merge a dictionary into another, later entries winning. -/
def update (d : Dict) : Dict → Dict
  | [] => d
  | (k, v) :: e => update (set d k v) e

@[simp] theorem get_nil (key : String) : get [] key = none := rfl

@[simp] theorem get_cons (k key : String) (v : Json) (d : Dict) :
    get ((k, v) :: d) key = if k = key then some v else get d key := rfl

@[simp] theorem get_set (d : Dict) (k key : String) (v : Json) :
    get (set d k v) key = if k = key then some v else get d key := by
  induction d with
  | nil => rfl
  | cons e d ih =>
    obtain ⟨k', w⟩ := e
    by_cases h : k' = k
    · subst h
      by_cases h' : k' = key <;> simp [set, h']
    · by_cases h' : k' = key
      · subst h'
        simp [set, h, Ne.symm h]
      · simp [set, h, h', ih]

@[simp] theorem update_nil (d : Dict) : update d [] = d := rfl

@[simp] theorem update_cons (d e : Dict) (k : String) (v : Json) :
    update d ((k, v) :: e) = update (set d k v) e := rfl

/-- A key the merged-in entries do not carry keeps its value. -/
theorem get_update_of_absent {d e : Dict} {key : String} (h : ∀ p ∈ e, p.1 ≠ key) :
    get (update d e) key = get d key := by
  induction e generalizing d with
  | nil => rfl
  | cons p e ih =>
    obtain ⟨k, v⟩ := p
    have hk : k ≠ key := h (k, v) (by simp)
    rw [update_cons, ih fun q hq => h q (by simp [hq])]
    simp [hk]

/-- Merging in entries with distinct keys: theirs win, the others stay. -/
theorem get_update_of_nodup {d e : Dict} {key : String} (h : (e.map Prod.fst).Nodup) :
    get (update d e) key = (get e key).or (get d key) := by
  induction e generalizing d with
  | nil => rfl
  | cons p e ih =>
    obtain ⟨k, v⟩ := p
    have hnd : k ∉ e.map Prod.fst ∧ (e.map Prod.fst).Nodup := List.nodup_cons.mp h
    by_cases hk : k = key
    · subst hk
      have habs : ∀ q ∈ e, q.1 ≠ k := fun q hq hqk =>
        hnd.1 (hqk ▸ List.mem_map_of_mem hq)
      rw [update_cons, get_update_of_absent habs]
      simp
    · rw [update_cons, ih hnd.2]
      simp [hk]

@[simp] theorem get_append (d e : Dict) (key : String) :
    get (d ++ e) key = (get d key).or (get e key) := by
  induction d with
  | nil => rfl
  | cons p d ih =>
    obtain ⟨k, v⟩ := p
    by_cases h : k = key <;> simp [h, ih]

theorem nodup_set {d : Dict} (h : (d.map Prod.fst).Nodup) (key : String) (v : Json) :
    ((set d key v).map Prod.fst).Nodup := by
  have hmem : ∀ (d : Dict) (k : String), k ∈ (set d key v).map Prod.fst →
      k = key ∨ k ∈ d.map Prod.fst := by
    intro d k hk
    induction d with
    | nil => exact .inl (by simpa [set] using hk)
    | cons p d ih =>
      obtain ⟨k', w⟩ := p
      by_cases hk' : k' = key
      · subst hk'
        exact .inr (by simpa [set] using hk)
      · rw [set, if_neg hk', List.map_cons, List.mem_cons] at hk
        rcases hk with rfl | hk
        · exact .inr (by simp)
        · exact (ih hk).imp_right (List.mem_cons_of_mem _)
  induction d with
  | nil => simp [set]
  | cons p d ih =>
    obtain ⟨k, w⟩ := p
    obtain ⟨hk, hd⟩ := List.nodup_cons.mp h
    by_cases hkey : k = key
    · subst hkey
      simpa [set] using And.intro hk hd
    · simp only [set, if_neg hkey, List.map_cons, List.nodup_cons]
      refine ⟨fun hmem' => ?_, ih hd⟩
      rcases hmem d k hmem' with heq | hin
      · exact hkey heq
      · exact hk hin

theorem nodup_update {d e : Dict} (h : (d.map Prod.fst).Nodup) :
    ((update d e).map Prod.fst).Nodup := by
  induction e generalizing d with
  | nil => exact h
  | cons p e ih => exact ih (nodup_set h p.1 p.2)

end Dict

namespace Json

-- ════════════════════════════════════════════════════════════════════════
-- Serialization
-- ════════════════════════════════════════════════════════════════════════

/-- One lowercase hexadecimal digit. -/
def hexDigit (n : Nat) : Char :=
  if n < 10 then Char.ofNat (48 + n) else Char.ofNat (87 + n)

/-- A 16-bit code unit as four hexadecimal digits. -/
def hex4 (n : Nat) : String :=
  String.ofList [hexDigit (n / 4096 % 16), hexDigit (n / 256 % 16), hexDigit (n / 16 % 16),
    hexDigit (n % 16)]

/-- One character inside a JSON string. A character beyond the basic plane is escaped as a
surrogate pair. -/
def escapeChar (ensureAscii : Bool) (c : Char) : String :=
  if c = '"' then "\\\""
  else if c = '\\' then "\\\\"
  else if c = '\n' then "\\n"
  else if c = '\r' then "\\r"
  else if c = '\t' then "\\t"
  else if c.toNat = 8 then "\\b"
  else if c.toNat = 12 then "\\f"
  else if c.toNat < 32 then "\\u" ++ hex4 c.toNat
  else if ensureAscii && 127 ≤ c.toNat then
    if c.toNat < 65536 then "\\u" ++ hex4 c.toNat
    else
      "\\u" ++ hex4 (55296 + (c.toNat - 65536) / 1024)
        ++ "\\u" ++ hex4 (56320 + (c.toNat - 65536) % 1024)
  else c.toString

/-- Whether a byte is a printable ASCII character that needs no escape. -/
def plainByte (b : UInt8) : Bool :=
  Nat.ble 32 b.toNat && Nat.blt b.toNat 127 && b.toNat != 34 && b.toNat != 92

/-- A JSON string literal. A text of plain characters is copied as it is. -/
def quote (ensureAscii : Bool) (s : String) : String :=
  if s.toUTF8.data.toList.all plainByte then "\"" ++ s ++ "\""
  else "\"" ++ String.join (s.toList.map (escapeChar ensureAscii)) ++ "\""

/-- Join texts with a comma. -/
def commaJoin : List String → String
  | [] => ""
  | [s] => s
  | s :: t :: rest => s ++ "," ++ commaJoin (t :: rest)

/-- Entries in the order of their keys, compared by code points. -/
def sortKeys (fields : List (String × String)) : List (String × String) :=
  fields.insertionSort (fun a b => a.1 ≤ b.1)

section Dumps

variable (floatRepr : Rat → String) (ensureAscii : Bool)

mutual

/-- Compact serialization with sorted keys. -/
def dumps : Json → String
  | .null => "null"
  | .bool true => "true"
  | .bool false => "false"
  | .int n => toString n
  | .float q => floatRepr q
  | .str s => quote ensureAscii s
  | .arr items => "[" ++ commaJoin (dumpsItems items) ++ "]"
  | .obj fields =>
    "\x7b" ++ commaJoin ((sortKeys (dumpsFields fields)).map
      (fun p => quote ensureAscii p.1 ++ ":" ++ p.2)) ++ "\x7d"

/-- The serialized items of an array. -/
def dumpsItems : List Json → List String
  | [] => []
  | v :: vs => dumps v :: dumpsItems vs

/-- The entries of an object with their values serialized. -/
def dumpsFields : List (String × Json) → List (String × String)
  | [] => []
  | (k, v) :: fs => (k, dumps v) :: dumpsFields fs

end

end Dumps

end Json
