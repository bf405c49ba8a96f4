import Pactra.Foundation.JsonText
import Pactra.Foundation.PyStr
import Pactra.Foundation.Wire

/-!
# JSON values in Python

A JSON value as a program holds it: its texts may have lone surrogates, and its integers may have
more digits than the interpreter spells. The values of which a serialization can be encoded are the
others.

## Main results

- `PyJson.json?_eq_some` — the values without surrogates
- `PyJson.spellable_canon` — the order of the entries of an object does not matter
-/

/-- A JSON value as a program holds it. -/
abbrev PyJson := Wire.Value PyStr Rat

namespace PyJson

open Wire (Value spellable spellableItems spellableMembers)

mutual

/-- A value with texts of characters. -/
def ofJson : Json → PyJson
  | .null => .null
  | .bool b => .bool b
  | .int n => .int n
  | .float q => .float q
  | .str s => .str s
  | .arr items => .arr (ofItems items)
  | .obj fields => .obj (ofFields fields)

def ofItems : List Json → List PyJson
  | [] => []
  | v :: vs => ofJson v :: ofItems vs

def ofFields : List (String × Json) → List (PyStr × PyJson)
  | [] => []
  | (k, v) :: fs => (↑k, ofJson v) :: ofFields fs

end

mutual

/-- The value with its texts as characters, when none of them holds a surrogate. -/
def json? : PyJson → Option Json
  | .null => some .null
  | .bool b => some (.bool b)
  | .int n => some (.int n)
  | .float q => some (.float q)
  | .str s => s.unicode.map .str
  | .arr items => (jsonItems? items).map .arr
  | .obj members => (jsonFields? members).map .obj

def jsonItems? : List PyJson → Option (List Json)
  | [] => some []
  | v :: vs => do
    let w ← json? v
    let ws ← jsonItems? vs
    some (w :: ws)

def jsonFields? : List (PyStr × PyJson) → Option (List (String × Json))
  | [] => some []
  | (name, v) :: rest => do
    let k ← name.unicode
    let w ← json? v
    let fs ← jsonFields? rest
    some ((k, w) :: fs)

end

-- ════════════════════════════════════════════════════════════════════════
-- Values without surrogates
-- ════════════════════════════════════════════════════════════════════════

mutual

/-- The values without surrogates. -/
theorem json?_eq_some : ∀ {v : PyJson} {j : Json}, json? v = some j ↔ v = ofJson j
  | .null, j => by cases j <;> simp [json?, ofJson]
  | .bool b, j => by cases j <;> simp [json?, ofJson]
  | .int n, j => by cases j <;> simp [json?, ofJson]
  | .float q, j => by cases j <;> simp [json?, ofJson]
  | .str s, j => by cases j <;> simp [json?, ofJson, PyStr.unicode_eq_some]
  | .arr items, j => by cases j <;> simp [json?, ofJson, jsonItems?_eq_some]
  | .obj members, j => by cases j <;> simp [json?, ofJson, jsonFields?_eq_some]

theorem jsonItems?_eq_some : ∀ {vs : List PyJson} {js : List Json},
    jsonItems? vs = some js ↔ vs = ofItems js
  | [], js => by cases js <;> simp [jsonItems?, ofItems]
  | v :: vs, js => by
    cases js <;> simp [jsonItems?, ofItems, Option.bind_eq_some_iff, json?_eq_some,
      jsonItems?_eq_some]

theorem jsonFields?_eq_some : ∀ {members : List (PyStr × PyJson)} {fields : List (String × Json)},
    jsonFields? members = some fields ↔ members = ofFields fields
  | [], fields => by cases fields <;> simp [jsonFields?, ofFields]
  | (name, v) :: rest, fields => by
    rcases fields with _ | ⟨⟨k, w⟩, fields⟩
    · simp [jsonFields?, ofFields, Option.bind_eq_some_iff]
    · simp [jsonFields?, ofFields, Option.bind_eq_some_iff, PyStr.unicode_eq_some, json?_eq_some,
        jsonFields?_eq_some, and_assoc]

end

@[simp] theorem json?_ofJson (j : Json) : json? (ofJson j) = some j := json?_eq_some.mpr rfl

-- ════════════════════════════════════════════════════════════════════════
-- Order of entries
-- ════════════════════════════════════════════════════════════════════════

lemma spellableMembers_ofFields {fields : List (String × Json)} :
    spellableMembers (ofFields fields) = true ↔ ∀ p ∈ fields, spellable (ofJson p.2) = true := by
  induction fields with
  | nil => simp [ofFields, spellableMembers]
  | cons p fields ih => simp [ofFields, spellableMembers, ih]

mutual

/-- The order of the entries of an object does not matter. -/
theorem spellable_canon : ∀ v : Json, spellable (ofJson v.canon) = spellable (ofJson v)
  | .null => rfl
  | .bool _ => rfl
  | .int _ => rfl
  | .float _ => rfl
  | .str _ => rfl
  | .arr items => by simp only [Json.canon, ofJson, spellable, spellableItems_canon items]
  | .obj fields => by
    have hperm := Json.perm_sortFields (Json.canonFields fields)
    rw [Bool.eq_iff_iff]
    simp only [Json.canon, ofJson, spellable, spellableMembers_ofFields]
    rw [← spellableFields_canon fields]
    exact ⟨fun h p hp => h p (hperm.mem_iff.mpr hp), fun h p hp => h p (hperm.mem_iff.mp hp)⟩

theorem spellableItems_canon : ∀ items : List Json,
    spellableItems (ofItems (Json.canonItems items)) = spellableItems (ofItems items)
  | [] => rfl
  | v :: vs => by
    simp only [Json.canonItems, ofItems, spellableItems, spellable_canon v, spellableItems_canon vs]

theorem spellableFields_canon : ∀ fields : List (String × Json),
    (∀ p ∈ Json.canonFields fields, spellable (ofJson p.2) = true) ↔
      ∀ p ∈ fields, spellable (ofJson p.2) = true
  | [] => by simp [Json.canonFields]
  | (k, v) :: fs => by
    rw [Json.canonFields, List.forall_mem_cons, List.forall_mem_cons, spellable_canon v,
      spellableFields_canon fs]

end

end PyJson
