import Mathlib.Data.List.Nodup
import Mathlib.Data.String.Basic
import Mathlib.Data.Rat.Defs
import Mathlib.Tactic.Common

/-!
# JSON documents on the wire

A document is what a JSON text says: its objects are lists of members, in which a name may occur
more than once, and its numbers may overflow or not be numbers. Decoding makes a mapping of every
object. Of several members with one name the last one counts, in the place of the first.

## Main results

- `Wire.nodup_mapping` — a mapping has no name twice
- `Wire.mapping_eq_self` — members with distinct names are their own mapping
- `Wire.names_mapping` — a mapping has the names of its members
-/

namespace Wire

/-- A floating-point number: a finite one by its exact value. -/
inductive Float where
  | finite (q : Rat)
  | infinity (negative : Bool)
  | nan
deriving DecidableEq

/-- A document, or a value that was decoded from one, over some texts and floating-point numbers. -/
inductive Value (τ φ : Type) where
  | null
  | bool (b : Bool)
  | int (n : Int)
  | float (x : φ)
  | str (s : τ)
  | arr (items : List (Value τ φ))
  | obj (members : List (τ × Value τ φ))

section Decoding

variable {τ φ α : Type} [DecidableEq τ]

/-- The names of members. -/
def names {τ : Type} (members : List (τ × α)) : List τ := members.map Prod.fst

/-- Assign to a name, in its place when it is present. -/
def assign : List (τ × α) → τ → α → List (τ × α)
  | [], name, v => [(name, v)]
  | (k, w) :: d, name, v => if k = name then (k, v) :: d else (k, w) :: assign d name v

/-- The mapping that members build, from a mapping on. -/
def mappingFrom : List (τ × α) → List (τ × α) → List (τ × α)
  | d, [] => d
  | d, (name, v) :: rest => mappingFrom (assign d name v) rest

/-- The mapping of an object. -/
def mapping (members : List (τ × α)) : List (τ × α) := mappingFrom [] members

mutual

/-- What `json.loads` makes of a document. -/
def decode : Value τ φ → Value τ φ
  | .null => .null
  | .bool b => .bool b
  | .int n => .int n
  | .float x => .float x
  | .str s => .str s
  | .arr items => .arr (decodeItems items)
  | .obj members => .obj (mapping (decodeMembers members))

def decodeItems : List (Value τ φ) → List (Value τ φ)
  | [] => []
  | v :: vs => decode v :: decodeItems vs

def decodeMembers : List (τ × Value τ φ) → List (τ × Value τ φ)
  | [] => []
  | (name, v) :: rest => (name, decode v) :: decodeMembers rest

end

end Decoding

-- ════════════════════════════════════════════════════════════════════════
-- Integers
-- ════════════════════════════════════════════════════════════════════════

section Spelling

variable {τ φ : Type}

/-- How many digits of an integer the interpreter converts. -/
def maxStrDigits : Nat := 4300

/-- Whether an integer has a decimal spelling. Its bound is too large a number to be computed in
passing. -/
@[irreducible] def spellsInt (n : Int) : Bool := n.natAbs < 10 ^ maxStrDigits

lemma spellsInt_of_lt {n : Int} (h : n.natAbs < 10 ^ 9) : spellsInt n = true := by
  unfold spellsInt
  exact decide_eq_true (Nat.lt_of_lt_of_le h (Nat.pow_le_pow_right (by decide) (by decide)))

mutual

/-- Whether every integer of a value has a decimal spelling. -/
def spellable : Value τ φ → Bool
  | .int n => spellsInt n
  | .arr items => spellableItems items
  | .obj members => spellableMembers members
  | _ => true

def spellableItems : List (Value τ φ) → Bool
  | [] => true
  | v :: vs => spellable v && spellableItems vs

def spellableMembers : List (τ × Value τ φ) → Bool
  | [] => true
  | (_, v) :: rest => spellable v && spellableMembers rest

end

end Spelling

-- ════════════════════════════════════════════════════════════════════════
-- Comparison
-- ════════════════════════════════════════════════════════════════════════

/-- Floating-point numbers, of which the finite ones have an exact value. -/
class FloatingPoint (φ : Type) where
  value : φ → Option Rat

instance : FloatingPoint Rat := ⟨some⟩

instance : FloatingPoint Float where
  value
    | .finite q => some q
    | .infinity _ => none
    | .nan => none

section Comparison

variable {τ φ : Type} [FloatingPoint φ]

/-- The number a value counts as in a comparison, if it is a finite one; a boolean counts as 0
or 1. -/
def Value.number : Value τ φ → Option Rat
  | .bool b => some (if b then 1 else 0)
  | .int n => some n
  | .float x => FloatingPoint.value x
  | _ => none

variable [DecidableEq τ] [DecidableEq φ]

mutual

/-- The comparison `==` of two decoded values. Numbers compare by value, whatever their type, and
objects by their members, in whatever order. A decoder makes one object of not-a-number, which is
equal to itself inside a container. -/
def Value.pyEq : Value τ φ → Value τ φ → Bool
  | .null, b => match b with
    | .null => true
    | _ => false
  | .str s, b => match b with
    | .str t => s == t
    | _ => false
  | .arr items, b => match b with
    | .arr items' => pyEqItems items items'
    | _ => false
  | .obj members, b => match b with
    | .obj members' => members.length == members'.length && pyEqMembers members members'
    | _ => false
  | .float x, b => match b with
    | .float y => x == y
    | b => match FloatingPoint.value x, b.number with
      | some p, some q => p == q
      | _, _ => false
  | a, b => match a.number, b.number with
    | some p, some q => p == q
    | _, _ => false

/-- Arrays compare item by item. -/
def pyEqItems : List (Value τ φ) → List (Value τ φ) → Bool
  | [], items => items.isEmpty
  | _ :: _, [] => false
  | v :: vs, w :: ws => Value.pyEq v w && pyEqItems vs ws

/-- Whether every member has an equal one in another object. -/
def pyEqMembers : List (τ × Value τ φ) → List (τ × Value τ φ) → Bool
  | [], _ => true
  | (k, v) :: members, d =>
    (match d.lookup k with
      | some w => Value.pyEq v w
      | none => false) && pyEqMembers members d

end

@[simp] theorem Value.pyEq_null : (Value.null : Value τ φ).pyEq .null = true := rfl

@[simp] theorem Value.pyEq_int (n : Int) : (Value.int n : Value τ φ).pyEq (.int n) = true := by
  simp [pyEq, number]

@[simp] theorem Value.pyEq_float (x : φ) : (Value.float x : Value τ φ).pyEq (.float x) = true := by
  simp [pyEq]

@[simp] theorem Value.pyEq_str (s : τ) : (Value.str s : Value τ φ).pyEq (.str s) = true := by
  simp [pyEq]

@[simp] theorem Value.pyEq_texts (l : List τ) :
    (Value.arr (l.map .str) : Value τ φ).pyEq (.arr (l.map .str)) = true := by
  rw [pyEq]
  induction l with
  | nil => rfl
  | cons s l ih => simpa [pyEqItems] using ih

end Comparison

-- ════════════════════════════════════════════════════════════════════════
-- Mappings
-- ════════════════════════════════════════════════════════════════════════

section Mapping

variable {τ α : Type} [DecidableEq τ] {d members : List (τ × α)} {name : τ} {v : α}

theorem names_assign :
    names (assign d name v) = if name ∈ names d then names d else names d ++ [name] := by
  induction d with
  | nil => rfl
  | cons p d ih =>
    obtain ⟨k, w⟩ := p
    by_cases hk : k = name
    · simp [assign, names, hk]
    · have hname : name ≠ k := Ne.symm hk
      simp only [assign, if_neg hk]
      rw [names, List.map_cons, ← names, ih]
      by_cases hmem : name ∈ names d
      · have hmem' : name ∈ names ((k, w) :: d) := List.mem_cons_of_mem _ hmem
        rw [if_pos hmem, if_pos hmem']
        rfl
      · have hmem' : name ∉ names ((k, w) :: d) := by
          rintro (_ | ⟨_, h⟩)
          · exact hname rfl
          · exact hmem h
        rw [if_neg hmem, if_neg hmem']
        rfl

theorem assign_of_notMem (h : name ∉ names d) : assign d name v = d ++ [(name, v)] := by
  induction d with
  | nil => rfl
  | cons p d ih =>
    obtain ⟨k, w⟩ := p
    have hk : k ≠ name := fun hk => h (hk ▸ List.mem_cons_self)
    rw [assign, if_neg hk, ih fun hmem => h (List.mem_cons_of_mem _ hmem)]
    rfl

/-- A mapping has the names of its members. -/
theorem mem_names_mappingFrom :
    name ∈ names (mappingFrom d members) ↔ name ∈ names d ∨ name ∈ names members := by
  induction members generalizing d with
  | nil => simp [mappingFrom, names]
  | cons p members ih =>
    obtain ⟨k, w⟩ := p
    rw [mappingFrom, ih, names_assign]
    by_cases hk : k ∈ names d
    · rw [if_pos hk]
      simp only [names, List.map_cons, List.mem_cons]
      constructor
      · rintro (h | h)
        · exact .inl h
        · exact .inr (.inr h)
      · rintro (h | rfl | h)
        · exact .inl h
        · exact .inl hk
        · exact .inr h
    · rw [if_neg hk]
      simp [names, or_assoc]

theorem nodup_mappingFrom (h : (names d).Nodup) : (names (mappingFrom d members)).Nodup := by
  induction members generalizing d with
  | nil => exact h
  | cons p members ih =>
    obtain ⟨k, w⟩ := p
    refine ih ?_
    rw [names_assign]
    split
    · exact h
    · next hk => exact h.append (List.nodup_singleton k) (by simpa using hk)

/-- A mapping has no name twice. -/
theorem nodup_mapping : (names (mapping members)).Nodup := nodup_mappingFrom List.nodup_nil

theorem names_mapping : name ∈ names (mapping members) ↔ name ∈ names members := by
  rw [mapping, mem_names_mappingFrom]
  simp [names]

theorem mappingFrom_eq_append (h : (names (d ++ members)).Nodup) :
    mappingFrom d members = d ++ members := by
  induction members generalizing d with
  | nil => rw [mappingFrom, List.append_nil]
  | cons p members ih =>
    obtain ⟨k, w⟩ := p
    have hk : k ∉ names d := by
      intro hmem
      rw [names, List.map_append] at h
      exact List.disjoint_of_nodup_append h hmem List.mem_cons_self
    rw [mappingFrom, assign_of_notMem hk, ih (by simpa using h), List.append_assoc]
    rfl

/-- Members with distinct names are their own mapping. -/
theorem mapping_eq_self (h : (names members).Nodup) : mapping members = members :=
  mappingFrom_eq_append h

end Mapping

theorem names_decodeMembers {τ φ : Type} [DecidableEq τ] (members : List (τ × Value τ φ)) :
    names (decodeMembers members) = names members := by
  induction members with
  | nil => rfl
  | cons p members ih =>
    obtain ⟨k, w⟩ := p
    rw [decodeMembers, names, List.map_cons, ← names, ih]
    rfl

end Wire
