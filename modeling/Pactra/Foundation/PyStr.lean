import Mathlib.Data.List.Sort
import Mathlib.Data.String.Basic

/-!
# Python texts

A text is a sequence of code points, and a lone surrogate is one of them: a JSON text spells it with
an escape. A text with a surrogate cannot be encoded as UTF-8.

## Main results

- `PyStr.unicode_eq_some` — the texts that can be encoded are those of characters
-/

/-- A code point: a character, or a surrogate by its offset from `U+D800`. -/
inductive CodePoint where
  | char (c : Char)
  | surrogate (offset : Fin 2048)
deriving DecidableEq

/-- The number of a code point. -/
def CodePoint.toNat : CodePoint → Nat
  | .char c => c.toNat
  | .surrogate offset => 55296 + offset

/-- A text. -/
structure PyStr where
  points : List CodePoint
deriving DecidableEq

namespace PyStr

/-- A text of characters. -/
def ofString (s : String) : PyStr := ⟨s.toList.map .char⟩

instance : Coe String PyStr := ⟨ofString⟩

instance : Append PyStr := ⟨fun s t => ⟨s.points ++ t.points⟩⟩

/-- `len`. -/
def length (s : PyStr) : Nat := s.points.length

@[simp] theorem length_ofString (s : String) : (ofString s).length = s.length := by
  rw [length, ofString, List.length_map, String.length_toList]

/-- Texts are compared by the numbers of their code points. -/
instance : LE PyStr := ⟨fun s t => s.points.map CodePoint.toNat ≤ t.points.map CodePoint.toNat⟩

instance (s t : PyStr) : Decidable (s ≤ t) :=
  inferInstanceAs (Decidable (s.points.map CodePoint.toNat ≤ t.points.map CodePoint.toNat))

/-- The characters, when there is no surrogate. -/
def characters : List CodePoint → Option (List Char)
  | [] => some []
  | .char c :: rest => (characters rest).map (c :: ·)
  | .surrogate _ :: _ => none

/-- The text as one of characters, when it holds no surrogate. -/
def unicode (s : PyStr) : Option String := (characters s.points).map String.ofList

lemma characters_eq_none {points : List CodePoint} :
    characters points = none ↔ ∃ offset, CodePoint.surrogate offset ∈ points := by
  induction points with
  | nil => simp [characters]
  | cons point rest ih =>
    cases point with
    | char c => simp [characters, ih]
    | surrogate offset =>
      simp only [characters, true_iff]
      exact ⟨offset, List.mem_cons_self⟩

lemma characters_eq_some {points : List CodePoint} {cs : List Char} :
    characters points = some cs ↔ points = cs.map .char := by
  induction points generalizing cs with
  | nil => cases cs <;> simp [characters]
  | cons point rest ih =>
    cases point with
    | char c =>
      cases cs with
      | nil => simp [characters]
      | cons d cs => simp [characters, ih, and_comm]
    | surrogate offset => cases cs <;> simp [characters]

/-- The texts that can be encoded are those of characters. -/
theorem unicode_eq_some {s : PyStr} {t : String} : s.unicode = some t ↔ s = t := by
  obtain ⟨points⟩ := s
  rw [unicode, Option.map_eq_some_iff]
  constructor
  · rintro ⟨cs, hcs, rfl⟩
    rw [ofString, String.toList_ofList, ← characters_eq_some.mp hcs]
  · intro h
    have hpoints : points = t.toList.map .char := congrArg PyStr.points h
    exact ⟨t.toList, characters_eq_some.mpr hpoints, String.ofList_toList⟩

@[simp] theorem unicode_ofString (s : String) : (ofString s).unicode = some s :=
  unicode_eq_some.mpr rfl

theorem unicode_eq_none {s : PyStr} :
    s.unicode = none ↔ ∃ offset, CodePoint.surrogate offset ∈ s.points := by
  rw [unicode, Option.map_eq_none_iff, characters_eq_none]

theorem ofString_injective : Function.Injective ofString := by
  intro s t h
  have hunicode := unicode_ofString t
  rwa [← h, unicode_ofString, Option.some.injEq] at hunicode

end PyStr
