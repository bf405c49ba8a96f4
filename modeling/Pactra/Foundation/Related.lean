import Mathlib.Data.List.Forall2
import Mathlib.Data.List.Sort

/-!
# Lists related item by item

Two lists are related when they have the same length and their items are, position by position. What
an operation on lists does is decided by tests on the items, so it takes related lists to related
results as soon as the tests cannot tell related items apart. A list is interleaved from two others
when these are its items in two parts, each in order.

## Main results

- `Related.insertionSort` — stable sorting makes the same choices on both lists
- `Related.find?`, `Related.head?` — a search ends at the same position
- `Related.map_eq` — a function that cannot tell related items apart
- `Interleaved.insertionSort` — stable sorting of an interleaving interleaves the sorted lists
-/

namespace Related

variable {α β γ : Type} {R : α → β → Prop} {l₁ : List α} {l₂ : List β}

theorem orderedInsert {r : α → α → Prop} {s : β → β → Prop} [DecidableRel r] [DecidableRel s]
    (h : ∀ a b a' b', R a b → R a' b' → (r a a' ↔ s b b')) {a : α} {b : β} (hab : R a b)
    (hl : List.Forall₂ R l₁ l₂) :
    List.Forall₂ R (l₁.orderedInsert r a) (l₂.orderedInsert s b) := by
  induction hl with
  | nil => exact .cons hab .nil
  | @cons a' b' l₁ l₂ hab' hl ih =>
    by_cases hr : r a a'
    · rw [List.orderedInsert_cons, List.orderedInsert_cons, if_pos hr, if_pos ((h a b a' b' hab hab').mp hr)]
      exact .cons hab (.cons hab' hl)
    · rw [List.orderedInsert_cons, List.orderedInsert_cons, if_neg hr,
        if_neg fun hs => hr ((h a b a' b' hab hab').mpr hs)]
      exact .cons hab' ih

/-- Sorting by orders that agree on related items keeps the lists related. -/
theorem insertionSort {r : α → α → Prop} {s : β → β → Prop} [DecidableRel r] [DecidableRel s]
    (h : ∀ a b a' b', R a b → R a' b' → (r a a' ↔ s b b')) (hl : List.Forall₂ R l₁ l₂) :
    List.Forall₂ R (l₁.insertionSort r) (l₂.insertionSort s) := by
  induction hl with
  | nil => exact .nil
  | cons hab hl ih => exact orderedInsert h hab ih

/-- A search by tests that agree on related items ends at related items, or at none. -/
theorem find? {p : α → Bool} {q : β → Bool} (h : ∀ a b, R a b → p a = q b)
    (hl : List.Forall₂ R l₁ l₂) : Option.Rel R (l₁.find? p) (l₂.find? q) := by
  induction hl with
  | nil => exact .none
  | @cons a b l₁ l₂ hab hl ih =>
    rw [List.find?_cons, List.find?_cons, h a b hab]
    cases q b with
    | true => exact .some hab
    | false => exact ih

theorem head? (hl : List.Forall₂ R l₁ l₂) : Option.Rel R l₁.head? l₂.head? := by
  cases hl with
  | nil => exact .none
  | cons hab => exact .some hab

theorem map_eq {f : α → γ} {g : β → γ} (h : ∀ a b, R a b → f a = g b)
    (hl : List.Forall₂ R l₁ l₂) : l₁.map f = l₂.map g := by
  induction hl with
  | nil => rfl
  | cons hab hl ih => rw [List.map_cons, List.map_cons, h _ _ hab, ih]

theorem filter {p : α → Bool} {q : β → Bool} (h : ∀ a b, R a b → p a = q b)
    (hl : List.Forall₂ R l₁ l₂) : List.Forall₂ R (l₁.filter p) (l₂.filter q) := by
  induction hl with
  | nil => exact .nil
  | @cons a b l₁ l₂ hab hl ih =>
    rw [List.filter_cons, List.filter_cons, h a b hab]
    cases q b with
    | true => exact .cons hab ih
    | false => exact ih

theorem countP_eq {p : α → Bool} {q : β → Bool} (h : ∀ a b, R a b → p a = q b)
    (hl : List.Forall₂ R l₁ l₂) : l₁.countP p = l₂.countP q := by
  rw [List.countP_eq_length_filter, List.countP_eq_length_filter]
  exact (filter h hl).length_eq

theorem findSome?_eq {f : α → Option γ} {g : β → Option γ} (h : ∀ a b, R a b → f a = g b)
    (hl : List.Forall₂ R l₁ l₂) : l₁.findSome? f = l₂.findSome? g := by
  induction hl with
  | nil => rfl
  | cons hab hl ih => rw [List.findSome?_cons, List.findSome?_cons, h _ _ hab, ih]

end Related

-- ════════════════════════════════════════════════════════════════════════
-- Interleavings
-- ════════════════════════════════════════════════════════════════════════

/-- The third list holds the items of the first two, those of each in their order. -/
inductive Interleaved {α : Type} : List α → List α → List α → Prop where
  | nil : Interleaved [] [] []
  | left (a : α) {xs ys zs : List α} (h : Interleaved xs ys zs) : Interleaved (a :: xs) ys (a :: zs)
  | right (a : α) {xs ys zs : List α} (h : Interleaved xs ys zs) : Interleaved xs (a :: ys) (a :: zs)

namespace Interleaved

variable {α : Type} {xs ys zs : List α} {r : α → α → Prop} [DecidableRel r]

theorem symm (h : Interleaved xs ys zs) : Interleaved ys xs zs := by
  induction h with
  | nil => exact .nil
  | left a _ ih => exact .right a ih
  | right a _ ih => exact .left a ih

theorem mem_iff (h : Interleaved xs ys zs) {a : α} : a ∈ zs ↔ a ∈ xs ∨ a ∈ ys := by
  induction h with
  | nil => simp
  | left b _ ih => simp [ih, or_assoc]
  | right b _ ih => simp [ih, or_left_comm]

/-- Inserting into one of the lists and into a sorted interleaving. -/
theorem orderedInsert [IsTrans α r] (h : Interleaved xs ys zs) (hsorted : zs.Pairwise r) (a : α) :
    Interleaved (xs.orderedInsert r a) ys (zs.orderedInsert r a) := by
  induction h with
  | nil => exact .left a .nil
  | @left x xs ys zs h ih =>
    rw [List.orderedInsert_cons, List.orderedInsert_cons]
    by_cases hr : r a x
    · rw [if_pos hr, if_pos hr]
      exact .left a (.left x h)
    · rw [if_neg hr, if_neg hr]
      exact .left x (ih hsorted.of_cons)
  | @right y xs ys zs h ih =>
    rw [List.orderedInsert_cons]
    by_cases hr : r a y
    · -- all that follows comes after `y`, so `a` also goes before every item of `xs`
      have hfirst : xs.orderedInsert r a = a :: xs := by
        cases xs with
        | nil => rfl
        | cons x xs =>
          have hyx : r y x := List.rel_of_pairwise_cons hsorted (h.mem_iff.mpr (.inl (by simp)))
          rw [List.orderedInsert_cons, if_pos (IsTrans.trans _ _ _ hr hyx)]
      rw [if_pos hr, hfirst]
      exact .left a (.right y h)
    · rw [if_neg hr]
      exact .right y (ih hsorted.of_cons)

/-- Stable sorting of an interleaving interleaves the sorted lists. -/
theorem insertionSort [IsTrans α r] [Std.Total r] (h : Interleaved xs ys zs) :
    Interleaved (xs.insertionSort r) (ys.insertionSort r) (zs.insertionSort r) := by
  induction h with
  | nil => exact .nil
  | left a _ ih => exact ih.orderedInsert (List.pairwise_insertionSort r _) a
  | right a _ ih => exact (ih.symm.orderedInsert (List.pairwise_insertionSort r _) a).symm

end Interleaved
