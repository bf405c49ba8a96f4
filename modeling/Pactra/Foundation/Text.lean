import Mathlib.Tactic.Common

/-!
# Decimal texts

Numbers written in decimal can be read back, and where one ends can be told from the next character.

## Main results

- `Text.utf8_eq_flatMap` — the bytes of a text, character by character
- `Text.run_append_inj` — runs of one kind of characters that start one text are the same
- `Text.repr_injective`, `Text.toString_int_injective` — decimal numbers
-/

namespace Text

/-- The bytes of a text are those of its characters. -/
theorem utf8_eq_flatMap (s : String) :
    s.toUTF8.data.toList = s.toList.flatMap String.utf8EncodeChar := by
  rw [String.toUTF8_eq_toByteArray, ← String.utf8Encode_toList, List.utf8Encode]
  simp

/-- A run of characters with a property ends here. -/
def Ends (p : Char → Bool) (r : List Char) : Prop := ∀ c ∈ r.head?, p c = false

lemma Ends.cons {p : Char → Bool} {c : Char} (h : p c = false) (r : List Char) :
    Ends p (c :: r) := by
  intro d hd
  obtain rfl : c = d := by simpa using hd
  exact h

/-- Two runs of characters that start one text are the same. -/
theorem run_append_inj {p : Char → Bool} {a b r r' : List Char} (ha : ∀ c ∈ a, p c = true)
    (hb : ∀ c ∈ b, p c = true) (hr : Ends p r) (hr' : Ends p r') (h : a ++ r = b ++ r') :
    a = b ∧ r = r' := by
  induction a generalizing b with
  | nil =>
    cases b with
    | nil => exact ⟨rfl, h⟩
    | cons d b =>
      have hstop := hr d (by simp [show r = d :: (b ++ r') from h])
      rw [hb d List.mem_cons_self] at hstop
      cases hstop
  | cons c a ih =>
    cases b with
    | nil =>
      have hstop := hr' c (by simp [show r' = c :: (a ++ r) from h.symm])
      rw [ha c List.mem_cons_self] at hstop
      cases hstop
    | cons d b =>
      obtain ⟨rfl, htail⟩ := List.cons.inj h
      obtain ⟨rfl, hrest⟩ := ih (fun x hx => ha x (List.mem_cons_of_mem _ hx))
        (fun x hx => hb x (List.mem_cons_of_mem _ hx)) htail
      exact ⟨rfl, hrest⟩

/-- A natural number in decimal can be read back. -/
theorem repr_injective {m n : Nat} (h : Nat.repr m = Nat.repr n) : m = n := by
  have hdigits : Nat.toDigits 10 m = Nat.toDigits 10 n := by
    rw [← Nat.toList_repr, ← Nat.toList_repr, h]
  rw [← Nat.ofDigitChars_ten_toDigits (n := m), hdigits, Nat.ofDigitChars_ten_toDigits]

lemma isDigit_repr (n : Nat) : ∀ c ∈ (Nat.repr n).toList, c.isDigit = true := by
  intro c hc
  rw [Nat.toList_repr] at hc
  exact Nat.isDigit_of_mem_toDigits (by decide) (by decide) hc

/-- A negative number starts with a sign, any other with a digit. -/
lemma toString_int_cases (n : Int) : (0 ≤ n ∧ toString n = Nat.repr n.toNat) ∨
    (n < 0 ∧ toString n = "-" ++ Nat.repr (-n).toNat) := by
  rw [Int.toString_eq_repr, Int.repr_eq_if]
  split
  · next hn => exact .inl ⟨hn, rfl⟩
  · next hn => exact .inr ⟨by omega, rfl⟩

theorem toString_int_injective {m n : Int} (h : toString m = toString n) : m = n := by
  have hsign : ∀ a b, Nat.repr a ≠ "-" ++ Nat.repr b := by
    intro a b heq
    have hmem : '-' ∈ (Nat.repr a).toList := by simp [heq]
    exact absurd (isDigit_repr a '-' hmem) (by decide)
  rcases toString_int_cases m with ⟨hm, hm'⟩ | ⟨hm, hm'⟩ <;>
    rcases toString_int_cases n with ⟨hn, hn'⟩ | ⟨hn, hn'⟩ <;> rw [hm', hn'] at h
  · have := repr_injective h
    omega
  · exact absurd h (hsign _ _)
  · exact absurd h.symm (hsign _ _)
  · have hrest : Nat.repr (-m).toNat = Nat.repr (-n).toNat := by
      have := congrArg String.toList h
      simp only [String.toList_append] at this
      exact String.toList_inj.mp (List.append_cancel_left this)
    have := repr_injective hrest
    omega

end Text
