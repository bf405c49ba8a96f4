import Pactra.Foundation.Numeric
import Pactra.Foundation.Text

/-!
# Civil dates can be read back

The proleptic Gregorian date of a day determines the day, and a number padded with zeros determines
the number. A cycle of four hundred years has 146097 days; it is split into centuries, cycles of four
years and years, of which the last ones are a day longer.

## Main results

- `Numeric.civilFromDays_injective` — dates determine days
- `Numeric.zeroPad_injective` — padded numbers
-/

namespace Numeric

/-- A quotient between its bounds. -/
lemma ediv_eq {a b k : Int} (hb : 0 < b) (h₁ : k * b ≤ a) (h₂ : a < (k + 1) * b) : a / b = k :=
  Int.le_antisymm (Int.lt_add_one_iff.mp (Int.ediv_lt_of_lt_mul hb h₂))
    (Int.le_ediv_of_mul_le hb h₁)

/-- A day of the cycle, by century, cycle of four years, year and day of the year. -/
lemma split_cycle {doe : Int} (h₀ : 0 ≤ doe) (h₁ : doe < 146097) :
    ∃ c q t u : Int, doe = 36524 * c + 1461 * q + 365 * t + u ∧ (0 ≤ c ∧ c ≤ 3) ∧
      (0 ≤ q ∧ q ≤ 24) ∧ (0 ≤ t ∧ t ≤ 3) ∧ (0 ≤ u ∧ u ≤ 365) ∧ (t < 3 → u < 365) ∧
      (c < 3 → 1461 * q + 365 * t + u < 36524) := by
  obtain ⟨c, r, hdoe, hc, hr, hlast⟩ : ∃ c r : Int, doe = 36524 * c + r ∧ (0 ≤ c ∧ c ≤ 3) ∧
      (0 ≤ r ∧ r ≤ 36524) ∧ (c < 3 → r < 36524) := by
    by_cases h : 109572 ≤ doe
    · exact ⟨3, doe - 109572, by omega⟩
    · exact ⟨doe / 36524, doe % 36524, by omega⟩
  obtain ⟨q, s, hr', hq, hs⟩ : ∃ q s : Int, r = 1461 * q + s ∧ (0 ≤ q ∧ q ≤ 24) ∧
      (0 ≤ s ∧ s ≤ 1460) := ⟨r / 1461, r % 1461, by omega⟩
  obtain ⟨t, u, hs', ht, hu, hu'⟩ : ∃ t u : Int, s = 365 * t + u ∧ (0 ≤ t ∧ t ≤ 3) ∧
      (0 ≤ u ∧ u ≤ 365) ∧ (t < 3 → u < 365) := by
    by_cases h : 1095 ≤ s
    · exact ⟨3, s - 1095, by omega⟩
    · exact ⟨s / 365, s % 365, by omega⟩
  exact ⟨c, q, t, u, by omega, hc, hq, ht, hu, hu', by omega⟩

/-- The year of the cycle and the day of the year, as they are computed. -/
lemma year_of_cycle {doe : Int} (h₀ : 0 ≤ doe) (h₁ : doe < 146097) :
    ∃ yoe doy : Int, (doe - doe / 1460 + doe / 36524 - doe / 146096) / 365 = yoe ∧
      doe - (365 * yoe + yoe / 4 - yoe / 100) = doy ∧ (0 ≤ yoe ∧ yoe < 400) ∧
      (0 ≤ doy ∧ doy ≤ 365) := by
  obtain ⟨c, q, t, u, hdoe, hc, hq, ht, hu, hu', hr⟩ := split_cycle h₀ h₁
  have hcentury : doe / 36524 - doe / 146096 = c := by
    by_cases hlast : doe = 146096
    · omega
    · have h₁ : doe / 36524 = c := ediv_eq (by decide) (by omega) (by omega)
      have h₂ : doe / 146096 = 0 := ediv_eq (by decide) (by omega) (by omega)
      omega
  have hyoe : (doe - doe / 1460 + doe / 36524 - doe / 146096) / 365 = 100 * c + 4 * q + t := by
    by_cases h : 1460 ≤ 24 * c + q + 365 * t + u
    · have hfour : doe / 1460 = 25 * c + q + 1 := ediv_eq (by decide) (by omega) (by omega)
      exact ediv_eq (by decide) (by omega) (by omega)
    · have hfour : doe / 1460 = 25 * c + q := ediv_eq (by decide) (by omega) (by omega)
      exact ediv_eq (by decide) (by omega) (by omega)
  have hquarter : (100 * c + 4 * q + t) / 4 = 25 * c + q :=
    ediv_eq (by decide) (by omega) (by omega)
  have hhundred : (100 * c + 4 * q + t) / 100 = c := ediv_eq (by decide) (by omega) (by omega)
  refine ⟨_, u, hyoe, ?_, by omega, hu⟩
  rw [hquarter, hhundred]
  omega

/-- The date of a day. The year starts in March, so the last two months belong to the next one. -/
lemma civilFromDays_cases (days : Int) : ∃ era yoe doy mp : Int,
    days + 719468 = era * 146097 + (365 * yoe + yoe / 4 - yoe / 100) + doy ∧
    (0 ≤ yoe ∧ yoe < 400) ∧ (0 ≤ doy ∧ doy ≤ 365) ∧ mp = (5 * doy + 2) / 153 ∧
    ((mp < 10 ∧ civilFromDays days =
        ⟨yoe + era * 400, mp + 3, doy - (153 * mp + 2) / 5 + 1⟩) ∨
      (10 ≤ mp ∧ civilFromDays days =
        ⟨yoe + era * 400 + 1, mp - 9, doy - (153 * mp + 2) / 5 + 1⟩)) := by
  have h₀ : 0 ≤ (days + 719468) % 146097 := Int.emod_nonneg _ (by decide)
  have h₁ : (days + 719468) % 146097 < 146097 := Int.emod_lt_of_pos _ (by decide)
  obtain ⟨yoe, doy, hyoe, hdoy, hyoe', hdoy'⟩ := year_of_cycle h₀ h₁
  refine ⟨(days + 719468) / 146097, yoe, doy, _, by omega, hyoe', hdoy', rfl, ?_⟩
  simp only [civilFromDays, hyoe, hdoy]
  by_cases hlate : (5 * doy + 2) / 153 < 10
  · have hmonth : ¬(5 * doy + 2) / 153 + 3 ≤ 2 := by omega
    exact .inl ⟨hlate, by simp only [if_pos hlate, if_neg hmonth, Int.add_zero]⟩
  · have hmonth : (5 * doy + 2) / 153 - 9 ≤ 2 := by omega
    exact .inr ⟨by omega, by simp only [if_neg hlate, if_pos hmonth]⟩

/-- The day of a civil date. -/
def daysFromCivil (date : CivilDate) : Int :=
  let year := if date.month ≤ 2 then date.year - 1 else date.year
  let yoe := year % 400
  let mp := if date.month ≤ 2 then date.month + 9 else date.month - 3
  let doy := (153 * mp + 2) / 5 + date.day - 1
  year / 400 * 146097 + (365 * yoe + yoe / 4 - yoe / 100) + doy - 719468

/-- Dates are those of their days. -/
theorem daysFromCivil_civilFromDays (days : Int) : daysFromCivil (civilFromDays days) = days := by
  obtain ⟨era, yoe, doy, mp, hdays, hyoe, hdoy, hmp, hcases⟩ := civilFromDays_cases days
  have hera : (yoe + era * 400) / 400 = era := ediv_eq (by decide) (by omega) (by omega)
  have hrest : (yoe + era * 400) % 400 = yoe := by omega
  rcases hcases with ⟨hlate, hdate⟩ | ⟨hlate, hdate⟩
  · have hmonth : ¬mp + 3 ≤ 2 := by omega
    have hback : mp + 3 - 3 = mp := by omega
    simp only [hdate, daysFromCivil, if_neg hmonth, hera, hrest, hback]
    omega
  · have hmonth : mp - 9 ≤ 2 := by omega
    have hyear : yoe + era * 400 + 1 - 1 = yoe + era * 400 := by omega
    have hback : mp - 9 + 9 = mp := by omega
    simp only [hdate, daysFromCivil, if_pos hmonth, hyear, hera, hrest, hback]
    omega

theorem civilFromDays_injective {a b : Int} (h : civilFromDays a = civilFromDays b) : a = b := by
  rw [← daysFromCivil_civilFromDays a, h, daysFromCivil_civilFromDays]

/-- From the start of the calendar on, the parts of a date are not negative. -/
lemma civilFromDays_nonneg {days : Int} (h : -719468 ≤ days) :
    0 ≤ (civilFromDays days).year ∧ 0 ≤ (civilFromDays days).month ∧
      0 ≤ (civilFromDays days).day := by
  obtain ⟨era, yoe, doy, mp, hdays, hyoe, hdoy, hmp, hcases⟩ := civilFromDays_cases days
  have hera : 0 ≤ era := by omega
  rcases hcases with ⟨hlate, hdate⟩ | ⟨hlate, hdate⟩
  all_goals
    rw [hdate]
    refine ⟨?_, ?_, ?_⟩
    all_goals dsimp only; omega

-- ════════════════════════════════════════════════════════════════════════
-- Padded numbers
-- ════════════════════════════════════════════════════════════════════════

lemma zeroPad_toList (width : Nat) (n : Int) : ∃ k, (zeroPad width n).toList =
    List.replicate k '0' ++ Nat.toDigits 10 n.toNat := by
  refine ⟨width - (toString n.toNat).length, ?_⟩
  simp [zeroPad]

lemma isDigit_zeroPad (width : Nat) (n : Int) :
    ∀ c ∈ (zeroPad width n).toList, c.isDigit = true := by
  intro c hc
  obtain ⟨k, hk⟩ := zeroPad_toList width n
  rw [hk] at hc
  rcases List.mem_append.mp hc with hc | hc
  · rw [List.eq_of_mem_replicate hc]
    rfl
  · exact Nat.isDigit_of_mem_toDigits (by decide) (by decide) hc

/-- A padded number can be read back. -/
theorem zeroPad_injective {width : Nat} {m n : Int} (hm : 0 ≤ m) (hn : 0 ≤ n)
    (h : (zeroPad width m).toList = (zeroPad width n).toList) : m = n := by
  have hvalue : ∀ n : Int, Nat.ofDigitChars 10 (zeroPad width n).toList 0 = n.toNat := by
    intro n
    obtain ⟨k, hk⟩ := zeroPad_toList width n
    rw [hk, Nat.ofDigitChars_append, Nat.ofDigitChars_replicate_zero]
    simp
  have hsame : m.toNat = n.toNat := by rw [← hvalue m, ← hvalue n, h]
  omega

end Numeric
