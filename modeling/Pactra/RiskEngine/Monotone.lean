import Mathlib.Algebra.BigOperators.Group.List.Basic
import Mathlib.Algebra.Order.Field.Basic
import Mathlib.Algebra.Order.BigOperators.Group.List
import Mathlib.Tactic.Linarith
import Mathlib.Tactic.NormNum
import Pactra.Foundation.Text
import Pactra.RiskEngine.Features

/-!
# More risk never scores less

Each shape of rule is non-decreasing in the direction of risk, but the rules are not independent: a
merchant that turns unknown closes the gate of the trust rule. The weights of the default
configuration make up for it. What stops a score altogether is an observation whose decimal notation
leaves its sentence longer than a factor may be, and what extraction measures is never that long.

## Main results

- `points_mono` — the contribution of an ungated rule
- `merchant_points_mono` — the contributions of the two rules about the merchant, together
- `score_ok` — when there is a score, and what it is the sum of
- `explainable_of_modest` — the features of a mission fit in their sentences
- `scored_and_monotone` — range, contributions and monotonicity
-/

namespace Pactra

namespace RiskEngine

-- ════════════════════════════════════════════════════════════════════════
-- Ramps
-- ════════════════════════════════════════════════════════════════════════

/-- The value of a ramp whose bounds are in order. -/
def clamp (lo hi value : Rat) : Rat :=
  if value ≤ lo then 0 else if hi ≤ value then 1 else (value - lo) / (hi - lo)

section Ramps

variable {lo hi v w : Rat}

lemma ramp_eq (h : lo < hi) : ramp v lo hi = .ok (clamp lo hi v) := by
  unfold ramp clamp
  rw [if_neg (not_le.mpr h)]
  split
  · rfl
  · split <;> rfl

lemma clamp_nonneg (hlt : lo < hi) : 0 ≤ clamp lo hi v := by
  unfold clamp
  split
  · exact le_refl 0
  · next hlo =>
    split
    · exact zero_le_one
    · exact div_nonneg (sub_nonneg.mpr (not_le.mp hlo).le) (sub_nonneg.mpr hlt.le)

lemma clamp_le_one (hlt : lo < hi) : clamp lo hi v ≤ 1 := by
  unfold clamp
  split
  · exact zero_le_one
  · split
    · exact le_refl 1
    · next hhi => exact (div_le_one (sub_pos.mpr hlt)).mpr (sub_le_sub_right (not_le.mp hhi).le lo)

lemma clamp_mono (h : lo < hi) (hv : v ≤ w) : clamp lo hi v ≤ clamp lo hi w := by
  by_cases hlo : v ≤ lo
  · rw [clamp, if_pos hlo]
    exact clamp_nonneg h
  · by_cases hhi : hi ≤ w
    · rw [clamp.eq_def lo hi w, if_neg (by linarith), if_pos hhi]
      exact clamp_le_one h
    · rw [clamp, if_neg hlo, if_neg (by linarith), clamp, if_neg (by linarith), if_neg hhi]
      exact div_le_div_of_nonneg_right (by linarith) (by linarith)

/-- A ramp that is neither at its foot nor at its top is in between. -/
lemma between_of_clamp (h₀ : clamp lo hi v ≠ 0) (h₁ : clamp lo hi v ≠ 1) : lo < v ∧ v < hi := by
  unfold clamp at h₀ h₁
  split at h₀
  · exact absurd rfl h₀
  · next hlo =>
    rw [if_neg hlo] at h₁
    split at h₁
    · exact absurd rfl h₁
    · next hhi => exact ⟨not_le.mp hlo, not_le.mp hhi⟩

end Ramps

-- ════════════════════════════════════════════════════════════════════════
-- Shapes
-- ════════════════════════════════════════════════════════════════════════

/-- An observation is at least as risky as another, under a shape. -/
def AtLeastAsRisky (shape : Shape) (v w : Rat) : Prop :=
  match shape with
  | .ratio | .count => v ≤ w
  | .shortfall => w ≤ v
  | .absentFlag => v = 0 → w = 0

/-- The fraction of the weight that an observation earns. -/
def curve (rule : FactorRule) (config : RiskConfig) (v : Rat) : Rat :=
  match fraction rule v config with
  | .ok q => q
  | .error _ => 0

/-- A rule that grades every observation, more risk never less, and part of the weight is earned by
small numbers only. -/
structure Graded (rule : FactorRule) (config : RiskConfig) : Prop where
  total : ∀ v, fraction rule v config = .ok (curve rule config v)
  nonneg : ∀ v, 0 ≤ curve rule config v
  le_one : ∀ v, curve rule config v ≤ 1
  mono : ∀ v w, AtLeastAsRisky rule.shape v w → curve rule config v ≤ curve rule config w
  small : ∀ v, curve rule config v ≠ 0 → curve rule config v ≠ 1 → 0 ≤ v ∧ v ≤ 4
  bounded : ∃ b, bounds rule config = .ok b

section Shapes

variable {code feature : String} {weight lo hi saturates : RiskConfig → Rat} {template : List Piece}
  {config : RiskConfig}

lemma graded_of_fraction {rule : FactorRule} {f : Rat → Rat}
    (h : ∀ v, fraction rule v config = .ok (f v)) (hnonneg : ∀ v, 0 ≤ f v) (hle : ∀ v, f v ≤ 1)
    (hmono : ∀ v w, AtLeastAsRisky rule.shape v w → f v ≤ f w)
    (hsmall : ∀ v, f v ≠ 0 → f v ≠ 1 → 0 ≤ v ∧ v ≤ 4) (hbounds : ∃ b, bounds rule config = .ok b) :
    Graded rule config := by
  have hcurve : ∀ v, curve rule config v = f v := fun v => by rw [curve, h]
  refine ⟨fun v => ?_, fun v => ?_, fun v => ?_, fun v w hvw => ?_, fun v h₀ h₁ => ?_, hbounds⟩
  · rw [hcurve, h]
  · rw [hcurve]
    exact hnonneg v
  · rw [hcurve]
    exact hle v
  · rw [hcurve, hcurve]
    exact hmono v w hvw
  · rw [hcurve] at h₀ h₁
    exact hsmall v h₀ h₁

lemma graded_ratio (hlo : 0 ≤ lo config) (h : lo config < hi config) (hhi : hi config ≤ 4) :
    Graded (ratioRule code feature weight lo hi template) config :=
  graded_of_fraction (f := clamp (lo config) (hi config)) (fun _ => ramp_eq h)
    (fun _ => clamp_nonneg h) (fun _ => clamp_le_one h) (fun _ _ hvw => clamp_mono h hvw)
    (fun v h₀ h₁ => by
      obtain ⟨hv, hv'⟩ := between_of_clamp h₀ h₁
      exact ⟨by linarith, by linarith⟩) ⟨_, rfl⟩

lemma graded_count (h : 0 < saturates config) (hsaturates : saturates config ≤ 4) :
    Graded (countRule code feature weight saturates template) config :=
  graded_of_fraction (f := clamp 0 (saturates config)) (fun _ => ramp_eq h)
    (fun _ => clamp_nonneg h) (fun _ => clamp_le_one h) (fun _ _ hvw => clamp_mono h hvw)
    (fun v h₀ h₁ => by
      obtain ⟨hv, hv'⟩ := between_of_clamp h₀ h₁
      exact ⟨by linarith, by linarith⟩) ⟨_, rfl⟩

lemma graded_absentFlag : Graded (absentFlagRule code feature weight template) config := by
  refine graded_of_fraction (f := fun v => if v ≠ 0 then 0 else 1) (fun _ => rfl) ?_ ?_ ?_ ?_
    ⟨_, rfl⟩
  · intro v
    split <;> norm_num
  · intro v
    split <;> norm_num
  · intro v w hvw
    by_cases hv : v = 0
    · simp [hv, hvw hv]
    · simp only [ne_eq, hv, not_false_eq_true, if_true]
      split <;> norm_num
  · intro v h₀ h₁
    by_cases hv : v = 0 <;> simp [hv] at h₀ h₁

lemma graded_merchantTrust (h : 0 < config.preferredMerchantTrust)
    (hle : config.preferredMerchantTrust ≤ 4) :
    Graded merchantTrustBelowPreferred config := by
  refine graded_of_fraction
    (f := fun v => clamp 0 config.preferredMerchantTrust (config.preferredMerchantTrust - v))
    (fun v => ?_) (fun _ => clamp_nonneg h) (fun _ => clamp_le_one h)
    (fun v w hvw => clamp_mono h ?_) (fun v h₀ h₁ => ?_) ⟨_, rfl⟩
  · change (if config.preferredMerchantTrust ≤ 0 then Except.ok 0
      else ramp (config.preferredMerchantTrust - v) 0 config.preferredMerchantTrust) = _
    rw [if_neg (not_le.mpr h), ramp_eq h]
  · have hvw : w ≤ v := hvw
    linarith
  · obtain ⟨hv, hv'⟩ := between_of_clamp h₀ h₁
    exact ⟨by linarith, by linarith⟩

end Shapes

/-- Every rule is graded under the default configuration. -/
lemma graded_rules : ∀ rule ∈ factorRules, Graded rule defaultRiskConfig := by
  simp only [factorRules, adversarialRules, concernRules, List.cons_append, List.nil_append,
    List.forall_mem_cons]
  refine ⟨?_, ?_, ?_, ?_, ?_, ?_, ?_, ?_, ?_, ?_, ?_, ?_, ?_, ?_, ?_, ?_, ?_, ?_, ?_, ?_, ?_⟩
  all_goals first
    | exact graded_absentFlag
    | exact graded_count (by decide +kernel) (by decide +kernel)
    | exact graded_ratio (by decide +kernel) (by decide +kernel) (by decide +kernel)
    | exact graded_merchantTrust (by decide +kernel) (by decide +kernel)
    | exact fun _ h => absurd h List.not_mem_nil

-- ════════════════════════════════════════════════════════════════════════
-- Sentences
-- ════════════════════════════════════════════════════════════════════════

/-- The characters of a piece that do not depend on the observation. -/
def Piece.fixedWidth (reference : String) : Piece → Nat
  | .text s => s.length
  | .reference => reference.length
  | .observed | .observedPct => 0

/-- The characters of a piece that show the observation. -/
def Piece.shownWidth (v : Rat) : Piece → Nat
  | .observed => (num v).length
  | .observedPct => (pct v).length
  | .text _ | .reference => 0

/-- How long the sentence of a rule is around an observation, when it earns the whole weight. -/
def sentenceWidth (rule : FactorRule) (config : RiskConfig) (v : Rat) : Nat :=
  (rule.template.map (Piece.fixedWidth (referenceText rule config))).sum +
    (rule.template.map (Piece.shownWidth v)).sum +
    " (100% of the available weight for this factor)".length

section Sentences

variable {v : Rat}

lemma roundHalfEven_le {q : Rat} {n : Int} (h : q ≤ n) : Numeric.roundHalfEven q ≤ n := by
  have hfloor : q.floor ≤ n := Int.cast_le (R := Rat) |>.mp ((Rat.floor_le q).trans h)
  unfold Numeric.roundHalfEven
  dsimp only
  rcases hfloor.lt_or_eq with hlt | heq
  · split
    · exact hfloor
    · split
      · omega
      · split <;> omega
  · have hrest : q - q.floor < 1 / 2 := by
      rw [heq]
      linarith
    rw [if_pos hrest]
    exact hfloor

lemma roundHalfEven_nonneg {q : Rat} (h : 0 ≤ q) : 0 ≤ Numeric.roundHalfEven q := by
  have hfloor : 0 ≤ q.floor := Rat.le_floor_iff.mpr (by simpa using h)
  unfold Numeric.roundHalfEven
  dsimp only
  split
  · exact hfloor
  · split
    · omega
    · split <;> omega

lemma length_zeroPad {width : Nat} {n : Nat} (h : (Nat.repr n).length ≤ width) :
    (Numeric.zeroPad width n).length = width := by
  have hn : toString ((n : Int).toNat) = Nat.repr n := rfl
  simp only [Numeric.zeroPad, hn, String.length_append, String.length_ofList, List.length_replicate]
  omega

lemma toNat_round_le {q : Rat} {n : Nat} (h : q ≤ n) : (Numeric.roundHalfEven q).toNat ≤ n := by
  have hle : Numeric.roundHalfEven q ≤ (n : Int) := roundHalfEven_le (by exact_mod_cast h)
  omega

/-- A percentage up to 900 is shown in four characters at most. -/
lemma length_pct (h₀ : 0 ≤ v) (h : v ≤ 9) : (pct v).length ≤ 4 := by
  have hnonneg : (0 : Rat) ≤ v * 100 := by linarith
  have hscaled : (Numeric.roundHalfEven (|v * 100| * 10 ^ 0)).toNat ≤ 900 := by
    rw [abs_of_nonneg hnonneg]
    refine toNat_round_le ?_
    push_cast
    linarith
  unfold pct formatFixed
  dsimp only
  generalize (Numeric.roundHalfEven (|v * 100| * 10 ^ 0)).toNat = scaled at hscaled ⊢
  rw [if_neg (not_lt.mpr hnonneg), if_pos rfl]
  have hwhole : (toString (scaled / 10 ^ 0)).length ≤ 3 :=
    (Nat.length_repr_le_iff (by norm_num)).mpr (by omega)
  have hempty : ("" : String).length = 0 := rfl
  have hpercent : ("%" : String).length = 1 := rfl
  simp only [String.length_append, hempty, hpercent]
  omega

lemma length_pct_one : (pct 1).length = 4 := by
  have hround : (Numeric.roundHalfEven (|(1 : Rat) * 100| * 10 ^ 0)).toNat = 100 := by
    rw [abs_of_nonneg (by norm_num)]
    decide +kernel
  unfold pct formatFixed
  dsimp only
  rw [hround, if_pos rfl, if_neg (by norm_num)]
  rfl

/-- A number up to 9 is shown in four characters at most. -/
lemma length_num (h₀ : 0 ≤ v) (h : v ≤ 9) : (num v).length ≤ 4 := by
  unfold num
  split
  · have hround : Numeric.roundHalfEven v ≤ 9 := roundHalfEven_le (by exact_mod_cast h)
    rcases Text.toString_int_cases (Numeric.roundHalfEven v) with ⟨-, htext⟩ | ⟨hneg, -⟩
    · rw [htext]
      exact (Nat.length_repr_le_iff (by norm_num)).mpr (by omega)
    · exact absurd (roundHalfEven_nonneg h₀) (by omega)
  · have hscaled : (Numeric.roundHalfEven (|v| * 10 ^ 2)).toNat ≤ 900 := by
      rw [abs_of_nonneg h₀]
      refine toNat_round_le ?_
      push_cast
      linarith
    unfold formatFixed
    dsimp only
    generalize (Numeric.roundHalfEven (|v| * 10 ^ 2)).toNat = scaled at hscaled ⊢
    rw [if_neg (not_lt.mpr h₀), if_neg (by norm_num)]
    have hwhole : (toString (scaled / 10 ^ 2)).length ≤ 1 :=
      (Nat.length_repr_le_iff (by norm_num)).mpr (by omega)
    have hrest : (Numeric.zeroPad 2 ((scaled % 10 ^ 2 : Nat) : Int)).length = 2 :=
      length_zeroPad ((Nat.length_repr_le_iff (by norm_num)).mpr (by omega))
    have hempty : ("" : String).length = 0 := rfl
    have hpoint : ("." : String).length = 1 := rfl
    simp only [String.length_append, hempty, hpoint, hrest]
    omega

lemma le_roundHalfEven {q : Rat} {n : Int} (h : n ≤ q) : n ≤ Numeric.roundHalfEven q := by
  have hfloor : n ≤ q.floor := Rat.le_floor_iff.mpr h
  unfold Numeric.roundHalfEven
  dsimp only
  split
  · exact hfloor
  · split
    · omega
    · split <;> omega

lemma length_sign (q : Rat) : (if q < 0 then "-" else "" : String).length ≤ 1 := by
  split <;> decide

/-- A number whose scaled value has at most `n + 1` digits. -/
lemma length_formatFixed {digits n : Nat} (h : |v| * 10 ^ digits ≤ 10 ^ n) :
    (formatFixed digits v).length ≤ n + digits + 3 := by
  have hscaled : (Numeric.roundHalfEven (|v| * 10 ^ digits)).toNat ≤ 10 ^ n :=
    toNat_round_le (by exact_mod_cast h)
  have hsign := length_sign v
  unfold formatFixed
  dsimp only
  generalize (Numeric.roundHalfEven (|v| * 10 ^ digits)).toNat = scaled at hscaled ⊢
  have hwhole : (toString (scaled / 10 ^ digits)).length ≤ n + 1 := by
    refine (Nat.length_repr_le_iff (by omega)).mpr ?_
    calc scaled / 10 ^ digits ≤ scaled := Nat.div_le_self _ _
      _ ≤ 10 ^ n := hscaled
      _ < 10 ^ (n + 1) := Nat.pow_lt_pow_right (by norm_num) (Nat.lt_succ_self n)
  split
  · simp only [String.length_append]
    omega
  · next hdigits =>
    have hrest : (Numeric.zeroPad digits ((scaled % 10 ^ digits : Nat) : Int)).length = digits :=
      length_zeroPad ((Nat.length_repr_le_iff (by omega)).mpr
        (Nat.mod_lt _ (Nat.pow_pos (by norm_num))))
    have hpoint : ("." : String).length = 1 := rfl
    simp only [String.length_append, hpoint, hrest]
    omega

/-- A number of at most 41 digits is shown in 47 characters at most. -/
lemma length_num_modest (h : |v| ≤ 10 ^ 40) : (num v).length ≤ 47 := by
  unfold num
  split
  · obtain ⟨hlow, hhigh⟩ := abs_le.mp h
    have hround : Numeric.roundHalfEven v ≤ 10 ^ 40 := roundHalfEven_le (by exact_mod_cast hhigh)
    have hround' : -10 ^ 40 ≤ Numeric.roundHalfEven v := le_roundHalfEven (by exact_mod_cast hlow)
    rcases Text.toString_int_cases (Numeric.roundHalfEven v) with ⟨-, htext⟩ | ⟨hneg, htext⟩
    · rw [htext]
      exact (Nat.length_repr_le_iff (by norm_num)).mpr (by omega)
    · have hdigits : (Nat.repr (-Numeric.roundHalfEven v).toNat).length ≤ 41 :=
        (Nat.length_repr_le_iff (by norm_num)).mpr (by omega)
      have hminus : ("-" : String).length = 1 := rfl
      rw [htext, String.length_append, hminus]
      omega
  · refine (length_formatFixed (n := 42) ?_).trans (by norm_num)
    linarith

lemma length_pct_modest (h : |v| ≤ 10 ^ 40) : (pct v).length ≤ 47 := by
  have hpercent : ("%" : String).length = 1 := rfl
  have hdigits : (formatFixed 0 (v * 100)).length ≤ 42 + 0 + 3 := by
    refine length_formatFixed ?_
    rw [abs_mul, abs_of_pos (by norm_num : (0 : Rat) < 100)]
    linarith
  rw [pct, String.length_append, hpercent]
  omega

/-- The characters of a text are counted as a list. -/
lemma length_of {l : List Char} {n : Nat} (h : l.length = n) : (String.ofList l).length = n := by
  rw [String.length_ofList, h]

lemma length_render (reference : String) (p : Piece) :
    (p.render v reference).length = p.fixedWidth reference + p.shownWidth v := by
  cases p <;> simp [Piece.render, Piece.fixedWidth, Piece.shownWidth]

/-- The length of a sentence depends on the earned fraction through its percentage only. -/
lemma length_describe (rule : FactorRule) (config : RiskConfig) (earned : Rat) :
    (describe rule v config earned).length + 4 =
      sentenceWidth rule config v + (pct earned).length := by
  have hjoin : ∀ template : List Piece, (String.join (template.map
      (Piece.render v (referenceText rule config)))).length =
        (template.map (Piece.fixedWidth (referenceText rule config))).sum +
          (template.map (Piece.shownWidth v)).sum := by
    intro template
    induction template with
    | nil => rfl
    | cons p template ih =>
      rw [List.map_cons, String.join_cons, String.length_append, ih, length_render]
      simp only [List.map_cons, List.sum_cons]
      omega
  have hopen : (" (" : String).length = 2 := length_of (by decide)
  have hclose : (" of the available weight for this factor)" : String).length = 41 :=
    length_of (by decide)
  have htail : (" (100% of the available weight for this factor)" : String).length = 47 :=
    length_of (by decide)
  unfold describe sentenceWidth
  simp only [String.length_append, hjoin, hopen, hclose, htail]
  omega

end Sentences

-- ════════════════════════════════════════════════════════════════════════
-- One rule
-- ════════════════════════════════════════════════════════════════════════

/-- The observation that a rule takes from a mapping of features, if its gate is open. -/
def observation (features : Features) (rule : FactorRule) : Option Rat :=
  match features rule.feature with
  | none => none
  | some feature => if gateOpen features rule then feature.numeric else none

/-- The points that a rule contributes. -/
def points (features : Features) (config : RiskConfig) (rule : FactorRule) : Rat :=
  match observation features rule with
  | none => 0
  | some v => rule.weightField config * curve rule config v

/-- The sentence around an observation that earns some weight is no longer than a factor's
explanation may be. -/
def Printable (features : Features) (config : RiskConfig) (rule : FactorRule) : Prop :=
  ∀ v, observation features rule = some v → curve rule config v ≠ 0 →
    sentenceWidth rule config v ≤ 400

/-- A graded rule whose texts pass, and with a weight. -/
structure Sound (rule : FactorRule) (config : RiskConfig) : Prop extends Graded rule config where
  weight : 0 < rule.weightField config
  code : rule.code.length ≤ 64 ∧ codeMatches rule.code = true
  feature : 1 ≤ rule.feature.length ∧ rule.feature.length ≤ 80
  brief : (rule.template.map (Piece.fixedWidth (referenceText rule config))).sum +
    4 * rule.template.length + 47 ≤ 400

/-- The characters of a template, counted off from a bound piece by piece. -/
inductive Narrow (reference : String) : List Piece → Nat → Prop where
  | nil (n : Nat) : Narrow reference [] n
  | text {l : List Char} {template : List Piece} {n : Nat} (hl : l.length ≤ n)
      (h : Narrow reference template (n - l.length)) :
      Narrow reference (.text (String.ofList l) :: template) n
  | reference {template : List Piece} {n : Nat} (hl : reference.length ≤ 4) (hn : 4 ≤ n)
      (h : Narrow reference template (n - 4)) : Narrow reference (.reference :: template) n
  | observed {template : List Piece} {n : Nat} (h : Narrow reference template n) :
      Narrow reference (.observed :: template) n
  | observedPct {template : List Piece} {n : Nat} (h : Narrow reference template n) :
      Narrow reference (.observedPct :: template) n

lemma Narrow.sum_le {reference : String} {template : List Piece} {n : Nat}
    (h : Narrow reference template n) : (template.map (Piece.fixedWidth reference)).sum ≤ n := by
  induction h with
  | nil n => exact Nat.zero_le n
  | text hl _ ih =>
    simp only [List.map_cons, List.sum_cons, Piece.fixedWidth, String.length_ofList]
    omega
  | reference hl hn _ ih =>
    simp only [List.map_cons, List.sum_cons, Piece.fixedWidth]
    omega
  | observed _ ih | observedPct _ ih =>
    simp only [List.map_cons, List.sum_cons, Piece.fixedWidth]
    omega

/-- No template has more than 250 characters of its own. -/
lemma narrow_rules : ∀ rule ∈ factorRules,
    Narrow (referenceText rule defaultRiskConfig) rule.template 250 := by
  simp only [factorRules, adversarialRules, concernRules, countRule, ratioRule, absentFlagRule,
    merchantUnknown, merchantTrustBelowPreferred, List.cons_append, List.nil_append,
    List.forall_mem_cons]
  refine ⟨?_, ?_, ?_, ?_, ?_, ?_, ?_, ?_, ?_, ?_, ?_, ?_, ?_, ?_, ?_, ?_, ?_, ?_, ?_, ?_,
    fun _ h => absurd h List.not_mem_nil⟩
  all_goals
    repeat first
      | exact .nil _
      | refine .observed ?_
      | refine .observedPct ?_
      | refine .text (by decide) ?_
      | refine .reference (by decide +kernel) (by decide) ?_

/-- The characters of a code are counted and tested one by one. -/
lemma fits_code {l : List Char} (hl : l.length ≤ 64)
    (h : (!l.isEmpty && l.all fun c => ('A' ≤ c && c ≤ 'Z') || ('0' ≤ c && c ≤ '9') || c = '_') =
      true) :
    (String.ofList l).length ≤ 64 ∧ codeMatches (String.ofList l) = true := by
  unfold codeMatches
  rw [String.length_ofList, String.toList_ofList]
  exact ⟨hl, h⟩

lemma fits_feature {l : List Char} (h : 1 ≤ l.length ∧ l.length ≤ 80) :
    1 ≤ (String.ofList l).length ∧ (String.ofList l).length ≤ 80 := by
  rwa [String.length_ofList]

/-- The code, the feature and the template of a rule fit the fields of a factor. -/
lemma fitting_rules : ∀ rule ∈ factorRules, (rule.code.length ≤ 64 ∧ codeMatches rule.code = true) ∧
    (1 ≤ rule.feature.length ∧ rule.feature.length ≤ 80) ∧ rule.template.length ≤ 7 := by
  simp only [factorRules, adversarialRules, concernRules, countRule, ratioRule, absentFlagRule,
    merchantUnknown, merchantTrustBelowPreferred, List.cons_append, List.nil_append,
    List.forall_mem_cons]
  refine ⟨?_, ?_, ?_, ?_, ?_, ?_, ?_, ?_, ?_, ?_, ?_, ?_, ?_, ?_, ?_, ?_, ?_, ?_, ?_, ?_,
    fun _ h => absurd h List.not_mem_nil⟩
  all_goals exact ⟨fits_code (by decide) (by decide), fits_feature (by decide), by decide⟩

/-- Every rule is sound under the default configuration. -/
lemma sound_rules : ∀ rule ∈ factorRules, Sound rule defaultRiskConfig := by
  have hweights : ∀ rule ∈ factorRules, 0 < rule.weightField defaultRiskConfig := by
    decide +kernel
  intro rule hrule
  obtain ⟨hcode, hfeature, hlength⟩ := fitting_rules rule hrule
  have hwidth := (narrow_rules rule hrule).sum_le
  exact ⟨graded_rules rule hrule, hweights rule hrule, hcode, hfeature, by omega⟩

section OneRule

variable {features : Features} {config : RiskConfig} {rule : FactorRule} {v : Rat}

/-- Small observations are shown briefly. -/
lemma sum_shownWidth_le (h₀ : 0 ≤ v) (h : v ≤ 9) (template : List Piece) :
    (template.map (Piece.shownWidth v)).sum ≤ 4 * template.length := by
  induction template with
  | nil => exact le_refl 0
  | cons p template ih =>
    have hp : p.shownWidth v ≤ 4 := by
      cases p with
      | text | reference => exact Nat.zero_le 4
      | observed => exact length_num h₀ h
      | observedPct => exact length_pct h₀ h
    simp only [List.map_cons, List.sum_cons, List.length_cons]
    omega

/-- The sentence around a small observation fits. -/
lemma Sound.sentenceWidth_le (h : Sound rule config) (h₀ : 0 ≤ v) (h₉ : v ≤ 9) :
    sentenceWidth rule config v ≤ 400 := by
  have htail : (" (100% of the available weight for this factor)" : String).length = 47 :=
    length_of (by decide)
  have hshown := sum_shownWidth_le h₀ h₉ rule.template
  have hbrief := h.brief
  unfold sentenceWidth
  omega

/-- Whether a piece shows the observation. -/
def Piece.isShown : Piece → Bool
  | .observed | .observedPct => true
  | .text _ | .reference => false

/-- No template shows its observation twice. -/
lemma shown_rules : ∀ rule ∈ factorRules, rule.template.countP Piece.isShown ≤ 1 := by
  have hall : (factorRules.all fun rule => decide (rule.template.countP Piece.isShown ≤ 1)) = true := by
    decide
  intro rule hrule
  exact of_decide_eq_true (List.all_eq_true.mp hall rule hrule)

lemma sum_shownWidth_modest (h : |v| ≤ 10 ^ 40) (template : List Piece) :
    (template.map (Piece.shownWidth v)).sum ≤ 47 * template.countP Piece.isShown := by
  induction template with
  | nil => exact le_refl 0
  | cons p template ih =>
    have hp : p.shownWidth v ≤ 47 * if p.isShown then 1 else 0 := by
      cases p with
      | text | reference => exact Nat.zero_le _
      | observed => exact length_num_modest h
      | observedPct => exact length_pct_modest h
    rw [List.map_cons, List.sum_cons, List.countP_cons]
    omega

/-- The sentence around a modest observation fits. -/
lemma sentenceWidth_modest (hrule : rule ∈ factorRules) (h : |v| ≤ 10 ^ 40) :
    sentenceWidth rule defaultRiskConfig v ≤ 400 := by
  have htail : (" (100% of the available weight for this factor)" : String).length = 47 :=
    length_of (by decide)
  have hfixed := (narrow_rules rule hrule).sum_le
  have hshown := sum_shownWidth_modest h rule.template
  have hone := shown_rules rule hrule
  unfold sentenceWidth
  omega

/-- Whether the explanation of a factor fits does not depend on how much was earned. -/
lemma Sound.length_describe_le_iff (h : Sound rule config) (hne : curve rule config v ≠ 0) :
    (describe rule v config (curve rule config v)).length ≤ 400 ↔
      sentenceWidth rule config v ≤ 400 := by
  have hlength := length_describe (v := v) rule config (curve rule config v)
  by_cases hone : curve rule config v = 1
  · rw [hone, length_pct_one] at hlength
    rw [hone]
    omega
  · -- only small observations earn part of the weight, and they are shown briefly
    obtain ⟨h₀, h₄⟩ := h.small v hne hone
    have hpct : (pct (curve rule config v)).length ≤ 4 :=
      length_pct (h.nonneg v) ((h.le_one v).trans (by norm_num))
    have hwidth := h.sentenceWidth_le h₀ (h₄.trans (by norm_num))
    exact ⟨fun _ => hwidth, fun _ => by omega⟩

/-- A rule without an observation gives no factor. -/
lemma applyRule_of_none (h : observation features rule = none) :
    applyRule features config rule = .ok none := by
  unfold observation at h
  unfold applyRule
  cases hfeature : features rule.feature with
  | none => rfl
  | some feature =>
    rw [hfeature] at h
    dsimp only at h ⊢
    by_cases havailable : feature.available = true
    · by_cases hgate : gateOpen features rule = true
      · rw [if_pos hgate] at h
        simp [havailable, hgate, h]
      · simp [hgate]
    · simp [havailable]

/-- A rule with an observation makes its factor, unless nothing is earned. -/
lemma Sound.applyRule_of_some (hrule : Sound rule config) (h : observation features rule = some v) :
    ∃ (feature : FeatureValue) (b : Option Rat × Option Rat), applyRule features config rule =
      if rule.weightField config * curve rule config v ≤ 0 then .ok none
      else (RiskFactor.make rule.code rule.feature (rule.weightField config * curve rule config v)
        (rule.weightField config) feature.value b.1 b.2
        (describe rule v config (curve rule config v)) feature.derivedFromUntrustedEvidence).map
          some := by
  obtain ⟨b, hb⟩ := hrule.bounded
  unfold observation at h
  cases hfeature : features rule.feature with
  | none =>
    rw [hfeature] at h
    cases h
  | some feature =>
    rw [hfeature] at h
    dsimp only at h
    split at h
    · next hgate =>
      have havailable : feature.available = true := by
        by_contra hne
        simp [FeatureValue.numeric, hne] at h
      refine ⟨feature, b, ?_⟩
      unfold applyRule
      rw [hfeature]
      simp only [havailable, hgate, h, Bool.not_true, Bool.false_eq_true, if_false, hrule.total, hb]
      refine if_congr Iff.rfl rfl ?_
      change (RiskFactor.make rule.code rule.feature
        (rule.weightField config * curve rule config v) (rule.weightField config) feature.value b.1
        b.2 (describe rule v config (curve rule config v))
        feature.derivedFromUntrustedEvidence >>= fun factor => pure (some factor)) = _
      rw [bind_pure_comp]
      rfl
    · cases h

/-- A factor is made when its explanation fits. -/
lemma RiskFactor.make_eq_ok (hrule : Sound rule config) {contribution : Rat} (hpos : 0 < contribution)
    {explanation : String} (h₁ : 1 ≤ explanation.length) (h₄₀₀ : explanation.length ≤ 400)
    (observed : Option FeatureScalar) (threshold saturatesAt : Option Rat) (derived : Bool) :
    ∃ factor, RiskFactor.make rule.code rule.feature contribution (rule.weightField config) observed
        threshold saturatesAt explanation derived = .ok factor ∧ factor.code = rule.code ∧
      factor.contribution = contribution ∧ factor.weight = rule.weightField config := by
  unfold RiskFactor.make
  rw [dif_pos ⟨hrule.code, hrule.feature, hpos, hrule.weight, h₁, h₄₀₀⟩]
  exact ⟨_, rfl, rfl, rfl, rfl⟩

lemma describe_ne_empty (rule : FactorRule) (config : RiskConfig) (v earned : Rat) :
    1 ≤ (describe rule v config earned).length := by
  have hopen : (" (" : String).length = 2 := length_of (by decide)
  unfold describe
  simp only [String.length_append, hopen]
  omega

/-- What a rule contributes when its sentence fits. -/
lemma Sound.applyRule_ok (hrule : Sound rule config) (h : Printable features config rule) :
    ∃ factor, applyRule features config rule = .ok factor ∧
      (factor.toList.map RiskFactor.contribution).sum = points features config rule ∧
      ∀ f ∈ factor.toList, f.code = rule.code ∧ f.weight = rule.weightField config ∧
        f.contribution ≤ f.weight := by
  cases hobservation : observation features rule with
  | none => exact ⟨none, applyRule_of_none hobservation, by simp [points, hobservation], by simp⟩
  | some v =>
    obtain ⟨feature, b, heq⟩ := hrule.applyRule_of_some hobservation
    have hpoints : points features config rule = rule.weightField config * curve rule config v := by
      rw [points, hobservation]
    by_cases hzero : curve rule config v = 0
    · rw [if_pos (by rw [hzero, mul_zero])] at heq
      exact ⟨none, heq, by simp [hpoints, hzero], by simp⟩
    · have hpos : 0 < rule.weightField config * curve rule config v :=
        mul_pos hrule.weight (lt_of_le_of_ne (hrule.nonneg v) (Ne.symm hzero))
      rw [if_neg (not_le.mpr hpos)] at heq
      obtain ⟨factor, hmake, hcode, hcontribution, hweight⟩ := RiskFactor.make_eq_ok hrule hpos
        (describe_ne_empty rule config v _)
        ((hrule.length_describe_le_iff hzero).mpr (h v hobservation hzero)) feature.value b.1 b.2
        feature.derivedFromUntrustedEvidence
      rw [hmake] at heq
      refine ⟨some factor, heq, by simp [hcontribution, hpoints], ?_⟩
      intro f hf
      obtain rfl := List.mem_singleton.mp hf
      refine ⟨hcode, hweight, ?_⟩
      rw [hcontribution, hweight]
      exact mul_le_of_le_one_right hrule.weight.le (hrule.le_one v)

/-- A rule whose sentence does not fit raises. -/
lemma Sound.applyRule_error (hrule : Sound rule config) (h : ¬Printable features config rule) :
    ∃ e, applyRule features config rule = .error e := by
  unfold Printable at h
  push Not at h
  obtain ⟨v, hobservation, hzero, hlong⟩ := h
  obtain ⟨feature, b, heq⟩ := hrule.applyRule_of_some hobservation
  have hpos : 0 < rule.weightField config * curve rule config v :=
    mul_pos hrule.weight (lt_of_le_of_ne (hrule.nonneg v) (Ne.symm hzero))
  have hdescribe := mt (hrule.length_describe_le_iff hzero).mp (not_le.mpr hlong)
  rw [if_neg (not_le.mpr hpos)] at heq
  unfold RiskFactor.make at heq
  rw [dif_neg fun hvalid => hdescribe hvalid.2.2.2.2.2] at heq
  exact ⟨_, heq⟩

end OneRule

-- ════════════════════════════════════════════════════════════════════════
-- All rules
-- ════════════════════════════════════════════════════════════════════════

/-- A factor lists what a rule contributed, at most its weight. -/
def Explains (config : RiskConfig) (rule : FactorRule) (factor : RiskFactor) : Prop :=
  factor.code = rule.code ∧ factor.weight = rule.weightField config ∧
    factor.contribution ≤ factor.weight

section AllRules

variable {features : Features} {config : RiskConfig} {rules : List FactorRule}

/-- Every rule contributes its points when all sentences fit. -/
lemma applyRules_ok (hrules : ∀ rule ∈ rules, Sound rule config)
    (h : ∀ rule ∈ rules, Printable features config rule) :
    ∃ factors, applyRules features config rules = .ok factors ∧
      (factors.map RiskFactor.contribution).sum = (rules.map (points features config)).sum ∧
      ∀ f ∈ factors, ∃ rule ∈ rules, Explains config rule f := by
  induction rules with
  | nil => exact ⟨[], rfl, rfl, by simp⟩
  | cons rule rules ih =>
    obtain ⟨factor, hfactor, hsum, hexplains⟩ :=
      (hrules rule (by simp)).applyRule_ok (h rule (by simp))
    obtain ⟨factors, hfactors, hsums, hexplain⟩ := ih (fun r hr => hrules r (by simp [hr]))
      (fun r hr => h r (by simp [hr]))
    refine ⟨factor.toList ++ factors, ?_, ?_, ?_⟩
    · rw [applyRules, hfactor, hfactors]
      rfl
    · rw [List.map_append, List.sum_append, hsum, hsums, List.map_cons, List.sum_cons]
    · intro f hf
      rcases List.mem_append.mp hf with hf | hf
      · exact ⟨rule, by simp, hexplains f hf⟩
      · obtain ⟨r, hr, hr'⟩ := hexplain f hf
        exact ⟨r, by simp [hr], hr'⟩

/-- One sentence that does not fit is enough to raise. -/
lemma applyRules_error (hrules : ∀ rule ∈ rules, Sound rule config)
    (h : ∃ rule ∈ rules, ¬Printable features config rule) :
    ∃ e, applyRules features config rules = .error e := by
  induction rules with
  | nil =>
    obtain ⟨rule, hrule, -⟩ := h
    cases hrule
  | cons rule rules ih =>
    by_cases hfirst : Printable features config rule
    · obtain ⟨factor, hfactor, -⟩ := (hrules rule (by simp)).applyRule_ok hfirst
      obtain ⟨r, hr, hr'⟩ := h
      have hrest : r ∈ rules := by
        rcases List.mem_cons.mp hr with rfl | hr
        · exact absurd hfirst hr'
        · exact hr
      obtain ⟨e, he⟩ := ih (fun r hr => hrules r (by simp [hr])) ⟨r, hrest, hr'⟩
      refine ⟨e, ?_⟩
      rw [applyRules, hfactor, he]
      rfl
    · obtain ⟨e, he⟩ := (hrules rule (by simp)).applyRule_error hfirst
      refine ⟨e, ?_⟩
      rw [applyRules, he]
      rfl

end AllRules

/-- Every observation that earns some weight fits in its sentence, under the default
configuration. -/
def Explainable (features : Features) : Prop :=
  ∀ rule ∈ factorRules, Printable features defaultRiskConfig rule

/-- The points of all rules under the default configuration. -/
def rawPoints (features : Features) : Rat :=
  (factorRules.map (points features defaultRiskConfig)).sum

/-- There is a score exactly when every observation fits in its sentence, and then it is the sum of
what the rules contribute. -/
theorem score_ok (features : Features) :
    (Explainable features ∧ ∃ factors,
      score features defaultRiskConfig = .ok (factors, rawPoints features) ∧
      ∀ f ∈ factors, ∃ rule ∈ factorRules, Explains defaultRiskConfig rule f) ∨
    (¬Explainable features ∧ ∃ e, score features defaultRiskConfig = .error e) := by
  by_cases h : Explainable features
  · obtain ⟨factors, hfactors, hsum, hexplains⟩ := applyRules_ok sound_rules h
    have hperm := List.perm_insertionSort
      (fun a b : RiskFactor => b.contribution ≤ a.contribution) factors
    refine .inl ⟨h, _, ?_, fun f hf => hexplains f (hperm.mem_iff.mp hf)⟩
    rw [score, hfactors]
    change Except.ok (_, _) = _
    rw [(hperm.map RiskFactor.contribution).sum_eq, hsum]
    rfl
  · have hsome : ∃ rule ∈ factorRules, ¬Printable features defaultRiskConfig rule := by
      unfold Explainable at h
      push Not at h
      exact h
    obtain ⟨e, he⟩ := applyRules_error sound_rules hsome
    refine .inr ⟨h, e, ?_⟩
    rw [score, he]
    rfl

-- ════════════════════════════════════════════════════════════════════════
-- Riskier features
-- ════════════════════════════════════════════════════════════════════════

/-- A value is at least as risky under a shape. -/
def FeatureValue.AtLeastAsRisky (shape : Shape) (feature feature' : FeatureValue) : Prop :=
  ∀ v, feature.value = some v →
    ∃ v', feature'.value = some v' ∧ RiskEngine.AtLeastAsRisky shape v.float v'.float

/-- Every feature that a rule reads and that is available in one mapping is available in the other,
with a value at least as risky. -/
def Riskier (features features' : Features) : Prop :=
  ∀ rule ∈ factorRules, ∀ feature, features rule.feature = some feature →
    feature.available = true → ∃ feature', features' rule.feature = some feature' ∧
      feature'.available = true ∧ feature.AtLeastAsRisky rule.shape feature'

section Riskier

variable {features features' : Features} {rule : FactorRule}

/-- The contribution of a rule does not fall, as long as its gate stays open. -/
lemma points_mono (h : Riskier features features') (hrule : rule ∈ factorRules)
    (hgate : gateOpen features rule = true → gateOpen features' rule = true) :
    points features defaultRiskConfig rule ≤ points features' defaultRiskConfig rule := by
  have hsound := sound_rules rule hrule
  have hnonneg : 0 ≤ points features' defaultRiskConfig rule := by
    unfold points
    split
    · exact le_refl 0
    · exact mul_nonneg hsound.weight.le (hsound.nonneg _)
  cases hobservation : observation features rule with
  | none =>
    rw [points, hobservation]
    exact hnonneg
  | some v =>
    unfold observation at hobservation
    cases hfeature : features rule.feature with
    | none =>
      rw [hfeature] at hobservation
      cases hobservation
    | some feature =>
      rw [hfeature] at hobservation
      dsimp only at hobservation
      split at hobservation
      · next hopen =>
        unfold FeatureValue.numeric at hobservation
        split at hobservation
        · next havailable =>
          obtain ⟨x, hx, rfl⟩ := Option.map_eq_some_iff.mp hobservation
          obtain ⟨feature', hfeature', havailable', hrisk⟩ := h rule hrule feature hfeature havailable
          obtain ⟨x', hx', hxx'⟩ := hrisk x hx
          have hobs : observation features rule = some x.float := by
            simp [observation, hfeature, hopen, FeatureValue.numeric, havailable, hx]
          have hobs' : observation features' rule = some x'.float := by
            simp [observation, hfeature', hgate hopen, FeatureValue.numeric, havailable', hx']
          rw [points, points, hobs, hobs']
          exact mul_le_mul_of_nonneg_left (hsound.mono _ _ hxx') hsound.weight.le
        · cases hobservation
      · cases hobservation

lemma points_nonneg (features : Features) (hrule : rule ∈ factorRules) :
    0 ≤ points features defaultRiskConfig rule := by
  have hsound := sound_rules rule hrule
  unfold points
  split
  · exact le_refl 0
  · exact mul_nonneg hsound.weight.le (hsound.nonneg _)

lemma points_le_weight (features : Features) (hrule : rule ∈ factorRules) :
    points features defaultRiskConfig rule ≤ rule.weightField defaultRiskConfig := by
  have hsound := sound_rules rule hrule
  unfold points
  split
  · exact hsound.weight.le
  · exact mul_le_of_le_one_right hsound.weight.le (hsound.le_one _)

lemma truthy_iff (v : FeatureScalar) : v.truthy = true ↔ v.float ≠ 0 := by
  cases v with
  | num q => simp [FeatureScalar.truthy, FeatureScalar.float]
  | bool b => cases b <;> simp [FeatureScalar.truthy, FeatureScalar.float]

lemma merchantUnknown_mem : merchantUnknown ∈ factorRules := by
  simp [factorRules]

lemma merchantTrust_mem : merchantTrustBelowPreferred ∈ factorRules := by
  simp [factorRules]

/-- The points of the rule about unknown merchants, when the flag was measured. -/
lemma points_merchantUnknown {feature : FeatureValue} {v : FeatureScalar}
    (hfeature : features "merchant_known" = some feature) (havailable : feature.available = true)
    (hv : feature.value = some v) :
    points features defaultRiskConfig merchantUnknown = if v.float = 0 then strong else 0 := by
  have hobservation : observation features merchantUnknown = some v.float := by
    change (match features "merchant_known" with
      | none => none
      | some feature => feature.numeric) = _
    rw [hfeature]
    simp [FeatureValue.numeric, havailable, hv]
  have hcurve : curve merchantUnknown defaultRiskConfig v.float = if v.float ≠ 0 then 0 else 1 := rfl
  rw [points, hobservation]
  dsimp only
  rw [hcurve]
  change strong * _ = _
  by_cases hzero : v.float = 0 <;> simp [hzero]

/-- The trust rule applies to merchants that were measured to be known. -/
lemma gateOpen_merchantTrust : gateOpen features merchantTrustBelowPreferred = true ↔
    ∃ feature v, features "merchant_known" = some feature ∧ feature.available = true ∧
      feature.value = some v ∧ v.float ≠ 0 := by
  have hname : merchantTrustBelowPreferred.requiresFeatureTrue = some "merchant_known" := rfl
  unfold gateOpen
  rw [hname]
  dsimp only
  cases features "merchant_known" with
  | none => simp
  | some gate =>
    cases hvalue : gate.value with
    | none => simp [hvalue]
    | some v => simp [hvalue, truthy_iff]

/-- A merchant that turns unknown loses at most its trust shortfall, and gains more. -/
lemma merchant_points_mono (h : Riskier features features') :
    points features defaultRiskConfig merchantUnknown +
        points features defaultRiskConfig merchantTrustBelowPreferred ≤
      points features' defaultRiskConfig merchantUnknown +
        points features' defaultRiskConfig merchantTrustBelowPreferred := by
  by_cases hgate : gateOpen features merchantTrustBelowPreferred = true →
      gateOpen features' merchantTrustBelowPreferred = true
  · exact add_le_add (points_mono h merchantUnknown_mem fun _ => rfl)
      (points_mono h merchantTrust_mem hgate)
  · push Not at hgate
    obtain ⟨hopen, hclosed⟩ := hgate
    have htrust := points_le_weight features merchantTrust_mem
    have htrust' := points_nonneg features' merchantTrust_mem
    have hweights : moderate ≤ strong := by norm_num [moderate, strong]
    obtain ⟨feature, v, hfeature, havailable, hv, hne⟩ := gateOpen_merchantTrust.mp hopen
    obtain ⟨feature', hfeature', havailable', hrisk⟩ :=
      h merchantUnknown merchantUnknown_mem feature hfeature havailable
    obtain ⟨v', hv', -⟩ := hrisk v hv
    have hzero : v'.float = 0 := by
      by_contra hne'
      exact hclosed (gateOpen_merchantTrust.mpr
        ⟨feature', v', hfeature', havailable', hv', hne'⟩)
    rw [points_merchantUnknown hfeature havailable hv, if_neg hne,
      points_merchantUnknown hfeature' havailable' hv', if_pos hzero]
    have htrust : points features defaultRiskConfig merchantTrustBelowPreferred ≤ moderate := htrust
    linarith

/-- The raw points do not fall. -/
lemma rawPoints_mono (h : Riskier features features') : rawPoints features ≤ rawPoints features' := by
  have hungated : ∀ rule ∈ adversarialRules ++ concernRules, rule.requiresFeatureTrue = none := by
    have hall : (adversarialRules ++ concernRules).all
        (fun rule => rule.requiresFeatureTrue.isNone) = true := by
      decide
    intro rule hrule
    exact Option.isNone_iff_eq_none.mp (List.all_eq_true.mp hall rule hrule)
  have hmono : ∀ rule ∈ adversarialRules ++ concernRules,
      points features defaultRiskConfig rule ≤ points features' defaultRiskConfig rule := by
    intro rule hrule
    refine points_mono h ?_ fun _ => ?_
    · rcases List.mem_append.mp hrule with hrule | hrule <;> simp [factorRules, hrule]
    · rw [gateOpen, hungated rule hrule]
  have hfirst := List.sum_le_sum (l := adversarialRules) fun rule hrule =>
    hmono rule (List.mem_append_left _ hrule)
  have hlast := List.sum_le_sum (l := concernRules) fun rule hrule =>
    hmono rule (List.mem_append_right _ hrule)
  have hmerchant := merchant_points_mono h
  unfold rawPoints factorRules
  simp only [List.map_append, List.sum_append, List.map_cons, List.map_nil, List.sum_cons,
    List.sum_nil]
  linarith

end Riskier

-- ════════════════════════════════════════════════════════════════════════
-- The index and its band
-- ════════════════════════════════════════════════════════════════════════

section Index

variable {a b : Rat}

lemma normalize_default (a : Rat) : normalize a defaultRiskConfig = if a ≤ 0 then 0 else min 1 a := by
  have hone : defaultRiskConfig.saturationPoints = 1 := rfl
  rw [normalize, hone, div_one]

lemma normalize_nonneg : 0 ≤ normalize a defaultRiskConfig := by
  rw [normalize_default]
  split
  · exact le_refl 0
  · next hpos => exact le_min zero_le_one (not_le.mp hpos).le

lemma normalize_le_one : normalize a defaultRiskConfig ≤ 1 := by
  rw [normalize_default]
  split
  · exact zero_le_one
  · exact min_le_left 1 a

lemma normalize_mono (h : a ≤ b) : normalize a defaultRiskConfig ≤ normalize b defaultRiskConfig := by
  by_cases ha : a ≤ 0
  · rw [normalize_default a, if_pos ha]
    exact normalize_nonneg
  · rw [normalize_default, normalize_default, if_neg ha, if_neg (by linarith)]
    exact min_le_min_left 1 h

lemma order_le_critical (band : RiskBand) : band.order ≤ RiskBand.critical.order := by
  cases band <;> decide

/-- A higher index never has a lower band. -/
lemma bandFor_mono (h : a ≤ b) :
    (defaultRiskConfig.bandFor a).order ≤ (defaultRiskConfig.bandFor b).order := by
  unfold RiskConfig.bandFor
  by_cases hc : defaultRiskConfig.bandCriticalAt ≤ b
  · rw [if_pos hc]
    exact order_le_critical _
  · rw [if_neg hc, if_neg fun hca => hc (hca.trans h)]
    by_cases hh : defaultRiskConfig.bandHighAt ≤ b
    · rw [if_pos hh]
      split
      · exact le_refl _
      · split <;> decide
    · rw [if_neg hh, if_neg fun hha => hh (hha.trans h)]
      by_cases hm : defaultRiskConfig.bandMediumAt ≤ b
      · rw [if_pos hm]
        split <;> decide
      · rw [if_neg hm, if_neg fun hma => hm (hma.trans h)]

end Index

/-- A score within its range whose factors are explained: each contribution is positive and at most
the weight of its rule. -/
def WellScored (features : Features) : Prop :=
  ∃ factors raw, score features defaultRiskConfig = .ok (factors, raw) ∧
    0 ≤ normalize raw defaultRiskConfig ∧ normalize raw defaultRiskConfig ≤ 1 ∧
    ∀ f ∈ factors, 0 < f.contribution ∧ ∃ rule ∈ factorRules, Explains defaultRiskConfig rule f

/-- Both mappings have a score, and points, index and band of the first are not above those of the
second. -/
def ScoresAtMost (features features' : Features) : Prop :=
  ∃ factors raw factors' raw', score features defaultRiskConfig = .ok (factors, raw) ∧
    score features' defaultRiskConfig = .ok (factors', raw') ∧ raw ≤ raw' ∧
    normalize raw defaultRiskConfig ≤ normalize raw' defaultRiskConfig ∧
    (defaultRiskConfig.bandFor (normalize raw defaultRiskConfig)).order ≤
      (defaultRiskConfig.bandFor (normalize raw' defaultRiskConfig)).order

/-- Modest features fit in their sentences. -/
lemma explainable_of_modest {features : Features}
    (h : ∀ name f, features name = some f → f.Modest) : Explainable features := by
  intro rule hrule v hobservation _
  unfold observation at hobservation
  split at hobservation
  · cases hobservation
  · next f hf =>
    split at hobservation
    · exact sentenceWidth_modest hrule (h _ f hf v hobservation)
    · cases hobservation

/-- Scores are in range, explained and monotone for all features that fit in their sentences, as the
features of every mission do. -/
theorem scored_and_monotone :
    (∀ features, Explainable features → WellScored features) ∧
    (∀ features features', Explainable features → Explainable features' →
      Riskier features features' → ScoresAtMost features features') ∧
    ∀ db records verified missionId now facts, Storable db → now.InRange →
      loadMissionFacts db records defaultRiskConfig verified missionId = some facts →
      Explainable (missionFeatures db facts defaultRiskConfig now) := by
  refine ⟨fun features h => ?_, fun features features' h h' hrisk => ?_,
    fun db records verified missionId now facts hdb hnow hload =>
      explainable_of_modest (modest_features hdb hnow hload)⟩
  · rcases score_ok features with ⟨-, factors, hscore, hexplains⟩ | ⟨hn, -⟩
    · exact ⟨factors, _, hscore, normalize_nonneg, normalize_le_one,
        fun f hf => ⟨f.contribution_pos, hexplains f hf⟩⟩
    · exact absurd h hn
  · rcases score_ok features with ⟨-, factors, hscore, -⟩ | ⟨hn, -⟩
    · rcases score_ok features' with ⟨-, factors', hscore', -⟩ | ⟨hn, -⟩
      · have hraw := rawPoints_mono hrisk
        exact ⟨factors, _, factors', _, hscore, hscore', hraw, normalize_mono hraw,
          bandFor_mono (normalize_mono hraw)⟩
      · exact absurd h' hn
    · exact absurd h hn

namespace Sample

/-- One measured count of identity mismatches. -/
def mismatches (n : Rat) : Features := fun name =>
  if name = "merchant_identity_mismatch_events" then some ⟨some (.num n), true, true⟩ else none

/-- The sentence about mismatches leaves room for 251 characters. -/
lemma length_num_le {n : Rat} (h : Explainable (mismatches n))
    (hearned : ∀ rule ∈ factorRules.take 1, curve rule defaultRiskConfig n ≠ 0) :
    (num n).length ≤ 251 := by
  have hfits := h _ (List.mem_append_left _ (List.mem_append_left _ (List.mem_cons_self ..))) n rfl
    (hearned _ (List.mem_cons_self ..))
  have htexts : ("this merchant has asserted an identity other than the one it ".length = 61 ∧
      "authenticated as on ".length = 20 ∧ " recorded occasion(s)".length = 21) ∧
      " (100% of the available weight for this factor)".length = 47 :=
    ⟨⟨length_of (by decide), length_of (by decide), length_of (by decide)⟩, length_of (by decide)⟩
  simp only [sentenceWidth, countRule, List.map_cons, List.map_nil, Piece.fixedWidth,
    Piece.shownWidth, List.sum_cons, List.sum_nil, htexts] at hfits
  omega

lemma riskier {m n : Rat} (h : m ≤ n) : Riskier (mismatches m) (mismatches n) := by
  intro rule hrule feature hfeature havailable
  unfold mismatches at hfeature
  split at hfeature
  · next hname =>
    obtain rfl := Option.some.inj hfeature
    have hcount : ∀ rule ∈ factorRules, rule.feature = "merchant_identity_mismatch_events" →
        rule.shape = .count := by
      decide
    refine ⟨_, if_pos hname, rfl, ?_⟩
    rintro v hv
    obtain rfl := Option.some.inj hv
    refine ⟨.num n, rfl, ?_⟩
    rw [hcount rule hrule hname]
    exact h
  · cases hfeature

end Sample

/-- A count of 252 digits makes a sentence of 401 characters, and there is no score. -/
theorem huge_count_has_no_score :
    (∃ e, score (Sample.mismatches (10 ^ 251)) defaultRiskConfig = .error e) ∧
      Riskier (Sample.mismatches 1) (Sample.mismatches (10 ^ 251)) ∧
      ¬WellScored (Sample.mismatches (10 ^ 251)) ∧
      ¬ScoresAtMost (Sample.mismatches 1) (Sample.mismatches (10 ^ 251)) := by
  have hlong : ¬Explainable (Sample.mismatches (10 ^ 251)) := by
    intro h
    have hnum : ¬(num (10 ^ 251)).length ≤ 251 := by
      have hnear : |(10 ^ 251 : Rat) - Numeric.roundHalfEven (10 ^ 251)| < 1 / 10 ^ 9 := by
        decide +kernel
      have hround : (Numeric.roundHalfEven (10 ^ 251)).toNat = 10 ^ 251 := by decide +kernel
      rw [num, if_pos hnear]
      rcases Text.toString_int_cases (Numeric.roundHalfEven (10 ^ 251)) with ⟨-, htext⟩ | ⟨hneg, -⟩
      · rw [htext, hround, Nat.length_repr_le_iff (by norm_num)]
        exact lt_irrefl _
      · exact absurd (roundHalfEven_nonneg (q := 10 ^ 251) (by norm_num)) (by omega)
    exact hnum (Sample.length_num_le h (by decide))
  have hraised : ∃ e, score (Sample.mismatches (10 ^ 251)) defaultRiskConfig = .error e := by
    rcases score_ok (Sample.mismatches (10 ^ 251)) with ⟨h, -⟩ | ⟨-, he⟩
    · exact absurd h hlong
    · exact he
  refine ⟨hraised, Sample.riskier (by norm_num), ?_, ?_⟩
  · rintro ⟨factors, raw, hscore, -⟩
    obtain ⟨e, he⟩ := hraised
    cases he.symm.trans hscore
  · rintro ⟨factors, raw, factors', raw', -, hscore', -⟩
    obtain ⟨e, he⟩ := hraised
    cases he.symm.trans hscore'

namespace Sample

/-- A merchant about which only the registry has something to say. -/
def merchant (known : Bool) (trust : Rat) : Features := fun name =>
  if name = "merchant_known" then some ⟨some (.bool known), true, false⟩
  else if name = "merchant_trust" then some ⟨some (.num trust), true, false⟩
  else none

lemma merchant_modest {known : Bool} {trust : Rat} (h₀ : 0 ≤ trust) (h₁ : trust ≤ 1) :
    ∀ name f, merchant known trust name = some f → f.Modest := by
  intro name f hf
  unfold merchant at hf
  split at hf
  · obtain rfl := Option.some.inj hf
    exact modest_bool "merchant_known" known
  split at hf
  · obtain rfl := Option.some.inj hf
    have htrust : |trust| ≤ 10 ^ 40 := by
      rw [abs_of_nonneg h₀]
      exact h₁.trans (by norm_num)
    exact (modest_num htrust : (measured "merchant_trust" (some (.num trust))).2.Modest)
  · cases hf

/-- A known merchant that turns unknown loses its trust with it. -/
lemma merchant_riskier {trust : Rat} (h : 0 ≤ trust) :
    Riskier (merchant true trust) (merchant false 0) := by
  have hshapes : ∀ rule ∈ factorRules,
      (rule.feature = "merchant_known" → rule.shape = .absentFlag) ∧
        (rule.feature = "merchant_trust" → rule.shape = .shortfall) := by
    decide
  intro rule hrule feature hfeature _
  obtain ⟨hknown, htrust⟩ := hshapes rule hrule
  unfold merchant at hfeature
  split at hfeature
  · next hname =>
    obtain rfl := Option.some.inj hfeature
    refine ⟨_, if_pos hname, rfl, fun v hv => ?_⟩
    obtain rfl := Option.some.inj hv
    refine ⟨.bool false, rfl, ?_⟩
    rw [hknown hname]
    exact fun _ => rfl
  split at hfeature
  · next hne hname =>
    obtain rfl := Option.some.inj hfeature
    refine ⟨_, (if_neg hne).trans (if_pos hname), rfl, fun v hv => ?_⟩
    obtain rfl := Option.some.inj hv
    refine ⟨.num 0, rfl, ?_⟩
    rw [htrust hname]
    exact h
  · cases hfeature

/-- A mission that settled on a merchant, and was decided and authorized. -/
def db : Db :=
  { Db.empty with
    missions := [⟨⟨"m"⟩, none, 1, .authorized⟩]
    policyDecisions := [⟨⟨"d"⟩, ⟨"m"⟩, .requireApproval, "", [], some 180, 100, 200, none, 0⟩]
    auditEvents :=
      [⟨⟨"e"⟩, ⟨"m"⟩, 0, "MISSION_CREATED", "user", .obj [], "", "", 0⟩,
       ⟨⟨"f"⟩, ⟨"m"⟩, 1, "AUTHORIZATION_REPLAY_DETECTED", "kernel", .obj [], "", "", 0⟩]
    authorizations :=
      [{ authorizationId := ⟨"a"⟩, missionId := ⟨"m"⟩, transactionDigest := "", nonce := ""
         bindingVersion := "", policyVersion := "", offerVersion := ""
         approvalScheme := .policyAuto, signingKeyId := none, approvalSignature := none
         status := .active, issuedAt := 0, expiresAt := 900000000, consumedAt := none
         boundMerchantId := "merchant_b", boundProductId := "p", boundQuantity := 1
         boundAmountInr := 180, boundCurrency := "INR" }] }

lemma storable : Storable db := by
  refine ⟨?_, ?_, ?_, ?_, ?_, ?_⟩ <;> decide

/-- The registry knows the merchant. -/
def records : List (String × MerchantRecord) :=
  [("merchant_b", ⟨3 / 4, true, by norm_num, by norm_num⟩)]

end Sample

/-- A known merchant with a trust of three tenths scores something, and at least as much when it
turns unknown, which closes the gate of the rule about its trust. The features of a mission that
settled on a known merchant fit. -/
theorem scored_and_monotone_unknown :
    gateOpen (Sample.merchant true (3 / 10)) merchantTrustBelowPreferred = true ∧
      gateOpen (Sample.merchant false 0) merchantTrustBelowPreferred = false ∧
      WellScored (Sample.merchant true (3 / 10)) ∧
      ScoresAtMost (Sample.merchant true (3 / 10)) (Sample.merchant false 0) ∧
      ∃ facts, loadMissionFacts Sample.db Sample.records defaultRiskConfig (fun _ => true) ⟨"m"⟩ =
          some facts ∧ facts.merchantTrust = 3 / 4 ∧
        Explainable (missionFeatures Sample.db facts defaultRiskConfig 0) := by
  obtain ⟨hscored, hmonotone, hmissions⟩ := scored_and_monotone
  have hknown : Explainable (Sample.merchant true (3 / 10)) :=
    explainable_of_modest (Sample.merchant_modest (by norm_num) (by norm_num))
  have hunknown : Explainable (Sample.merchant false 0) :=
    explainable_of_modest (Sample.merchant_modest (le_refl 0) zero_le_one)
  have hloaded : (loadMissionFacts Sample.db Sample.records defaultRiskConfig (fun _ => true)
      ⟨"m"⟩).map MissionFacts.merchantTrust = some (3 / 4) := by
    decide +kernel
  obtain ⟨facts, hfacts, htrust⟩ := Option.map_eq_some_iff.mp hloaded
  exact ⟨by decide, by decide, hscored _ hknown,
    hmonotone _ _ hknown hunknown (Sample.merchant_riskier (by norm_num)), facts, hfacts, htrust,
    hmissions _ _ _ _ _ _ Sample.storable (by decide) hfacts⟩

end RiskEngine

end Pactra
