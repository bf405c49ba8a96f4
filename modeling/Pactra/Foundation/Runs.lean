import Mathlib.Tactic.Common

/-!
# Runs of a labelled transition function

A system is a partial step function: an action that is not enabled has no successor. A run is a
list of actions, each enabled where it is taken.

## Main results

- `Runs.invariant` — what every step preserves holds after every run
- `Runs.invariant_along` — the same for runs whose steps all meet a condition
- `Runs.relates` — a reflexive and transitive relation that every step respects relates the ends
- `Runs.invariant_unless` — what every step preserves that is not of a given kind holds after a run,
  unless one of its steps is of that kind
- `Runs.first_step` — what does not hold at the start of a run and holds at its end became true at
  some step
-/

namespace Runs

variable {σ α : Type} (step : σ → α → Option σ)

/-- The state after a list of actions, if every one of them was enabled. -/
def run : σ → List α → Option σ
  | s, [] => some s
  | s, a :: as =>
    match step s a with
    | none => none
    | some s' => run s' as

/-- Every step of a run meets a condition on the state before it and the action. -/
def Along (guard : σ → α → Prop) : σ → List α → Prop
  | _, [] => True
  | s, a :: as => guard s a ∧ ∀ s', step s a = some s' → Along guard s' as

/-- Whether a run meets a condition can be computed. -/
instance decidableAlong {guard : σ → α → Prop} [∀ s a, Decidable (guard s a)] :
    ∀ s as, Decidable (Along step guard s as)
  | _, [] => isTrue trivial
  | s, a :: as =>
    match h : step s a with
    | none => decidable_of_iff (guard s a) (by simp [Along, h])
    | some s' =>
      have : Decidable (Along step guard s' as) := decidableAlong s' as
      decidable_of_iff (guard s a ∧ Along step guard s' as) (by simp [Along, h])

variable {step} {s s' s'' : σ} {a : α} {as bs : List α}

theorem run_cons : run step s (a :: as) = some s'' ↔
    ∃ s', step s a = some s' ∧ run step s' as = some s'' := by
  simp only [run]
  split <;> simp_all

theorem run_append : run step s (as ++ bs) = some s'' ↔
    ∃ s', run step s as = some s' ∧ run step s' bs = some s'' := by
  induction as generalizing s with
  | nil => simp [run]
  | cons a as ih =>
    simp only [List.cons_append, run_cons, ih]
    constructor
    · rintro ⟨s₁, h₁, s₂, h₂, h₃⟩
      exact ⟨s₂, ⟨s₁, h₁, h₂⟩, h₃⟩
    · rintro ⟨s₂, ⟨s₁, h₁, h₂⟩, h₃⟩
      exact ⟨s₁, h₁, s₂, h₂, h₃⟩

/-- A condition that always holds is met along every run. -/
theorem along_of {guard : σ → α → Prop} (h : ∀ s a, guard s a) : Along step guard s as := by
  induction as generalizing s with
  | nil => trivial
  | cons a as ih => exact ⟨h s a, fun _ _ => ih⟩

/-- A run that meets a condition meets every weaker one. -/
theorem Along.imp {guard guard' : σ → α → Prop} (h : Along step guard s as)
    (himp : ∀ s a, guard s a → guard' s a) : Along step guard' s as := by
  induction as generalizing s with
  | nil => trivial
  | cons a as ih => exact ⟨himp s a h.1, fun s' hs' => ih (h.2 s' hs')⟩

/-- What every step that meets a condition preserves holds after every run whose steps all meet
the condition. -/
theorem invariant_along {guard : σ → α → Prop} {I : σ → Prop}
    (hstep : ∀ s a s', I s → guard s a → step s a = some s' → I s')
    (hs : I s) (hguard : Along step guard s as) (hrun : run step s as = some s') : I s' := by
  induction as generalizing s with
  | nil =>
    obtain rfl := Option.some.inj hrun
    exact hs
  | cons a as ih =>
    obtain ⟨s₁, h₁, h₂⟩ := run_cons.mp hrun
    exact ih (hstep s a s₁ hs hguard.1 h₁) (hguard.2 s₁ h₁) h₂

/-- What every step preserves holds after every run. -/
theorem invariant {I : σ → Prop}
    (hstep : ∀ s a s', I s → step s a = some s' → I s')
    (hs : I s) (hrun : run step s as = some s') : I s' := by
  induction as generalizing s with
  | nil =>
    obtain rfl := Option.some.inj hrun
    exact hs
  | cons a as ih =>
    obtain ⟨s₁, h₁, h₂⟩ := run_cons.mp hrun
    exact ih (hstep s a s₁ hs h₁) h₂

/-- A reflexive and transitive relation that every step from a state with an invariant respects
relates the ends of every run. -/
theorem relates {I : σ → Prop} {r : σ → σ → Prop} (hrefl : ∀ s, r s s)
    (htrans : ∀ s t u, r s t → r t u → r s u)
    (hstep : ∀ s a s', I s → step s a = some s' → I s' ∧ r s s')
    (hs : I s) (hrun : run step s as = some s') : r s s' := by
  induction as generalizing s with
  | nil =>
    obtain rfl := Option.some.inj hrun
    exact hrefl _
  | cons a as ih =>
    obtain ⟨s₁, h₁, h₂⟩ := run_cons.mp hrun
    obtain ⟨hi, hr⟩ := hstep s a s₁ hs h₁
    exact htrans s s₁ s' hr (ih hi h₂)

/-- What every step of a run preserves that is not of a given kind holds at its end, unless one of
its steps is of that kind. -/
theorem invariant_unless {I : σ → Prop} {kind : σ → α → σ → Prop}
    (hstep : ∀ s, ∀ a ∈ as, ∀ s', I s → step s a = some s' → I s' ∨ kind s a s')
    (hs : I s) (hrun : run step s as = some s') :
    I s' ∨ ∃ before a after t t', as = before ++ a :: after ∧ run step s before = some t ∧
      step t a = some t' ∧ kind t a t' := by
  induction as generalizing s with
  | nil =>
    obtain rfl := Option.some.inj hrun
    exact .inl hs
  | cons a as ih =>
    obtain ⟨s₁, h₁, h₂⟩ := run_cons.mp hrun
    rcases hstep s a List.mem_cons_self s₁ hs h₁ with hi | hkind
    · rcases ih (fun t b hb => hstep t b (List.mem_cons_of_mem a hb)) hi h₂ with
        hi' | ⟨before, b, after, t, t', rfl, hbefore, hstep', hkind⟩
      · exact .inl hi'
      · exact .inr ⟨a :: before, b, after, t, t', rfl, run_cons.mpr ⟨s₁, h₁, hbefore⟩, hstep',
          hkind⟩
    · exact .inr ⟨[], a, as, s, s₁, rfl, rfl, h₁, hkind⟩

/-- What does not hold at the start of a run and holds at its end became true at some step. -/
theorem first_step {p : σ → Prop} (hs : ¬p s) (hrun : run step s as = some s') (hs' : p s') :
    ∃ before a after t t', as = before ++ a :: after ∧ run step s before = some t ∧
      step t a = some t' ∧ run step t' after = some s' ∧ ¬p t ∧ p t' := by
  induction as generalizing s with
  | nil =>
    obtain rfl := Option.some.inj hrun
    exact absurd hs' hs
  | cons a as ih =>
    obtain ⟨s₁, h₁, h₂⟩ := run_cons.mp hrun
    by_cases hp : p s₁
    · exact ⟨[], a, as, s, s₁, rfl, rfl, h₁, h₂, hs, hp⟩
    · obtain ⟨before, b, after, t, t', rfl, hbefore, hstep, hafter, hnot, hp'⟩ := ih hp h₂
      exact ⟨a :: before, b, after, t, t', rfl, run_cons.mpr ⟨s₁, h₁, hbefore⟩, hstep, hafter,
        hnot, hp'⟩

end Runs
