import Pactra.Foundation.Runs
import Pactra.Foundation.Tx

/-!
# Two runs of related systems

A relation between the states of two systems, and computations that cannot tell them apart: from
related states they end the same way, in related states. The rules take such a pair of computations
apart along its structure, so that only the statements that read or write what the relation does
not fix need an argument of their own.

## Main results

- `Tx.Simulates.bind`, `Tx.Simulates.get_bind`, `Tx.Simulates.tryCatch` — the rules
- `Runs.simulates` — what every step simulates, every run does
-/

namespace Tx

variable {σ τ ε α β : Type}

/-- From related states, two computations end the same way and in related states. -/
def Simulates (R : σ → τ → Prop) (x : Tx σ ε α) (y : Tx τ ε α) : Prop :=
  ∀ s t, R s t → (y.run t).1 = (x.run s).1 ∧ R (x.run s).2 (y.run t).2

variable {R : σ → τ → Prop}

/-- What the second computation does, where it is known what the first does. -/
theorem Simulates.run {x : Tx σ ε α} {y : Tx τ ε α} (h : Simulates R x y) {s s' : σ} {t : τ}
    (hst : R s t) {r : Except ε α} (hx : x.run s = (r, s')) :
    ∃ t', y.run t = (r, t') ∧ R s' t' := by
  obtain ⟨hr, hR⟩ := h s t hst
  rw [hx] at hr hR
  exact ⟨(y.run t).2, Prod.ext hr rfl, hR⟩

namespace Simulates

theorem pure (a : α) : Simulates R (Pure.pure a : Tx σ ε α) (Pure.pure a) :=
  fun _ _ h => ⟨rfl, h⟩

theorem raise (e : ε) : Simulates R (Tx.raise e : Tx σ ε α) (Tx.raise e) :=
  fun _ _ h => ⟨rfl, h⟩

theorem gets {f : σ → α} {g : τ → α} (h : ∀ s t, R s t → g t = f s) :
    Simulates R (Tx.gets f : Tx σ ε α) (Tx.gets g) :=
  fun s t hst => ⟨congrArg Except.ok (h s t hst), hst⟩

theorem modify {f : σ → σ} {g : τ → τ} (h : ∀ s t, R s t → R (f s) (g t)) :
    Simulates R (Tx.modify f : Tx σ ε Unit) (Tx.modify g) :=
  fun s t hst => ⟨rfl, h s t hst⟩

theorem bind {x : Tx σ ε α} {y : Tx τ ε α} {f : α → Tx σ ε β} {g : α → Tx τ ε β}
    (hx : Simulates R x y) (hf : ∀ a, Simulates R (f a) (g a)) :
    Simulates R (x >>= f) (y >>= g) := by
  intro s t hst
  rcases hxs : x.run s with ⟨e | a, s'⟩
  · obtain ⟨t', hy, hR⟩ := hx.run hst hxs
    rw [run_bind_of_error hxs, run_bind_of_error hy]
    exact ⟨rfl, hR⟩
  · obtain ⟨t', hy, hR⟩ := hx.run hst hxs
    rw [run_bind_of_ok hxs, run_bind_of_ok hy]
    exact hf a s' t' hR

/-- What follows a read of the state may use the state it read. -/
theorem get_bind {f : σ → Tx σ ε α} {g : τ → Tx τ ε α}
    (h : ∀ s t, R s t → Simulates R (f s) (g t)) :
    Simulates R (Tx.get >>= f) (Tx.get >>= g) :=
  fun s t hst => h s t hst s t hst

theorem tryCatch {x : Tx σ ε α} {y : Tx τ ε α} {f : ε → Tx σ ε α} {g : ε → Tx τ ε α}
    (hx : Simulates R x y) (hf : ∀ e, Simulates R (f e) (g e)) :
    Simulates R (tryCatch x f : Tx σ ε α) (tryCatch y g) := by
  intro s t hst
  rcases hxs : x.run s with ⟨e | a, s'⟩
  · obtain ⟨t', hy, hR⟩ := hx.run hst hxs
    rw [run_tryCatch, run_tryCatch, hxs, hy]
    exact hf e s' t' hR
  · obtain ⟨t', hy, hR⟩ := hx.run hst hxs
    rw [run_tryCatch, run_tryCatch, hxs, hy]
    exact ⟨rfl, hR⟩

theorem ite {c : Prop} [Decidable c] {x x' : Tx σ ε α} {y y' : Tx τ ε α}
    (h : Simulates R x y) (h' : Simulates R x' y') :
    Simulates R (if c then x else x') (if c then y else y') := by
  split
  · exact h
  · exact h'

end Simulates

end Tx

namespace Runs

variable {σ τ α : Type} {step : σ → α → Option σ} {step' : τ → α → Option τ} {R : σ → τ → Prop}

/-- What every step of one system simulates in another, every run does. -/
theorem simulates (hstep : ∀ s t a s', R s t → step s a = some s' →
      ∃ t', step' t a = some t' ∧ R s' t')
    {s s' : σ} {t : τ} {as : List α} (hst : R s t) (hrun : run step s as = some s') :
    ∃ t', run step' t as = some t' ∧ R s' t' := by
  induction as generalizing s t with
  | nil =>
    obtain rfl := Option.some.inj hrun
    exact ⟨t, rfl, hst⟩
  | cons a as ih =>
    obtain ⟨s₁, h₁, h₂⟩ := run_cons.mp hrun
    obtain ⟨t₁, ht₁, hR⟩ := hstep s t a s₁ hst h₁
    obtain ⟨t', ht', hR'⟩ := ih hR h₂
    exact ⟨t', run_cons.mpr ⟨t₁, ht₁, ht'⟩, hR'⟩

end Runs
