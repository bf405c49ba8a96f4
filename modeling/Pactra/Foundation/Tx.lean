import Mathlib.Tactic.Common

/-!
# Transactional computations

A computation of type `Tx σ ε α` reads and writes a state and ends either with a value or with
an exception. Unlike `StateT σ (Except ε)`, an exception does not undo what was written before
it: the state at the moment of the exception is part of the outcome. This is how an imperative
language with mutable objects behaves, and it is what a `try ... except` block observes.
Discarding the state of a failed computation is a decision of whoever runs it.

## Main results

- `Tx.bind_ok`, `Tx.bind_error` — inversion of a sequence by how it ended
- `Tx.tryCatch_ok` — inversion of a guarded block
- `Tx.Respects.bind`, `Tx.Respects.tryCatch` — a preorder that every part respects is respected by
  the whole, however it ended
- `Tx.Raises.bind`, `Tx.RaisesAt.bind`, `Tx.RaisesAt.tryCatch` — what every part raises, the whole
  raises
-/

/-- A computation over a mutable state `σ` that may end with an exception `ε`. The state
survives the exception. -/
def Tx (σ ε α : Type) : Type := σ → Except ε α × σ

namespace Tx

variable {σ ε α β : Type}

/-- Run a computation from a state. -/
def run (x : Tx σ ε α) (s : σ) : Except ε α × σ := x s

instance : Monad (Tx σ ε) where
  pure a := fun s => (.ok a, s)
  bind x f := fun s =>
    match x s with
    | (.ok a, s') => f a s'
    | (.error e, s') => (.error e, s')

instance : MonadExceptOf ε (Tx σ ε) where
  throw e := fun s => (.error e, s)
  tryCatch x h := fun s =>
    match x s with
    | (.ok a, s') => (.ok a, s')
    | (.error e, s') => h e s'

/-- Raise an exception, keeping the state. -/
def raise (e : ε) : Tx σ ε α := fun s => (.error e, s)

/-- The current state. -/
def get : Tx σ ε σ := fun s => (.ok s, s)

/-- Read a value from the current state. -/
def gets (f : σ → α) : Tx σ ε α := fun s => (.ok (f s), s)

/-- Change the state. -/
def modify (f : σ → σ) : Tx σ ε Unit := fun s => (.ok (), f s)

-- ════════════════════════════════════════════════════════════════════════
-- Evaluation
-- ════════════════════════════════════════════════════════════════════════

@[simp] theorem run_pure (a : α) (s : σ) : (pure a : Tx σ ε α).run s = (.ok a, s) := rfl

@[simp] theorem run_raise (e : ε) (s : σ) : (raise e : Tx σ ε α).run s = (.error e, s) := rfl

@[simp] theorem run_throw (e : ε) (s : σ) :
    (throw e : Tx σ ε α).run s = (.error e, s) := rfl

@[simp] theorem run_get (s : σ) : (get : Tx σ ε σ).run s = (.ok s, s) := rfl

@[simp] theorem run_gets (f : σ → α) (s : σ) :
    (gets f : Tx σ ε α).run s = (.ok (f s), s) := rfl

@[simp] theorem run_modify (f : σ → σ) (s : σ) :
    (modify f : Tx σ ε Unit).run s = (.ok (), f s) := rfl

theorem run_bind (x : Tx σ ε α) (f : α → Tx σ ε β) (s : σ) :
    (x >>= f).run s =
      match x.run s with
      | (.ok a, s') => (f a).run s'
      | (.error e, s') => (.error e, s') := rfl

theorem run_bind_of_ok {x : Tx σ ε α} {f : α → Tx σ ε β} {s s' : σ} {a : α}
    (h : x.run s = (.ok a, s')) : (x >>= f).run s = (f a).run s' := by
  rw [run_bind, h]

/-- How a sequence ended is how its second half ended, after a first half that returned. -/
theorem rest_of_ok {x : Tx σ ε α} {f : α → Tx σ ε β} {s s' : σ} {a : α} {out : Except ε β × σ}
    (h : x.run s = (.ok a, s')) (hout : (x >>= f).run s = out) : (f a).run s' = out :=
  (run_bind_of_ok h).symm.trans hout

theorem run_bind_of_error {x : Tx σ ε α} {f : α → Tx σ ε β} {s s' : σ} {e : ε}
    (h : x.run s = (.error e, s')) : (x >>= f).run s = (.error e, s') := by
  rw [run_bind, h]

@[simp] theorem run_ite {c : Prop} [Decidable c] (x y : Tx σ ε α) (s : σ) :
    (if c then x else y).run s = if c then x.run s else y.run s := by
  split <;> rfl

-- ════════════════════════════════════════════════════════════════════════
-- Inversion
-- ════════════════════════════════════════════════════════════════════════

/-- A sequence of partial results is a result exactly when both halves are. -/
theorem except_bind_ok {x : Except ε α} {f : α → Except ε β} {b : β} :
    (x >>= f) = .ok b ↔ ∃ a, x = .ok a ∧ f a = .ok b := by
  cases x with
  | error e => simp [Bind.bind, Except.bind]
  | ok a => simp [Bind.bind, Except.bind]

/-- A sequence returned a value exactly when both halves did. -/
theorem bind_ok {x : Tx σ ε α} {f : α → Tx σ ε β} {s s'' : σ} {b : β} :
    (x >>= f).run s = (.ok b, s'') ↔
      ∃ a s', x.run s = (.ok a, s') ∧ (f a).run s' = (.ok b, s'') := by
  rw [run_bind]
  rcases hx : x.run s with ⟨r | a, s'⟩
  · simp
  · constructor
    · intro h
      exact ⟨a, s', rfl, h⟩
    · rintro ⟨a', s₁, h₁, h₂⟩
      obtain ⟨ha, rfl⟩ := Prod.mk.inj h₁
      obtain rfl := Except.ok.inj ha
      exact h₂

/-- A sequence raised an exception exactly when its first half did, or its second half did
after the first returned. -/
theorem bind_error {x : Tx σ ε α} {f : α → Tx σ ε β} {s s'' : σ} {e : ε} :
    (x >>= f).run s = (.error e, s'') ↔
      x.run s = (.error e, s'') ∨
        ∃ a s', x.run s = (.ok a, s') ∧ (f a).run s' = (.error e, s'') := by
  rw [run_bind]
  rcases hx : x.run s with ⟨r | a, s'⟩
  · simp
  · constructor
    · intro h
      exact .inr ⟨a, s', rfl, h⟩
    · rintro (h | ⟨a', s₁, h₁, h₂⟩)
      · cases h
      · obtain ⟨ha, rfl⟩ := Prod.mk.inj h₁
        obtain rfl := Except.ok.inj ha
        exact h₂

theorem run_tryCatch (x : Tx σ ε α) (h : ε → Tx σ ε α) (s : σ) :
    (tryCatch x h : Tx σ ε α).run s =
      match x.run s with
      | (.ok a, s') => (.ok a, s')
      | (.error e, s') => (h e).run s' := rfl

/-- A guarded block returned a value exactly when its body did, or its handler did. -/
theorem tryCatch_ok {x : Tx σ ε α} {h : ε → Tx σ ε α} {s s'' : σ} {a : α} :
    (tryCatch x h : Tx σ ε α).run s = (.ok a, s'') ↔
      x.run s = (.ok a, s'') ∨
        ∃ e s', x.run s = (.error e, s') ∧ (h e).run s' = (.ok a, s'') := by
  rw [run_tryCatch]
  rcases hx : x.run s with ⟨r | a', s'⟩
  · constructor
    · intro hr
      exact .inr ⟨r, s', rfl, hr⟩
    · rintro (hr | ⟨e, s₁, h₁, h₂⟩)
      · cases hr
      · obtain ⟨he, rfl⟩ := Prod.mk.inj h₁
        obtain rfl := Except.error.inj he
        exact h₂
  · simp

/-- A check that raises when it fails has passed if the computation returned a value. -/
theorem of_ite_raise_ok {c : Prop} [Decidable c] {x : Tx σ ε α} {e : ε} {s s' : σ} {a : α}
    (h : (if c then x else raise e).run s = (.ok a, s')) : c := by
  by_contra hc
  simp [hc] at h

-- ════════════════════════════════════════════════════════════════════════
-- Frame rules
-- ════════════════════════════════════════════════════════════════════════

/-- Whatever way the computation ends, the state it leaves is related to the one it started
from. -/
def Respects (R : σ → σ → Prop) (x : Tx σ ε α) : Prop := ∀ s, R s (x.run s).2

/-- Two states agree on a component. -/
def Same {τ : Type} (f : σ → τ) (s s' : σ) : Prop := f s' = f s

instance {τ : Type} (f : σ → τ) : Std.Refl (Same f) := ⟨fun _ => rfl⟩

instance {τ : Type} (f : σ → τ) : IsTrans σ (Same f) := ⟨fun _ _ _ h h' => Eq.trans h' h⟩

section Respects

variable {R : σ → σ → Prop} [Std.Refl R] [IsTrans σ R]

omit [IsTrans σ R] in
theorem Respects.pure (a : α) : Respects R (Pure.pure a : Tx σ ε α) :=
  fun s => Std.Refl.refl s

omit [IsTrans σ R] in
theorem Respects.raise (e : ε) : Respects R (Tx.raise e : Tx σ ε α) :=
  fun s => Std.Refl.refl s

omit [IsTrans σ R] in
theorem Respects.get : Respects R (Tx.get : Tx σ ε σ) := fun s => Std.Refl.refl s

omit [Std.Refl R] [IsTrans σ R] in
theorem Respects.modify {f : σ → σ} (h : ∀ s, R s (f s)) :
    Respects R (Tx.modify f : Tx σ ε Unit) := h

omit [Std.Refl R] in
theorem Respects.bind {x : Tx σ ε α} {f : α → Tx σ ε β} (hx : Respects R x)
    (hf : ∀ a, Respects R (f a)) : Respects R (x >>= f) := by
  intro s
  have h := hx s
  rw [run_bind]
  rcases hxs : x.run s with ⟨r | a, s'⟩
  · simpa [hxs] using h
  · rw [hxs] at h
    exact IsTrans.trans _ _ _ h (hf a s')

omit [Std.Refl R] in
theorem Respects.tryCatch {x : Tx σ ε α} {h : ε → Tx σ ε α} (hx : Respects R x)
    (hh : ∀ e, Respects R (h e)) : Respects R (tryCatch x h : Tx σ ε α) := by
  intro s
  have hs := hx s
  rw [run_tryCatch]
  rcases hxs : x.run s with ⟨r | a, s'⟩
  · rw [hxs] at hs
    exact IsTrans.trans _ _ _ hs (hh r s')
  · simpa [hxs] using hs

omit [Std.Refl R] [IsTrans σ R] in
theorem Respects.ite {c : Prop} [Decidable c] {x y : Tx σ ε α} (hx : c → Respects R x)
    (hy : ¬c → Respects R y) : Respects R (if c then x else y) := by
  split
  · next h => exact hx h
  · next h => exact hy h

end Respects

-- ════════════════════════════════════════════════════════════════════════
-- Exceptions
-- ════════════════════════════════════════════════════════════════════════

/-- Every exception the computation can end with has a property. -/
def Raises (P : ε → Prop) (x : Tx σ ε α) : Prop := ∀ s e s', x.run s = (.error e, s') → P e

section Raises

variable {P : ε → Prop}

theorem Raises.of_ok {x : Tx σ ε α} (h : ∀ s, ∃ a s', x.run s = (.ok a, s')) : Raises P x := by
  intro s e s' he
  obtain ⟨a, s'', ha⟩ := h s
  rw [ha] at he
  simp at he

theorem Raises.pure (a : α) : Raises P (Pure.pure a : Tx σ ε α) := .of_ok fun s => ⟨a, s, rfl⟩

theorem Raises.get : Raises P (Tx.get : Tx σ ε σ) := .of_ok fun s => ⟨s, s, rfl⟩

theorem Raises.modify (f : σ → σ) : Raises P (Tx.modify f : Tx σ ε Unit) :=
  .of_ok fun s => ⟨(), f s, rfl⟩

theorem Raises.raise {e : ε} (h : P e) : Raises P (Tx.raise e : Tx σ ε α) := by
  intro s e' s' he
  obtain rfl := Except.error.inj (Prod.mk.inj he).1
  exact h

theorem Raises.mono {Q : ε → Prop} {x : Tx σ ε α} (hx : Raises P x) (h : ∀ e, P e → Q e) :
    Raises Q x := fun s e s' he => h e (hx s e s' he)

theorem Raises.bind {x : Tx σ ε α} {f : α → Tx σ ε β} (hx : Raises P x)
    (hf : ∀ a, Raises P (f a)) : Raises P (x >>= f) := by
  intro s e s' h
  rcases bind_error.mp h with h | ⟨a, s₁, -, h⟩
  · exact hx s e s' h
  · exact hf a s₁ e s' h

theorem Raises.ite {c : Prop} [Decidable c] {x y : Tx σ ε α} (hx : Raises P x)
    (hy : Raises P y) : Raises P (if c then x else y) := by
  split
  · exact hx
  · exact hy

end Raises

/-- The computation never ends with an exception. -/
def Quiet (x : Tx σ ε α) : Prop := Raises (fun _ => False) x

/-- A sequence whose second half never raises was ended by its first half. -/
theorem Quiet.error_of_bind {x : Tx σ ε α} {f : α → Tx σ ε β} (hf : ∀ a, Quiet (f a)) {s s' : σ}
    {e : ε} (h : (x >>= f).run s = (.error e, s')) : x.run s = (.error e, s') := by
  rcases bind_error.mp h with h | ⟨a, s₁, -, h⟩
  · exact h
  · exact (hf a s₁ e s' h).elim

/-- Every exception the computation can end with from a state has a property. -/
def RaisesAt (P : ε → Prop) (x : Tx σ ε α) (s : σ) : Prop :=
  ∀ e s', x.run s = (.error e, s') → P e

section RaisesAt

variable {P : ε → Prop} {s : σ}

theorem Quiet.raisesAt {x : Tx σ ε α} (h : Quiet x) (s : σ) : RaisesAt P x s :=
  fun e s' he => (h s e s' he).elim

theorem RaisesAt.of_ok {x : Tx σ ε α} {a : α} {s' : σ} (h : x.run s = (.ok a, s')) :
    RaisesAt P x s := by
  intro e s'' he
  rw [h] at he
  simp at he

theorem RaisesAt.of_error {x : Tx σ ε α} {e : ε} {s' : σ} (h : x.run s = (.error e, s'))
    (he : P e) : RaisesAt P x s := by
  intro e' s'' he'
  rw [h] at he'
  obtain rfl := Except.error.inj (Prod.mk.inj he').1
  exact he

/-- A sequence raises what its first half does, or what its second half does from where the first
returned. -/
theorem RaisesAt.bind {x : Tx σ ε α} {f : α → Tx σ ε β} (hx : RaisesAt P x s)
    (hf : ∀ a s', x.run s = (.ok a, s') → RaisesAt P (f a) s') : RaisesAt P (x >>= f) s := by
  intro e s'' h
  rcases bind_error.mp h with h | ⟨a, s', ha, h⟩
  · exact hx e s'' h
  · exact hf a s' ha e s'' h

/-- The first half of a sequence returned. -/
theorem RaisesAt.bind_of_ok {x : Tx σ ε α} {f : α → Tx σ ε β} {a : α} {s' : σ}
    (hx : x.run s = (.ok a, s')) (hf : RaisesAt P (f a) s') : RaisesAt P (x >>= f) s := by
  intro e s'' h
  rw [run_bind_of_ok hx] at h
  exact hf e s'' h

/-- A guarded block raises what its handler does. -/
theorem RaisesAt.tryCatch {x : Tx σ ε α} {h : ε → Tx σ ε α}
    (hh : ∀ e s', x.run s = (.error e, s') → RaisesAt P (h e) s') :
    RaisesAt P (tryCatch x h : Tx σ ε α) s := by
  intro e s'' he
  rw [run_tryCatch] at he
  rcases hx : x.run s with ⟨r | a, s'⟩
  · rw [hx] at he
    exact hh r s' hx e s'' he
  · rw [hx] at he
    simp at he

end RaisesAt

end Tx
