import Mathlib.Data.List.Nodup
import Mathlib.Logic.Relation
import Mathlib.Tactic.Common

/-!
# Keyed tables

A table is the list of its rows in insertion order, together with a key function. The
operations are those of a relational table with a primary key: look a row up, change the row
with a given key in place, and append a row whose key is not taken.

## Main results

- `Table.mem_iff_find` — under a unique key, membership is lookup
- `Table.find_update`, `Table.find_insert` — what the operations do to lookups
- `Table.Keyed.find_update_column` — what an update does to lookups by another unique column
- `Table.Keyed.update`, `Table.Keyed.insert` — they keep the key unique
- `Table.Evolves.update`, `Table.Evolves.append` — rows stay, and only change as they may
- `Table.best_eq_getLast` — the best row of a list that improves throughout is its last
-/

namespace Table

variable {ρ κ : Type} [DecidableEq κ] (key : ρ → κ)

/-- The first row with key `k`. -/
def find (k : κ) (rows : List ρ) : Option ρ := rows.find? (fun r => decide (key r = k))

/-- Apply `f` to the rows with key `k`. -/
def update (k : κ) (f : ρ → ρ) (rows : List ρ) : List ρ :=
  rows.map (fun r => if key r = k then f r else r)

/-- The key is unique among the rows. -/
def Keyed (rows : List ρ) : Prop := (rows.map key).Nodup

variable {key} {rows : List ρ} {k k' : κ} {r r' : ρ} {f : ρ → ρ}

theorem mem_of_find (h : find key k rows = some r) : r ∈ rows :=
  List.mem_of_find?_eq_some h

theorem key_of_find (h : find key k rows = some r) : key r = k := by
  simpa using List.find?_some h

theorem find_eq_none : find key k rows = none ↔ ∀ r ∈ rows, key r ≠ k := by
  simp [find]

/-- Under a unique key, a row is in the table exactly when looking up its key returns it. -/
theorem mem_iff_find (h : Keyed key rows) : r ∈ rows ↔ find key (key r) rows = some r := by
  refine ⟨fun hr => ?_, mem_of_find⟩
  induction rows with
  | nil => cases hr
  | cons x xs ih =>
    have hnd : key x ∉ xs.map key ∧ (xs.map key).Nodup := List.nodup_cons.mp h
    rcases List.mem_cons.mp hr with rfl | hr'
    · simp [find]
    · have hne : key x ≠ key r := fun he => hnd.1 (he ▸ List.mem_map_of_mem hr')
      simpa [find, hne] using ih hnd.2 hr'

/-- Two rows of a keyed table with equal keys are the same row. -/
theorem Keyed.eq_of_key (h : Keyed key rows) (hr : r ∈ rows) (hr' : r' ∈ rows)
    (hk : key r = key r') : r = r' := by
  have h₁ := (mem_iff_find h).mp hr
  have h₂ := (mem_iff_find h).mp hr'
  rw [hk] at h₁
  exact Option.some.inj (h₁.symm.trans h₂)

-- ════════════════════════════════════════════════════════════════════════
-- Update
-- ════════════════════════════════════════════════════════════════════════

theorem mem_update : r ∈ update key k f rows ↔
    ∃ x ∈ rows, r = if key x = k then f x else x := by
  simp [update, eq_comm]

/-- An update that keeps keys acts on a lookup of its own key, and on no other. -/
theorem find_update (hf : ∀ x, key x = k → key (f x) = k) :
    find key k' (update key k f rows) =
      if k' = k then (find key k' rows).map f else find key k' rows := by
  induction rows with
  | nil => simp [find, update]
  | cons x xs ih =>
    simp only [update, find, List.map_cons, List.find?_cons] at ih ⊢
    by_cases hx : key x = k
    · by_cases hk : k' = k
      · subst hk; simp [hx, hf x hx]
      · have h₁ : key (f x) ≠ k' := by rw [hf x hx]; exact fun h => hk h.symm
        have h₂ : key x ≠ k' := by rw [hx]; exact fun h => hk h.symm
        simpa [hx, h₁, h₂, hk, Ne.symm hk] using ih
    · by_cases hk : key x = k'
      · have : k' ≠ k := fun h => hx (hk.trans h)
        simp [hk, this]
      · simpa [hx, hk] using ih

/-- A row that another unique column finds is found there after an update that keeps the column. -/
theorem Keyed.find_update_column {γ : Type} [DecidableEq γ] {g : ρ → γ} {c : γ}
    (h : Keyed key rows) (hg : Keyed g rows) (hr : r ∈ rows) (hf : g (f r) = g r) :
    find g c (Table.update key (key r) f rows) = if c = g r then some (f r) else find g c rows := by
  have hsame : Table.update key (key r) f rows = Table.update g (g r) (fun _ => f r) rows := by
    refine List.map_congr_left fun x hx => ?_
    by_cases hx' : key x = key r
    · obtain rfl := h.eq_of_key hx hr hx'
      simp
    · have hcol : g x ≠ g r := fun heq => hx' (congrArg key (hg.eq_of_key hx hr heq))
      simp [hx', hcol]
  rw [hsame, find_update fun _ _ => hf]
  split
  · next hc => rw [hc, (mem_iff_find hg).mp hr, Option.map_some]
  · rfl

/-- An update does not touch a column that it keeps. -/
theorem map_update {γ : Type} {g : ρ → γ} (hf : ∀ x ∈ rows, key x = k → g (f x) = g x) :
    (update key k f rows).map g = rows.map g := by
  simp only [update, List.map_map]
  refine List.map_congr_left fun x hx => ?_
  by_cases hk : key x = k
  · simp [hk, hf x hx hk]
  · simp [hk]

/-- A unique column stays unique under an update that keeps it. -/
theorem Keyed.update {γ : Type} [DecidableEq γ] {g : ρ → γ} (h : Keyed g rows)
    (hf : ∀ x ∈ rows, key x = k → g (f x) = g x) : Keyed g (Table.update key k f rows) := by
  rw [Keyed, map_update hf]
  exact h

/-- Updates that agree on the rows they change are the same. -/
theorem update_congr {g : ρ → ρ} (h : ∀ x ∈ rows, key x = k → f x = g x) :
    update key k f rows = update key k g rows := by
  refine List.map_congr_left fun x hx => ?_
  by_cases hk : key x = k
  · simp [hk, h x hx hk]
  · simp [hk]

/-- A row that is written back as it was read changes nothing. -/
theorem Keyed.update_self (h : Keyed key rows) (hr : r ∈ rows) :
    Table.update key (key r) (fun _ => r) rows = rows := by
  conv_rhs => rw [← List.map_id rows]
  refine List.map_congr_left fun x hx => ?_
  by_cases hk : key x = key r
  · simp [h.eq_of_key hx hr hk]
  · simp [hk]

/-- Updating a key that no row has changes nothing. -/
theorem update_of_absent (h : find key k rows = none) : update key k f rows = rows := by
  rw [find_eq_none] at h
  conv_rhs => rw [← List.map_id rows]
  exact List.map_congr_left fun x hx => by simp [h x hx]

-- ════════════════════════════════════════════════════════════════════════
-- Insertion
-- ════════════════════════════════════════════════════════════════════════

theorem find_insert : find key k (rows ++ [r]) =
    (find key k rows).or (if key r = k then some r else none) := by
  by_cases h : key r = k <;> simp [find, List.find?_append, h]

theorem Keyed.insert (h : Keyed key rows) (hr : find key (key r) rows = none) :
    Keyed key (rows ++ [r]) := by
  rw [find_eq_none] at hr
  simp only [Keyed, List.map_append, List.map_cons, List.map_nil]
  refine List.nodup_append.mpr ⟨h, by simp, ?_⟩
  intro a ha b hb
  obtain ⟨x, hx, rfl⟩ := List.mem_map.mp ha
  rw [List.mem_singleton.mp hb]
  exact hr x hx

theorem find_append {new : List ρ} :
    find key k (rows ++ new) = (find key k rows).or (find key k new) := List.find?_append

-- ════════════════════════════════════════════════════════════════════════
-- Evolution
-- ════════════════════════════════════════════════════════════════════════

/-- Every row stays in the table, and what becomes of it is related to what it was. -/
def Evolves (key : ρ → κ) (rel : ρ → ρ → Prop) (rows rows' : List ρ) : Prop :=
  ∀ k r, find key k rows = some r → ∃ r', find key k rows' = some r' ∧ rel r r'

section Evolves

variable {rel : ρ → ρ → Prop} {rows₁ rows₂ rows₃ : List ρ}

theorem Evolves.refl (hrefl : ∀ r, rel r r) (rows : List ρ) : Evolves key rel rows rows :=
  fun _ r h => ⟨r, h, hrefl r⟩

theorem Evolves.trans (htrans : ∀ a b c, rel a b → rel b c → rel a c)
    (h : Evolves key rel rows₁ rows₂) (h' : Evolves key rel rows₂ rows₃) :
    Evolves key rel rows₁ rows₃ := by
  intro k r hr
  obtain ⟨r₂, hr₂, hrel⟩ := h k r hr
  obtain ⟨r₃, hr₃, hrel'⟩ := h' k r₂ hr₂
  exact ⟨r₃, hr₃, htrans _ _ _ hrel hrel'⟩

/-- An update relates the row it changes to the new one. -/
theorem Evolves.update (hrefl : ∀ r, rel r r) (hf : ∀ x, key x = k → key (f x) = k)
    (hrel : ∀ r, find key k rows = some r → rel r (f r)) :
    Evolves key rel rows (Table.update key k f rows) := by
  intro k' r hr
  by_cases hk : k' = k
  · subst hk
    exact ⟨f r, by simp [find_update hf, hr], hrel r hr⟩
  · exact ⟨r, by simp [find_update hf, hk, hr], hrefl r⟩

theorem Evolves.append (hrefl : ∀ r, rel r r) (new : List ρ) :
    Evolves key rel rows (rows ++ new) :=
  fun _ r hr => ⟨r, by simp [find_append, hr], hrefl r⟩

end Evolves

-- ════════════════════════════════════════════════════════════════════════
-- Ordered queries
-- ════════════════════════════════════════════════════════════════════════

/-- The first row of an ordered query: a row than which no later row is better, the earliest in
table order among equals. -/
def best (better : ρ → ρ → Bool) : List ρ → Option ρ
  | [] => none
  | r :: rows =>
    match best better rows with
    | none => some r
    | some s => if better s r then some s else some r

theorem best_eq_none {better : ρ → ρ → Bool} : best better rows = none ↔ rows = [] := by
  cases rows with
  | nil => simp [best]
  | cons r rows =>
    simp only [best]
    split
    · simp
    · split <;> simp

theorem mem_of_best {better : ρ → ρ → Bool} (h : best better rows = some r) : r ∈ rows := by
  induction rows with
  | nil => cases h
  | cons x rows ih =>
    simp only [best] at h
    split at h
    · simp_all
    · next s hs =>
      split at h
      · obtain rfl := Option.some.inj h
        exact List.mem_cons_of_mem _ (ih hs)
      · obtain rfl := Option.some.inj h
        exact List.mem_cons_self

/-- Of the rows with a unique key, the best is the only one. -/
theorem Keyed.best_filter {better : ρ → ρ → Bool} (h : Keyed key rows) :
    best better (rows.filter fun r => decide (key r = k)) = find key k rows := by
  cases hb : best better (rows.filter fun r => decide (key r = k)) with
  | none =>
    have hnone := List.filter_eq_nil_iff.mp (best_eq_none.mp hb)
    exact (find_eq_none.mpr fun r hr hk => hnone r hr (by simpa using hk)).symm
  | some r =>
    obtain ⟨hr, hk⟩ := List.mem_filter.mp (mem_of_best hb)
    rw [← of_decide_eq_true hk]
    exact ((mem_iff_find h).mp hr).symm

/-- Where every row is better than all before it, the best row is the last. -/
theorem best_eq_getLast {better : ρ → ρ → Bool}
    (h : rows.Pairwise fun a b => better b a = true) : best better rows = rows.getLast? := by
  induction rows with
  | nil => rfl
  | cons x rows ih =>
    obtain ⟨hx, hrows⟩ := List.pairwise_cons.mp h
    simp only [best, ih hrows]
    cases hlast : rows.getLast? with
    | none => simp [List.getLast?_eq_none_iff.mp hlast]
    | some s =>
      have hs : better s x = true := hx s (List.mem_of_getLast? hlast)
      rw [List.getLast?_cons, hlast]
      simp [hs]

end Table
