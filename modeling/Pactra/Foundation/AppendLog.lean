import Mathlib.Logic.Function.Basic
import Mathlib.Logic.Relation
import Pactra.Foundation.Table

/-!
# Numbered logs under row locks

Sessions append to logs, one log for every key. An append locks the key's row, reads the last row
of the log and inserts the row that follows it, as three statements. Each statement sees what was
committed before it and what its own session has done. Sessions have savepoints, and a rollback to
one undoes what was done since and gives up the locks that were taken since.

## Main results

- `AppendLog.Inv.step` — every statement keeps the logs in order
- `AppendLog.generated_of_reachable` — every committed log grew by one row after another
- `AppendLog.Generated.numbers` — the rows of such a log are numbered from zero
-/

namespace AppendLog

-- ════════════════════════════════════════════════════════════════════════
-- Logs
-- ════════════════════════════════════════════════════════════════════════

/-- The rows of the logs: the key and the number of a row, and the row that is appended after the
last one. -/
structure Rows (κ ρ ι : Type) where
  key : ρ → κ
  number : ρ → Nat
  next : κ → Option ρ → ι → ρ
  key_next : ∀ k last i, key (next k last i) = k
  number_next : ∀ k last i, number (next k last i) = (last.map fun r => number r + 1).getD 0

variable {κ ρ ι σ : Type} {L : Rows κ ρ ι} {k : κ} {l l' : List ρ}

/-- A log that grew by one row after another. -/
inductive Generated (L : Rows κ ρ ι) (k : κ) : List ρ → Prop
  | nil : Generated L k []
  | append (l : List ρ) (i : ι) (h : Generated L k l) : Generated L k (l ++ [L.next k l.getLast? i])

/-- The beginning of a log is one. -/
theorem Generated.of_append (h : Generated L k (l ++ l')) : Generated L k l := by
  generalize hl : l ++ l' = whole at h
  induction h generalizing l' with
  | nil =>
    rw [(List.append_eq_nil_iff.mp hl).1]
    exact .nil
  | append m i hm ih =>
    rcases List.eq_nil_or_concat l' with rfl | ⟨front, last, rfl⟩
    · rw [List.append_nil] at hl
      rw [hl]
      exact .append m i hm
    · rw [List.concat_eq_append, ← List.append_assoc] at hl
      exact ih (List.append_inj_left' hl rfl)

/-- What is made by the last row of a log. -/
theorem Generated.getLast {r : ρ} (h : Generated L k (l ++ [r])) :
    ∃ i, r = L.next k l.getLast? i := by
  generalize hl : l ++ [r] = whole at h
  cases h with
  | nil => simp at hl
  | append m i hm =>
    obtain ⟨rfl, hr⟩ := List.append_inj' hl rfl
    exact ⟨i, List.head_eq_of_cons_eq hr⟩

/-- Every row of a log was made from the row before it. -/
theorem Generated.getElem {i : Nat} {r : ρ} (h : Generated L k l) (hr : l[i]? = some r) :
    ∃ a, r = L.next k (l.take i).getLast? a := by
  have htake : l.take (i + 1) = l.take i ++ [r] := by
    rw [List.take_add_one, hr]
    rfl
  rw [← List.take_append_drop (i + 1) l, htake] at h
  exact h.of_append.getLast

/-- The rows of a log are numbered from zero. -/
theorem Generated.numbers (h : Generated L k l) : l.map L.number = List.range l.length := by
  induction h with
  | nil => rfl
  | append l i h ih =>
    rw [List.map_append, ih, List.length_append, List.length_singleton, List.range_succ,
      List.map_singleton, L.number_next]
    -- the last row of a log of `n + 1` rows has the number `n`
    rcases List.eq_nil_or_concat l with rfl | ⟨front, last, rfl⟩
    · rfl
    · rw [List.concat_eq_append, List.map_append, List.length_append, List.length_singleton,
        List.range_succ] at ih
      have hlast : L.number last = front.length :=
        List.head_eq_of_cons_eq (List.append_inj' ih (by simp)).2
      simp [hlast]

/-- The row with the largest number of a log is its last. -/
theorem Generated.best (h : Generated L k l) :
    Table.best (fun a b => decide (L.number b < L.number a)) l = l.getLast? := by
  refine Table.best_eq_getLast ?_
  have hnumbers : (l.map L.number).Pairwise (· < ·) := h.numbers ▸ List.pairwise_lt_range
  simpa using List.pairwise_map.mp hnumbers

/-- The row that follows a log is numbered by its length. -/
theorem Generated.number_next (h : Generated L k l) (i : ι) :
    L.number (L.next k l.getLast? i) = l.length := by
  have hnumbers := (h.append l i).numbers
  rw [List.map_append, List.length_append, List.length_singleton, List.range_succ] at hnumbers
  exact List.head_eq_of_cons_eq (List.append_inj' hnumbers rfl).2

theorem Generated.next_unused (h : Generated L k l) (i : ι) :
    L.number (L.next k l.getLast? i) ∉ l.map L.number := by
  rw [h.number_next, h.numbers]
  exact List.not_mem_range_self

/-- A row that is made from an earlier row takes a number that is in use. -/
theorem Generated.eq_nil_of_unused (h : Generated L k (l ++ l')) {i : ι}
    (hunused : L.number (L.next k l.getLast? i) ∉ (l ++ l').map L.number) : l' = [] := by
  cases l' with
  | nil => rfl
  | cons r rest =>
    have hr : Generated L k (l ++ [r]) := by
      rw [List.append_cons] at h
      exact h.of_append
    obtain ⟨j, hj⟩ := hr.getLast
    have hnumber : L.number r = L.number (L.next k l.getLast? i) := by
      rw [hj, L.number_next, L.number_next]
    rw [← hnumber] at hunused
    exact absurd (List.mem_map_of_mem (by simp)) hunused

-- ════════════════════════════════════════════════════════════════════════
-- Sessions
-- ════════════════════════════════════════════════════════════════════════

/-- What a session has done since a savepoint: keys it created, keys it locked, rows it inserted. -/
structure Frame (κ ρ : Type) where
  created : List κ := []
  locked : List κ := []
  rows : List ρ := []

/-- Where a session is in an append. -/
inductive Phase (κ ρ : Type)
  | idle
  | locked (k : κ)
  | read (k : κ) (last : Option ρ)

/-- A session: its transaction as frames, the innermost savepoint first, and its append. -/
structure Session (κ ρ : Type) where
  frames : List (Frame κ ρ) := []
  phase : Phase κ ρ := .idle

/-- What is committed, and the sessions. -/
structure State (κ ρ σ : Type) where
  keys : List κ := []
  rows : List ρ := []
  sessions : σ → Session κ ρ := fun _ => {}

/-- The rows a transaction has inserted, in order. -/
def pending : List (Frame κ ρ) → List ρ
  | [] => []
  | f :: fs => pending fs ++ f.rows

/-- A transaction holds the lock of a key. -/
def Holds (fs : List (Frame κ ρ)) (k : κ) : Prop := ∃ f ∈ fs, k ∈ f.locked

/-- A transaction has created a key. -/
def Created (fs : List (Frame κ ρ)) (k : κ) : Prop := ∃ f ∈ fs, k ∈ f.created

/-- Change the innermost frame. -/
def within (change : Frame κ ρ → Frame κ ρ) : List (Frame κ ρ) → List (Frame κ ρ)
  | [] => [change {}]
  | f :: fs => change f :: fs

def Frame.create (k : κ) (f : Frame κ ρ) : Frame κ ρ := { f with created := f.created ++ [k] }

def Frame.lock (k : κ) (f : Frame κ ρ) : Frame κ ρ := { f with locked := f.locked ++ [k] }

def Frame.insert (k : κ) (r : ρ) (f : Frame κ ρ) : Frame κ ρ :=
  { f with locked := f.locked ++ [k], rows := f.rows ++ [r] }

/-- Release the innermost savepoint: what was done since belongs to the frame around it. -/
def release : List (Frame κ ρ) → List (Frame κ ρ)
  | f :: g :: fs =>
    { created := g.created ++ f.created, locked := g.locked ++ f.locked, rows := g.rows ++ f.rows }
      :: fs
  | fs => fs

section Statements

variable [DecidableEq κ] [DecidableEq σ]

/-- The rows of a key among some rows. -/
def chain (L : Rows κ ρ ι) (rows : List ρ) (k : κ) : List ρ :=
  rows.filter fun r => decide (L.key r = k)

/-- The rows of a key that a transaction sees. -/
def visible (L : Rows κ ρ ι) (w : State κ ρ σ) (fs : List (Frame κ ρ)) (k : κ) : List ρ :=
  chain L (w.rows ++ pending fs) k

/-- A transaction sees the row of a key. -/
def State.Sees (w : State κ ρ σ) (s : σ) (k : κ) : Prop :=
  k ∈ w.keys ∨ Created (w.sessions s).frames k

/-- No other session holds the lock of a key. -/
def State.Free (w : State κ ρ σ) (s : σ) (k : κ) : Prop :=
  ∀ s', s' ≠ s → ¬Holds (w.sessions s').frames k

/-- Replace a session. -/
def State.put (w : State κ ρ σ) (s : σ) (session : Session κ ρ) : State κ ρ σ :=
  { w with sessions := Function.update w.sessions s session }

/-- One statement of a session. A statement that has to wait is one that cannot be executed yet. -/
inductive Step (L : Rows κ ρ ι) (w : State κ ρ σ) (s : σ) : State κ ρ σ → Prop
  | create (k : κ) (hidle : (w.sessions s).phase = .idle) (hnew : k ∉ w.keys)
      (hnone : ∀ s', ¬Created (w.sessions s').frames k) :
      Step L w s (w.put s { frames := within (.create k) (w.sessions s).frames })
  | savepoint (hidle : (w.sessions s).phase = .idle) :
      Step L w s (w.put s { frames := {} :: (w.sessions s).frames })
  | release (hidle : (w.sessions s).phase = .idle) :
      Step L w s (w.put s { frames := release (w.sessions s).frames })
  /-- Lock the row of a key, waiting for any other session that holds it. -/
  | lock (k : κ) (hidle : (w.sessions s).phase = .idle) (hsees : w.Sees s k)
      (hfree : w.Free s k) :
      Step L w s
        (w.put s { frames := within (.lock k) (w.sessions s).frames, phase := .locked k })
  /-- There is no row to lock. -/
  | lockMissing (k : κ) (hidle : (w.sessions s).phase = .idle) (hmissing : ¬w.Sees s k) :
      Step L w s (w.put s { frames := (w.sessions s).frames, phase := .locked k })
  /-- Read the row with the largest number. -/
  | read (k : κ) (hphase : (w.sessions s).phase = .locked k) :
      Step L w s
        (w.put s
          { frames := (w.sessions s).frames
            phase := .read k (Table.best (fun a b => decide (L.number b < L.number a))
              (visible L w (w.sessions s).frames k)) })
  /-- Insert the next row. The reference to the row of the key has to hold and locks it, and the
  number has to be unused. -/
  | insert (k : κ) (last : Option ρ) (i : ι) (hphase : (w.sessions s).phase = .read k last)
      (hsees : w.Sees s k) (hfree : w.Free s k)
      (hunused : L.number (L.next k last i) ∉
        (visible L w (w.sessions s).frames k).map L.number) :
      Step L w s
        (w.put s { frames := within (.insert k (L.next k last i)) (w.sessions s).frames })
  /-- An append raises, at whatever point. -/
  | fail : Step L w s (w.put s { frames := (w.sessions s).frames })
  | rollbackTo : Step L w s (w.put s { frames := (w.sessions s).frames.tail })
  | rollback : Step L w s (w.put s {})
  | commit (hidle : (w.sessions s).phase = .idle) :
      Step L w s
        { (w.put s {}) with
          keys := w.keys ++ (w.sessions s).frames.flatMap Frame.created
          rows := w.rows ++ pending (w.sessions s).frames }

/-- States that statements of the sessions, in any order, lead to. -/
def Reachable (L : Rows κ ρ ι) (w : State κ ρ σ) : Prop :=
  Relation.ReflTransGen (fun w w' => ∃ s, Step L w s w') {} w

end Statements

-- ════════════════════════════════════════════════════════════════════════
-- Transactions
-- ════════════════════════════════════════════════════════════════════════

section Transactions

variable {fs : List (Frame κ ρ)} {f : Frame κ ρ}

/-- In every frame, the rows up to it belong to keys that are locked up to it. -/
def Covered (L : Rows κ ρ ι) : List (Frame κ ρ) → Prop
  | [] => True
  | f :: fs => (∀ r ∈ pending (f :: fs), Holds (f :: fs) (L.key r)) ∧ Covered L fs

theorem Covered.holds (h : Covered L fs) {r : ρ} (hr : r ∈ pending fs) : Holds fs (L.key r) := by
  cases fs with
  | nil => cases hr
  | cons f fs => exact h.1 r hr

theorem Covered.tail (h : Covered L fs) : Covered L fs.tail := by
  cases fs with
  | nil => trivial
  | cons f fs => exact h.2

theorem Holds.of_tail (h : Holds fs.tail k) : Holds fs k := by
  obtain ⟨f, hf, hk⟩ := h
  exact ⟨f, List.mem_of_mem_tail hf, hk⟩

/-- Doing more in the innermost frame, the rows that are new being of locked keys. -/
theorem Covered.within {change : Frame κ ρ → Frame κ ρ} (h : Covered L fs)
    (hlocked : ∀ f, f.locked ⊆ (change f).locked)
    (hrows : ∀ r ∈ pending (within change fs),
      r ∈ pending fs ∨ Holds (within change fs) (L.key r)) :
    Covered L (within change fs) := by
  cases fs with
  | nil =>
    refine ⟨fun r hr => ?_, trivial⟩
    exact (hrows r hr).resolve_left List.not_mem_nil
  | cons f fs =>
    refine ⟨fun r hr => ?_, h.2⟩
    rcases hrows r hr with hold | hnew
    · obtain ⟨g, hg, hk⟩ := h.1 r hold
      rcases List.mem_cons.mp hg with rfl | hg
      · exact ⟨change g, List.mem_cons_self, hlocked g hk⟩
      · exact ⟨g, List.mem_cons_of_mem _ hg, hk⟩
    · exact hnew

@[simp] theorem pending_create : pending (within (.create k) fs) = pending fs := by
  cases fs <;> simp [within, pending, Frame.create]

@[simp] theorem pending_lock : pending (within (.lock k) fs) = pending fs := by
  cases fs <;> simp [within, pending, Frame.lock]

@[simp] theorem pending_insert {r : ρ} :
    pending (within (.insert k r) fs) = pending fs ++ [r] := by
  cases fs <;> simp [within, pending, Frame.insert]

@[simp] theorem created_lock {k' : κ} : Created (within (.lock k) fs) k' ↔ Created fs k' := by
  cases fs <;> simp [within, Created, Frame.lock]

@[simp] theorem holds_create {k' : κ} : Holds (within (.create k) fs) k' ↔ Holds fs k' := by
  cases fs <;> simp [within, Holds, Frame.create]

@[simp] theorem holds_lock {k' : κ} :
    Holds (within (.lock k) fs) k' ↔ Holds fs k' ∨ k' = k := by
  cases fs <;> simp [within, Holds, Frame.lock, or_assoc, or_comm]

@[simp] theorem holds_insert {r : ρ} {k' : κ} :
    Holds (within (.insert k r) fs) k' ↔ Holds fs k' ∨ k' = k := by
  cases fs <;> simp [within, Holds, Frame.insert, or_assoc, or_comm]

theorem pending_release : pending (release fs) = pending fs := by
  match fs with
  | [] => rfl
  | [f] => rfl
  | f :: g :: fs => simp [release, pending]

theorem holds_release : Holds (release fs) k ↔ Holds fs k := by
  match fs with
  | [] => rfl
  | [f] => rfl
  | f :: g :: fs => simp [release, Holds, or_assoc, or_left_comm]

theorem Covered.release (h : Covered L fs) : Covered L (release fs) := by
  match fs, h with
  | [], h => exact h
  | [f], h => exact h
  | f :: g :: fs, h =>
    refine ⟨fun r hr => ?_, h.2.2⟩
    have hmem : r ∈ pending (AppendLog.release (f :: g :: fs)) := hr
    rw [pending_release] at hmem
    exact holds_release.mpr (h.1 r hmem)

theorem pending_tail : ∃ new, pending fs = pending fs.tail ++ new := by
  cases fs with
  | nil => exact ⟨[], rfl⟩
  | cons f fs => exact ⟨f.rows, rfl⟩

end Transactions

-- ════════════════════════════════════════════════════════════════════════
-- Every run
-- ════════════════════════════════════════════════════════════════════════

section Runs

variable [DecidableEq κ] {w w' : State κ ρ σ} {s : σ}

/-- The transactions cover their rows by locks that exclude each other, what a session sees of a
log is a log, and what it read last is in it. -/
structure Inv (L : Rows κ ρ ι) (w : State κ ρ σ) : Prop where
  exclusive : ∀ k s s', Holds (w.sessions s).frames k → Holds (w.sessions s').frames k → s = s'
  covered : ∀ s, Covered L (w.sessions s).frames
  committed : ∀ k, Generated L k (chain L w.rows k)
  generated : ∀ s k, Generated L k (visible L w (w.sessions s).frames k)
  read : ∀ s k last, (w.sessions s).phase = .read k last →
    ∃ l l', visible L w (w.sessions s).frames k = l ++ l' ∧ last = l.getLast?

theorem visible_append (fs : List (Frame κ ρ)) :
    visible L w fs k = chain L w.rows k ++ chain L (pending fs) k :=
  List.filter_append ..

/-- A transaction without the lock of a key has no rows of it. -/
theorem Covered.chain_eq_nil {fs : List (Frame κ ρ)} (h : Covered L fs) (hk : ¬Holds fs k) :
    chain L (pending fs) k = [] := by
  refine List.filter_eq_nil_iff.mpr fun r hr hkey => hk ?_
  rw [← of_decide_eq_true hkey]
  exact h.holds hr

variable [DecidableEq σ]

/-- A statement that changes its own session only. -/
theorem Inv.put (h : Inv L w) {session : Session κ ρ}
    (hlocks : ∀ k, Holds session.frames k → Holds (w.sessions s).frames k ∨ w.Free s k)
    (hcovered : Covered L session.frames)
    (hgenerated : ∀ k, Generated L k (visible L w session.frames k))
    (hread : ∀ k last, session.phase = .read k last →
      ∃ l l', visible L w session.frames k = l ++ l' ∧ last = l.getLast?) :
    Inv L (w.put s session) := by
  have hself : (w.put s session).sessions s = session := Function.update_self ..
  have hother : ∀ s', s' ≠ s → (w.put s session).sessions s' = w.sessions s' :=
    fun s' hs' => Function.update_of_ne hs' ..
  -- a lock of the session excludes those of the others
  have hlone : ∀ k s', s' ≠ s → Holds session.frames k → ¬Holds (w.sessions s').frames k := by
    intro k s' hs' hk hk'
    rcases hlocks k hk with hold | hfree
    · exact hs' (h.exclusive k s' s hk' hold)
    · exact hfree s' hs' hk'
  refine ⟨fun k s₁ s₂ h₁ h₂ => ?_, fun s' => ?_, h.committed, fun s' k => ?_,
    fun s' k last hk => ?_⟩
  · by_cases hs₁ : s₁ = s <;> by_cases hs₂ : s₂ = s
    · rw [hs₁, hs₂]
    · subst hs₁
      rw [hself] at h₁
      rw [hother s₂ hs₂] at h₂
      exact absurd h₂ (hlone k s₂ hs₂ h₁)
    · subst hs₂
      rw [hself] at h₂
      rw [hother s₁ hs₁] at h₁
      exact absurd h₁ (hlone k s₁ hs₁ h₂)
    · rw [hother s₁ hs₁] at h₁
      rw [hother s₂ hs₂] at h₂
      exact h.exclusive k s₁ s₂ h₁ h₂
  · by_cases hs' : s' = s
    · subst hs'
      rw [hself]
      exact hcovered
    · rw [hother s' hs']
      exact h.covered s'
  · by_cases hs' : s' = s
    · subst hs'
      rw [hself]
      exact hgenerated k
    · rw [hother s' hs']
      exact h.generated s' k
  · by_cases hs' : s' = s
    · subst hs'
      rw [hself] at hk ⊢
      exact hread k last hk
    · rw [hother s' hs'] at hk ⊢
      exact h.read s' k last hk

/-- A commit adds to every log what only its own session could add. -/
theorem Inv.commit (h : Inv L w) {keys : List κ} :
    Inv L { (w.put s {}) with keys := keys, rows := w.rows ++ pending (w.sessions s).frames } := by
  have hchain : ∀ k, chain L (w.rows ++ pending (w.sessions s).frames) k =
      visible L w (w.sessions s).frames k := fun _ => rfl
  -- what another session sees of a log changes only if it has nothing of its own in it
  have hother : ∀ s', s' ≠ s → ∀ k,
      chain L (w.rows ++ pending (w.sessions s).frames) k ++
          chain L (pending (w.sessions s').frames) k = visible L w (w.sessions s').frames k ∨
        chain L (pending (w.sessions s').frames) k = [] := by
    intro s' hs' k
    by_cases hk : Holds (w.sessions s').frames k
    · have hnone : ¬Holds (w.sessions s).frames k := fun hk' => hs' (h.exclusive k s' s hk hk')
      left
      rw [hchain, visible_append, visible_append, (h.covered s).chain_eq_nil hnone, List.append_nil]
    · exact .inr ((h.covered s').chain_eq_nil hk)
  have hput : Inv L (w.put s {}) := h.put (fun k hk => by simp [Holds] at hk) trivial
    (fun k => by simpa [visible, pending] using h.committed k) nofun
  refine ⟨hput.exclusive, hput.covered, fun k => h.generated s k, fun s' k => ?_,
    fun s' k last hphase => ?_⟩
  · by_cases hs' : s' = s
    · subst hs'
      simpa [State.put, visible, pending] using h.generated s' k
    · simp only [State.put, Function.update_of_ne hs', visible_append]
      rcases hother s' hs' k with heq | hnil
      · rw [heq]
        exact h.generated s' k
      · rw [hnil, List.append_nil]
        exact h.generated s k
  · by_cases hs' : s' = s
    · subst hs'
      simp [State.put] at hphase
    · simp only [State.put, Function.update_of_ne hs'] at hphase ⊢
      obtain ⟨l, l', hl, hlast⟩ := h.read s' k last hphase
      rw [visible_append]
      rcases hother s' hs' k with heq | hnil
      · exact ⟨l, l', heq.trans hl, hlast⟩
      · rw [visible_append, hnil, List.append_nil] at hl
        refine ⟨l, l' ++ chain L (pending (w.sessions s).frames) k, ?_, hlast⟩
        rw [hnil, List.append_nil, hchain, visible_append, hl, List.append_assoc]

/-- Every statement keeps the logs in order. -/
theorem Inv.step (h : Inv L w) (hstep : Step L w s w') : Inv L w' := by
  have hcovered := h.covered s
  have hgenerated := h.generated s
  cases hstep with
  | create k hidle hnew hnone =>
    refine h.put (fun k' hk' => .inl (holds_create.mp hk'))
      (hcovered.within (fun f => List.Subset.refl _) fun r hr => .inl (by simpa using hr))
      (fun k' => ?_) nofun
    simpa [visible] using hgenerated k'
  | savepoint hidle =>
    have hpending : pending ({} :: (w.sessions s).frames) = pending (w.sessions s).frames :=
      List.append_nil _
    have hholds : ∀ k',
        Holds ({} :: (w.sessions s).frames) k' ↔ Holds (w.sessions s).frames k' := by
      intro k'
      simp [Holds]
    refine h.put (fun k' hk' => .inl ((hholds k').mp hk'))
      ⟨fun r hr => (hholds _).mpr (hcovered.holds (hpending ▸ hr)), hcovered⟩ (fun k' => ?_) nofun
    rw [visible, hpending]
    exact hgenerated k'
  | release hidle =>
    refine h.put (fun k' hk' => .inl (holds_release.mp hk')) hcovered.release (fun k' => ?_) nofun
    rw [visible, pending_release]
    exact hgenerated k'
  | lock k hidle hsees hfree =>
    refine h.put (fun k' hk' => ?_)
      (hcovered.within (fun f => List.subset_append_left ..) fun r hr => .inl (by simpa using hr))
      (fun k' => ?_) nofun
    · rcases holds_lock.mp hk' with hold | rfl
      · exact .inl hold
      · exact .inr hfree
    · simpa [visible] using hgenerated k'
  | lockMissing k hidle hmissing => exact h.put (fun k' hk' => .inl hk') hcovered hgenerated nofun
  | read k hphase =>
    refine h.put (fun k' hk' => .inl hk') hcovered hgenerated fun k' last hlast => ?_
    cases hlast
    exact ⟨_, [], (List.append_nil _).symm, (hgenerated k).best⟩
  | insert k last i hphase hsees hfree hunused =>
    refine h.put (fun k' hk' => ?_)
      (hcovered.within (fun f => List.subset_append_left ..) fun r hr => ?_) (fun k' => ?_) nofun
    · rcases holds_insert.mp hk' with hold | rfl
      · exact .inl hold
      · exact .inr hfree
    · rw [pending_insert, List.mem_append, List.mem_singleton] at hr
      rcases hr with hold | rfl
      · exact .inl hold
      · exact .inr (holds_insert.mpr (.inr (L.key_next ..)))
    · rw [visible, pending_insert, ← List.append_assoc, chain, List.filter_append]
      by_cases hk' : k' = k
      · -- the number is unused, so what was read is still the last row
        subst hk'
        obtain ⟨l, l', hl, rfl⟩ := h.read s k' last hphase
        rw [hl] at hunused
        have hgenerated := hl ▸ hgenerated k'
        obtain rfl := hgenerated.eq_nil_of_unused hunused
        rw [List.append_nil] at hl hgenerated
        change Generated L k' (visible L w (w.sessions s).frames k' ++ _)
        rw [hl]
        simpa [L.key_next] using hgenerated.append l i
      · simpa [L.key_next, Ne.symm hk', visible, chain] using hgenerated k'
  | fail => exact h.put (fun k' hk' => .inl hk') hcovered hgenerated nofun
  | rollbackTo =>
    refine h.put (fun k' hk' => .inl hk'.of_tail) hcovered.tail (fun k' => ?_) nofun
    obtain ⟨new, hnew⟩ := @pending_tail _ _ (w.sessions s).frames
    have hwhole := hgenerated k'
    rw [visible, hnew, ← List.append_assoc, chain, List.filter_append] at hwhole
    exact hwhole.of_append
  | rollback =>
    refine h.put (fun k' hk' => by simp [Holds] at hk') trivial (fun k' => ?_) nofun
    simpa [visible, pending] using h.committed k'
  | commit hidle => exact h.commit

/-- Every committed log grew by one row after another. -/
theorem generated_of_reachable (h : Reachable L w) (k : κ) : Generated L k (chain L w.rows k) := by
  have hinv : Inv L w := by
    induction h with
    | refl =>
      exact ⟨fun k s s' hk => by simp [Holds] at hk, fun s => trivial, fun k => .nil,
        fun s k => .nil, nofun⟩
    | tail _ hstep ih =>
      obtain ⟨s, hstep⟩ := hstep
      exact ih.step hstep
  exact hinv.committed k

end Runs

end AppendLog
