import Pactra.System.Outbox
import Pactra.System.Reconstruction

/-!
# Stages of a mission

A mission, its authorization and its payment are three rows, each with a state machine of its own.
What the three say together is simpler: a mission is in one `Stage`, it makes one `Move` at a time,
and some stages are final. This module connects the stages to the rows: in every run the rows of a
mission are those of a stage, and each step of the system is a move or no change.

## Main results

- `Stage.Final.eq_of_moves` — a final stage is not left
- `Recount.moves` — one step makes at most one move
- `missions_refine_stages` — every run refines the stages
-/

namespace Pactra

open PaymentExecutor

variable {env : Env} {actions more : List Action} {w w' : World}

-- ════════════════════════════════════════════════════════════════════════
-- Stages
-- ════════════════════════════════════════════════════════════════════════

/-- An authorization that ended without a payment. -/
def AuthorizationStatus.IsEnded (status : AuthorizationStatus) : Prop :=
  status = .expired ∨ status = .revoked

/-- How far a mission has come. -/
inductive Stage where
  | missing
  | denied
  | unbound
  | awaiting
  | unapproved (status : AuthorizationStatus) (h : status.IsEnded)
  | authorized
  | unspent (status : AuthorizationStatus) (h : status.IsEnded)
  | paying (state : PaymentIntentState)

/-- The states of a mission, its authorization and its payment. -/
@[ext] structure RowStates where
  mission : Option MissionState
  authorization : Option AuthorizationStatus
  payment : Option PaymentIntentState

/-- The states that the rows of a mission are in. -/
def Persisted.states (p : Persisted) : RowStates where
  mission := p.mission.map Mission.state
  authorization := p.authorization.map AuthorizationRow.status
  payment := p.payment.map PaymentIntentRow.state

namespace Stage

/-- The states of the rows in a stage. -/
def rows : Stage → RowStates
  | missing => ⟨none, none, none⟩
  | denied => ⟨some .cancelled, none, none⟩
  | unbound => ⟨some .policyChecked, none, none⟩
  | awaiting => ⟨some .awaitingApproval, some .pending, none⟩
  | unapproved status _ => ⟨some .awaitingApproval, some status, none⟩
  | authorized => ⟨some .authorized, some .active, none⟩
  | unspent status _ => ⟨some .authorized, some status, none⟩
  | paying state => ⟨some (missionStateOf state), some .consumed, some state⟩

/-- The moves between stages. -/
inductive Move : Stage → Stage → Prop
  | refused (s : Stage) (h : s = denied ∨ s = unbound) : Move missing s
  | submitted : Move missing awaiting
  | admitted : Move missing authorized
  | approved : Move awaiting authorized
  | expired (status : AuthorizationStatus) (h : status.IsEnded) : Move awaiting (unapproved status h)
  | lapsed (status : AuthorizationStatus) (h : status.IsEnded) : Move authorized (unspent status h)
  | requested : Move authorized (paying .queued)
  | paid (state state' : PaymentIntentState) (h : state.Path state') :
    Move (paying state) (paying state')

/-- The stages that a mission does not leave. -/
def Final : Stage → Prop
  | denied | unbound | unapproved _ _ | unspent _ _ => True
  | paying state => state.isTerminal = true
  | _ => False

variable {s t : Stage}

/-- No move leads out of a final stage. -/
lemma Final.eq_of_move (h : Final s) (hm : Move s t) : t = s := by
  cases hm with
  | paid state state' hpath => rw [hpath.eq_of_isTerminal h]
  | _ => cases h

/-- A final stage is not left. -/
theorem Final.eq_of_moves (h : Final s) (hm : Relation.ReflTransGen Move s t) : t = s := by
  induction hm with
  | refl => rfl
  | tail _ hlast ih =>
    subst ih
    exact h.eq_of_move hlast

end Stage

/-- One mission state is reached from another along the transition table. -/
def MissionState.Path : MissionState → MissionState → Prop :=
  Relation.ReflTransGen fun s t => s.canTransition t = true

lemma missionStateOf_path {state state' : PaymentIntentState} (h : state.Path state') :
    (missionStateOf state).Path (missionStateOf state') := by
  by_cases hterm : state.isTerminal = true
  · rw [h.eq_of_isTerminal hterm]
    exact .refl
  · have hpending : missionStateOf state = .paymentPending := by
      cases state <;> simp_all [missionStateOf, PaymentIntentState.isTerminal]
    rw [hpending]
    cases state' <;> first | exact .refl | exact .single rfl

/-- A move is legal for the mission. -/
lemma Stage.Move.legal {s t : Stage} (h : Stage.Move s t) {m m' : MissionState}
    (hm : s.rows.mission = some m) (hm' : t.rows.mission = some m') : m.Path m' := by
  cases h with
  | refused | submitted | admitted => cases hm
  | approved | requested =>
    obtain rfl := Option.some.inj hm
    obtain rfl := Option.some.inj hm'
    exact .single rfl
  | expired | lapsed =>
    obtain rfl := Option.some.inj hm
    obtain rfl := Option.some.inj hm'
    exact .refl
  | paid state state' hpath =>
    obtain rfl := Option.some.inj hm
    obtain rfl := Option.some.inj hm'
    exact missionStateOf_path hpath

lemma Stage.legal {s t : Stage} (h : Relation.ReflTransGen Stage.Move s t) {m m' : MissionState}
    (hm : s.rows.mission = some m) (hm' : t.rows.mission = some m') : m.Path m' := by
  induction h generalizing m' with
  | refl =>
    obtain rfl := Option.some.inj (hm.symm.trans hm')
    exact .refl
  | @tail t u hst htu ih =>
    cases hmid : t.rows.mission with
    | none =>
      -- a mission that exists stays
      exfalso
      have hmissing : ∀ {s t : Stage}, Relation.ReflTransGen Stage.Move s t →
          t.rows.mission = none → s.rows.mission = none := by
        intro s t h
        induction h with
        | refl => exact id
        | tail _ hlast ih =>
          intro hnone
          refine ih ?_
          cases hlast with
          | refused s h => rcases h with rfl | rfl <;> cases hnone
          | _ => cases hnone
      cases hm.symm.trans (hmissing hst hmid)
    | some m₁ => exact (ih hmid).trans (htu.legal hmid hm')

-- ════════════════════════════════════════════════════════════════════════
-- Rows
-- ════════════════════════════════════════════════════════════════════════

/-- The rows of a mission are those of a stage. -/
def Stage.Of (p : Persisted) (s : Stage) : Prop := s.rows = p.states

section Of

variable {s : Stage} {m : Mission} {a : AuthorizationRow} {i : PaymentIntentRow}
  {payment : Option PaymentIntentRow}

lemma Stage.Of.mission {p : Persisted} (h : s.Of p) : s.rows.mission = p.mission.map Mission.state :=
  congrArg RowStates.mission h

/-- The stage of a mission with a payment. -/
lemma Stage.Of.paying (h : s.Of ⟨some m, some a, some i⟩) :
    s = .paying i.state ∧ m.state = missionStateOf i.state ∧ a.status = .consumed := by
  cases s with
  | paying state =>
    simp only [Stage.Of, Stage.rows, Persisted.states, Option.map_some, RowStates.mk.injEq,
      Option.some.injEq] at h
    obtain ⟨hm, ha, hi⟩ := h
    subst hi
    exact ⟨rfl, hm.symm, ha.symm⟩
  | _ => simp [Stage.Of, Stage.rows, Persisted.states] at h

/-- The stage of a mission whose authorization is live. -/
lemma Stage.Of.live (h : s.Of ⟨some m, some a, payment⟩)
    (hlive : a.status = .pending ∨ a.status = .active) : payment = none ∧
      (a.status = .pending ∧ m.state = .awaitingApproval ∧ s = .awaiting ∨
        a.status = .active ∧ m.state = .authorized ∧ s = .authorized) := by
  cases s with
  | awaiting | authorized =>
    simp [Stage.Of, Stage.rows, Persisted.states] at h
    simp [← h.1, ← h.2.1, h.2.2]
  | unapproved status hs | unspent status hs =>
    exfalso
    simp [Stage.Of, Stage.rows, Persisted.states] at h
    rw [← h.2.1] at hlive
    rcases hs with rfl | rfl <;> simp at hlive
  | paying state =>
    exfalso
    simp [Stage.Of, Stage.rows, Persisted.states] at h
    simp [← h.2.1] at hlive
  | _ => simp [Stage.Of, Stage.rows, Persisted.states] at h

/-- A handler or a delivery moves the payment, and the mission with it. -/
lemma Stage.Of.handled (h : s.Of ⟨some m, some a, some i⟩) {u : UnitOfWork} (hmoves : Moves i u.intent)
    (hmission : missionTerms u = missionTerms ⟨i, some m, [], []⟩)
    (hcoupled : Coupled ⟨i, some m, [], []⟩ → Coupled u) :
    ∃ s' : Stage, s'.Of ⟨u.mission, some a, some u.intent⟩ ∧ Stage.Move s s' := by
  obtain ⟨rfl, hm, ha⟩ := h.paying
  obtain ⟨m', hm'⟩ : ∃ m', u.mission = some m' := by
    cases hu : u.mission with
    | none => simp [missionTerms, hu] at hmission
    | some m' => exact ⟨m', rfl⟩
  have hstate : m'.state = missionStateOf u.intent.state := by
    refine hcoupled ?_ m' hm'
    intro n hn
    obtain rfl := Option.some.inj hn
    exact hm
  refine ⟨.paying u.intent.state, ?_, .paid _ _ hmoves.path⟩
  simp [Stage.Of, Stage.rows, Persisted.states, hm', hstate, ha]

end Of

/-- One step makes at most one move. -/
theorem Recount.moves {action : Action} {p p' : Persisted} {entries : List AuditEntry}
    (hr : Recount env w action p entries p') {s : Stage} (hs : s.Of p) :
    ∃ s' : Stage, s'.Of p' ∧ (s' = s ∨ Stage.Move s s') := by
  cases hr with
  | untouched => exact ⟨s, hs, .inl rfl⟩
  | repeated => exact ⟨s, hs, .inl rfl⟩
  | planned m a _ hopened =>
    obtain rfl : s = .missing := by
      cases s <;> simp [Stage.Of, Stage.rows, Persisted.states] at hs ⊢
    cases hopened with
    | unauthorized h =>
      rcases h with h | h
      · exact ⟨.denied, by simp [Stage.Of, Stage.rows, Persisted.states, h],
          .inr (.refused _ (.inl rfl))⟩
      · exact ⟨.unbound, by simp [Stage.Of, Stage.rows, Persisted.states, h],
          .inr (.refused _ (.inr rfl))⟩
    | awaiting a h ha =>
      exact ⟨.awaiting, by simp [Stage.Of, Stage.rows, Persisted.states, h, ha], .inr .submitted⟩
    | authorized a h ha =>
      exact ⟨.authorized, by simp [Stage.Of, Stage.rows, Persisted.states, h, ha], .inr .admitted⟩
  | ended m a payment status entry hlive hstatus =>
    obtain ⟨rfl, ⟨ha, hm, rfl⟩ | ⟨ha, hm, rfl⟩⟩ := hs.live hlive
    · exact ⟨.unapproved status hstatus, by simp [Stage.Of, Stage.rows, Persisted.states, hm],
        .inr (.expired status hstatus)⟩
    · exact ⟨.unspent status hstatus, by simp [Stage.Of, Stage.rows, Persisted.states, hm],
        .inr (.lapsed status hstatus)⟩
  | activated m a a' payment entry hm ha ha' =>
    obtain ⟨rfl, ⟨-, -, rfl⟩ | ⟨hactive, -⟩⟩ := hs.live (.inl ha)
    · exact ⟨.authorized, by simp [Stage.Of, Stage.rows, Persisted.states, ha'], .inr .approved⟩
    · cases ha.symm.trans hactive
  | created m a a' i _ hm ha ha' hi =>
    obtain ⟨-, ⟨hpending, -⟩ | ⟨-, -, rfl⟩⟩ := hs.live (.inr ha)
    · cases ha.symm.trans hpending
    · exact ⟨.paying .queued, by simp [Stage.Of, Stage.rows, Persisted.states, ha', hi,
        missionStateOf], .inr .requested⟩
  | reused => exact ⟨s, hs, .inl rfl⟩
  | fenced => exact ⟨s, hs, .inl rfl⟩
  | handled k lookup create turn event m a i t _ _ _ _ hh _ hmoves =>
    obtain ⟨s', hs', hmove⟩ := hs.handled hmoves hh.mission hh.coupled
    exact ⟨s', hs', .inr hmove⟩
  | delivered provider event now m a i u applied _ _ _ hd _ hmoves =>
    obtain ⟨s', hs', hmove⟩ := hs.handled hmoves hd.mission hd.coupled
    exact ⟨s', hs', .inr hmove⟩

-- ════════════════════════════════════════════════════════════════════════
-- Runs
-- ════════════════════════════════════════════════════════════════════════

/-- A step of the system moves every mission at most once. -/
lemma step_moves (hreach : Reachable env w) {action : Action}
    (hstep : World.step env w action = some w') (m : Uuid) {s : Stage}
    (hs : s.Of (w.db.persisted m)) :
    ∃ s' : Stage, s'.Of (w'.db.persisted m) ∧ Relation.ReflTransGen Stage.Move s s' := by
  obtain ⟨missionId, entries, -, -, hrecount, hothers⟩ :=
    (step_change hreach.consistent hreach.inFlight hstep).recounts hreach.consistent
  by_cases hm : m = missionId
  · subst hm
    obtain ⟨s', hs', rfl | hmove⟩ := hrecount.moves hs
    · exact ⟨s', hs', .refl⟩
    · exact ⟨s', hs', .single hmove⟩
  · rw [hothers m hm]
    exact ⟨s, hs, .refl⟩

lemma run_moves (hreach : Reachable env w) (hrun : Runs.run (World.step env) w more = some w')
    (m : Uuid) {s : Stage} (hs : s.Of (w.db.persisted m)) :
    ∃ s' : Stage, s'.Of (w'.db.persisted m) ∧ Relation.ReflTransGen Stage.Move s s' := by
  induction more generalizing w s with
  | nil =>
    obtain rfl := Option.some.inj hrun
    exact ⟨s, hs, .refl⟩
  | cons action rest ih =>
    obtain ⟨w₁, hstep, hrest⟩ := Runs.run_cons.mp hrun
    obtain ⟨s₁, hs₁, hmove⟩ := step_moves hreach hstep m hs
    obtain ⟨s', hs', hmoves⟩ := ih (hreach.step hstep).1 hrest hs₁
    exact ⟨s', hs', hmove.trans hmoves⟩

/-- In every committed state of every run the rows of every mission, its authorization and its
payment are those of one stage. Every continuation moves the mission along the moves between stages
and along the transition table of missions, and a final stage stays as it is. -/
theorem missions_refine_stages (h : World.exec env actions = some w)
    (hrun : Runs.run (World.step env) w more = some w') (m : Uuid) :
    ∃ s s' : Stage, s.Of (w.db.persisted m) ∧ s'.Of (w'.db.persisted m) ∧
      Relation.ReflTransGen Stage.Move s s' ∧ (s.Final → s' = s) ∧
      ∀ x x', w.db.getMission m = some x → w'.db.getMission m = some x' → x.state.Path x'.state := by
  have hmissing : Stage.Of (World.init.db.persisted m) .missing := rfl
  obtain ⟨s, hs, -⟩ := run_moves (reachable_init env) h m hmissing
  obtain ⟨s', hs', hmoves⟩ := run_moves (exec_reachable h) hrun m hs
  refine ⟨s, s', hs, hs', hmoves, fun hfinal => hfinal.eq_of_moves hmoves, fun x x' hx hx' => ?_⟩
  refine Stage.legal hmoves ?_ ?_
  · rw [hs.mission, show (w.db.persisted m).mission = some x from hx, Option.map_some]
  · rw [hs'.mission, show (w'.db.persisted m).mission = some x' from hx', Option.map_some]

theorem missions_refine_stages_reconciled :
    ∃ w w', World.exec Sample.env Sample.timedOut = some w ∧
      Runs.run (World.step Sample.env) w Sample.reconciled = some w' ∧
      ∀ m, ∃ s s' : Stage, s.Of (w.db.persisted m) ∧ s'.Of (w'.db.persisted m) ∧
        Relation.ReflTransGen Stage.Move s s' ∧ (s.Final → s' = s) := by
  obtain ⟨w, hw, hw'⟩ := Option.map_eq_some_iff.mp Sample.timedOut_events
  obtain ⟨w', hrun⟩ : ∃ w', Runs.run (World.step Sample.env) w Sample.reconciled = some w' := by
    simp only [Prod.mk.injEq, Option.map_eq_some_iff] at hw'
    exact hw'.2.2.imp fun _ h => h.1
  refine ⟨w, w', hw, hrun, fun m => ?_⟩
  obtain ⟨s, s', hs, hs', hmoves, hfinal, -⟩ := missions_refine_stages hw hrun m
  exact ⟨s, s', hs, hs', hmoves, hfinal⟩

end Pactra
