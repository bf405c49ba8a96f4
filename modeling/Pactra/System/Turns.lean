import Pactra.System.PaymentStates

/-!
# Worker turns, over steps

A step changes at most one turn. `TurnMove` says which, and that only the commit of the create
fence brings a turn into the phase after it.

## Main results

- `step_turns` — how a step changes the turns
-/

namespace Pactra

open PaymentExecutor

variable {env : Env} {w w' : World}

/-- What a step has done that brings a turn into a phase. -/
def Entered (w : World) (action : Action) (k : Nat) (w' : World) : TurnPhase → Prop
  | .fenced e acquired => action = .commitFence k ∧
    ∃ i, w.db.getPaymentIntent e.paymentIntentId = some i ∧
      w'.trace = w.trace ++ [.fenceCommitted k i.id acquired]
  | _ => True

/-- How a step changes the turns. -/
inductive TurnMove (w : World) (action : Action) (w' : World) : Prop
  | same (hk : World.Action.turn action = none) (h : w'.turns = w.turns)
  | started (t : WorkerTurn) (hp : t.phase = .started)
    (haction : action = .startTurn t.workerId t.provider t.now t.lease)
    (h : w'.turns = w.turns ++ [t])
  | moved (k : Nat) (turn : WorkerTurn) (p : TurnPhase) (hk : World.Action.turn action = some k)
    (hturn : w.turns[k]? = some turn) (h : w'.turns = w.turns.set k { turn with phase := p })
    (hp : Entered w action k w' p)

section Moves

variable {k : Nat} {turn : WorkerTurn} (hturn : w.turns[k]? = some turn)

include hturn

lemma handle_turns {lookup : LookupAnswer} {create : CreateAnswer}
    (h : World.handleTurn env w k turn lookup create = some w') :
    TurnMove w (.handle k lookup create) w' := by
  unfold World.handleTurn at h
  split at h
  · cases h
  next event handler hh =>
  split at h
  · obtain rfl := Option.some.inj h
    exact .moved k turn (.raised _ _) rfl hturn rfl trivial
  split at h
  · dsimp only at h
    split at h
    · obtain rfl := Option.some.inj h
      exact .moved k turn .ended rfl hturn rfl trivial
    · obtain rfl := Option.some.inj h
      exact .moved k turn (.raised _ _) rfl hturn rfl trivial
  · obtain rfl := Option.some.inj h
    refine .moved k turn (World.fencingPhase _ _ _) rfl hturn rfl ?_
    unfold World.fencingPhase
    split <;> trivial
  · obtain rfl := Option.some.inj h
    exact .moved k turn (.raised _ _) rfl hturn rfl trivial

lemma fence_turns (h : World.fenceTurn w k turn = some w') : TurnMove w (.commitFence k) w' := by
  unfold World.fenceTurn at h
  split at h
  · next event requeue hphase =>
    split at h
    · cases h
    next i hi =>
    obtain rfl := Option.some.inj h
    exact .moved k turn (.fenced event _) rfl hturn rfl ⟨rfl, i, hi, rfl⟩
  · split at h
    · cases h
    · obtain rfl := Option.some.inj h
      exact .moved k turn (.reconcileFenced _) rfl hturn rfl trivial
  · cases h

/-- The statements of a turn outside its handler. -/
lemma stepTurn_turns {action : Action} (haction : World.Action.turn action = some k)
    (h : World.stepTurn w k turn action = some w') : TurnMove w action w' := by
  cases action with
  | claimPostgres k' locked =>
    obtain rfl := Option.some.inj haction
    simp only [World.stepTurn] at h
    split at h
    · split at h
      · obtain rfl := Option.some.inj h
        exact .moved _ turn .ended rfl hturn rfl trivial
      · obtain rfl := Option.some.inj h
        exact .moved _ turn (.claimed _) rfl hturn rfl trivial
    · cases h
  | selectCandidate k' =>
    obtain rfl := Option.some.inj haction
    simp only [World.stepTurn] at h
    split at h
    · split at h
      · obtain rfl := Option.some.inj h
        exact .moved _ turn .ended rfl hturn rfl trivial
      · obtain rfl := Option.some.inj h
        exact .moved _ turn (.selected _ _ _) rfl hturn rfl trivial
    · cases h
  | claimConditional k' =>
    obtain rfl := Option.some.inj haction
    simp only [World.stepTurn] at h
    split at h
    · split at h
      · obtain rfl := Option.some.inj h
        exact .moved _ turn .ended rfl hturn rfl trivial
      · obtain rfl := Option.some.inj h
        exact .moved _ turn (.claimed _) rfl hturn rfl trivial
    · cases h
  | loadEvent k' =>
    obtain rfl := Option.some.inj haction
    simp only [World.stepTurn] at h
    split at h
    · split at h
      · obtain rfl := Option.some.inj h
        exact .moved _ turn .ended rfl hturn rfl trivial
      · split at h
        · obtain rfl := Option.some.inj h
          exact .moved _ turn .ended rfl hturn rfl trivial
        · obtain rfl := Option.some.inj h
          exact .moved _ turn (.loaded _) rfl hturn rfl trivial
    · cases h
  | loadStale k' =>
    obtain rfl := Option.some.inj haction
    simp only [World.stepTurn] at h
    split at h
    · split at h
      · obtain rfl := Option.some.inj h
        exact .moved _ turn .ended rfl hturn rfl trivial
      · obtain rfl := Option.some.inj h
        exact .moved _ turn (.recovering _ _) rfl hturn rfl trivial
    · cases h
  | recover k' =>
    obtain rfl := Option.some.inj haction
    simp only [World.stepTurn] at h
    split at h
    · obtain rfl := Option.some.inj h
      exact .moved _ turn .ended rfl hturn rfl trivial
    · cases h
  | crash k' =>
    obtain rfl := Option.some.inj haction
    simp only [World.stepTurn] at h
    split at h
    · cases h
    · obtain rfl := Option.some.inj h
      exact .moved _ turn .ended rfl hturn rfl trivial
  | _ => cases h

end Moves

/-- Every step changes at most one turn. -/
theorem step_turns {action : Action} (h : World.step env w action = some w') :
    TurnMove w action w' := by
  cases action with
  | openApproval missionId signingKeyId signatureHex now =>
    obtain rfl := Option.some.inj h
    refine .same rfl ?_
    unfold World.openApproval
    split
    · split <;> rfl
    · rfl
  | finishApproval k =>
    simp only [World.step] at h
    split at h
    · cases h
    split at h
    · cases h
    · obtain rfl := Option.some.inj h
      exact .same rfl rfl
  | requestStep k =>
    simp only [World.step] at h
    split at h
    · cases h
    split at h
    · cases h
    · obtain rfl := Option.some.inj h
      exact .same rfl rfl
  | abandonRequest k =>
    simp only [World.step] at h
    split at h
    · cases h
    split at h
    · cases h
    · obtain rfl := Option.some.inj h
      exact .same rfl rfl
  | startTurn =>
    obtain rfl := Option.some.inj h
    exact .started _ rfl rfl rfl
  | webhook provider event now =>
    obtain rfl := Option.some.inj h
    refine .same rfl ?_
    unfold World.deliverWebhook
    repeat' split
    all_goals rfl
  | handle k lookup create =>
    simp only [World.step] at h
    split at h
    · cases h
    next turn hturn => exact handle_turns hturn h
  | crashHandling k lookup create =>
    simp only [World.step] at h
    split at h
    · cases h
    next turn hturn =>
    unfold World.crashTurn at h
    split at h
    · cases h
    split at h
    · cases h
    · obtain rfl := Option.some.inj h
      exact .moved k turn .ended rfl hturn rfl trivial
  | commitFence k =>
    simp only [World.step] at h
    split at h
    · cases h
    next turn hturn => exact fence_turns hturn h
  | runMission | revoke | expire | openRequest =>
    obtain rfl := Option.some.inj h
    exact .same rfl rfl
  | _ =>
    simp only [World.step, World.Action.turn] at h
    split at h
    · cases h
    next turn hturn => exact stepTurn_turns hturn rfl h

end Pactra
