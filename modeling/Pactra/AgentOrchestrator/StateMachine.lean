import Pactra.Db.Models

/-!
# Mission state machine

`services/agent_orchestrator/state_machine.py`.
-/

namespace Pactra

namespace MissionState

/-- `ALLOWED_TRANSITIONS`. -/
def allowedTransitions : MissionState → List MissionState
  | .created => [.intentParsed, .cancelled]
  | .intentParsed => [.discovering, .cancelled]
  | .discovering => [.offersReceived, .cancelled]
  | .offersReceived => [.offersNormalized, .cancelled]
  | .offersNormalized => [.ranked, .cancelled]
  | .ranked => [.policyChecked, .cancelled]
  | .policyChecked => [.awaitingApproval, .authorized, .cancelled]
  | .awaitingApproval => [.authorized, .cancelled]
  | .authorized => [.paymentPending, .cancelled]
  | .paymentPending => [.paymentSucceeded, .paymentFailed]
  | .paymentSucceeded => [.completed]
  | .paymentFailed => [.cancelled, .paymentPending]
  | .completed => []
  | .cancelled => []

/-- `can_transition`. -/
def canTransition (current target : MissionState) : Bool :=
  decide (target ∈ current.allowedTransitions)

/-- The mission state after a move that is skipped when it is illegal. -/
def moved (current target : MissionState) : MissionState :=
  if current.canTransition target then target else current

end MissionState

/-- `assert_transition`. -/
def assertTransition {σ : Type} (current target : MissionState) : Tx σ Exc Unit :=
  if current.canTransition target then pure ()
  else Tx.raise (.illegalTransition current target)

theorem assertTransition_ok {σ : Type} {current target : MissionState} {s s' : σ} :
    (assertTransition current target).run s = (.ok (), s') ↔
      current.canTransition target = true ∧ s' = s := by
  by_cases h : current.canTransition target = true <;> simp [assertTransition, h, eq_comm]

end Pactra
