import Pactra.Db.Models

/-!
# Payment state machine

`services/payment_executor/state_machine.py`. The terminal states have no outgoing transitions.
-/

namespace Pactra

namespace PaymentIntentState

/-- `ALLOWED_PAYMENT_TRANSITIONS`. -/
def allowedTransitions : PaymentIntentState → List PaymentIntentState
  | .created => [.queued, .cancelled]
  | .queued => [.processing, .providerPending, .cancelled]
  | .processing => [.succeeded, .providerPending, .failedRetryable, .failedTerminal]
  | .providerPending => [.succeeded, .failedTerminal, .failedRetryable]
  | .failedRetryable => [.queued, .providerPending, .failedTerminal, .cancelled]
  | .succeeded => []
  | .failedTerminal => []
  | .cancelled => []

/-- `can_transition`. -/
def canTransition (current target : PaymentIntentState) : Bool :=
  decide (target ∈ current.allowedTransitions)

/-- `is_terminal`: membership in `TERMINAL_PAYMENT_STATES`. -/
def isTerminal : PaymentIntentState → Bool
  | .succeeded | .failedTerminal | .cancelled => true
  | _ => false

/-- A state changes along a path of the transition table. -/
def Path : PaymentIntentState → PaymentIntentState → Prop :=
  Relation.ReflTransGen (fun s t => s.canTransition t = true)

theorem Path.refl (s : PaymentIntentState) : Path s s := Relation.ReflTransGen.refl

theorem Path.trans {s t u : PaymentIntentState} (h : Path s t) (h' : Path t u) : Path s u :=
  Relation.ReflTransGen.trans h h'

theorem Path.single {s t : PaymentIntentState} (h : s.canTransition t = true) : Path s t :=
  Relation.ReflTransGen.single h

/-- A path from a terminal state stays where it is. -/
theorem Path.eq_of_isTerminal {s t : PaymentIntentState} (h : Path s t)
    (hs : s.isTerminal = true) : t = s := by
  induction h with
  | refl => rfl
  | @tail u _ _ hstep ih =>
    rw [← ih] at hs
    -- a terminal state allows no transition, so the step is impossible
    cases u <;> simp_all [isTerminal, canTransition, allowedTransitions]

end PaymentIntentState

/-- `assert_payment_transition`. -/
def assertPaymentTransition {σ : Type} (current target : PaymentIntentState) : Tx σ Exc Unit :=
  if current.canTransition target then pure ()
  else Tx.raise (.illegalPaymentTransition current target)

theorem run_assertPaymentTransition {σ : Type} (current target : PaymentIntentState) (s : σ) :
    (assertPaymentTransition current target).run s =
      if current.canTransition target then (.ok (), s)
      else (.error (.illegalPaymentTransition current target), s) := by
  unfold assertPaymentTransition
  split <;> rfl

end Pactra
