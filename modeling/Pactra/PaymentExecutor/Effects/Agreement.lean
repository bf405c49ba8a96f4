import Pactra.PaymentExecutor.Effects.Audit
import Pactra.PaymentExecutor.Effects.Rows

/-!
# What replay says, next to what the rows hold

One handler transaction moves two things: the rows, and the view that replay derives from the audit
events. The transaction starts where the two agree, and this module says where it ends. States
always agree at the end; references and reason codes agree except at the branches that record
something the row does not take over, and those branches are the hypotheses here.

## Main results

- `Dispatched.follows`, `Reconciled.follows`, `Delivered.follows` — states agree after every handler
- `Dispatched.named`, `Reconciled.named`, `Delivered.named` — so do provider references, unless an
  ambiguous intent's lookup returned another payment
- `Dispatched.reasoned`, `Reconciled.reasoned`, `Delivered.reasoned` — so do reason codes, unless
  the handler only recorded one
-/

namespace Pactra

namespace PaymentExecutor

open Replay PaymentIntentState

/-- The states of a view are those of a unit of work, next to a given authorization status. -/
structure Follows (status : Option String) (v : View) (u : UnitOfWork) : Prop where
  authorization : v.authorizationStatus = status
  payment : v.paymentState = some u.intent.state.value
  mission : ∃ m, u.mission = some m ∧ v.missionState = some m.state

/-- The provider reference of a view is that of a row. -/
def Named (v : View) (i : PaymentIntentRow) : Prop := v.providerPaymentId = i.providerPaymentId

/-- The reason code of a view is that of a row. -/
def Reasoned (v : View) (i : PaymentIntentRow) : Prop := v.lastReasonCode = i.lastReasonCode

@[simp] lemma orStr_paymentId (payment : ProviderPayment) (a : Option String) :
    orStr (some payment.providerPaymentId) a = some payment.providerPaymentId := by
  simp [orStr, payment.providerPaymentId_ne]

-- ════════════════════════════════════════════════════════════════════════
-- Narrating events
-- ════════════════════════════════════════════════════════════════════════

section Narration

variable (v : View) (d : Dict)

@[simp] lemma common_paymentState : (v.common d).paymentState = v.paymentState := rfl

@[simp] lemma common_missionState : (v.common d).missionState = v.missionState := rfl

@[simp] lemma common_deadLettered : (v.common d).deadLettered = v.deadLettered := rfl

lemma stated_of_absent (h : Dict.get d "state" = none) : v.stated d = v := by
  simp [View.stated, text, h]

lemma common_of_absent (hid : Dict.get d "provider_payment_id" = none)
    (hr : Dict.get d "reason_code" = none) : v.common d = v := by
  simp [View.common, text, hid, hr, orStr]

/-- What replay reads off the event of a retry site. -/
lemma step_retryEvent (e : OutboxEventRow) (a : String) (hs : Dict.get d "state" = none) :
    v.step ⟨retryEvent e, a, d⟩ =
      { v.common d with
        deadLettered := v.deadLettered || !decide (e.attempts < e.maxAttempts) } := by
  unfold retryEvent
  by_cases h : e.attempts < e.maxAttempts
  · have hkeep := stated_of_absent (v.common d) d hs
    simp only [h, if_true, View.step, hkeep, decide_true, Bool.not_true, Bool.or_false]
    rfl
  · simp [h, View.step]

/-- What replay reads off a delivery to an ambiguous intent. -/
lemma step_held (i : PaymentIntentRow) (event : VerifiedWebhookEvent) (a : String) :
    v.step ⟨.paymentProviderUncertain, a, heldPayload i event⟩ =
      v.paid i.state (some ReasonCode.providerAmbiguity.value) none := by
  simp [View.step, View.common, View.stated, View.paid, heldPayload, text, orStr]

/-- What replay reads off an observation about a payment that stays open. -/
lemma step_observed (i : PaymentIntentRow) (event : VerifiedWebhookEvent) (a : String) :
    v.step ⟨.paymentProviderUncertain, a, observedPayload i event⟩ =
      v.paid i.state (attemptReason event) (some event.providerPaymentId) := by
  rcases hr : attemptReason event with _ | r
  all_goals
    simp [View.step, View.common, View.stated, View.paid, observedPayload, webhookEvidence, text, hr]

/-- What replay reads off the conclusion that no payment exists. -/
lemma replayed_noPayment (now : Datetime) (u : UnitOfWork) :
    replayed v (PaymentExecutor.noPayment now u) = (replayed v u).paid .failedRetryable
      (some ReasonCode.providerPaymentNotFound.value) none := by
  simp [PaymentExecutor.noPayment, View.step, View.common, View.stated, View.paid, text]

end Narration

section States

variable {status : Option String} {v : View} {u u' : UnitOfWork}

lemma Follows.of_eq {v' : View} (h : Follows status v u)
    (ha : v'.authorizationStatus = v.authorizationStatus) (hp : v'.paymentState = v.paymentState)
    (hm : v'.missionState = v.missionState) (hi : u'.intent.state = u.intent.state)
    (hu : u'.mission = u.mission) : Follows status v' u' := by
  obtain ⟨m, hmission, hview⟩ := h.mission
  exact ⟨ha.trans h.authorization, by rw [hp, hi, h.payment], m, hu.trans hmission,
    hm.trans hview⟩

/-- A move of the payment that replay reads off its event. -/
lemma Follows.paid (h : Follows status v u) {target : PaymentIntentState} {reasonCode ref : Option String}
    (hi : u'.intent.state = target) (hu : u'.mission = u.mission) :
    Follows status (v.paid target reasonCode ref) u' := by
  obtain ⟨m, hmission, hview⟩ := h.mission
  exact ⟨h.authorization, by rw [hi]; rfl, m, hu.trans hmission, hview⟩

/-- A move of the mission that replay derives as well. -/
lemma Follows.moved (h : Follows status v u) (target : MissionState) :
    Follows status (v.moved target) (withMission target u) := by
  obtain ⟨m, hmission, hview⟩ := h.mission
  refine ⟨h.authorization, h.payment, movedMission target m, by simp [withMission, hmission], ?_⟩
  simp [View.moved, hview, movedMission]

variable (w : View)

lemma follows_attempted (h : Follows status (replayed w u) u) (a b : Bool) :
    Follows status (replayed w (attempted a b u)) (attempted a b u) := by
  rw [replayed_attempted]
  split
  · next hs => exact h.paid (by rw [attempted_state hs]) (by simp [attempted, hs]; rfl)
  · next hs =>
    rw [attempted, if_neg hs]
    exact h

lemma follows_uncertain (h : Follows status (replayed w u) u) (detail : String) (now : Datetime)
    (reasonCode : String) (timedOut : Bool) :
    Follows status (replayed w (uncertain detail now reasonCode timedOut u))
      (uncertain detail now reasonCode timedOut u) := by
  rw [replayed_uncertain]
  refine h.paid (by rw [uncertain_intent]) ?_
  cases timedOut <;> rfl

lemma follows_settled (h : Follows status (replayed w u) u) (payment : ProviderPayment)
    (now : Datetime) :
    Follows status (replayed w (settled payment now u)) (settled payment now u) := by
  rw [replayed_settled]
  unfold settled
  dsimp only
  split
  · exact h.of_eq rfl rfl rfl rfl rfl
  cases providerStatusToState payment.status
  case succeeded =>
    refine Follows.moved (u := transitioned _ _ _ _ (withIntent (linked payment) u)) ?_ _
    exact h.paid rfl rfl
  case failedTerminal =>
    refine Follows.moved (u := transitioned _ _ _ _ (withIntent (linked payment) u)) ?_ _
    exact h.paid rfl rfl
  all_goals exact h.paid rfl rfl

lemma replayed_refused (h : Refused u u') : replayed w u' = replayed w u := by
  rcases h with rfl | ⟨_, -, rfl⟩ <;> rfl

lemma follows_refused (h : Refused u u') (hf : Follows status (replayed w u) u) :
    Follows status (replayed w u') u' := by
  rw [replayed_refused w h]
  refine hf.of_eq rfl rfl rfl h.state ?_
  rcases h with rfl | ⟨_, -, rfl⟩ <;> rfl

@[simp] lemma replayed_followedUp (now : Datetime) :
    replayed w (followedUp now u) = replayed w u := by
  unfold followedUp
  split <;> rfl

lemma follows_queuedEvent (h : Follows status (replayed w u) u) (eventType : OutboxEventType)
    (now : Datetime) :
    Follows status (replayed w (queuedEvent eventType now u)) (queuedEvent eventType now u) :=
  h.of_eq rfl rfl rfl rfl rfl

lemma follows_followedUp (now : Datetime) (h : Follows status (replayed w u) u) :
    Follows status (replayed w (followedUp now u)) (followedUp now u) := by
  unfold followedUp
  split
  · exact follows_queuedEvent w h _ _
  · exact h

/-- A transition whose event does not move the mission. -/
lemma follows_transitioned (h : Follows status (replayed w u) u) {target : PaymentIntentState}
    {eventType : EventType} {payload : Dict} (reasonCode : Option String)
    (ht : eventType ∈ transitionEvents) (hs : Dict.get payload "state" = none)
    (hnd : (payload.map Prod.fst).Nodup) (hkeep : ∀ v, missionMove eventType target v = v) :
    Follows status (replayed w (transitioned target eventType payload reasonCode u))
      (transitioned target eventType payload reasonCode u) := by
  rw [replayed_transitioned w u reasonCode ht hs hnd, hkeep]
  exact h.paid rfl rfl

/-- A transition whose event moves the mission, together with that move. -/
lemma follows_withMission (h : Follows status (replayed w u) u) {target : PaymentIntentState}
    {eventType : EventType} {payload : Dict} (reasonCode : Option String) {next : MissionState}
    (ht : eventType ∈ transitionEvents) (hs : Dict.get payload "state" = none)
    (hnd : (payload.map Prod.fst).Nodup)
    (hmove : ∀ v, missionMove eventType target v = v.moved next) :
    Follows status (replayed w (withMission next (transitioned target eventType payload reasonCode u)))
      (withMission next (transitioned target eventType payload reasonCode u)) := by
  rw [replayed_withMission, replayed_transitioned w u reasonCode ht hs hnd, hmove]
  have hp : Follows status ((replayed w u).paid target reasonCode (text payload "provider_payment_id"))
      (transitioned target eventType payload reasonCode u) := h.paid rfl rfl
  exact hp.moved next

lemma follows_retried (h : Follows status (replayed w u) u) (e : OutboxEventRow) (code phase : String) :
    Follows status (replayed w (retried e code phase u)) (retried e code phase u) := by
  rw [retried, replayed_noted, step_retryEvent _ _ _ _ (by simp [lookupRetryPayload])]
  exact h.of_eq rfl rfl rfl rfl rfl

/-- A narrating event leaves the states alone. -/
lemma follows_reconciled (h : Follows status (replayed w u) u) (d : Dict) :
    Follows status (replayed w (noted .paymentReconciled d u)) (noted .paymentReconciled d u) := by
  rw [replayed_noted]
  exact h.of_eq rfl rfl rfl rfl rfl

/-- A create turn that starts where replay agrees with the rows ends there. -/
theorem Dispatched.follows {ctx : TurnContext} {e e' : OutboxEventRow}
    (h : Dispatched ctx u e u' e') (hu : Follows status (replayed w u) u) :
    Follows status (replayed w u') u' := by
  cases h with
  | finished => exact hu
  | handedOver => exact follows_queuedEvent w hu _ _
  | uncertain => exact follows_uncertain w hu _ _ _ _
  | recovered payment v _ _ _ h =>
    have hset := follows_settled w (follows_attempted w hu false true) payment ctx.now
    rw [← h.eq] at hset
    exact follows_followedUp w _ (follows_reconciled w hset _)
  | recoveredRefused detail v _ h =>
    refine follows_uncertain w ?_ _ _ _ _
    rcases h with rfl | h
    · exact hu
    · exact follows_refused w h (follows_attempted w hu _ _)
  | created payment v _ _ _ h =>
    have hset := follows_settled w (follows_attempted w hu true false) payment ctx.now
    rw [← h.eq] at hset
    exact follows_followedUp w _ hset
  | createdRefused detail v _ h =>
    exact follows_uncertain w (follows_refused w h (follows_attempted w hu _ _)) _ _ _ _
  | createUncertain => exact follows_uncertain w (follows_attempted w hu _ _) _ _ _ _
  | createRetryable reason =>
    have ha : Follows status (replayed w (transitioned .failedRetryable .paymentFailed
        [("provider", .str u.intent.provider), ("retryable", .bool true)]
        (some ReasonCode.providerTransientFailure.value) (attempted true false u))) _ :=
      follows_transitioned w (follows_attempted w hu true false) _ (by decide) (by simp) (by simp)
        (fun _ => rfl)
    rw [replayed_noted, step_retryEvent _ _ _ _ (by simp [retryPayload])]
    exact ha.of_eq rfl rfl rfl rfl rfl
  | createTerminal detail =>
    exact follows_withMission w (follows_attempted w hu true false) _ (by decide) (by simp)
      (by simp) (fun _ => rfl)

/-- A reconcile turn that starts where replay agrees with the rows ends there. -/
theorem Reconciled.follows {ctx : TurnContext} {e e' : OutboxEventRow}
    (h : Reconciled ctx u e u' e') (hu : Follows status (replayed w u) u) :
    Follows status (replayed w u') u' := by
  cases h with
  | finished => exact hu
  | ambiguityObserved error =>
    refine follows_retried w (follows_transitioned w ?_ _ (by decide) (by simp) (by simp)
      (fun _ => rfl)) _ _ _
    exact hu.of_eq rfl rfl rfl rfl rfl
  | lookupFailed => exact follows_retried w hu _ _ _
  | ambiguous payment =>
    refine follows_reconciled w ?_ _
    unfold ambiguityKept
    split
    · exact follows_transitioned w hu _ (by decide) (by simp) (by simp) (fun _ => rfl)
    · exact hu.of_eq rfl rfl rfl rfl rfl
  | linkedNotFound => exact follows_retried w (follows_reconciled w hu _) _ _ _
  | fencedNotFound =>
    refine follows_retried w (follows_reconciled w ?_ _) _ _ _
    unfold fencedKept
    split
    · exact follows_transitioned w hu _ (by decide) (by simp) (by simp) (fun _ => rfl)
    · exact hu.of_eq rfl rfl rfl rfl rfl
  | noPayment =>
    rw [replayed_noPayment]
    exact hu.paid rfl rfl
  | found payment v _ _ _ h =>
    have hset := follows_settled w (follows_attempted w hu false true) payment ctx.now
    rw [← h.eq] at hset
    exact follows_reconciled w hset _
  | refused payment detail v _ _ _ _ h =>
    refine follows_retried w ?_ _ _ _
    rcases h with rfl | ⟨-, h⟩
    · exact hu
    · exact follows_refused w h (follows_attempted w hu _ _)

/-- A webhook delivery that starts where replay agrees with the rows ends there. -/
theorem Delivered.follows {db : Db} {event : VerifiedWebhookEvent}
    {applied : Option (Option PaymentIntentState)} (h : Delivered db event u u' applied)
    (hu : Follows status (replayed w u) u) : Follows status (replayed w u') u' := by
  have hverified : Follows status
      (replayed w (noted .webhookVerified (verifiedPayload u.intent event) u))
      (noted .webhookVerified (verifiedPayload u.intent event) u) := by
    rw [replayed_noted]
    exact hu.of_eq rfl rfl rfl rfl rfl
  cases h with
  | duplicate =>
    rw [replayed_noted]
    exact hu.of_eq rfl rfl rfl rfl rfl
  | held =>
    rw [replayed_noted, replayed_withIntent, step_held]
    exact hverified.paid rfl rfl
  | observed =>
    rw [replayed_noted, replayed_withIntent, step_observed]
    exact hverified.paid rfl rfl
  | outOfOrder =>
    rw [replayed_noted]
    exact hverified.of_eq rfl rfl rfl rfl rfl
  | applied target _ _ ht =>
    have hbase : Follows status
        (replayed w (withIntent (storeProviderEvidence event target)
          (noted .webhookVerified (verifiedPayload u.intent event) u)))
        (withIntent (storeProviderEvidence event target)
          (noted .webhookVerified (verifiedPayload u.intent event) u)) :=
      hverified.of_eq rfl rfl rfl rfl rfl
    have hnone : Dict.get (webhookEvidence event) "state" = none := by simp [webhookEvidence]
    have hnd : ((webhookEvidence event).map Prod.fst).Nodup := by simp [webhookEvidence]
    have htarget : target = .providerPending ∨ target = .succeeded ∨ target = .failedTerminal := by
      rw [← ht]
      cases event.eventType <;> simp [webhookTypeToState]
    rcases htarget with rfl | rfl | rfl
    · exact follows_transitioned w hbase _ (by decide) hnone hnd (fun _ => rfl)
    · exact follows_withMission w hbase _ (by decide) hnone hnd (fun _ => rfl)
    · exact follows_withMission w hbase _ (by decide) hnone hnd (fun _ => rfl)

end States

-- ════════════════════════════════════════════════════════════════════════
-- Provider references
-- ════════════════════════════════════════════════════════════════════════

section References

variable {w : View} {u u' : UnitOfWork}

lemma named_attempted (h : Named (replayed w u) u.intent) (a b : Bool) :
    Named (replayed w (attempted a b u)) (attempted a b u).intent := by
  have hrow : (attempted a b u).intent.providerPaymentId = u.intent.providerPaymentId :=
    congrArg Prod.fst (references_attempted a b)
  rw [Named, hrow, replayed_attempted]
  split
  · exact h
  · exact h

lemma named_uncertain (h : Named (replayed w u) u.intent) (detail : String) (now : Datetime)
    (reasonCode : String) (timedOut : Bool) :
    Named (replayed w (uncertain detail now reasonCode timedOut u))
      (uncertain detail now reasonCode timedOut u).intent := by
  have hrow : (uncertain detail now reasonCode timedOut u).intent.providerPaymentId =
      u.intent.providerPaymentId := by
    rw [uncertain_intent]
    exact congrArg Prod.fst (references_markedAmbiguous now reasonCode u.intent)
  rw [Named, hrow, replayed_uncertain]
  exact h

/-- A narration with provider evidence names the payment that was folded in. -/
lemma named_evidence (payment : ProviderPayment) {d : Dict}
    (hd : text d "provider_payment_id" = some payment.providerPaymentId)
    (hu : u.intent.providerPaymentId = some payment.providerPaymentId) :
    Named (replayed w (noted .paymentReconciled d u)) (noted .paymentReconciled d u).intent := by
  rw [replayed_noted, Named]
  simp [View.step, View.common, hd, hu]

/-- The view after an answer that moved the payment names it. -/
lemma named_settled {payment : ProviderPayment} {now : Datetime}
    (hmoves : ¬(u.intent.state = providerStatusToState payment.status ∨
      u.intent.state.isTerminal = true)) :
    Named (replayed w (settled payment now u)) (settled payment now u).intent := by
  have hrow := (settled_columns u payment now).2.2.2
  rw [Named, hrow, replayed_settled, if_neg hmoves]
  split <;> simp [View.paid, View.moved]

lemma named_refused (h : Refused u u')
    (hr : u.intent.providerPaymentId = none → u.intent.Unlinked)
    (hn : Named (replayed w u) u.intent) : Named (replayed w u') u'.intent := by
  rw [Named, replayed_refused w h, h.paymentId hr]
  exact hn

lemma named_followedUp (now : Datetime) (h : Named (replayed w u) u.intent) :
    Named (replayed w (followedUp now u)) (followedUp now u).intent := by
  rw [followedUp_intent, replayed_followedUp]
  exact h

lemma named_retried (h : Named (replayed w u) u.intent) (e : OutboxEventRow)
    (code phase : String) :
    Named (replayed w (retried e code phase u)) (retried e code phase u).intent := by
  rw [retried, replayed_noted, step_retryEvent _ _ _ _ (by simp [lookupRetryPayload])]
  simpa [Named, View.common, text, lookupRetryPayload] using h

/-- A transition event without a reference leaves the reference as it is. -/
lemma named_transitioned (h : Named (replayed w u) u.intent) {target : PaymentIntentState}
    {eventType : EventType} {payload : Dict} (reasonCode : Option String)
    (ht : eventType ∈ transitionEvents) (hs : Dict.get payload "state" = none)
    (hid : Dict.get payload "provider_payment_id" = none)
    (hnd : (payload.map Prod.fst).Nodup) :
    Named (replayed w (transitioned target eventType payload reasonCode u))
      (transitioned target eventType payload reasonCode u).intent := by
  have htext : text payload "provider_payment_id" = none := by simp [text, hid]
  rw [Named, replayed_transitioned w u reasonCode ht hs hnd, htext]
  have hkeep : ∀ v : View, (missionMove eventType target v).providerPaymentId =
      v.providerPaymentId := by
    intro v
    unfold missionMove
    split
    · rfl
    · split <;> rfl
    · rfl
  rw [hkeep]
  exact h

/-- A create turn keeps the reference in agreement. -/
theorem Dispatched.named {ctx : TurnContext} {e e' : OutboxEventRow}
    (h : Dispatched ctx u e u' e') (hc : Committable ctx.env u.intent)
    (hu : Named (replayed w u) u.intent) : Named (replayed w u') u'.intent := by
  cases h with
  | finished => exact hu
  | handedOver => exact hu
  | uncertain => exact named_uncertain hu _ _ _ _
  | recovered payment v _ _ _ h =>
    refine named_followedUp _ (named_evidence payment ?_ ?_)
    · exact text_evidence _ _ payment (by simp)
    · rw [h.eq]
      exact (settled_columns _ payment ctx.now).2.2.2
  | recoveredRefused detail v _ h =>
    refine named_uncertain ?_ _ _ _ _
    rcases h with rfl | h
    · exact hu
    · exact named_refused h (attempted_referenced _ _ hc.referenced) (named_attempted hu _ _)
  | created payment v _ hs _ h =>
    refine named_followedUp _ ?_
    rw [h.eq]
    refine named_settled ?_
    rw [attempted_state hs]
    cases payment.status <;> simp [providerStatusToState, isTerminal]
  | createdRefused detail v _ h =>
    exact named_uncertain (named_refused h (attempted_referenced _ _ hc.referenced)
      (named_attempted hu _ _)) _ _ _ _
  | createUncertain => exact named_uncertain (named_attempted hu _ _) _ _ _ _
  | createRetryable reason =>
    have ha : Named (replayed w (transitioned .failedRetryable .paymentFailed
        [("provider", .str u.intent.provider), ("retryable", .bool true)]
        (some ReasonCode.providerTransientFailure.value) (attempted true false u))) _ :=
      named_transitioned (named_attempted hu true false) _ (by decide) (by simp) (by simp) (by simp)
    rw [replayed_noted, step_retryEvent _ _ _ _ (by simp [retryPayload])]
    simpa [Named, View.common, text, retryPayload] using ha
  | createTerminal detail =>
    exact named_transitioned (named_attempted hu true false) _ (by decide) (by simp) (by simp)
      (by simp)

/-- A reconcile turn keeps the reference in agreement, as long as a lookup on an ambiguous intent
did not return a payment with another reference. -/
theorem Reconciled.named {ctx : TurnContext} {e e' : OutboxEventRow}
    (h : Reconciled ctx u e u' e') (hc : Committable ctx.env u.intent)
    (hother : ∀ payment, ctx.lookup = .found payment →
      u.intent.providerAmbiguityObservedAt ≠ none →
      u.intent.providerPaymentId = some payment.providerPaymentId)
    (hu : Named (replayed w u) u.intent) : Named (replayed w u') u'.intent := by
  cases h with
  | finished => exact hu
  | ambiguityObserved error =>
    exact named_retried (named_transitioned (u := withIntent _ u) hu _ (by decide) (by simp)
      (by simp) (by simp)) _ _ _
  | lookupFailed => exact named_retried hu _ _ _
  | ambiguous payment hl ha hs =>
    have hkept : Named (replayed w (ambiguityKept ctx.now u)) (ambiguityKept ctx.now u).intent := by
      unfold ambiguityKept
      split
      · exact named_transitioned hu _ (by decide) (by simp) (by simp) (by simp)
      · exact hu
    cases payment with
    | none =>
      rw [replayed_noted]
      simpa [Named, View.step, View.common, text, ambiguousPayload] using hkept
    | some payment =>
      refine named_evidence payment ?_ ?_
      · exact text_evidence _ _ payment (by simp)
      · have hrow : (ambiguityKept ctx.now u).intent.providerPaymentId =
            u.intent.providerPaymentId :=
          congrArg Prod.fst ((moves_ambiguityKept ctx.now ha hs).ambiguity ha).2
        exact hrow.trans (hother payment hl ha)
  | linkedNotFound =>
    refine named_retried ?_ _ _ _
    rw [replayed_noted]
    have htext : text (linkedNotFoundPayload u.intent) "provider_payment_id" =
        u.intent.providerPaymentId := by
      cases hid : u.intent.providerPaymentId <;> simp [text, linkedNotFoundPayload, hid]
    simp only [Named, View.step, View.common, htext, noted_intent]
    rw [show (replayed w u).providerPaymentId = u.intent.providerPaymentId from hu]
    exact orStr_self _
  | fencedNotFound =>
    refine named_retried ?_ _ _ _
    have hkept : Named (replayed w (fencedKept u)) (fencedKept u).intent := by
      unfold fencedKept
      split
      · exact named_transitioned hu _ (by decide) (by simp) (by simp) (by simp)
      · exact hu
    rw [replayed_noted]
    simpa [Named, View.step, View.common, text, fencedNotFoundPayload] using hkept
  | noPayment =>
    rw [Named, replayed_noPayment]
    exact hu
  | found payment v _ _ _ h =>
    refine named_evidence payment ?_ ?_
    · exact text_evidence _ _ payment (by simp)
    · rw [h.eq]
      exact (settled_columns _ payment ctx.now).2.2.2
  | refused payment detail v _ _ _ _ h =>
    refine named_retried ?_ _ _ _
    rcases h with rfl | ⟨-, h⟩
    · exact hu
    · exact named_refused h (attempted_referenced _ _ hc.referenced) (named_attempted hu _ _)

/-- A webhook delivery keeps the reference in agreement. -/
theorem Delivered.named {db : Db} {event : VerifiedWebhookEvent}
    {applied : Option (Option PaymentIntentState)} (h : Delivered db event u u' applied)
    (hid : u.intent.providerPaymentId = some event.providerPaymentId)
    (hu : Named (replayed w u) u.intent) : Named (replayed w u') u'.intent := by
  have hsome : (replayed w u).providerPaymentId = some event.providerPaymentId := hu.trans hid
  have hverified :
      (replayed w (noted .webhookVerified (verifiedPayload u.intent event) u)).providerPaymentId =
        some event.providerPaymentId := by
    rw [replayed_noted]
    simpa [View.step, View.common, text, verifiedPayload] using hsome
  cases h with
  | duplicate =>
    rw [replayed_noted]
    simpa [Named, View.step, View.common, text, duplicatePayload] using hu
  | held =>
    rw [Named, replayed_noted, replayed_withIntent, step_held]
    exact hverified.trans hid.symm
  | observed =>
    rw [Named, replayed_noted, replayed_withIntent, step_observed]
    show orStr (some event.providerPaymentId) _ = u.intent.providerPaymentId
    rw [hverified, hid, orStr_self]
  | outOfOrder =>
    rw [replayed_noted]
    simpa [Named, View.step, View.common, text, outOfOrderPayload] using hverified.trans hid.symm
  | applied target _ _ ht =>
    have hnone : Dict.get (webhookEvidence event) "state" = none := by simp [webhookEvidence]
    have hnd : ((webhookEvidence event).map Prod.fst).Nodup := by simp [webhookEvidence]
    have htext : text (webhookEvidence event) "provider_payment_id" =
        some event.providerPaymentId := by simp [text, webhookEvidence]
    have htarget : target = .providerPending ∨ target = .succeeded ∨ target = .failedTerminal := by
      rw [← ht]
      cases event.eventType <;> simp [webhookTypeToState]
    rcases htarget with rfl | rfl | rfl
    all_goals
      simp only [Named, withSettledMission, replayed_withMission, webhookEventType]
      rw [replayed_transitioned _ _ _ (by decide) hnone hnd, htext]
      show orStr (some event.providerPaymentId) _ = u.intent.providerPaymentId
      rw [replayed_withIntent, hverified, hid, orStr_self]

end References

-- ════════════════════════════════════════════════════════════════════════
-- Reason codes
-- ════════════════════════════════════════════════════════════════════════

section Reasons

variable {w : View} {u u' : UnitOfWork}

/-- A transition writes the reason code to the row and to its event. -/
lemma reasoned_transitioned {target : PaymentIntentState} {eventType : EventType} {payload : Dict}
    (reasonCode : Option String) (ht : eventType ∈ transitionEvents)
    (hs : Dict.get payload "state" = none) (hnd : (payload.map Prod.fst).Nodup) :
    Reasoned (replayed w (transitioned target eventType payload reasonCode u))
      (transitioned target eventType payload reasonCode u).intent := by
  rw [Reasoned, replayed_transitioned w u reasonCode ht hs hnd]
  unfold missionMove
  split
  · rfl
  · split <;> rfl
  · rfl

lemma reasoned_attempted (h : Reasoned (replayed w u) u.intent) (a b : Bool) :
    Reasoned (replayed w (attempted a b u)) (attempted a b u).intent := by
  rw [Reasoned, replayed_attempted, attempted_intent]
  split
  · rfl
  · exact h

lemma reasoned_uncertain (detail : String) (now : Datetime) (reasonCode : String)
    (timedOut : Bool) :
    Reasoned (replayed w (uncertain detail now reasonCode timedOut u))
      (uncertain detail now reasonCode timedOut u).intent := by
  rw [Reasoned, replayed_uncertain, uncertain_intent]
  rfl

lemma reasoned_settled (h : Reasoned (replayed w u) u.intent) (payment : ProviderPayment)
    (now : Datetime) :
    Reasoned (replayed w (settled payment now u)) (settled payment now u).intent := by
  rw [Reasoned, replayed_settled]
  unfold settled
  dsimp only
  split
  · exact h
  · cases providerStatusToState payment.status <;> rfl

/-- A narrating event without a reason code leaves it as it is. -/
lemma reasoned_reconciled (h : Reasoned (replayed w u) u.intent) {d : Dict}
    (hd : Dict.get d "reason_code" = none) :
    Reasoned (replayed w (noted .paymentReconciled d u)) (noted .paymentReconciled d u).intent := by
  rw [replayed_noted]
  simpa [Reasoned, View.step, View.common, hd] using h

/-- A retry that records the row's own reason code, whatever the view said before. -/
lemma reasoned_retried (e : OutboxEventRow) {code : String} (phase : String)
    (h : u.intent.lastReasonCode = some code) :
    Reasoned (replayed w (retried e code phase u)) (retried e code phase u).intent := by
  rw [retried, replayed_noted, step_retryEvent _ _ _ _ (by simp [lookupRetryPayload]), Reasoned]
  simp [View.common, text, lookupRetryPayload, h]

lemma reasoned_followedUp (now : Datetime) (h : Reasoned (replayed w u) u.intent) :
    Reasoned (replayed w (followedUp now u)) (followedUp now u).intent := by
  rw [followedUp_intent, replayed_followedUp]
  exact h

/-- A create turn keeps the reason code in agreement. -/
theorem Dispatched.reasoned {ctx : TurnContext} {e e' : OutboxEventRow}
    (h : Dispatched ctx u e u' e') (hu : Reasoned (replayed w u) u.intent) :
    Reasoned (replayed w u') u'.intent := by
  cases h with
  | finished => exact hu
  | handedOver => exact hu
  | uncertain => exact reasoned_uncertain _ _ _ _
  | recovered payment v _ _ _ h =>
    have hset := reasoned_settled (reasoned_attempted hu false true) payment ctx.now
    rw [← h.eq] at hset
    refine reasoned_followedUp _ (reasoned_reconciled hset ?_)
    simp [recoveredPayload, get_update_evidence]
  | recoveredRefused => exact reasoned_uncertain _ _ _ _
  | created payment v _ _ _ h =>
    have hset := reasoned_settled (reasoned_attempted hu true false) payment ctx.now
    rw [← h.eq] at hset
    exact reasoned_followedUp _ hset
  | createdRefused => exact reasoned_uncertain _ _ _ _
  | createUncertain => exact reasoned_uncertain _ _ _ _
  | createRetryable reason =>
    have ha : Reasoned (replayed w (transitioned .failedRetryable .paymentFailed
        [("provider", .str u.intent.provider), ("retryable", .bool true)]
        (some ReasonCode.providerTransientFailure.value) (attempted true false u))) _ :=
      reasoned_transitioned _ (by decide) (by simp) (by simp)
    rw [replayed_noted, step_retryEvent _ _ _ _ (by simp [retryPayload])]
    simpa [Reasoned, View.common, retryPayload] using ha
  | createTerminal detail =>
    exact reasoned_transitioned (u := attempted true false u) _ (by decide) (by simp) (by simp)

/-- The reason codes that a reconcile turn on an open intent records without writing them to the
row: a failed lookup, a linked reference that was not found, and a payment it cannot adopt. -/
inductive RecordsOnly (env : Env) (lookup : LookupAnswer) (i : PaymentIntentRow) : String → Prop
  | lookupFailed (error : ProviderError) (h : lookup = .failed error)
    (hk : error.kind ≠ .ambiguity) : RecordsOnly env lookup i error.reasonCode
  | linkedNotFound (h : lookup = .notFound) (ha : i.providerAmbiguityObservedAt = none)
    (hp : i.providerPaymentId ≠ none) :
    RecordsOnly env lookup i ReasonCode.providerPaymentNotFound.value
  | refused (payment : ProviderPayment) (h : lookup = .found payment)
    (ha : i.providerAmbiguityObservedAt = none) (hn : ¬Adoptable env payment i) :
    RecordsOnly env lookup i ReasonCode.providerResponseMismatch.value

/-- Recording the attempt does not decide whether an answer can be adopted. -/
lemma adoptable_attempted {env : Env} {payment : ProviderPayment} (a b : Bool) :
    Adoptable env payment (attempted a b u).intent ↔ Adoptable env payment u.intent := by
  rw [attempted_intent]
  split
  · exact ⟨fun h => ⟨h.valid, h.linkable.paymentId, h.linkable.orderId, h.linkable.receipt,
        h.linkable.transactionId⟩,
      fun h => ⟨h.valid, h.linkable.paymentId, h.linkable.orderId, h.linkable.receipt,
        h.linkable.transactionId⟩⟩
  · rfl

lemma Refused.reason (h : Refused u u') : u'.intent.lastReasonCode = u.intent.lastReasonCode := by
  rcases h with rfl | ⟨i', hi', rfl⟩
  · rfl
  · rw [hi'.columns]

/-- A reconcile turn keeps the reason code in agreement, as long as every code it only records is
the one the row holds. -/
theorem Reconciled.reasoned {ctx : TurnContext} {e e' : OutboxEventRow}
    (h : Reconciled ctx u e u' e') (hc : Committable ctx.env u.intent)
    (hrec : ∀ code, u.intent.state.isTerminal = false →
      RecordsOnly ctx.env ctx.lookup u.intent code → u.intent.lastReasonCode = some code)
    (hu : Reasoned (replayed w u) u.intent) : Reasoned (replayed w u') u'.intent := by
  cases h with
  | finished => exact hu
  | ambiguityObserved error => exact reasoned_retried _ _ rfl
  | lookupFailed error hl hk hs =>
    exact reasoned_retried _ _ (hrec _ hs (.lookupFailed error hl hk))
  | ambiguous payment hl ha =>
    have hrow : (ambiguityKept ctx.now u).intent.lastReasonCode =
        some ReasonCode.providerAmbiguity.value := by
      unfold ambiguityKept
      split <;> rfl
    have hcode : Dict.get (ambiguousPayload u.intent payment) "reason_code" =
        some (.str ReasonCode.providerAmbiguity.value) := by
      cases payment <;> simp [ambiguousPayload, get_update_evidence]
    rw [replayed_noted]
    simp [Reasoned, View.step, View.common, text, hcode, hrow]
  | linkedNotFound hl ha hp hs =>
    exact reasoned_retried _ _ (hrec _ hs (.linkedNotFound hl ha hp))
  | fencedNotFound =>
    refine reasoned_retried _ _ ?_
    rw [noted_intent, fencedKept]
    split <;> rfl
  | noPayment =>
    rw [Reasoned, replayed_noPayment]
    rfl
  | found payment v _ _ _ h =>
    have hset := reasoned_settled (reasoned_attempted hu false true) payment ctx.now
    rw [← h.eq] at hset
    refine reasoned_reconciled hset ?_
    simp [foundPayload, get_update_evidence]
  | refused payment detail v hl ha hs hn h =>
    have hcode := hrec _ hs (.refused payment hl ha fun had => hn ((adoptable_attempted _ _).mpr had))
    refine reasoned_retried _ _ ?_
    rcases h with rfl | ⟨hv, h⟩
    · exact hcode
    · rw [h.reason, attempted, if_neg (not_unstarted_of_refused hc hv hn)]
      exact hcode

/-- A first delivery that is held, observed or applied keeps the reason code in agreement. -/
theorem Delivered.reasoned {db : Db} {event : VerifiedWebhookEvent}
    {applied : Option (Option PaymentIntentState)} (h : Delivered db event u u' applied)
    (hfirst : alreadyDelivered db event = false)
    (horder : u.intent.providerAmbiguityObservedAt = none →
      (u.intent.state = .providerPending ∧ webhookTypeToState event.eventType = .providerPending) ∨
        u.intent.state.canTransition (webhookTypeToState event.eventType) = true) :
    Reasoned (replayed w u') u'.intent := by
  cases h with
  | duplicate hd => simp [hfirst] at hd
  | held =>
    rw [Reasoned, replayed_noted, replayed_withIntent, step_held]
    rfl
  | observed =>
    rw [Reasoned, replayed_noted, replayed_withIntent, step_observed]
    rfl
  | outOfOrder _ ha hs hp =>
    rcases horder ha with ⟨hstate, htarget⟩ | hallowed
    · exact absurd ⟨hstate.trans htarget.symm, hstate⟩ hp
    · revert hs hallowed
      cases u.intent.state <;> cases event.eventType <;>
        simp [webhookTypeToState, isTerminal, canTransition, allowedTransitions]
  | applied target _ _ ht =>
    have hnone : Dict.get (webhookEvidence event) "state" = none := by simp [webhookEvidence]
    have hnd : ((webhookEvidence event).map Prod.fst).Nodup := by simp [webhookEvidence]
    have htarget : target = .providerPending ∨ target = .succeeded ∨ target = .failedTerminal := by
      rw [← ht]
      cases event.eventType <;> simp [webhookTypeToState]
    rcases htarget with rfl | rfl | rfl
    all_goals exact reasoned_transitioned _ (by decide) hnone hnd

end Reasons

end PaymentExecutor

end Pactra
