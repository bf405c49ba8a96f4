import Pactra.AuditLedger.View
import Pactra.PaymentExecutor.Effects.Dispatch
import Pactra.PaymentExecutor.Effects.Reconcile
import Pactra.PaymentExecutor.Effects.Webhook

/-!
# What the audit events of a payment operation say

Each closed form of `Operations.lean` appends audit events. This module computes what replay makes
of them, next to what the operation did to the rows: the events are readable, and on the view of
the mission they act by a few assignments.

## Main results

- `Dispatched.clean`, `Reconciled.clean`, `Delivered.clean` — every appended event is readable
-/

namespace Pactra

namespace PaymentExecutor

open Replay

-- ════════════════════════════════════════════════════════════════════════
-- Payload lookups
-- ════════════════════════════════════════════════════════════════════════

@[simp] lemma get_optEntry (k key : String) (v : Option Json) :
    Dict.get (optEntry k v) key = if k = key then v else none := by
  cases v <;> simp [optEntry]

lemma nodup_evidence (payment : ProviderPayment) :
    ((providerEvidencePayload payment).map Prod.fst).Nodup := by
  have hopt : ∀ (k : String) (v : Option Json), ((optEntry k v).map Prod.fst).Sublist [k] := by
    intro k v
    cases v <;> simp [optEntry]
  have hsub : ((providerEvidencePayload payment).map Prod.fst).Sublist
      (["provider_payment_id"] ++ ["provider_order_id"] ++ ["provider_transaction_id"]
        ++ ["provider_receipt"] ++ ["provider_status"] ++ ["provider_attempts"]) := by
    simp only [providerEvidencePayload, List.map_append]
    exact ((((List.Sublist.refl _).append (hopt _ _)).append (hopt _ _)).append
      (hopt _ _)).append (hopt _ _) |>.append (hopt _ _)
  exact hsub.nodup (by decide)

/-- What a payload with merged-in provider evidence holds at a key. -/
lemma get_update_evidence (d : Dict) (payment : ProviderPayment) (key : String) :
    Dict.get (Dict.update d (providerEvidencePayload payment)) key =
      (Dict.get (providerEvidencePayload payment) key).or (Dict.get d key) :=
  Dict.get_update_of_nodup (nodup_evidence payment)

@[simp] lemma get_evidence_state (payment : ProviderPayment) :
    Dict.get (providerEvidencePayload payment) "state" = none := by
  simp [providerEvidencePayload]

@[simp] lemma get_evidence_reason (payment : ProviderPayment) :
    Dict.get (providerEvidencePayload payment) "reason_code" = none := by
  simp [providerEvidencePayload]

@[simp] lemma get_evidence_id (payment : ProviderPayment) :
    Dict.get (providerEvidencePayload payment) "provider_payment_id" =
      some (.str payment.providerPaymentId) := by
  simp [providerEvidencePayload]

lemma readable_evidence (payment : ProviderPayment) :
    Readable (providerEvidencePayload payment) := by
  have hstr : ∀ (k : String) (v : Option String), takesText k = true →
      Readable (optEntry k (v.map .str)) := by
    intro k v hk
    cases v <;> simp [Readable, optEntry, hk]
  have hint : ∀ (k : String) (v : Option Int), takesNumber k = true →
      Readable (optEntry k (v.map .int)) := by
    intro k v hk
    cases v <;> simp [Readable, optEntry, hk]
  have hid : Readable [("provider_payment_id", .str payment.providerPaymentId)] := by
    simp (disch := decide) [Readable]
  exact ((((hid.append (hstr _ _ (by decide))).append (hstr _ _ (by decide))).append
    (hstr _ _ (by decide))).append (hstr _ _ (by decide))).append
    (hint _ _ (by decide))

lemma readable_transition (intent : PaymentIntentRow) (target : PaymentIntentState)
    {payload : Dict} (reasonCode : Option String) (h : Readable payload) :
    Readable (transitionPayload intent target payload reasonCode) := by
  refine Readable.set (Readable.update ?_ h) (acceptable_ofOptStr (by decide) _)
  simp (disch := decide) [Readable]

section Transition

variable (v : View) (intent : PaymentIntentRow) (target : PaymentIntentState) {payload : Dict}
  (reasonCode : Option String)

/-- What replay reads off a transition event. -/
lemma stated_transition (hs : Dict.get payload "state" = none)
    (hnd : (payload.map Prod.fst).Nodup) :
    (v.common (transitionPayload intent target payload reasonCode)).stated
        (transitionPayload intent target payload reasonCode) =
      v.paid target reasonCode (text payload "provider_payment_id") := by
  have hstate : text (transitionPayload intent target payload reasonCode) "state" =
      some target.value := by
    simp [text, transitionPayload, Dict.get_update_of_nodup hnd, hs]
  have hreason : Dict.get (transitionPayload intent target payload reasonCode) "reason_code" =
      some (.ofOptStr reasonCode) := by
    simp [transitionPayload]
  have htext : text (transitionPayload intent target payload reasonCode) "reason_code" =
      reasonCode := by
    rw [text, hreason]
    cases reasonCode <;> rfl
  have hid : text (transitionPayload intent target payload reasonCode) "provider_payment_id" =
      text payload "provider_payment_id" := by
    simp [text, transitionPayload, Dict.get_update_of_nodup hnd]
  simp [View.stated, View.common, View.paid, hstate, hreason, htext, hid]

end Transition

-- ════════════════════════════════════════════════════════════════════════
-- Replay of a unit of work
-- ════════════════════════════════════════════════════════════════════════

/-- The view after the events of a unit of work. -/
def replayed (v : View) (u : UnitOfWork) : View := u.entries.foldl View.step v

section Replayed

variable (v : View) (u : UnitOfWork)

@[simp] lemma replayed_noted (eventType : EventType) (payload : Dict) :
    replayed v (noted eventType payload u) = (replayed v u).step ⟨eventType, actor, payload⟩ := by
  simp [replayed, noted]

@[simp] lemma replayed_withIntent (f : PaymentIntentRow → PaymentIntentRow) :
    replayed v (withIntent f u) = replayed v u := rfl

@[simp] lemma replayed_withMission (target : MissionState) :
    replayed v (withMission target u) = replayed v u := rfl

@[simp] lemma replayed_queuedEvent (eventType : OutboxEventType) (now : Datetime) :
    replayed v (queuedEvent eventType now u) = replayed v u := rfl

/-- The mission move that replay derives from a transition event. -/
def missionMove (eventType : EventType) (target : PaymentIntentState) (v : View) : View :=
  match eventType with
  | .paymentSucceeded => v.moved .paymentSucceeded
  | .paymentFailed => if target = .failedTerminal then v.moved .paymentFailed else v
  | _ => v

/-- The event types of payment transitions. -/
def transitionEvents : List EventType :=
  [.paymentAttempted, .paymentProviderUncertain, .paymentSucceeded, .paymentFailed]

lemma replayed_transitioned {target : PaymentIntentState} {eventType : EventType} {payload : Dict}
    (reasonCode : Option String) (ht : eventType ∈ transitionEvents)
    (hs : Dict.get payload "state" = none) (hnd : (payload.map Prod.fst).Nodup) :
    replayed v (transitioned target eventType payload reasonCode u) =
      missionMove eventType target
        ((replayed v u).paid target reasonCode (text payload "provider_payment_id")) := by
  rw [transitioned, replayed_noted, replayed_withIntent]
  have hval : (some target.value = some PaymentIntentState.failedTerminal.value) ↔
      target = .failedTerminal := by
    rw [Option.some.injEq, PaymentIntentState.value_injective.eq_iff]
  simp only [transitionEvents, List.mem_cons, List.not_mem_nil, or_false] at ht
  rcases ht with rfl | rfl | rfl | rfl
  all_goals
    simp only [View.step, missionMove, stated_transition _ _ _ _ hs hnd]
  simp only [View.paid, hval]

@[simp] lemma replayed_attempted (a b : Bool) :
    replayed v (attempted a b u) =
      if unstarted u.intent.state then (replayed v u).paid .processing none none
      else replayed v u := by
  unfold attempted
  split
  · rw [replayed_withIntent, replayed_transitioned v u none (by decide) rfl (by
      simp [attemptPayload])]
    simp [missionMove, attemptPayload, text]
  · rfl

@[simp] lemma replayed_uncertain (detail : String) (now : Datetime) (reasonCode : String)
    (timedOut : Bool) :
    replayed v (uncertain detail now reasonCode timedOut u) =
      (replayed v u).paid .providerPending (some (recordedReason reasonCode u.intent)) none := by
  have hnd : ∀ i : PaymentIntentRow, ((uncertainPayload i detail).map Prod.fst).Nodup := by
    intro i
    simp [uncertainPayload]
  have hid : ∀ i : PaymentIntentRow,
      text (uncertainPayload i detail) "provider_payment_id" = none := by
    intro i
    simp [uncertainPayload, text]
  unfold uncertain
  dsimp only
  rw [replayed_queuedEvent, replayed_transitioned _ _ _ (by decide) rfl (hnd _), hid]
  cases timedOut
  · rfl
  · simp [missionMove, View.step, View.paid, View.common, timeoutPayload, text, orStr]
    exact ⟨rfl, rfl, rfl, rfl⟩

lemma text_evidence (d e : Dict) (payment : ProviderPayment)
    (he : ∀ p ∈ e, p.1 ≠ "provider_payment_id") :
    text (Dict.update (Dict.update d (providerEvidencePayload payment)) e)
      "provider_payment_id" = some payment.providerPaymentId := by
  simp [text, Dict.get_update_of_absent he, get_update_evidence]

/-- The view after a provider answer was folded in. -/
lemma replayed_settled (payment : ProviderPayment) (now : Datetime) :
    replayed v (settled payment now u) =
      if u.intent.state = providerStatusToState payment.status ∨ u.intent.state.isTerminal = true
      then replayed v u
      else match providerStatusToState payment.status with
        | .succeeded =>
          ((replayed v u).paid .succeeded none (some payment.providerPaymentId)).moved
            .paymentSucceeded
        | .failedTerminal =>
          ((replayed v u).paid .failedTerminal (some ReasonCode.providerTerminalFailure.value)
            (some payment.providerPaymentId)).moved .paymentFailed
        | _ =>
          (replayed v u).paid .providerPending none (some payment.providerPaymentId) := by
  have hbase : (([("provider", Json.str u.intent.provider)] : Dict).map Prod.fst).Nodup := by simp
  have hnd := Dict.nodup_update (e := providerEvidencePayload payment) hbase
  have hstate : Dict.get (Dict.update [("provider", .str u.intent.provider)]
      (providerEvidencePayload payment)) "state" = none := by
    simp [get_update_evidence]
  have hid : text (Dict.update [("provider", .str u.intent.provider)]
      (providerEvidencePayload payment)) "provider_payment_id" =
      some payment.providerPaymentId := text_evidence _ [] payment (by simp)
  unfold settled
  dsimp only
  split
  · rfl
  cases hst : providerStatusToState payment.status
  case succeeded =>
    dsimp only
    rw [replayed_withMission, replayed_transitioned _ _ _ (by decide)
      (by simp [hstate]) (Dict.nodup_update hnd), text_evidence _ _ _ (by simp)]
    rfl
  case failedTerminal =>
    dsimp only
    rw [replayed_withMission, replayed_transitioned _ _ _ (by decide) hstate hnd, hid]
    rfl
  all_goals
    dsimp only
    rw [replayed_transitioned _ _ _ (by decide) (by simp [hstate]) (Dict.nodup_update hnd),
      text_evidence _ _ _ (by simp)]
    rfl

end Replayed

-- ════════════════════════════════════════════════════════════════════════
-- Readable entries
-- ════════════════════════════════════════════════════════════════════════

/-- Every audit event of a unit of work is readable. -/
def Clean (u : UnitOfWork) : Prop := ∀ e ∈ u.entries, Readable e.payload

namespace Clean

variable {u : UnitOfWork} (h : Clean u)

include h

lemma noted (eventType : EventType) {payload : Dict} (hp : Readable payload) :
    Clean (noted eventType payload u) := by
  intro e he
  rcases List.mem_append.mp he with he | he
  · exact h e he
  · rw [List.mem_singleton.mp he]
    exact hp

lemma withIntent (f : PaymentIntentRow → PaymentIntentRow) : Clean (withIntent f u) := h

lemma transitioned (target : PaymentIntentState) (eventType : EventType) {payload : Dict}
    (reasonCode : Option String) (hp : Readable payload) :
    Clean (transitioned target eventType payload reasonCode u) :=
  (h.withIntent _).noted eventType (readable_transition _ _ _ hp)

lemma attempted (a b : Bool) : Clean (attempted a b u) := by
  unfold PaymentExecutor.attempted
  split
  · refine Clean.transitioned h _ _ _ ?_
    simp (disch := decide) [Readable, attemptPayload]
  · exact h

lemma uncertain (detail : String) (now : Datetime) (reasonCode : String) (timedOut : Bool) :
    Clean (uncertain detail now reasonCode timedOut u) := by
  unfold PaymentExecutor.uncertain
  refine Clean.transitioned ?_ _ _ _ ?_
  · split
    · refine Clean.noted h _ ?_
      simp (disch := decide) [Readable, timeoutPayload]
    · exact h
  · simp (disch := decide) [Readable, uncertainPayload]
    split <;> simp (disch := decide)

lemma settled (payment : ProviderPayment) (now : Datetime) : Clean (settled payment now u) := by
  have hbase : Readable [("provider", .str u.intent.provider)] := by
    simp (disch := decide) [Readable]
  have hevidence := hbase.update (readable_evidence payment)
  unfold PaymentExecutor.settled
  dsimp only
  split
  · exact h
  split
  · refine (h.withIntent _).transitioned _ _ _ (hevidence.update ?_)
    simp (disch := decide) [Readable]
  · exact (h.withIntent _).transitioned _ _ _ hevidence
  · refine (h.withIntent _).transitioned _ _ _ (hevidence.update ?_)
    simp (disch := decide) [Readable]

end Clean

/-- Every audit event of a create turn is readable. -/
theorem Dispatched.clean {ctx : TurnContext} {u u' : UnitOfWork} {e e' : OutboxEventRow}
    (h : Dispatched ctx u e u' e') (hu : Clean u) : Clean u' := by
  have hrefused : ∀ {v v'}, Refused v v' → Clean v → Clean v' := by
    rintro v v' (rfl | ⟨_, -, rfl⟩) hv
    · exact hv
    · exact hv
  have hfollow : ∀ {v}, Clean v → Clean (followedUp ctx.now v) := by
    intro v hv
    unfold followedUp
    split
    · exact hv
    · exact hv
  cases h with
  | finished => exact hu
  | handedOver => exact hu
  | uncertain => exact hu.uncertain _ _ _ _
  | recovered payment u₁ _ _ _ h =>
    have hset : Clean u₁ := h.eq ▸ (hu.attempted _ _).settled _ _
    refine hfollow (hset.noted _ ?_)
    refine Readable.update (Readable.update ?_ (readable_evidence payment)) ?_
    all_goals simp (disch := decide) [Readable]
  | recoveredRefused detail u₁ _ h =>
    refine Clean.uncertain ?_ _ _ _ _
    rcases h with rfl | h
    · exact hu
    · exact hrefused h (hu.attempted _ _)
  | created payment u₁ _ _ _ h => exact hfollow (h.eq ▸ (hu.attempted _ _).settled _ _)
  | createdRefused detail u₁ _ h => exact (hrefused h (hu.attempted _ _)).uncertain _ _ _ _
  | createUncertain => exact (hu.attempted _ _).uncertain _ _ _ _
  | createRetryable =>
    refine ((hu.attempted _ _).transitioned _ _ _ ?_).noted _ ?_
    all_goals simp (disch := decide) [Readable, retryPayload]
  | createTerminal =>
    refine (hu.attempted _ _).transitioned _ _ _ ?_
    simp (disch := decide) [Readable]

/-- Every audit event of a reconcile turn is readable. -/
theorem Reconciled.clean {ctx : TurnContext} {u u' : UnitOfWork} {e e' : OutboxEventRow}
    (h : Reconciled ctx u e u' e') (hu : Clean u) : Clean u' := by
  have hretried : ∀ {v} (code phase : String), Clean v → Clean (retried e code phase v) := by
    intro v code phase hv
    refine hv.noted _ ?_
    simp (disch := decide) [Readable, lookupRetryPayload]
  cases h with
  | finished => exact hu
  | ambiguityObserved =>
    refine hretried _ _ ((hu.withIntent _).transitioned _ _ _ ?_)
    simp (disch := decide) [Readable]
  | lookupFailed => exact hretried _ _ hu
  | ambiguous payment =>
    refine Clean.noted ?_ _ (Readable.update (Readable.update ?_ ?_) ?_)
    · unfold ambiguityKept
      split
      · refine hu.transitioned _ _ _ ?_
        simp (disch := decide) [Readable]
      · exact hu
    · simp (disch := decide) [Readable]
    · split
      · simp [Readable]
      · exact readable_evidence _
    · simp (disch := decide) [Readable]
  | linkedNotFound =>
    refine hretried _ _ (hu.noted _ ?_)
    simp (disch := decide) [Readable, linkedNotFoundPayload]
  | fencedNotFound =>
    refine hretried _ _ (Clean.noted ?_ _ ?_)
    · unfold fencedKept
      split
      · refine hu.transitioned _ _ _ ?_
        simp (disch := decide) [Readable]
      · exact hu
    · simp (disch := decide) [Readable, fencedNotFoundPayload]
  | noPayment =>
    refine Clean.noted (u := queuedEvent _ _ (withIntent _ (noted _ _ u))) (hu.noted _ ?_) _ ?_
    · simp (disch := decide) [Readable]
    · simp (disch := decide) [Readable]
  | found payment u₁ _ _ _ h =>
    have hset : Clean u₁ := h.eq ▸ (hu.attempted _ _).settled _ _
    refine hset.noted _ (Readable.update (Readable.update ?_ (readable_evidence payment)) ?_)
    all_goals simp (disch := decide) [Readable]
  | refused _ _ u₁ _ _ _ _ h =>
    refine hretried _ _ ?_
    rcases h with rfl | ⟨-, rfl | ⟨_, -, rfl⟩⟩
    · exact hu
    · exact hu.attempted _ _
    · exact hu.attempted _ _

/-- Every audit event of a webhook delivery is readable. -/
theorem Delivered.clean {db : Db} {event : VerifiedWebhookEvent} {u u' : UnitOfWork}
    {applied : Option (Option PaymentIntentState)} (h : Delivered db event u u' applied)
    (hu : Clean u) : Clean u' := by
  have hverified : Clean (noted .webhookVerified (verifiedPayload u.intent event) u) := by
    refine hu.noted _ ?_
    simp (disch := decide) [Readable, verifiedPayload]
  have hevidence : Readable (webhookEvidence event) := by
    simp (disch := decide) [Readable, webhookEvidence]
  cases h with
  | duplicate =>
    refine hu.noted _ ?_
    simp (disch := decide) [Readable, duplicatePayload]
  | held =>
    refine (hverified.withIntent _).noted _ ?_
    simp (disch := decide) [Readable, heldPayload]
  | observed =>
    refine (hverified.withIntent _).noted _ (Readable.update ?_ (hevidence.append ?_))
    all_goals simp (disch := decide) [Readable]
  | outOfOrder =>
    refine hverified.noted _ ?_
    simp (disch := decide) [Readable, outOfOrderPayload]
  | applied target =>
    have hmoved : Clean (transitioned target (webhookEventType target) (webhookEvidence event)
        (attemptReason event) (withIntent (storeProviderEvidence event target)
          (noted .webhookVerified (verifiedPayload u.intent event) u))) :=
      (hverified.withIntent _).transitioned _ _ _ hevidence
    unfold withSettledMission
    split
    · exact hmoved
    · exact hmoved
    · exact hmoved

end PaymentExecutor

end Pactra
