import Pactra.PaymentExecutor.Effects.Audit

/-!
# Failures name their state

Replay moves the mission on a failure only when the payment state it has reconstructed by then is
terminal. Every failure event of the executor names the state it moved the payment to, so what
replay makes of the mission and of the authorization does not depend on what it had reconstructed
about the payment before.

## Main results

- `Dispatched.declared`, `Reconciled.declared`, `Delivered.declared` — every failure event of a
  handler names a state
- `SameAuthority.replayed` — the mission and the authorization of a view do not depend on its payment
-/

namespace Pactra

namespace PaymentExecutor

open Replay

-- ════════════════════════════════════════════════════════════════════════
-- Views
-- ════════════════════════════════════════════════════════════════════════

/-- Two views agree on the mission and on the authorization. -/
structure SameAuthority (v v' : View) : Prop where
  mission : v.missionState = v'.missionState
  authorization : v.authorizationStatus = v'.authorizationStatus

/-- A failure event names the state of the payment. -/
def Declares (e : AuditEntry) : Prop :=
  e.eventType = .paymentFailed → ∃ state, text e.payload "state" = some state

namespace SameAuthority

variable {v v' : View}

lemma moved (h : SameAuthority v v') (target : MissionState) :
    SameAuthority (v.moved target) (v'.moved target) := by
  refine ⟨?_, h.authorization⟩
  simp only [View.moved, h.mission]

lemma narrated (h : SameAuthority v v') (d : Dict) :
    SameAuthority ((v.common d).stated d) ((v'.common d).stated d) := ⟨h.mission, h.authorization⟩

/-- One event keeps two views in agreement, whatever they say about the payment. -/
lemma step (h : SameAuthority v v') {e : AuditEntry} (he : Declares e) :
    SameAuthority (v.step e) (v'.step e) := by
  obtain ⟨eventType, a, d⟩ := e
  have hstatus := fun status => (⟨h.mission, rfl⟩ :
    SameAuthority (v.authorized status) (v'.authorized status))
  cases eventType
  case paymentFailed =>
    obtain ⟨state, hstate⟩ := he rfl
    have hsame : ((v.common d).stated d).paymentState = ((v'.common d).stated d).paymentState := by
      simp [View.stated, hstate]
    simp only [View.step, hsame]
    split
    · exact (h.narrated d).moved _
    · exact h.narrated d
  case paymentQueued | paymentSucceeded => exact (h.narrated d).moved _
  case authorizationActivated => exact (hstatus _).moved _
  case authorizationReplayDetected =>
    simp only [View.step, h.authorization]
    exact hstatus _
  case authorizationCreated | authorizationConsumed | authorizationExpired | authorizationRevoked =>
    exact hstatus _
  case missionCreated | intentParsed | discoveryStarted | offersReceived | offersNormalized
      | offersRanked | policyDecision | approvalRequested | missionDenied =>
    exact h.moved _
  all_goals exact ⟨h.mission, h.authorization⟩

/-- Neither does a whole run of events tell them apart. -/
theorem replayed (h : SameAuthority v v') {entries : List AuditEntry}
    (hentries : ∀ e ∈ entries, Declares e) :
    SameAuthority (entries.foldl View.step v) (entries.foldl View.step v') := by
  induction entries generalizing v v' with
  | nil => exact h
  | cons e entries ih =>
    exact ih (h.step (hentries e (by simp))) fun e' he' => hentries e' (by simp [he'])

end SameAuthority

-- ════════════════════════════════════════════════════════════════════════
-- Handlers
-- ════════════════════════════════════════════════════════════════════════

/-- Every failure event of a unit of work names a state. -/
def Declared (u : UnitOfWork) : Prop := ∀ e ∈ u.entries, Declares e

namespace Declared

variable {u : UnitOfWork} (h : Declared u)

include h

lemma withIntent (f : PaymentIntentRow → PaymentIntentRow) : Declared (withIntent f u) := h

lemma queuedEvent (eventType : OutboxEventType) (now : Datetime) :
    Declared (queuedEvent eventType now u) := h

lemma withMission (target : MissionState) : Declared (withMission target u) := h

lemma noted {eventType : EventType} (payload : Dict) (ht : eventType ≠ .paymentFailed) :
    Declared (noted eventType payload u) := by
  intro e he
  rcases List.mem_append.mp he with he | he
  · exact h e he
  · rw [List.mem_singleton.mp he]
    exact fun hfailed => absurd hfailed ht

/-- A transition names the state it moves to. -/
lemma transitioned (target : PaymentIntentState) (eventType : EventType) {payload : Dict}
    (reasonCode : Option String) (hs : Dict.get payload "state" = none)
    (hnd : (payload.map Prod.fst).Nodup) :
    Declared (transitioned target eventType payload reasonCode u) := by
  intro e he
  rcases List.mem_append.mp he with he | he
  · exact h e he
  · rw [List.mem_singleton.mp he]
    refine fun _ => ⟨target.value, ?_⟩
    simp [text, transitionPayload, Dict.get_update_of_nodup hnd, hs]

lemma attempted (a b : Bool) : Declared (attempted a b u) := by
  unfold PaymentExecutor.attempted
  split
  · exact h.transitioned _ _ _ (by simp [attemptPayload]) (by simp [attemptPayload])
  · exact h

lemma uncertain (detail : String) (now : Datetime) (reasonCode : String) (timedOut : Bool) :
    Declared (uncertain detail now reasonCode timedOut u) := by
  unfold PaymentExecutor.uncertain
  refine Declared.transitioned ?_ _ _ _ (by simp [uncertainPayload]) (by simp [uncertainPayload])
  split
  · exact Declared.noted h _ (by decide)
  · exact h

lemma settled (payment : ProviderPayment) (now : Datetime) :
    Declared (settled payment now u) := by
  have hnd : ((Dict.update [("provider", Json.str u.intent.provider)]
      (providerEvidencePayload payment)).map Prod.fst).Nodup := Dict.nodup_update (by simp)
  have hstate : Dict.get (Dict.update [("provider", .str u.intent.provider)]
      (providerEvidencePayload payment)) "state" = none := by simp [get_update_evidence]
  unfold PaymentExecutor.settled
  dsimp only
  split
  · exact h
  split
  · exact (h.withIntent _).transitioned _ _ _ (by simp [hstate]) (Dict.nodup_update hnd)
  · exact (h.withIntent _).transitioned _ _ _ hstate hnd
  · exact (h.withIntent _).transitioned _ _ _ (by simp [hstate]) (Dict.nodup_update hnd)

lemma refused {u' : UnitOfWork} (hr : Refused u u') : Declared u' := by
  rcases hr with rfl | ⟨_, -, rfl⟩
  · exact h
  · exact h

lemma followedUp (now : Datetime) : Declared (followedUp now u) := by
  unfold PaymentExecutor.followedUp
  split
  · exact h
  · exact h

lemma retried (e : OutboxEventRow) (code phase : String) : Declared (retried e code phase u) := by
  refine h.noted _ ?_
  unfold retryEvent
  split <;> decide

end Declared

/-- Every failure event of a create turn names a state. -/
theorem Dispatched.declared {ctx : TurnContext} {u u' : UnitOfWork} {e e' : OutboxEventRow}
    (h : Dispatched ctx u e u' e') (hu : Declared u) : Declared u' := by
  cases h with
  | finished => exact hu
  | handedOver => exact hu
  | uncertain => exact hu.uncertain _ _ _ _
  | recovered payment u₁ _ _ _ h =>
    have hset : Declared u₁ := h.eq ▸ (hu.attempted _ _).settled _ _
    exact (hset.noted _ (by decide)).followedUp _
  | recoveredRefused detail u₁ _ h =>
    refine Declared.uncertain ?_ _ _ _ _
    rcases h with rfl | h
    · exact hu
    · exact (hu.attempted _ _).refused h
  | created payment u₁ _ _ _ h =>
    exact Declared.followedUp (h.eq ▸ (hu.attempted _ _).settled _ _) _
  | createdRefused detail u₁ _ h => exact ((hu.attempted _ _).refused h).uncertain _ _ _ _
  | createUncertain => exact (hu.attempted _ _).uncertain _ _ _ _
  | createRetryable =>
    refine ((hu.attempted _ _).transitioned _ _ _ (by simp) (by simp)).noted _ ?_
    unfold retryEvent
    split <;> decide
  | createTerminal => exact (hu.attempted _ _).transitioned _ _ _ (by simp) (by simp)

/-- Every failure event of a reconcile turn names a state. -/
theorem Reconciled.declared {ctx : TurnContext} {u u' : UnitOfWork} {e e' : OutboxEventRow}
    (h : Reconciled ctx u e u' e') (hu : Declared u) : Declared u' := by
  cases h with
  | finished => exact hu
  | ambiguityObserved =>
    exact ((hu.withIntent _).transitioned _ _ _ (by simp) (by simp)).retried _ _ _
  | lookupFailed => exact hu.retried _ _ _
  | ambiguous payment =>
    refine Declared.noted ?_ _ (by decide)
    unfold ambiguityKept
    split
    · exact hu.transitioned _ _ _ (by simp) (by simp)
    · exact hu
  | linkedNotFound => exact (hu.noted _ (by decide)).retried _ _ _
  | fencedNotFound =>
    refine (Declared.noted ?_ _ (by decide)).retried _ _ _
    unfold fencedKept
    split
    · exact hu.transitioned _ _ _ (by simp) (by simp)
    · exact hu
  | noPayment =>
    exact Declared.noted (u := queuedEvent _ _ (withIntent _ (noted _ _ u)))
      (hu.noted _ (by decide)) _ (by decide)
  | found payment u₁ _ _ _ h =>
    have hset : Declared u₁ := h.eq ▸ (hu.attempted _ _).settled _ _
    exact hset.noted _ (by decide)
  | refused _ _ u₁ _ _ _ _ h =>
    refine Declared.retried ?_ _ _ _
    rcases h with rfl | ⟨-, h⟩
    · exact hu
    · exact (hu.attempted _ _).refused h

/-- Every failure event of a webhook delivery names a state. -/
theorem Delivered.declared {db : Db} {event : VerifiedWebhookEvent} {u u' : UnitOfWork}
    {applied : Option (Option PaymentIntentState)} (h : Delivered db event u u' applied)
    (hu : Declared u) : Declared u' := by
  have hverified : Declared (noted .webhookVerified (verifiedPayload u.intent event) u) :=
    hu.noted _ (by decide)
  cases h with
  | duplicate => exact hu.noted _ (by decide)
  | held => exact (hverified.withIntent _).noted _ (by decide)
  | observed => exact (hverified.withIntent _).noted _ (by decide)
  | outOfOrder => exact hverified.noted _ (by decide)
  | applied target =>
    have hmoved : Declared (transitioned target (webhookEventType target) (webhookEvidence event)
        (attemptReason event) (withIntent (storeProviderEvidence event target)
          (noted .webhookVerified (verifiedPayload u.intent event) u))) :=
      (hverified.withIntent _).transitioned _ _ _ (by simp [webhookEvidence])
        (by simp [webhookEvidence])
    unfold withSettledMission
    split
    · exact hmoved
    · exact hmoved
    · exact hmoved

end PaymentExecutor

end Pactra
