import Pactra.PaymentExecutor.Effects.Operations

/-!
# What a create turn does

## Main results

- `dispatchCreate_ok`, `dispatchCreateFenced_ok` — every create turn that ended is `Dispatched`
-/

namespace Pactra

namespace PaymentExecutor

open PaymentIntentState

/-- The narration of a payment that was found before a create. -/
def recoveredPayload (payment : ProviderPayment) (intent : PaymentIntentRow) : Dict :=
  Dict.update (Dict.update
    [("payment_intent_id", .str intent.id.str), ("provider", .str intent.provider)]
    (providerEvidencePayload payment))
    [("state", .str intent.state.value), ("recovered_before_create", .bool true),
     ("provider_create_fenced", .bool intent.providerCreateFencedAt.isSome)]

/-- A settled unit of work, with a reconcile event when the payment is still open. -/
def followedUp (now : Datetime) (u : UnitOfWork) : UnitOfWork :=
  if u.intent.state = .providerPending then queuedEvent .paymentReconcileRequested now u else u

/-- The payload of `_audit_retry`. -/
def retryPayload (intent : PaymentIntentRow) (event : OutboxEventRow) : Dict :=
  [("payment_intent_id", .str intent.id.str), ("outbox_event_id", .str event.id.str),
   ("attempts", .int event.attempts), ("max_attempts", .int event.maxAttempts),
   ("available_at", .str event.availableAt.isoformat)]

/-- How a create turn can end: what it does to the unit of work and to the outbox event. -/
inductive Dispatched (ctx : TurnContext) (u : UnitOfWork) (e : OutboxEventRow) :
    UnitOfWork → OutboxEventRow → Prop
  | finished (hs : u.intent.state.isTerminal = true) :
    Dispatched ctx u e u (completed ctx.now e)
  | handedOver (hs : u.intent.state = .providerPending) :
    Dispatched ctx u e (queuedEvent .paymentReconcileRequested ctx.now u) (completed ctx.now e)
  | uncertain (detail reasonCode : String) (timedOut : Bool)
    (hs : maybeUncertain u.intent.state) :
    Dispatched ctx u e (uncertain detail ctx.now reasonCode timedOut u) (completed ctx.now e)
  | recovered (payment : ProviderPayment) (u' : UnitOfWork) (hl : ctx.lookup = .found payment)
    (ha : u.intent.providerAmbiguityObservedAt = none)
    (hv : Valid ctx.env payment u.intent true)
    (h : Settles ctx.env ctx.db payment ctx.now (attempted false true u) u') :
    Dispatched ctx u e
      (followedUp ctx.now (noted .paymentReconciled (recoveredPayload payment u'.intent) u'))
      (completed ctx.now e)
  | recoveredRefused (detail : String) (u' : UnitOfWork)
    (ha : u.intent.providerAmbiguityObservedAt = none)
    (h : u' = u ∨ Refused (attempted false true u) u') (hs : maybeUncertain u'.intent.state) :
    Dispatched ctx u e
      (uncertain detail ctx.now ReasonCode.providerResponseMismatch.value false u')
      (completed ctx.now e)
  | created (payment : ProviderPayment) (u' : UnitOfWork) (hc : ctx.create = .payment payment)
    (hs : unstarted u.intent.state)
    (hv : Valid ctx.env payment (attempted true false u).intent true)
    (h : Settles ctx.env ctx.db payment ctx.now (attempted true false u) u') :
    Dispatched ctx u e (followedUp ctx.now u') (completed ctx.now e)
  | createdRefused (detail : String) (u' : UnitOfWork) (hs : unstarted u.intent.state)
    (h : Refused (attempted true false u) u') :
    Dispatched ctx u e
      (uncertain detail ctx.now ReasonCode.providerResponseMismatch.value false u')
      (completed ctx.now e)
  | createUncertain (detail reasonCode : String) (timedOut : Bool)
    (hs : unstarted u.intent.state) :
    Dispatched ctx u e (uncertain detail ctx.now reasonCode timedOut (attempted true false u))
      (completed ctx.now e)
  | createRetryable (reason : String) (hs : unstarted u.intent.state)
    (hi : ctx.idempotent = true) :
    Dispatched ctx u e
      (noted (retryEvent e) (retryPayload u.intent (rescheduled reason ctx.now e))
        (transitioned .failedRetryable .paymentFailed
          [("provider", .str u.intent.provider), ("retryable", .bool true)]
          (some ReasonCode.providerTransientFailure.value) (attempted true false u)))
      (rescheduled reason ctx.now e)
  | createTerminal (detail : String) (hs : unstarted u.intent.state) :
    Dispatched ctx u e
      (withMission .paymentFailed (transitioned .failedTerminal .paymentFailed
        [("provider", .str u.intent.provider), ("retryable", .bool false),
         ("detail", .str detail)]
        (some ReasonCode.providerTerminalFailure.value) (attempted true false u)))
      (completed ctx.now e)

lemma finishUncertain_ok {detail : String} {now : Datetime} {reasonCode : String}
    {timedOut : Bool} {t t' : Turn} {r : DispatchResult}
    (h : (finishUncertain detail now reasonCode timedOut).run t = (.ok r, t')) :
    maybeUncertain t.work.intent.state ∧
      t'.work = uncertain detail now reasonCode timedOut t.work ∧
      t'.event = completed now t.event := by
  unfold finishUncertain at h
  obtain ⟨⟨⟩, t₁, hmark, h⟩ := Tx.bind_ok.mp h
  obtain ⟨h₁, rfl⟩ := Prod.mk.inj hmark
  obtain ⟨hs, hu⟩ := markUncertain_ok (Prod.ext h₁ rfl)
  simp [Tx.run_bind] at h
  obtain ⟨-, rfl⟩ := h
  exact ⟨hs, hu, rfl⟩

/-- A retryable intent that was put back in the queue in memory. -/
def requeued (u : UnitOfWork) : UnitOfWork := withIntent (fun i => { i with state := .queued }) u

lemma attempted_requeued {u : UnitOfWork} (hs : u.intent.state = .failedRetryable) (a b : Bool) :
    attempted a b (requeued u) = attempted a b u := by
  have h₁ : unstarted (requeued u).intent.state := .inl rfl
  have h₂ : unstarted u.intent.state := .inr hs
  rw [attempted, attempted, if_pos h₁, if_pos h₂]
  rfl

lemma uncertain_requeued (detail : String) (now : Datetime) (reasonCode : String)
    (timedOut : Bool) (u : UnitOfWork) :
    uncertain detail now reasonCode timedOut (requeued u) =
      uncertain detail now reasonCode timedOut u := by
  by_cases ha : ambiguous reasonCode u.intent
  · have ha' : ambiguous reasonCode (requeued u).intent := ha
    cases timedOut <;>
      simp only [uncertain, markedAmbiguous, recordedReason, if_pos ha, if_pos ha'] <;> rfl
  · have ha' : ¬ambiguous reasonCode (requeued u).intent := ha
    cases timedOut <;>
      simp only [uncertain, markedAmbiguous, recordedReason, if_neg ha, if_neg ha'] <;> rfl

/-- What a create turn does after it put a retryable intent back in the queue, it does from the
row as it was. -/
lemma Dispatched.of_requeued {ctx : TurnContext} {u u' : UnitOfWork} {e e' : OutboxEventRow}
    (hs : u.intent.state = .failedRetryable) (h : Dispatched ctx (requeued u) e u' e') :
    Dispatched ctx u e u' e' := by
  have hun : unstarted u.intent.state := .inr hs
  have hmay : maybeUncertain u.intent.state := .inr (by rw [hs]; rfl)
  cases h with
  | finished hq => cases hq
  | handedOver hq => cases hq
  | uncertain detail reasonCode timedOut _ =>
    rw [uncertain_requeued]
    exact .uncertain detail reasonCode timedOut hmay
  | recovered payment u' hl ha hv h =>
    rw [attempted_requeued hs] at h
    exact .recovered payment u' hl ha hv h
  | recoveredRefused detail u' ha h hq =>
    rcases h with rfl | h
    · rw [uncertain_requeued]
      exact .uncertain detail _ false hmay
    · rw [attempted_requeued hs] at h
      exact .recoveredRefused detail u' ha (.inr h) hq
  | created payment u' hc _ hv h =>
    rw [attempted_requeued hs] at h hv
    exact .created payment u' hc hun hv h
  | createdRefused detail u' _ h =>
    rw [attempted_requeued hs] at h
    exact .createdRefused detail u' hun h
  | createUncertain detail reasonCode timedOut _ =>
    rw [attempted_requeued hs]
    exact .createUncertain detail reasonCode timedOut hun
  | createRetryable reason _ hi =>
    rw [attempted_requeued hs]
    exact .createRetryable reason hun hi
  | createTerminal detail _ =>
    rw [attempted_requeued hs]
    exact .createTerminal detail hun

lemma finishExistingBeforeCreate_ok {ctx : TurnContext} {existing : ProviderPayment}
    {t t' : Turn} {r : DispatchResult} (hl : ctx.lookup = .found existing)
    (h : (finishExistingBeforeCreate ctx existing).run t = (.ok r, t')) :
    Dispatched ctx t.work t.event t'.work t'.event := by
  unfold finishExistingBeforeCreate at h
  rw [Tx.run_bind_of_ok (Tx.run_get t)] at h
  by_cases ha : t.work.intent.providerAmbiguityObservedAt ≠ none
  · rw [if_pos ha] at h
    obtain ⟨hs, hw, he⟩ := finishUncertain_ok h
    rw [hw, he]
    exact .uncertain _ _ _ hs
  · rw [if_neg ha] at h
    have ha := not_not.mp ha
    have hattempt := Tx.run_bind_of_ok (f := fun _ =>
      applyProviderPayment ctx.env ctx.db existing ctx.now)
      (run_recordPaymentAttempt false true t.work)
    rcases exceptMismatch_ok h with h | ⟨error, t₁, hk, hx, hh⟩
    · obtain ⟨state, t₁, hwork, h⟩ := Tx.bind_ok.mp h
      obtain ⟨u₁, hrun, rfl⟩ := onWork_eq hwork
      obtain ⟨hv, hset, rfl⟩ := recover_ok hattempt hrun
      have hdone : Dispatched ctx t.work t.event _ _ := .recovered existing u₁ hl ha hv hset
      by_cases hp : u₁.intent.state = .providerPending
      · simp [Tx.run_bind, hp] at h
        obtain ⟨-, rfl⟩ := h
        simpa [followedUp, hp, recoveredPayload] using hdone
      · simp [Tx.run_bind, hp] at h
        obtain ⟨-, rfl⟩ := h
        simpa [followedUp, hp, recoveredPayload] using hdone
    · obtain ⟨hs, hw, he⟩ := finishUncertain_ok hh
      rcases Tx.bind_error.mp hx with hx | ⟨state, t₂, -, hx⟩
      · obtain ⟨u₁, hwork, rfl⟩ := onWork_eq hx
        have hrefused := (recover_error hattempt hwork).1.imp_right And.right
        rw [hw, he, ProviderError.reasonCode, hk]
        exact .recoveredRefused error.detail u₁ ha hrefused hs
      · split at hx <;> simp [Tx.run_bind] at hx

lemma recoverFencedCreate_ok {ctx : TurnContext} {t t' : Turn} {r : DispatchResult}
    (h : (recoverFencedCreate ctx).run t = (.ok r, t')) :
    Dispatched ctx t.work t.event t'.work t'.event := by
  unfold recoverFencedCreate at h
  obtain ⟨⟨⟩, t₁, hverify, hrest⟩ := Tx.bind_ok.mp h
  obtain ⟨rfl, -⟩ := verifyIntentAuthorizationBeforeProviderIo_ok hverify
  split at hrest
  · obtain ⟨hs, hw, he⟩ := finishUncertain_ok hrest
    rw [hw, he]
    exact .uncertain _ _ _ hs
  · simp at hrest
  · next hl => exact finishExistingBeforeCreate_ok hl hrest
  · obtain ⟨hs, hw, he⟩ := finishUncertain_ok hrest
    rw [hw, he]
    exact .uncertain _ _ _ hs

lemma attempted_state {u : UnitOfWork} (hs : unstarted u.intent.state) (a b : Bool) :
    (attempted a b u).intent.state = .processing := by
  rw [attempted, if_pos hs]
  rfl

lemma finishCreated_ok {ctx : TurnContext} {payment : ProviderPayment} {t t' : Turn}
    {r : DispatchResult} {u : UnitOfWork} (hc : ctx.create = .payment payment)
    (hs : unstarted u.intent.state) (hu : t.work = attempted true false u)
    (h : (finishCreated ctx payment).run t = (.ok r, t')) :
    Dispatched ctx u t.event t'.work t'.event := by
  unfold finishCreated at h
  rcases exceptMismatch_ok h with h | ⟨error, t₁, hk, hx, hh⟩
  · obtain ⟨state, t₁, hwork, h⟩ := Tx.bind_ok.mp h
    obtain ⟨u₁, hrun, rfl⟩ := onWork_eq hwork
    obtain ⟨hv, hset, rfl⟩ := recover_ok rfl hrun
    rw [hu] at hv hset
    have hdone : Dispatched ctx u t.event _ _ := .created payment u₁ hc hs hv hset
    by_cases hp : u₁.intent.state = .providerPending
    all_goals
      simp [Tx.run_bind, hp] at h
      obtain ⟨-, rfl⟩ := h
      simpa [followedUp, hp] using hdone
  · obtain ⟨-, hw, he⟩ := finishUncertain_ok hh
    rw [hw, he, ProviderError.reasonCode, hk]
    rcases Tx.bind_error.mp hx with hx | ⟨state, t₂, -, hx⟩
    · obtain ⟨u₁, hrun, rfl⟩ := onWork_eq hx
      refine .createdRefused error.detail u₁ hs ?_
      rcases (recover_error rfl hrun).1 with rfl | ⟨-, hrefused⟩
      · exact .inl hu
      · exact hu ▸ hrefused
    · split at hx <;> simp [Tx.run_bind] at hx

lemma finishCreateError_ok {ctx : TurnContext} {error : ProviderError} {t t' : Turn}
    {r : DispatchResult} {u : UnitOfWork} (hs : unstarted u.intent.state)
    (hu : t.work = attempted true false u)
    (h : (finishCreateError ctx error).run t = (.ok r, t')) :
    Dispatched ctx u t.event t'.work t'.event := by
  have hstate := attempted_state hs true false
  have hprov : (attempted true false u).intent.provider = u.intent.provider := by
    rw [attempted, if_pos hs]
    rfl
  have hid : (attempted true false u).intent.id = u.intent.id := by
    rw [attempted, if_pos hs]
    rfl
  unfold finishCreateError at h
  split at h
  · obtain ⟨-, hw, he⟩ := finishUncertain_ok h
    rw [hw, he, hu]
    exact .createUncertain _ _ _ hs
  split at h
  · split at h
    · obtain ⟨-, hw, he⟩ := finishUncertain_ok h
      rw [hw, he, hu]
      exact .createUncertain _ _ _ hs
    · next hidem =>
      have hdone : Dispatched ctx u t.event _ _ :=
        .createRetryable error.detail hs (by simpa using hidem)
      simp [Tx.run_bind, run_applyPaymentTransition, hu, hstate, canTransition,
        allowedTransitions, auditRetry, hprov] at h
      obtain ⟨-, rfl⟩ := h
      rw [retryPayload, ← hid] at hdone
      exact hdone
  · have hdone : Dispatched ctx u t.event _ _ := .createTerminal error.detail hs
    simp [Tx.run_bind, run_applyPaymentTransition, hu, hstate, canTransition,
      allowedTransitions, hprov] at h
    obtain ⟨-, rfl⟩ := h
    exact hdone

lemma createPayment_ok {ctx : TurnContext} {t t' : Turn} {r : DispatchResult}
    (hs : unstarted t.work.intent.state) (h : (createPayment ctx).run t = (.ok r, t')) :
    Dispatched ctx t.work t.event t'.work t'.event := by
  unfold createPayment at h
  rw [Tx.run_bind_of_ok (Tx.run_modify _ _)] at h
  split at h
  · simp at h
  · split at h
    · obtain ⟨⟨⟩, t₁, hattempt, hrest⟩ := Tx.bind_ok.mp h
      obtain ⟨u₁, hrun, rfl⟩ := onWork_eq hattempt
      rw [run_recordPaymentAttempt] at hrun
      obtain rfl : attempted true false t.work = u₁ := (Prod.mk.inj hrun).2
      have hdone := finishCreateError_ok hs rfl hrest
      exact hdone
    · simp at h
  · next hc =>
    obtain ⟨⟨⟩, t₁, hattempt, hrest⟩ := Tx.bind_ok.mp h
    obtain ⟨u₁, hrun, rfl⟩ := onWork_eq hattempt
    rw [run_recordPaymentAttempt] at hrun
    obtain rfl : attempted true false t.work = u₁ := (Prod.mk.inj hrun).2
    have hdone := finishCreated_ok hc hs rfl hrest
    exact hdone

lemma searchThenCreate_ok {ctx : TurnContext} {t t' : Turn} {r : DispatchResult}
    (hs : unstarted t.work.intent.state) (h : (searchThenCreate ctx).run t = (.ok r, t')) :
    Dispatched ctx t.work t.event t'.work t'.event := by
  unfold searchThenCreate at h
  split at h
  · obtain ⟨hs, hw, he⟩ := finishUncertain_ok h
    rw [hw, he]
    exact .uncertain _ _ _ hs
  · simp at h
  · next hl => exact finishExistingBeforeCreate_ok hl h
  · obtain ⟨⟨⟩, t₁, hverify, hrest⟩ := Tx.bind_ok.mp h
    obtain ⟨rfl, -⟩ := verifyIntentAuthorizationBeforeProviderIo_ok hverify
    exact createPayment_ok hs hrest

/-- The end of `dispatchCreate` on a queued intent. -/
lemma verifyThenSearch_ok {ctx : TurnContext} {t t' : Turn} {step : HandlerStep}
    (hs : unstarted t.work.intent.state)
    (h : (do
      verifyIntentAuthorizationBeforeProviderIo ctx
      if !ctx.idempotent then pure .fence
      else do
        let result ← searchThenCreate ctx
        pure (.done result) : Handler HandlerStep).run t = (.ok step, t')) :
    (step = .fence ∧ ctx.idempotent = false ∧ t' = t) ∨
      (step ≠ .fence ∧ Dispatched ctx t.work t.event t'.work t'.event) := by
  obtain ⟨⟨⟩, t₁, hverify, hrest⟩ := Tx.bind_ok.mp h
  obtain ⟨rfl, -⟩ := verifyIntentAuthorizationBeforeProviderIo_ok hverify
  split at hrest
  · next hidem =>
    simp at hrest hidem
    exact .inl ⟨hrest.1.symm, hidem, hrest.2.symm⟩
  · obtain ⟨result, t₂, hsearch, hpure⟩ := Tx.bind_ok.mp hrest
    obtain ⟨hstep, rfl⟩ := Prod.mk.inj hpure
    refine .inr ⟨?_, searchThenCreate_ok hs hsearch⟩
    rw [← Except.ok.inj hstep]
    simp

/-- A create turn up to the fence commit: it ended there, or it stopped before the commit with
an unstarted intent that has no fence yet. -/
theorem dispatchCreate_ok {ctx : TurnContext} {t t' : Turn} {step : HandlerStep}
    (h : (dispatchCreate ctx).run t = (.ok step, t')) :
    ctx.provider = t.work.intent.provider ∧
      ((step ≠ .fence ∧ Dispatched ctx t.work t.event t'.work t'.event) ∨
        (step = .fence ∧ ctx.idempotent = false ∧ t.work.intent.providerCreateFencedAt = none ∧
          unstarted t.work.intent.state ∧ (t.work.intent.state = .queued → t' = t))) := by
  unfold dispatchCreate at h
  obtain ⟨⟨⟩, t₁, hroute, hrest⟩ := Tx.bind_ok.mp h
  obtain ⟨rfl, hprov⟩ := validateProviderRoute_ok hroute
  refine ⟨hprov, ?_⟩
  rw [Tx.run_bind_of_ok (Tx.run_get _)] at hrest
  dsimp only at hrest
  split at hrest
  · next hterm =>
    simp [Tx.run_bind] at hrest
    obtain ⟨rfl, rfl⟩ := hrest
    exact .inl ⟨by simp, .finished hterm⟩
  split at hrest
  · obtain ⟨result, t₂, hrecover, hpure⟩ := Tx.bind_ok.mp hrest
    obtain ⟨hstep, rfl⟩ := Prod.mk.inj hpure
    exact .inl ⟨by rw [← Except.ok.inj hstep]; simp, recoverFencedCreate_ok hrecover⟩
  next hfence =>
  have hunfenced : ctx.idempotent = false → t₁.work.intent.providerCreateFencedAt = none := by
    intro hidem
    simpa [hidem] using hfence
  split at hrest
  · next hp =>
    simp [Tx.run_bind] at hrest
    obtain ⟨rfl, rfl⟩ := hrest
    exact .inl ⟨by simp, .handedOver hp⟩
  split at hrest
  · next hr =>
    have hassert : (assertPaymentTransition t₁.work.intent.state queued : Handler Unit).run t₁ =
        (.ok (), t₁) := by simp [run_assertPaymentTransition, hr, canTransition, allowedTransitions]
    rw [Tx.run_bind_of_ok hassert, Tx.run_bind_of_ok (run_onWork _ _)] at hrest
    simp only [ne_eq, not_true, if_false] at hrest
    rcases verifyThenSearch_ok (.inl rfl) hrest with ⟨hf, hidem, -⟩ | ⟨hf, hdone⟩
    · exact .inr ⟨hf, hidem, hunfenced hidem, .inr hr, fun hq => by simp [hr] at hq⟩
    · exact .inl ⟨hf, .of_requeued hr hdone⟩
  · split at hrest
    · simp at hrest
    · next hq =>
      rcases verifyThenSearch_ok (.inl (not_not.mp hq)) hrest with ⟨hf, hidem, rfl⟩ | ⟨hf, hdone⟩
      · exact .inr ⟨hf, hidem, hunfenced hidem, .inl (not_not.mp hq), fun _ => rfl⟩
      · exact .inl ⟨hf, hdone⟩

/-- A create turn that ended after the fence commit. -/
theorem dispatchCreateFenced_ok {ctx : TurnContext} {acquired : Bool} {t t' : Turn}
    {r : DispatchResult} (h : (dispatchCreateFenced ctx acquired).run t = (.ok r, t')) :
    ctx.provider = t.work.intent.provider ∧
      Dispatched ctx t.work t.event t'.work t'.event := by
  unfold dispatchCreateFenced at h
  obtain ⟨⟨⟩, t₁, hroute, hrest⟩ := Tx.bind_ok.mp h
  obtain ⟨rfl, hprov⟩ := validateProviderRoute_ok hroute
  refine ⟨hprov, ?_⟩
  rw [Tx.run_bind_of_ok (Tx.run_get _)] at hrest
  dsimp only at hrest
  split at hrest
  · simp at hrest
  · split at hrest
    · exact recoverFencedCreate_ok hrest
    · next hq =>
      obtain ⟨⟨⟩, t₂, hverify, hsearch⟩ := Tx.bind_ok.mp hrest
      obtain ⟨rfl, -⟩ := verifyIntentAuthorizationBeforeProviderIo_ok hverify
      have hs : t₂.work.intent.state = .queued := by simp at hq; exact hq.2
      exact searchThenCreate_ok (.inl hs) hsearch

end PaymentExecutor

end Pactra
