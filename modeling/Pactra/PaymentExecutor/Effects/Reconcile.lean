import Pactra.PaymentExecutor.Effects.Operations
import Pactra.PaymentExecutor.Reconciliation

/-!
# What a reconcile turn does

## Main results

- `reconcileIntent_ok`, `reconcileIntentFenced_ok` — every reconcile turn that ended is `Reconciled`
-/

namespace Pactra

namespace PaymentExecutor

open PaymentIntentState

/-- The payload of a retry of the lookup. -/
def lookupRetryPayload (intent : PaymentIntentRow) (event : OutboxEventRow)
    (reasonCode phase : String) : Dict :=
  [("payment_intent_id", .str intent.id.str), ("outbox_event_id", .str event.id.str),
   ("reason_code", .str reasonCode), ("phase", .str phase)]

/-- A unit of work that records the retry of a lookup, or its dead letter. -/
def retried (event : OutboxEventRow) (reasonCode phase : String) (u : UnitOfWork) : UnitOfWork :=
  noted (retryEvent event) (lookupRetryPayload u.intent event reasonCode phase) u

/-- A unit of work after a lookup reported several payments for the key. -/
def ambiguityObserved (now : Datetime) (detail : String) (u : UnitOfWork) : UnitOfWork :=
  transitioned .providerPending .paymentProviderUncertain
    [("provider", .str u.intent.provider), ("provider_ambiguity_observed", .bool true),
     ("replacement_create_permitted", .bool false), ("detail", .str detail)]
    (some ReasonCode.providerAmbiguity.value)
    (withIntent (rememberProviderAmbiguity now) u)

/-- A unit of work of an intent that carries the ambiguity mark, before the narration. -/
def ambiguityKept (now : Datetime) (u : UnitOfWork) : UnitOfWork :=
  if u.intent.state ≠ .providerPending then
    transitioned .providerPending .paymentProviderUncertain
      [("provider", .str u.intent.provider), ("provider_ambiguity_observed", .bool true),
       ("replacement_create_permitted", .bool false), ("resolution", .str "operator_review")]
      (some ReasonCode.providerAmbiguity.value) u
  else withIntent (rememberProviderAmbiguity now) u

/-- The narration of a lookup on an ambiguous intent. -/
def ambiguousPayload (intent : PaymentIntentRow) (payment : Option ProviderPayment) : Dict :=
  Dict.update (Dict.update
    [("payment_intent_id", .str intent.id.str), ("provider", .str intent.provider),
     ("reason_code", .str ReasonCode.providerAmbiguity.value),
     ("provider_ambiguity_observed", .bool true),
     ("current_search_result",
       .str (if payment.isNone then "no_exact_match" else "one_exact_candidate"))]
    (match payment with
      | none => []
      | some p => providerEvidencePayload p))
    [("candidate_adopted", .bool false), ("replacement_create_permitted", .bool false),
     ("manual_recovery_required", .bool true)]

/-- The narration of a linked reference that was not found. -/
def linkedNotFoundPayload (intent : PaymentIntentRow) : Dict :=
  [("payment_intent_id", .str intent.id.str), ("provider", .str intent.provider),
   ("provider_payment_id", .ofOptStr intent.providerPaymentId),
   ("reason_code", .str ReasonCode.providerPaymentNotFound.value),
   ("linked_provider_reference_unresolved", .bool true),
   ("replacement_create_permitted", .bool false)]

/-- A unit of work of a fenced intent without a visible payment, before the narration. -/
def fencedKept (u : UnitOfWork) : UnitOfWork :=
  if u.intent.state ≠ .providerPending then
    transitioned .providerPending .paymentProviderUncertain
      [("provider", .str u.intent.provider), ("provider_create_fenced", .bool true),
       ("provider_payment_may_exist", .bool true), ("replacement_create_permitted", .bool false),
       ("resolution", .str "reconciliation_or_operator_review")]
      (some ReasonCode.providerCreateFenced.value) u
  else
    withIntent (fun i => { i with lastReasonCode := some ReasonCode.providerCreateFenced.value }) u

/-- The narration of a fenced create without a visible payment. -/
def fencedNotFoundPayload (intent : PaymentIntentRow) : Dict :=
  [("payment_intent_id", .str intent.id.str), ("provider", .str intent.provider),
   ("reason_code", .str ReasonCode.providerCreateFenced.value),
   ("provider_search_found_no_match", .bool true), ("provider_create_fenced", .bool true),
   ("replacement_create_permitted", .bool false),
   ("manual_recovery_may_be_required", .bool true)]

/-- The closed form of `resolveNoProviderPayment` on the unit of work. -/
def noPayment (now : Datetime) (u : UnitOfWork) : UnitOfWork :=
  noted .paymentRetryScheduled
    [("payment_intent_id", .str u.intent.id.str),
     ("state", .str PaymentIntentState.failedRetryable.value),
     ("reason_code", .str ReasonCode.providerPaymentNotFound.value)]
    (queuedEvent .paymentCreateRequested now
      (withIntent (fun i =>
        { i with
          state := .failedRetryable
          lastReasonCode := some ReasonCode.providerPaymentNotFound.value })
        (noted .paymentReconciled
          [("payment_intent_id", .str u.intent.id.str), ("provider", .str u.intent.provider),
           ("reason_code", .str ReasonCode.providerPaymentNotFound.value),
           ("provider_holds_no_payment", .bool true),
           ("conclusion", .str "provider create contract makes a same-key retry idempotent")]
          u)))

/-- The narration of a payment the lookup found. -/
def foundPayload (payment : ProviderPayment) (intent : PaymentIntentRow)
    (state : PaymentIntentState) : Dict :=
  Dict.update (Dict.update
    [("payment_intent_id", .str intent.id.str), ("provider", .str intent.provider)]
    (providerEvidencePayload payment))
    [("provider_state", .str payment.status.value), ("state", .str state.value),
     ("resolved_existing_provider_payment", .bool true)]

/-- The outbox event after a payment was found: retried while the payment is open. -/
def followedUpEvent (now : Datetime) (state : PaymentIntentState) (e : OutboxEventRow) :
    OutboxEventRow :=
  if state = .providerPending then rescheduled "provider payment still pending" now e
  else completed now e

/-- The answer of a lookup that returned. -/
def lookupResult : Option ProviderPayment → LookupAnswer
  | some payment => .found payment
  | none => .notFound

/-- How a reconcile turn can end: what it does to the unit of work and to the outbox event. -/
inductive Reconciled (ctx : TurnContext) (u : UnitOfWork) (e : OutboxEventRow) :
    UnitOfWork → OutboxEventRow → Prop
  | finished (hs : u.intent.state.isTerminal = true) :
    Reconciled ctx u e u (completed ctx.now e)
  | ambiguityObserved (error : ProviderError) (hl : ctx.lookup = .failed error)
    (hk : error.kind = .ambiguity) (hs : maybeUncertain u.intent.state) :
    Reconciled ctx u e
      (retried e ReasonCode.providerAmbiguity.value "reconciliation"
        (ambiguityObserved ctx.now error.detail u))
      (rescheduled error.detail ctx.now e)
  | lookupFailed (error : ProviderError) (hl : ctx.lookup = .failed error)
    (hk : error.kind ≠ .ambiguity) (hs : u.intent.state.isTerminal = false) :
    Reconciled ctx u e (retried e error.reasonCode "reconciliation" u)
      (rescheduled error.detail ctx.now e)
  | ambiguous (payment : Option ProviderPayment)
    (hl : ctx.lookup = lookupResult payment)
    (ha : u.intent.providerAmbiguityObservedAt ≠ none) (hs : maybeUncertain u.intent.state) :
    Reconciled ctx u e
      (noted .paymentReconciled (ambiguousPayload u.intent payment) (ambiguityKept ctx.now u))
      (rescheduled "known provider ambiguity remains unresolved" ctx.now e)
  | linkedNotFound (hl : ctx.lookup = .notFound) (ha : u.intent.providerAmbiguityObservedAt = none)
    (hp : u.intent.providerPaymentId ≠ none) (hs : u.intent.state.isTerminal = false) :
    Reconciled ctx u e
      (retried e ReasonCode.providerPaymentNotFound.value "linked-reference-reconciliation"
        (noted .paymentReconciled (linkedNotFoundPayload u.intent) u))
      (rescheduled "linked provider reference was not found" ctx.now e)
  | fencedNotFound (hl : ctx.lookup = .notFound) (ha : u.intent.providerAmbiguityObservedAt = none)
    (hp : u.intent.providerPaymentId = none) (hs : maybeUncertain u.intent.state) :
    Reconciled ctx u e
      (retried e ReasonCode.providerCreateFenced.value "fenced-create-reconciliation"
        (noted .paymentReconciled (fencedNotFoundPayload u.intent) (fencedKept u)))
      (rescheduled "fenced create has no visible provider Order" ctx.now e)
  | noPayment (hl : ctx.lookup = .notFound) (ha : u.intent.providerAmbiguityObservedAt = none)
    (hp : u.intent.providerPaymentId = none)
    (hf : u.intent.providerCreateFencedAt = none ∨ ctx.idempotent = true)
    (hs : u.intent.state.canTransition .failedRetryable = true) :
    Reconciled ctx u e (noPayment ctx.now u) (completed ctx.now e)
  | found (payment : ProviderPayment) (u' : UnitOfWork) (hl : ctx.lookup = .found payment)
    (ha : u.intent.providerAmbiguityObservedAt = none)
    (hs : u.intent.state.isTerminal = false)
    (h : Settles ctx.env ctx.db payment ctx.now (attempted false true u) u') :
    Reconciled ctx u e
      (noted .paymentReconciled (foundPayload payment u.intent u'.intent.state) u')
      (followedUpEvent ctx.now u'.intent.state e)
  | refused (payment : ProviderPayment) (detail : String) (u' : UnitOfWork)
    (hl : ctx.lookup = .found payment) (ha : u.intent.providerAmbiguityObservedAt = none)
    (hs : u.intent.state.isTerminal = false)
    (hn : ¬Adoptable ctx.env payment (attempted false true u).intent)
    (h : u' = u ∨ Valid ctx.env payment u.intent (u.intent.providerPaymentId == none) ∧
      Refused (attempted false true u) u') :
    Reconciled ctx u e
      (retried e ReasonCode.providerResponseMismatch.value "reconciliation" u')
      (rescheduled detail ctx.now e)

@[simp] lemma rescheduled_id (reason : String) (now : Datetime) (e : OutboxEventRow) :
    (rescheduled reason now e).id = e.id := by
  unfold rescheduled
  dsimp only
  split <;> rfl

lemma rescheduled_status (reason : String) (now : Datetime) (e : OutboxEventRow) :
    (rescheduled reason now e).status = if e.maxAttempts ≤ e.attempts then .failed else .pending := by
  unfold rescheduled
  dsimp only
  split <;> rfl

lemma run_retryReconcile (ctx : TurnContext) (reason reasonCode phase : String) (t : Turn) :
    (retryReconcile ctx reason reasonCode phase).run t =
      (.ok (decide (t.event.attempts < t.event.maxAttempts)),
        { t with
          work := retried t.event reasonCode phase t.work
          event := rescheduled reason ctx.now t.event }) := by
  simp [retryReconcile, Tx.run_bind, retried, retryEvent, lookupRetryPayload]

lemma reconcileLookupFailed_ok {ctx : TurnContext} {error : ProviderError} {t t' : Turn}
    {r : DispatchResult} (hl : ctx.lookup = .failed error)
    (hs : t.work.intent.state.isTerminal = false)
    (h : (reconcileLookupFailed ctx error).run t = (.ok r, t')) :
    Reconciled ctx t.work t.event t'.work t'.event := by
  unfold reconcileLookupFailed at h
  rw [Tx.run_bind_of_ok (Tx.run_get t)] at h
  dsimp only at h
  by_cases hk : error.kind = .ambiguity
  · simp only [hk, if_true] at h
    have hcode : error.reasonCode = ReasonCode.providerAmbiguity.value := by
      rw [ProviderError.reasonCode, hk]
      decide
    obtain ⟨⟨⟩, t₁, hwork, hrest⟩ := Tx.bind_ok.mp h
    obtain ⟨u₁, hrun, rfl⟩ := onWork_eq hwork
    have hmarked : maybeUncertain t.work.intent.state ∧
        u₁ = ambiguityObserved ctx.now error.detail t.work := by
      by_cases hp : t.work.intent.state = .providerPending
      · simp [Tx.run_bind, hp] at hrun
        refine ⟨.inl hp, ?_⟩
        rw [← hrun, ambiguityObserved, transitioned,
          ← withIntent_state (u := withIntent (rememberProviderAmbiguity ctx.now) t.work) hp]
        rfl
      · by_cases hc : t.work.intent.state.canTransition .providerPending = true
        · simp [Tx.run_bind, hp, run_applyPaymentTransition, hc] at hrun
          exact ⟨.inr hc, hrun.symm⟩
        · simp [Tx.run_bind, hp, run_applyPaymentTransition, hc] at hrun
    obtain ⟨hmay, rfl⟩ := hmarked
    simp [Tx.run_bind, run_retryReconcile] at hrest
    obtain ⟨-, rfl⟩ := hrest
    rw [hcode]
    exact .ambiguityObserved error hl hk hmay
  · simp [hk, Tx.run_bind, run_retryReconcile] at h
    obtain ⟨-, rfl⟩ := h
    exact .lookupFailed error hl hk hs

lemma reconcileAmbiguous_ok {ctx : TurnContext} {payment : Option ProviderPayment} {t t' : Turn}
    {r : DispatchResult} (ha : t.work.intent.providerAmbiguityObservedAt ≠ none)
    (h : (reconcileAmbiguous ctx payment).run t = (.ok r, t'))
    (hl : ctx.lookup = lookupResult payment) :
    Reconciled ctx t.work t.event t'.work t'.event := by
  unfold reconcileAmbiguous at h
  rw [Tx.run_bind_of_ok (Tx.run_get t)] at h
  dsimp only at h
  obtain ⟨⟨⟩, t₁, hwork, hrest⟩ := Tx.bind_ok.mp h
  obtain ⟨u₁, hrun, rfl⟩ := onWork_eq hwork
  have hkept : maybeUncertain t.work.intent.state ∧ u₁ = ambiguityKept ctx.now t.work := by
    by_cases hp : t.work.intent.state = .providerPending
    · simp [hp] at hrun
      exact ⟨.inl hp, by simp [ambiguityKept, hp, hrun]⟩
    · by_cases hc : t.work.intent.state.canTransition .providerPending = true
      · simp [hp, run_applyPaymentTransition, hc] at hrun
        exact ⟨.inr hc, by simp [ambiguityKept, hp, hrun]⟩
      · simp [hp, run_applyPaymentTransition, hc] at hrun
  obtain ⟨hmay, rfl⟩ := hkept
  simp only [Tx.run_bind, run_rescheduleEvent, run_onWork, run_append, Tx.run_pure,
    Prod.mk.injEq] at hrest
  obtain ⟨-, rfl⟩ := hrest
  exact .ambiguous payment hl ha hmay

lemma reconcileLinkedNotFound_ok {ctx : TurnContext} {t t' : Turn} {r : DispatchResult}
    (hl : ctx.lookup = .notFound)
    (ha : t.work.intent.providerAmbiguityObservedAt = none)
    (hp : t.work.intent.providerPaymentId ≠ none) (hs : t.work.intent.state.isTerminal = false)
    (h : (reconcileLinkedNotFound ctx).run t = (.ok r, t')) :
    Reconciled ctx t.work t.event t'.work t'.event := by
  simp [reconcileLinkedNotFound, Tx.run_bind] at h
  obtain ⟨-, rfl⟩ := h
  exact .linkedNotFound hl ha hp hs

lemma reconcileFencedNotFound_ok {ctx : TurnContext} {t t' : Turn} {r : DispatchResult}
    (hl : ctx.lookup = .notFound)
    (ha : t.work.intent.providerAmbiguityObservedAt = none)
    (hn : t.work.intent.providerPaymentId = none)
    (h : (reconcileFencedNotFound ctx).run t = (.ok r, t')) :
    Reconciled ctx t.work t.event t'.work t'.event := by
  unfold reconcileFencedNotFound at h
  rw [Tx.run_bind_of_ok (Tx.run_get t)] at h
  dsimp only at h
  obtain ⟨⟨⟩, t₁, hwork, hrest⟩ := Tx.bind_ok.mp h
  obtain ⟨u₁, hrun, rfl⟩ := onWork_eq hwork
  have hkept : maybeUncertain t.work.intent.state ∧ u₁ = fencedKept t.work := by
    by_cases hp : t.work.intent.state = .providerPending
    · simp [hp] at hrun
      exact ⟨.inl hp, by simp [fencedKept, hp, hrun]⟩
    · by_cases hc : t.work.intent.state.canTransition .providerPending = true
      · simp [hp, run_applyPaymentTransition, hc] at hrun
        exact ⟨.inr hc, by simp [fencedKept, hp, hrun]⟩
      · simp [hp, run_applyPaymentTransition, hc] at hrun
  obtain ⟨hmay, rfl⟩ := hkept
  have hid : (fencedKept t.work).intent.id = t.work.intent.id := by
    unfold fencedKept
    split <;> rfl
  have hdone : Reconciled ctx t.work t.event _ _ := .fencedNotFound hl ha hn hmay
  simp [Tx.run_bind] at hrest
  obtain ⟨-, rfl⟩ := hrest
  rw [retried, lookupRetryPayload, noted_intent, hid] at hdone
  exact hdone

lemma resolveNoProviderPayment_ok {ctx : TurnContext} {t t' : Turn} {r : DispatchResult}
    (hl : ctx.lookup = .notFound)
    (ha : t.work.intent.providerAmbiguityObservedAt = none)
    (hn : t.work.intent.providerPaymentId = none)
    (hf : t.work.intent.providerCreateFencedAt = none ∨ ctx.idempotent = true)
    (h : (resolveNoProviderPayment ctx).run t = (.ok r, t')) :
    Reconciled ctx t.work t.event t'.work t'.event := by
  by_cases hc : t.work.intent.state.canTransition .failedRetryable = true
  · simp [resolveNoProviderPayment, Tx.run_bind, run_assertPaymentTransition, hc] at h
    obtain ⟨-, rfl⟩ := h
    exact .noPayment hl ha hn hf hc
  · simp [resolveNoProviderPayment, Tx.run_bind, run_assertPaymentTransition, hc] at h

/-- An attempt is recorded for an unstarted intent only. -/
lemma run_attemptUnstarted (ctx : TurnContext) (payment : ProviderPayment) (u : UnitOfWork) :
    (if decide (u.intent.state = .queued ∨ u.intent.state = .failedRetryable) = true then do
        recordPaymentAttempt false true
        applyProviderPayment ctx.env ctx.db payment ctx.now
      else applyProviderPayment ctx.env ctx.db payment ctx.now : Work PaymentIntentState).run u =
      (applyProviderPayment ctx.env ctx.db payment ctx.now).run (attempted false true u) := by
  by_cases hun : u.intent.state = .queued ∨ u.intent.state = .failedRetryable
  · simp [hun, Tx.run_bind, run_recordPaymentAttempt]
  · simp [hun, attempted, unstarted]

lemma reconcileFound_ok {ctx : TurnContext} {payment : ProviderPayment} {t t' : Turn}
    {r : DispatchResult} (hl : ctx.lookup = .found payment)
    (ha : t.work.intent.providerAmbiguityObservedAt = none)
    (hs : t.work.intent.state.isTerminal = false)
    (h : (reconcileFound ctx payment).run t = (.ok r, t')) :
    Reconciled ctx t.work t.event t'.work t'.event := by
  unfold reconcileFound at h
  rw [Tx.run_bind_of_ok (Tx.run_get t)] at h
  dsimp only at h
  have hattempt := run_attemptUnstarted ctx payment t.work
  have hvalid : Valid ctx.env payment (attempted false true t.work).intent
        ((attempted false true t.work).intent.providerPaymentId == none) →
      Valid ctx.env payment t.work.intent (t.work.intent.providerPaymentId == none) := by
    unfold attempted
    split
    · exact id
    · exact id
  rcases Tx.tryCatch_ok.mp h with hbody | ⟨exc, t₁, hbody, hcaught⟩
  · obtain ⟨state, t₁, hwork, hrest⟩ := Tx.bind_ok.mp hbody
    obtain ⟨u₁, hrun, rfl⟩ := onWork_eq hwork
    obtain ⟨-, hset, rfl⟩ := recover_ok hattempt hrun
    have hdone : Reconciled ctx t.work t.event _ _ := .found payment u₁ hl ha hs hset
    by_cases hp : u₁.intent.state = .providerPending
    all_goals
      simp [Tx.run_bind, hp] at hrest
      obtain ⟨-, rfl⟩ := hrest
      simpa [followedUpEvent, hp, foundPayload] using hdone
  · cases exc with
    | provider error =>
      by_cases hk : error.kind = .mismatch
      · have hcode : error.reasonCode = ReasonCode.providerResponseMismatch.value := by
          rw [ProviderError.reasonCode, hk]
          decide
        simp [hk, Tx.run_bind, run_retryReconcile] at hcaught
        obtain ⟨-, rfl⟩ := hcaught
        rcases Tx.bind_error.mp hbody with hwork | ⟨state, t₂, -, hafter⟩
        · obtain ⟨u₁, hrun, rfl⟩ := onWork_eq hwork
          obtain ⟨hrefused, hnot⟩ := recover_error hattempt hrun
          have hn : ¬Adoptable ctx.env payment (attempted false true t.work).intent := fun had =>
            hnot ⟨hvalid had.valid, had⟩
          rw [hcode]
          exact .refused payment error.detail u₁ hl ha hs hn hrefused
        · split at hafter <;> simp [Tx.run_bind] at hafter
      · simp [hk] at hcaught
    | _ => simp at hcaught

lemma reconcileLookup_ok {ctx : TurnContext} {t t' : Turn} {r : DispatchResult}
    (hs : t.work.intent.state.isTerminal = false)
    (h : (reconcileLookup ctx).run t = (.ok r, t')) :
    Reconciled ctx t.work t.event t'.work t'.event := by
  unfold reconcileLookup at h
  rw [Tx.run_bind_of_ok (Tx.run_get t)] at h
  dsimp only at h
  split at h
  · simp at h
  · next hl => exact reconcileLookupFailed_ok hl hs h
  · next payment hl =>
    split at h
    · next ha => exact reconcileAmbiguous_ok ha h hl
    · next ha => exact reconcileFound_ok hl (not_not.mp ha) hs h
  · next hl =>
    split at h
    · next ha => exact reconcileAmbiguous_ok ha h hl
    next ha =>
    split at h
    · next hp => exact reconcileLinkedNotFound_ok hl (not_not.mp ha) hp hs h
    next hp =>
    split at h
    · exact reconcileFencedNotFound_ok hl (not_not.mp ha) (not_not.mp hp) h
    · next hf =>
      refine resolveNoProviderPayment_ok hl (not_not.mp ha) (not_not.mp hp) ?_ h
      rw [not_and_or, not_not, Bool.not_eq_false] at hf
      exact hf

/-- A reconcile turn up to the fence commit: it ended there, with the fence its provider needs,
or it stopped before the commit, having changed nothing. -/
theorem reconcileIntent_ok {ctx : TurnContext} {t t' : Turn} {step : HandlerStep}
    (h : (reconcileIntent ctx).run t = (.ok step, t')) :
    ctx.provider = t.work.intent.provider ∧
      ((step ≠ .fence ∧ Reconciled ctx t.work t.event t'.work t'.event ∧
          (t.work.intent.state.isTerminal = false → lacksFence ctx t.work.intent = false)) ∨
        (step = .fence ∧ t.work.intent.state.isTerminal = false)) := by
  unfold reconcileIntent at h
  obtain ⟨⟨⟩, t₁, hroute, hrest⟩ := Tx.bind_ok.mp h
  obtain ⟨rfl, hprov⟩ := validateProviderRoute_ok hroute
  refine ⟨hprov, ?_⟩
  rw [Tx.run_bind_of_ok (Tx.run_get _)] at hrest
  dsimp only at hrest
  split at hrest
  · next hterm =>
    simp [Tx.run_bind] at hrest
    obtain ⟨rfl, rfl⟩ := hrest
    exact .inl ⟨by simp, .finished hterm, fun h => by simp [hterm] at h⟩
  · next hterm =>
    have hterm : t₁.work.intent.state.isTerminal = false := by simpa using hterm
    obtain ⟨⟨⟩, t₂, hverify, hlook⟩ := Tx.bind_ok.mp hrest
    obtain ⟨rfl, -⟩ := verifyIntentAuthorizationBeforeProviderIo_ok hverify
    split at hlook
    · simp at hlook
      exact .inr ⟨hlook.1.symm, hterm⟩
    · next hlacks =>
      obtain ⟨result, t₃, hlookup, hpure⟩ := Tx.bind_ok.mp hlook
      obtain ⟨hstep, rfl⟩ := Prod.mk.inj hpure
      exact .inl ⟨by rw [← Except.ok.inj hstep]; simp, reconcileLookup_ok hterm hlookup,
        fun _ => by simpa using hlacks⟩

/-- A reconcile turn after it consumed the create permission. -/
theorem reconcileIntentFenced_ok {ctx : TurnContext} {t t' : Turn} {r : DispatchResult}
    (h : (reconcileIntentFenced ctx).run t = (.ok r, t')) :
    ctx.provider = t.work.intent.provider ∧
      Reconciled ctx t.work t.event t'.work t'.event := by
  unfold reconcileIntentFenced at h
  obtain ⟨⟨⟩, t₁, hroute, hrest⟩ := Tx.bind_ok.mp h
  obtain ⟨rfl, hprov⟩ := validateProviderRoute_ok hroute
  refine ⟨hprov, ?_⟩
  rw [Tx.run_bind_of_ok (Tx.run_get _)] at hrest
  dsimp only at hrest
  split at hrest
  · next hterm =>
    simp [Tx.run_bind] at hrest
    obtain ⟨-, rfl⟩ := hrest
    exact .finished hterm
  · next hterm =>
    obtain ⟨⟨⟩, t₂, hverify, hlook⟩ := Tx.bind_ok.mp hrest
    obtain ⟨rfl, -⟩ := verifyIntentAuthorizationBeforeProviderIo_ok hverify
    exact reconcileLookup_ok (by simpa using hterm) hlook

end PaymentExecutor

end Pactra
