import Pactra.PaymentExecutor.Executor

/-!
# Reconciliation

`services/payment_executor/reconciliation.py`: resolve one uncertain payment against the
provider's own records. As in dispatch, the commit that makes a missing create fence durable
splits the function in two.
-/

namespace Pactra

namespace PaymentExecutor

/-- Whether the reconciled intent still lacks the create fence its provider needs. -/
def lacksFence (ctx : TurnContext) (intent : PaymentIntentRow) : Bool :=
  !ctx.idempotent && intent.providerCreateFencedAt.isNone

/-- Put the event back for another lookup and record that, or its dead letter. -/
def retryReconcile (ctx : TurnContext) (reason reasonCode phase : String) : Handler Bool := do
  let retried ← rescheduleEvent reason ctx.now
  let t ← Tx.get
  onWork (append (if retried then .paymentRetryScheduled else .outboxEventDeadLettered)
    [("payment_intent_id", .str t.work.intent.id.str),
     ("outbox_event_id", .str t.event.id.str), ("reason_code", .str reasonCode),
     ("phase", .str phase)])
  pure retried

/-- The provider could not be asked. An ambiguity is remembered; any other failure leaves the
uncertainty as it was. -/
def reconcileLookupFailed (ctx : TurnContext) (error : ProviderError) :
    Handler DispatchResult := do
  let t ← Tx.get
  let current := t.work.intent.state
  if error.kind = .ambiguity then
    onWork do
      setIntent (rememberProviderAmbiguity ctx.now)
      let u ← Tx.get
      let payload : Dict :=
        [("provider", .str u.intent.provider), ("provider_ambiguity_observed", .bool true),
         ("replacement_create_permitted", .bool false), ("detail", .str error.detail)]
      if current ≠ .providerPending then
        applyPaymentTransition .providerPending .paymentProviderUncertain payload
          (some ReasonCode.providerAmbiguity.value)
      else
        append .paymentProviderUncertain
          (transitionPayload u.intent current payload (some ReasonCode.providerAmbiguity.value))
  else pure ()
  let state := if error.kind = .ambiguity then PaymentIntentState.providerPending else current
  let retried ← retryReconcile ctx error.detail error.reasonCode "reconciliation"
  pure ⟨state, true, retried⟩

/-- The intent carries the ambiguity mark: nothing the lookup returned can disprove it. -/
def reconcileAmbiguous (ctx : TurnContext) (payment : Option ProviderPayment) :
    Handler DispatchResult := do
  let t ← Tx.get
  let intent := t.work.intent
  onWork do
    if intent.state ≠ .providerPending then
      applyPaymentTransition .providerPending .paymentProviderUncertain
        [("provider", .str intent.provider), ("provider_ambiguity_observed", .bool true),
         ("replacement_create_permitted", .bool false), ("resolution", .str "operator_review")]
        (some ReasonCode.providerAmbiguity.value)
    else
      setIntent (rememberProviderAmbiguity ctx.now)
  let retried ← rescheduleEvent "known provider ambiguity remains unresolved" ctx.now
  onWork (append .paymentReconciled
    (Dict.update (Dict.update
      [("payment_intent_id", .str intent.id.str), ("provider", .str intent.provider),
       ("reason_code", .str ReasonCode.providerAmbiguity.value),
       ("provider_ambiguity_observed", .bool true),
       ("current_search_result",
         .str (if payment.isNone then "no_exact_match" else "one_exact_candidate"))]
      (match payment with
        | none => []
        | some p => providerEvidencePayload p))
      [("candidate_adopted", .bool false), ("replacement_create_permitted", .bool false),
       ("manual_recovery_required", .bool true)]))
  pure ⟨.providerPending, true, retried⟩

/-- A linked provider reference was not found. That never licenses a replacement. -/
def reconcileLinkedNotFound (ctx : TurnContext) : Handler DispatchResult := do
  let t ← Tx.get
  let intent := t.work.intent
  let retried ← rescheduleEvent "linked provider reference was not found" ctx.now
  onWork do
    append .paymentReconciled
      [("payment_intent_id", .str intent.id.str), ("provider", .str intent.provider),
       ("provider_payment_id", .ofOptStr intent.providerPaymentId),
       ("reason_code", .str ReasonCode.providerPaymentNotFound.value),
       ("linked_provider_reference_unresolved", .bool true),
       ("replacement_create_permitted", .bool false)]
    append (if retried then .paymentRetryScheduled else .outboxEventDeadLettered)
      [("payment_intent_id", .str intent.id.str), ("outbox_event_id", .str t.event.id.str),
       ("reason_code", .str ReasonCode.providerPaymentNotFound.value),
       ("phase", .str "linked-reference-reconciliation")]
  pure ⟨intent.state, true, retried⟩

/-- A fenced create has no visible provider payment. The fence is permanent. -/
def reconcileFencedNotFound (ctx : TurnContext) : Handler DispatchResult := do
  let t ← Tx.get
  let intent := t.work.intent
  onWork do
    if intent.state ≠ .providerPending then
      applyPaymentTransition .providerPending .paymentProviderUncertain
        [("provider", .str intent.provider), ("provider_create_fenced", .bool true),
         ("provider_payment_may_exist", .bool true),
         ("replacement_create_permitted", .bool false),
         ("resolution", .str "reconciliation_or_operator_review")]
        (some ReasonCode.providerCreateFenced.value)
    else
      setIntent fun i => { i with lastReasonCode := some ReasonCode.providerCreateFenced.value }
  let retried ← rescheduleEvent "fenced create has no visible provider Order" ctx.now
  onWork do
    append .paymentReconciled
      [("payment_intent_id", .str intent.id.str), ("provider", .str intent.provider),
       ("reason_code", .str ReasonCode.providerCreateFenced.value),
       ("provider_search_found_no_match", .bool true), ("provider_create_fenced", .bool true),
       ("replacement_create_permitted", .bool false),
       ("manual_recovery_may_be_required", .bool true)]
    append (if retried then .paymentRetryScheduled else .outboxEventDeadLettered)
      [("payment_intent_id", .str intent.id.str), ("outbox_event_id", .str t.event.id.str),
       ("reason_code", .str ReasonCode.providerCreateFenced.value),
       ("phase", .str "fenced-create-reconciliation")]
  pure ⟨.providerPending, true, retried⟩

/-- `_resolve_no_provider_payment`: an idempotent-create provider holds no payment for the key,
so the intent becomes retryable. -/
def resolveNoProviderPayment (ctx : TurnContext) : Handler DispatchResult := do
  let t ← Tx.get
  let intent := t.work.intent
  onWork do
    append .paymentReconciled
      [("payment_intent_id", .str intent.id.str), ("provider", .str intent.provider),
       ("reason_code", .str ReasonCode.providerPaymentNotFound.value),
       ("provider_holds_no_payment", .bool true),
       ("conclusion", .str "provider create contract makes a same-key retry idempotent")]
    assertPaymentTransition intent.state .failedRetryable
    setIntent fun i =>
      { i with
        state := .failedRetryable
        lastReasonCode := some ReasonCode.providerPaymentNotFound.value }
    enqueueOutboxEvent .paymentCreateRequested ctx.now
  completeEvent ctx.now
  onWork (append .paymentRetryScheduled
    [("payment_intent_id", .str intent.id.str),
     ("state", .str PaymentIntentState.failedRetryable.value),
     ("reason_code", .str ReasonCode.providerPaymentNotFound.value)])
  pure ⟨.failedRetryable, true, true⟩

/-- The provider holds a payment: validate it, make the attempt truthful, and fold it in. -/
def reconcileFound (ctx : TurnContext) (payment : ProviderPayment) : Handler DispatchResult := do
  let t ← Tx.get
  let intent := t.work.intent
  let unstarted := decide (intent.state = .queued ∨ intent.state = .failedRetryable)
  tryCatch
    (do
      let state ← onWork do
        validateProviderPayment ctx.env payment (intent.providerPaymentId == none)
        if unstarted then recordPaymentAttempt false true else pure ()
        applyProviderPayment ctx.env ctx.db payment ctx.now
      onWork (append .paymentReconciled
        (Dict.update (Dict.update
          [("payment_intent_id", .str intent.id.str), ("provider", .str intent.provider)]
          (providerEvidencePayload payment))
          [("provider_state", .str payment.status.value), ("state", .str state.value),
           ("resolved_existing_provider_payment", .bool true)]))
      if state = .providerPending then do
        let retried ← rescheduleEvent "provider payment still pending" ctx.now
        pure ⟨state, true, retried⟩
      else do
        completeEvent ctx.now
        pure ⟨state, true, false⟩)
    fun exc =>
      match exc with
      | .provider mismatch =>
        if mismatch.kind = .mismatch then do
          let t ← Tx.get
          let retried ← retryReconcile ctx mismatch.detail mismatch.reasonCode "reconciliation"
          -- `current` was moved to PROCESSING once the attempt had been recorded
          let current := if unstarted ∧ t.work.intent.state = .processing then
            PaymentIntentState.processing else intent.state
          pure ⟨current, true, retried⟩
        else Tx.raise exc
      | exc => Tx.raise exc

/-- The lookup of `reconcile_intent` and what follows from its answer. -/
def reconcileLookup (ctx : TurnContext) : Handler DispatchResult := do
  let t ← Tx.get
  let intent := t.work.intent
  match ctx.lookup with
  | .raised exc => Tx.raise exc
  | .failed error => reconcileLookupFailed ctx error
  | .found payment =>
    if intent.providerAmbiguityObservedAt ≠ none then reconcileAmbiguous ctx (some payment)
    else reconcileFound ctx payment
  | .notFound =>
    if intent.providerAmbiguityObservedAt ≠ none then reconcileAmbiguous ctx none
    else if intent.providerPaymentId ≠ none then reconcileLinkedNotFound ctx
    else if intent.providerCreateFencedAt ≠ none ∧ ctx.idempotent = false then
      reconcileFencedNotFound ctx
    else resolveNoProviderPayment ctx

/-- `reconcile_intent`, up to the commit of a missing create fence. -/
def reconcileIntent (ctx : TurnContext) : Handler HandlerStep := do
  onWork (validateProviderRoute ctx)
  let t ← Tx.get
  let intent := t.work.intent
  if intent.state.isTerminal then do
    completeEvent ctx.now
    pure (.done ⟨intent.state, false, false⟩)
  else do
    verifyIntentAuthorizationBeforeProviderIo ctx
    if lacksFence ctx intent then pure .fence
    else do
      let result ← reconcileLookup ctx
      pure (.done result)

/-- `reconcile_intent` after it consumed the create permission, with the intent reloaded. -/
def reconcileIntentFenced (ctx : TurnContext) : Handler DispatchResult := do
  onWork (validateProviderRoute ctx)
  let t ← Tx.get
  let intent := t.work.intent
  if intent.state.isTerminal then do
    completeEvent ctx.now
    pure ⟨intent.state, false, false⟩
  else do
    verifyIntentAuthorizationBeforeProviderIo ctx
    reconcileLookup ctx

end PaymentExecutor

end Pactra
