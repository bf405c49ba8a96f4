import Pactra.AgentOrchestrator.StateMachine
import Pactra.PaymentExecutor.StateMachine
import Pactra.SecurityKernel.Authorization

/-!
# Payment executor

`services/payment_executor/executor.py` and the row operations of `outbox.py`: one handler
transaction over an intent that is held under a row lock.

A handler works on in-memory rows and hands audit events and outbox rows to its session; nothing
of it is visible to others before the commit. `UnitOfWork` is what such a transaction holds about
the intent, `Turn` adds the claimed outbox event and the calls made to the provider. The commit in
the middle of `dispatch_create`, which makes the create fence durable, splits the function: what
comes before it is `dispatchCreate`, what comes after it is `dispatchCreateFenced`.
-/

namespace Pactra

/-- An outbox row that was handed to the session. -/
structure NewOutboxEvent where
  eventType : OutboxEventType
  payload : Dict
  availableAt : Datetime

/-- What a transaction holds about one intent: its locked row, the row of its mission, and the
audit events and outbox rows to be added. -/
structure UnitOfWork where
  intent : PaymentIntentRow
  mission : Option Mission
  entries : List AuditEntry
  enqueued : List NewOutboxEvent

/-- One handler transaction of a worker. -/
structure Turn where
  work : UnitOfWork
  event : OutboxEventRow
  created : List PaymentRequest

/-- A computation on a unit of work. -/
abbrev Work := Tx UnitOfWork Exc

/-- A computation of a handler. -/
abbrev Handler := Tx Turn Exc

/-- Run a computation on the unit of work of a turn. -/
def onWork {α : Type} (x : Work α) : Handler α := fun t =>
  ((x t.work).1, { t with work := (x t.work).2 })

@[simp] theorem run_onWork {α : Type} (x : Work α) (t : Turn) :
    (onWork x).run t = ((x.run t.work).1, { t with work := (x.run t.work).2 }) := rfl

/-- Evaluate a computation on the committed database without keeping what it wrote. -/
def reading {σ α : Type} (db : Db) (x : DbTx α) : Tx σ Exc α := fun s => ((x db).1, s)

@[simp] theorem run_reading {σ α : Type} (db : Db) (x : DbTx α) (s : σ) :
    (reading db x).run s = ((x.run db).1, s) := rfl

/-- What `provider.get_payment` did. -/
inductive LookupAnswer where
  | found (payment : ProviderPayment)
  | notFound
  | failed (error : ProviderError)
  | raised (exc : Exc)

/-- What `provider.create_payment` did. -/
inductive CreateAnswer where
  | payment (payment : ProviderPayment)
  | failed (error : ProviderError)
  | raised (exc : Exc)

/-- What a handler can read: the surroundings, the committed database, the adapter's name, the
time, and what the provider will answer. -/
structure TurnContext where
  env : Env
  db : Db
  provider : String
  now : Datetime
  lookup : LookupAnswer
  create : CreateAnswer

/-- Whether the adapter declares repeated creates with one key to be idempotent. -/
def TurnContext.idempotent (ctx : TurnContext) : Bool :=
  ctx.env.createRetriesAreIdempotent ctx.provider

/-- `DispatchResult`. -/
structure DispatchResult where
  state : PaymentIntentState
  providerCalled : Bool
  retryScheduled : Bool
deriving DecidableEq

namespace PaymentExecutor

/-- `ACTOR`. -/
def actor : String := "payment-executor"

-- ════════════════════════════════════════════════════════════════════════
-- Outbox rows
-- ════════════════════════════════════════════════════════════════════════

/-- `_BACKOFF_SECONDS`. -/
def backoffSeconds : List Int := [1, 2, 5, 15, 30, 60, 120, 300]

/-- `backoff_for`: delay before the next attempt, capped at the final step. -/
def backoffFor (attempts : Int) : Int :=
  Datetime.seconds (backoffSeconds.getD (min (attempts - 1).toNat 7) 300)

/-- `enqueue_outbox_event`. The row becomes durable with the surrounding transaction. -/
def enqueueOutboxEvent (eventType : OutboxEventType) (availableAt : Datetime) : Work Unit :=
  Tx.modify fun u =>
    { u with
      enqueued := u.enqueued ++
        [⟨eventType, [("idempotency_key", .str u.intent.idempotencyKey)], availableAt⟩] }

/-- An event marked permanently done. -/
def completed (now : Datetime) (event : OutboxEventRow) : OutboxEventRow :=
  { event with status := .processed, processedAt := some now, lastError := none }

/-- `complete_event`. -/
def completeEvent (now : Datetime) : Handler Unit :=
  Tx.modify fun t => { t with event := completed now t.event }

/-- An event returned to the queue with backoff, or dead-lettered when its attempts are used
up. -/
def rescheduled (reason : String) (now : Datetime) (event : OutboxEventRow) : OutboxEventRow :=
  let lastError := some (String.ofList (reason.toList.take 200))
  if event.maxAttempts ≤ event.attempts then
    { event with lastError := lastError, status := .failed, processedAt := some now }
  else
    { event with
      lastError := lastError, status := .pending,
      availableAt := now + backoffFor event.attempts }

/-- `reschedule_event`: whether the event will be retried. -/
def rescheduleEvent (reason : String) (now : Datetime) : Handler Bool := do
  let t ← Tx.get
  Tx.modify fun t => { t with event := rescheduled reason now t.event }
  pure (decide (t.event.attempts < t.event.maxAttempts))

-- ════════════════════════════════════════════════════════════════════════
-- Guarded transitions
-- ════════════════════════════════════════════════════════════════════════

/-- `append_event` on the intent's mission. -/
def append (eventType : EventType) (payload : Dict) : Work Unit :=
  Tx.modify fun u => { u with entries := u.entries ++ [⟨eventType, actor, payload⟩] }

/-- The mission row moved to a target state, when the move is legal. -/
def movedMission (target : MissionState) (mission : Mission) : Mission :=
  { mission with state := mission.state.moved target }

/-- `apply_mission_state`: an illegal move is skipped rather than forced. -/
def applyMissionState (target : MissionState) : Work Unit :=
  Tx.modify fun u => { u with mission := u.mission.map (movedMission target) }

/-- The payload of a transition event: the reason code is written last, also as a null. -/
def transitionPayload (intent : PaymentIntentRow) (target : PaymentIntentState) (payload : Dict)
    (reasonCode : Option String) : Dict :=
  Dict.set (Dict.update [("payment_intent_id", .str intent.id.str), ("state", .str target.value)]
    payload) "reason_code" (.ofOptStr reasonCode)

/-- `apply_payment_transition`. -/
def applyPaymentTransition (target : PaymentIntentState) (eventType : EventType) (payload : Dict)
    (reasonCode : Option String) : Work Unit := do
  let u ← Tx.get
  assertPaymentTransition u.intent.state target
  Tx.modify fun u =>
    { u with intent := { u.intent with state := target, lastReasonCode := reasonCode } }
  append eventType (transitionPayload u.intent target payload reasonCode)

-- ════════════════════════════════════════════════════════════════════════
-- Provider evidence
-- ════════════════════════════════════════════════════════════════════════

/-- Assign a provider reference to a column, at most once. -/
def assignOnce (env : Env) (provider label : String) (held : Option String)
    (value : Option String) : Work (Option String) :=
  match value, held with
  | none, _ => pure held
  | some v, none => pure (some v)
  | some v, some existing =>
    if existing = v then pure held
    else
      Tx.raise (.provider ⟨.mismatch, provider, "intent already records " ++ label ++ "="
        ++ env.repr existing ++ "; refusing to relink to " ++ env.repr v⟩)

/-- A unique constraint on provider references that writing this row would violate. -/
def referenceTaken (db : Db) (intent : PaymentIntentRow) : Bool :=
  db.paymentIntents.any fun other =>
    decide (other.id ≠ intent.id ∧
      ((intent.providerPaymentId ≠ none ∧ other.providerPaymentId = intent.providerPaymentId) ∨
       (intent.providerOrderId ≠ none ∧ other.providerOrderId = intent.providerOrderId) ∨
       (intent.providerTransactionId ≠ none ∧
        other.providerTransactionId = intent.providerTransactionId)))

/-- `max(held or 0, reported)`. -/
def maxAttempts (held : Option Int) (reported : Int) : Int := max (held.getD 0) reported

/-- Set the columns the provider merely reports. -/
def reported (providerStatus : Option String) (providerAttempts : Option Int)
    (intent : PaymentIntentRow) : PaymentIntentRow :=
  { intent with
    providerStatus := providerStatus.or intent.providerStatus
    providerAttempts := match providerAttempts with
      | some n => some (maxAttempts intent.providerAttempts n)
      | none => intent.providerAttempts }

/-- Change the intent row. -/
def setIntent (f : PaymentIntentRow → PaymentIntentRow) : Work Unit :=
  Tx.modify fun u => { u with intent := f u.intent }

/-- Flush the intent row: the unique constraints on provider references fire here. -/
def flushIntent (db : Db) : Work Unit := do
  let u ← Tx.get
  if referenceTaken db u.intent then Tx.raise .integrityError else pure ()

/-- `link_provider_payment`: record which provider payment the intent corresponds to. Each
reference is written at most once; the settlement identity only by a successful answer. -/
def linkProviderPayment (env : Env) (db : Db) (payment : ProviderPayment) : Work Unit := do
  let u ← Tx.get
  let provider := u.intent.provider
  let paymentId ← assignOnce env provider "provider reference" u.intent.providerPaymentId
    (some payment.providerPaymentId)
  setIntent fun i => { i with providerPaymentId := paymentId }
  let orderId ← assignOnce env provider "provider order id" u.intent.providerOrderId
    payment.providerOrderId
  setIntent fun i => { i with providerOrderId := orderId }
  let receipt ← assignOnce env provider "provider receipt" u.intent.providerReceipt
    payment.providerReceipt
  setIntent fun i => { i with providerReceipt := receipt }
  if payment.status = .succeeded then do
    let transactionId ← assignOnce env provider "provider transaction id"
      u.intent.providerTransactionId payment.providerTransactionId
    setIntent fun i => { i with providerTransactionId := transactionId }
  else pure ()
  setIntent (reported payment.providerStatus payment.providerAttempts)
  flushIntent db

/-- An entry for a value that is present. -/
def optEntry (key : String) : Option Json → Dict
  | some v => [(key, v)]
  | none => []

/-- `provider_evidence_payload`. -/
def providerEvidencePayload (payment : ProviderPayment) : Dict :=
  [("provider_payment_id", .str payment.providerPaymentId)]
    ++ optEntry "provider_order_id" (payment.providerOrderId.map .str)
    ++ optEntry "provider_transaction_id" (payment.providerTransactionId.map .str)
    ++ optEntry "provider_receipt" (payment.providerReceipt.map .str)
    ++ optEntry "provider_status" (payment.providerStatus.map .str)
    ++ optEntry "provider_attempts" (payment.providerAttempts.map .int)

/-- The mismatches `validate_provider_payment` reports. -/
def paymentMismatches (env : Env) (intent : PaymentIntentRow) (payment : ProviderPayment)
    (requireIdempotencyKey : Bool) : List String :=
  (if payment.provider ≠ intent.provider then
      ["provider=" ++ env.repr payment.provider ++ ", expected " ++ env.repr intent.provider]
    else [])
    ++ (if payment.amountInr ≠ intent.amountInr then
      ["amount_inr=" ++ toString payment.amountInr ++ ", expected " ++ toString intent.amountInr]
    else [])
    ++ (if payment.currency ≠ intent.currency then
      ["currency=" ++ env.repr payment.currency ++ ", expected " ++ env.repr intent.currency]
    else [])
    ++ (match payment.idempotencyKey with
        | none => if requireIdempotencyKey then ["idempotency_key is absent"] else []
        | some key =>
          if key ≠ intent.idempotencyKey then
            ["idempotency_key=" ++ env.repr key ++ ", expected "
              ++ env.repr intent.idempotencyKey]
          else [])

/-- `validate_provider_payment`: bind an untrusted provider response to the durable intent. -/
def validateProviderPayment (env : Env) (payment : ProviderPayment)
    (requireIdempotencyKey : Bool) : Work Unit := do
  let u ← Tx.get
  let mismatches := paymentMismatches env u.intent payment requireIdempotencyKey
  if mismatches.isEmpty then pure ()
  else
    Tx.raise (.provider ⟨.mismatch, u.intent.provider, String.intercalate "; " mismatches⟩)

/-- `apply_provider_payment`: fold a provider's answer into the intent's state. -/
def applyProviderPayment (env : Env) (db : Db) (payment : ProviderPayment) (now : Datetime) :
    Work PaymentIntentState := do
  let u ← Tx.get
  let current := u.intent.state
  let target := providerStatusToState payment.status
  validateProviderPayment env payment (u.intent.providerPaymentId == none)
  linkProviderPayment env db payment
  if current = target ∨ current.isTerminal = true then pure current
  else do
    let intent := u.intent
    match target with
    | .succeeded => do
      applyPaymentTransition .succeeded .paymentSucceeded
        (Dict.update (Dict.update [("provider", .str intent.provider)]
          (providerEvidencePayload payment))
          [("amount_inr", .int intent.amountInr), ("currency", .str intent.currency),
           ("settled_at", .str now.isoformat)]) none
      applyMissionState .paymentSucceeded
    | .failedTerminal => do
      applyPaymentTransition .failedTerminal .paymentFailed
        (Dict.update [("provider", .str intent.provider)] (providerEvidencePayload payment))
        (some ReasonCode.providerTerminalFailure.value)
      applyMissionState .paymentFailed
    | _ =>
      applyPaymentTransition .providerPending .paymentProviderUncertain
        (Dict.update (Dict.update [("provider", .str intent.provider)]
          (providerEvidencePayload payment))
          [("provider_state", .str payment.status.value)]) none
    let u ← Tx.get
    pure u.intent.state

/-- `validate_provider_route`. -/
def validateProviderRoute (ctx : TurnContext) : Work Unit := do
  let u ← Tx.get
  if ctx.provider = u.intent.provider then pure ()
  else
    Tx.raise (.provider ⟨.mismatch, ctx.provider, "adapter " ++ ctx.env.repr ctx.provider
      ++ " cannot process intent for " ++ ctx.env.repr u.intent.provider⟩)

/-- `verify_intent_authorization_before_provider_io`: re-verify proof and full transaction
binding immediately before provider I/O. -/
def verifyIntentAuthorizationBeforeProviderIo (ctx : TurnContext) : Handler Unit := do
  let t ← Tx.get
  let intent := t.work.intent
  match ctx.db.getAuthorization intent.authorizationId with
  | none =>
    Tx.raise (.authorizationFailure .notFound intent.authorizationId
      "authorization no longer exists")
  | some authorization => do
    let transaction ← reading ctx.db
      (SecurityKernel.verifyAuthorizationForPayment ctx.env authorization .consumed ctx.now)
    let mismatches : List String :=
      (if authorization.missionId ≠ intent.missionId then ["mission_id"] else [])
        ++ (if authorization.authorizationId ≠ intent.authorizationId then ["authorization_id"]
          else [])
        ++ (if authorization.transactionDigest ≠ intent.transactionDigest then
          ["transaction_digest"] else [])
        ++ (if transaction.merchantId ≠ intent.merchantId then ["merchant_id"] else [])
        ++ (if transaction.amountInr ≠ intent.amountInr then ["amount_inr"] else [])
        ++ (if transaction.currency ≠ intent.currency then ["currency"] else [])
        ++ (if t.event.paymentIntentId ≠ intent.id then ["outbox.payment_intent_id"] else [])
    if mismatches.isEmpty then pure ()
    else
      Tx.raise (.authorizationFailure .bindingFailure authorization.authorizationId
        ("durable payment intent disagrees with authorization: "
          ++ String.intercalate ", " mismatches))

-- ════════════════════════════════════════════════════════════════════════
-- Uncertainty
-- ════════════════════════════════════════════════════════════════════════

/-- `remember_provider_ambiguity`: persist the first observed multiple-match fact. -/
def rememberProviderAmbiguity (now : Datetime) (intent : PaymentIntentRow) : PaymentIntentRow :=
  { intent with
    providerAmbiguityObservedAt := some (intent.providerAmbiguityObservedAt.getD now)
    lastReasonCode := some ReasonCode.providerAmbiguity.value }

/-- The payload of the uncertainty event of `_mark_uncertain`. -/
def uncertainPayload (intent : PaymentIntentRow) (detail : String) : Dict :=
  [("provider", .str intent.provider), ("provider_payment_may_exist", .bool true),
   ("resolution", .str "reconciliation"),
   ("provider_create_fenced", .bool intent.providerCreateFencedAt.isSome),
   ("provider_ambiguity_observed", .bool intent.providerAmbiguityObservedAt.isSome),
   ("replacement_create_permitted",
     if intent.providerCreateFencedAt.isSome then .bool false else .null),
   ("detail", .str detail)]

/-- `_mark_uncertain`: record that a provider payment may exist and its outcome is unknown. -/
def markUncertain (detail : String) (now : Datetime)
    (reasonCode : String := ReasonCode.paymentProviderTimeout.value) (timedOut : Bool := true) :
    Work Unit := do
  let u ← Tx.get
  let ambiguous := reasonCode = ReasonCode.providerAmbiguity.value ∨
    u.intent.providerAmbiguityObservedAt ≠ none
  if ambiguous then setIntent (rememberProviderAmbiguity now) else pure ()
  let recorded := if ambiguous then ReasonCode.providerAmbiguity.value else reasonCode
  let u ← Tx.get
  let intent := u.intent
  if timedOut then
    append .paymentProviderTimeout
      [("payment_intent_id", .str intent.id.str), ("reason_code", .str reasonCode),
       ("provider", .str intent.provider), ("detail", .str detail),
       ("provider_ambiguity_remains", .bool intent.providerAmbiguityObservedAt.isSome)]
  else pure ()
  let payload := uncertainPayload intent detail
  if intent.state = .providerPending then do
    setIntent fun i => { i with lastReasonCode := some recorded }
    append .paymentProviderUncertain
      (transitionPayload intent .providerPending payload (some recorded))
  else
    applyPaymentTransition .providerPending .paymentProviderUncertain payload (some recorded)
  enqueueOutboxEvent .paymentReconcileRequested now

/-- `record_payment_attempt`: record execution only after provider evidence or a create
invocation. -/
def recordPaymentAttempt (providerCreateInvoked recoveredExisting : Bool) : Work Unit := do
  let u ← Tx.get
  let mut current := u.intent.state
  if current = .failedRetryable then
    assertPaymentTransition current .queued
    setIntent fun i => { i with state := .queued }
    current := .queued
  if current = .processing then pure ()
  else if current ≠ .queued then pure ()
  else do
    let u ← Tx.get
    applyPaymentTransition .processing .paymentAttempted
      [("provider", .str u.intent.provider), ("attempt", .int (u.intent.attempts + 1)),
       ("provider_create_invoked", .bool providerCreateInvoked),
       ("recovered_existing_provider_payment", .bool recoveredExisting)] none
    setIntent fun i => { i with attempts := i.attempts + 1 }

-- ════════════════════════════════════════════════════════════════════════
-- Dispatch
-- ════════════════════════════════════════════════════════════════════════

/-- The result of a turn that left the payment uncertain. -/
def uncertainResult : DispatchResult := ⟨.providerPending, true, true⟩

/-- Leave the payment uncertain and finish the event: the common ending of every dispatch whose
outcome is unknown. -/
def finishUncertain (detail : String) (now : Datetime)
    (reasonCode : String := ReasonCode.paymentProviderTimeout.value) (timedOut : Bool := true) :
    Handler DispatchResult := do
  onWork (markUncertain detail now reasonCode timedOut)
  completeEvent now
  pure uncertainResult

/-- Run a block, with a handler for `ProviderPaymentMismatch` only. -/
def exceptMismatch {σ α : Type} (x : Tx σ Exc α) (handler : ProviderError → Tx σ Exc α) :
    Tx σ Exc α :=
  tryCatch x fun exc =>
    match exc with
    | .provider error => if error.kind = .mismatch then handler error else Tx.raise exc
    | exc => Tx.raise exc

/-- `_finish_existing_before_create`. -/
def finishExistingBeforeCreate (ctx : TurnContext) (existing : ProviderPayment) :
    Handler DispatchResult := do
  let t ← Tx.get
  if t.work.intent.providerAmbiguityObservedAt ≠ none then
    finishUncertain
      ("one Order is currently visible, but multiple exact Orders were observed "
        ++ "previously; automatic adoption remains prohibited")
      ctx.now ReasonCode.providerAmbiguity.value false
  else
    exceptMismatch
      (do
        let state ← onWork do
          validateProviderPayment ctx.env existing true
          recordPaymentAttempt false true
          applyProviderPayment ctx.env ctx.db existing ctx.now
        let t ← Tx.get
        onWork (append .paymentReconciled
          (Dict.update (Dict.update
            [("payment_intent_id", .str t.work.intent.id.str),
             ("provider", .str t.work.intent.provider)] (providerEvidencePayload existing))
            [("state", .str state.value), ("recovered_before_create", .bool true),
             ("provider_create_fenced", .bool t.work.intent.providerCreateFencedAt.isSome)]))
        if state = .providerPending then
          onWork (enqueueOutboxEvent .paymentReconcileRequested ctx.now)
        else pure ()
        completeEvent ctx.now
        pure ⟨state, true, state == .providerPending⟩)
      fun mismatch => finishUncertain mismatch.detail ctx.now mismatch.reasonCode false

/-- `_recover_fenced_create`: search and reconcile a fenced intent, with no path to create. -/
def recoverFencedCreate (ctx : TurnContext) : Handler DispatchResult := do
  verifyIntentAuthorizationBeforeProviderIo ctx
  match ctx.lookup with
  | .failed error =>
    finishUncertain ("fenced create recovery lookup failed: " ++ error.detail) ctx.now
      error.reasonCode error.isTimeout
  | .raised exc => Tx.raise exc
  | .found existing => finishExistingBeforeCreate ctx existing
  | .notFound =>
    finishUncertain "create permission is fenced and receipt search found no Order" ctx.now
      ReasonCode.providerCreateFenced.value false

/-- The request for the intent as it is stored. -/
def paymentRequest (intent : PaymentIntentRow) : PaymentRequest :=
  { idempotencyKey := intent.idempotencyKey
    amountInr := intent.amountInr
    currency := intent.currency
    merchantId := intent.merchantId
    transactionDigestPrefix := digestPrefix intent.transactionDigest }

/-- `_audit_retry`. -/
def auditRetry (retried : Bool) : Handler Unit := do
  let t ← Tx.get
  onWork (append (if retried then .paymentRetryScheduled else .outboxEventDeadLettered)
    [("payment_intent_id", .str t.work.intent.id.str),
     ("outbox_event_id", .str t.event.id.str), ("attempts", .int t.event.attempts),
     ("max_attempts", .int t.event.maxAttempts),
     ("available_at", .str t.event.availableAt.isoformat)])

/-- What follows a create call that the provider answered with a payment. -/
def finishCreated (ctx : TurnContext) (payment : ProviderPayment) : Handler DispatchResult :=
  exceptMismatch
    (do
      let state ← onWork do
        validateProviderPayment ctx.env payment true
        applyProviderPayment ctx.env ctx.db payment ctx.now
      if state = .providerPending then
        onWork (enqueueOutboxEvent .paymentReconcileRequested ctx.now)
      else pure ()
      completeEvent ctx.now
      pure ⟨state, true, state == .providerPending⟩)
    fun mismatch => finishUncertain mismatch.detail ctx.now mismatch.reasonCode false

/-- What follows a create call that raised a timeout, a transient or a terminal error. -/
def finishCreateError (ctx : TurnContext) (error : ProviderError) : Handler DispatchResult := do
  if error.isTimeout then
    finishUncertain error.detail ctx.now
  else if error.isTransient then
    if !ctx.idempotent then
      finishUncertain
        ("provider refused the fenced create transiently; automatic create retry "
          ++ "remains prohibited") ctx.now error.reasonCode false
    else do
      let t ← Tx.get
      onWork (applyPaymentTransition .failedRetryable .paymentFailed
        [("provider", .str t.work.intent.provider), ("retryable", .bool true)]
        (some ReasonCode.providerTransientFailure.value))
      let retried ← rescheduleEvent error.detail ctx.now
      auditRetry retried
      pure ⟨.failedRetryable, true, retried⟩
  else do
    let t ← Tx.get
    onWork do
      applyPaymentTransition .failedTerminal .paymentFailed
        [("provider", .str t.work.intent.provider), ("retryable", .bool false),
         ("detail", .str error.detail)]
        (some ReasonCode.providerTerminalFailure.value)
      applyMissionState .paymentFailed
    completeEvent ctx.now
    pure ⟨.failedTerminal, true, false⟩

/-- The call to `provider.create_payment` and everything after it. Only a timeout, a transient
and a terminal error are caught. -/
def createPayment (ctx : TurnContext) : Handler DispatchResult := do
  Tx.modify fun t => { t with created := t.created ++ [paymentRequest t.work.intent] }
  match ctx.create with
  | .raised exc => Tx.raise exc
  | .failed error =>
    if error.isTimeout || error.isTransient || error.isTerminal then do
      onWork (recordPaymentAttempt true false)
      finishCreateError ctx error
    else Tx.raise (.provider error)
  | .payment payment => do
    onWork (recordPaymentAttempt true false)
    finishCreated ctx payment

/-- Provider I/O of `dispatch_create`: search for an existing payment, and create one when there
is none. -/
def searchThenCreate (ctx : TurnContext) : Handler DispatchResult := do
  match ctx.lookup with
  | .failed error =>
    finishUncertain ("pre-create lookup failed: " ++ error.detail) ctx.now error.reasonCode
      error.isTimeout
  | .raised exc => Tx.raise exc
  | .found existing => finishExistingBeforeCreate ctx existing
  | .notFound => do
    verifyIntentAuthorizationBeforeProviderIo ctx
    createPayment ctx

/-- How far a handler got: to its end, or to the commit of the create fence. -/
inductive HandlerStep where
  | done (result : DispatchResult)
  | fence
deriving DecidableEq

/-- `dispatch_create`, up to the acquisition of the create fence. The intent was just locked. -/
def dispatchCreate (ctx : TurnContext) : Handler HandlerStep := do
  onWork (validateProviderRoute ctx)
  let t ← Tx.get
  let intent := t.work.intent
  if intent.state.isTerminal then do
    completeEvent ctx.now
    pure (.done ⟨intent.state, false, false⟩)
  else if !ctx.idempotent && intent.providerCreateFencedAt.isSome then do
    -- a pre-existing fence wins over every non-terminal state
    let result ← recoverFencedCreate ctx
    pure (.done result)
  else if intent.state = .providerPending then do
    onWork (enqueueOutboxEvent .paymentReconcileRequested ctx.now)
    completeEvent ctx.now
    pure (.done ⟨intent.state, false, true⟩)
  else do
    let mut current := intent.state
    if current = .failedRetryable then
      assertPaymentTransition current .queued
      onWork (setIntent fun i => { i with state := .queued })
      current := .queued
    if current ≠ .queued then
      Tx.raise (.illegalPaymentTransition current .processing)
    else do
      verifyIntentAuthorizationBeforeProviderIo ctx
      if !ctx.idempotent then pure .fence
      else do
        let result ← searchThenCreate ctx
        pure (.done result)

/-- `dispatch_create` after the fence commit, with the intent reloaded under its lock. Only the
call that acquired the fence, and still finds the intent queued, goes on towards a create. -/
def dispatchCreateFenced (ctx : TurnContext) (fenceAcquired : Bool) : Handler DispatchResult := do
  onWork (validateProviderRoute ctx)
  let t ← Tx.get
  let intent := t.work.intent
  if intent.providerCreateFencedAt = none then
    Tx.raise (.runtimeError "provider create fence was not durable")
  else if !fenceAcquired || intent.state ≠ .queued then recoverFencedCreate ctx
  else do
    verifyIntentAuthorizationBeforeProviderIo ctx
    searchThenCreate ctx

end PaymentExecutor

end Pactra
