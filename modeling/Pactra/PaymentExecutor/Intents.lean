import Pactra.PaymentExecutor.Executor

/-!
# Payment intents and the outbox table

`services/payment_executor/intents.py` and the table operations of `outbox.py`. A payment request
is a sequence of statements that others interleave with; each definition here is one of them, and
`System/World.lean` puts them in order. What a request writes after its insert stays invisible
until its commit and holds the locks that keep others out, so it is one definition,
`finishIntent`.
-/

namespace Pactra

/-- The arguments of `create_payment_intent`. -/
structure PaymentArgs where
  missionId : Uuid
  authorizationId : Uuid
  idempotencyKey : String
  provider : String
  now : Datetime
deriving DecidableEq

namespace PaymentExecutor

-- ════════════════════════════════════════════════════════════════════════
-- Outbox table
-- ════════════════════════════════════════════════════════════════════════

/-- `DEFAULT_MAX_ATTEMPTS`. -/
def defaultMaxAttempts : Int := 8

/-- The row of an enqueued event. -/
def outboxRow (id paymentIntentId : Uuid) (new : NewOutboxEvent) (createdAt : Datetime) :
    OutboxEventRow :=
  { id := id, paymentIntentId := paymentIntentId, eventType := new.eventType,
    payload := new.payload, status := .pending, attempts := 0, maxAttempts := defaultMaxAttempts,
    availableAt := new.availableAt, claimedBy := none, lastError := none, createdAt := createdAt,
    processedAt := none }

/-- Write the rows a transaction enqueued for an intent. -/
def insertOutboxEvents (env : Env) (paymentIntentId : Uuid) : List NewOutboxEvent → DbTx Unit
  | [] => pure ()
  | new :: rest => do
    let id ← drawUuid env
    let createdAt ← drawNow env
    let db ← Tx.get
    if (db.getOutboxEvent id).isSome then Tx.raise .integrityError
    else do
      Tx.modify fun db =>
        { db with outboxEvents := db.outboxEvents ++ [outboxRow id paymentIntentId new createdAt] }
      insertOutboxEvents env paymentIntentId rest

/-- `_due_predicate`: scheduled and pending, or in progress past its lease. -/
def due (now : Datetime) (row : OutboxEventRow) : Bool :=
  decide ((row.status = .pending ∨ row.status = .inProgress) ∧ row.availableAt ≤ now)

/-- The due event that comes first in the queue, among those not locked by another claimer. -/
def nextDue (db : Db) (now : Datetime) (locked : List Uuid) : Option OutboxEventRow :=
  Table.best
    (fun a b => decide (a.availableAt < b.availableAt ∨
      a.availableAt = b.availableAt ∧ a.createdAt < b.createdAt))
    (db.outboxEvents.filter (fun r => due now r && !locked.contains r.id))

/-- The values a claim writes. -/
def claimedRow (workerId : String) (leaseUntil : Datetime) (row : OutboxEventRow) :
    OutboxEventRow :=
  { row with
    status := .inProgress, attempts := row.attempts + 1, claimedBy := some workerId,
    availableAt := leaseUntil }

/-- `_claim_postgres`: pick and claim in one statement, skipping locked rows. -/
def claimPostgres (db : Db) (workerId : String) (now leaseUntil : Datetime)
    (locked : List Uuid) : Option (Uuid × Db) :=
  match nextDue db now locked with
  | none => none
  | some row => some (row.id, db.updateOutboxEvent row.id (claimedRow workerId leaseUntil))

/-- The conditional update of `_claim_conditional`: it restates everything the candidate select
observed. -/
def claimConditional (db : Db) (workerId : String) (leaseUntil : Datetime)
    (eventId : Uuid) (seenStatus : OutboxStatus) (seenAvailableAt : Datetime) : Option Db :=
  match db.getOutboxEvent eventId with
  | some row =>
    if row.status = seenStatus ∧ row.availableAt = seenAvailableAt then
      some (db.updateOutboxEvent eventId (claimedRow workerId leaseUntil))
    else none
  | none => none

/-- Keep the current value of a column unless the session changed it. -/
def changedColumn {α : Type} [DecidableEq α] (loaded updated current : α) : α :=
  if updated = loaded then current else updated

/-- The update a session flushes for an outbox row: the columns that differ from the values it
loaded, applied to whatever the row holds by then. -/
def flushEvent (loaded updated current : OutboxEventRow) : OutboxEventRow :=
  { current with
    status := changedColumn loaded.status updated.status current.status
    availableAt := changedColumn loaded.availableAt updated.availableAt current.availableAt
    lastError := changedColumn loaded.lastError updated.lastError current.lastError
    processedAt := changedColumn loaded.processedAt updated.processedAt current.processedAt }

-- ════════════════════════════════════════════════════════════════════════
-- Payment requests
-- ════════════════════════════════════════════════════════════════════════

/-- `find_by_idempotency_key`. -/
def findByIdempotencyKey (db : Db) (key : String) : Option PaymentIntentRow :=
  Table.find PaymentIntentRow.idempotencyKey key db.paymentIntents

/-- The fingerprint of a request for a verified transaction. -/
def fingerprintOf (args : PaymentArgs) (authorization : AuthorizationRow)
    (transaction : BoundTransaction) : String :=
  requestFingerprint args.missionId args.authorizationId authorization.transactionDigest
    transaction.amountInr transaction.currency transaction.merchantId args.provider

/-- The authorization read of `create_payment_intent`. -/
def readAuthorization (db : Db) (args : PaymentArgs) : Except Exc AuthorizationRow :=
  match db.getAuthorization args.authorizationId with
  | none =>
    .error (.authorizationFailure .notFound args.authorizationId "no such authorization")
  | some authorization =>
    if authorization.missionId ≠ args.missionId then
      .error (.paymentRequestRejected ("authorization " ++ args.authorizationId.str
        ++ " does not belong to mission " ++ args.missionId.str))
    else .ok authorization

/-- The status the authorization must have: CONSUMED when the key already names an intent of this
authorization, ACTIVE otherwise. -/
def expectedStatus (args : PaymentArgs) (existing : Option PaymentIntentRow) :
    AuthorizationStatus :=
  match existing with
  | some intent => if intent.authorizationId = args.authorizationId then .consumed else .active
  | none => .active

/-- The mission check and the verification that follow the key lookup. The rows are those the
session holds; what a failed verification writes is rolled back by the caller. -/
def verifyRequest (env : Env) (db : Db) (args : PaymentArgs) (authorization : AuthorizationRow)
    (existing : Option PaymentIntentRow) (mission : Option Mission) :
    Except Exc BoundTransaction :=
  match mission with
  | none => .error (.paymentRequestRejected ("mission " ++ args.missionId.str
      ++ " does not exist"))
  | some mission =>
    if existing.isNone ∧ mission.state ≠ .authorized then
      .error (.missionNotAuthorized ("mission " ++ args.missionId.str ++ " is "
        ++ mission.state.value ++ ", expected " ++ MissionState.authorized.value))
    else
      ((SecurityKernel.verifyAuthorizationForPayment env authorization
        (expectedStatus args existing) args.now).run db).1

/-- The intent row a request inserts. It commits in state QUEUED; CREATED is never visible to
another transaction. -/
def newIntent (id : Uuid) (args : PaymentArgs) (authorization : AuthorizationRow)
    (transaction : BoundTransaction) (createdAt : Datetime) : PaymentIntentRow :=
  { id := id, missionId := args.missionId, authorizationId := args.authorizationId,
    transactionDigest := authorization.transactionDigest, idempotencyKey := args.idempotencyKey,
    requestFingerprint := fingerprintOf args authorization transaction,
    amountInr := transaction.amountInr, currency := transaction.currency,
    merchantId := transaction.merchantId, provider := args.provider, providerPaymentId := none,
    providerOrderId := none, providerTransactionId := none, providerReceipt := none,
    providerStatus := none, providerAttempts := none, providerCreateFencedAt := none,
    providerAmbiguityObservedAt := none, state := .created, attempts := 0,
    lastReasonCode := none, createdAt := createdAt }

/-- A unique constraint of `payment_intents` that inserting this row would violate. -/
def insertConflicts (db : Db) (intent : PaymentIntentRow) : Bool :=
  db.paymentIntents.any fun other =>
    decide (other.id = intent.id ∨ other.idempotencyKey = intent.idempotencyKey ∨
      other.authorizationId = intent.authorizationId)

/-- What follows the insert inside the savepoint, and the commit: consume the authorization,
queue the intent, audit, enqueue the create, and move the mission as the session last saw it. -/
def finishIntent (env : Env) (args : PaymentArgs) (transaction : BoundTransaction)
    (intent : PaymentIntentRow) (mission : Mission) : DbTx Unit := do
  let db ← Tx.get
  if insertConflicts db intent then Tx.raise .integrityError
  else do
    SecurityKernel.consumeAuthorization env args.authorizationId transaction args.now
    assertPaymentTransition .created .queued
    Tx.modify fun db =>
      { db with paymentIntents := db.paymentIntents ++ [{ intent with state := .queued }] }
    appendEvent env args.missionId ⟨.paymentIntentCreated, actor,
      [("payment_intent_id", .str intent.id.str),
       ("authorization_id", .str args.authorizationId.str),
       ("idempotency_key", .str args.idempotencyKey),
       ("transaction_digest_prefix", .str (digestPrefix intent.transactionDigest)),
       ("amount_inr", .int transaction.amountInr), ("currency", .str transaction.currency),
       ("merchant_id", .str transaction.merchantId), ("provider", .str args.provider)]⟩
    appendEvent env args.missionId ⟨.paymentQueued, actor,
      [("payment_intent_id", .str intent.id.str),
       ("state", .str PaymentIntentState.queued.value)]⟩
    insertOutboxEvents env intent.id
      [⟨.paymentCreateRequested, [("idempotency_key", .str args.idempotencyKey)], args.now⟩]
    if mission.state.canTransition .paymentPending then
      Tx.modify fun db =>
        db.updateMission args.missionId (fun m => { m with state := .paymentPending })
    else pure ()

/-- `_resolve_existing`, for an intent row as the session loaded it. -/
def resolveExisting (env : Env) (existing : PaymentIntentRow) (fingerprint : String)
    (idempotencyKey : String) : DbTx Unit :=
  if existing.requestFingerprint = fingerprint then
    appendEvent env existing.missionId ⟨.paymentIntentReused, actor,
      [("payment_intent_id", .str existing.id.str), ("idempotency_key", .str idempotencyKey),
       ("state", .str existing.state.value), ("authorization_consumed", .bool false)]⟩
  else do
    appendEvent env existing.missionId ⟨.idempotencyConflict, actor,
      [("reason_code", .str ReasonCode.idempotencyConflict.value),
       ("idempotency_key", .str idempotencyKey),
       ("existing_payment_intent_id", .str existing.id.str),
       ("existing_fingerprint_prefix", .str (digestPrefix existing.requestFingerprint)),
       ("presented_fingerprint_prefix", .str (digestPrefix fingerprint))]⟩
    Tx.raise (.idempotencyConflict ("idempotency key '" ++ idempotencyKey
      ++ "' was already used for a different payment request"))

end PaymentExecutor

end Pactra
