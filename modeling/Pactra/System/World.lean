import Pactra.AgentOrchestrator.Orchestrator
import Pactra.AuditLedger.Replay
import Pactra.Foundation.Runs
import Pactra.PaymentExecutor.Intents
import Pactra.PaymentExecutor.Reconciliation
import Pactra.PaymentExecutor.Webhooks

/-!
# The system

Everything that runs at once: missions being created and approved, payment requests, workers
claiming and handling outbox events, webhooks, revocations, expiries and crashes, over one
database. A step is one statement or one transaction, at the granularity at which transactions can
observe each other:

* a payment request (`create_payment_intent` and the route around it) takes one step per statement,
  and keeps the rows it has loaded;
* a worker turn (`run_once`) claims, loads its event, and handles it; the commit of the create
  fence and the recovery after an exception are steps of their own;
* a handler that holds the lock of the intent row, a webhook, and the creation of a mission are one
  step each.

A process may stop between any two steps, and inside a handler after the provider was called.

The trace records what cannot be read off the database: which call committed a create fence, and
which call invoked `provider.create_payment`.
-/

namespace Pactra

/-- How far a payment request has come. -/
inductive CallPhase where
  | called (mission : Option Mission)
  | authorizationRead (authorization : AuthorizationRow) (mission : Option Mission)
  | keyRead (authorization : AuthorizationRow) (existing : Option PaymentIntentRow)
      (mission : Option Mission)
  | inserting (authorization : AuthorizationRow) (transaction : BoundTransaction)
      (mission : Mission)
  | inserted (transaction : BoundTransaction) (intent : PaymentIntentRow) (mission : Mission)
  | conflicted (fingerprint : String)
  | resolving (existing : PaymentIntentRow) (fingerprint : String)
  | returned (intentId : Uuid) (created : Bool)
  | refused (exc : Exc)
  | abandoned

/-- One payment request. -/
structure PaymentCall where
  args : PaymentArgs
  phase : CallPhase

/-- How far a worker turn has come. -/
inductive TurnPhase where
  | started
  | selected (eventId : Uuid) (status : OutboxStatus) (availableAt : Datetime)
  | claimed (eventId : Uuid)
  | loaded (event : OutboxEventRow)
  | fencing (event : OutboxEventRow) (requeue : Bool)
  | reconcileFencing (event : OutboxEventRow)
  | fenced (event : OutboxEventRow) (acquired : Bool)
  | reconcileFenced (event : OutboxEventRow)
  | raised (eventId : Uuid) (exc : Exc)
  | recovering (event : OutboxEventRow) (exc : Exc)
  | ended

/-- One worker turn. -/
structure WorkerTurn where
  workerId : String
  provider : String
  now : Datetime
  lease : Int
  phase : TurnPhase

/-- One approval request that has passed its state check, with the mission row it loaded. -/
structure ApprovalCall where
  mission : Mission
  authorizationId : Uuid
  signingKeyId : String
  signatureHex : String
  now : Datetime
  ended : Bool

/-- What is recorded besides the database. -/
inductive Observation where
  | fenceCommitted (turn : Nat) (intentId : Uuid) (acquired : Bool)
  | createPayment (turn : Nat) (intentId : Uuid) (request : PaymentRequest)
deriving DecidableEq

/-- The state of the whole system. -/
structure World where
  db : Db
  calls : List PaymentCall
  turns : List WorkerTurn
  approvals : List ApprovalCall
  trace : List Observation

/-- The system before anything happened. -/
def World.init : World := ⟨Db.empty, [], [], [], []⟩

/-- The steps of the system. -/
inductive Action where
  | runMission (request : CreateMissionRequest) (quotes : List AuthenticatedQuote)
  | openApproval (missionId : Uuid) (signingKeyId signatureHex : String) (now : Datetime)
  | finishApproval (k : Nat)
  | revoke (authorizationId : Uuid) (reason : String) (now : Datetime)
  | expire (authorizationId : Uuid) (now : Datetime)
  | openRequest (args : PaymentArgs) (preload : Bool)
  | requestStep (k : Nat)
  | abandonRequest (k : Nat)
  | startTurn (workerId provider : String) (now : Datetime) (lease : Int)
  | claimPostgres (k : Nat) (locked : List Uuid)
  | selectCandidate (k : Nat)
  | claimConditional (k : Nat)
  | loadEvent (k : Nat)
  | handle (k : Nat) (lookup : LookupAnswer) (create : CreateAnswer)
  | commitFence (k : Nat)
  | loadStale (k : Nat)
  | recover (k : Nat)
  | crash (k : Nat)
  | crashHandling (k : Nat) (lookup : LookupAnswer) (create : CreateAnswer)
  | webhook (provider : String) (event : VerifiedWebhookEvent) (now : Datetime)

namespace World

open PaymentExecutor

-- ════════════════════════════════════════════════════════════════════════
-- Commits
-- ════════════════════════════════════════════════════════════════════════

/-- Make a unit of work durable: the intent and mission rows, the enqueued outbox rows, and the
audit events. The unique constraints on provider references fire when the intent row is flushed. -/
def commitWork (env : Env) (u : UnitOfWork) : DbTx Unit := do
  let db ← Tx.get
  if referenceTaken db u.intent then Tx.raise .integrityError
  else do
    Tx.modify fun db => db.updatePaymentIntent u.intent.id (fun _ => u.intent)
    match u.mission with
    | some m => Tx.modify fun db => db.updateMission m.id (fun _ => m)
    | none => pure ()
    insertOutboxEvents env u.intent.id u.enqueued
    appendEvents env u.intent.missionId u.entries

/-- Make a handler's transaction durable: its unit of work, and the columns of the outbox row it
changed since it loaded the row. -/
def commitTurn (env : Env) (loaded : OutboxEventRow) (t : Turn) : DbTx Unit := do
  Tx.modify fun db => db.updateOutboxEvent loaded.id (flushEvent loaded t.event)
  commitWork env t.work

/-- Make a webhook delivery durable. -/
def commitWebhook (env : Env) (event : VerifiedWebhookEvent) (now : Datetime) (u : UnitOfWork)
    (applied : Option (Option PaymentIntentState)) : DbTx Unit := do
  match applied with
  | none => pure ()
  | some state => do
    let id ← drawUuid env
    let db ← Tx.get
    if (Table.find WebhookEventRow.id id db.webhookEvents).isSome then Tx.raise .integrityError
    else
      Tx.modify fun db =>
        { db with
          webhookEvents := db.webhookEvents ++ [webhookRow id u.intent.id event now state] }
  commitWork env u

/-- The unit of work of a transaction that has just locked an intent. -/
def lockIntent (db : Db) (intent : PaymentIntentRow) : UnitOfWork :=
  ⟨intent, db.getMission intent.missionId, [], []⟩

-- ════════════════════════════════════════════════════════════════════════
-- Payment requests
-- ════════════════════════════════════════════════════════════════════════

/-- The key and the authorization a request has inserted an uncommitted intent for. -/
def CallPhase.holds : CallPhase → Option (String × Uuid)
  | .inserted _ intent _ => some (intent.idempotencyKey, intent.authorizationId)
  | _ => none

/-- Whether an insert has to wait for another request's uncommitted insert of the same key or
authorization. -/
def insertWaits (calls : List PaymentCall) (args : PaymentArgs) : Bool :=
  calls.any fun c =>
    match CallPhase.holds c.phase with
    | some (key, authorizationId) =>
      decide (key = args.idempotencyKey ∨ authorizationId = args.authorizationId)
    | none => false

/-- The next statement of a payment request: the phase it reaches and the database after it. -/
def stepCall (env : Env) (db : Db) (calls : List PaymentCall) (args : PaymentArgs) :
    CallPhase → Option (CallPhase × Db)
  | .called mission =>
    match readAuthorization db args with
    | .error exc => some (.refused exc, db)
    | .ok authorization => some (.authorizationRead authorization mission, db)
  | .authorizationRead authorization mission =>
    some (.keyRead authorization (findByIdempotencyKey db args.idempotencyKey) mission, db)
  | .keyRead authorization existing mission =>
    -- a mission row the session already holds is not read again
    let mission := mission.or (db.getMission args.missionId)
    match verifyRequest env db args authorization existing mission, existing, mission with
    | .error exc, _, _ => some (.refused exc, db)
    | .ok transaction, some intent, _ =>
      some (.resolving intent (fingerprintOf args authorization transaction), db)
    | .ok transaction, none, some mission =>
      some (.inserting authorization transaction mission, db)
    | .ok _, none, none => none
  | .inserting authorization transaction mission =>
    if insertWaits calls args then none
    else
      let intent := newIntent (env.uuid4 db.drawn) args authorization transaction
        (env.utcnow (db.drawn + 1))
      let db := { db with drawn := db.drawn + 2 }
      if insertConflicts db intent then
        some (.conflicted (fingerprintOf args authorization transaction), db)
      else some (.inserted transaction intent mission, db)
  | .inserted transaction intent mission =>
    match (finishIntent env args transaction intent mission).run db with
    | (.ok (), db') => some (.returned intent.id true, db')
    | (.error .integrityError, _) => some (.conflicted intent.requestFingerprint, db)
    | (.error exc, _) => some (.refused exc, db)
  | .conflicted fingerprint =>
    match findByIdempotencyKey db args.idempotencyKey with
    | none => some (.refused .integrityError, db)
    | some winner => some (.resolving winner fingerprint, db)
  | .resolving existing fingerprint =>
    match (resolveExisting env existing fingerprint args.idempotencyKey).run db with
    | (.ok (), db') => some (.returned existing.id false, db')
    | (.error exc, _) => some (.refused exc, db)
  | .returned _ _ => none
  | .refused _ => none
  | .abandoned => none

/-- Whether a request is over. -/
def CallPhase.isOver : CallPhase → Bool
  | .returned _ _ | .refused _ | .abandoned => true
  | _ => false

-- ════════════════════════════════════════════════════════════════════════
-- Worker turns
-- ════════════════════════════════════════════════════════════════════════

/-- The handler that a turn's phase runs, and the outbox event it runs it for. -/
def handlerOf (ctx : TurnContext) : TurnPhase → Option (OutboxEventRow × Handler HandlerStep)
  | .loaded event =>
    match event.eventType with
    | .paymentCreateRequested => some (event, dispatchCreate ctx)
    | .paymentReconcileRequested => some (event, reconcileIntent ctx)
  | .fenced event acquired => some (event, do
      let result ← dispatchCreateFenced ctx acquired
      pure (.done result))
  | .reconcileFenced event => some (event, do
      let result ← reconcileIntentFenced ctx
      pure (.done result))
  | _ => none

/-- The phase in which a handler that stopped before the fence commit waits for it. -/
def fencingPhase (event : OutboxEventRow) (intent : PaymentIntentRow) (t : Turn) : TurnPhase :=
  match event.eventType with
  | .paymentCreateRequested =>
    .fencing event (decide (t.work.intent.state ≠ intent.state))
  | .paymentReconcileRequested => .reconcileFencing event

/-- The calls a handler made to the provider, as observations. -/
def createObservations (k : Nat) (intentId : Uuid) (t : Turn) : List Observation :=
  t.created.map (.createPayment k intentId)

/-- Replace the phase of a turn. -/
def setTurn (w : World) (k : Nat) (turn : WorkerTurn) (phase : TurnPhase) : World :=
  { w with turns := w.turns.set k { turn with phase := phase } }

/-- The context of a turn's handler. -/
def contextOf (env : Env) (db : Db) (turn : WorkerTurn) (lookup : LookupAnswer)
    (create : CreateAnswer) : TurnContext :=
  ⟨env, db, turn.provider, turn.now, lookup, create⟩

/-- What one handler segment of a turn does to the world. -/
def handleTurn (env : Env) (w : World) (k : Nat) (turn : WorkerTurn) (lookup : LookupAnswer)
    (create : CreateAnswer) : Option World :=
  match handlerOf (contextOf env w.db turn lookup create) turn.phase with
  | none => none
  | some (event, handler) =>
    match w.db.getPaymentIntent event.paymentIntentId with
    | none =>
      some (w.setTurn k turn (.raised event.id (.valueError ("outbox event " ++ event.id.str
        ++ " references a missing payment intent"))))
    | some intent =>
      match handler.run ⟨lockIntent w.db intent, event, []⟩ with
      | (.ok (.done _), t) =>
        let w := { w with trace := w.trace ++ createObservations k intent.id t }
        match (commitTurn env event t).run w.db with
        | (.ok (), db') => some { w.setTurn k turn .ended with db := db' }
        | (.error exc, _) => some (w.setTurn k turn (.raised event.id exc))
      | (.ok .fence, t) => some (w.setTurn k turn (fencingPhase event intent t))
      | (.error exc, t) =>
        let w := { w with trace := w.trace ++ createObservations k intent.id t }
        some (w.setTurn k turn (.raised event.id exc))

/-- A process that stops inside a handler segment: the calls it made to the provider have
happened, the transaction has not. -/
def crashTurn (env : Env) (w : World) (k : Nat) (turn : WorkerTurn) (lookup : LookupAnswer)
    (create : CreateAnswer) : Option World :=
  match handlerOf (contextOf env w.db turn lookup create) turn.phase with
  | none => none
  | some (event, handler) =>
    match w.db.getPaymentIntent event.paymentIntentId with
    | none => none
    | some intent =>
      let t := (handler.run ⟨lockIntent w.db intent, event, []⟩).2
      let w := { w with trace := w.trace ++ createObservations k intent.id t }
      some (w.setTurn k turn .ended)

/-- The conditional update of `acquire_provider_create_fence`, on the row as it is by then; a
pending in-memory requeue is flushed first. -/
def acquireProviderCreateFence (now : Datetime) (requeue : Bool) (intent : PaymentIntentRow) :
    PaymentIntentRow × Bool :=
  let intent := if requeue then { intent with state := .queued } else intent
  if intent.state = .queued ∧ intent.providerCreateFencedAt = none then
    ({ intent with providerCreateFencedAt := some now }, true)
  else (intent, false)

/-- The fence update of `reconcile_intent`: it consumes the create permission in any state. -/
def consumeCreatePermission (now : Datetime) (intent : PaymentIntentRow) : PaymentIntentRow :=
  { intent with providerCreateFencedAt := some (intent.providerCreateFencedAt.getD now) }

/-- The commit of the create fence. -/
def fenceTurn (w : World) (k : Nat) (turn : WorkerTurn) : Option World :=
  match turn.phase with
  | .fencing event requeue =>
    match w.db.getPaymentIntent event.paymentIntentId with
    | none => none
    | some intent =>
      let acquired := acquireProviderCreateFence turn.now requeue intent
      some { w.setTurn k turn (.fenced event acquired.2) with
        db := w.db.updatePaymentIntent intent.id (fun _ => acquired.1)
        trace := w.trace ++ [.fenceCommitted k intent.id acquired.2] }
  | .reconcileFencing event =>
    match w.db.getPaymentIntent event.paymentIntentId with
    | none => none
    | some intent =>
      some { w.setTurn k turn (.reconcileFenced event) with
        db := w.db.updatePaymentIntent intent.id (consumeCreatePermission turn.now) }
  | _ => none

/-- The statements of a turn other than its handler. -/
def stepTurn (w : World) (k : Nat) (turn : WorkerTurn) : Action → Option World
  | .claimPostgres _ locked =>
    match turn.phase with
    | .started =>
      match claimPostgres w.db turn.workerId turn.now (turn.now + turn.lease) locked with
      | none => some (w.setTurn k turn .ended)
      | some (eventId, db') => some { w.setTurn k turn (.claimed eventId) with db := db' }
    | _ => none
  | .selectCandidate _ =>
    match turn.phase with
    | .started =>
      match nextDue w.db turn.now [] with
      | none => some (w.setTurn k turn .ended)
      | some row => some (w.setTurn k turn (.selected row.id row.status row.availableAt))
    | _ => none
  | .claimConditional _ =>
    match turn.phase with
    | .selected eventId status availableAt =>
      match claimConditional w.db turn.workerId (turn.now + turn.lease) eventId status
          availableAt with
      | none => some (w.setTurn k turn .ended)
      | some db' => some { w.setTurn k turn (.claimed eventId) with db := db' }
    | _ => none
  | .loadEvent _ =>
    match turn.phase with
    | .claimed eventId =>
      match w.db.getOutboxEvent eventId with
      | none => some (w.setTurn k turn .ended)
      | some event =>
        -- another worker's claim ends the turn, outside the recovery block
        if event.claimedBy ≠ some turn.workerId then some (w.setTurn k turn .ended)
        else some (w.setTurn k turn (.loaded event))
    | _ => none
  | .loadStale _ =>
    match turn.phase with
    | .raised eventId exc =>
      match w.db.getOutboxEvent eventId with
      | none => some (w.setTurn k turn .ended)
      | some event => some (w.setTurn k turn (.recovering event exc))
    | _ => none
  | .recover _ =>
    match turn.phase with
    | .recovering event exc =>
      some { w.setTurn k turn .ended with
        db := w.db.updateOutboxEvent event.id (flushEvent event
          (rescheduled (exc.name ++ ": " ++ exc.text) turn.now event)) }
    | _ => none
  | .crash _ =>
    match turn.phase with
    | .ended => none
    | _ => some (w.setTurn k turn .ended)
  | _ => none

-- ════════════════════════════════════════════════════════════════════════
-- Steps
-- ════════════════════════════════════════════════════════════════════════

/-- The approval route up to its state check. A request that fails it has no effect. -/
def openApproval (w : World) (missionId : Uuid) (signingKeyId signatureHex : String)
    (now : Datetime) : World :=
  match w.db.getMission missionId, Replay.authorizationForMission w.db missionId with
  | some mission, some row =>
    if mission.state = .awaitingApproval then
      { w with
        approvals := w.approvals ++
          [⟨mission, row.authorizationId, signingKeyId, signatureHex, now, false⟩] }
    else w
  | _, _ => w

/-- The rest of the approval route: verify the proof, activate, and authorize the mission. The
record of a refused authorization is committed; any other exception is rolled back. -/
def approve (env : Env) (call : ApprovalCall) : DbTx Unit := do
  SecurityKernel.approveAuthorizationWithSignature env call.mission.id call.authorizationId
    call.signingKeyId call.signatureHex call.now
  assertTransition call.mission.state .authorized
  Tx.modify fun db => db.updateMission call.mission.id (fun m => { m with state := .authorized })

/-- What the caller of an authorization operation makes durable: everything when it returned, the
audit record when it was refused, nothing otherwise. -/
def settle {α : Type} (db : Db) : Except Exc α × Db → Db
  | (.ok _, db') => db'
  | (.error (.authorizationFailure _ _ _), db') => db'
  | (.error _, _) => db

/-- The committed database after `POST /missions`: a bind refusal is committed too. -/
def settleMission (db : Db) : Except Exc Uuid × Db → Db
  | (.ok _, db') => db'
  | (.error (.bindRefusedOfferChanged _ _ _ _), db') => db'
  | (.error _, _) => db

/-- A verified webhook delivery through the adapter with a given name. -/
def deliverWebhook (env : Env) (w : World) (provider : String) (event : VerifiedWebhookEvent)
    (now : Datetime) : World :=
  if event.provider ≠ provider then w
  else
    match findIntent w.db event with
    | none => w
    | some intent =>
      match (handleWebhook w.db event).run (lockIntent w.db intent) with
      | (.error _, _) => w
      | (.ok (_, applied), u) =>
        match (commitWebhook env event now u applied).run w.db with
        | (.ok (), db') => { w with db := db' }
        | (.error _, _) => w

/-- The turn an action is about. -/
def Action.turn : Action → Option Nat
  | .claimPostgres k _ | .selectCandidate k | .claimConditional k | .loadEvent k
  | .handle k _ _ | .commitFence k | .loadStale k | .recover k | .crash k
  | .crashHandling k _ _ => some k
  | _ => none

/-- One step of the system. -/
def step (env : Env) (w : World) : Action → Option World
  | .runMission request quotes =>
    some { w with
      db := settleMission w.db ((AgentOrchestrator.run env request quotes).run w.db) }
  | .openApproval missionId signingKeyId signatureHex now =>
    some (openApproval w missionId signingKeyId signatureHex now)
  | .finishApproval k =>
    match w.approvals[k]? with
    | none => none
    | some call =>
      if call.ended then none
      else
        some { w with
          db := settle w.db ((approve env call).run w.db)
          approvals := w.approvals.set k { call with ended := true } }
  | .revoke authorizationId reason now =>
    some { w with
      db := settle w.db ((SecurityKernel.revokeAuthorization env authorizationId reason now).run
        w.db) }
  | .expire authorizationId now =>
    some { w with
      db := settle w.db ((SecurityKernel.expireIfStale env authorizationId now).run w.db) }
  | .openRequest args preload =>
    some { w with
      calls := w.calls ++
        [⟨args, .called (if preload then w.db.getMission args.missionId else none)⟩] }
  | .requestStep k =>
    match w.calls[k]? with
    | none => none
    | some call =>
      match stepCall env w.db w.calls call.args call.phase with
      | none => none
      | some (phase, db') =>
        some { w with db := db', calls := w.calls.set k { call with phase := phase } }
  | .abandonRequest k =>
    match w.calls[k]? with
    | none => none
    | some call =>
      if CallPhase.isOver call.phase then none
      else some { w with calls := w.calls.set k { call with phase := .abandoned } }
  | .startTurn workerId provider now lease =>
    some { w with turns := w.turns ++ [⟨workerId, provider, now, lease, .started⟩] }
  | .webhook provider event now => some (deliverWebhook env w provider event now)
  | .handle k lookup create =>
    match w.turns[k]? with
    | none => none
    | some turn => handleTurn env w k turn lookup create
  | .crashHandling k lookup create =>
    match w.turns[k]? with
    | none => none
    | some turn => crashTurn env w k turn lookup create
  | .commitFence k =>
    match w.turns[k]? with
    | none => none
    | some turn => fenceTurn w k turn
  | action =>
    match Action.turn action with
    | none => none
    | some k =>
      match w.turns[k]? with
      | none => none
      | some turn => stepTurn w k turn action

/-- The world after a list of steps from the empty database. -/
def exec (env : Env) (actions : List Action) : Option World :=
  Runs.run (step env) World.init actions

end World

end Pactra
