import Pactra.Db.Exceptions
import Pactra.Foundation.PyStr
import Pactra.Foundation.Tx
import Pactra.Foundation.Table

/-!
# Database

The rows of `apps/api/db/models.py`, the database they live in, and the services the program
takes from its surroundings. A column whose only writers store members of an enumeration has
that enumeration as its type. The audit columns `event_type` and `payload` keep their raw
types, because replay has to refuse what it cannot interpret.

Primary keys and unique constraints are checked where a row is written: a violation raises
`Exc.integrityError`, as the database does.
-/

namespace Pactra

/-- What the program takes from its surroundings: the random source and the clock (indexed by
how many draws were made before), settings, the Ed25519 implementation, and the library functions
on Unicode text that Lean does not provide. -/
structure Env where
  uuid4 : Nat → Uuid
  utcnow : Nat → Datetime
  tokenHex : Nat → String
  /-- `str.upper`. -/
  upper : String → String
  upper_upper : ∀ s, upper (upper s) = upper s
  /-- `repr` of a text. -/
  repr : String → String
  /-- `repr` of a finite float. -/
  floatRepr : Rat → String
  /-- `str` of a JSON value. -/
  pyStr : Json → String
  /-- Whether `public_key.verify(signature, message)` returns. -/
  ed25519Verify : (publicKey signature message : List Nat) → Bool
  demoApproverSigningKeyId : String
  demoApproverPublicKeyHex : Option String
  authorizationTtlSeconds : Int
  /-- `create_retries_are_idempotent` of the adapter with a given name. -/
  createRetriesAreIdempotent : String → Bool

/-- Case mapping that does nothing is idempotent. -/
lemma upper_id (s : String) : id (id s) = id s := rfl

/-- `missions`. -/
structure Mission where
  id : Uuid
  rawQuery : Option String
  quantity : Int
  state : MissionState

/-- `mission_constraints`. -/
structure MissionConstraintsRow where
  id : Uuid
  missionId : Uuid
  category : String
  softBudgetInr : Int
  hardLimitInr : Int
  minRating : Rat
  currency : String
  allowedMerchants : Option (List PyStr)
  blockedMerchants : List PyStr
  minMerchantTrust : Rat

/-- `offers`. -/
structure Offer where
  id : Uuid
  missionId : Uuid
  offerVersion : String
  merchantId : String
  merchantName : String
  merchantTrust : Rat
  productId : String
  title : String
  amountInr : Int
  currency : String
  rating : Rat
  inStock : Bool
  offeredAt : Datetime
  valid : Bool
  rejectionReasons : List ReasonCode
  rank : Option Nat
  claimedMerchantId : String

/-- `policy_decisions`. -/
structure PolicyDecisionRow where
  id : Uuid
  missionId : Uuid
  decision : PolicyOutcome
  policyVersion : String
  reasonCodes : List ReasonCode
  requestedAmount : Option Int
  softBudget : Int
  hardLimit : Int
  selectedOfferId : Option Uuid
  createdAt : Datetime

/-- `audit_events`. -/
structure AuditEventRow where
  eventId : Uuid
  missionId : Uuid
  sequence : Nat
  eventType : String
  actor : String
  payload : Json
  previousHash : String
  eventHash : String
  createdAt : Datetime

/-- `authorizations`. -/
structure AuthorizationRow where
  authorizationId : Uuid
  missionId : Uuid
  transactionDigest : String
  nonce : String
  bindingVersion : String
  policyVersion : String
  offerVersion : String
  approvalScheme : ApprovalScheme
  signingKeyId : Option String
  approvalSignature : Option String
  status : AuthorizationStatus
  issuedAt : Datetime
  expiresAt : Datetime
  consumedAt : Option Datetime
  boundMerchantId : String
  boundProductId : String
  boundQuantity : Int
  boundAmountInr : Int
  boundCurrency : String

/-- `payment_intents`. -/
structure PaymentIntentRow where
  id : Uuid
  missionId : Uuid
  authorizationId : Uuid
  transactionDigest : String
  idempotencyKey : String
  requestFingerprint : String
  amountInr : Int
  currency : String
  merchantId : String
  provider : String
  providerPaymentId : Option String
  providerOrderId : Option String
  providerTransactionId : Option String
  providerReceipt : Option String
  providerStatus : Option String
  providerAttempts : Option Int
  providerCreateFencedAt : Option Datetime
  providerAmbiguityObservedAt : Option Datetime
  state : PaymentIntentState
  attempts : Int
  lastReasonCode : Option String
  createdAt : Datetime

/-- `outbox_events`. -/
structure OutboxEventRow where
  id : Uuid
  paymentIntentId : Uuid
  eventType : OutboxEventType
  payload : Dict
  status : OutboxStatus
  attempts : Int
  maxAttempts : Int
  availableAt : Datetime
  claimedBy : Option String
  lastError : Option String
  createdAt : Datetime
  processedAt : Option Datetime

/-- `webhook_events`. -/
structure WebhookEventRow where
  id : Uuid
  provider : String
  providerEventId : String
  eventType : WebhookEventType
  providerPaymentId : String
  providerTransactionId : Option String
  paymentIntentId : Uuid
  sequence : Option Int
  receivedAt : Datetime
  processedAt : Option Datetime
  appliedState : Option PaymentIntentState

/-- The committed content of the database, and how many values were drawn from the random source
and the clock so far. -/
structure Db where
  missions : List Mission
  missionConstraints : List MissionConstraintsRow
  offers : List Offer
  policyDecisions : List PolicyDecisionRow
  auditEvents : List AuditEventRow
  authorizations : List AuthorizationRow
  paymentIntents : List PaymentIntentRow
  outboxEvents : List OutboxEventRow
  webhookEvents : List WebhookEventRow
  drawn : Nat

/-- The empty database. -/
def Db.empty : Db := ⟨[], [], [], [], [], [], [], [], [], 0⟩

/-- A transaction on the database. -/
abbrev DbTx := Tx Db Exc

namespace Db

/-- `session.get(Mission, id)`. -/
def getMission (db : Db) (id : Uuid) : Option Mission := Table.find Mission.id id db.missions

/-- `session.get(AuthorizationRow, id)`. -/
def getAuthorization (db : Db) (id : Uuid) : Option AuthorizationRow :=
  Table.find AuthorizationRow.authorizationId id db.authorizations

/-- `session.get(PaymentIntentRow, id)`. -/
def getPaymentIntent (db : Db) (id : Uuid) : Option PaymentIntentRow :=
  Table.find PaymentIntentRow.id id db.paymentIntents

/-- `session.get(OutboxEventRow, id)`. -/
def getOutboxEvent (db : Db) (id : Uuid) : Option OutboxEventRow :=
  Table.find OutboxEventRow.id id db.outboxEvents

/-- Change the mission row with a given id. -/
def updateMission (db : Db) (id : Uuid) (f : Mission → Mission) : Db :=
  { db with missions := Table.update Mission.id id f db.missions }

/-- Change the authorization row with a given id. -/
def updateAuthorization (db : Db) (id : Uuid) (f : AuthorizationRow → AuthorizationRow) : Db :=
  { db with
    authorizations := Table.update AuthorizationRow.authorizationId id f db.authorizations }

/-- Change the intent row with a given id. -/
def updatePaymentIntent (db : Db) (id : Uuid) (f : PaymentIntentRow → PaymentIntentRow) : Db :=
  { db with paymentIntents := Table.update PaymentIntentRow.id id f db.paymentIntents }

/-- Change the outbox row with a given id. -/
def updateOutboxEvent (db : Db) (id : Uuid) (f : OutboxEventRow → OutboxEventRow) : Db :=
  { db with outboxEvents := Table.update OutboxEventRow.id id f db.outboxEvents }

/-- The committed events of a mission, in table order. -/
def chain (db : Db) (missionId : Uuid) : List AuditEventRow :=
  db.auditEvents.filter (fun e => decide (e.missionId = missionId))

end Db

/-- Draw a fresh identifier. -/
def drawUuid (env : Env) : DbTx Uuid := fun db =>
  (.ok (env.uuid4 db.drawn), { db with drawn := db.drawn + 1 })

/-- Read the clock. -/
def drawNow (env : Env) : DbTx Datetime := fun db =>
  (.ok (env.utcnow db.drawn), { db with drawn := db.drawn + 1 })

/-- `secrets.token_hex`. -/
def drawToken (env : Env) : DbTx String := fun db =>
  (.ok (env.tokenHex db.drawn), { db with drawn := db.drawn + 1 })

@[simp] theorem run_drawUuid (env : Env) (db : Db) :
    (drawUuid env).run db = (.ok (env.uuid4 db.drawn), { db with drawn := db.drawn + 1 }) := rfl

@[simp] theorem run_drawNow (env : Env) (db : Db) :
    (drawNow env).run db = (.ok (env.utcnow db.drawn), { db with drawn := db.drawn + 1 }) := rfl

@[simp] theorem run_drawToken (env : Env) (db : Db) :
    (drawToken env).run db = (.ok (env.tokenHex db.drawn), { db with drawn := db.drawn + 1 }) := rfl

/-- `require(condition, invariant_id, detail)`. -/
def require {σ : Type} (condition : Bool) (invariantId detail : String) : Tx σ Exc Unit :=
  if condition then pure () else Tx.raise (.invariantViolation invariantId detail)

/-- A computation that starts with a check returned a value exactly when the check passed and
the rest did. -/
theorem require_bind_ok {σ α : Type} {condition : Bool} {invariantId detail : String}
    {f : Unit → Tx σ Exc α} {s s' : σ} {a : α} :
    (require condition invariantId detail >>= f).run s = (.ok a, s') ↔
      condition = true ∧ (f ()).run s = (.ok a, s') := by
  cases condition <;> simp [require, Tx.run_bind]

end Pactra
