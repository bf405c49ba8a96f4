import Pactra.Foundation.Hmac
import Pactra.PaymentExecutor.Providers.Orders

/-!
# Webhook verification

`verify_webhook` of `services/payment_executor/providers/razorpay.py`, and the step of
`handle_webhook` that calls it. What `json.loads` makes of the decoded body is a parameter. Three
exceptions escape: an event name that cannot be hashed, a `created_at` that the platform cannot
convert, and a body whose parsing fails with something other than a decoding error.

## Main results

- `webhookEvidence_ok` — which signed objects carry evidence
- `readWebhook_ok`, `readWebhook_error` — what is made of a signed object
- `verifyDelivery_ends` — what `handle_webhook` makes of it
- `webhook_verified_iff` — when verification is total, and what its events rest on
-/

namespace Pactra

namespace Razorpay

-- ════════════════════════════════════════════════════════════════════════
-- The source
-- ════════════════════════════════════════════════════════════════════════

/-- `WebhookVerificationError`. -/
structure WebhookVerificationError where
  provider : String
  detail : String
  reasonCode : String
deriving DecidableEq

/-- What `verify_webhook` can raise: its own error, or an exception that passes through it. -/
inductive VerifyExc where
  | verification (error : WebhookVerificationError)
  | other (e : Exc)
deriving DecidableEq

/-- What `json.loads(body.decode("utf-8"))` does: a value, a `UnicodeDecodeError` or
`JSONDecodeError`, or another exception, as for an integer of too many digits. -/
inductive Loaded where
  | value (v : Value)
  | decodeError
  | raised (e : Exc)

/-- What verification uses of the Python runtime. -/
structure Runtime where
  loads : List UInt8 → Loaded
  repr : Option Value → String

/-- The events of Razorpay that are supported. -/
inductive EventName where
  | paymentAuthorized | paymentCaptured | paymentFailed | orderPaid
deriving DecidableEq

namespace EventName

/-- The name of an event. -/
def value : EventName → String
  | .paymentAuthorized => "payment.authorized"
  | .paymentCaptured => "payment.captured"
  | .paymentFailed => "payment.failed"
  | .orderPaid => "order.paid"

/-- The event with a name. -/
def ofText (s : String) : Option EventName :=
  [paymentAuthorized, paymentCaptured, paymentFailed, orderPaid].find? fun e => e.value == s

/-- `event_types`. -/
def eventType : EventName → WebhookEventType
  | .paymentAuthorized => .paymentPending
  | .paymentCaptured => .paymentSucceeded
  | .paymentFailed => .paymentAttemptFailed
  | .orderPaid => .paymentSucceeded

/-- `required_status`. -/
def requiredStatus : EventName → String
  | .paymentAuthorized => "authorized"
  | .paymentCaptured => "captured"
  | .paymentFailed => "failed"
  | .orderPaid => "captured"

end EventName

/-- What `_webhook_evidence` returns. -/
structure WebhookEvidence where
  eventType : WebhookEventType
  orderId : String
  paymentId : String
  amountInr : Int
  currency : String
  status : String
  attempts : Option Int

/-- The member `entity` of a member that is an object, if it is an object too. -/
def entity (payload : Members) (name : String) : Option Members :=
  match payload.lookup name with
  | some (.obj wrapper) =>
    match wrapper.lookup "entity" with
    | some (.obj members) => some members
    | _ => none
  | _ => none

/-- `value is True`. -/
def isTrue : Option Value → Bool
  | some (.bool b) => b
  | _ => false

/-- The attempts of the order of an `order.paid` event, which has to agree with its payment. -/
def paidOrderAttempts (payload : Members) (orderId : String) (amountInr : Int) (currency : String) :
    Except Exc Int :=
  match entity payload "order" with
  | none => .error (.valueError "order.paid has no order entity")
  | some order =>
    if !isText (order.lookup "id") orderId || !isText (order.lookup "status") "paid" then
      .error (.valueError "order.paid entities disagree on Order identity or status")
    else do
      let orderAmount ← wholeRupees (order.lookup "amount") "order.amount"
      if orderAmount ≠ amountInr ∨ !isText (order.lookup "currency") currency then
        .error (.valueError "order.paid entities disagree on amount or currency")
      else nonNegativeInt (order.lookup "attempts") "order.attempts"

/-- The attempts of the order, which only an `order.paid` event carries. -/
def orderAttempts (payload : Members) (event : EventName) (orderId : String) (amountInr : Int)
    (currency : String) : Except Exc (Option Int) :=
  if event = .orderPaid then some <$> paidOrderAttempts payload orderId amountInr currency
  else .ok none

/-- `_webhook_evidence`. -/
def webhookEvidence (rt : Runtime) (parsed : Members) (event : EventName) :
    Except Exc WebhookEvidence :=
  match parsed.lookup "payload" with
  | some (.obj payload) =>
    match entity payload "payment" with
    | none => .error (.valueError "payment entity is missing")
    | some payment => do
      let paymentId ← textMember (payment.lookup "id") (startsWith "pay_") "payment id is malformed"
      let orderId ← textMember (payment.lookup "order_id") (startsWith "order_")
        "payment order_id is malformed"
      let status ← textMember (payment.lookup "status") (· ≠ "") "payment status is missing"
      let currency ← textMember (payment.lookup "currency") (fun s => s.length == 3)
        "payment currency is malformed"
      let amountInr ← wholeRupees (payment.lookup "amount") "payment.amount"
      if status ≠ event.requiredStatus then
        .error (.valueError (event.value ++ " carries payment status "
          ++ rt.repr (some (.str status)) ++ ", expected "
          ++ rt.repr (some (.str event.requiredStatus))))
      else if (event = .paymentCaptured ∨ event = .orderPaid) ∧
          !isTrue (payment.lookup "captured") then
        .error (.valueError "success event does not carry captured=true")
      else do
        let attempts ← orderAttempts payload event orderId amountInr currency
        pure ⟨event.eventType, orderId, paymentId, amountInr, currency, status, attempts⟩
  | _ => .error (.valueError "payload is missing")

/-- `datetime.fromtimestamp(t, tz=timezone.utc)` of an integer. It must fit the 64 bits of the
platform's `time_t`, its year the 32 bits that `gmtime` has for it, and the result the years of a
`datetime`. -/
def fromTimestamp (t : Int) : Except Exc Datetime :=
  if t < -9223372036854775808 ∨ 9223372036854775807 < t then
    .error (.other "OverflowError" "timestamp out of range for platform time_t")
  else if t < -67768040609740800 ∨ 67768036191676799 < t then
    .error (.other "OSError" "Value too large for defined data type")
  else if Datetime.InRange (Datetime.seconds t) then .ok (Datetime.seconds t)
  else .error (.valueError "year is out of range")

/-- The instant of an event, if it has an integer for one. -/
def occurredAt (createdAt : Option Value) : Except Exc (Option Datetime) :=
  match createdAt with
  | some (.int t) => some <$> fromTimestamp t
  | _ => .ok none

/-- The validated construction of a `VerifiedWebhookEvent`. -/
def makeEvent (eventId : String) (evidence : WebhookEvidence) (occurred : Option Datetime) :
    Except Exc VerifiedWebhookEvent :=
  if 1 ≤ eventId.length ∧ eventId.length ≤ 200 ∧
      1 ≤ evidence.orderId.length ∧ evidence.orderId.length ≤ 200 ∧
      1 ≤ evidence.paymentId.length ∧ evidence.paymentId.length ≤ 200 ∧
      0 ≤ evidence.amountInr ∧ evidence.currency.length = 3 ∧
      1 ≤ evidence.status.length ∧ evidence.status.length ≤ 40 ∧
      (∀ n ∈ evidence.attempts, 0 ≤ n) then
    .ok { provider := providerName, providerEventId := eventId, eventType := evidence.eventType,
          providerPaymentId := evidence.orderId, providerOrderId := some evidence.orderId,
          providerTransactionId := some evidence.paymentId, amountInr := some evidence.amountInr,
          currency := some evidence.currency, providerStatus := some evidence.status,
          providerAttempts := evidence.attempts, sequence := none, occurredAt := occurred }
  else .error (.validationError "VerifiedWebhookEvent")

/-- `str(exc)` of an exception that `except (TypeError, ValueError)` catches. -/
def malformedText : Exc → Option String
  | .other "TypeError" text => some text
  | e => valueErrorText e

/-- A `WebhookVerificationError` of this adapter. -/
def rejected (reasonCode detail : String) : VerifyExc := .verification ⟨providerName, detail, reasonCode⟩

/-- The block of `verify_webhook` that reads a signed object. -/
def readEvent (rt : Runtime) (parsed : Members) (event : EventName) (eventId : String) :
    Except Exc VerifiedWebhookEvent := do
  let evidence ← webhookEvidence rt parsed event
  let occurred ← occurredAt (parsed.lookup "created_at")
  makeEvent eventId evidence occurred

/-- The event that a signed object describes, or what its handler makes of the failure. -/
def readWebhook (rt : Runtime) (parsed : Members) (event : EventName) (eventId : String) :
    Except VerifyExc VerifiedWebhookEvent :=
  match readEvent rt parsed event eventId with
  | .ok e => .ok e
  | .error e =>
    match malformedText e with
    | some text =>
      .error (rejected "WEBHOOK_PAYLOAD_INVALID" ("malformed signed Razorpay event: " ++ text))
    | none => .error (.other e)

/-- The test `event_name not in {...}`, which hashes the name, and what follows it. -/
def readNamed (rt : Runtime) (parsed : Members) (eventId : String) :
    Except VerifyExc VerifiedWebhookEvent :=
  let unsupported : Except VerifyExc VerifiedWebhookEvent :=
    .error (rejected "WEBHOOK_PAYLOAD_INVALID"
      ("unsupported Razorpay event " ++ rt.repr (parsed.lookup "event")))
  match parsed.lookup "event" with
  | some (.arr _) => .error (.other (.other "TypeError" "unhashable type: 'list'"))
  | some (.obj _) => .error (.other (.other "TypeError" "unhashable type: 'dict'"))
  | some (.str name) =>
    match EventName.ofText name with
    | some event => readWebhook rt parsed event eventId
    | none => unsupported
  | _ => unsupported

/-- The bytes of a text in UTF-8. -/
def utf8 (text : String) : List Nat := text.toUTF8.data.toList.map UInt8.toNat

/-- The signature of a body: its authentication code under the webhook secret. -/
def signatureOf (webhookSecret : String) (body : List UInt8) : String :=
  Hmac.hexdigest (utf8 webhookSecret) (body.map UInt8.toNat)

/-- `verify_webhook`. -/
def verifyWebhook (rt : Runtime) (webhookSecret : String) (body : List UInt8) (signature : String)
    (providerEventId : Option String) : Except VerifyExc VerifiedWebhookEvent :=
  if !isAscii signature then
    .error (rejected "WEBHOOK_SIGNATURE_INVALID" "X-Razorpay-Signature is not ASCII")
  else if signatureOf webhookSecret body ≠ signature then
    .error (rejected "WEBHOOK_SIGNATURE_INVALID" "X-Razorpay-Signature does not match")
  else
    match providerEventId with
    | none | some "" => .error (rejected "WEBHOOK_EVENT_ID_MISSING"
        "X-Razorpay-Event-Id is required for idempotent delivery")
    | some eventId =>
      match rt.loads body with
      | .decodeError => .error (rejected "WEBHOOK_PAYLOAD_INVALID" "body is not valid JSON")
      | .raised e => .error (.other e)
      | .value (.obj parsed) => readNamed rt parsed eventId
      | .value _ => .error (rejected "WEBHOOK_PAYLOAD_INVALID" "body is not a JSON object")

/-- The first step of `handle_webhook`: only a `WebhookVerificationError` becomes a rejection. -/
def verifyDelivery (rt : Runtime) (webhookSecret : String) (body : List UInt8) (signature : String)
    (providerEventId : Option String) : Except Exc VerifiedWebhookEvent :=
  match verifyWebhook rt webhookSecret body signature providerEventId with
  | .ok event => .ok event
  | .error (.verification e) => .error (.webhookRejected e.reasonCode e.detail)
  | .error (.other e) => .error e

-- ════════════════════════════════════════════════════════════════════════
-- Evidence
-- ════════════════════════════════════════════════════════════════════════

/-- An order is the paid order of a payment, with the attempts that it counts. -/
structure PaidOrder (order : Members) (orderId : String) (amountInr : Int) (currency : String)
    (attempts : Int) : Prop where
  id : order.lookup "id" = some (.str orderId)
  status : order.lookup "status" = some (.str "paid")
  amount : order.lookup "amount" = some (.int (100 * amountInr))
  currency_eq : order.lookup "currency" = some (.str currency)
  attempts_eq : order.lookup "attempts" = some (.int attempts)

/-- A signed object carries evidence for an event: a payment with the status of the event, captured
if it succeeded, and, for a paid order, the order. -/
structure Evidenced (parsed payload payment : Members) (event : EventName)
    (evidence : WebhookEvidence) : Prop where
  has_payload : parsed.lookup "payload" = some (.obj payload)
  has_payment : entity payload "payment" = some payment
  id : payment.lookup "id" = some (.str evidence.paymentId)
  id_named : startsWith "pay_" evidence.paymentId = true
  order : payment.lookup "order_id" = some (.str evidence.orderId)
  order_named : startsWith "order_" evidence.orderId = true
  status : payment.lookup "status" = some (.str evidence.status)
  status_eq : evidence.status = event.requiredStatus
  currency : payment.lookup "currency" = some (.str evidence.currency)
  currency_length : evidence.currency.length = 3
  amount : payment.lookup "amount" = some (.int (100 * evidence.amountInr))
  amount_nonneg : 0 ≤ evidence.amountInr
  captured : event = .paymentCaptured ∨ event = .orderPaid →
    payment.lookup "captured" = some (.bool true)
  eventType : evidence.eventType = event.eventType
  paid : event = .orderPaid → ∃ order attempts, entity payload "order" = some order ∧
    PaidOrder order evidence.orderId evidence.amountInr evidence.currency attempts ∧
    0 ≤ attempts ∧ evidence.attempts = some attempts
  unpaid : event ≠ .orderPaid → evidence.attempts = none

section Evidence

variable {rt : Runtime} {parsed payload : Members} {event : EventName}

lemma EventName.ofText_iff {s : String} : EventName.ofText s = some event ↔ s = event.value := by
  constructor
  · intro h
    have hfound := List.find?_some h
    exact (beq_iff_eq.mp hfound).symm
  · rintro rfl
    cases event <;> decide

lemma EventName.requiredStatus_ne (event : EventName) : event.requiredStatus ≠ "" := by
  cases event <;> decide

lemma isTrue_iff {value : Option Value} : isTrue value = true ↔ value = some (.bool true) := by
  unfold isTrue
  split
  · next b => cases b <;> simp
  · next h =>
    constructor
    · intro hfalse
      cases hfalse
    · intro heq
      exact absurd heq (h true)

lemma paidOrderAttempts_ok {orderId currency : String} {amountInr attempts : Int}
    (hnonneg : 0 ≤ amountInr) :
    paidOrderAttempts payload orderId amountInr currency = .ok attempts ↔
      ∃ order, entity payload "order" = some order ∧
        PaidOrder order orderId amountInr currency attempts ∧ 0 ≤ attempts := by
  unfold paidOrderAttempts
  cases entity payload "order" with
  | none => simp
  | some order =>
    simp only [Option.some.injEq, exists_eq_left']
    constructor
    · intro h
      split at h
      · cases h
      · next hagree =>
        obtain ⟨amount, hamount, h⟩ := Tx.except_bind_ok.mp h
        obtain ⟨hamount, -⟩ := wholeRupees_ok.mp hamount
        split at h
        · cases h
        · next hsame =>
          obtain ⟨hattempts, hattempts'⟩ := nonNegativeInt_ok.mp h
          simp only [Bool.or_eq_true, Bool.not_eq_true', not_or, Bool.not_eq_false] at hagree
          simp only [ne_eq, Bool.not_eq_true', not_or, not_not, Bool.not_eq_false] at hsame
          obtain ⟨rfl, hcurrency⟩ := hsame
          exact ⟨⟨isText_iff.mp hagree.1, isText_iff.mp hagree.2, hamount, isText_iff.mp hcurrency,
            hattempts⟩, hattempts'⟩
    · rintro ⟨h, hattempts⟩
      rw [isText_iff.mpr h.id, isText_iff.mpr h.status, if_neg (by decide),
        wholeRupees_ok.mpr ⟨h.amount, hnonneg⟩]
      dsimp only [bind, Except.bind]
      rw [isText_iff.mpr h.currency_eq, if_neg (by simp)]
      exact nonNegativeInt_ok.mpr ⟨h.attempts_eq, hattempts⟩

/-- An `order.paid` event carries the paid order, and only it counts attempts. -/
lemma orderAttempts_ok {orderId currency : String} {amountInr : Int} {attempts : Option Int}
    (hnonneg : 0 ≤ amountInr) :
    orderAttempts payload event orderId amountInr currency = .ok attempts ↔
      (event = .orderPaid → ∃ order n, entity payload "order" = some order ∧
        PaidOrder order orderId amountInr currency n ∧ 0 ≤ n ∧ attempts = some n) ∧
      (event ≠ .orderPaid → attempts = none) := by
  unfold orderAttempts
  split
  · next hpaid =>
    have hmap : some <$> paidOrderAttempts payload orderId amountInr currency = .ok attempts ↔
        ∃ n, paidOrderAttempts payload orderId amountInr currency = .ok n ∧ attempts = some n := by
      cases paidOrderAttempts payload orderId amountInr currency with
      | error e => simp [Functor.map, Except.map]
      | ok n => simp [Functor.map, Except.map, eq_comm]
    rw [hmap]
    constructor
    · rintro ⟨n, hn, rfl⟩
      obtain ⟨order, hentity, horder, hn⟩ := (paidOrderAttempts_ok hnonneg).mp hn
      exact ⟨fun _ => ⟨order, n, hentity, horder, hn, rfl⟩, fun hother => absurd hpaid hother⟩
    · rintro ⟨h, -⟩
      obtain ⟨order, n, hentity, horder, hn, rfl⟩ := h hpaid
      exact ⟨n, (paidOrderAttempts_ok hnonneg).mpr ⟨order, hentity, horder, hn⟩, rfl⟩
  · next hother =>
    rw [Except.ok.injEq, eq_comm]
    exact ⟨fun h => ⟨fun hpaid => absurd hpaid hother, fun _ => h⟩, fun h => h.2 hother⟩

lemma paidOrderAttempts_catchable (payload : Members) (orderId : String) (amountInr : Int)
    (currency : String) : Catchable (paidOrderAttempts payload orderId amountInr currency) := by
  unfold paidOrderAttempts
  split
  · exact .valueError _
  · refine .ite (fun _ => .valueError _) fun _ => (wholeRupees_catchable _ _).bind fun _ _ => ?_
    exact .ite (fun _ => .valueError _) fun _ => nonNegativeInt_catchable _ _

/-- The evidence that is read is the evidence that a signed object carries. -/
lemma webhookEvidence_ok {evidence : WebhookEvidence} :
    webhookEvidence rt parsed event = .ok evidence ↔
      ∃ payload payment, Evidenced parsed payload payment event evidence := by
  constructor
  · intro h
    unfold webhookEvidence at h
    split at h
    · next payload hpayload =>
      split at h
      · cases h
      · next payment hpayment =>
        obtain ⟨paymentId, hid, h⟩ := Tx.except_bind_ok.mp h
        obtain ⟨orderId, horder, h⟩ := Tx.except_bind_ok.mp h
        obtain ⟨status, hstatus, h⟩ := Tx.except_bind_ok.mp h
        obtain ⟨currency, hcurrency, h⟩ := Tx.except_bind_ok.mp h
        obtain ⟨amountInr, hamount, h⟩ := Tx.except_bind_ok.mp h
        obtain ⟨hid, hnamed⟩ := textMember_iff.mp hid
        obtain ⟨horder, hnamed'⟩ := textMember_iff.mp horder
        obtain ⟨hstatus, -⟩ := textMember_iff.mp hstatus
        obtain ⟨hcurrency, hlength⟩ := textMember_iff.mp hcurrency
        obtain ⟨hamount, hnonneg⟩ := wholeRupees_ok.mp hamount
        split at h
        · cases h
        · next hrequired =>
          split at h
          · cases h
          · next hcaptured =>
            obtain ⟨attempts, hattempts, h⟩ := Tx.except_bind_ok.mp h
            obtain rfl := Except.ok.inj h
            refine ⟨payload, payment, hpayload, hpayment, hid, hnamed, horder, hnamed', hstatus,
              not_not.mp hrequired, hcurrency, by simpa using hlength, hamount, hnonneg,
              fun hsuccess => ?_, rfl, ?_, ?_⟩
            · exact isTrue_iff.mp (by simpa [hsuccess] using hcaptured)
            · exact ((orderAttempts_ok hnonneg).mp hattempts).1
            · exact ((orderAttempts_ok hnonneg).mp hattempts).2
    · cases h
  · rintro ⟨payload, payment, h⟩
    unfold webhookEvidence
    have hcaptured : ¬((event = .paymentCaptured ∨ event = .orderPaid) ∧
        (!isTrue (payment.lookup "captured")) = true) := by
      rintro ⟨hsuccess, hnot⟩
      rw [isTrue_iff.mpr (h.captured hsuccess)] at hnot
      cases hnot
    rw [h.has_payload]
    dsimp only
    rw [h.has_payment]
    dsimp only [bind, Except.bind]
    rw [textMember_iff.mpr ⟨h.id, h.id_named⟩, textMember_iff.mpr ⟨h.order, h.order_named⟩,
      textMember_iff.mpr ⟨h.status, decide_eq_true (h.status_eq ▸ event.requiredStatus_ne)⟩,
      textMember_iff.mpr ⟨h.currency, by simp [h.currency_length]⟩,
      wholeRupees_ok.mpr ⟨h.amount, h.amount_nonneg⟩]
    dsimp only
    rw [if_neg (not_not.mpr h.status_eq), if_neg hcaptured,
      (orderAttempts_ok h.amount_nonneg).mpr ⟨h.paid, h.unpaid⟩, ← h.eventType]
    rfl

lemma webhookEvidence_catchable (rt : Runtime) (parsed : Members) (event : EventName) :
    Catchable (webhookEvidence rt parsed event) := by
  unfold webhookEvidence
  split
  · split
    · exact .valueError _
    · refine (textMember_catchable _ _ _).bind fun _ _ => ?_
      refine (textMember_catchable _ _ _).bind fun _ _ => ?_
      refine (textMember_catchable _ _ _).bind fun _ _ => ?_
      refine (textMember_catchable _ _ _).bind fun _ _ => ?_
      refine (wholeRupees_catchable _ _).bind fun _ _ => .ite (fun _ => .valueError _) fun _ => ?_
      refine .ite (fun _ => .valueError _) fun _ => Catchable.bind ?_ fun _ _ => .ok _
      unfold orderAttempts
      refine .ite (fun _ => ?_) fun _ => .ok _
      exact (paidOrderAttempts_catchable _ _ _ _).bind fun _ _ => .ok _
  · exact .valueError _

end Evidence

-- ════════════════════════════════════════════════════════════════════════
-- Verification
-- ════════════════════════════════════════════════════════════════════════

/-- The platform converts a timestamp: `gmtime` has a year for it. The year may still be one that a
`datetime` does not have, which is a `ValueError`. -/
def Convertible (t : Int) : Prop := -67768040609740800 ≤ t ∧ t ≤ 67768036191676799

/-- A value can be tested for membership in a set. -/
def Hashable : Option Value → Prop
  | some (.arr _) | some (.obj _) => False
  | _ => True

/-- A signed object says that a payment succeeded: the payment is captured, it is of the event's
order, amount and currency, and an `order.paid` event has the paid order too. -/
structure Succeeded (parsed payload payment : Members) (event : VerifiedWebhookEvent)
    (amountInr : Int) (currency : String) : Prop where
  has_payload : parsed.lookup "payload" = some (.obj payload)
  has_payment : entity payload "payment" = some payment
  status : payment.lookup "status" = some (.str "captured")
  captured : payment.lookup "captured" = some (.bool true)
  order : payment.lookup "order_id" = some (.str event.providerPaymentId)
  amount : payment.lookup "amount" = some (.int (100 * amountInr))
  currency_eq : payment.lookup "currency" = some (.str currency)
  event_order : event.providerOrderId = some event.providerPaymentId
  event_amount : event.amountInr = some amountInr
  event_currency : event.currency = some currency
  paid : parsed.lookup "event" = some (.str "order.paid") → ∃ order attempts,
    entity payload "order" = some order ∧
      PaidOrder order event.providerPaymentId amountInr currency attempts

/-- Verification is total and its events are evidenced: it returns an event or raises
`WebhookVerificationError`, it returns only for the signature of the exact body, and it returns a
succeeded payment only if the body says so. -/
structure WebhookVerified (rt : Runtime) (webhookSecret : String) (body : List UInt8)
    (signature : String) (providerEventId : Option String) : Prop where
  total : ∀ e, verifyWebhook rt webhookSecret body signature providerEventId = .error e →
    ∃ error, e = .verification error
  signed : ∀ event, verifyWebhook rt webhookSecret body signature providerEventId = .ok event →
    signature = signatureOf webhookSecret body
  evidenced : ∀ event, verifyWebhook rt webhookSecret body signature providerEventId = .ok event →
    event.eventType = .paymentSucceeded → ∃ parsed payload payment amountInr currency,
      rt.loads body = .value (.obj parsed) ∧
        Succeeded parsed payload payment event amountInr currency

/-- What a signed body with an event id must be like: its parsing fails with a decoding error at
most, its event name can be hashed, and if it carries the evidence of its event, the platform
converts its timestamp. -/
structure Verifiable (rt : Runtime) (body : List UInt8) : Prop where
  loads : ∀ e, rt.loads body ≠ .raised e
  hashable : ∀ parsed, rt.loads body = .value (.obj parsed) → Hashable (parsed.lookup "event")
  timestamp : ∀ parsed payload payment event evidence t, rt.loads body = .value (.obj parsed) →
    parsed.lookup "event" = some (.str (EventName.value event)) →
    Evidenced parsed payload payment event evidence →
    parsed.lookup "created_at" = some (.int t) → Convertible t

section Verify

variable {rt : Runtime} {parsed : Members} {event : EventName} {eventId : String}

lemma fromTimestamp_catchable {t : Int} (h : Convertible t) : Catchable (fromTimestamp t) := by
  obtain ⟨h₁, h₂⟩ := h
  unfold fromTimestamp
  rw [if_neg (by omega), if_neg (by omega)]
  exact .ite (fun _ => .ok _) fun _ => .valueError _

/-- A timestamp that the platform does not convert raises an exception that is not caught. -/
lemma fromTimestamp_unconvertible {t : Int} (h : ¬Convertible t) :
    ∃ e, fromTimestamp t = .error e ∧ malformedText e = none := by
  unfold Convertible at h
  unfold fromTimestamp
  split
  · exact ⟨_, rfl, rfl⟩
  · rw [if_pos (by omega)]
    exact ⟨_, rfl, rfl⟩

lemma occurredAt_catchable {createdAt : Option Value}
    (h : ∀ t, createdAt = some (.int t) → Convertible t) : Catchable (occurredAt createdAt) := by
  unfold occurredAt
  split
  · next t => exact (fromTimestamp_catchable (h t rfl)).bind fun _ _ => .ok _
  · exact .ok none

lemma makeEvent_catchable (eventId : String) (evidence : WebhookEvidence)
    (occurred : Option Datetime) : Catchable (makeEvent eventId evidence occurred) := by
  unfold makeEvent
  split
  · exact .ok _
  · intro e h
    obtain rfl := Except.error.inj h
    exact ⟨_, rfl⟩

lemma malformedText_of_valueErrorText {e : Exc} {text : String} (h : valueErrorText e = some text) :
    malformedText e = some text := by
  unfold malformedText
  split
  · cases h
  · exact h

/-- The event of a signed object is made of its evidence. -/
lemma readWebhook_ok {e : VerifiedWebhookEvent} (h : readWebhook rt parsed event eventId = .ok e) :
    ∃ payload payment evidence, Evidenced parsed payload payment event evidence ∧
      ∃ occurred, makeEvent eventId evidence occurred = .ok e := by
  unfold readWebhook at h
  split at h
  · next e' hread =>
    obtain rfl := Except.ok.inj h
    obtain ⟨evidence, hevidence, hread⟩ := Tx.except_bind_ok.mp hread
    obtain ⟨occurred, -, hmake⟩ := Tx.except_bind_ok.mp hread
    obtain ⟨payload, payment, hevidenced⟩ := webhookEvidence_ok.mp hevidence
    exact ⟨payload, payment, evidence, hevidenced, occurred, hmake⟩
  · split at h
    · cases h
    · cases h

/-- A signed object whose timestamp is converted is read, or rejected as malformed. -/
lemma readWebhook_error {e : VerifyExc}
    (hconvertible : ∀ payload payment evidence t, Evidenced parsed payload payment event evidence →
      parsed.lookup "created_at" = some (.int t) → Convertible t)
    (h : readWebhook rt parsed event eventId = .error e) : ∃ error, e = .verification error := by
  have hread : Catchable (readEvent rt parsed event eventId) := by
    refine (webhookEvidence_catchable rt parsed event).bind fun evidence hevidence => ?_
    obtain ⟨payload, payment, hevidenced⟩ := webhookEvidence_ok.mp hevidence
    refine (occurredAt_catchable fun t => hconvertible payload payment evidence t hevidenced).bind
      fun occurred _ => makeEvent_catchable _ _ _
  unfold readWebhook at h
  split at h
  · cases h
  · next e' herror =>
    obtain ⟨text, htext⟩ := hread e' herror
    rw [malformedText_of_valueErrorText htext] at h
    exact ⟨_, (Except.error.inj h).symm⟩

/-- A signed object with evidence and a timestamp that is not converted escapes. -/
lemma readWebhook_unconvertible {payload payment : Members} {evidence : WebhookEvidence} {t : Int}
    (hevidenced : Evidenced parsed payload payment event evidence)
    (hcreated : parsed.lookup "created_at" = some (.int t)) (ht : ¬Convertible t) :
    ∃ e, readWebhook rt parsed event eventId = .error (.other e) := by
  obtain ⟨e, he, hnone⟩ := fromTimestamp_unconvertible ht
  have hread : readEvent rt parsed event eventId = .error e := by
    unfold readEvent
    rw [webhookEvidence_ok.mpr ⟨payload, payment, hevidenced⟩, hcreated]
    unfold occurredAt
    dsimp only
    rw [he]
    rfl
  refine ⟨e, ?_⟩
  rw [readWebhook, hread]
  dsimp only
  rw [hnone]

/-- The event that is made of evidence for a succeeded payment. -/
lemma makeEvent_succeeded {payload payment : Members} {evidence : WebhookEvidence}
    {occurred : Option Datetime} {e : VerifiedWebhookEvent}
    (hname : parsed.lookup "event" = some (.str event.value))
    (h : Evidenced parsed payload payment event evidence)
    (hmake : makeEvent eventId evidence occurred = .ok e)
    (hsucceeded : e.eventType = .paymentSucceeded) :
    Succeeded parsed payload payment e evidence.amountInr evidence.currency := by
  unfold makeEvent at hmake
  split at hmake
  · obtain rfl := Except.ok.inj hmake
    have hevent : event = .paymentCaptured ∨ event = .orderPaid := by
      have htype : event.eventType = .paymentSucceeded := h.eventType.symm.trans hsucceeded
      revert htype
      cases event <;> decide
    have hstatus : evidence.status = "captured" := by
      rw [h.status_eq]
      rcases hevent with rfl | rfl <;> rfl
    refine ⟨h.has_payload, h.has_payment, hstatus ▸ h.status, h.captured hevent, h.order, h.amount,
      h.currency, rfl, rfl, rfl, fun hpaid => ?_⟩
    have hvalue : event.value = "order.paid" := by
      rw [hname] at hpaid
      simpa using hpaid
    have hpaid : event = .orderPaid := by
      revert hvalue
      cases event <;> decide
    obtain ⟨order, attempts, hentity, horder, -, -⟩ := h.paid hpaid
    exact ⟨order, attempts, hentity, horder⟩
  · cases hmake

/-- What follows the event name, when it is the name of a supported event. -/
lemma readNamed_of_name (hname : parsed.lookup "event" = some (.str event.value)) :
    readNamed rt parsed eventId = readWebhook rt parsed event eventId := by
  unfold readNamed
  rw [hname]
  dsimp only
  rw [EventName.ofText_iff.mpr rfl]

/-- An event name that can be hashed is unsupported or the name of an event. -/
lemma readNamed_cases (rt : Runtime) (eventId : String) (hhash : Hashable (parsed.lookup "event")) :
    (∃ event : EventName, parsed.lookup "event" = some (.str event.value)) ∨
      ∃ error, readNamed rt parsed eventId = .error (.verification error) := by
  unfold readNamed
  cases hname : parsed.lookup "event" with
  | none => exact .inr ⟨_, rfl⟩
  | some value =>
    rw [hname] at hhash
    cases value with
    | str name =>
      cases hevent : EventName.ofText name with
      | some event =>
        obtain rfl := EventName.ofText_iff.mp hevent
        exact .inl ⟨event, rfl⟩
      | none =>
        dsimp only
        rw [hevent]
        exact .inr ⟨_, rfl⟩
    | arr items => exact hhash.elim
    | obj members => exact hhash.elim
    | null | bool | int | float => exact .inr ⟨_, rfl⟩

/-- An event name that cannot be hashed escapes. -/
lemma readNamed_unhashable (rt : Runtime) (eventId : String) (hhash : ¬Hashable (parsed.lookup "event")) :
    ∃ e, readNamed rt parsed eventId = .error (.other e) := by
  unfold readNamed
  cases hname : parsed.lookup "event" with
  | none =>
    rw [hname] at hhash
    exact absurd trivial hhash
  | some value =>
    rw [hname] at hhash
    cases value with
    | arr items => exact ⟨_, rfl⟩
    | obj members => exact ⟨_, rfl⟩
    | null | bool | int | float | str => exact absurd trivial hhash

end Verify

section Signature

variable {rt : Runtime} {webhookSecret signature eventId : String} {body : List UInt8}
  {providerEventId : Option String}

lemma isAscii_signatureOf (webhookSecret : String) (body : List UInt8) :
    isAscii (signatureOf webhookSecret body) = true :=
  List.all_eq_true.mpr fun _ hc => isAscii_hexDigit hc

/-- A delivery with the signature of its body and an event id is parsed. -/
lemma verifyWebhook_signed (hid : eventId ≠ "") :
    verifyWebhook rt webhookSecret body (signatureOf webhookSecret body) (some eventId) =
      match rt.loads body with
      | .decodeError => .error (rejected "WEBHOOK_PAYLOAD_INVALID" "body is not valid JSON")
      | .raised e => .error (.other e)
      | .value (.obj parsed) => readNamed rt parsed eventId
      | .value _ => .error (rejected "WEBHOOK_PAYLOAD_INVALID" "body is not a JSON object") := by
  unfold verifyWebhook
  rw [isAscii_signatureOf, if_neg (by decide), if_neg (not_not.mpr rfl)]
  split
  · next h => cases h
  · next h => exact absurd (Option.some.inj h) hid
  · next h =>
    obtain rfl := Option.some.inj h
    rfl

/-- Without the signature of its body or without an event id a delivery is rejected. -/
lemma verifyWebhook_unsigned (rt : Runtime)
    (h : ¬(signature = signatureOf webhookSecret body ∧
      ∃ eventId, providerEventId = some eventId ∧ eventId ≠ "")) :
    ∃ error, verifyWebhook rt webhookSecret body signature providerEventId =
      .error (.verification error) := by
  unfold verifyWebhook
  split
  · exact ⟨_, rfl⟩
  · split
    · exact ⟨_, rfl⟩
    · next hsigned =>
      split
      · exact ⟨_, rfl⟩
      · exact ⟨_, rfl⟩
      · next eventId hne =>
        exact absurd ⟨(not_not.mp hsigned).symm, eventId, rfl, fun hempty => hne (hempty ▸ rfl)⟩ h

/-- Verification ends with an event only for a signed body with an event id, and the event is made
of the evidence that the body carries. -/
lemma verifyWebhook_ok {e : VerifiedWebhookEvent}
    (h : verifyWebhook rt webhookSecret body signature providerEventId = .ok e) :
    signature = signatureOf webhookSecret body ∧ ∃ eventId parsed event,
      rt.loads body = .value (.obj parsed) ∧
      parsed.lookup "event" = some (.str (EventName.value event)) ∧
      readWebhook rt parsed event eventId = .ok e := by
  by_cases hsigned : signature = signatureOf webhookSecret body ∧
      ∃ eventId, providerEventId = some eventId ∧ eventId ≠ ""
  · obtain ⟨rfl, eventId, rfl, hid⟩ := hsigned
    refine ⟨rfl, ?_⟩
    rw [verifyWebhook_signed hid] at h
    split at h
    · cases h
    · cases h
    · next parsed hloads =>
      by_cases hhash : Hashable (parsed.lookup "event")
      · rcases readNamed_cases rt eventId hhash with ⟨event, hname⟩ | ⟨error, herror⟩
        · rw [readNamed_of_name hname] at h
          exact ⟨eventId, parsed, event, hloads, hname, h⟩
        · cases herror.symm.trans h
      · obtain ⟨e', he'⟩ := readNamed_unhashable rt eventId hhash
        cases he'.symm.trans h
    · cases h
  · obtain ⟨error, herror⟩ := verifyWebhook_unsigned rt hsigned
    cases herror.symm.trans h

/-- Every failure to verify a body that is verifiable is a `WebhookVerificationError`. -/
lemma verifyWebhook_error (hid : eventId ≠ "") (hverifiable : Verifiable rt body) {e : VerifyExc}
    (h : verifyWebhook rt webhookSecret body (signatureOf webhookSecret body) (some eventId) =
      .error e) : ∃ error, e = .verification error := by
  rw [verifyWebhook_signed hid] at h
  split at h
  · exact ⟨_, (Except.error.inj h).symm⟩
  · next e' hloads => exact absurd hloads (hverifiable.loads e')
  · next parsed hloads =>
    rcases readNamed_cases rt eventId (hverifiable.hashable parsed hloads) with
      ⟨event, hname⟩ | ⟨error, herror⟩
    · rw [readNamed_of_name hname] at h
      refine readWebhook_error (fun payload payment evidence t hevidenced hcreated => ?_) h
      exact hverifiable.timestamp parsed payload payment event evidence t hloads hname hevidenced
        hcreated
    · exact ⟨error, Except.error.inj (h.symm.trans herror)⟩
  · exact ⟨_, (Except.error.inj h).symm⟩

/-- A body that is not verifiable escapes. -/
lemma verifyWebhook_escapes (webhookSecret : String) (hid : eventId ≠ "")
    (hnot : ¬Verifiable rt body) : ∃ e,
      verifyWebhook rt webhookSecret body (signatureOf webhookSecret body) (some eventId) =
      .error (.other e) := by
  rw [verifyWebhook_signed hid]
  by_contra hnone
  refine hnot ⟨fun e hloads => ?_, fun parsed hloads => ?_,
    fun parsed payload payment event evidence t hloads hname hevidenced hcreated => ?_⟩
  · rw [hloads] at hnone
    exact hnone ⟨e, rfl⟩
  · rw [hloads] at hnone
    by_contra hhash
    exact hnone (readNamed_unhashable rt eventId hhash)
  · rw [hloads] at hnone
    by_contra ht
    dsimp only at hnone
    rw [readNamed_of_name hname] at hnone
    exact hnone (readWebhook_unconvertible hevidenced hcreated ht)

/-- The first step of `handle_webhook` ends with an event of this adapter, or rejects the delivery,
when verification is total. -/
theorem verifyDelivery_ends
    (h : WebhookVerified rt webhookSecret body signature providerEventId) :
    (∃ e, verifyDelivery rt webhookSecret body signature providerEventId = .ok e ∧
      e.provider = providerName) ∨
    ∃ reasonCode detail, verifyDelivery rt webhookSecret body signature providerEventId =
      .error (.webhookRejected reasonCode detail) := by
  unfold verifyDelivery
  cases hverify : verifyWebhook rt webhookSecret body signature providerEventId with
  | error e =>
    obtain ⟨error, rfl⟩ := h.total e hverify
    exact .inr ⟨_, _, rfl⟩
  | ok e =>
    obtain ⟨-, eventId, parsed, event, -, -, hread⟩ := verifyWebhook_ok hverify
    obtain ⟨-, -, evidence, -, occurred, hmake⟩ := readWebhook_ok hread
    refine .inl ⟨e, rfl, ?_⟩
    unfold makeEvent at hmake
    split at hmake
    · rw [← Except.ok.inj hmake]
    · cases hmake

end Signature

/-- Verification is total, and its events rest on the signed body, exactly when a signed body with
an event id is verifiable. -/
theorem webhook_verified_iff (rt : Runtime) (webhookSecret : String) (body : List UInt8)
    (signature : String) (providerEventId : Option String) :
    WebhookVerified rt webhookSecret body signature providerEventId ↔
      (signature = signatureOf webhookSecret body →
        ∀ eventId, providerEventId = some eventId → eventId ≠ "" → Verifiable rt body) := by
  constructor
  · rintro h rfl eventId rfl hid
    by_contra hnot
    obtain ⟨e, he⟩ := verifyWebhook_escapes webhookSecret hid hnot
    obtain ⟨error, herror⟩ := h.total _ he
    cases herror
  · intro h
    refine ⟨fun e he => ?_, fun e he => (verifyWebhook_ok he).1, fun e he hsucceeded => ?_⟩
    · by_cases hsigned : signature = signatureOf webhookSecret body ∧
          ∃ eventId, providerEventId = some eventId ∧ eventId ≠ ""
      · obtain ⟨rfl, eventId, rfl, hid⟩ := hsigned
        exact verifyWebhook_error hid (h rfl eventId rfl hid) he
      · obtain ⟨error, herror⟩ := verifyWebhook_unsigned rt hsigned
        exact ⟨error, Except.error.inj (he.symm.trans herror)⟩
    · obtain ⟨-, eventId, parsed, event, hloads, hname, hread⟩ := verifyWebhook_ok he
      obtain ⟨payload, payment, evidence, hevidenced, occurred, hmake⟩ := readWebhook_ok hread
      exact ⟨parsed, payload, payment, _, _, hloads,
        makeEvent_succeeded hname hevidenced hmake hsucceeded⟩

namespace Sample

/-- A runtime that loads one object. The bodies below are read by their text. -/
def loading (members : Members) : Runtime where
  loads _ := .value (.obj members)
  repr _ := ""

/-- `{"event":[]}`. -/
def unhashableBody : List UInt8 := "\x7b\"event\":[]\x7d".toUTF8.data.toList

/-- The members of a captured payment of one rupee, at an instant that is out of range. -/
def lateCapture : Members :=
  [("event", .str "payment.captured"), ("created_at", .int 100000000000000000000),
    ("payload", .obj [("payment", .obj [("entity", .obj [("id", .str "pay_1"),
      ("order_id", .str "order_1"), ("status", .str "captured"), ("currency", .str "INR"),
      ("amount", .int 100), ("captured", .bool true)])])])]

/-- The text of `lateCapture`. -/
def lateBody : List UInt8 :=
  ("\x7b\"event\":\"payment.captured\",\"created_at\":100000000000000000000,\"payload\":"
    ++ "\x7b\"payment\":\x7b\"entity\":\x7b\"id\":\"pay_1\",\"order_id\":\"order_1\","
    ++ "\"status\":\"captured\",\"currency\":\"INR\",\"amount\":100,\"captured\":true"
    ++ "\x7d\x7d\x7d\x7d").toUTF8.data.toList

end Sample

/-- Two signed bodies that escape: one whose event name is a list, and one of a captured payment
whose timestamp no platform converts. -/
theorem signed_bodies_escape :
    ¬WebhookVerified (Sample.loading [("event", .arr [])]) "secret" Sample.unhashableBody
      (signatureOf "secret" Sample.unhashableBody) (some "evt_1") ∧
    ¬WebhookVerified (Sample.loading Sample.lateCapture) "secret" Sample.lateBody
      (signatureOf "secret" Sample.lateBody) (some "evt_1") := by
  constructor
  · intro h
    have hnot : ¬Verifiable (Sample.loading [("event", .arr [])]) Sample.unhashableBody :=
      fun hverifiable => hverifiable.hashable _ rfl
    obtain ⟨e, he⟩ := verifyWebhook_escapes "secret" (show "evt_1" ≠ "" by decide) hnot
    obtain ⟨error, herror⟩ := h.total _ he
    cases herror
  · intro h
    have hnot : ¬Verifiable (Sample.loading Sample.lateCapture) Sample.lateBody := by
      intro hverifiable
      have hevidenced : Evidenced Sample.lateCapture _ _ .paymentCaptured
          ⟨.paymentSucceeded, "order_1", "pay_1", 1, "INR", "captured", none⟩ :=
        ⟨rfl, rfl, rfl, by decide, rfl, by decide, rfl, rfl, rfl, by decide, rfl, by decide,
          fun _ => rfl, rfl, nofun, fun _ => rfl⟩
      have ht := hverifiable.timestamp _ _ _ _ _ _ rfl rfl hevidenced rfl
      exact absurd ht.2 (by decide)
    obtain ⟨e, he⟩ := verifyWebhook_escapes "secret" (show "evt_1" ≠ "" by decide) hnot
    obtain ⟨error, herror⟩ := h.total _ he
    cases herror

end Razorpay

end Pactra
