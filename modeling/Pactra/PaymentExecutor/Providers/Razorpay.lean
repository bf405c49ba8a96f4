import Mathlib.Data.List.Infix
import Pactra.Db.Exceptions
import Pactra.Foundation.Tx
import Pactra.Foundation.Wire

/-!
# Razorpay adapter

`services/payment_executor/providers/razorpay.py`: creating an order, looking one up by its id, and
recovering it by the receipt that its idempotency key determines. What the HTTP client does is a
parameter: whether it accepts a URL at all, and how the `n`-th request ends. Bodies are arbitrary
decoded JSON, and every field is read with the checks of the source.

A call that raises `ValueError`, also as the validation error of a model, is classified by the handler
around it; anything else passes through.
-/

namespace Pactra

namespace Razorpay

/-- A decoded JSON value. -/
abbrev Value := Wire.Value String Wire.Float

/-- The members of a JSON object. -/
abbrev Members := List (String × Value)

/-- `PROVIDER_NAME`. -/
def providerName : String := "razorpay_test"

/-- `RAZORPAY_RECEIPT_MAX_LENGTH`. -/
def receiptMaxLength : Nat := 40

/-- `_RECEIPT_PREFIX`. -/
def receiptPrefix : String := "pactra_"

/-- The SHA-256 digest of a text, in hexadecimal. -/
def sha256Hex (text : String) : String :=
  Sha256.hexdigest (text.toUTF8.data.toList.map UInt8.toNat)

/-- `receipt_for_idempotency_key`: a deterministic receipt of 40 characters. -/
def receiptForIdempotencyKey (idempotencyKey : String) : String :=
  receiptPrefix ++ String.ofList
    ((sha256Hex idempotencyKey).toList.take (receiptMaxLength - receiptPrefix.length))

/-- `_ORDER_STATUS_MAP`, with its default. -/
def orderStatus (rawStatus : String) : ProviderPaymentStatus :=
  if rawStatus = "created" then .created
  else if rawStatus = "attempted" then .pending
  else if rawStatus = "paid" then .succeeded
  else .pending

-- ════════════════════════════════════════════════════════════════════════
-- Requests
-- ════════════════════════════════════════════════════════════════════════

/-- The methods the adapter uses. -/
inductive Method where
  | get
  | post
deriving DecidableEq

/-- `method.upper()`. -/
def Method.name : Method → String
  | .get => "GET"
  | .post => "POST"

/-- One request, without the credentials. -/
structure HttpRequest where
  method : Method
  path : String
  jsonBody : Option Value := none
  params : Option Members := none

/-- A response: its status, if that is a number, and what `response.json()` returns, if it does. -/
structure HttpResponse where
  statusCode : Option Int
  json : Option Value

/-- How a request ends: a response, or a `TimeoutError`, `OSError` or `httpx.HTTPError`, by the name
of its class. -/
inductive Sent where
  | response (r : HttpResponse)
  | transportFailure (name : String)

/-- What the adapter uses of the HTTP client and of the Python runtime. -/
structure Http where
  /-- Whether the client makes a URL of a path; otherwise it raises `InvalidURL`. -/
  acceptsPath : String → Bool
  /-- How the `n`-th request ends. -/
  send : Nat → HttpRequest → Sent
  /-- `str.lower`. -/
  lower : String → String

/-- A computation that makes requests; its state is the number of requests made. -/
abbrev Calls := Tx Nat Exc

/-- A provider error of this adapter. -/
def providerError (kind : ProviderErrorKind) (detail : String) : Exc :=
  .provider ⟨kind, providerName, detail⟩

/-- `_request`: one bounded request. Transport failures leave the outcome unknown. -/
def request (http : Http) (req : HttpRequest) : Calls HttpResponse := fun n =>
  if !http.acceptsPath req.path then (.error (.other "InvalidURL" req.path), n)
  else
    match http.send n req with
    | .response r => (.ok r, n + 1)
    | .transportFailure name => (.error (providerError .timeout
        ("bounded " ++ req.method.name ++ " transport failure (" ++ name ++ ")")), n + 1)

/-- `str(exc)` of an exception that `except ValueError` catches. A validation error stands for its
text by the name of its model. -/
def valueErrorText : Exc → Option String
  | .valueError text => some text
  | .validationError model => some ("validation error for " ++ model)
  | _ => none

/-- `try: ... except ValueError as exc: raise classified(exc)`. -/
def classifying {α : Type} (classified : String → Exc) (x : Except Exc α) : Calls α :=
  match x with
  | .ok a => pure a
  | .error e =>
    match valueErrorText e with
    | some text => Tx.raise (classified text)
    | none => Tx.raise e

-- ════════════════════════════════════════════════════════════════════════
-- Reading responses
-- ════════════════════════════════════════════════════════════════════════

/-- `_status_code`. -/
def statusCode (response : HttpResponse) : Except Exc Int :=
  match response.statusCode with
  | some code => .ok code
  | none => .error (.valueError "response has no valid HTTP status")

/-- `_json_object`. -/
def jsonObject (response : HttpResponse) : Except Exc Members :=
  match response.json with
  | none => .error (.valueError "response body is not valid JSON")
  | some (.obj members) => .ok members
  | some _ => .error (.valueError "response body is not a JSON object")

/-- `_non_negative_int`. -/
def nonNegativeInt (value : Option Value) (field : String) : Except Exc Int :=
  match value with
  | some (.int n) =>
    if n < 0 then .error (.valueError (field ++ " is not a non-negative integer")) else .ok n
  | _ => .error (.valueError (field ++ " is not a non-negative integer"))

/-- `_whole_rupees`. -/
def wholeRupees (value : Option Value) (field : String) : Except Exc Int := do
  let n ← nonNegativeInt value field
  if n % 100 ≠ 0 then .error (.valueError (field ++ " cannot be represented as whole INR"))
  else .ok (n / 100)

/-- The comparison `==` of a member's value with a text. -/
def isText (value : Option Value) (text : String) : Bool :=
  match value with
  | some (.str s) => s == text
  | _ => false

/-- The comparison `==` of a member's value with a text or `None`. -/
def isOptionalText (value : Option Value) : Option String → Bool
  | some text => isText value text
  | none => match value with
    | none | some .null => true
    | _ => false

/-- A member that must be a text with a property. -/
def textMember (value : Option Value) (holds : String → Bool) (message : String) :
    Except Exc String :=
  match value with
  | some (.str s) => if holds s then .ok s else .error (.valueError message)
  | _ => .error (.valueError message)

/-- `str.isascii`. -/
def isAscii (s : String) : Bool := s.toList.all fun c => c.toNat < 128

/-- `hmac.compare_digest` of two texts, which takes ASCII only. -/
def compareDigest (a b : String) : Except Exc Bool :=
  if isAscii a && isAscii b then .ok (a == b)
  else .error (.other "TypeError" "comparing strings with non-ASCII characters is not supported")

/-- Whether a text begins with another. -/
def startsWith (start s : String) : Bool := start.toList.isPrefixOf s.toList

/-- What is read of an order up to its receipt. -/
structure OrderHead where
  orderId : String
  rawStatus : String
  amountInr : Int
  currency : String
  receipt : String

/-- `_order_to_payment`, up to the receipt. -/
def readOrderHead (order : Members) : Except Exc OrderHead := do
  let orderId ← textMember (order.lookup "id") (startsWith "order_")
    "order id is missing or malformed"
  if !isText (order.lookup "entity") "order" then
    .error (.valueError "response entity is not an order")
  else do
    let rawStatus ← textMember (order.lookup "status") (· ≠ "")
      "order status is missing or malformed"
    let amountInr ← wholeRupees (order.lookup "amount") "order.amount"
    let currency ← textMember (order.lookup "currency") (fun s => s.length == 3)
      "order currency is missing or malformed"
    let receipt ← textMember (order.lookup "receipt") (· ≠ "")
      "order receipt is missing or malformed"
    pure ⟨orderId, rawStatus, amountInr, currency, receipt⟩

/-- The check of an order's receipt against the key that was asked for. -/
def checkReceipt (receipt : String) (expectedIdempotencyKey : Option String) :
    Except Exc Unit :=
  match expectedIdempotencyKey with
  | none => .ok ()
  | some key => do
    let same ← compareDigest receipt (receiptForIdempotencyKey key)
    if same then .ok ()
    else .error (.valueError "order receipt does not match the requested logical payment")

/-- The validated construction of the `ProviderPayment` of an order. -/
def paymentOfOrder (head : OrderHead) (attempts : Int) (idempotencyKey : Option String) :
    Except Exc ProviderPayment :=
  if h : head.orderId ≠ "" ∧ head.orderId.length ≤ 200 ∧ 0 ≤ head.amountInr ∧
      head.currency.length = 3 ∧ 1 ≤ head.receipt.length ∧ head.receipt.length ≤ 200 ∧
      1 ≤ head.rawStatus.length ∧ head.rawStatus.length ≤ 40 ∧ 0 ≤ attempts then
    .ok { provider := providerName, providerPaymentId := head.orderId,
          status := orderStatus head.rawStatus, amountInr := head.amountInr,
          currency := head.currency, idempotencyKey := idempotencyKey,
          providerOrderId := some head.orderId, providerTransactionId := none,
          providerReceipt := some head.receipt, providerStatus := some head.rawStatus,
          providerAttempts := some attempts, providerPaymentId_ne := h.1 }
  else .error (.validationError "ProviderPayment")

/-- `_order_to_payment`. -/
def orderToPayment (order : Members) (expectedIdempotencyKey : Option String) :
    Except Exc ProviderPayment := do
  let head ← readOrderHead order
  checkReceipt head.receipt expectedIdempotencyKey
  let attempts ← nonNegativeInt (order.lookup "attempts") "order.attempts"
  paymentOfOrder head attempts expectedIdempotencyKey

/-- The ids of the captured payments among the items of a collection, each checked against the
order. -/
def capturedIds (payment : ProviderPayment) : List Value → Except Exc (List String)
  | [] => .ok []
  | .obj item :: items =>
    if !isText (item.lookup "status") "captured" then capturedIds payment items
    else do
      let paymentId ← textMember (item.lookup "id") (startsWith "pay_")
        "captured payment id is malformed"
      if !isOptionalText (item.lookup "order_id") payment.providerOrderId then
        .error (.valueError "captured payment names a different order")
      else do
        let amount ← wholeRupees (item.lookup "amount") "payment.amount"
        if amount ≠ payment.amountInr ∨ !isText (item.lookup "currency") payment.currency then
          .error (.valueError "captured payment amount or currency mismatches its order")
        else do
          let rest ← capturedIds payment items
          pure (paymentId :: rest)
  | _ :: items => capturedIds payment items

/-- The captured payments that a response lists. -/
def readCaptured (payment : ProviderPayment) (response : HttpResponse) :
    Except Exc (List String) := do
  let parsed ← jsonObject response
  match parsed.lookup "items" with
  | some (.arr items) => capturedIds payment items
  | _ => .error (.valueError "payments collection has no items list")

/-- The request for the payments of an order. -/
def paymentsRequest (orderId : String) : HttpRequest :=
  { method := .get, path := "/orders/" ++ orderId ++ "/payments" }

/-- `_attach_captured_payment`: the one captured payment of an order that is called paid. -/
def attachCapturedPayment (http : Http) (payment : ProviderPayment) : Calls ProviderPayment := do
  let response ← request http (paymentsRequest payment.providerPaymentId)
  let code ← classifying (fun text => providerError .transient
    ("malformed HTTP response while fetching captured payment: " ++ text)) (statusCode response)
  if ¬(200 ≤ code ∧ code < 300) then
    Tx.raise (providerError .transient
      ("HTTP " ++ toString code ++ " while fetching payments for paid order"))
  else do
    let captured ← classifying (fun text => providerError .transient
      ("malformed payments response: " ++ text)) (readCaptured payment response)
    match captured with
    | [paymentId] => pure { payment with providerTransactionId := some paymentId }
    | _ => Tx.raise (providerError .transient
        ("paid order exposes " ++ toString captured.length ++ " matching captured payments; "
          ++ "expected exactly one"))

/-- Whether a text occurs in another. -/
def occursIn (needle s : String) : Bool := decide (needle.toList <:+: s.toList)

/-- `_duplicate_receipt_response`. -/
def duplicateReceiptResponse (http : Http) (response : HttpResponse) : Bool :=
  match response.json with
  | some (.obj parsed) =>
    match parsed.lookup "error" with
    | some (.obj error) =>
      match error.lookup "description" with
      | some (.str description) =>
        let lowered := http.lower description
        occursIn "receipt" lowered && (occursIn "already" lowered || occursIn "unique" lowered)
      | _ => false
    | _ => false
  | _ => false

-- ════════════════════════════════════════════════════════════════════════
-- Creating
-- ════════════════════════════════════════════════════════════════════════

/-- The order that a payment request asks for. -/
def createPayload (req : PaymentRequest) : Value :=
  .obj [("amount", .int (req.amountInr * 100)), ("currency", .str req.currency),
    ("receipt", .str (receiptForIdempotencyKey req.idempotencyKey)),
    ("notes", .obj [("pactra_txn", .str req.transactionDigestPrefix),
      ("pactra_idem", .str (String.ofList ((sha256Hex req.idempotencyKey).toList.take 16)))])]

/-- A payment of an order, with its captured payment when the order is paid. -/
def settled (http : Http) (payment : ProviderPayment) : Calls ProviderPayment :=
  if payment.status = .succeeded then attachCapturedPayment http payment else pure payment

/-- The order that a response describes. -/
def readOrder (response : HttpResponse) (expectedIdempotencyKey : Option String) :
    Except Exc ProviderPayment := do
  let order ← jsonObject response
  orderToPayment order expectedIdempotencyKey

/-- The request that creates an order. -/
def createRequest (req : PaymentRequest) : HttpRequest :=
  { method := .post, path := "/orders", jsonBody := some (createPayload req) }

/-- `create_payment`. -/
def createPayment (http : Http) (req : PaymentRequest) : Calls ProviderPayment := do
  let response ← request http (createRequest req)
  let code ← classifying (fun text => providerError .timeout
    ("ambiguous malformed create response: " ++ text)) (statusCode response)
  if 200 ≤ code ∧ code < 300 then do
    let payment ← classifying (fun text => providerError .timeout
      ("ambiguous malformed create response: " ++ text))
      (readOrder response (some req.idempotencyKey))
    settled http payment
  else if 500 ≤ code then
    Tx.raise (providerError .timeout
      ("ambiguous HTTP " ++ toString code ++ " response to order creation"))
  else if code = 429 then Tx.raise (providerError .transient "HTTP 429 from Razorpay")
  else if code = 400 ∧ duplicateReceiptResponse http response then
    Tx.raise (providerError .timeout "duplicate receipt response requires Order reconciliation")
  else Tx.raise (providerError .terminal ("HTTP " ++ toString code ++ " from Razorpay"))

-- ════════════════════════════════════════════════════════════════════════
-- Looking up
-- ════════════════════════════════════════════════════════════════════════

/-- `page_size`. -/
def pageSize : Nat := 100

/-- `max_pages`. -/
def maxPages : Nat := 100

/-- The request for one page of the orders whose receipt contains a text. -/
def pageRequest (receipt : String) (pageNumber : Nat) : HttpRequest :=
  { method := .get, path := "/orders"
    params := some [("receipt", .str receipt), ("count", .int pageSize),
      ("skip", .int (pageNumber * pageSize : Nat))] }

/-- The orders with the exact receipt among the items of a page, added to those found before. An
order that was found before must not have changed. -/
def collectExact (receipt : String) :
    List Value → List (String × Members) → Except Exc (List (String × Members))
  | [], exactById => .ok exactById
  | .obj item :: items, exactById =>
    if !isText (item.lookup "receipt") receipt then collectExact receipt items exactById
    else do
      let orderId ← textMember (item.lookup "id") (· ≠ "")
        "matching order id is missing or malformed"
      match exactById.lookup orderId with
      | none => collectExact receipt items (exactById ++ [(orderId, item)])
      | some previous =>
        if !(Wire.Value.obj previous).pyEq (.obj item) then
          .error (.valueError "matching order changed across search pages")
        else collectExact receipt items exactById
  | _ :: items, exactById => collectExact receipt items exactById

/-- The items that a page lists. -/
def pageItems (response : HttpResponse) : Except Exc (List Value) := do
  let parsed ← jsonObject response
  match parsed.lookup "items" with
  | some (.arr items) =>
    if pageSize < items.length then
      .error (.valueError "orders collection exceeds requested page size")
    else .ok items
  | _ => .error (.valueError "orders collection has no items list")

/-- What one page adds: how many items it lists, and the exact orders found so far. -/
def readPage (receipt : String) (response : HttpResponse) (exactById : List (String × Members)) :
    Except Exc (Nat × List (String × Members)) := do
  let items ← pageItems response
  let found ← collectExact receipt items exactById
  pure (items.length, found)

/-- The loop of `_orders_with_exact_receipt`, from a page number on. -/
def searchPages (http : Http) (receipt : String) :
    Nat → Nat → List (String × Members) → Calls (List Members)
  | 0, _, _ => Tx.raise (providerError .ambiguity
      ("Razorpay Order receipt search exceeded the safe pagination bound; "
        ++ "refusing to assume a unique match"))
  | left + 1, pageNumber, exactById => do
    let response ← request http (pageRequest receipt pageNumber)
    let code ← classifying (fun text => providerError .transient
      ("malformed HTTP response while searching Razorpay Orders: " ++ text)) (statusCode response)
    if ¬(200 ≤ code ∧ code < 300) then
      Tx.raise (providerError .transient
        ("HTTP " ++ toString code ++ " while searching Razorpay Orders"))
    else do
      let (count, found) ← classifying (fun text => providerError .transient
        ("malformed Order search response: " ++ text)) (readPage receipt response exactById)
      if count < pageSize then pure (found.map Prod.snd)
      else searchPages http receipt left (pageNumber + 1) found

/-- `_orders_with_exact_receipt`. -/
def ordersWithExactReceipt (http : Http) (receipt : String) : Calls (List Members) :=
  searchPages http receipt maxPages 0 []

/-- The request for an order. -/
def orderRequest (orderId : String) : HttpRequest :=
  { method := .get, path := "/orders/" ++ orderId }

/-- The lookup of an order by its id. -/
def getOrderById (http : Http) (providerPaymentId : String) (idempotencyKey : Option String) :
    Calls (Option ProviderPayment) := do
  let response ← request http (orderRequest providerPaymentId)
  let code ← classifying (fun text => providerError .transient
    ("malformed HTTP response while fetching Razorpay Order: " ++ text)) (statusCode response)
  if code = 404 then pure none
  else if ¬(200 ≤ code ∧ code < 300) then
    Tx.raise (providerError .transient
      ("HTTP " ++ toString code ++ " while fetching Razorpay Order"))
  else do
    let payment ← classifying (fun text => providerError .transient
      ("malformed Order lookup response: " ++ text)) (readOrder response idempotencyKey)
    some <$> settled http payment

/-- The recovery of an order by its receipt. -/
def getOrderByKey (http : Http) (idempotencyKey : String) : Calls (Option ProviderPayment) := do
  let exact ← ordersWithExactReceipt http (receiptForIdempotencyKey idempotencyKey)
  match exact with
  | [] => pure none
  | [order] => do
    let payment ← classifying (fun text => providerError .transient
      ("malformed Order search response: " ++ text)) (orderToPayment order (some idempotencyKey))
    some <$> settled http payment
  | _ => Tx.raise (providerError .ambiguity
      (toString exact.length ++ " Razorpay Orders share one PACTRA receipt; refusing ambiguity"))

/-- `get_payment`: by id, or else by the receipt of the idempotency key. -/
def getPayment (http : Http) (providerPaymentId idempotencyKey : Option String) :
    Calls (Option ProviderPayment) :=
  match providerPaymentId, idempotencyKey with
  | some id, key => getOrderById http id key
  | none, some key => getOrderByKey http key
  | none, none => pure none

end Razorpay

end Pactra
