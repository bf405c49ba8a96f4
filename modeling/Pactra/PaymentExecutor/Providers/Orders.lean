import Pactra.PaymentExecutor.Providers.Search

/-!
# Reading orders

What the adapter makes of an order in an answer. An order is usable when its members are what
`_order_to_payment` asks for, and then it is the payment that is returned; a payment that is returned
as succeeded has exactly one captured payment behind it. Two orders escape the classification: one
whose receipt is not ASCII, which `hmac.compare_digest` does not compare, and a paid one whose id
does not make a URL.

## Main results

- `readOrderHead_ok`, `orderToPayment_ok` — which bodies are orders, and usable ones
- `capturedIds_ok` — which payments of an order are collected
- `readThen_raises`, `readThen_ok`, `readThen_unread` — what is made of an order
-/

namespace Pactra

namespace Razorpay

-- ════════════════════════════════════════════════════════════════════════
-- Orders
-- ════════════════════════════════════════════════════════════════════════

/-- A body is an order, with everything that is read of it up to its receipt. -/
structure IsOrder (order : Members) (head : OrderHead) : Prop where
  id : order.lookup "id" = some (.str head.orderId)
  named : startsWith "order_" head.orderId = true
  entity : order.lookup "entity" = some (.str "order")
  status : order.lookup "status" = some (.str head.rawStatus)
  status_ne : head.rawStatus ≠ ""
  amount : order.lookup "amount" = some (.int (100 * head.amountInr))
  amount_nonneg : 0 ≤ head.amountInr
  currency : order.lookup "currency" = some (.str head.currency)
  currency_length : head.currency.length = 3
  receipt : order.lookup "receipt" = some (.str head.receipt)
  receipt_ne : head.receipt ≠ ""

/-- An order is usable as the answer about a key: it has the receipt of the key, it counts its
attempts, and its texts are short enough to be stored. -/
structure Usable (order : Members) (key : Option String) (head : OrderHead) (attempts : Int) : Prop
    extends IsOrder order head where
  asked : ∀ k, key = some k → head.receipt = receiptForIdempotencyKey k
  attempts_eq : order.lookup "attempts" = some (.int attempts)
  attempts_nonneg : 0 ≤ attempts
  id_length : head.orderId.length ≤ 200
  receipt_length : head.receipt.length ≤ 200
  status_length : head.rawStatus.length ≤ 40

/-- Reading ends with a value, or with an exception that `except ValueError` catches. -/
def Catchable {α : Type} (x : Except Exc α) : Prop :=
  ∀ e, x = .error e → ∃ text, valueErrorText e = some text

section Reading

variable {α β : Type}

lemma Catchable.ok (a : α) : Catchable (.ok a : Except Exc α) := fun _ h => nomatch h

lemma Catchable.valueError (text : String) : Catchable (.error (.valueError text) : Except Exc α) :=
  fun _ h => ⟨text, Except.error.inj h ▸ rfl⟩

lemma Catchable.bind {x : Except Exc α} {f : α → Except Exc β} (hx : Catchable x)
    (hf : ∀ a, x = .ok a → Catchable (f a)) : Catchable (x >>= f) := by
  cases x with
  | error e => exact fun e' h => hx e' (congrArg Except.error (Except.error.inj h))
  | ok a => exact hf a rfl

lemma Catchable.ite {c : Prop} [Decidable c] {x y : Except Exc α} (hx : c → Catchable x)
    (hy : ¬c → Catchable y) : Catchable (if c then x else y) := by
  split
  · next h => exact hx h
  · next h => exact hy h

lemma isText_iff {value : Option Value} {text : String} :
    isText value text = true ↔ value = some (.str text) := by
  unfold isText
  split
  · rw [beq_iff_eq]
    simp
  · next h =>
    constructor
    · intro hfalse
      cases hfalse
    · intro heq
      exact absurd heq (h text)

lemma textMember_iff {value : Option Value} {holds : String → Bool} {message s : String} :
    textMember value holds message = .ok s ↔ value = some (.str s) ∧ holds s = true := by
  constructor
  · exact textMember_ok
  · rintro ⟨rfl, hs⟩
    simp [textMember, hs]

lemma textMember_catchable (value : Option Value) (holds : String → Bool) (message : String) :
    Catchable (textMember value holds message) :=
  fun _ h => ⟨message, textMember_error h ▸ rfl⟩

lemma nonNegativeInt_ok {value : Option Value} {field : String} {n : Int} :
    nonNegativeInt value field = .ok n ↔ value = some (.int n) ∧ 0 ≤ n := by
  unfold nonNegativeInt
  split
  · next n' =>
    by_cases hneg : n' < 0
    · rw [if_pos hneg]
      simp only [Option.some.injEq, Wire.Value.int.injEq, reduceCtorEq, false_iff]
      omega
    · rw [if_neg hneg]
      simp only [Option.some.injEq, Wire.Value.int.injEq, Except.ok.injEq]
      omega
  · next h =>
    simp only [reduceCtorEq, false_iff, not_and]
    intro heq
    exact absurd heq (h n)

lemma nonNegativeInt_catchable (value : Option Value) (field : String) :
    Catchable (nonNegativeInt value field) := by
  unfold nonNegativeInt
  split
  · exact .ite (fun _ => .valueError _) fun _ => .ok _
  · exact .valueError _

/-- A whole number of rupees is a number of paise that a hundred divides. -/
lemma wholeRupees_ok {value : Option Value} {field : String} {n : Int} :
    wholeRupees value field = .ok n ↔ value = some (.int (100 * n)) ∧ 0 ≤ n := by
  unfold wholeRupees
  rw [Tx.except_bind_ok]
  constructor
  · rintro ⟨paise, hpaise, hrupees⟩
    obtain ⟨rfl, hnonneg⟩ := nonNegativeInt_ok.mp hpaise
    split at hrupees
    · cases hrupees
    · next hwhole =>
      obtain rfl := Except.ok.inj hrupees
      refine ⟨?_, by omega⟩
      congr 2
      omega
  · rintro ⟨rfl, hnonneg⟩
    refine ⟨100 * n, nonNegativeInt_ok.mpr ⟨rfl, by omega⟩, ?_⟩
    rw [if_neg (by omega), Int.mul_ediv_cancel_left n (by decide)]

lemma wholeRupees_catchable (value : Option Value) (field : String) :
    Catchable (wholeRupees value field) :=
  (nonNegativeInt_catchable value field).bind fun _ _ =>
    .ite (fun _ => .valueError _) fun _ => .ok _

lemma jsonObject_ok {r : HttpResponse} {order : Members} :
    jsonObject r = .ok order ↔ r.json = some (.obj order) := by
  unfold jsonObject
  split
  · next h => simp [h]
  · next h => simp [h]
  · next hnot h =>
    simp only [reduceCtorEq, false_iff]
    intro heq
    exact hnot _ (Option.some.inj (h.symm.trans heq))

lemma jsonObject_catchable (r : HttpResponse) : Catchable (jsonObject r) := by
  intro e h
  obtain ⟨text, rfl⟩ := jsonObject_error h
  exact ⟨text, rfl⟩

end Reading

section Order

variable {order : Members} {head : OrderHead} {key : Option String}

/-- The members that are read are those of an order. -/
lemma readOrderHead_ok : readOrderHead order = .ok head ↔ IsOrder order head := by
  unfold readOrderHead
  constructor
  · intro h
    obtain ⟨orderId, hid, h⟩ := Tx.except_bind_ok.mp h
    split at h
    · cases h
    · next hentity =>
      obtain ⟨rawStatus, hstatus, h⟩ := Tx.except_bind_ok.mp h
      obtain ⟨amountInr, hamount, h⟩ := Tx.except_bind_ok.mp h
      obtain ⟨currency, hcurrency, h⟩ := Tx.except_bind_ok.mp h
      obtain ⟨receipt, hreceipt, h⟩ := Tx.except_bind_ok.mp h
      obtain rfl := Except.ok.inj h
      obtain ⟨hid, hnamed⟩ := textMember_iff.mp hid
      obtain ⟨hstatus, hstatus'⟩ := textMember_iff.mp hstatus
      obtain ⟨hamount, hnonneg⟩ := wholeRupees_ok.mp hamount
      obtain ⟨hcurrency, hlength⟩ := textMember_iff.mp hcurrency
      obtain ⟨hreceipt, hreceipt'⟩ := textMember_iff.mp hreceipt
      refine ⟨hid, hnamed, isText_iff.mp (by simpa using hentity), hstatus,
        of_decide_eq_true hstatus', hamount, hnonneg, hcurrency, by simpa using hlength, hreceipt,
        of_decide_eq_true hreceipt'⟩
  · intro h
    rw [textMember_iff.mpr ⟨h.id, h.named⟩, isText_iff.mpr h.entity]
    dsimp only [bind, Except.bind]
    rw [if_neg (show ¬(!true) = true by decide),
      textMember_iff.mpr ⟨h.status, decide_eq_true h.status_ne⟩, wholeRupees_ok.mpr ⟨h.amount, h.amount_nonneg⟩,
      textMember_iff.mpr ⟨h.currency, by simp [h.currency_length]⟩,
      textMember_iff.mpr ⟨h.receipt, decide_eq_true h.receipt_ne⟩]
    rfl

lemma readOrderHead_catchable (order : Members) : Catchable (readOrderHead order) := by
  unfold readOrderHead
  refine (textMember_catchable _ _ _).bind fun _ _ => .ite (fun _ => .valueError _) fun _ => ?_
  refine (textMember_catchable _ _ _).bind fun _ _ => ?_
  refine (wholeRupees_catchable _ _).bind fun _ _ => ?_
  refine (textMember_catchable _ _ _).bind fun _ _ => ?_
  exact (textMember_catchable _ _ _).bind fun _ _ => .ok _

/-- An order is read in one way. -/
lemma IsOrder.unique {head' : OrderHead} (h : IsOrder order head) (h' : IsOrder order head') :
    head = head' :=
  Except.ok.inj ((readOrderHead_ok.mpr h).symm.trans (readOrderHead_ok.mpr h'))

/-- The digits of a digest are ASCII. -/
lemma isAscii_hexDigit {message : List Nat} {c : Char}
    (h : c ∈ (Sha256.hexdigest message).toList) : decide (c.toNat < 128) = true := by
  obtain ⟨d, hd, rfl⟩ := Sha256.mem_hexdigest h
  have hdigits : ∀ d < 16, decide ((Sha256.hexDigit d).toNat < 128) = true := by decide
  exact hdigits d hd

lemma isAscii_receiptForIdempotencyKey (k : String) :
    isAscii (receiptForIdempotencyKey k) = true := by
  unfold isAscii receiptForIdempotencyKey
  rw [String.toList_append, String.toList_ofList, List.all_append, Bool.and_eq_true]
  exact ⟨by decide, List.all_eq_true.mpr fun c hc => isAscii_hexDigit (List.mem_of_mem_take hc)⟩

/-- The receipt is compared unless it has a character that is not ASCII. -/
lemma checkReceipt_some (receipt k : String) :
    checkReceipt receipt (some k) =
      if isAscii receipt then
        if receipt = receiptForIdempotencyKey k then .ok ()
        else .error (.valueError "order receipt does not match the requested logical payment")
      else .error (.other "TypeError"
        "comparing strings with non-ASCII characters is not supported") := by
  unfold checkReceipt compareDigest
  dsimp only
  rw [isAscii_receiptForIdempotencyKey, Bool.and_true]
  by_cases hascii : isAscii receipt = true
  · rw [if_pos hascii, if_pos hascii]
    dsimp only [bind, Except.bind]
    simp only [beq_iff_eq]
  · rw [if_neg hascii, if_neg hascii]
    rfl

/-- A usable order has the receipt of the key that was asked for. -/
lemma checkReceipt_ok {receipt : String} :
    checkReceipt receipt key = .ok () ↔ ∀ k, key = some k → receipt = receiptForIdempotencyKey k := by
  cases key with
  | none => simp [checkReceipt]
  | some k =>
    rw [checkReceipt_some]
    by_cases hsame : receipt = receiptForIdempotencyKey k
    · rw [if_pos hsame, hsame, if_pos (isAscii_receiptForIdempotencyKey k)]
      simp
    · rw [if_neg hsame]
      simp only [Option.some.injEq, forall_eq', hsame, iff_false]
      split <;> simp

/-- The payment that is made of a usable order. -/
def paymentOf (head : OrderHead) (attempts : Int) (key : Option String) (hid : head.orderId ≠ "") :
    ProviderPayment where
  provider := providerName
  providerPaymentId := head.orderId
  status := orderStatus head.rawStatus
  amountInr := head.amountInr
  currency := head.currency
  idempotencyKey := key
  providerOrderId := some head.orderId
  providerTransactionId := none
  providerReceipt := some head.receipt
  providerStatus := some head.rawStatus
  providerAttempts := some attempts
  providerPaymentId_ne := hid

lemma IsOrder.id_ne (h : IsOrder order head) : head.orderId ≠ "" := by
  intro hempty
  have hnamed := h.named
  rw [hempty] at hnamed
  revert hnamed
  decide

lemma paymentOfOrder_ok {attempts : Int} {p : ProviderPayment} (h : IsOrder order head)
    (hattempts : 0 ≤ attempts) :
    paymentOfOrder head attempts key = .ok p ↔
      (head.orderId.length ≤ 200 ∧ head.receipt.length ≤ 200 ∧ head.rawStatus.length ≤ 40) ∧
        p = paymentOf head attempts key h.id_ne := by
  have hreceipt : 1 ≤ head.receipt.length := Nat.one_le_iff_ne_zero.mpr fun hzero =>
    h.receipt_ne (String.length_eq_zero_iff.mp hzero)
  have hstatus : 1 ≤ head.rawStatus.length := Nat.one_le_iff_ne_zero.mpr fun hzero =>
    h.status_ne (String.length_eq_zero_iff.mp hzero)
  unfold paymentOfOrder
  split
  · next hfits =>
    rw [Except.ok.injEq, eq_comm]
    exact ⟨fun hp => ⟨⟨hfits.2.1, hfits.2.2.2.2.2.1, hfits.2.2.2.2.2.2.2.1⟩, hp⟩, fun hp => hp.2⟩
  · next hfits =>
    simp only [reduceCtorEq, false_iff]
    rintro ⟨⟨hid, hreceipt', hstatus'⟩, -⟩
    exact hfits ⟨h.id_ne, hid, h.amount_nonneg, h.currency_length, hreceipt, hreceipt', hstatus,
      hstatus', hattempts⟩

/-- A body is read as a payment exactly when it is a usable order. -/
lemma orderToPayment_ok {p : ProviderPayment} :
    orderToPayment order key = .ok p ↔
      ∃ head attempts, ∃ h : Usable order key head attempts,
        p = paymentOf head attempts key h.id_ne := by
  unfold orderToPayment
  rw [Tx.except_bind_ok]
  constructor
  · rintro ⟨head, hhead, h⟩
    obtain ⟨⟨⟩, hreceipt, h⟩ := Tx.except_bind_ok.mp h
    obtain ⟨attempts, hattempts, h⟩ := Tx.except_bind_ok.mp h
    have hhead := readOrderHead_ok.mp hhead
    obtain ⟨hattempts, hnonneg⟩ := nonNegativeInt_ok.mp hattempts
    obtain ⟨⟨hid, hlength, hstatus⟩, hp⟩ := (paymentOfOrder_ok hhead hnonneg).mp h
    exact ⟨head, attempts, ⟨hhead, checkReceipt_ok.mp hreceipt, hattempts, hnonneg, hid, hlength,
      hstatus⟩, hp⟩
  · rintro ⟨head, attempts, h, hp⟩
    refine ⟨head, readOrderHead_ok.mpr h.toIsOrder, ?_⟩
    rw [checkReceipt_ok.mpr h.asked, nonNegativeInt_ok.mpr ⟨h.attempts_eq, h.attempts_nonneg⟩]
    exact (paymentOfOrder_ok h.toIsOrder h.attempts_nonneg).mpr
      ⟨⟨h.id_length, h.receipt_length, h.status_length⟩, hp⟩

/-- The receipt of an order can be compared. -/
def Comparable (order : Members) (key : Option String) : Prop :=
  ∀ head k, key = some k → IsOrder order head → isAscii head.receipt = true

/-- An order whose receipt can be compared is read, or refused as malformed. -/
lemma orderToPayment_catchable (h : Comparable order key) :
    Catchable (orderToPayment order key) := by
  unfold orderToPayment
  refine (readOrderHead_catchable order).bind fun head hhead => ?_
  have hreceipt : Catchable (checkReceipt head.receipt key) := by
    cases key with
    | none => exact .ok ()
    | some k =>
      rw [checkReceipt_some, if_pos (h head k rfl (readOrderHead_ok.mp hhead))]
      exact .ite (fun _ => .ok ()) fun _ => .valueError _
  refine hreceipt.bind fun _ _ => (nonNegativeInt_catchable _ _).bind fun attempts _ => ?_
  unfold paymentOfOrder
  split
  · exact .ok _
  · intro e herror
    obtain rfl := Except.error.inj herror
    exact ⟨_, rfl⟩

/-- A receipt with a character that is not ASCII makes the comparison itself fail. -/
lemma orderToPayment_incomparable (h : ¬Comparable order key) :
    orderToPayment order key = .error (.other "TypeError"
      "comparing strings with non-ASCII characters is not supported") := by
  unfold Comparable at h
  push Not at h
  obtain ⟨head, k, rfl, hhead, hascii⟩ := h
  unfold orderToPayment
  rw [readOrderHead_ok.mpr hhead]
  dsimp only [bind, Except.bind]
  rw [checkReceipt_some, if_neg hascii]

end Order

-- ════════════════════════════════════════════════════════════════════════
-- Captured payments
-- ════════════════════════════════════════════════════════════════════════

/-- An exception is a provider error of one of some classes. -/
def Raised (kinds : List ProviderErrorKind) (e : Exc) : Prop :=
  ∃ kind ∈ kinds, ∃ detail, e = providerError kind detail

/-- An item of a collection is a captured payment. -/
def isCaptured : Value → Bool
  | .obj item => isText (item.lookup "status") "captured"
  | _ => false

/-- An item is the payment of an order: it has an id, and the order's id, amount and currency. -/
structure Pays (p : ProviderPayment) (item : Members) (paymentId : String) : Prop where
  id : item.lookup "id" = some (.str paymentId)
  named : startsWith "pay_" paymentId = true
  order : item.lookup "order_id" = some (.str p.providerPaymentId)
  amount : item.lookup "amount" = some (.int (100 * p.amountInr))
  currency : item.lookup "currency" = some (.str p.currency)

/-- The `m`-th request asked for the payments of an order, and exactly one of them was captured: it
is the payment of that order, and its id is the one that is reported. -/
def Captured (http : Http) (p : ProviderPayment) (m : Nat) : Prop :=
  ∃ r parsed items item paymentId,
    http.send m (paymentsRequest p.providerPaymentId) = .response r ∧
    r.json = some (.obj parsed) ∧ parsed.lookup "items" = some (.arr items) ∧
    items.filter isCaptured = [.obj item] ∧ Pays p item paymentId ∧
    p.providerTransactionId = some paymentId

/-- A payment reports an order: its id, its amount in whole rupees, and its currency. -/
structure Reports (order : Members) (p : ProviderPayment) : Prop where
  id : order.lookup "id" = some (.str p.providerPaymentId)
  amount : order.lookup "amount" = some (.int (100 * p.amountInr))
  currency : order.lookup "currency" = some (.str p.currency)

section Attach

variable {http : Http} {p : ProviderPayment} {m : Nat}

lemma capturedIds_catchable (p : ProviderPayment) (items : List Value) :
    Catchable (capturedIds p items) := by
  induction items with
  | nil => exact .ok []
  | cons value items ih =>
    cases value with
    | obj item =>
      unfold capturedIds
      refine .ite (fun _ => ih) fun _ => ?_
      refine (textMember_catchable _ _ _).bind fun _ _ => .ite (fun _ => .valueError _) fun _ => ?_
      refine (wholeRupees_catchable _ _).bind fun _ _ => .ite (fun _ => .valueError _) fun _ => ?_
      exact ih.bind fun _ _ => .ok _
    | null | bool | int | float | str | arr => exact ih

/-- The ids that are collected are those of the captured payments, all of them payments of the
order. -/
lemma capturedIds_ok (hp : p.providerOrderId = some p.providerPaymentId) {items : List Value}
    {ids : List String} (h : capturedIds p items = .ok ids) :
    List.Forall₂ (fun value paymentId => ∃ item, value = .obj item ∧ Pays p item paymentId)
      (items.filter isCaptured) ids := by
  induction items generalizing ids with
  | nil =>
    obtain rfl := Except.ok.inj h
    exact .nil
  | cons value items ih =>
    cases value with
    | obj item =>
      unfold capturedIds at h
      split at h
      · next hstatus =>
        rw [List.filter_cons_of_neg (by simpa [isCaptured] using hstatus)]
        exact ih h
      · next hstatus =>
        obtain ⟨paymentId, hid, h⟩ := Tx.except_bind_ok.mp h
        obtain ⟨hid, hnamed⟩ := textMember_iff.mp hid
        split at h
        · cases h
        · next horder =>
          obtain ⟨amount, hamount, h⟩ := Tx.except_bind_ok.mp h
          obtain ⟨hamount, -⟩ := wholeRupees_ok.mp hamount
          split at h
          · cases h
          · next hsame =>
            obtain ⟨rest, hrest, h⟩ := Tx.except_bind_ok.mp h
            obtain rfl := Except.ok.inj h
            obtain ⟨rfl, hcurrency⟩ := not_or.mp hsame |>.imp not_not.mp id
            rw [hp] at horder
            rw [List.filter_cons_of_pos (by simpa [isCaptured] using hstatus)]
            refine .cons ⟨item, rfl, hid, hnamed, ?_, hamount, ?_⟩ (ih hrest)
            · exact isText_iff.mp (by simpa [isOptionalText] using horder)
            · exact isText_iff.mp (by simpa using hcurrency)
    | null | bool | int | float | str | arr => exact ih h

lemma readCaptured_catchable (p : ProviderPayment) (r : HttpResponse) :
    Catchable (readCaptured p r) := by
  unfold readCaptured
  refine (jsonObject_catchable r).bind fun parsed _ => ?_
  split
  · exact capturedIds_catchable p _
  · exact .valueError _

lemma classifying_raises {α : Type} {x : Except Exc α} (hx : Catchable x)
    {kinds : List ProviderErrorKind} {classified : String → Exc}
    (h : ∀ text, Raised kinds (classified text)) (m : Nat) :
    Tx.RaisesAt (Raised kinds) (classifying classified x) m := by
  cases x with
  | ok a => exact .of_ok rfl
  | error e =>
    obtain ⟨text, htext⟩ := hx e rfl
    unfold classifying
    dsimp only
    rw [htext]
    exact .of_error rfl (h text)

lemma classifying_ok {α : Type} {x : Except Exc α} {classified : String → Exc} {a : α} {m' : Nat}
    (h : (classifying classified x).run m = (.ok a, m')) : x = .ok a ∧ m' = m := by
  unfold classifying at h
  split at h
  · obtain ⟨ha, rfl⟩ := Prod.mk.inj h
    exact ⟨congrArg Except.ok (Except.ok.inj ha), rfl⟩
  · split at h
    · cases h
    · cases h

lemma statusCode_catchable (r : HttpResponse) : Catchable (statusCode r) := by
  intro e h
  obtain rfl := statusCode_error h
  exact ⟨_, rfl⟩

lemma request_ok {req : HttpRequest} {r : HttpResponse} {m' : Nat}
    (h : (request http req).run m = (.ok r, m')) : http.send m req = .response r ∧ m' = m + 1 := by
  cases haccepts : http.acceptsPath req.path with
  | false =>
    rw [run_request_refused haccepts] at h
    cases h
  | true =>
    cases hsent : http.send m req with
    | response r' =>
      rw [run_request_response haccepts hsent] at h
      obtain ⟨hr, rfl⟩ := Prod.mk.inj h
      exact ⟨congrArg Sent.response (Except.ok.inj hr), rfl⟩
    | transportFailure name =>
      rw [run_request_failure haccepts hsent] at h
      cases h

/-- A request to a path that the client accepts fails with a timeout only. -/
lemma request_raises {req : HttpRequest} (h : http.acceptsPath req.path = true)
    {kinds : List ProviderErrorKind} (hkinds : .timeout ∈ kinds) :
    Tx.RaisesAt (Raised kinds) (request http req) m := by
  cases hsent : http.send m req with
  | response r => exact .of_ok (run_request_response h hsent)
  | transportFailure name =>
    exact .of_error (run_request_failure h hsent) ⟨_, hkinds, _, rfl⟩

lemma attachCapturedPayment_raises (p : ProviderPayment)
    (h : http.acceptsPath (paymentsRequest p.providerPaymentId).path = true) :
    Tx.RaisesAt (Raised [.timeout, .transient]) (attachCapturedPayment http p) m := by
  have htransient : ∀ detail, Raised [.timeout, .transient] (providerError .transient detail) :=
    fun detail => ⟨_, by simp, detail, rfl⟩
  unfold attachCapturedPayment
  refine (request_raises h (by simp)).bind fun r m' _ => ?_
  refine (classifying_raises (statusCode_catchable r) (fun _ => htransient _) m').bind
    fun code m'' _ => ?_
  split
  · exact .of_error rfl (htransient _)
  · refine (classifying_raises (readCaptured_catchable p r) (fun _ => htransient _) m'').bind
      fun captured _ _ => ?_
    split
    · exact .of_ok rfl
    · exact .of_error rfl (htransient _)

/-- A payment whose captured payment is attached has exactly one. -/
lemma attachCapturedPayment_ok (hp : p.providerOrderId = some p.providerPaymentId)
    {p' : ProviderPayment} {m' : Nat} (h : (attachCapturedPayment http p).run m = (.ok p', m')) :
    m' = m + 1 ∧ (∃ paymentId, p' = { p with providerTransactionId := some paymentId }) ∧
      Captured http p' m := by
  unfold attachCapturedPayment at h
  obtain ⟨r, m₁, hrequest, h⟩ := Tx.bind_ok.mp h
  obtain ⟨hsent, rfl⟩ := request_ok hrequest
  obtain ⟨code, m₂, hcode, h⟩ := Tx.bind_ok.mp h
  obtain ⟨-, rfl⟩ := classifying_ok hcode
  split at h
  · cases h
  · obtain ⟨captured, m₃, hcaptured, h⟩ := Tx.bind_ok.mp h
    obtain ⟨hread, rfl⟩ := classifying_ok hcaptured
    unfold readCaptured at hread
    obtain ⟨parsed, hparsed, hread⟩ := Tx.except_bind_ok.mp hread
    split at hread
    · next items hitems =>
      have hpays := capturedIds_ok hp hread
      rcases captured with _ | ⟨paymentId, _ | ⟨second, rest⟩⟩
      · cases h
      · obtain ⟨hp', rfl⟩ := Prod.mk.inj h
        obtain rfl := Except.ok.inj hp'
        refine ⟨rfl, ⟨paymentId, rfl⟩, ?_⟩
        obtain ⟨value, rest, hvalue, hrest, hall⟩ := List.forall₂_cons_right_iff.mp hpays
        obtain rfl := List.forall₂_nil_right_iff.mp hrest
        obtain ⟨item, rfl, hitem⟩ := hvalue
        exact ⟨r, parsed, items, item, paymentId, hsent, jsonObject_ok.mp hparsed, hitems, hall,
          ⟨hitem.id, hitem.named, hitem.order, hitem.amount, hitem.currency⟩, rfl⟩
      · cases h
    · cases hread

/-- A path that the client does not accept fails outside the classification. -/
lemma attachCapturedPayment_refused (p : ProviderPayment)
    (h : http.acceptsPath (paymentsRequest p.providerPaymentId).path = false) :
    (attachCapturedPayment http p).run m =
      (.error (.other "InvalidURL" (paymentsRequest p.providerPaymentId).path), m) :=
  Tx.run_bind_of_error (run_request_refused h m)

end Attach

-- ════════════════════════════════════════════════════════════════════════
-- What is made of an order
-- ════════════════════════════════════════════════════════════════════════

/-- An order can be read: its receipt can be compared, and if it is paid, its payments can be asked
for. -/
structure Readable (http : Http) (order : Members) (key : Option String) : Prop where
  comparable : Comparable order key
  payments : ∀ head attempts, Usable order key head attempts → head.rawStatus = "paid" →
    http.acceptsPath (paymentsRequest head.orderId).path = true

/-- The order of an answer as a payment, with its captured payment when the order is paid. -/
def readThen (http : Http) (classified : String → Exc) (order : Except Exc ProviderPayment) :
    Calls ProviderPayment := do
  let payment ← classifying classified order
  settled http payment

section ReadThen

variable {http : Http} {order : Members} {key : Option String} {m : Nat}
  {classified : String → Exc}

lemma orderStatus_succeeded {rawStatus : String} :
    orderStatus rawStatus = .succeeded ↔ rawStatus = "paid" := by
  unfold orderStatus
  split
  · next h => simp [h]
  · split
    · next h => simp [h]
    · split
      · next h => simp [h]
      · next h => simp [h]

lemma run_readThen_ok {p : ProviderPayment} (h : orderToPayment order key = .ok p) :
    (readThen http classified (orderToPayment order key)).run m = (settled http p).run m := by
  rw [h]
  exact Tx.run_bind_of_ok (run_classifying_ok _ _ _)

/-- Every failure to read a readable order is classified. -/
lemma readThen_raises (h : Readable http order key) {kinds : List ProviderErrorKind}
    (hclassified : ∀ text, Raised kinds (classified text))
    (hkinds : .timeout ∈ kinds ∧ .transient ∈ kinds) :
    Tx.RaisesAt (Raised kinds) (readThen http classified (orderToPayment order key)) m := by
  unfold readThen
  refine (classifying_raises (orderToPayment_catchable h.comparable) hclassified m).bind
    fun p m' hread => ?_
  obtain ⟨hp, -⟩ := classifying_ok hread
  obtain ⟨head, attempts, husable, rfl⟩ := orderToPayment_ok.mp hp
  unfold settled
  split
  · next hpaid =>
    have haccepts := h.payments head attempts husable (orderStatus_succeeded.mp hpaid)
    intro e m'' he
    obtain ⟨kind, hkind, hdetail⟩ := attachCapturedPayment_raises _ haccepts e m'' he
    refine ⟨kind, ?_, hdetail⟩
    simp only [List.mem_cons, List.not_mem_nil, or_false] at hkind
    rcases hkind with rfl | rfl
    · exact hkinds.1
    · exact hkinds.2
  · exact .of_ok rfl

/-- A payment that is made of an order reports it, and is succeeded only with its captured
payment. -/
lemma readThen_ok {p : ProviderPayment} {m' : Nat}
    (h : (readThen http classified (orderToPayment order key)).run m = (.ok p, m')) :
    (∃ head attempts, Usable order key head attempts) ∧ Reports order p ∧
      (p.status = .succeeded → m' = m + 1 ∧ Captured http p m) := by
  obtain ⟨p₀, m₀, hread, h⟩ := Tx.bind_ok.mp h
  obtain ⟨hp₀, rfl⟩ := classifying_ok hread
  obtain ⟨head, attempts, husable, rfl⟩ := orderToPayment_ok.mp hp₀
  refine ⟨⟨head, attempts, husable⟩, ?_⟩
  unfold settled at h
  split at h
  · obtain ⟨rfl, ⟨paymentId, rfl⟩, hcaptured⟩ := attachCapturedPayment_ok rfl h
    exact ⟨⟨husable.id, husable.amount, husable.currency⟩, fun _ => ⟨rfl, hcaptured⟩⟩
  · next hpaid =>
    obtain ⟨hp, rfl⟩ := Prod.mk.inj h
    obtain rfl := Except.ok.inj hp
    exact ⟨⟨husable.id, husable.amount, husable.currency⟩, fun hsucceeded => absurd hsucceeded hpaid⟩

/-- An order that cannot be read fails outside the classification. -/
lemma readThen_unread (classified : String → Exc) (m : Nat) (h : ¬Readable http order key) :
    ∃ name text, (readThen http classified (orderToPayment order key)).run m =
      (.error (.other name text), m) := by
  by_cases hcomparable : Comparable order key
  · have hpayments : ∃ head attempts, Usable order key head attempts ∧ head.rawStatus = "paid" ∧
        http.acceptsPath (paymentsRequest head.orderId).path = false := by
      by_contra hnone
      push Not at hnone
      refine h ⟨hcomparable, fun head attempts husable hpaid => ?_⟩
      simpa using hnone head attempts husable hpaid
    obtain ⟨head, attempts, husable, hpaid, hrefused⟩ := hpayments
    have hread : orderToPayment order key = .ok (paymentOf head attempts key husable.id_ne) :=
      orderToPayment_ok.mpr ⟨head, attempts, husable, rfl⟩
    have hpaid' : (paymentOf head attempts key husable.id_ne).status = .succeeded :=
      orderStatus_succeeded.mpr hpaid
    refine ⟨"InvalidURL", (paymentsRequest head.orderId).path, ?_⟩
    rw [run_readThen_ok hread, settled, if_pos hpaid']
    exact attachCapturedPayment_refused _ hrefused
  · refine ⟨"TypeError", "comparing strings with non-ASCII characters is not supported", ?_⟩
    rw [readThen, orderToPayment_incomparable hcomparable]
    rfl

end ReadThen

end Razorpay

end Pactra
