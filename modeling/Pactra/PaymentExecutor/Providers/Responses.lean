import Pactra.PaymentExecutor.Providers.Orders

/-!
# Classified responses

What creating and looking up make of their answers, for every status, every body and every transport
failure. All errors are of the four classes of the taxonomy, unless an order cannot be read.

## Main results

- `createPayment_answered` — what a creation can be answered, and what it makes of it
- `searchPages_lists`, `searchPages_ok` — how a search depends on the pages that it reads
- `responses_classified_iff` — when creating and looking up classify what they are answered
-/

namespace Pactra

namespace Razorpay

-- ════════════════════════════════════════════════════════════════════════
-- Creating
-- ════════════════════════════════════════════════════════════════════════

/-- The classes of errors that the adapter may raise. -/
def classes : List ProviderErrorKind := [.timeout, .transient, .ambiguity, .terminal]

/-- The answers to a creation that leave open whether there is an order: none, a failure of the
server, or one that is not a usable order. -/
inductive LeftOpen (http : Http) (req : PaymentRequest) (n : Nat) : Prop where
  | transport {name : String} (hsent : http.send n (createRequest req) = .transportFailure name)
  | server {r : HttpResponse} {code : Int} (hsent : http.send n (createRequest req) = .response r)
      (hcode : r.statusCode = some code) (hserver : 500 ≤ code)
  | unusable {r : HttpResponse} {code : Int} (hsent : http.send n (createRequest req) = .response r)
      (hcode : r.statusCode = some code) (hsuccess : 200 ≤ code ∧ code < 300)
      (hbody : ∀ order head attempts, r.json = some (.obj order) →
        ¬Usable order (some req.idempotencyKey) head attempts)

/-- Creating classifies what it is answered: it raises errors of the four classes only; a payment
that it returns reports an order with the receipt of the key and with a whole number of rupees, and
as succeeded only with its captured payment; an answer that leaves the outcome open is a timeout,
and after it or after any order no error says that the order was refused. -/
structure CreateClassified (http : Http) (req : PaymentRequest) (n : Nat) : Prop where
  classified : Tx.RaisesAt (Raised classes) (createPayment http req) n
  own : ∀ p m, (createPayment http req).run n = (.ok p, m) →
    ∃ r order, http.send n (createRequest req) = .response r ∧ r.json = some (.obj order) ∧
      Reports order p ∧
      order.lookup "receipt" = some (.str (receiptForIdempotencyKey req.idempotencyKey))
  leftOpen : LeftOpen http req n → ∃ detail m,
    (createPayment http req).run n = (.error (providerError .timeout detail), m)
  notRefused : ∀ r code, http.send n (createRequest req) = .response r → r.statusCode = some code →
    200 ≤ code ∧ code < 300 → Tx.RaisesAt (Raised [.timeout, .transient]) (createPayment http req) n
  captured : ∀ p m, (createPayment http req).run n = (.ok p, m) → p.status = .succeeded →
    ∃ k, n < k ∧ m = k + 1 ∧ Captured http p k

/-- The path of a creation is accepted, and if it is answered with an order, the order can be
read. -/
structure CreateReadable (http : Http) (req : PaymentRequest) (n : Nat) : Prop where
  accepts : http.acceptsPath "/orders" = true
  order : ∀ r code order, http.send n (createRequest req) = .response r →
    r.statusCode = some code → 200 ≤ code ∧ code < 300 → r.json = some (.obj order) →
    Readable http order (some req.idempotencyKey)

section Create

variable {http : Http} {req : PaymentRequest} {n : Nat} {r : HttpResponse} {code : Int}

/-- How a failure to read the answer to a creation is classified. -/
def createTimeout (text : String) : Exc :=
  providerError .timeout ("ambiguous malformed create response: " ++ text)

lemma createTimeout_raised {kinds : List ProviderErrorKind} (h : .timeout ∈ kinds) (text : String) :
    Raised kinds (createTimeout text) := ⟨_, h, _, rfl⟩

/-- What a creation does with a response that has a status. -/
lemma run_createPayment_status (haccepts : http.acceptsPath "/orders" = true)
    (hsent : http.send n (createRequest req) = .response r) (hcode : r.statusCode = some code) :
    (createPayment http req).run n =
      (if 200 ≤ code ∧ code < 300 then
        readThen http createTimeout (readOrder r (some req.idempotencyKey))
      else if 500 ≤ code then
        Tx.raise (providerError .timeout
          ("ambiguous HTTP " ++ toString code ++ " response to order creation"))
      else if code = 429 then Tx.raise (providerError .transient "HTTP 429 from Razorpay")
      else if code = 400 ∧ duplicateReceiptResponse http r then
        Tx.raise (providerError .timeout "duplicate receipt response requires Order reconciliation")
      else Tx.raise (providerError .terminal ("HTTP " ++ toString code ++ " from Razorpay"))
        : Calls ProviderPayment).run (n + 1) := by
  unfold createPayment
  rw [Tx.run_bind_of_ok (run_request_response haccepts hsent), statusCode_ok.mpr hcode,
    Tx.run_bind_of_ok (run_classifying_ok _ _ _)]
  rfl

lemma run_createPayment_success (haccepts : http.acceptsPath "/orders" = true)
    (hsent : http.send n (createRequest req) = .response r) (hcode : r.statusCode = some code)
    (hsuccess : 200 ≤ code ∧ code < 300) :
    (createPayment http req).run n =
      (readThen http createTimeout (readOrder r (some req.idempotencyKey))).run (n + 1) := by
  rw [run_createPayment_status haccepts hsent hcode, if_pos hsuccess]

lemma readOrder_object {key : Option String} {order : Members} (h : r.json = some (.obj order)) :
    readOrder r key = orderToPayment order key := by
  unfold readOrder
  rw [jsonObject_ok.mpr h]
  rfl

/-- A body that is not an object is refused as malformed. -/
lemma readOrder_other (key : Option String) (h : ∀ order, r.json ≠ some (.obj order)) :
    ∃ text, readOrder r key = .error (.valueError text) := by
  unfold readOrder
  cases hparsed : jsonObject r with
  | ok order => exact absurd (jsonObject_ok.mp hparsed) (h order)
  | error e =>
    obtain ⟨text, rfl⟩ := jsonObject_error hparsed
    exact ⟨text, rfl⟩

/-- What a creation is answered, and what it makes of it: no answer or one without an order is a
timeout, an order is read, and another status is an error of one of the classes. -/
inductive Answered (http : Http) (req : PaymentRequest) (n : Nat) :
    Except Exc ProviderPayment × Nat → Prop where
  | lost (detail : String)
      (hnone : ∀ r code, http.send n (createRequest req) = .response r → r.statusCode = some code →
        ¬(200 ≤ code ∧ code < 300)) :
      Answered http req n (.error (providerError .timeout detail), n + 1)
  | garbled {r : HttpResponse} (detail : String)
      (hsent : http.send n (createRequest req) = .response r)
      (hbody : ∀ order, r.json ≠ some (.obj order)) :
      Answered http req n (.error (providerError .timeout detail), n + 1)
  | ordered {r : HttpResponse} {code : Int} {order : Members}
      (hsent : http.send n (createRequest req) = .response r) (hcode : r.statusCode = some code)
      (hsuccess : 200 ≤ code ∧ code < 300) (hbody : r.json = some (.obj order)) :
      Answered http req n ((readThen http createTimeout
        (orderToPayment order (some req.idempotencyKey))).run (n + 1))
  | refused {r : HttpResponse} {code : Int} {kind : ProviderErrorKind} (detail : String)
      (hsent : http.send n (createRequest req) = .response r) (hcode : r.statusCode = some code)
      (hstatus : ¬(200 ≤ code ∧ code < 300) ∧ code < 500) (hkind : kind ∈ classes) :
      Answered http req n (.error (providerError kind detail), n + 1)

lemma createPayment_answered (haccepts : http.acceptsPath "/orders" = true) :
    Answered http req n ((createPayment http req).run n) := by
  cases hsent : http.send n (createRequest req) with
  | transportFailure name =>
    have hrun : (createPayment http req).run n = (.error (providerError .timeout
        ("bounded POST transport failure (" ++ name ++ ")")), n + 1) :=
      Tx.run_bind_of_error (run_request_failure haccepts hsent)
    rw [hrun]
    refine .lost _ fun r code hr => ?_
    rw [hsent] at hr
    cases hr
  | response r =>
    cases hcode : r.statusCode with
    | none =>
      have hstatus : statusCode r = .error (.valueError "response has no valid HTTP status") := by
        rw [statusCode, hcode]
      unfold createPayment
      rw [Tx.run_bind_of_ok (run_request_response haccepts hsent), hstatus,
        Tx.run_bind_of_error (run_classifying_valueError _ _ _)]
      refine .lost _ fun r' code hr hcode' => ?_
      obtain rfl := Sent.response.inj (hsent.symm.trans hr)
      cases hcode.symm.trans hcode'
    | some code =>
      by_cases hsuccess : 200 ≤ code ∧ code < 300
      · rw [run_createPayment_success haccepts hsent hcode hsuccess]
        by_cases hbody : ∃ order, r.json = some (.obj order)
        · obtain ⟨order, hbody⟩ := hbody
          rw [readOrder_object hbody]
          exact .ordered hsent hcode hsuccess hbody
        · have hbody := not_exists.mp hbody
          obtain ⟨text, htext⟩ := readOrder_other (some req.idempotencyKey) hbody
          rw [htext]
          exact .garbled _ hsent hbody
      · have hnone : ∀ r' code', http.send n (createRequest req) = .response r' →
            r'.statusCode = some code' → ¬(200 ≤ code' ∧ code' < 300) := by
          intro r' code' hr hcode'
          obtain rfl := Sent.response.inj (hsent.symm.trans hr)
          obtain rfl := Option.some.inj (hcode.symm.trans hcode')
          exact hsuccess
        rw [run_createPayment_status haccepts hsent hcode, if_neg hsuccess]
        split
        · exact .lost _ hnone
        · next hserver =>
          have hstatus : ¬(200 ≤ code ∧ code < 300) ∧ code < 500 := ⟨hsuccess, by omega⟩
          split
          · exact .refused _ hsent hcode hstatus (by decide)
          · split
            · exact .refused _ hsent hcode hstatus (by decide)
            · exact .refused _ hsent hcode hstatus (by decide)

/-- An error of one of the classes, a timeout unless the server refused. -/
lemma createClassified_of_error {kind : ProviderErrorKind} {detail : String} {m : Nat}
    (hrun : (createPayment http req).run n = (.error (providerError kind detail), m))
    (hkind : kind ∈ classes) (hopen : LeftOpen http req n → kind = .timeout)
    (hsuccess : ∀ r code, http.send n (createRequest req) = .response r → r.statusCode = some code →
      200 ≤ code ∧ code < 300 → kind = .timeout) : CreateClassified http req n where
  classified := .of_error hrun ⟨kind, hkind, detail, rfl⟩
  own p m' hp := by
    rw [hrun] at hp
    cases hp
  leftOpen h := by
    obtain rfl := hopen h
    exact ⟨detail, m, hrun⟩
  notRefused r code hsent hcode hstatus := by
    obtain rfl := hsuccess r code hsent hcode hstatus
    exact .of_error hrun ⟨_, by decide, detail, rfl⟩
  captured p m' hp := by
    rw [hrun] at hp
    cases hp

/-- A creation that is answered with an order that can be read. -/
lemma createClassified_of_order {order : Members} (haccepts : http.acceptsPath "/orders" = true)
    (hsent : http.send n (createRequest req) = .response r) (hcode : r.statusCode = some code)
    (hsuccess : 200 ≤ code ∧ code < 300) (hbody : r.json = some (.obj order))
    (hreadable : Readable http order (some req.idempotencyKey)) : CreateClassified http req n := by
  have hrun : (createPayment http req).run n = (readThen http createTimeout
      (orderToPayment order (some req.idempotencyKey))).run (n + 1) := by
    rw [run_createPayment_success haccepts hsent hcode hsuccess, readOrder_object hbody]
  have hraises : Tx.RaisesAt (Raised [.timeout, .transient]) (createPayment http req) n := by
    intro e m he
    rw [hrun] at he
    exact readThen_raises hreadable (createTimeout_raised (by decide)) (by decide) e m he
  refine ⟨fun e m he => ?_, fun p m hp => ?_, fun hopen => ?_, fun _ _ _ _ _ => hraises,
    fun p m hp hsucceeded => ?_⟩
  · obtain ⟨kind, hkind, hdetail⟩ := hraises e m he
    exact ⟨kind, (show [.timeout, .transient] ⊆ classes by decide) hkind, hdetail⟩
  · rw [hrun] at hp
    obtain ⟨⟨head, attempts, husable⟩, hreports, -⟩ := readThen_ok hp
    refine ⟨r, order, hsent, hbody, hreports, ?_⟩
    rw [husable.receipt, husable.asked _ rfl]
  · have hunusable : ∀ head attempts, ¬Usable order (some req.idempotencyKey) head attempts := by
      cases hopen with
      | transport hsent' => cases hsent.symm.trans hsent'
      | server hsent' hcode' hserver =>
        obtain rfl := Sent.response.inj (hsent.symm.trans hsent')
        obtain rfl := Option.some.inj (hcode.symm.trans hcode')
        omega
      | unusable hsent' _ _ hnone =>
        obtain rfl := Sent.response.inj (hsent.symm.trans hsent')
        exact fun head attempts => hnone order head attempts hbody
    cases hread : orderToPayment order (some req.idempotencyKey) with
    | ok p =>
      obtain ⟨head, attempts, husable, -⟩ := orderToPayment_ok.mp hread
      exact absurd husable (hunusable head attempts)
    | error e =>
      obtain ⟨text, htext⟩ := orderToPayment_catchable hreadable.comparable e hread
      refine ⟨"ambiguous malformed create response: " ++ text, n + 1, hrun.trans ?_⟩
      rw [hread, readThen, classifying, htext]
      rfl
  · rw [hrun] at hp
    obtain ⟨-, -, hattached⟩ := readThen_ok hp
    obtain ⟨rfl, hcaptured⟩ := hattached hsucceeded
    exact ⟨n + 1, by omega, rfl, hcaptured⟩

/-- Creating classifies its answer exactly when the answer can be read. -/
lemma createClassified_iff : CreateClassified http req n ↔ CreateReadable http req n := by
  constructor
  · intro h
    have haccepts : http.acceptsPath "/orders" = true := by
      cases haccepts : http.acceptsPath "/orders" with
      | true => rfl
      | false =>
        have hrun : (createPayment http req).run n = (.error (.other "InvalidURL" "/orders"), n) :=
          Tx.run_bind_of_error (run_request_refused haccepts n)
        obtain ⟨_, _, _, he⟩ := h.classified _ _ hrun
        cases he
    refine ⟨haccepts, fun r code order hsent hcode hsuccess hbody => ?_⟩
    by_contra hunread
    obtain ⟨name, text, hrun⟩ := readThen_unread createTimeout (n + 1) hunread
    rw [← readOrder_object hbody, ← run_createPayment_success haccepts hsent hcode hsuccess] at hrun
    obtain ⟨_, _, _, he⟩ := h.classified _ _ hrun
    cases he
  · intro h
    have hanswered : Answered http req n ((createPayment http req).run n) :=
      createPayment_answered h.accepts
    generalize hout : (createPayment http req).run n = out at hanswered
    cases hanswered with
    | lost detail hnone =>
      exact createClassified_of_error hout (by decide) (fun _ => rfl) fun _ _ _ _ _ => rfl
    | garbled detail hsent hbody =>
      exact createClassified_of_error hout (by decide) (fun _ => rfl) fun _ _ _ _ _ => rfl
    | ordered hsent hcode hsuccess hbody =>
      exact createClassified_of_order h.accepts hsent hcode hsuccess hbody
        (h.order _ _ _ hsent hcode hsuccess hbody)
    | @refused r code kind detail hsent hcode hstatus hkind =>
      have hother : ∀ {r' code'}, http.send n (createRequest req) = .response r' →
          r'.statusCode = some code' → code' = code := by
        intro r' code' hsent' hcode'
        obtain rfl := Sent.response.inj (hsent.symm.trans hsent')
        exact Option.some.inj (hcode'.symm.trans hcode)
      refine createClassified_of_error hout hkind (fun hopen => ?_)
        fun r' code' hsent' hcode' hsuccess => ?_
      · cases hopen with
        | transport hsent' => cases hsent.symm.trans hsent'
        | server hsent' hcode' hserver =>
          obtain rfl := hother hsent' hcode'
          omega
        | unusable hsent' hcode' hsuccess _ =>
          obtain rfl := hother hsent' hcode'
          exact absurd hsuccess hstatus.1
      · obtain rfl := hother hsent' hcode'
        exact absurd hsuccess hstatus.1

end Create

-- ════════════════════════════════════════════════════════════════════════
-- Looking up
-- ════════════════════════════════════════════════════════════════════════

/-- A page of a search was answered with a list of items. -/
def ListsPage (http : Http) (receipt : String) (n k : Nat) (items : List Value) : Prop :=
  ∃ r code, http.send (n + k) (pageRequest receipt k) = .response r ∧ r.statusCode = some code ∧
    (200 ≤ code ∧ code < 300) ∧ pageItems r = .ok items

/-- The items that the pages of a search list, from a page on: those of full pages, and of the short
page that ends the search. -/
inductive Lists (http : Http) (receipt : String) (n : Nat) : Nat → List Value → Prop where
  | last {k : Nat} {items : List Value} (hk : k < maxPages)
      (hpage : ListsPage http receipt n k items) (hshort : items.length < pageSize) :
      Lists http receipt n k items
  | more {k : Nat} {items rest : List Value} (hk : k < maxPages)
      (hpage : ListsPage http receipt n k items) (hfull : pageSize ≤ items.length)
      (hrest : Lists http receipt n (k + 1) rest) :
      Lists http receipt n k (items ++ rest)

section Lists

variable {http : Http} {receipt : String} {n : Nat}

/-- Items are collected one page after the other. -/
lemma collectExact_append (receipt : String) (items items' : List Value)
    (exactById : List (String × Members)) :
    collectExact receipt (items ++ items') exactById =
      collectExact receipt items exactById >>= collectExact receipt items' := by
  induction items generalizing exactById with
  | nil => rfl
  | cons value items ih =>
    cases value with
    | obj item =>
      rw [List.cons_append]
      by_cases hexact : HasReceipt receipt item
      · rw [collectExact_cons hexact, collectExact_cons hexact]
        cases textMember (item.lookup "id") (· ≠ "")
            "matching order id is missing or malformed" with
        | error e => rfl
        | ok orderId =>
          dsimp only [bind, Except.bind]
          split
          · exact ih _
          · split
            · rfl
            · exact ih _
      · rw [collectExact_skip hexact, collectExact_skip hexact]
        exact ih _
    | null | bool | int | float | str | arr => exact ih _

/-- What is collected has the receipt, and was listed. -/
lemma mem_collectExact {items : List Value} {exactById found : List (String × Members)}
    (h : collectExact receipt items exactById = .ok found) :
    ∀ p ∈ found, p ∈ exactById ∨ (HasReceipt receipt p.2 ∧ .obj p.2 ∈ items) := by
  induction items generalizing exactById with
  | nil =>
    obtain rfl := Except.ok.inj h
    exact fun p hp => .inl hp
  | cons value items ih =>
    have hlater : ∀ {exactById}, collectExact receipt items exactById = .ok found → ∀ p ∈ found,
        p ∈ exactById ∨ (HasReceipt receipt p.2 ∧ .obj p.2 ∈ value :: items) :=
      fun h p hp => (ih h p hp).imp_right fun hmem => ⟨hmem.1, List.mem_cons_of_mem _ hmem.2⟩
    cases value with
    | obj item =>
      by_cases hexact : HasReceipt receipt item
      · rw [collectExact_cons hexact] at h
        obtain ⟨orderId, -, h⟩ := Tx.except_bind_ok.mp h
        split at h
        · intro p hp
          rcases hlater h p hp with hp | hp
          · rcases List.mem_append.mp hp with hp | hp
            · exact .inl hp
            · obtain rfl := List.mem_singleton.mp hp
              exact .inr ⟨hexact, List.mem_cons_self⟩
          · exact .inr hp
        · split at h
          · cases h
          · exact hlater h
      · rw [collectExact_skip hexact] at h
        exact hlater h
    | null | bool | int | float | str | arr => exact hlater h

lemma readPage_ok {r : HttpResponse} {exactById found : List (String × Members)} {count : Nat} :
    readPage receipt r exactById = .ok (count, found) ↔
      ∃ items, pageItems r = .ok items ∧ items.length = count ∧
        collectExact receipt items exactById = .ok found := by
  unfold readPage
  rw [Tx.except_bind_ok]
  refine exists_congr fun items => and_congr_right fun _ => ?_
  rw [Tx.except_bind_ok]
  constructor
  · rintro ⟨found', hfound, h⟩
    obtain ⟨hcount, rfl⟩ := Prod.mk.inj (Except.ok.inj h)
    exact ⟨hcount, hfound⟩
  · rintro ⟨rfl, hfound⟩
    exact ⟨found, hfound, rfl⟩

lemma readPage_catchable (r : HttpResponse) (exactById : List (String × Members)) :
    Catchable (readPage receipt r exactById) := by
  have hitems : Catchable (pageItems r) := by
    intro e h
    obtain ⟨text, rfl⟩ := pageItems_error h
    exact ⟨text, rfl⟩
  refine hitems.bind fun items _ => Catchable.bind (fun e h => ?_) fun _ _ => .ok _
  obtain ⟨text, rfl⟩ := collectExact_error h
  exact ⟨text, rfl⟩

/-- A search raises errors of the classes only. -/
lemma searchPages_raises (haccepts : http.acceptsPath "/orders" = true) (left k m : Nat)
    (exactById : List (String × Members)) :
    Tx.RaisesAt (Raised classes) (searchPages http receipt left k exactById) m := by
  have htransient : ∀ detail, Raised classes (providerError .transient detail) :=
    fun detail => ⟨_, by decide, detail, rfl⟩
  induction left generalizing k m exactById with
  | zero => exact .of_error rfl ⟨.ambiguity, by decide, _, rfl⟩
  | succ left ih =>
    unfold searchPages
    refine (request_raises haccepts (by decide)).bind fun r m₁ _ => ?_
    refine (classifying_raises (statusCode_catchable r) (fun _ => htransient _) m₁).bind
      fun code m₂ _ => ?_
    split
    · exact .of_error rfl (htransient _)
    · refine (classifying_raises (readPage_catchable r exactById) (fun _ => htransient _) m₂).bind
        fun page m₃ _ => ?_
      dsimp only
      split
      · exact .of_ok rfl
      · exact ih (k + 1) m₃ page.2

/-- A search returns what was collected from the pages that it read. -/
lemma searchPages_ok {left k : Nat} (hleft : k + left = maxPages)
    {exactById : List (String × Members)} {exact : List Members} {m : Nat}
    (h : (searchPages http receipt left k exactById).run (n + k) = (.ok exact, m)) :
    ∃ items found, Lists http receipt n k items ∧
      collectExact receipt items exactById = .ok found ∧ exact = found.map Prod.snd := by
  induction left generalizing k exactById with
  | zero => cases h
  | succ left ih =>
    unfold searchPages at h
    obtain ⟨r, m₁, hrequest, h⟩ := Tx.bind_ok.mp h
    obtain ⟨hsent, rfl⟩ := request_ok hrequest
    obtain ⟨code, m₂, hstatus, h⟩ := Tx.bind_ok.mp h
    obtain ⟨hcode, rfl⟩ := classifying_ok hstatus
    split at h
    · cases h
    · next hsuccess =>
      obtain ⟨⟨count, found⟩, m₃, hread, h⟩ := Tx.bind_ok.mp h
      obtain ⟨hpage, rfl⟩ := classifying_ok hread
      obtain ⟨items, hitems, rfl, hfound⟩ := readPage_ok.mp hpage
      have hlists : ListsPage http receipt n k items :=
        ⟨r, code, hsent, statusCode_ok.mp hcode, not_not.mp hsuccess, hitems⟩
      dsimp only at h
      split at h
      · next hshort =>
        obtain ⟨hexact, -⟩ := Prod.mk.inj h
        obtain rfl := Except.ok.inj hexact
        exact ⟨items, found, .last (by omega) hlists hshort, hfound, rfl⟩
      · next hfull =>
        obtain ⟨rest, found', hrest, hfound', hexact⟩ := ih (by omega) h
        refine ⟨items ++ rest, found', .more (by omega) hlists (by omega) hrest, ?_, hexact⟩
        rw [collectExact_append, hfound]
        exact hfound'

/-- A search whose pages can be read returns what is collected from them. -/
lemma searchPages_lists (haccepts : http.acceptsPath "/orders" = true) {k : Nat}
    {items : List Value} (hlists : Lists http receipt n k items) {left : Nat}
    (hleft : k + left = maxPages) {exactById found : List (String × Members)}
    (hfound : collectExact receipt items exactById = .ok found) :
    ∃ m, (searchPages http receipt left k exactById).run (n + k) =
      (.ok (found.map Prod.snd), m) := by
  induction hlists generalizing left exactById with
  | @last k items hk hpage hshort =>
    obtain ⟨left, rfl⟩ : ∃ left', left = left' + 1 := ⟨left - 1, by omega⟩
    obtain ⟨r, code, hsent, hcode, hsuccess, hitems⟩ := hpage
    unfold searchPages
    rw [Tx.run_bind_of_ok (run_request_response haccepts hsent), statusCode_ok.mpr hcode,
      Tx.run_bind_of_ok (run_classifying_ok _ _ _), if_neg (not_not.mpr hsuccess),
      readPage_ok.mpr ⟨items, hitems, rfl, hfound⟩, Tx.run_bind_of_ok (run_classifying_ok _ _ _)]
    dsimp only
    rw [if_pos hshort]
    exact ⟨_, rfl⟩
  | @more k items rest hk hpage hfull _ ih =>
    obtain ⟨left, rfl⟩ : ∃ left', left = left' + 1 := ⟨left - 1, by omega⟩
    obtain ⟨r, code, hsent, hcode, hsuccess, hitems⟩ := hpage
    rw [collectExact_append] at hfound
    obtain ⟨found', hfound', hrest⟩ := Tx.except_bind_ok.mp hfound
    unfold searchPages
    rw [Tx.run_bind_of_ok (run_request_response haccepts hsent), statusCode_ok.mpr hcode,
      Tx.run_bind_of_ok (run_classifying_ok _ _ _), if_neg (not_not.mpr hsuccess),
      readPage_ok.mpr ⟨items, hitems, rfl, hfound'⟩, Tx.run_bind_of_ok (run_classifying_ok _ _ _)]
    dsimp only
    rw [if_neg (by omega)]
    exact ih (by omega) hrest

end Lists

/-- The orders that a lookup is answered with: the body of the answer, or an item of a page. -/
inductive LookedUp (http : Http) (n : Nat) : Option String → Option String → Members → Prop where
  | byId {id : String} {key : Option String} {r : HttpResponse} {order : Members}
      (hsent : http.send n (orderRequest id) = .response r) (hbody : r.json = some (.obj order)) :
      LookedUp http n (some id) key order
  | byKey {key : String} {items : List Value} {order : Members}
      (hlists : Lists http (receiptForIdempotencyKey key) n 0 items) (hmem : .obj order ∈ items) :
      LookedUp http n none (some key) order

/-- A lookup classifies what it is answered: it raises errors of the four classes only, a payment
that it returns reports an order that it was answered with, and as succeeded only with its captured
payment. -/
structure GetClassified (http : Http) (id key : Option String) (n : Nat) : Prop where
  classified : Tx.RaisesAt (Raised classes) (getPayment http id key) n
  reports : ∀ p m, (getPayment http id key).run n = (.ok (some p), m) →
    ∃ order, LookedUp http n id key order ∧ Reports order p
  captured : ∀ p m, (getPayment http id key).run n = (.ok (some p), m) → p.status = .succeeded →
    ∃ k, m = k + 1 ∧ Captured http p k

/-- The path of a lookup is accepted, and the order that it is answered with can be read: the one
with the id, or the only one with the receipt of the key on the pages. -/
def GetReadable (http : Http) : Option String → Option String → Nat → Prop
  | some id, key, n => http.acceptsPath (orderRequest id).path = true ∧
    ∀ r code order, http.send n (orderRequest id) = .response r → r.statusCode = some code →
      200 ≤ code ∧ code < 300 → r.json = some (.obj order) → Readable http order key
  | none, some key, n => http.acceptsPath "/orders" = true ∧
    ∀ items orderId order, Lists http (receiptForIdempotencyKey key) n 0 items →
      collectExact (receiptForIdempotencyKey key) items [] = .ok [(orderId, order)] →
      Readable http order (some key)
  | none, none, _ => True

section Get

variable {http : Http} {n : Nat}

/-- How a failure to read the answer to a lookup is classified. -/
def lookupTransient (what text : String) : Exc :=
  providerError .transient ("malformed Order " ++ what ++ " response: " ++ text)

lemma run_lookup (classified : String → Exc) (order : Except Exc ProviderPayment) (m : Nat) :
    (do
      let payment ← classifying classified order
      some <$> settled http payment : Calls (Option ProviderPayment)).run m =
    (some <$> readThen http classified order).run m := by
  change _ = (readThen http classified order >>= fun p => pure (some p)).run m
  unfold readThen
  rcases hread : (classifying classified order).run m with ⟨e | p, m'⟩
  · rw [Tx.run_bind_of_error hread, Tx.run_bind_of_error (Tx.run_bind_of_error hread)]
  · rw [Tx.run_bind_of_ok hread, Tx.run_bind, Tx.run_bind_of_ok hread]
    rfl

lemma run_map_some_ok {α : Type} {x : Calls α} {a : α} {m m' : Nat}
    (h : (some <$> x).run m = (.ok (some a), m')) : x.run m = (.ok a, m') := by
  obtain ⟨a', m'', hx, hpure⟩ :=
    Tx.bind_ok.mp (show (x >>= fun a => pure (some a)).run m = _ from h)
  obtain ⟨ha, rfl⟩ := Prod.mk.inj hpure
  obtain rfl := Option.some.inj (Except.ok.inj ha)
  exact hx

lemma raisesAt_map_some {α : Type} {x : Calls α} {P : Exc → Prop} {m : Nat}
    (h : Tx.RaisesAt P x m) : Tx.RaisesAt P (some <$> x) m :=
  Tx.RaisesAt.bind h fun _ _ _ => .of_ok rfl

lemma run_map_some_error {α : Type} {x : Calls α} {e : Exc} {m m' : Nat}
    (h : x.run m = (.error e, m')) : (some <$> x).run m = (.error e, m') :=
  Tx.run_bind_of_error h

/-- What a lookup by id does with an order. -/
lemma run_getOrderById {id : String} {key : Option String} {r : HttpResponse} {code : Int}
    (haccepts : http.acceptsPath (orderRequest id).path = true)
    (hsent : http.send n (orderRequest id) = .response r) (hcode : r.statusCode = some code)
    (hsuccess : 200 ≤ code ∧ code < 300) :
    (getPayment http (some id) key).run n =
      (some <$> readThen http (lookupTransient "lookup") (readOrder r key)).run (n + 1) := by
  change (getOrderById http id key).run n = _
  unfold getOrderById
  rw [Tx.run_bind_of_ok (run_request_response haccepts hsent), statusCode_ok.mpr hcode,
    Tx.run_bind_of_ok (run_classifying_ok _ _ _), if_neg (by omega), if_neg (not_not.mpr hsuccess)]
  exact run_lookup _ _ _

/-- What a lookup by id returns is made of the order that it is answered with. -/
lemma getOrderById_ok {id : String} {key : Option String} {p : ProviderPayment} {m : Nat}
    (h : (getPayment http (some id) key).run n = (.ok (some p), m)) :
    ∃ r order, http.send n (orderRequest id) = .response r ∧ r.json = some (.obj order) ∧
      (readThen http (lookupTransient "lookup") (orderToPayment order key)).run (n + 1) =
        (.ok p, m) := by
  have haccepts : http.acceptsPath (orderRequest id).path = true := by
    cases haccepts : http.acceptsPath (orderRequest id).path with
    | true => rfl
    | false => cases (Tx.run_bind_of_error (run_request_refused haccepts n)).symm.trans h
  have hrun : (getOrderById http id key).run n = (.ok (some p), m) := h
  unfold getOrderById at hrun
  obtain ⟨r, m₁, hrequest, hrun⟩ := Tx.bind_ok.mp hrun
  obtain ⟨hsent, rfl⟩ := request_ok hrequest
  obtain ⟨code, m₂, hstatus, hrun⟩ := Tx.bind_ok.mp hrun
  obtain ⟨hcode, rfl⟩ := classifying_ok hstatus
  split at hrun
  · cases hrun
  · split at hrun
    · cases hrun
    · next hsuccess =>
      rw [run_getOrderById haccepts hsent (statusCode_ok.mp hcode) (not_not.mp hsuccess)] at h
      replace h := run_map_some_ok h
      by_cases hbody : ∃ order, r.json = some (.obj order)
      · obtain ⟨order, hbody⟩ := hbody
        rw [readOrder_object hbody] at h
        exact ⟨r, order, hsent, hbody, h⟩
      · obtain ⟨text, htext⟩ := readOrder_other key (not_exists.mp hbody)
        rw [htext] at h
        cases h

lemma lookupTransient_raised (what text : String) : Raised classes (lookupTransient what text) :=
  ⟨.transient, by decide, _, rfl⟩

lemma getOrderById_raises {id : String} {key : Option String}
    (h : GetReadable http (some id) key n) :
    Tx.RaisesAt (Raised classes) (getPayment http (some id) key) n := by
  have htransient : ∀ detail, Raised classes (providerError .transient detail) :=
    fun detail => ⟨_, by decide, detail, rfl⟩
  obtain ⟨haccepts, horder⟩ := h
  change Tx.RaisesAt (Raised classes) (getOrderById http id key) n
  unfold getOrderById
  refine (request_raises haccepts (by decide)).bind fun r m₁ hrequest => ?_
  refine (classifying_raises (statusCode_catchable r) (fun _ => htransient _) m₁).bind
    fun code m₂ hstatus => ?_
  obtain ⟨hsent, -⟩ := request_ok hrequest
  obtain ⟨hcode, -⟩ := classifying_ok hstatus
  split
  · exact .of_ok rfl
  · split
    · exact .of_error rfl (htransient _)
    · next hsuccess =>
      intro e m he
      have hrun := (run_lookup (lookupTransient "lookup") (readOrder r key) m₂).symm.trans he
      by_cases hbody : ∃ order, r.json = some (.obj order)
      · obtain ⟨order, hbody⟩ := hbody
        rw [readOrder_object hbody] at hrun
        have hreadable := horder r code order hsent (statusCode_ok.mp hcode) (not_not.mp hsuccess)
          hbody
        exact raisesAt_map_some (readThen_raises hreadable (lookupTransient_raised _) (by decide))
          e m hrun
      · obtain ⟨text, htext⟩ := readOrder_other key (not_exists.mp hbody)
        rw [htext] at hrun
        obtain rfl := Except.error.inj (Prod.mk.inj hrun).1
        exact lookupTransient_raised _ _

/-- A lookup by id classifies its answer exactly when the answer can be read. -/
lemma getClassified_id_iff {id : String} {key : Option String} :
    GetClassified http (some id) key n ↔ GetReadable http (some id) key n := by
  constructor
  · intro h
    have haccepts : http.acceptsPath (orderRequest id).path = true := by
      cases haccepts : http.acceptsPath (orderRequest id).path with
      | true => rfl
      | false =>
        obtain ⟨_, _, _, he⟩ :=
          h.classified _ _ (Tx.run_bind_of_error (run_request_refused haccepts n))
        cases he
    refine ⟨haccepts, fun r code order hsent hcode hsuccess hbody => ?_⟩
    by_contra hunread
    obtain ⟨name, text, hrun⟩ := readThen_unread (lookupTransient "lookup") (n + 1) hunread
    replace hrun := run_map_some_error hrun
    rw [← readOrder_object hbody, ← run_getOrderById haccepts hsent hcode hsuccess] at hrun
    obtain ⟨_, _, _, he⟩ := h.classified _ _ hrun
    cases he
  · intro h
    refine ⟨getOrderById_raises h, fun p m hp => ?_, fun p m hp hsucceeded => ?_⟩
    · obtain ⟨r, order, hsent, hbody, hrun⟩ := getOrderById_ok hp
      exact ⟨order, .byId hsent hbody, (readThen_ok hrun).2.1⟩
    · obtain ⟨r, order, hsent, hbody, hrun⟩ := getOrderById_ok hp
      obtain ⟨rfl, hcaptured⟩ := (readThen_ok hrun).2.2 hsucceeded
      exact ⟨n + 1, rfl, hcaptured⟩

/-- What a lookup by key does with the only order that its search found. -/
lemma run_getOrderByKey_single {key : String} {order : Members} {m : Nat}
    (hsearch : (ordersWithExactReceipt http (receiptForIdempotencyKey key)).run n =
      (.ok [order], m)) :
    (getPayment http none (some key)).run n =
      (some <$> readThen http (lookupTransient "search") (orderToPayment order (some key))).run m := by
  rw [run_getOrderByKey, hsearch]
  exact run_lookup _ _ _

/-- The only order that a search found is the only one with the receipt on its pages. -/
lemma ordersWithExactReceipt_single {receipt : String} {order : Members} {m : Nat}
    (hsearch : (ordersWithExactReceipt http receipt).run n = (.ok [order], m)) :
    ∃ items orderId, Lists http receipt n 0 items ∧
      collectExact receipt items [] = .ok [(orderId, order)] := by
  obtain ⟨items, found, hlists, hfound, hexact⟩ := searchPages_ok (Nat.zero_add _) hsearch
  obtain ⟨⟨orderId, order'⟩, rfl⟩ : ∃ p, found = [p] := by
    rw [← List.length_eq_one_iff, ← List.length_map Prod.snd, ← hexact, List.length_singleton]
  obtain rfl : order = order' := by simpa using hexact
  exact ⟨items, orderId, hlists, hfound⟩

/-- How a lookup by key ends: as its search does, or with the only order that it found. -/
lemma getOrderByKey_cases (http : Http) (n : Nat) (key : String) :
    (∃ order m, (ordersWithExactReceipt http (receiptForIdempotencyKey key)).run n =
      (.ok [order], m)) ∨
    (∃ e m, (ordersWithExactReceipt http (receiptForIdempotencyKey key)).run n = (.error e, m) ∧
      (getPayment http none (some key)).run n = (.error e, m)) ∨
    (∃ m, (getPayment http none (some key)).run n = (.ok none, m)) ∨
    ∃ detail m, (getPayment http none (some key)).run n =
      (.error (providerError .ambiguity detail), m) := by
  have hlookup := run_getOrderByKey http n key
  rcases hsearch : (ordersWithExactReceipt http (receiptForIdempotencyKey key)).run n with ⟨e | exact, m⟩
  · rw [hsearch] at hlookup
    exact .inr (.inl ⟨e, m, rfl, hlookup⟩)
  · rw [hsearch] at hlookup
    rcases exact with _ | ⟨order, _ | ⟨order', rest⟩⟩
    · exact .inr (.inr (.inl ⟨m, hlookup⟩))
    · exact .inl ⟨order, m, rfl⟩
    · exact .inr (.inr (.inr ⟨_, m, hlookup⟩))

/-- A lookup by key classifies its answers exactly when they can be read. -/
lemma getClassified_key_iff {key : String} :
    GetClassified http none (some key) n ↔ GetReadable http none (some key) n := by
  constructor
  · intro h
    have haccepts : http.acceptsPath "/orders" = true := by
      cases haccepts : http.acceptsPath "/orders" with
      | true => rfl
      | false =>
        have hsearch : (ordersWithExactReceipt http (receiptForIdempotencyKey key)).run n =
            (.error (.other "InvalidURL" "/orders"), n) :=
          Tx.run_bind_of_error (run_request_refused haccepts n)
        have hrun := run_getOrderByKey http n key
        rw [hsearch] at hrun
        obtain ⟨_, _, _, he⟩ := h.classified _ _ hrun
        cases he
    refine ⟨haccepts, fun items orderId order hlists hfound => ?_⟩
    by_contra hunread
    obtain ⟨m, hsearch⟩ := searchPages_lists haccepts hlists (Nat.zero_add _) hfound
    obtain ⟨name, text, hrun⟩ := readThen_unread (lookupTransient "search") m hunread
    replace hrun := run_map_some_error hrun
    rw [← run_getOrderByKey_single hsearch] at hrun
    obtain ⟨_, _, _, he⟩ := h.classified _ _ hrun
    cases he
  · rintro ⟨haccepts, horder⟩
    rcases getOrderByKey_cases http n key with
      ⟨order, m, hsearch⟩ | ⟨e, m, hsearch, hrun⟩ | ⟨m, hrun⟩ | ⟨detail, m, hrun⟩
    · obtain ⟨items, orderId, hlists, hfound⟩ := ordersWithExactReceipt_single hsearch
      have hrun := run_getOrderByKey_single hsearch
      have hmem := (mem_collectExact hfound _ List.mem_cons_self).resolve_left List.not_mem_nil
      refine ⟨fun e m' he => ?_, fun p m' hp => ?_, fun p m' hp hsucceeded => ?_⟩
      · rw [hrun] at he
        exact raisesAt_map_some (readThen_raises (horder items orderId order hlists hfound)
          (lookupTransient_raised _) (by decide)) e m' he
      · rw [hrun] at hp
        exact ⟨order, .byKey hlists hmem.2, (readThen_ok (run_map_some_ok hp)).2.1⟩
      · rw [hrun] at hp
        obtain ⟨rfl, hcaptured⟩ := (readThen_ok (run_map_some_ok hp)).2.2 hsucceeded
        exact ⟨m, rfl, hcaptured⟩
    · have hraised := searchPages_raises haccepts _ _ _ _ e m hsearch
      refine ⟨.of_error hrun hraised, fun p m' hp => ?_, fun p m' hp => ?_⟩
      · cases hrun.symm.trans hp
      · cases hrun.symm.trans hp
    · refine ⟨.of_ok hrun, fun p m' hp => ?_, fun p m' hp => ?_⟩
      · cases hrun.symm.trans hp
      · cases hrun.symm.trans hp
    · refine ⟨.of_error hrun ⟨.ambiguity, by decide, detail, rfl⟩, fun p m' hp => ?_,
        fun p m' hp => ?_⟩
      · cases hrun.symm.trans hp
      · cases hrun.symm.trans hp

end Get

/-- Razorpay's answers are classified exactly when they can be read: the client accepts the paths,
the receipt of an order that is compared is ASCII, and the payments of a usable paid order can be
asked for. -/
theorem responses_classified_iff (http : Http) (n : Nat) :
    (∀ req, CreateClassified http req n ↔ CreateReadable http req n) ∧
    ∀ id key, GetClassified http id key n ↔ GetReadable http id key n := by
  refine ⟨fun req => createClassified_iff, fun id key => ?_⟩
  cases id with
  | some id => exact getClassified_id_iff
  | none =>
    cases key with
    | some key => exact getClassified_key_iff
    | none =>
      refine ⟨fun _ => trivial, fun _ => ⟨.of_ok rfl, fun p m hp => ?_, fun p m hp => ?_⟩⟩
      · cases hp
      · cases hp

namespace Sample

/-- A request of one rupee. -/
def request : PaymentRequest where
  idempotencyKey := "k"
  amountInr := 1
  currency := "INR"
  transactionDigestPrefix := ""
  merchantId := "m"

/-- An order of one rupee. -/
def orderWith (id status receipt : String) : Members :=
  [("id", .str id), ("entity", .str "order"), ("status", .str status), ("amount", .int 100),
    ("currency", .str "INR"), ("receipt", .str receipt), ("attempts", .int 0)]

/-- A client that is answered with an order. Like `httpx` it refuses control characters in a URL. -/
def answering (order : Members) : Http where
  acceptsPath path := path.toList.all fun c => 32 ≤ c.toNat && c.toNat != 127
  send _ _ := .response ⟨some 200, some (.obj order)⟩
  lower := id

lemma isOrder_orderWith {id status receipt : String} (hid : startsWith "order_" id = true)
    (hstatus : status ≠ "") (hreceipt : receipt ≠ "") :
    IsOrder (orderWith id status receipt) ⟨id, status, 1, "INR", receipt⟩ :=
  ⟨rfl, hid, rfl, rfl, hstatus, rfl, Int.one_nonneg, rfl,
    show "INR".length = 3 by decide, rfl, hreceipt⟩

end Sample

/-- Two orders that escape the classification: one with a receipt that is not ASCII, and a paid one
with a control character in its id. -/
theorem unreadable_orders_escape :
    ¬CreateClassified (Sample.answering (Sample.orderWith "order_1" "created" "\u00e9"))
      Sample.request 0 ∧
    ¬CreateClassified (Sample.answering (Sample.orderWith "order_\x01" "paid"
      (receiptForIdempotencyKey "k"))) Sample.request 0 := by
  constructor
  · intro h
    have hreadable := (createClassified_iff.mp h).order _ 200 _ rfl rfl (by decide) rfl
    have hascii := hreadable.comparable _ "k" rfl
      (Sample.isOrder_orderWith (by decide) (by decide) (by decide))
    revert hascii
    decide
  · intro h
    have hreadable := (createClassified_iff.mp h).order _ 200 _ rfl rfl (by decide) rfl
    have hreceipt : receiptForIdempotencyKey "k" ≠ "" := by
      intro hempty
      have hlength := congrArg (fun s => s.toList.isEmpty) hempty
      simp [receiptForIdempotencyKey, receiptPrefix] at hlength
    have haccepts := hreadable.payments _ 0
      ⟨Sample.isOrder_orderWith (by decide) (by decide) hreceipt, fun k hk => ?_, rfl, by decide,
        by decide, ?_, by decide⟩ rfl
    · revert haccepts
      decide
    · rw [← Option.some.inj hk]
      rfl
    · decide +kernel

end Razorpay

end Pactra
