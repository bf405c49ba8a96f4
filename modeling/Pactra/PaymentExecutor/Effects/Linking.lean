import Pactra.AuditLedger.Verify
import Pactra.PaymentExecutor.Effects.Operations

/-!
# What a refused provider answer leaves on the intent

Linking a provider payment checks and assigns one reference after another. An answer that contradicts
a reference is refused there, with the references before it already assigned, and the caller that
catches the refusal commits them. So the evidence of the intent is untouched exactly when no reference
was adopted before the contradiction.

## Main results

- `linkProviderPayment_stops` — the intent row at the contradiction
- `refused_answer_untouched_iff` — when a refused answer leaves the evidence as it was
-/

namespace Pactra

namespace PaymentExecutor

/-- Two intent rows record the same provider evidence and state. -/
structure SameEvidence (intent intent' : PaymentIntentRow) : Prop where
  paymentId : intent'.providerPaymentId = intent.providerPaymentId
  orderId : intent'.providerOrderId = intent.providerOrderId
  receipt : intent'.providerReceipt = intent.providerReceipt
  transactionId : intent'.providerTransactionId = intent.providerTransactionId
  status : intent'.providerStatus = intent.providerStatus
  attempts : intent'.providerAttempts = intent.providerAttempts
  state : intent'.state = intent.state

lemma SameEvidence.refl (intent : PaymentIntentRow) : SameEvidence intent intent :=
  ⟨rfl, rfl, rfl, rfl, rfl, rfl, rfl⟩

/-- The references an intent records, each with what an answer names for it, in the order in which
they are linked. The settlement identity is linked by a successful answer only. -/
def references (payment : ProviderPayment) (intent : PaymentIntentRow) :
    List (Option String × Option String) :=
  [(intent.providerPaymentId, some payment.providerPaymentId),
   (intent.providerOrderId, payment.providerOrderId),
   (intent.providerReceipt, payment.providerReceipt)] ++
    if payment.status = .succeeded then
      [(intent.providerTransactionId, payment.providerTransactionId)]
    else []

instance (held value : Option String) : Decidable (Agree held value) := by
  unfold Agree
  infer_instance

/-- Whether an unset reference that the answer names comes before the first one it contradicts. -/
def adoptsBeforeConflict : (adopted : Bool) → List (Option String × Option String) → Bool
  | _, [] => false
  | adopted, (held, value) :: rest =>
    if Agree held value then adoptsBeforeConflict (adopted || held.isNone && value.isSome) rest
    else adopted

section Linking

variable {payment : ProviderPayment} {u : UnitOfWork}

lemma Agree.or_eq_iff {held value : Option String} (h : Agree held value) :
    value.or held = held ↔ (held.isNone && value.isSome) = false := by
  rcases h with rfl | rfl | rfl
  · cases value <;> simp
  · cases held <;> simp
  · cases held <;> simp

/-- A link that meets a contradiction keeps the evidence exactly when nothing was adopted before. -/
lemma linkProviderPayment_stops (env : Env) (db : Db) (h : ¬Linkable payment u.intent) :
    ∃ detail intent', (linkProviderPayment env db payment).run u =
        (.error (.provider ⟨.mismatch, u.intent.provider, detail⟩), { u with intent := intent' }) ∧
      (SameEvidence u.intent intent' ↔
        adoptsBeforeConflict false (references payment u.intent) = false) := by
  unfold references
  rcases assignOnce_cases env u.intent.provider "provider reference" u.intent.providerPaymentId
    (some payment.providerPaymentId) with ⟨hp, hrun⟩ | ⟨⟨-, hnot⟩, detail, hrun⟩
  swap
  · refine ⟨detail, u.intent, ?_, ?_⟩
    · simp [linkProviderPayment, Tx.run_bind, hrun]
    · simp [adoptsBeforeConflict, hnot, SameEvidence.refl]
  have hp' := hp.or_eq_iff
  rcases assignOnce_cases env u.intent.provider "provider order id" u.intent.providerOrderId
    payment.providerOrderId with ⟨ho, hrun'⟩ | ⟨⟨-, hnot⟩, detail, hrun'⟩
  swap
  · refine ⟨detail, { u.intent with providerPaymentId := some payment.providerPaymentId }, ?_, ?_⟩
    · simp [linkProviderPayment, Tx.run_bind, hrun, hrun', withIntent]
    · simp only [adoptsBeforeConflict, List.cons_append, hp, hnot, if_true, if_false, Bool.false_or,
        ← hp']
      exact ⟨fun hsame => hsame.paymentId, fun hid => ⟨hid, rfl, rfl, rfl, rfl, rfl, rfl⟩⟩
  have ho' := ho.or_eq_iff
  rcases assignOnce_cases env u.intent.provider "provider receipt" u.intent.providerReceipt
    payment.providerReceipt with ⟨hr, hrun''⟩ | ⟨⟨-, hnot⟩, detail, hrun''⟩
  swap
  · refine ⟨detail, { u.intent with
      providerPaymentId := some payment.providerPaymentId
      providerOrderId := payment.providerOrderId.or u.intent.providerOrderId }, ?_, ?_⟩
    · simp [linkProviderPayment, Tx.run_bind, hrun, hrun', hrun'', withIntent]
    · simp only [adoptsBeforeConflict, List.cons_append, hp, ho, hnot, if_true, if_false,
        Bool.false_or, Bool.or_eq_false_iff, ← hp', ← ho']
      exact ⟨fun hsame => ⟨hsame.paymentId, hsame.orderId⟩,
        fun hids => ⟨hids.1, hids.2, rfl, rfl, rfl, rfl, rfl⟩⟩
  have hr' := hr.or_eq_iff
  have hst : payment.status = .succeeded := by
    by_contra hst
    exact h ⟨hp, ho, hr, fun hst' => absurd hst' hst⟩
  rcases assignOnce_cases env u.intent.provider "provider transaction id"
    u.intent.providerTransactionId payment.providerTransactionId with
    ⟨ht, -⟩ | ⟨⟨-, hnot⟩, detail, hrun₃⟩
  · exact absurd ⟨hp, ho, hr, fun _ => ht⟩ h
  · refine ⟨detail, { u.intent with
      providerPaymentId := some payment.providerPaymentId
      providerOrderId := payment.providerOrderId.or u.intent.providerOrderId
      providerReceipt := payment.providerReceipt.or u.intent.providerReceipt }, ?_, ?_⟩
    · simp [linkProviderPayment, Tx.run_bind, hrun, hrun', hrun'', hrun₃, hst, withIntent]
    · simp only [adoptsBeforeConflict, List.cons_append, List.nil_append, hst, hp, ho, hr, hnot,
        if_true, if_false, Bool.false_or, Bool.or_eq_false_iff, ← hp', ← ho', ← hr']
      exact ⟨fun hsame => ⟨⟨hsame.paymentId, hsame.orderId⟩, hsame.receipt⟩,
        fun hids => ⟨hids.1.1, hids.1.2, hids.2, rfl, rfl, rfl, rfl⟩⟩

lemma adoptsBeforeConflict_of_agree {refs : List (Option String × Option String)}
    (h : ∀ r ∈ refs, Agree r.1 r.2) (adopted : Bool) : adoptsBeforeConflict adopted refs = false := by
  induction refs generalizing adopted with
  | nil => rfl
  | cons r refs ih =>
    obtain ⟨held, value⟩ := r
    rw [adoptsBeforeConflict, if_pos (h (held, value) (by simp))]
    exact ih (fun r hr => h r (by simp [hr])) _

lemma Linkable.references_agree (h : Linkable payment u.intent) :
    ∀ r ∈ references payment u.intent, Agree r.1 r.2 := by
  unfold references
  by_cases hst : payment.status = .succeeded
  · simp [hst, h.paymentId, h.orderId, h.receipt, h.transactionId hst]
  · simp [hst, h.paymentId, h.orderId, h.receipt]

/-- An answer that is refused leaves the evidence of the intent untouched exactly when it is refused
before linking, or adopts no reference before the one it contradicts. -/
theorem refused_answer_untouched_iff (env : Env) (db : Db) (payment : ProviderPayment)
    (now : Datetime) (u : UnitOfWork) :
    (∀ error u', error.kind = .mismatch →
      (applyProviderPayment env db payment now).run u = (.error (.provider error), u') →
        SameEvidence u.intent u'.intent) ↔
      ¬(paymentMismatches env u.intent payment (u.intent.providerPaymentId == none) = [] ∧
        adoptsBeforeConflict false (references payment u.intent) = true) := by
  rcases run_validateProviderPayment env payment (u.intent.providerPaymentId == none) u with
    ⟨hv, hrun⟩ | ⟨hnot, detail, hrun⟩
  swap
  · refine ⟨fun _ hc => hnot hc.1, fun _ error u' _ herror => ?_⟩
    unfold applyProviderPayment at herror
    rw [Tx.run_bind_of_ok (Tx.run_get u), Tx.run_bind_of_error hrun] at herror
    rw [← (Prod.mk.inj herror).2]
    exact SameEvidence.refl u.intent
  by_cases hl : Linkable payment u.intent
  · refine ⟨fun _ hc => ?_, fun _ error u' _ herror => ?_⟩
    · rw [adoptsBeforeConflict_of_agree hl.references_agree] at hc
      exact Bool.false_ne_true hc.2
    · exact absurd ⟨hv, hl⟩ (applyProviderPayment_error herror).2
  · obtain ⟨detail, intent', hlink, hsame⟩ := linkProviderPayment_stops env db hl
    have hstops : (applyProviderPayment env db payment now).run u =
        (.error (.provider ⟨.mismatch, u.intent.provider, detail⟩), { u with intent := intent' }) := by
      unfold applyProviderPayment
      rw [Tx.run_bind_of_ok (Tx.run_get u), Tx.run_bind_of_ok hrun, Tx.run_bind_of_error hlink]
    constructor
    · intro huntouched hc
      have hkept := hsame.mp (huntouched _ _ rfl hstops)
      exact Bool.false_ne_true (hkept.symm.trans hc.2)
    · intro hc error u' _ herror
      rw [hstops] at herror
      rw [← (Prod.mk.inj herror).2]
      exact hsame.mpr (Bool.eq_false_of_not_eq_true fun hadopts => hc ⟨hv, hadopts⟩)

end Linking

namespace Sample

/-- An intent that records a provider payment and a receipt, but no order. -/
def linkedIntent : UnitOfWork :=
  ⟨{ id := ⟨"i"⟩, missionId := ⟨"m"⟩, authorizationId := ⟨"a"⟩, transactionDigest := "d",
     idempotencyKey := "k", requestFingerprint := "f", amountInr := 50, currency := "INR",
     merchantId := "shop", provider := "razorpay", providerPaymentId := some "order_1",
     providerOrderId := none, providerTransactionId := none, providerReceipt := some "r1",
     providerStatus := none, providerAttempts := none, providerCreateFencedAt := none,
     providerAmbiguityObservedAt := none, state := .providerPending, attempts := 1,
     lastReasonCode := none, createdAt := 0 }, none, [], []⟩

/-- An answer about that payment, with an order and another receipt. -/
def otherReceipt : ProviderPayment :=
  { provider := "razorpay", providerPaymentId := "order_1", status := .pending, amountInr := 50,
    currency := "INR", idempotencyKey := some "k", providerOrderId := some "order_1",
    providerTransactionId := none, providerReceipt := some "r2", providerStatus := some "created",
    providerAttempts := some 0, providerPaymentId_ne := by decide }

end Sample

/-- The answer with another receipt is refused, but its order stays on the intent. -/
theorem refused_answer_links_order :
    ∃ error u', error.kind = ProviderErrorKind.mismatch ∧
      (applyProviderPayment Pactra.Sample.ledgerEnv Db.empty Sample.otherReceipt 0).run Sample.linkedIntent =
        (.error (.provider error), u') ∧
      Sample.linkedIntent.intent.providerOrderId = none ∧
      u'.intent.providerOrderId = some "order_1" ∧
      ¬SameEvidence Sample.linkedIntent.intent u'.intent := by
  have horder : (((applyProviderPayment Pactra.Sample.ledgerEnv Db.empty Sample.otherReceipt 0).run
      Sample.linkedIntent).2.intent.providerOrderId) = some "order_1" := by
    decide
  have hvalid : paymentMismatches Pactra.Sample.ledgerEnv Sample.linkedIntent.intent
      Sample.otherReceipt (Sample.linkedIntent.intent.providerPaymentId == none) = [] := by
    decide
  have hreceipt : ¬Linkable Sample.otherReceipt Sample.linkedIntent.intent := fun h =>
    absurd h.receipt (by decide)
  obtain ⟨detail, intent', hlink, -⟩ :=
    linkProviderPayment_stops Pactra.Sample.ledgerEnv Db.empty hreceipt
  rcases run_validateProviderPayment Pactra.Sample.ledgerEnv Sample.otherReceipt
    (Sample.linkedIntent.intent.providerPaymentId == none) Sample.linkedIntent with
    ⟨-, hrun⟩ | ⟨hnot, -⟩
  · have hstops : (applyProviderPayment Pactra.Sample.ledgerEnv Db.empty Sample.otherReceipt 0).run
        Sample.linkedIntent = (.error (.provider ⟨.mismatch, "razorpay", detail⟩),
          { Sample.linkedIntent with intent := intent' }) := by
      unfold applyProviderPayment
      rw [Tx.run_bind_of_ok (Tx.run_get _), Tx.run_bind_of_ok hrun, Tx.run_bind_of_error hlink]
      rfl
    rw [hstops] at horder
    exact ⟨_, _, rfl, hstops, rfl, horder, fun h => absurd (h.orderId.symm.trans horder) (by decide)⟩
  · exact absurd hvalid hnot

end PaymentExecutor

end Pactra
