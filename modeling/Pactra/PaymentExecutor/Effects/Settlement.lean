import Pactra.PaymentExecutor.Effects.Rows

/-!
# What links a payment, and what settles it

The provider may answer anything. A handler adopts an answer only if it names the intent, writes the
reference of the payment once, and settles the payment only on an answer that says so.

## Main results

- `Dispatched.links`, `Reconciled.links` — the reference is written once, from an answer that names
  the intent
- `Dispatched.succeeds`, `Reconciled.succeeds`, `Delivered.succeeds` — a payment succeeds on an
  answer, or a delivery, that says so about the linked reference
-/

namespace Pactra

namespace PaymentExecutor

open PaymentIntentState PaymentIntentRow

/-- A provider payment that names an intent: its provider, amount, currency and key. -/
structure Names (payment : ProviderPayment) (i : PaymentIntentRow) : Prop where
  provider : payment.provider = i.provider
  amountInr : payment.amountInr = i.amountInr
  currency : payment.currency = i.currency
  idempotencyKey : payment.idempotencyKey = some i.idempotencyKey

/-- A payment that the provider answered a handler with. -/
def Answers (lookup : LookupAnswer) (create : CreateAnswer) (payment : ProviderPayment) : Prop :=
  lookup = .found payment ∨ create = .payment payment

/-- How the reference of the provider payment follows: kept, or written from an answer that names
the intent. -/
def Links (lookup : LookupAnswer) (create : CreateAnswer) (i i' : PaymentIntentRow) : Prop :=
  i'.providerPaymentId = i.providerPaymentId ∨
    (i.providerPaymentId = none ∧ ∃ payment, Answers lookup create payment ∧ Names payment i ∧
      i'.providerPaymentId = some payment.providerPaymentId)

/-- A payment that succeeded did so on an answer about the linked reference. -/
def Succeeds (lookup : LookupAnswer) (create : CreateAnswer) (i i' : PaymentIntentRow) : Prop :=
  i'.state = .succeeded → i.state = .succeeded ∨ ∃ payment, Answers lookup create payment ∧
    payment.status = .succeeded ∧ i'.providerPaymentId = some payment.providerPaymentId

-- ════════════════════════════════════════════════════════════════════════
-- One answer
-- ════════════════════════════════════════════════════════════════════════

section Answer

variable {env : Env} {db : Db} {payment : ProviderPayment} {now : Datetime} {i : PaymentIntentRow}
  {u u' v : UnitOfWork} {lookup : LookupAnswer} {create : CreateAnswer}

lemma Names.of_valid (h : Valid env payment i true) : Names payment i := by
  unfold Valid paymentMismatches at h
  simp only [List.append_eq_nil_iff] at h
  obtain ⟨⟨⟨hprovider, hamount⟩, hcurrency⟩, hkey⟩ := h
  refine ⟨?_, ?_, ?_, ?_⟩
  · simpa using hprovider
  · simpa using hamount
  · simpa using hcurrency
  · cases hk : payment.idempotencyKey with
    | none => simp [hk] at hkey
    | some key => simpa [hk] using hkey

lemma Names.of_terms {i' : PaymentIntentRow} (h : Names payment i) (ht : i'.terms = i.terms) :
    Names payment i' := by
  refine ⟨?_, ?_, ?_, ?_⟩
  · rw [provider_of_terms ht]
    exact h.provider
  · exact h.amountInr.trans (congrArg PaymentIntentRow.amountInr ht).symm
  · exact h.currency.trans (congrArg PaymentIntentRow.currency ht).symm
  · rw [idempotencyKey_of_terms ht]
    exact h.idempotencyKey

lemma paymentId_attempted (a b : Bool) :
    (attempted a b u).intent.providerPaymentId = u.intent.providerPaymentId :=
  congrArg Prod.fst (references_attempted a b)

lemma state_attempted (a b : Bool) :
    (attempted a b u).intent.state = .processing ∨
      (attempted a b u).intent.state = u.intent.state := by
  rw [attempted_intent]
  split
  · exact .inl rfl
  · exact .inr rfl

/-- An adopted answer to an unlinked intent names it. -/
lemma Settles.links (h : Settles env db payment now u u') (ha : Answers lookup create payment) :
    Links lookup create u.intent u'.intent := by
  obtain ⟨-, -, -, hid⟩ := settled_columns u payment now
  rw [← h.eq] at hid
  rcases h.adoptable.linkable.paymentId with hnone | hsome | heq
  · have hvalid := h.adoptable.valid
    rw [hnone] at hvalid
    exact .inr ⟨hnone, payment, ha, .of_valid hvalid, hid⟩
  · cases hsome
  · exact .inl (hid.trans heq.symm)

lemma Settles.succeeds (h : Settles env db payment now u u') (ha : Answers lookup create payment) :
    Succeeds lookup create u.intent u'.intent := by
  obtain ⟨-, -, -, hid⟩ := settled_columns u payment now
  have hstate := settled_state u payment now
  rw [← h.eq] at hid hstate
  intro hs
  rw [hs] at hstate
  split at hstate
  · exact .inl hstate.symm
  · refine .inr ⟨payment, ha, ?_, hid⟩
    revert hstate
    cases payment.status <;> simp [providerStatusToState]

/-- An attempt moves neither reference nor outcome. -/
lemma Links.of_attempted {a b : Bool} {i' : PaymentIntentRow}
    (h : Links lookup create (attempted a b u).intent i') : Links lookup create u.intent i' := by
  unfold Links at h ⊢
  rw [paymentId_attempted] at h
  rcases h with h | ⟨hnone, payment, ha, hn, hid⟩
  · exact .inl h
  · exact .inr ⟨hnone, payment, ha, hn.of_terms (moves_attempted u a b).terms.symm, hid⟩

lemma Succeeds.of_attempted {a b : Bool} {i' : PaymentIntentRow}
    (h : Succeeds lookup create (attempted a b u).intent i') :
    Succeeds lookup create u.intent i' := by
  intro hs
  rcases h hs with hstate | hpaid
  · rcases state_attempted (u := u) a b with hp | hsame
    · cases hp.symm.trans hstate
    · exact .inl (hsame.symm.trans hstate)
  · exact .inr hpaid

lemma paymentId_uncertain (detail : String) (reasonCode : String) (timedOut : Bool) :
    (uncertain detail now reasonCode timedOut u).intent.providerPaymentId =
      u.intent.providerPaymentId := by
  rw [uncertain_intent]
  exact congrArg Prod.fst (references_markedAmbiguous now reasonCode u.intent)

lemma succeeds_uncertain (detail : String) (reasonCode : String) (timedOut : Bool) :
    Succeeds lookup create i (uncertain detail now reasonCode timedOut v).intent := by
  intro hs
  rw [uncertain_intent] at hs
  cases hs

/-- A refused answer to a committable row links nothing. -/
lemma Refused.links_attempted {a b : Bool} (h : Refused (attempted a b u) v)
    (hr : u.intent.providerPaymentId = none → u.intent.Unlinked) :
    v.intent.providerPaymentId = u.intent.providerPaymentId :=
  (h.paymentId (attempted_referenced a b hr)).trans (paymentId_attempted a b)

end Answer

-- ════════════════════════════════════════════════════════════════════════
-- Handlers
-- ════════════════════════════════════════════════════════════════════════

section Handlers

variable {ctx : TurnContext} {u u' : UnitOfWork} {e e' : OutboxEventRow}

/-- A create turn writes the reference once, from an answer that names the intent. -/
theorem Dispatched.links (h : Dispatched ctx u e u' e') (hu : Committable ctx.env u.intent) :
    Links ctx.lookup ctx.create u.intent u'.intent := by
  cases h with
  | finished => exact .inl rfl
  | handedOver => exact .inl rfl
  | uncertain => exact .inl (paymentId_uncertain _ _ _)
  | recovered payment v hl _ _ h =>
    rw [followedUp_intent]
    exact Links.of_attempted (h.links (.inl hl))
  | recoveredRefused _ v _ h =>
    left
    rw [paymentId_uncertain]
    rcases h with rfl | h
    · rfl
    · exact h.links_attempted hu.referenced
  | created payment v hc _ _ h =>
    rw [followedUp_intent]
    exact Links.of_attempted (h.links (.inr hc))
  | createdRefused _ v _ h =>
    left
    rw [paymentId_uncertain]
    exact h.links_attempted hu.referenced
  | createUncertain =>
    left
    rw [paymentId_uncertain]
    exact paymentId_attempted _ _
  | createRetryable => exact .inl (paymentId_attempted true false)
  | createTerminal => exact .inl (paymentId_attempted true false)

/-- A create turn lets a payment succeed on an answer that says so. -/
theorem Dispatched.succeeds (h : Dispatched ctx u e u' e') :
    Succeeds ctx.lookup ctx.create u.intent u'.intent := by
  cases h with
  | finished => exact fun hs => .inl hs
  | handedOver => exact fun hs => .inl hs
  | uncertain => exact succeeds_uncertain _ _ _
  | recovered payment v hl _ _ h =>
    rw [followedUp_intent]
    exact Succeeds.of_attempted (h.succeeds (.inl hl))
  | recoveredRefused => exact succeeds_uncertain _ _ _
  | created payment v hc _ _ h =>
    rw [followedUp_intent]
    exact Succeeds.of_attempted (h.succeeds (.inr hc))
  | createdRefused => exact succeeds_uncertain _ _ _
  | createUncertain => exact succeeds_uncertain _ _ _
  | createRetryable => exact nofun
  | createTerminal => exact nofun

/-- A reconcile turn writes the reference once, from an answer that names the intent. -/
theorem Reconciled.links (h : Reconciled ctx u e u' e') (hu : Committable ctx.env u.intent) :
    Links ctx.lookup ctx.create u.intent u'.intent := by
  cases h with
  | ambiguous =>
    left
    rw [noted_intent]
    unfold ambiguityKept
    split <;> rfl
  | fencedNotFound =>
    left
    show (fencedKept u).intent.providerPaymentId = _
    unfold fencedKept
    split <;> rfl
  | found payment v hl _ _ h => exact Links.of_attempted (h.links (.inl hl))
  | refused payment _ v _ _ _ _ h =>
    rcases h with rfl | ⟨-, h⟩
    · exact .inl rfl
    · exact .inl (h.links_attempted hu.referenced)
  | _ => exact .inl rfl

/-- A reconcile turn lets a payment succeed on an answer that says so. -/
theorem Reconciled.succeeds (h : Reconciled ctx u e u' e') :
    Succeeds ctx.lookup ctx.create u.intent u'.intent := by
  cases h with
  | ambiguityObserved => exact nofun
  | ambiguous =>
    intro hs
    rw [noted_intent, ambiguityKept_state] at hs
    cases hs
  | fencedNotFound =>
    intro hs
    have hpending : (fencedKept u).intent.state = .providerPending := fencedKept_state
    cases hpending.symm.trans hs
  | noPayment => exact nofun
  | found payment v hl _ _ h => exact Succeeds.of_attempted (h.succeeds (.inl hl))
  | refused payment _ v _ _ _ _ h =>
    rcases h with rfl | ⟨-, h⟩
    · exact fun hs => .inl hs
    · refine Succeeds.of_attempted (a := false) (b := true) fun hs => .inl ?_
      exact h.state.symm.trans hs
  | _ => exact fun hs => .inl hs

/-- A delivery keeps the reference. -/
theorem Delivered.paymentId {db : Db} {event : VerifiedWebhookEvent}
    {applied : Option (Option PaymentIntentState)} (h : Delivered db event u u' applied) :
    u'.intent.providerPaymentId = u.intent.providerPaymentId := by
  cases h with
  | applied target =>
    unfold withSettledMission
    split <;> rfl
  | _ => rfl

/-- A delivery lets a payment succeed only if it reports a success. -/
theorem Delivered.succeeds {db : Db} {event : VerifiedWebhookEvent}
    {applied : Option (Option PaymentIntentState)} (h : Delivered db event u u' applied)
    (hs : u'.intent.state = .succeeded) :
    u.intent.state = .succeeded ∨ event.eventType = .paymentSucceeded := by
  cases h with
  | applied target _ _ ht =>
    right
    have htarget : target = .succeeded := by
      rw [← hs]
      unfold withSettledMission
      split <;> rfl
    rw [htarget] at ht
    revert ht
    cases event.eventType <;> simp [webhookTypeToState]
  | _ => exact .inl hs

end Handlers

end PaymentExecutor

end Pactra
