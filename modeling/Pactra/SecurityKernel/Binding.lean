import Pactra.PolicyEngine.Engine

/-!
# Transaction binding

`services/security_kernel/binding.py`: the selected offer is reloaded from its stored row, its
fingerprint is recomputed, and the adjudicated amount must be its unit price times the quantity.
-/

namespace Pactra

namespace SecurityKernel

/-- `OFFER_VERSION_INVARIANT`. -/
def offerVersionInvariant : String :=
  "binding.selected_offer_version_matches_authoritative_record"

/-- `OFFER_VALID_INVARIANT`. -/
def offerValidInvariant : String := "binding.offer_is_valid"

/-- `_build_bound_transaction_from_values`, on the values of a stored offer row. -/
def buildBoundTransactionFromValues (env : Env) (offer : Offer) (offerVersion : String)
    (decision : PolicyDecision) (quantity : Int) (nonce : String) (expiresAt : Datetime) :
    DbTx BoundTransaction := do
  require (decision.decision ≠ .deny) "binding.decision_is_authorizable"
    ("cannot bind a transaction for a " ++ decision.decision.value ++ " decision")
  require offer.valid offerValidInvariant
    ("offer " ++ offer.id.str ++ " was rejected and cannot be bound")
  require (decision.selectedOfferId = some offer.id) "binding.offer_matches_decision"
    ("decision selected another offer, not offer " ++ offer.id.str)
  match decision.requestedAmount with
  | none =>
    Tx.raise (.invariantViolation "binding.decision_has_amount"
      "an authorizable decision must carry the adjudicated amount")
  | some amount => do
    require (amount = offer.amountInr * quantity) "binding.amount_matches_offer_and_quantity"
      ("decision amount " ++ toString amount ++ " != unit " ++ toString offer.amountInr
        ++ " x qty " ++ toString quantity)
    match BoundTransaction.make env.upper
        { merchantId := offer.merchantId, productId := offer.productId, quantity := quantity,
          amountInr := amount, currency := offer.currency,
          policyVersion := decision.policyVersion, offerVersion := offerVersion,
          expiresAt := expiresAt, nonce := nonce } with
    | none => Tx.raise (.validationError "BoundTransaction")
    | some transaction => pure transaction

/-- `build_bound_transaction_from_selected_offer`. -/
def buildBoundTransactionFromSelectedOffer (env : Env) (missionId offerId : Uuid)
    (selectedOfferVersion : String) (decision : PolicyDecision) (quantity : Int)
    (nonce : String) (expiresAt : Datetime) : DbTx BoundTransaction := do
  let db ← Tx.get
  match db.offers.find? (fun o => decide (o.id = offerId ∧ o.missionId = missionId)) with
  | none =>
    Tx.raise (.bindRefusedOfferChanged missionId offerId
      "the selected offer is absent at bind time" offerVersionInvariant)
  | some row => do
    let currentVersion := computeOfferVersion row.merchantId row.productId row.amountInr
      row.currency row.rating row.inStock row.offeredAt
    if row.offerVersion ≠ currentVersion ∨ currentVersion ≠ selectedOfferVersion then
      Tx.raise (.bindRefusedOfferChanged missionId offerId
        "selected offer version does not match the bind-time offer record"
        offerVersionInvariant)
    else if !row.valid then
      Tx.raise (.bindRefusedOfferChanged missionId offerId
        "the selected offer was rejected before bind time" offerValidInvariant)
    else
      buildBoundTransactionFromValues env row currentVersion decision quantity nonce expiresAt

/-- The transaction that the values of an offer were bound to. -/
lemma buildBoundTransactionFromValues_ok {env : Env} {offer : Offer} {version nonce : String}
    {decision : PolicyDecision} {quantity : Int} {expiresAt : Datetime} {db db' : Db}
    {t : BoundTransaction} (h : (buildBoundTransactionFromValues env offer version decision quantity
      nonce expiresAt).run db = (.ok t, db')) :
    db' = db ∧ decision.decision ≠ .deny ∧ decision.selectedOfferId = some offer.id ∧
      decision.requestedAmount = some t.amountInr ∧ t.amountInr = offer.amountInr * quantity ∧
      t.quantity = quantity ∧ t.merchantId = offer.merchantId ∧ t.productId = offer.productId ∧
      t.currency = env.upper offer.currency ∧ t.policyVersion = decision.policyVersion := by
  unfold buildBoundTransactionFromValues at h
  obtain ⟨hdeny, h⟩ := require_bind_ok.mp h
  obtain ⟨-, h⟩ := require_bind_ok.mp h
  obtain ⟨hselected, h⟩ := require_bind_ok.mp h
  split at h
  · simp at h
  · next amount hamount =>
    obtain ⟨heq, h⟩ := require_bind_ok.mp h
    split at h
    · simp at h
    · next t' ht =>
      simp only [Tx.run_pure, Prod.mk.injEq, Except.ok.injEq] at h
      obtain ⟨rfl, rfl⟩ := h
      obtain ⟨h₁, h₂, h₃, h₄, h₅, h₆, -⟩ := BoundTransaction.make_eq_some ht
      have hamt : amount = offer.amountInr * quantity := by simpa using heq
      exact ⟨rfl, by simpa using hdeny, by simpa using hselected, by rw [hamount, h₄],
        h₄.trans hamt, h₃, h₁, h₂, h₅, h₆⟩

/-- A transaction that was bound: for a decision that is not DENY, of the selected offer of the
mission, for the adjudicated amount, which is its unit price times the quantity. -/
theorem buildBoundTransactionFromSelectedOffer_ok {env : Env} {missionId offerId : Uuid}
    {version nonce : String} {decision : PolicyDecision} {quantity : Int} {expiresAt : Datetime}
    {db db' : Db} {t : BoundTransaction}
    (h : (buildBoundTransactionFromSelectedOffer env missionId offerId version decision quantity
      nonce expiresAt).run db = (.ok t, db')) :
    db' = db ∧ decision.decision ≠ .deny ∧
      ∃ offer ∈ db.offers, offer.id = offerId ∧ offer.missionId = missionId ∧
        decision.selectedOfferId = some offerId ∧ decision.requestedAmount = some t.amountInr ∧
        t.amountInr = offer.amountInr * quantity ∧ t.quantity = quantity ∧
        t.merchantId = offer.merchantId ∧ t.productId = offer.productId ∧
        t.currency = env.upper offer.currency ∧ t.policyVersion = decision.policyVersion := by
  unfold buildBoundTransactionFromSelectedOffer at h
  rw [Tx.run_bind_of_ok (Tx.run_get db)] at h
  split at h
  · simp at h
  · next row hrow =>
    have hmem : row ∈ db.offers := List.mem_of_find?_eq_some hrow
    have hid : row.id = offerId ∧ row.missionId = missionId := by
      simpa using List.find?_some hrow
    simp only [Tx.run_ite] at h
    split at h
    · simp at h
    · split at h
      · simp at h
      · obtain ⟨hdb, hdeny, hselected, hrest⟩ := buildBoundTransactionFromValues_ok h
        exact ⟨hdb, hdeny, row, hmem, hid.1, hid.2, hid.1 ▸ hselected, hrest⟩

end SecurityKernel

end Pactra
