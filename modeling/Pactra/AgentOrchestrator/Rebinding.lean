import Pactra.AgentOrchestrator.Abort
import Pactra.SecurityKernel.Storage

/-!
# The selected offer at bind time

Between the selection of an offer and its binding the stored row can change in any way. The bind-time
check recomputes the fingerprint of the row as it comes back from storage, so it refuses every change
that a fingerprint covers and accepts the row that nobody touched. The one thing it does not refuse as
a changed offer is a row whose fingerprint cannot be computed at all.

## Main results

- `run_buildFromStoredOffer` — what the check does with a row whose fingerprint can be computed
- `binds_exactly_iff` — when binding succeeds exactly on an unchanged offer
-/

namespace Pactra

namespace AgentOrchestrator

open SecurityKernel (StoredOffer)

/-- A stored row that still says what the selected offer said. -/
structure Unchanged (best : ProvenancedOffer) (row : StoredOffer) : Prop where
  valid : row.columns.valid = true
  merchantId : row.columns.merchantId = best.merchantId
  productId : row.columns.productId = best.productId
  amountInr : row.columns.amountInr = best.amountInr
  currency : row.columns.currency = best.currency
  inStock : row.columns.inStock = best.inStock
  rating : ∃ q, row.rating = .finite q ∧ Numeric.FitsDouble (q * 100) ∧
    ratingCentis q = ratingCentis best.rating
  offeredAt : row.offeredAt.utc = best.offeredAt
  offerVersion : row.columns.offerVersion = best.offerVersion

/-- Binding refuses a missing or changed row as a changed offer, does not so refuse an unchanged one,
and binds the row's price times the quantity, which is the amount policy decided on. -/
structure BindsExactly (best : ProvenancedOffer) (decision : PolicyDecision) (quantity : Int)
    (found : Option StoredOffer) (out : Except Exc BoundTransaction) : Prop where
  refuses : (∀ row, found = some row → ¬Unchanged best row) → ∃ e, out = .error e ∧ IsBindRefusal e
  accepts : ∀ row, found = some row → Unchanged best row → ∀ e, out = .error e → ¬IsBindRefusal e
  amount : ∀ t, out = .ok t → ∃ row, found = some row ∧
    t.amountInr = row.columns.amountInr * quantity ∧ decision.requestedAmount = some t.amountInr

/-- The fields that the fingerprint of a stored row covers. -/
def storedFields (row : StoredOffer) (q : Rat) : List (String × CanonicalValue) :=
  offerVersionFields row.columns.merchantId row.columns.productId row.columns.amountInr
    row.columns.currency (ratingCentis q) row.columns.inStock row.offeredAt.utc

/-- The fields that the fingerprint of a selected offer covers. -/
def selectedFields (best : ProvenancedOffer) : List (String × CanonicalValue) :=
  offerVersionFields best.merchantId best.productId best.amountInr best.currency
    (ratingCentis best.rating) best.inStock best.offeredAt

/-- The truncated digest keeps the messages of a stored row and of the selected offer apart. -/
def NoCollision (best : ProvenancedOffer) (row : StoredOffer) : Prop :=
  ∀ q, row.rating = .finite q →
    offerFingerprint (storedFields row q) = offerFingerprint (selectedFields best) →
      Canonical.canonicalMessage offerVersionDomain (storedFields row q) =
        Canonical.canonicalMessage offerVersionDomain (selectedFields best)

section Rebinding

variable {env : Env} {missionId offerId : Uuid} {version nonce : String} {decision : PolicyDecision}
  {quantity : Int} {expiresAt : Datetime} {row : StoredOffer} {best : ProvenancedOffer} {db : Db}

/-- A computation that starts with a check raised the check's violation or what the rest raised. -/
lemma require_bind_error {condition : Bool} {invariantId detail : String} {α : Type}
    {f : Unit → DbTx α} {e : Exc} {db' : Db}
    (h : (require condition invariantId detail >>= f).run db = (.error e, db')) :
    e = .invariantViolation invariantId detail ∨ (f ()).run db = (.error e, db') := by
  cases condition with
  | false => exact .inl (Except.error.inj (Prod.mk.inj h).1).symm
  | true => exact .inr h

/-- The values of an offer are never refused as a changed offer. -/
lemma not_isBindRefusal_values {offer : Offer} {e : Exc} {db' : Db}
    (h : (SecurityKernel.buildBoundTransactionFromValues env offer version decision quantity nonce
      expiresAt).run db = (.error e, db')) : ¬IsBindRefusal e := by
  unfold SecurityKernel.buildBoundTransactionFromValues at h
  rcases require_bind_error h with rfl | h
  · exact id
  rcases require_bind_error h with rfl | h
  · exact id
  rcases require_bind_error h with rfl | h
  · exact id
  split at h
  · obtain rfl := Except.error.inj (Prod.mk.inj h).1
    exact id
  · rcases require_bind_error h with rfl | h
    · exact id
    split at h
    · obtain rfl := Except.error.inj (Prod.mk.inj h).1
      exact id
    · cases (Prod.mk.inj h).1

/-- What the check does with a row whose fingerprint can be computed. -/
lemma run_buildFromStoredOffer {q : Rat} (hrange : row.offeredAt.utc.InRange)
    (hrating : row.rating = .finite q) (hfits : Numeric.FitsDouble (q * 100)) :
    (SecurityKernel.buildFromStoredOffer env missionId offerId version decision quantity nonce
        expiresAt (some row)).run db =
      if row.columns.offerVersion ≠ offerFingerprint (storedFields row q) ∨
          offerFingerprint (storedFields row q) ≠ version then
        (.error (.bindRefusedOfferChanged missionId offerId
          "selected offer version does not match the bind-time offer record"
          SecurityKernel.offerVersionInvariant), db)
      else if row.columns.valid = false then
        (.error (.bindRefusedOfferChanged missionId offerId
          "the selected offer was rejected before bind time" SecurityKernel.offerValidInvariant), db)
      else
        (SecurityKernel.buildBoundTransactionFromValues env row.columns
          (offerFingerprint (storedFields row q)) decision quantity nonce expiresAt).run db := by
  unfold SecurityKernel.buildFromStoredOffer
  rw [Tx.run_bind_of_ok (SecurityKernel.run_currentVersion hrange hrating hfits db), Tx.run_ite,
    Tx.run_ite]
  simp only [Bool.not_eq_true']
  rfl

/-- A row with the fingerprint of the selected offer says what that offer said. -/
lemma unchanged_of_fingerprint (hselected : best.offeredAt.InRange) {q : Rat}
    (hrange : row.offeredAt.utc.InRange) (hrating : row.rating = .finite q)
    (hfits : Numeric.FitsDouble (q * 100)) (hsha : NoCollision best row)
    (hversion : offerFingerprint (storedFields row q) = best.offerVersion)
    (hstored : row.columns.offerVersion = best.offerVersion) (hvalid : row.columns.valid = true) :
    Unchanged best row := by
  obtain ⟨h₁, h₂, h₃, h₄, h₅, h₆, h₇⟩ := offerVersionFields_of_fingerprint hrange hselected rfl rfl
    (hsha q hrating) hversion
  exact ⟨hvalid, h₁, h₂, h₃, h₄, h₆, ⟨q, hrating, hfits, h₅⟩, h₇, hstored⟩

/-- The fingerprint of an unchanged row is that of the selected offer. -/
lemma Unchanged.fingerprint (h : Unchanged best row) {q : Rat} (hrating : row.rating = .finite q) :
    offerFingerprint (storedFields row q) = best.offerVersion := by
  obtain ⟨q', hq', -, hcentis⟩ := h.rating
  obtain rfl : q = q' := Wire.Float.finite.inj (hrating.symm.trans hq')
  unfold storedFields
  rw [h.merchantId, h.productId, h.amountInr, h.currency, h.inStock, hcentis, h.offeredAt]
  rfl

/-- The instant of a selected offer has a UTC `datetime`. -/
lemma offeredAt_inRange {request : CreateMissionRequest} {quotes : List AuthenticatedQuote} {n : Nat}
    (hpassed : firstRefusal quotes = none)
    (hbest : best ∈ PolicyEngine.rankOffers (offersFrom env request quotes n)) :
    best.offeredAt.InRange := by
  obtain ⟨o, ho, -, rank, rfl⟩ := mem_rankOffers hbest
  obtain ⟨⟨raw, context⟩, hr, id, rfl⟩ := mem_normalizedFrom ho
  have hnone := List.findSome?_eq_none_iff.mp hpassed (raw, context) hr
  by_contra hrange
  have hraw : ¬raw.offeredAt.InRange := hrange
  by_cases hidentity : context.merchantId = context.recordMerchantId <;>
    simp [refusal, hidentity, hraw] at hnone

/-- Binding a row whose fingerprint can be computed is exact. -/
lemma bindsExactly_of_readable (hselected : best.offeredAt.InRange) (hread : row.Readable)
    (hsha : NoCollision best row) :
    BindsExactly best decision quantity (some row)
      ((SecurityKernel.buildFromStoredOffer env missionId offerId best.offerVersion decision quantity
        nonce expiresAt (some row)).run db).1 := by
  obtain ⟨hrange, q, hrating, hfits⟩ := hread
  rw [run_buildFromStoredOffer hrange hrating hfits]
  by_cases hversion : row.columns.offerVersion ≠ offerFingerprint (storedFields row q) ∨
      offerFingerprint (storedFields row q) ≠ best.offerVersion
  · rw [if_pos hversion]
    refine ⟨fun _ => ⟨_, rfl, trivial⟩, fun row' hrow' h => ?_, fun t ht => by cases ht⟩
    obtain rfl := Option.some.inj hrow'
    have hsame := h.fingerprint hrating
    rcases hversion with hversion | hversion
    · exact absurd (h.offerVersion.trans hsame.symm) hversion
    · exact absurd hsame hversion
  · rw [if_neg hversion]
    obtain ⟨hstored, hcurrent⟩ := not_or.mp hversion
    rw [not_not] at hstored hcurrent
    by_cases hvalid : row.columns.valid = false
    · rw [if_pos hvalid]
      refine ⟨fun _ => ⟨_, rfl, trivial⟩, fun row' hrow' h => ?_, fun t ht => by cases ht⟩
      obtain rfl := Option.some.inj hrow'
      rw [h.valid] at hvalid
      cases hvalid
    · rw [if_neg hvalid]
      have hunchanged : Unchanged best row := unchanged_of_fingerprint hselected hrange hrating hfits
        hsha hcurrent (hstored.trans hcurrent) (Bool.eq_true_of_not_eq_false hvalid)
      refine ⟨fun h => absurd hunchanged (h row rfl), fun row' _ _ e he => ?_, fun t ht => ?_⟩
      · exact not_isBindRefusal_values (Prod.ext he rfl)
      · obtain ⟨-, -, -, hamount, hprice, -⟩ :=
          SecurityKernel.buildBoundTransactionFromValues_ok (Prod.ext ht rfl)
        exact ⟨row, rfl, hprice, hamount⟩

/-- Binding succeeds exactly on an unchanged offer, for an offer that the orchestrator selected and
whatever its stored row then holds, unless the fingerprint of that row cannot be computed. -/
theorem binds_exactly_iff {request : CreateMissionRequest} {quotes : List AuthenticatedQuote} {n : Nat}
    (hpassed : firstRefusal quotes = none)
    (hbest : (PolicyEngine.rankOffers (offersFrom env request quotes n)).head? = some best)
    {found : Option StoredOffer} (hsha : ∀ row, found = some row → NoCollision best row)
    (missionId : Uuid) (nonce : String) (expiresAt : Datetime) (db : Db) :
    BindsExactly best (decisionOn request (offersFrom env request quotes n)) request.quantity found
        ((SecurityKernel.buildFromStoredOffer env missionId best.offerId best.offerVersion
          (decisionOn request (offersFrom env request quotes n)) request.quantity nonce expiresAt
          found).run db).1 ↔
      ∀ row, found = some row → row.Readable := by
  have hselected : best.offeredAt.InRange :=
    offeredAt_inRange hpassed (List.mem_of_mem_head? hbest)
  cases found with
  | none =>
    refine ⟨?_, fun _ => ⟨fun _ => ⟨_, rfl, trivial⟩, ?_, ?_⟩⟩
    · intro _ row hrow
      cases hrow
    · intro row hrow
      cases hrow
    · intro t ht
      cases ht
  | some row =>
    refine ⟨fun h row' hrow' => ?_, fun h => bindsExactly_of_readable hselected (h row rfl)
      (hsha row rfl)⟩
    obtain rfl := Option.some.inj hrow'
    by_contra hread
    obtain ⟨name, text, hversion⟩ := SecurityKernel.run_currentVersion_of_not_readable hread db
    have hchanged : ∀ row', some row = some row' → ¬Unchanged best row' := by
      intro row' hrow' hunchanged
      obtain rfl := Option.some.inj hrow'
      obtain ⟨q, hrating, hfits, -⟩ := hunchanged.rating
      exact hread ⟨hunchanged.offeredAt ▸ hselected, q, hrating, hfits⟩
    obtain ⟨e, he, hrefusal⟩ := h.refuses hchanged
    unfold SecurityKernel.buildFromStoredOffer at he
    rw [Tx.run_bind_of_error hversion] at he
    obtain rfl := Except.error.inj he
    exact hrefusal

end Rebinding

namespace Sample

/-- The offers of a single merchant, at 50 rupees. -/
def offers : List ProvenancedOffer := offersFrom env request (quotes 50 fifty_nonneg "t" []) 0

/-- The selected one. -/
def best : ProvenancedOffer :=
  (PolicyEngine.rankOffers offers).head?.get (by decide +kernel)

lemma selected : (PolicyEngine.rankOffers offers).head? = some best := (Option.some_get _).symm

/-- Its row, with a rating that came back from storage and a time without an offset. -/
def row (rating : Wire.Float) : StoredOffer :=
  ⟨{ offerRow ⟨"mission"⟩ best with rank := some 1 }, rating, ⟨0, none, by decide⟩⟩

/-- Binding it for the decision on that offer. -/
def bind (rating : Wire.Float) : Except Exc BoundTransaction :=
  ((SecurityKernel.buildFromStoredOffer env ⟨"mission"⟩ best.offerId best.offerVersion
    (decisionOn request offers) request.quantity (env.tokenHex 0) 900 (some (row rating))).run
      Db.empty).1

end Sample

/-- A row whose rating was changed to `2 ^ 1020`, which is no longer finite in hundredths, is not
refused as a changed offer. -/
theorem huge_rating_overflows :
    ¬Unchanged Sample.best (Sample.row (.finite (2 ^ 1020))) ∧
      Sample.bind (.finite (2 ^ 1020)) =
        .error (.other "OverflowError" "cannot convert float infinity to integer") ∧
      ¬BindsExactly Sample.best (decisionOn Sample.request Sample.offers) Sample.request.quantity
        (some (Sample.row (.finite (2 ^ 1020)))) (Sample.bind (.finite (2 ^ 1020))) := by
  have hchanged : ¬Unchanged Sample.best (Sample.row (.finite (2 ^ 1020))) := by
    intro h
    obtain ⟨q, hrating, hfits, -⟩ := h.rating
    rw [← Wire.Float.finite.inj hrating] at hfits
    exact absurd hfits (by decide +kernel)
  have hraised : Sample.bind (.finite (2 ^ 1020)) =
      .error (.other "OverflowError" "cannot convert float infinity to integer") := by
    decide +kernel
  refine ⟨hchanged, hraised, fun h => ?_⟩
  obtain ⟨e, he, hrefusal⟩ := h.refuses fun row hrow => Option.some.inj hrow ▸ hchanged
  rw [hraised] at he
  obtain rfl := Except.error.inj he
  exact hrefusal

/-- The untouched row is bound. -/
theorem binds_exactly_fifty :
    BindsExactly Sample.best (decisionOn Sample.request Sample.offers) Sample.request.quantity
        (some (Sample.row (.finite 4))) (Sample.bind (.finite 4)) ∧
      (Sample.bind (.finite 4)).isOk = true := by
  have hpassed : firstRefusal (Sample.quotes 50 (by norm_num) "t" []) = none := by
    decide +kernel
  have hsha : ∀ row, some (Sample.row (.finite 4)) = some row → NoCollision Sample.best row := by
    intro row hrow q hq _
    obtain rfl := Option.some.inj hrow
    obtain rfl : 4 = q := Wire.Float.finite.inj hq
    have hrating : Sample.best.rating = 4 := by decide +kernel
    have htime : Sample.best.offeredAt = 0 := by decide +kernel
    have hsame : storedFields (Sample.row (.finite 4)) 4 = selectedFields Sample.best := by
      unfold storedFields selectedFields
      rw [hrating, htime]
      rfl
    rw [hsame]
  refine ⟨(binds_exactly_iff hpassed Sample.selected hsha ⟨"mission"⟩ (Sample.env.tokenHex 0) 900
    Db.empty).mpr fun row hrow => ?_, by decide +kernel⟩
  obtain rfl := Option.some.inj hrow
  exact ⟨by decide, 4, rfl, by decide +kernel⟩

end AgentOrchestrator

end Pactra
