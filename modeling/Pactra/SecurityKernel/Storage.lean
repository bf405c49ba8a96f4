import Pactra.AuditLedger.Verify
import Pactra.Foundation.Wire
import Pactra.SecurityKernel.Authorization
import Pactra.SecurityKernel.Binding

/-!
# Rows that come back from storage

The rows of the model hold instants. A database may return a timestamp in another form: as an aware
`datetime` with any offset, or, without a type for it, as a naive one in UTC; and a floating-point
column can hold what no offer ever stated. Here `rebuild_bound_transaction` and the bind-time check of
the selected offer read their columns as they come back.

## Main results

- `rebuildStored_issued` — the row of an issued authorization is rebuilt to its transaction
- `issue_then_rebuild` — and to nothing else once a bound column has changed
- `buildFromStoredOffer_of_row` — on the instants of the model this is the bind-time check
-/

namespace Pactra

/-- A `datetime`: what its clock shows and, when it is aware, its offset from UTC. -/
structure Timestamp where
  wall : Datetime
  offset : Option Int
  wall_range : wall.InRange

namespace Timestamp

/-- The instant a timestamp stands for when a naive one is read as UTC. -/
def utc (t : Timestamp) : Datetime := t.wall - t.offset.getD 0

/-- `as_utc`. Converting an aware value can leave the years a `datetime` can hold. -/
def asUtc {σ : Type} (t : Timestamp) : Tx σ Exc Datetime :=
  match t.offset with
  | none => pure t.wall
  | some offset =>
    if (t.wall - offset).InRange then pure (t.wall - offset)
    else Tx.raise (.other "OverflowError" "date value out of range")

lemma run_asUtc {σ : Type} (t : Timestamp) (s : σ) :
    t.asUtc.run s = (if t.utc.InRange then .ok t.utc
      else .error (.other "OverflowError" "date value out of range"), s) := by
  unfold asUtc utc
  cases t.offset with
  | none =>
    have hrange : (t.wall - (none : Option Int).getD 0).InRange := by simpa using t.wall_range
    rw [if_pos hrange]
    simp
  | some offset =>
    dsimp only [Option.getD_some]
    split <;> rfl

end Timestamp

/-- The values a transaction consists of. -/
def BoundTransaction.values (t : BoundTransaction) : BoundTransaction.Values :=
  { merchantId := t.merchantId, productId := t.productId, quantity := t.quantity,
    amountInr := t.amountInr, currency := t.currency, policyVersion := t.policyVersion,
    offerVersion := t.offerVersion, expiresAt := t.expiresAt, nonce := t.nonce }

namespace SecurityKernel

-- ════════════════════════════════════════════════════════════════════════
-- Authorizations
-- ════════════════════════════════════════════════════════════════════════

/-- The values `rebuild_bound_transaction` takes from the bound columns of a row. -/
def boundColumns (row : AuthorizationRow) : BoundTransaction.Values :=
  { merchantId := row.boundMerchantId, productId := row.boundProductId,
    quantity := row.boundQuantity, amountInr := row.boundAmountInr, currency := row.boundCurrency,
    policyVersion := row.policyVersion, offerVersion := row.offerVersion,
    expiresAt := row.expiresAt, nonce := row.nonce }

/-- `rebuild_bound_transaction` on a row whose expiry came back as a timestamp. -/
def rebuildStored {σ : Type} (env : Env) (row : AuthorizationRow) (expiresAt : Timestamp) :
    Tx σ Exc BoundTransaction := do
  let expiresAt ← expiresAt.asUtc
  rebuildBoundTransaction env { row with expiresAt := expiresAt }

section Rebuild

variable {σ : Type} {env : Env} {row : AuthorizationRow} {t : BoundTransaction}

/-- Rebuilding succeeds when the columns make a transaction with the recorded digest. -/
lemma run_rebuildBoundTransaction (h : BoundTransaction.make env.upper (boundColumns row) = some t)
    (s : σ) : (rebuildBoundTransaction env row).run s =
      (if row.transactionDigest = t.digest then .ok t
        else .error (.invariantViolation "authorization.rebuilt_transaction_matches_digest"
          ("authorization " ++ row.authorizationId.str
            ++ " does not re-derive to its recorded digest")), s) := by
  unfold rebuildBoundTransaction
  unfold boundColumns at h
  rw [h]
  by_cases hdigest : row.transactionDigest = t.digest
  · simp [require, hdigest, Tx.run_bind]
  · simp [require, hdigest, Tx.run_bind]

/-- A transaction in upper case is valid once more. -/
lemma make_columns {v : BoundTransaction.Values} (h : BoundTransaction.make env.upper v = some t)
    (hupper : env.upper v.currency = v.currency) :
    BoundTransaction.make env.upper t.values = some t := by
  obtain ⟨h₁, h₂, h₃, h₄, h₅, h₆, h₇, h₈, h₉⟩ := BoundTransaction.make_eq_some h
  rw [BoundTransaction.values, h₁, h₂, h₃, h₄, h₅, h₆, h₇, h₈, h₉, hupper]
  exact h

/-- The row of an issued authorization is rebuilt to its transaction. -/
lemma rebuildStored_issued {v : BoundTransaction.Values} (h : BoundTransaction.make env.upper v = some t)
    (hupper : env.upper v.currency = v.currency) (hrange : t.expiresAt.InRange)
    (hcolumns : boundColumns row = t.values) (hdigest : row.transactionDigest = t.digest)
    {stored : Timestamp} (hstored : stored.utc = t.expiresAt) (s : σ) :
    (rebuildStored env row stored).run s = (.ok t, s) := by
  have hsame : { row with expiresAt := t.expiresAt } = row := by
    have hexpires : row.expiresAt = t.expiresAt := congrArg BoundTransaction.Values.expiresAt hcolumns
    rw [← hexpires]
  have hutc : stored.asUtc.run s = (.ok t.expiresAt, s) := by
    rw [Timestamp.run_asUtc, hstored, if_pos hrange]
  unfold rebuildStored
  rw [Tx.run_bind_of_ok hutc, hsame,
    run_rebuildBoundTransaction (hcolumns ▸ make_columns h hupper), if_pos hdigest]

/-- A row whose columns make another transaction is refused, unless the two transactions are a
collision of SHA-256. -/
lemma rebuildStored_changed {t' : BoundTransaction} (hrange : t.expiresAt.InRange)
    (hdigest : row.transactionDigest = t.digest) {stored : Timestamp}
    (h : BoundTransaction.make env.upper (boundColumns { row with expiresAt := stored.utc }) = some t')
    (hne : t' ≠ t)
    (hsha : Sha256.hexdigest t.message = Sha256.hexdigest t'.message → t.message = t'.message) :
    ∃ e, ∀ s : σ, (rebuildStored env row stored).run s = (.error e, s) := by
  by_cases hutc : stored.utc.InRange
  · have hrange' : t'.expiresAt.InRange := by
      rw [(BoundTransaction.make_eq_some h).2.2.2.2.2.2.2.1]
      exact hutc
    have hother : row.transactionDigest ≠ t'.digest := fun hsame =>
      hne (BoundTransaction.eq_of_digest hrange hrange' hsha (hdigest.symm.trans hsame)).symm
    refine ⟨.invariantViolation "authorization.rebuilt_transaction_matches_digest"
      ("authorization " ++ row.authorizationId.str ++ " does not re-derive to its recorded digest"),
      fun s => ?_⟩
    unfold rebuildStored
    have hasUtc : stored.asUtc.run s = (.ok stored.utc, s) := by
      rw [Timestamp.run_asUtc, if_pos hutc]
    rw [Tx.run_bind_of_ok hasUtc, run_rebuildBoundTransaction h, if_neg hother]
  · refine ⟨.other "OverflowError" "date value out of range", fun s => ?_⟩
    unfold rebuildStored
    have hasUtc : stored.asUtc.run s =
        (.error (.other "OverflowError" "date value out of range"), s) := by
      rw [Timestamp.run_asUtc, if_neg hutc]
    exact Tx.run_bind_of_error hasUtc

/-- What `issue_authorization` writes. -/
lemma issueAuthorization_columns {db db' : Db} {missionId : Uuid} {scheme : ApprovalScheme}
    (h : (issueAuthorization env missionId t scheme).run db = (.ok row, db')) :
    row.transactionDigest = t.digest ∧ boundColumns row = t.values := by
  unfold issueAuthorization at h
  obtain ⟨-, h⟩ := require_bind_ok.mp h
  obtain ⟨now, db₁, -, h⟩ := Tx.bind_ok.mp h
  obtain ⟨-, h⟩ := require_bind_ok.mp h
  obtain ⟨authorizationId, db₂, -, h⟩ := Tx.bind_ok.mp h
  obtain ⟨read, db₃, -, h⟩ := Tx.bind_ok.mp h
  rw [Tx.run_ite] at h
  split at h
  · cases (Prod.mk.inj h).1
  · obtain ⟨-, db₄, -, h⟩ := Tx.bind_ok.mp h
    obtain ⟨-, db₅, -, h⟩ := Tx.bind_ok.mp h
    obtain rfl := Except.ok.inj (Prod.mk.inj h).1
    exact ⟨rfl, rfl⟩

/-- Issue then rebuild is the identity. The transaction is valid and was made of a currency in upper
case; its expiry is an instant that its digest can encode. Whatever offset the expiry comes back with,
also none, the row is rebuilt to the transaction; and a row whose bound columns denote another
transaction is refused, unless the two are a collision of SHA-256. -/
theorem issue_then_rebuild {v : BoundTransaction.Values} {db db' : Db} {missionId : Uuid}
    {scheme : ApprovalScheme} (hvalid : BoundTransaction.make env.upper v = some t)
    (hupper : env.upper v.currency = v.currency) (hrange : t.expiresAt.InRange)
    (hissue : (issueAuthorization env missionId t scheme).run db = (.ok row, db')) :
    (∀ stored : Timestamp, stored.utc = t.expiresAt → ∀ db : Db, ∃ t',
      (rebuildStored env row stored).run db = (.ok t', db) ∧ t' = t ∧ t'.digest = t.digest) ∧
    ∀ (changed : AuthorizationRow) (stored : Timestamp) (t' : BoundTransaction),
      changed.transactionDigest = row.transactionDigest →
      BoundTransaction.make env.upper (boundColumns { changed with expiresAt := stored.utc }) = some t' →
      t' ≠ t →
      (Sha256.hexdigest t.message = Sha256.hexdigest t'.message → t.message = t'.message) →
      ∃ e, ∀ db : Db, (rebuildStored env changed stored).run db = (.error e, db) := by
  obtain ⟨hdigest, hcolumns⟩ := issueAuthorization_columns hissue
  refine ⟨fun stored hstored db => ?_, fun changed stored t' hkept hmake hne hsha => ?_⟩
  · exact ⟨t, rebuildStored_issued hvalid hupper hrange hcolumns hdigest hstored db, rfl, rfl⟩
  · exact rebuildStored_changed hrange (hkept.trans hdigest) hmake hne hsha

end Rebuild

-- ════════════════════════════════════════════════════════════════════════
-- Offers
-- ════════════════════════════════════════════════════════════════════════

/-- The row of an offer as it is read at bind time; `columns` holds all but the rating and the time,
which come back in the forms storage has for them. -/
structure StoredOffer where
  columns : Offer
  rating : Wire.Float
  offeredAt : Timestamp

/-- `int(round(rating * 100))` of a stored rating. The product can overflow. -/
def hundredths {σ : Type} : Wire.Float → Tx σ Exc Int
  | .finite q =>
    if Numeric.FitsDouble (q * 100) then pure (ratingCentis q)
    else Tx.raise (.other "OverflowError" "cannot convert float infinity to integer")
  | .infinity _ => Tx.raise (.other "OverflowError" "cannot convert float infinity to integer")
  | .nan => Tx.raise (.other "ValueError" "cannot convert float NaN to integer")

namespace StoredOffer

/-- `compute_offer_version` on a stored row. -/
def currentVersion {σ : Type} (row : StoredOffer) : Tx σ Exc String := do
  let offeredAt ← row.offeredAt.asUtc
  let centis ← hundredths row.rating
  pure (offerFingerprint (offerVersionFields row.columns.merchantId row.columns.productId
    row.columns.amountInr row.columns.currency centis row.columns.inStock offeredAt))

/-- A row whose fingerprint can be computed: its time has a UTC `datetime`, and a hundred times its
rating is a finite float. -/
def Readable (row : StoredOffer) : Prop :=
  row.offeredAt.utc.InRange ∧ ∃ q, row.rating = .finite q ∧ Numeric.FitsDouble (q * 100)

end StoredOffer

/-- `build_bound_transaction_from_selected_offer`, from the row that its query found on. -/
def buildFromStoredOffer (env : Env) (missionId offerId : Uuid) (selectedOfferVersion : String)
    (decision : PolicyDecision) (quantity : Int) (nonce : String) (expiresAt : Datetime) :
    Option StoredOffer → DbTx BoundTransaction
  | none =>
    Tx.raise (.bindRefusedOfferChanged missionId offerId
      "the selected offer is absent at bind time" offerVersionInvariant)
  | some row => do
    let currentVersion ← row.currentVersion
    if row.columns.offerVersion ≠ currentVersion ∨ currentVersion ≠ selectedOfferVersion then
      Tx.raise (.bindRefusedOfferChanged missionId offerId
        "selected offer version does not match the bind-time offer record"
        offerVersionInvariant)
    else if !row.columns.valid then
      Tx.raise (.bindRefusedOfferChanged missionId offerId
        "the selected offer was rejected before bind time" offerValidInvariant)
    else
      buildBoundTransactionFromValues env row.columns currentVersion decision quantity nonce expiresAt

section Offers

variable {env : Env} {row : StoredOffer}

lemma run_currentVersion {σ : Type} {q : Rat} (hrange : row.offeredAt.utc.InRange)
    (hrating : row.rating = .finite q) (hfits : Numeric.FitsDouble (q * 100)) (s : σ) :
    row.currentVersion.run s = (.ok (computeOfferVersion row.columns.merchantId row.columns.productId
      row.columns.amountInr row.columns.currency q row.columns.inStock row.offeredAt.utc), s) := by
  have hutc : row.offeredAt.asUtc.run s = (.ok row.offeredAt.utc, s) := by
    rw [Timestamp.run_asUtc, if_pos hrange]
  have hcentis : (hundredths row.rating).run s = (.ok (ratingCentis q), s) := by
    rw [hrating, hundredths, if_pos hfits]
    rfl
  unfold StoredOffer.currentVersion
  rw [Tx.run_bind_of_ok hutc, Tx.run_bind_of_ok hcentis]
  rfl

/-- A row that is not readable raises an error of its conversion. -/
lemma run_currentVersion_of_not_readable {σ : Type} (h : ¬row.Readable) (s : σ) :
    ∃ name text, row.currentVersion.run s = (.error (.other name text), s) := by
  unfold StoredOffer.currentVersion
  by_cases hrange : row.offeredAt.utc.InRange
  · have hutc : row.offeredAt.asUtc.run s = (.ok row.offeredAt.utc, s) := by
      rw [Timestamp.run_asUtc, if_pos hrange]
    have hcentis : ∃ name text, (hundredths row.rating).run s = (.error (.other name text), s) := by
      cases hrating : row.rating with
      | finite q =>
        have hfits : ¬Numeric.FitsDouble (q * 100) := fun hfits => h ⟨hrange, q, hrating, hfits⟩
        exact ⟨_, _, by rw [hundredths, if_neg hfits]; rfl⟩
      | infinity negative => exact ⟨_, _, rfl⟩
      | nan => exact ⟨_, _, rfl⟩
    obtain ⟨name, text, hcentis⟩ := hcentis
    exact ⟨name, text, by rw [Tx.run_bind_of_ok hutc, Tx.run_bind_of_error hcentis]⟩
  · have hutc : row.offeredAt.asUtc.run s =
        (.error (.other "OverflowError" "date value out of range"), s) := by
      rw [Timestamp.run_asUtc, if_neg hrange]
    exact ⟨_, _, Tx.run_bind_of_error hutc⟩

/-- On the instants and ratings of the model, this is `buildBoundTransactionFromSelectedOffer`. -/
theorem buildFromStoredOffer_of_row {missionId offerId : Uuid} {version nonce : String}
    {decision : PolicyDecision} {quantity : Int} {expiresAt : Datetime} {db : Db} {o : Offer}
    (hfind : db.offers.find? (fun o => decide (o.id = offerId ∧ o.missionId = missionId)) = some o)
    (hrange : o.offeredAt.InRange) (hfits : Numeric.FitsDouble (o.rating * 100)) :
    (buildBoundTransactionFromSelectedOffer env missionId offerId version decision quantity nonce
        expiresAt).run db =
      (buildFromStoredOffer env missionId offerId version decision quantity nonce expiresAt
        (some ⟨o, .finite o.rating, ⟨o.offeredAt, some 0, hrange⟩⟩)).run db := by
  have hutc : (⟨o.offeredAt, some 0, hrange⟩ : Timestamp).utc = o.offeredAt := by
    simp [Timestamp.utc]
  have hversion : (⟨o, .finite o.rating, ⟨o.offeredAt, some 0, hrange⟩⟩ :
      StoredOffer).currentVersion.run db = (.ok (computeOfferVersion o.merchantId o.productId
        o.amountInr o.currency o.rating o.inStock o.offeredAt), db) := by
    rw [run_currentVersion (by rw [hutc]; exact hrange) rfl hfits, hutc]
  unfold buildBoundTransactionFromSelectedOffer buildFromStoredOffer
  rw [Tx.run_bind_of_ok (Tx.run_get db), Tx.run_bind_of_ok hversion]
  dsimp only
  rw [hfind]

end Offers

namespace Sample

/-- The values of a transaction over a given amount. -/
def values (amountInr : Int) : BoundTransaction.Values :=
  { merchantId := "m", productId := "p", quantity := 1, amountInr := amountInr, currency := "INR",
    policyVersion := "policy-v1", offerVersion := "v", expiresAt := 3600000000,
    nonce := String.ofList (List.replicate 64 'a') }

/-- The transaction over a given amount. -/
def transactionOver (amountInr : Int) (h : 1 ≤ amountInr) : BoundTransaction :=
  { values amountInr with quantity_range := ⟨le_refl _, show (1 : Int) ≤ 100 by decide⟩, amount_pos := h }

/-- One o'clock in UTC, on a clock that is five and a half hours ahead. -/
def halfPastSix : Timestamp := ⟨3600000000 + 19800000000, some 19800000000, by decide⟩

end Sample

/-- An authorization for 50 rupees is rebuilt from an expiry in another zone, and refused once its
amount reads 51. -/
theorem issue_then_rebuild_fifty :
    ∃ row, ((issueAuthorization Pactra.Sample.ledgerEnv ⟨"m"⟩ (Sample.transactionOver 50 (by decide))
        .policyAuto).run Db.empty).1 = .ok row ∧
      (rebuildStored Pactra.Sample.ledgerEnv row Sample.halfPastSix).run Db.empty =
        (.ok (Sample.transactionOver 50 (by decide)), Db.empty) ∧
      ∃ e, (rebuildStored Pactra.Sample.ledgerEnv { row with boundAmountInr := 51 }
        Sample.halfPastSix).run Db.empty = (.error e, Db.empty) := by
  have hok : ((issueAuthorization Pactra.Sample.ledgerEnv ⟨"m"⟩ (Sample.transactionOver 50 (by decide))
      .policyAuto).run Db.empty).1.isOk = true := by
    decide +kernel
  have hmake : ∀ amountInr (h : 1 ≤ amountInr), BoundTransaction.make Pactra.Sample.ledgerEnv.upper
      (Sample.values amountInr) = some (Sample.transactionOver amountInr h) := by
    intro amountInr h
    have htexts : (Sample.values amountInr).textsValid = true :=
      show (Sample.values 50).textsValid = true by decide +kernel
    exact dif_pos ⟨htexts, ⟨le_refl _, show (1 : Int) ≤ 100 by decide⟩, h⟩
  rcases hissue : (issueAuthorization Pactra.Sample.ledgerEnv ⟨"m"⟩ (Sample.transactionOver 50 (by decide))
      .policyAuto).run Db.empty with ⟨r | row, db⟩
  · rw [hissue] at hok
    cases hok
  · obtain ⟨hsame, hchanged⟩ := issue_then_rebuild (hmake 50 (by decide)) rfl (by decide) hissue
    obtain ⟨-, hcolumns⟩ := issueAuthorization_columns hissue
    obtain ⟨t', hrebuilt, rfl, -⟩ := hsame Sample.halfPastSix rfl Db.empty
    refine ⟨row, rfl, hrebuilt, ?_⟩
    have hother : boundColumns { row with boundAmountInr := 51, expiresAt := Sample.halfPastSix.utc } =
        Sample.values 51 := by
      change { boundColumns row with amountInr := 51, expiresAt := Sample.halfPastSix.utc } = _
      rw [hcolumns]
      rfl
    obtain ⟨e, he⟩ := hchanged { row with boundAmountInr := 51 } Sample.halfPastSix
      (Sample.transactionOver 51 (by decide)) rfl (hother ▸ hmake 51 (by decide)) (by decide +kernel)
      (fun h => absurd h (by decide +kernel))
    exact ⟨e, he Db.empty⟩

end SecurityKernel

end Pactra
