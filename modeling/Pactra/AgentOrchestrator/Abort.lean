import Mathlib.Tactic.Linarith
import Mathlib.Tactic.NormNum
import Pactra.AgentOrchestrator.Twins

/-!
# When an offer aborts a mission

Each stage of `Orchestrator.run` has a schema of its own. The offers that an early stage accepts and
a later one rejects are those that claim a value for a protected policy field which cannot be hashed,
those whose instant has no UTC `datetime`, and, when such an offer ranks first and policy would
authorize it, those whose price rounds to zero and those in a currency that is not three characters
long once it is upper-cased. A request whose own constraints cannot be hashed ends the same way.

## Main results

- `isSome_make_ranked_iff` — which of the ranked offers make a valid transaction
- `run_ends_well_iff` — exactly when the creation of a mission ends as it should
-/

namespace Pactra

/-- The bounds of the `RawMerchantOffer` schema. -/
structure RawMerchantOffer.SchemaValid (raw : RawMerchantOffer) : Prop where
  merchantId : BoundTransaction.lengthIn 1 120 raw.merchantId = true
  productId : BoundTransaction.lengthIn 1 120 raw.productId = true
  title : BoundTransaction.lengthIn 1 300 raw.title = true
  description : raw.description.length ≤ 5000
  currency : raw.currency.length = 3
  rating : 0 ≤ raw.rating ∧ raw.rating ≤ 5

/-- A quote as the transport hands it over: the identity it authenticated is the one of the record,
and the offers satisfy their schema. -/
structure AuthenticatedQuote.WellFormed (q : AuthenticatedQuote) : Prop where
  identity : q.context.merchantId = q.context.recordMerchantId
  merchantId : BoundTransaction.lengthIn 1 120 q.context.merchantId = true
  offers : ∀ raw ∈ q.offers, raw.SchemaValid

namespace AgentOrchestrator

/-- The creation of a mission returned it denied, awaiting approval or authorized, or refused to bind
an offer that changed. -/
def EndsWell (out : Except Exc Uuid × Db) : Prop :=
  (∃ id mission, out.1 = .ok id ∧ out.2.getMission id = some mission ∧
    (mission.state = .cancelled ∨ mission.state = .awaitingApproval ∨ mission.state = .authorized)) ∨
  ∃ exc, out.1 = .error exc ∧ IsBindRefusal exc

/-- The offer that ranks first among those that pass the mission's checks. -/
def topOffer (env : Env) (request : CreateMissionRequest) (quotes : List AuthenticatedQuote) :
    Option ProvenancedOffer :=
  (PolicyEngine.rankOffers (offersFrom env request quotes 0)).head?

section Abort

variable {env : Env} {request : CreateMissionRequest} {quotes : List AuthenticatedQuote}

lemma mem_contextualOffers {r : RawMerchantOffer × MerchantContext} :
    r ∈ PolicyEngine.contextualOffers quotes ↔ ∃ q ∈ quotes, r.1 ∈ q.offers ∧ r.2 = q.context := by
  simp only [PolicyEngine.contextualOffers, List.mem_flatMap, List.mem_map]
  constructor
  · rintro ⟨q, hq, raw, hraw, rfl⟩
    exact ⟨q, hq, hraw, rfl⟩
  · rintro ⟨q, hq, hraw, hcontext⟩
    exact ⟨q, hq, r.1, hraw, Prod.ext rfl hcontext.symm⟩

lemma firstRefusal_eq_none_iff (hq : ∀ q ∈ quotes, q.WellFormed) :
    firstRefusal quotes = none ↔ ∀ q ∈ quotes, ∀ raw ∈ q.offers, raw.offeredAt.InRange := by
  rw [firstRefusal, List.findSome?_eq_none_iff]
  constructor
  · intro h q hmem raw hraw
    have hpassed := h (raw, q.context) (mem_contextualOffers.mpr ⟨q, hmem, hraw, rfl⟩)
    by_contra hrange
    simp [refusal, (hq q hmem).identity, hrange] at hpassed
  · intro h r hr
    obtain ⟨q, hmem, hraw, hcontext⟩ := mem_contextualOffers.mp hr
    simp [refusal, hcontext, (hq q hmem).identity, h q hmem r.1 hraw]

lemma hashFailure_eq_some {e : Exc} (h : hashFailure request quotes = some e) :
    e = digitsLimit ∨ e = surrogatesRefused := by
  obtain ⟨v, -, hv⟩ := List.exists_of_findSome?_eq_some h
  exact encodePayload_error (encodeFailure_eq_some.mp hv)

/-- The exceptions of ingress are not those of hashing. -/
lemma firstRefusal_eq_some {e : Exc} (h : firstRefusal quotes = some e) :
    ¬IsBindRefusal e ∧ e ≠ digitsLimit ∧ e ≠ surrogatesRefused := by
  obtain ⟨r, -, hr⟩ := List.exists_of_findSome?_eq_some h
  unfold refusal at hr
  split at hr
  · obtain rfl := Option.some.inj hr
    exact ⟨id, by simp [digitsLimit], by simp [surrogatesRefused]⟩
  · split at hr
    · obtain rfl := Option.some.inj hr
      exact ⟨id, by simp [digitsLimit], by simp [surrogatesRefused]⟩
    · cases hr

lemma obstacle_eq_none_iff :
    obstacle request quotes = none ↔ hashFailure request quotes = none ∧ firstRefusal quotes = none := by
  unfold obstacle
  rw [Option.or_eq_none_iff]

lemma not_isBindRefusal_of_obstacle {e : Exc} (h : obstacle request quotes = some e) :
    ¬IsBindRefusal e := by
  unfold obstacle at h
  rcases Option.or_eq_some_iff.mp h with hfailure | ⟨-, hrefusal⟩
  · rcases hashFailure_eq_some hfailure with rfl | rfl
    · exact id
    · exact id
  · exact (firstRefusal_eq_some hrefusal).1

lemma mem_normalizedFrom {c : MissionConstraints} {n : Nat}
    {raws : List (RawMerchantOffer × MerchantContext)} {o : ProvenancedOffer}
    (h : o ∈ normalizedFrom env c n raws) :
    ∃ r ∈ raws, ∃ id, o = normalized env c id r.1 r.2 := by
  induction raws generalizing n with
  | nil => cases h
  | cons r raws ih =>
    rcases List.mem_cons.mp h with rfl | h
    · exact ⟨r, by simp, _, rfl⟩
    · obtain ⟨r', hr', hid⟩ := ih h
      exact ⟨r', by simp [hr'], hid⟩

/-- A valid offer is in the mission's currency. -/
lemma currency_of_valid {c : MissionConstraints} {id : Uuid} {raw : RawMerchantOffer}
    {context : MerchantContext} (h : (normalized env c id raw context).valid = true) :
    (normalized env c id raw context).currency = c.currency := by
  by_contra hne
  have hne' : (PolicyEngine.ingested env id raw context).currency ≠ c.currency := hne
  simp [normalized, PolicyEngine.rejections, hne'] at h

lemma length_offerVersion (o : ProvenancedOffer) : o.offerVersion.length = 32 := by
  unfold ProvenancedOffer.offerVersion computeOfferVersion offerFingerprint
  have hlength := Sha256.length_hexdigest
  rw [String.length_ofList, List.length_take, Canonical.canonicalDigest, String.length_toList,
    hlength]
  rfl

/-- A ranked offer makes a valid transaction exactly when its unit price is positive and the
mission's currency has three characters. -/
lemma isSome_make_ranked_iff (hq : ∀ q ∈ quotes, q.WellFormed) {n : Nat} {best : ProvenancedOffer}
    (hbest : best ∈ PolicyEngine.rankOffers (offersFrom env request quotes n))
    (expiresAt : Datetime) {nonce : String} (hnonce : isLowerHex 64 nonce = true) :
    (BoundTransaction.make env.upper
        (boundValues best request.quantity expiresAt nonce)).isSome = true ↔
      1 ≤ best.amountInr ∧ request.constraints.currency.length = 3 := by
  rw [isSome_make_iff env.upper hnonce]
  obtain ⟨o, ho, hvalid, rank, rfl⟩ := mem_rankOffers hbest
  obtain ⟨⟨raw, context⟩, hr, id, rfl⟩ := mem_normalizedFrom ho
  obtain ⟨q, hmem, hraw, hcontext⟩ := mem_contextualOffers.mp hr
  have hschema := (hq q hmem).offers raw hraw
  have hmerchant : BoundTransaction.lengthIn 1 120 context.merchantId = true := by
    rw [show context = q.context from hcontext]
    exact (hq q hmem).merchantId
  have hversion : BoundTransaction.lengthIn 1 64
      (normalized env request.constraints id raw context).offerVersion = true := by
    rw [BoundTransaction.lengthIn, length_offerVersion]
    rfl
  have hpolicy : BoundTransaction.lengthIn 1 40 PolicyEngine.policyVersion = true := by
    decide +kernel
  have hcurrency := currency_of_valid hvalid
  have hlength : BoundTransaction.lengthIn 3 3 request.constraints.currency = true ↔
      request.constraints.currency.length = 3 := by
    simp only [BoundTransaction.lengthIn, Bool.and_eq_true, decide_eq_true_eq]
    omega
  have hamount : ∀ amount : Int, 1 ≤ amount * request.quantity ↔ 1 ≤ amount := by
    intro amount
    have hpos := request.quantity_range.1
    constructor
    · intro h
      by_contra hlt
      nlinarith
    · intro h
      nlinarith
  change ((BoundTransaction.lengthIn 1 120 context.merchantId
      && BoundTransaction.lengthIn 1 120 raw.productId
      && BoundTransaction.lengthIn 3 3 (normalized env request.constraints id raw context).currency
      && BoundTransaction.lengthIn 1 40 PolicyEngine.policyVersion
      && BoundTransaction.lengthIn 1 64
        (normalized env request.constraints id raw context).offerVersion) = true ∧
    (1 ≤ request.quantity ∧ request.quantity ≤ 100) ∧
    1 ≤ (normalized env request.constraints id raw context).amountInr * request.quantity) ↔ _
  rw [hmerchant, hschema.productId, hversion, hpolicy, hcurrency, hamount]
  simp only [Bool.true_and, Bool.and_true, hlength, request.quantity_range, true_and]
  exact and_comm

lemma sameQuote_refl (quotes : List AuthenticatedQuote) : List.Forall₂ SameQuote quotes quotes :=
  List.forall₂_same.mpr fun _ _ =>
    ⟨rfl, List.forall₂_same.mpr fun _ _ => ⟨rfl, rfl, rfl, rfl, rfl, rfl, rfl⟩⟩

/-- Which identifiers were drawn does not decide which offer ranks first. -/
lemma topOffer_twins (n : Nat) :
    Option.Rel (Twins (InStep env 0 n)) (topOffer env request quotes)
      (PolicyEngine.rankOffers (offersFrom env request quotes n)).head? :=
  Related.head? (twins_rankOffers (twins_offersFrom (sameQuote_refl quotes) 0 n))

/-- Policy denies exactly when no offer is valid or the best one is beyond the hard limit. -/
lemma decision_ne_deny_iff (offers : List ProvenancedOffer) :
    (decisionOn request offers).decision ≠ .deny ↔
      ∃ best, (PolicyEngine.rankOffers offers).head? = some best ∧
        best.amountInr * request.quantity ≤ request.constraints.hardLimitInr := by
  unfold decisionOn
  cases (PolicyEngine.rankOffers offers).head? with
  | none => simp [PolicyEngine.evaluate]
  | some best =>
    by_cases hhard : request.constraints.hardLimitInr < best.amountInr * request.quantity
    · simp [PolicyEngine.evaluate, hhard]
    · by_cases hsoft : request.constraints.softBudgetInr < best.amountInr * request.quantity
      · simp [PolicyEngine.evaluate, hhard, hsoft, not_lt.mp hhard]
      · simp [PolicyEngine.evaluate, hhard, hsoft, not_lt.mp hhard]

/-- A condition on the price of the first offer does not depend on which identifiers were drawn. -/
lemma topOffer_price_iff (env : Env) (request : CreateMissionRequest)
    (quotes : List AuthenticatedQuote) (n : Nat) (P : Int → Prop) :
    (∀ best, topOffer env request quotes = some best → P best.amountInr) ↔
      ∀ best, (PolicyEngine.rankOffers (offersFrom env request quotes n)).head? = some best →
        P best.amountInr := by
  have htwins : Option.Rel (Twins (InStep env 0 n)) (topOffer env request quotes)
      (PolicyEngine.rankOffers (offersFrom env request quotes n)).head? := topOffer_twins n
  generalize topOffer env request quotes = top at htwins ⊢
  generalize (PolicyEngine.rankOffers (offersFrom env request quotes n)).head? = top' at htwins ⊢
  cases htwins with
  | none => simp
  | some h =>
    obtain ⟨id, title, -, rfl⟩ := h
    simp

/-- A mission with an authorization awaits approval or is authorized. -/
lemma Additions.authorized_state (a : Additions) (env : Env) (decision : PolicyDecision)
    (row : AuthorizationRow) :
    (a.authorized env decision row).mission.state = .awaitingApproval ∨
      (a.authorized env decision row).mission.state = .authorized := by
  unfold Additions.authorized
  split
  · exact .inl rfl
  · exact .inr rfl

lemma Additions.authorized_id (a : Additions) (env : Env) (decision : PolicyDecision)
    (row : AuthorizationRow) : (a.authorized env decision row).mission.id = a.mission.id := by
  unfold Additions.authorized
  split <;> rfl

/-- The creation of a mission ends as it should exactly when its constraints and the values claimed for
protected policy fields can be hashed, every offer's instant has a UTC `datetime`, and the first offer,
if it is within the hard limit, has a positive unit price and a currency of three characters. -/
theorem run_ends_well_iff {db : Db} (hs : Supplied env db) (hq : ∀ q ∈ quotes, q.WellFormed) :
    EndsWell ((run env request quotes).run db) ↔
      (∀ v ∈ hashedValues request quotes, ∃ payload, encodePayload v = .ok payload) ∧
      (∀ q ∈ quotes, ∀ raw ∈ q.offers, raw.offeredAt.InRange) ∧
      ∀ best, topOffer env request quotes = some best →
        best.amountInr * request.quantity ≤ request.constraints.hardLimitInr →
        1 ≤ best.amountInr ∧ request.constraints.currency.length = 3 := by
  have hhashed : hashFailure request quotes = none ↔
      ∀ v ∈ hashedValues request quotes, ∃ payload, encodePayload v = .ok payload := by
    unfold hashFailure
    rw [List.findSome?_eq_none_iff]
    exact forall₂_congr fun v _ => encodeFailure_eq_none
  rw [← firstRefusal_eq_none_iff hq, ← hhashed, ← and_assoc, ← obstacle_eq_none_iff]
  have hprice := fun n => topOffer_price_iff env request quotes n
    fun amount => amount * request.quantity ≤ request.constraints.hardLimitInr →
      1 ≤ amount ∧ request.constraints.currency.length = 3
  have hends := run_ends hs request quotes
  generalize (run env request quotes).run db = out at hends ⊢
  cases hends with
  | refused hrefusal =>
    refine iff_of_false ?_ (by simp [hrefusal])
    rintro (⟨id, mission, hok, -⟩ | ⟨exc, herror, hexc⟩)
    · cases hok
    · obtain rfl := Except.error.inj herror
      exact not_isBindRefusal_of_obstacle hrefusal hexc
  | @denied n k l createdAt db' hpassed hdeny hadds =>
    refine iff_of_true (.inl ⟨_, _, rfl, hadds.found, .inl rfl⟩) ⟨hpassed, ?_⟩
    refine (hprice n).mpr fun best hbest hhard => ?_
    exact absurd hdeny ((decision_ne_deny_iff _).mpr ⟨best, hbest, hhard⟩)
  | @unbindable n best expiresAt nonce db' hpassed hbest hallow hnonce hmake =>
    refine iff_of_false ?_ fun h => ?_
    · rintro (⟨id, mission, hok, -⟩ | ⟨exc, herror, hexc⟩)
      · cases hok
      · obtain rfl := Except.error.inj herror
        exact hexc
    · obtain ⟨best', hbest', hhard⟩ := (decision_ne_deny_iff _).mp hallow
      obtain rfl : best = best' := Option.some.inj (hbest.symm.trans hbest')
      have hsome := (isSome_make_ranked_iff hq (List.mem_of_mem_head? hbest) expiresAt hnonce).mpr
        ((hprice n).mp h.2 best hbest hhard)
      rw [hmake] at hsome
      cases hsome
  | @authorized n k l createdAt expiresAt issuedAt best nonce t authorizationId db' hpassed hbest
      hallow hnonce hmake hadds =>
    have hmission := hadds.found
    rw [Additions.authorized_id] at hmission
    refine iff_of_true (.inl ⟨_, _, rfl, hmission, .inr (Additions.authorized_state _ _ _ _)⟩)
      ⟨hpassed, ?_⟩
    · refine (hprice n).mpr fun best' hbest' _ => ?_
      obtain rfl : best = best' := Option.some.inj (hbest.symm.trans hbest')
      refine (isSome_make_ranked_iff hq (List.mem_of_mem_head? hbest) expiresAt hnonce).mp ?_
      rw [hmake]
      rfl

end Abort

namespace Sample

/-- Surroundings that number the identifiers and stand still in time. -/
def env : Env where
  uuid4 n := ⟨String.ofList (List.replicate n '0')⟩
  utcnow _ := 0
  tokenHex _ := String.ofList (List.replicate 64 '0')
  upper := id
  upper_upper := upper_id
  repr s := s
  floatRepr _ := ""
  pyStr _ := ""
  ed25519Verify _ _ _ := true
  demoApproverSigningKeyId := "demo-approver"
  demoApproverPublicKeyHex := none
  authorizationTtlSeconds := 900
  createRetriesAreIdempotent _ := true

/-- A request for one item. -/
def request : CreateMissionRequest where
  rawQuery := none
  quantity := 1
  constraints := ⟨"headphones", 100, 200, 0, "INR", none, [], 0, hundred_pos, hundred_le_twoHundred⟩
  quantity_range := single_item

/-- One merchant's offer, at a given price, under a title and with claims. -/
def quotes (price : Rat) (h : 0 ≤ price) (title : String)
    (claims : List (PyStr × PyJson)) : List AuthenticatedQuote :=
  [⟨⟨"m", "m", "M", 1, true⟩, [⟨"m", "p", title, "d", price, "INR", 4, true, 0, claims, h⟩]⟩]

lemma supplied : Supplied env Db.empty where
  distinct m n h := by
    have hlength := congrArg (fun id => id.str.length) h
    simpa [env] using hlength
  unused n _ := by constructor <;> (intro _ h; cases h)
  nonce n _ := by
    refine ⟨show isLowerHex 64 (String.ofList (List.replicate 64 '0')) = true by decide +kernel,
      fun _ h => ?_⟩
    cases h
  prompt n k _ _ := show (0 : Int) < 0 + Datetime.seconds 900 by decide

/-- The constraints of the request can be hashed. -/
lemma request_hashable :
    ∃ payload, encodePayload (dumpConstraints request.constraints) = .ok payload := by
  have hlimits : Wire.spellsInt 100 = true ∧ Wire.spellsInt 200 = true :=
    ⟨Wire.spellsInt_of_lt (by decide), Wire.spellsInt_of_lt (by decide)⟩
  refine ⟨constraintsJson request.constraints, encodePayload_ok.mpr ⟨?_, ?_⟩⟩
  · simp [dumpConstraints, request, Wire.spellable, Wire.spellableMembers, Wire.spellableItems, hlimits]
  · exact PyJson.json?_eq_some.mp rfl

lemma wellFormed {price : Rat} {h : 0 ≤ price} {claims : List (PyStr × PyJson)} :
    ∀ q ∈ quotes price h "t" claims, q.WellFormed := by
  intro q hq
  rw [List.mem_singleton.mp hq]
  have hshort : ∀ s ∈ ["m", "p"], BoundTransaction.lengthIn 1 120 s = true := by decide +kernel
  refine ⟨rfl, hshort "m" (by simp), fun raw hraw => ?_⟩
  rw [List.mem_singleton.mp hraw]
  exact ⟨hshort "m" (by simp), hshort "p" (by simp),
    show BoundTransaction.lengthIn 1 300 "t" = true by decide +kernel,
    show ("d" : String).length ≤ 5000 by decide +kernel,
    show ("INR" : String).length = 3 by decide +kernel, by norm_num⟩

end Sample

/-- A well-formed offer of 0.4 rupees, which rounds to no amount at all, ends the creation of a mission
with a validation error. -/
theorem free_offer_aborts :
    (∀ q ∈ Sample.quotes (2 / 5) (by norm_num) "t" [], q.WellFormed) ∧
      ((run Sample.env Sample.request (Sample.quotes (2 / 5) (by norm_num) "t" [])).run Db.empty).1 =
        .error (.validationError "BoundTransaction") ∧
      ¬EndsWell ((run Sample.env Sample.request
        (Sample.quotes (2 / 5) (by norm_num) "t" [])).run Db.empty) := by
  have hraised : ((run Sample.env Sample.request
      (Sample.quotes (2 / 5) (by norm_num) "t" [])).run Db.empty).1 =
        .error (.validationError "BoundTransaction") := by
    decide +kernel
  refine ⟨Sample.wellFormed, hraised, ?_⟩
  rintro (⟨id, mission, hok, -⟩ | ⟨exc, herror, hexc⟩)
  · rw [hraised] at hok
    cases hok
  · rw [hraised] at herror
    obtain rfl := Except.error.inj herror
    exact hexc

/-- A well-formed offer of 50 rupees is authorized. -/
theorem run_ends_well_fifty :
    EndsWell ((run Sample.env Sample.request
      (Sample.quotes 50 fifty_nonneg "t" [])).run Db.empty) := by
  refine (run_ends_well_iff Sample.supplied Sample.wellFormed).mpr ⟨?_, ?_, ?_⟩
  · intro v hv
    obtain rfl := List.mem_singleton.mp (show v ∈ [dumpConstraints Sample.request.constraints] from hv)
    exact Sample.request_hashable
  · intro q hq raw hraw
    rw [List.mem_singleton.mp hq] at hraw
    rw [List.mem_singleton.mp hraw]
    decide
  · intro best hbest _
    have hprice : (topOffer Sample.env Sample.request
        (Sample.quotes 50 fifty_nonneg "t" [])).map ProvenancedOffer.amountInr = some 50 := by
      decide +kernel
    rw [hbest] at hprice
    rw [Option.some.inj hprice]
    exact ⟨by decide, by decide +kernel⟩

end AgentOrchestrator

end Pactra
