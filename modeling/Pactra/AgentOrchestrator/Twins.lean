import Pactra.AgentOrchestrator.Outcome
import Pactra.Foundation.Related

/-!
# Offers that ranking and policy cannot tell apart

Two offers are twins when they differ at most in their identifier and their title. Normalization
makes twins of raw offers with the same terms, ranking keeps twins in step, and policy decides the
same on them but for the identifier it selects.

## Main results

- `twins_offersFrom` — quotes on the same terms are normalized to twins
- `twins_rankOffers` — ranking makes the same choices on twins
- `decisionOn_twins` — policy decides the same on twins
- `make_twins` — twins make the same transaction but for its nonce and expiry
-/

namespace Pactra

namespace AgentOrchestrator

/-- Two raw offers agree in all but their texts and claims. -/
structure SameTerms (raw raw' : RawMerchantOffer) : Prop where
  merchantId : raw.merchantId = raw'.merchantId
  productId : raw.productId = raw'.productId
  price : raw.price = raw'.price
  currency : raw.currency = raw'.currency
  rating : raw.rating = raw'.rating
  inStock : raw.inStock = raw'.inStock
  offeredAt : raw.offeredAt = raw'.offeredAt

/-- Two quotes come from one merchant and state offers on the same terms, in the same order. -/
structure SameQuote (q q' : AuthenticatedQuote) : Prop where
  context : q.context = q'.context
  offers : List.Forall₂ SameTerms q.offers q'.offers

/-- Identifiers that were drawn at the same distance from two draws. -/
def InStep (env : Env) (n n' : Nat) (a b : Uuid) : Prop :=
  ∃ i, a = env.uuid4 (n + i) ∧ b = env.uuid4 (n' + i)

/-- An offer, and the same offer under another identifier and title. -/
def Twins (ids : Uuid → Uuid → Prop) (o o' : ProvenancedOffer) : Prop :=
  ∃ id title, ids o.offerId id ∧ o' = { o with offerId := id, title := title }

section Twins

variable {env : Env} {n n' : Nat} {ids : Uuid → Uuid → Prop} {o o' p p' : ProvenancedOffer}
  {offers offers' : List ProvenancedOffer}

lemma inStep_eq_iff (hinj : Function.Injective env.uuid4) {a a' b b' : Uuid}
    (h : InStep env n n' a b) (h' : InStep env n n' a' b') : a = a' ↔ b = b' := by
  obtain ⟨i, rfl, rfl⟩ := h
  obtain ⟨j, rfl, rfl⟩ := h'
  rw [hinj.eq_iff, hinj.eq_iff]
  omega

-- ════════════════════════════════════════════════════════════════════════
-- Normalization
-- ════════════════════════════════════════════════════════════════════════

lemma normalized_twins {c : MissionConstraints} {id id' : Uuid} (hids : ids id id')
    {raw raw' : RawMerchantOffer} (h : SameTerms raw raw') (context : MerchantContext) :
    Twins ids (normalized env c id raw context) (normalized env c id' raw' context) := by
  have hingested : PolicyEngine.ingested env id' raw' context =
      { PolicyEngine.ingested env id raw context with offerId := id', title := raw'.title } := by
    simp [PolicyEngine.ingested, h.merchantId, h.productId, h.price, h.currency, h.rating, h.inStock,
      h.offeredAt]
  refine ⟨id', raw'.title, hids, ?_⟩
  rw [normalized, hingested]
  rfl

/-- Raw offers on the same terms, each with the context it arrived in. -/
def SameOffered (r r' : RawMerchantOffer × MerchantContext) : Prop :=
  SameTerms r.1 r'.1 ∧ r.2 = r'.2

lemma contextualOffers_same {quotes quotes' : List AuthenticatedQuote}
    (h : List.Forall₂ SameQuote quotes quotes') :
    List.Forall₂ SameOffered (PolicyEngine.contextualOffers quotes)
      (PolicyEngine.contextualOffers quotes') := by
  refine List.rel_flatMap h fun q q' hq => ?_
  refine List.rel_map (fun raw raw' hraw => ?_) hq.offers
  exact ⟨hraw, hq.context⟩

lemma firstRefusal_same {quotes quotes' : List AuthenticatedQuote}
    (h : List.Forall₂ SameQuote quotes quotes') : firstRefusal quotes = firstRefusal quotes' := by
  refine Related.findSome?_eq (fun r r' hr => ?_) (contextualOffers_same h)
  rw [refusal, refusal, hr.2, hr.1.offeredAt]

lemma twins_normalizedFrom {c : MissionConstraints}
    {raws raws' : List (RawMerchantOffer × MerchantContext)}
    (h : List.Forall₂ SameOffered raws raws') (i : Nat) :
    List.Forall₂ (Twins (InStep env n n')) (normalizedFrom env c (n + i) raws)
      (normalizedFrom env c (n' + i) raws') := by
  induction h generalizing i with
  | nil => exact .nil
  | @cons r r' raws raws' hr _ ih =>
    obtain ⟨hterms, hcontext⟩ := hr
    rw [normalizedFrom, normalizedFrom, ← hcontext]
    exact .cons (normalized_twins ⟨i, rfl, rfl⟩ hterms r.2) (ih (i + 1))

/-- Quotes on the same terms are normalized to twins. -/
lemma twins_offersFrom {request : CreateMissionRequest} {quotes quotes' : List AuthenticatedQuote}
    (h : List.Forall₂ SameQuote quotes quotes') (n n' : Nat) :
    List.Forall₂ (Twins (InStep env n n')) (offersFrom env request quotes n)
      (offersFrom env request quotes' n') :=
  twins_normalizedFrom (contextualOffers_same h) 0

-- ════════════════════════════════════════════════════════════════════════
-- Ranking and policy
-- ════════════════════════════════════════════════════════════════════════

lemma Twins.ranksBefore_iff (h : Twins ids o o') (h' : Twins ids p p') :
    PolicyEngine.ranksBefore o p ↔ PolicyEngine.ranksBefore o' p' := by
  obtain ⟨id, title, -, rfl⟩ := h
  obtain ⟨id', title', -, rfl⟩ := h'
  exact Iff.rfl

lemma Twins.valid_eq (h : Twins ids o o') : o.valid = o'.valid := by
  obtain ⟨id, title, -, rfl⟩ := h
  rfl

lemma twins_assignRanks (h : List.Forall₂ (Twins ids) offers offers') (i : Nat) :
    List.Forall₂ (Twins ids) (PolicyEngine.assignRanks i offers)
      (PolicyEngine.assignRanks i offers') := by
  induction h generalizing i with
  | nil => exact .nil
  | cons hoo' _ ih =>
    obtain ⟨id, title, hid, rfl⟩ := hoo'
    exact .cons ⟨id, title, hid, rfl⟩ (ih (i + 1))

/-- Ranking makes the same choices on twins. -/
lemma twins_rankOffers (h : List.Forall₂ (Twins ids) offers offers') :
    List.Forall₂ (Twins ids) (PolicyEngine.rankOffers offers) (PolicyEngine.rankOffers offers') := by
  refine twins_assignRanks (Related.insertionSort ?_ (Related.filter ?_ h)) 1
  · intro o o' p p' ho hp
    exact ho.ranksBefore_iff hp
  · intro o o' ho
    exact ho.valid_eq

/-- Policy decides the same on twins; the offers it selects are twins as well. -/
lemma decisionOn_twins (request : CreateMissionRequest)
    (h : List.Forall₂ (Twins ids) offers offers') :
    ∃ selected, Option.Rel ids (decisionOn request offers).selectedOfferId selected ∧
      decisionOn request offers' =
        { decisionOn request offers with selectedOfferId := selected } := by
  have hhead := Related.head? (twins_rankOffers h)
  unfold decisionOn
  generalize (PolicyEngine.rankOffers offers).head? = best at hhead ⊢
  generalize (PolicyEngine.rankOffers offers').head? = best' at hhead ⊢
  cases hhead with
  | none => exact ⟨none, .none, rfl⟩
  | some htwins =>
    obtain ⟨id, title, hid, rfl⟩ := htwins
    refine ⟨some id, ?_, ?_⟩
    · simp only [PolicyEngine.evaluate]
      split
      · exact .some hid
      · split <;> exact .some hid
    · simp only [PolicyEngine.evaluate]
      split
      · rfl
      · split <;> rfl

-- ════════════════════════════════════════════════════════════════════════
-- Bound transactions
-- ════════════════════════════════════════════════════════════════════════

/-- Whether values make a valid transaction, given a nonce that is in order. -/
def Bindable (v : BoundTransaction.Values) : Prop :=
  (BoundTransaction.lengthIn 1 120 v.merchantId && BoundTransaction.lengthIn 1 120 v.productId
      && BoundTransaction.lengthIn 3 3 v.currency && BoundTransaction.lengthIn 1 40 v.policyVersion
      && BoundTransaction.lengthIn 1 64 v.offerVersion) = true ∧
    (1 ≤ v.quantity ∧ v.quantity ≤ 100) ∧ 1 ≤ v.amountInr

lemma textsValid_iff {v : BoundTransaction.Values} (hnonce : isLowerHex 64 v.nonce = true) :
    v.textsValid = (BoundTransaction.lengthIn 1 120 v.merchantId
      && BoundTransaction.lengthIn 1 120 v.productId && BoundTransaction.lengthIn 3 3 v.currency
      && BoundTransaction.lengthIn 1 40 v.policyVersion
      && BoundTransaction.lengthIn 1 64 v.offerVersion) := by
  obtain ⟨hlength, hhex⟩ := Bool.and_eq_true_iff.mp hnonce
  have hin : BoundTransaction.lengthIn 64 128 v.nonce = true := by
    rw [BoundTransaction.lengthIn, beq_iff_eq.mp hlength]
    decide
  rw [BoundTransaction.Values.textsValid, hin, hhex, Bool.and_true, Bool.and_true]

lemma isSome_make_iff (upper : String → String) {v : BoundTransaction.Values}
    (hnonce : isLowerHex 64 v.nonce = true) :
    (BoundTransaction.make upper v).isSome = true ↔ Bindable v := by
  unfold Bindable
  rw [← textsValid_iff hnonce]
  unfold BoundTransaction.make
  by_cases hv : v.textsValid = true ∧ (1 ≤ v.quantity ∧ v.quantity ≤ 100) ∧ 1 ≤ v.amountInr
  · rw [dif_pos hv]
    exact ⟨fun _ => hv, fun _ => rfl⟩
  · rw [dif_neg hv]
    exact ⟨fun hsome => absurd hsome (by simp), fun h => absurd h hv⟩

/-- Another nonce that is in order and another expiry change nothing else about a transaction. -/
lemma make_renewed {upper : String → String} {v : BoundTransaction.Values} {expiresAt : Datetime}
    {nonce : String} (hv : isLowerHex 64 v.nonce = true) (hnonce : isLowerHex 64 nonce = true) :
    Option.Rel (fun t t' : BoundTransaction => t' = { t with expiresAt := expiresAt, nonce := nonce })
      (BoundTransaction.make upper v)
      (BoundTransaction.make upper { v with expiresAt := expiresAt, nonce := nonce }) := by
  have htexts : ({ v with expiresAt := expiresAt, nonce := nonce } :
      BoundTransaction.Values).textsValid = v.textsValid :=
    (textsValid_iff hnonce).trans (textsValid_iff hv).symm
  unfold BoundTransaction.make
  by_cases h : v.textsValid = true ∧ (1 ≤ v.quantity ∧ v.quantity ≤ 100) ∧ 1 ≤ v.amountInr
  · rw [dif_pos h, dif_pos ⟨htexts.trans h.1, h.2⟩]
    exact .some rfl
  · rw [dif_neg h, dif_neg fun h' => h ⟨htexts.symm.trans h'.1, h'.2⟩]
    exact .none

/-- Twins make the same transaction but for its nonce and expiry, or none. -/
lemma make_twins (h : Twins ids o o') {quantity : Int} {expiresAt expiresAt' : Datetime}
    {nonce nonce' : String} (hnonce : isLowerHex 64 nonce = true)
    (hnonce' : isLowerHex 64 nonce' = true) :
    Option.Rel (fun t t' : BoundTransaction => t' = { t with expiresAt := expiresAt', nonce := nonce' })
      (BoundTransaction.make env.upper (boundValues o quantity expiresAt nonce))
      (BoundTransaction.make env.upper (boundValues o' quantity expiresAt' nonce')) := by
  obtain ⟨id, title, -, rfl⟩ := h
  exact make_renewed (v := boundValues o quantity expiresAt nonce) hnonce hnonce'

end Twins

end AgentOrchestrator

end Pactra
