import Mathlib.Data.Prod.Lex
import Mathlib.Data.String.Basic
import Pactra.AgentOrchestrator.Abort

/-!
# The order in which quotes arrive

Merchants answer in any order and list their offers in any order. The key by which offers are ranked
leaves out the currency, the time and the title of an offer, so distinct offers can tie, and the
sort then keeps them as they arrived. Among valid offers the key determines everything that policy
and binding take from the selected one.

## Main results

- `best_of_rearranged` — the offers selected from both collections agree in their key and currency
- `arrival_order_is_immaterial` — the decisions and the bound transactions agree
-/

namespace Pactra

namespace PolicyEngine

-- ════════════════════════════════════════════════════════════════════════
-- The ranking order
-- ════════════════════════════════════════════════════════════════════════

/-- `_sort_key`, in the lexicographic order of tuples. What is negated there stands here in the
reverse order. -/
def sortKey (o : ProvenancedOffer) : Ratᵒᵈ ×ₗ Int ×ₗ Ratᵒᵈ ×ₗ String ×ₗ String :=
  toLex (OrderDual.toDual o.rating, toLex (o.amountInr, toLex (OrderDual.toDual o.merchantTrust,
    toLex (o.merchantId, o.productId))))

lemma ranksBefore_iff (a b : ProvenancedOffer) : ranksBefore a b ↔ sortKey a ≤ sortKey b := by
  unfold ranksBefore sortKey
  simp only [Prod.Lex.toLex_le_toLex, OrderDual.toDual_lt_toDual, OrderDual.toDual_inj,
    @eq_comm _ b.rating, @eq_comm _ b.merchantTrust]

instance : Std.Total ranksBefore where
  total a b := by
    rw [ranksBefore_iff, ranksBefore_iff]
    exact le_total _ _

instance : IsTrans ProvenancedOffer ranksBefore where
  trans a b c := by
    rw [ranksBefore_iff, ranksBefore_iff, ranksBefore_iff]
    exact le_trans

/-- The key determines what the decision and the transaction take from an offer, but its currency. -/
lemma eq_of_sortKey {a b : ProvenancedOffer} (h : sortKey a = sortKey b) :
    a.amountInr = b.amountInr ∧ a.merchantId = b.merchantId ∧ a.productId = b.productId := by
  simp only [sortKey, toLex_inj, Prod.mk.injEq] at h
  exact ⟨h.2.1, h.2.2.2⟩

/-- The selected offer is valid and ranks before every valid offer. -/
lemma head?_rankOffers {offers : List ProvenancedOffer} {best : ProvenancedOffer}
    (h : (rankOffers offers).head? = some best) :
    ∃ o ∈ offers, o.valid = true ∧ best = { o with rank := some 1 } ∧
      ∀ o' ∈ offers, o'.valid = true → ranksBefore o o' := by
  have hsorted := List.pairwise_insertionSort ranksBefore (offers.filter ProvenancedOffer.valid)
  have hmem : ∀ o, o ∈ (offers.filter ProvenancedOffer.valid).insertionSort ranksBefore ↔
      o ∈ offers ∧ o.valid = true := fun o => by
    rw [List.mem_insertionSort, List.mem_filter]
  unfold rankOffers at h
  cases hranked : (offers.filter ProvenancedOffer.valid).insertionSort ranksBefore with
  | nil =>
    rw [hranked] at h
    cases h
  | cons o rest =>
    rw [hranked] at h hsorted hmem
    obtain rfl := Option.some.inj h
    obtain ⟨ho, hvalid⟩ := (hmem o).mp (by simp)
    refine ⟨o, ho, hvalid, rfl, fun o' ho' hvalid' => ?_⟩
    rcases List.mem_cons.mp ((hmem o').mpr ⟨ho', hvalid'⟩) with rfl | hrest
    · exact (or_self_iff.mp (Std.Total.total (r := ranksBefore) o' o'))
    · exact (List.pairwise_cons.mp hsorted).1 o' hrest

/-- Nothing is selected exactly when no offer is valid. -/
lemma head?_rankOffers_eq_none {offers : List ProvenancedOffer} :
    (rankOffers offers).head? = none ↔ ∀ o ∈ offers, o.valid = false := by
  have hempty : ∀ l : List ProvenancedOffer, (assignRanks 1 l).head? = none ↔ l = [] := by
    intro l
    cases l <;> simp [assignRanks]
  rw [rankOffers, hempty, ← List.length_eq_zero_iff, List.length_insertionSort,
    List.length_eq_zero_iff, List.filter_eq_nil_iff]
  simp

end PolicyEngine

namespace AgentOrchestrator

-- ════════════════════════════════════════════════════════════════════════
-- Rearranged quotes
-- ════════════════════════════════════════════════════════════════════════

/-- Quotes of one merchant that list the same offers, in any order. -/
structure SameStock (q q' : AuthenticatedQuote) : Prop where
  context : q'.context = q.context
  offers : q.offers.Perm q'.offers

/-- Collections of quotes that differ in the order of the merchants and of the offers within each
quote. -/
def Rearranged (quotes quotes' : List AuthenticatedQuote) : Prop :=
  ∃ moved, quotes.Perm moved ∧ List.Forall₂ SameStock moved quotes'

/-- What a decision says about the mission. -/
structure SameVerdict (d d' : PolicyDecision) : Prop where
  decision : d'.decision = d.decision
  reasonCodes : d'.reasonCodes = d.reasonCodes
  requestedAmount : d'.requestedAmount = d.requestedAmount

/-- Offers that policy and binding cannot tell apart, but for their versions. -/
structure SameGoods (o o' : ProvenancedOffer) : Prop where
  amountInr : o'.amountInr = o.amountInr
  merchantId : o'.merchantId = o.merchantId
  productId : o'.productId = o.productId
  currency : o'.currency = o.currency

/-- Transactions for one purchase; their versions, expiries and nonces may differ. -/
structure SamePurchase (t t' : BoundTransaction) : Prop where
  merchantId : t'.merchantId = t.merchantId
  productId : t'.productId = t.productId
  quantity : t'.quantity = t.quantity
  amountInr : t'.amountInr = t.amountInr
  currency : t'.currency = t.currency

/-- Two creations recorded the same verdict, and bound transactions for one purchase or none. -/
structure SameSelection (id id' : Uuid) (db₀ db db₀' db' : Db) : Prop where
  decisions : ∃ d d' k k' createdAt createdAt',
    db.policyDecisions = db₀.policyDecisions ++ [decisionRow k id d createdAt] ∧
    db'.policyDecisions = db₀'.policyDecisions ++ [decisionRow k' id' d' createdAt'] ∧
    SameVerdict d d'
  authorizations : ∃ rows rows', db.authorizations = db₀.authorizations ++ rows ∧
    db'.authorizations = db₀'.authorizations ++ rows' ∧
    List.Forall₂ (fun a a' => a.missionId = id ∧ a'.missionId = id' ∧
      a'.boundMerchantId = a.boundMerchantId ∧ a'.boundProductId = a.boundProductId ∧
      a'.boundQuantity = a.boundQuantity ∧ a'.boundAmountInr = a.boundAmountInr ∧
      a'.boundCurrency = a.boundCurrency) rows rows'

/-- Normalization, ranking and policy evaluation, one after another. -/
def selectAndEvaluate (env : Env) (request : CreateMissionRequest)
    (quotes : List AuthenticatedQuote) : DbTx PolicyDecision := do
  let offers ← PolicyEngine.normalizeOffers env request.constraints
    (PolicyEngine.contextualOffers quotes)
  pure (PolicyEngine.evaluate request.constraints (PolicyEngine.rankOffers offers).head?
    request.quantity)

section Rearranged

variable {env : Env} {quotes quotes' : List AuthenticatedQuote}

lemma Rearranged.contextualOffers (h : Rearranged quotes quotes') :
    (PolicyEngine.contextualOffers quotes).Perm (PolicyEngine.contextualOffers quotes') := by
  obtain ⟨moved, hperm, hstock⟩ := h
  refine (hperm.flatMap_right _).trans ?_
  clear hperm
  induction hstock with
  | nil => exact .refl _
  | @cons q q' _ _ hq _ ih =>
    rw [List.flatMap_cons, PolicyEngine.contextualOffers, List.flatMap_cons, hq.context]
    exact (hq.offers.map _).append ih

lemma merchantClaims_eq (quotes : List AuthenticatedQuote) :
    merchantClaims quotes = (PolicyEngine.contextualOffers quotes).flatMap fun r =>
      r.1.claims.map fun c => ⟨r.2, r.1, c.1, c.2⟩ := by
  simp [merchantClaims, PolicyEngine.contextualOffers, List.flatMap_assoc, List.flatMap_map]

/-- A value of one collection cannot be hashed exactly when one of the other cannot. -/
lemma Rearranged.hashFailure_eq_none (h : Rearranged quotes quotes')
    (request : CreateMissionRequest) :
    hashFailure request quotes = none ↔ hashFailure request quotes' = none := by
  have hclaims : (merchantClaims quotes).Perm (merchantClaims quotes') := by
    rw [merchantClaims_eq, merchantClaims_eq]
    exact h.contextualOffers.flatMap_right _
  have hvalues : (hashedValues request quotes).Perm (hashedValues request quotes') :=
    .cons _ ((hclaims.filterMap _).map _)
  unfold hashFailure
  rw [List.findSome?_eq_none_iff, List.findSome?_eq_none_iff]
  exact forall_congr' fun v => by rw [hvalues.mem_iff]

/-- Ingress refuses an offer of one collection exactly when it refuses one of the other. -/
lemma Rearranged.firstRefusal_eq_none (h : Rearranged quotes quotes') :
    firstRefusal quotes = none ↔ firstRefusal quotes' = none := by
  unfold firstRefusal
  rw [List.findSome?_eq_none_iff, List.findSome?_eq_none_iff]
  exact forall_congr' fun r => by rw [h.contextualOffers.mem_iff]

lemma Rearranged.obstacle_eq_none (h : Rearranged quotes quotes') (request : CreateMissionRequest) :
    obstacle request quotes = none ↔ obstacle request quotes' = none := by
  unfold obstacle
  rw [Option.or_eq_none_iff, Option.or_eq_none_iff, h.hashFailure_eq_none request,
    h.firstRefusal_eq_none]

lemma mem_normalizedFrom_of_mem {c : MissionConstraints} {n : Nat}
    {raws : List (RawMerchantOffer × MerchantContext)} {r : RawMerchantOffer × MerchantContext}
    (h : r ∈ raws) : ∃ id, normalized env c id r.1 r.2 ∈ normalizedFrom env c n raws := by
  induction raws generalizing n with
  | nil => cases h
  | cons r' raws ih =>
    rcases List.mem_cons.mp h with rfl | h
    · exact ⟨env.uuid4 n, by simp [normalizedFrom]⟩
    · obtain ⟨id, hid⟩ := ih (n := n + 1) h
      exact ⟨id, by simp [normalizedFrom, hid]⟩

/-- Every offer normalized from one collection has a counterpart normalized from the other, which
differs in its identifier at most. -/
lemma exists_counterpart {c : MissionConstraints} {n : Nat} (n' : Nat)
    {raws raws' : List (RawMerchantOffer × MerchantContext)} (hmem : ∀ r ∈ raws, r ∈ raws')
    {o : ProvenancedOffer} (ho : o ∈ normalizedFrom env c n raws) :
    ∃ o' ∈ normalizedFrom env c n' raws', o'.valid = o.valid ∧
      PolicyEngine.sortKey o' = PolicyEngine.sortKey o := by
  obtain ⟨r, hr, id, rfl⟩ := mem_normalizedFrom ho
  obtain ⟨id', hid'⟩ : ∃ id', normalized env c id' r.1 r.2 ∈ normalizedFrom env c n' raws' :=
    mem_normalizedFrom_of_mem (hmem r hr)
  exact ⟨_, hid', rfl, rfl⟩

/-- The offers selected from both collections are the same goods. -/
lemma best_of_rearranged (env : Env) (h : Rearranged quotes quotes')
    (request : CreateMissionRequest) (n n' : Nat) :
    Option.Rel SameGoods (PolicyEngine.rankOffers (offersFrom env request quotes n)).head?
      (PolicyEngine.rankOffers (offersFrom env request quotes' n')).head? := by
  have hmem : ∀ r ∈ PolicyEngine.contextualOffers quotes,
      r ∈ PolicyEngine.contextualOffers quotes' := fun r => h.contextualOffers.mem_iff.mp
  have hmem' : ∀ r ∈ PolicyEngine.contextualOffers quotes',
      r ∈ PolicyEngine.contextualOffers quotes := fun r => h.contextualOffers.mem_iff.mpr
  cases hbest : (PolicyEngine.rankOffers (offersFrom env request quotes n)).head? with
  | none =>
    have hnone := PolicyEngine.head?_rankOffers_eq_none.mp hbest
    rw [PolicyEngine.head?_rankOffers_eq_none.mpr]
    · exact .none
    · intro o' ho'
      obtain ⟨o, ho, hvalid, -⟩ := exists_counterpart n hmem' ho'
      exact hvalid.symm.trans (hnone o ho)
  | some best =>
    obtain ⟨o, ho, hvalid, rfl, hfirst⟩ := PolicyEngine.head?_rankOffers hbest
    obtain ⟨x, hx, hxvalid, hxkey⟩ := exists_counterpart n' hmem ho
    cases hbest' : (PolicyEngine.rankOffers (offersFrom env request quotes' n')).head? with
    | none =>
      have hnone := PolicyEngine.head?_rankOffers_eq_none.mp hbest' x hx
      rw [hxvalid, hvalid] at hnone
      cases hnone
    | some best' =>
      obtain ⟨o', ho', hvalid', rfl, hfirst'⟩ := PolicyEngine.head?_rankOffers hbest'
      obtain ⟨y, hy, hyvalid, hykey⟩ := exists_counterpart n hmem' ho'
      have hle := (PolicyEngine.ranksBefore_iff o y).mp (hfirst y hy (hyvalid.trans hvalid'))
      have hge := (PolicyEngine.ranksBefore_iff o' x).mp (hfirst' x hx (hxvalid.trans hvalid))
      have hkey : PolicyEngine.sortKey o' = PolicyEngine.sortKey o :=
        le_antisymm (hxkey ▸ hge) (hykey ▸ hle)
      obtain ⟨hamount, hmerchant, hproduct⟩ := PolicyEngine.eq_of_sortKey hkey
      obtain ⟨r, -, id, rfl⟩ := mem_normalizedFrom ho
      obtain ⟨r', -, id', rfl⟩ := mem_normalizedFrom ho'
      exact .some ⟨hamount, hmerchant, hproduct,
        (currency_of_valid hvalid').trans (currency_of_valid hvalid).symm⟩

/-- Policy says the same about the same goods. -/
lemma sameVerdict_of_rearranged (env : Env) (h : Rearranged quotes quotes')
    (request : CreateMissionRequest) (n n' : Nat) :
    SameVerdict (decisionOn request (offersFrom env request quotes n))
      (decisionOn request (offersFrom env request quotes' n')) := by
  have hbest := best_of_rearranged env h request n n'
  unfold decisionOn
  generalize (PolicyEngine.rankOffers (offersFrom env request quotes n)).head? = best at hbest ⊢
  generalize (PolicyEngine.rankOffers (offersFrom env request quotes' n')).head? = best' at hbest ⊢
  cases hbest with
  | none => exact ⟨rfl, rfl, rfl⟩
  | some hgoods =>
    simp only [PolicyEngine.evaluate, hgoods.amountInr]
    split
    · exact ⟨rfl, rfl, rfl⟩
    · split <;> exact ⟨rfl, rfl, rfl⟩

/-- The same goods make a transaction for the same purchase, or none. -/
lemma make_sameGoods {o o' : ProvenancedOffer} (h : SameGoods o o') {quantity : Int}
    {expiresAt expiresAt' : Datetime} {nonce nonce' : String} (hnonce : isLowerHex 64 nonce = true)
    (hnonce' : isLowerHex 64 nonce' = true) :
    Option.Rel SamePurchase
      (BoundTransaction.make env.upper (boundValues o quantity expiresAt nonce))
      (BoundTransaction.make env.upper (boundValues o' quantity expiresAt' nonce')) := by
  have hbindable : Bindable (boundValues o quantity expiresAt nonce) ↔
      Bindable (boundValues o' quantity expiresAt' nonce') := by
    have hversion : BoundTransaction.lengthIn 1 64 o'.offerVersion =
        BoundTransaction.lengthIn 1 64 o.offerVersion := by
      simp only [BoundTransaction.lengthIn, length_offerVersion]
    unfold Bindable
    dsimp only [boundValues]
    rw [hversion, h.amountInr, h.merchantId, h.productId, h.currency]
  rw [← isSome_make_iff (v := boundValues o quantity expiresAt nonce) env.upper hnonce,
    ← isSome_make_iff (v := boundValues o' quantity expiresAt' nonce') env.upper hnonce'] at hbindable
  cases hmake : BoundTransaction.make env.upper (boundValues o quantity expiresAt nonce) with
  | none =>
    cases hmake' : BoundTransaction.make env.upper (boundValues o' quantity expiresAt' nonce') with
    | none => exact .none
    | some t' => simp [hmake, hmake'] at hbindable
  | some t =>
    cases hmake' : BoundTransaction.make env.upper (boundValues o' quantity expiresAt' nonce') with
    | none => simp [hmake, hmake'] at hbindable
    | some t' =>
      obtain ⟨hmerchant, hproduct, hquantity, hamount, hcurrency, -⟩ :=
        BoundTransaction.make_eq_some hmake
      obtain ⟨hmerchant', hproduct', hquantity', hamount', hcurrency', -⟩ :=
        BoundTransaction.make_eq_some hmake'
      refine .some ⟨?_, ?_, hquantity'.trans hquantity.symm, ?_, ?_⟩
      · rw [hmerchant, hmerchant']
        exact h.merchantId
      · rw [hproduct, hproduct']
        exact h.productId
      · rw [hamount, hamount']
        exact congrArg (· * quantity) h.amountInr
      · rw [hcurrency, hcurrency']
        exact congrArg env.upper h.currency

lemma Additions.authorized_decisions (a : Additions) (env : Env) (decision : PolicyDecision)
    (row : AuthorizationRow) : (a.authorized env decision row).decisions = a.decisions := by
  unfold Additions.authorized
  split <;> rfl

lemma Additions.authorized_rows (a : Additions) (env : Env) (decision : PolicyDecision)
    (row : AuthorizationRow) :
    (a.authorized env decision row).authorizations = [{ row with
      status := if decision.decision = .requireApproval then row.status else .active }] := by
  unfold Additions.authorized
  split <;> rfl

/-- Normalization, ranking and evaluation decide, or raise the first refusal. -/
lemma run_selectAndEvaluate (env : Env) (request : CreateMissionRequest)
    (quotes : List AuthenticatedQuote) (db : Db) :
    match firstRefusal quotes with
    | some e => ((selectAndEvaluate env request quotes).run db).1 = .error e
    | none => ((selectAndEvaluate env request quotes).run db).1 =
        .ok (decisionOn request (offersFrom env request quotes db.drawn)) := by
  have hnormal := run_normalizeOffers env request.constraints (PolicyEngine.contextualOffers quotes)
    db
  change match firstRefusal quotes with
    | some e => _
    | none => _ at hnormal
  unfold selectAndEvaluate
  cases hrefusal : firstRefusal quotes with
  | some e =>
    rw [hrefusal] at hnormal
    obtain ⟨db', hdb'⟩ := hnormal
    exact congrArg Prod.fst (Tx.run_bind_of_error hdb')
  | none =>
    rw [hrefusal] at hnormal
    exact congrArg Prod.fst (Tx.run_bind_of_ok hnormal)

/-- The order in which quotes and offers arrive is immaterial. Normalization, ranking and policy
evaluation give one verdict on rearranged quotes, or none; and the creations of two missions both
raise, or record one verdict and bind transactions for one purchase. -/
theorem arrival_order_is_immaterial (env : Env) (request : CreateMissionRequest)
    (h : Rearranged quotes quotes') (db₀ db₀' : Db) :
    ((∃ e e', ((selectAndEvaluate env request quotes).run db₀).1 = .error e ∧
        ((selectAndEvaluate env request quotes').run db₀').1 = .error e') ∨
      ∃ d d', ((selectAndEvaluate env request quotes).run db₀).1 = .ok d ∧
        ((selectAndEvaluate env request quotes').run db₀').1 = .ok d' ∧ SameVerdict d d') ∧
    (Supplied env db₀ → Supplied env db₀' →
      (∃ e e', ((run env request quotes).run db₀).1 = .error e ∧
          ((run env request quotes').run db₀').1 = .error e') ∨
        ∃ id id', ((run env request quotes).run db₀).1 = .ok id ∧
          ((run env request quotes').run db₀').1 = .ok id' ∧
          SameSelection id id' db₀ ((run env request quotes).run db₀).2 db₀'
            ((run env request quotes').run db₀').2) := by
  have hrefusals := h.firstRefusal_eq_none
  refine ⟨?_, fun hs hs' => ?_⟩
  · have hselect := run_selectAndEvaluate env request quotes db₀
    have hselect' := run_selectAndEvaluate env request quotes' db₀'
    cases hrefusal : firstRefusal quotes with
    | some e =>
      obtain ⟨e', hrefusal'⟩ : ∃ e', firstRefusal quotes' = some e' :=
        Option.ne_none_iff_exists'.mp fun hnone => by simp [hrefusals.mpr hnone] at hrefusal
      rw [hrefusal] at hselect
      rw [hrefusal'] at hselect'
      exact .inl ⟨e, e', hselect, hselect'⟩
    | none =>
      rw [hrefusal] at hselect
      rw [hrefusals.mp hrefusal] at hselect'
      exact .inr ⟨_, _, hselect, hselect', sameVerdict_of_rearranged env h request _ _⟩
  · have hobstacles := h.obstacle_eq_none request
    have hends := run_ends hs request quotes
    have hends' := run_ends hs' request quotes'
    generalize (run env request quotes).run db₀ = out at hends ⊢
    generalize (run env request quotes').run db₀' = out' at hends' ⊢
    have hverdicts := sameVerdict_of_rearranged env h request
    have hmakes : ∀ {n n' best best' expiresAt expiresAt' nonce nonce' t t'},
        (PolicyEngine.rankOffers (offersFrom env request quotes n)).head? = some best →
        (PolicyEngine.rankOffers (offersFrom env request quotes' n')).head? = some best' →
        isLowerHex 64 nonce = true → isLowerHex 64 nonce' = true →
        BoundTransaction.make env.upper (boundValues best request.quantity expiresAt nonce) = t →
        BoundTransaction.make env.upper (boundValues best' request.quantity expiresAt' nonce') = t' →
        Option.Rel SamePurchase t t' := by
      intro n n' best best' expiresAt expiresAt' nonce nonce' t t' hbest hbest' hnonce hnonce' ht ht'
      have hbests := best_of_rearranged env h request n n'
      rw [hbest, hbest'] at hbests
      rw [← ht, ← ht']
      cases hbests with
      | some hgoods => exact make_sameGoods hgoods hnonce hnonce'
    cases hends with
    | @refused e db hrefusal =>
      cases hends' with
      | refused hrefusal' => exact .inl ⟨_, _, rfl, rfl⟩
      | denied hpassed' => cases hrefusal.symm.trans (hobstacles.mpr hpassed')
      | unbindable hpassed' => exact .inl ⟨_, _, rfl, rfl⟩
      | authorized hpassed' => cases hrefusal.symm.trans (hobstacles.mpr hpassed')
    | denied hpassed hdeny hadds =>
      cases hends' with
      | refused hrefusal' => cases hrefusal'.symm.trans (hobstacles.mp hpassed)
      | denied _ _ hadds' =>
        exact .inr ⟨_, _, rfl, rfl, ⟨_, _, _, _, _, _, hadds.decisions, hadds'.decisions,
          hverdicts _ _⟩, ⟨[], [], hadds.authorizations, hadds'.authorizations, .nil⟩⟩
      | unbindable _ _ hallow' => exact absurd ((hverdicts _ _).decision.trans hdeny) hallow'
      | authorized _ _ hallow' => exact absurd ((hverdicts _ _).decision.trans hdeny) hallow'
    | unbindable hpassed hbest hallow hnonce hmake =>
      cases hends' with
      | refused hrefusal' => exact .inl ⟨_, _, rfl, rfl⟩
      | denied _ hdeny' => exact absurd ((hverdicts _ _).decision.symm.trans hdeny') hallow
      | unbindable => exact .inl ⟨_, _, rfl, rfl⟩
      | authorized _ hbest' _ hnonce' hmake' =>
        cases hmakes hbest hbest' hnonce hnonce' hmake hmake'
    | authorized hpassed hbest hallow hnonce hmake hadds =>
      cases hends' with
      | refused hrefusal' => cases hrefusal'.symm.trans (hobstacles.mp hpassed)
      | denied _ hdeny' => exact absurd ((hverdicts _ _).decision.symm.trans hdeny') hallow
      | unbindable _ hbest' _ hnonce' hmake' =>
        cases hmakes hbest hbest' hnonce hnonce' hmake hmake'
      | authorized _ hbest' _ hnonce' hmake' hadds' =>
        cases hmakes hbest hbest' hnonce hnonce' hmake hmake' with
        | some hsame =>
          have hdecisions := hadds.decisions
          have hdecisions' := hadds'.decisions
          have hrows := hadds.authorizations
          have hrows' := hadds'.authorizations
          rw [Additions.authorized_decisions] at hdecisions hdecisions'
          rw [Additions.authorized_rows] at hrows hrows'
          exact .inr ⟨_, _, rfl, rfl,
            ⟨_, _, _, _, _, _, hdecisions, hdecisions', hverdicts _ _⟩,
            ⟨_, _, hrows, hrows', .cons ⟨rfl, rfl, hsame.merchantId, hsame.productId,
              hsame.quantity, hsame.amountInr, hsame.currency⟩ .nil⟩⟩

end Rearranged

namespace Sample

/-- A merchant's quote of two offers that tie, made at different times. -/
def tied (first second : Datetime) : AuthenticatedQuote :=
  ⟨⟨"m", "m", "M", 1, true⟩, [first, second].map fun offeredAt =>
    ⟨"m", "p", "t", "d", 50, "INR", 4, true, offeredAt, [], fifty_nonneg⟩⟩

/-- Another merchant's quote of a dearer offer. -/
def dearer : AuthenticatedQuote :=
  ⟨⟨"n", "n", "N", 1, true⟩, [⟨"n", "p", "t", "d", 60, "INR", 4, true, 0, [], by norm_num⟩]⟩

end Sample

/-- Two merchants in either order, one of them with two offers that tie in either order. -/
theorem arrival_order_of_tied_offers :
    ∃ id id',
      ((run Sample.env Sample.request [Sample.tied 0 1, Sample.dearer]).run Db.empty).1 = .ok id ∧
      ((run Sample.env Sample.request [Sample.dearer, Sample.tied 1 0]).run Db.empty).1 = .ok id' ∧
      SameSelection id id'
        Db.empty ((run Sample.env Sample.request [Sample.tied 0 1, Sample.dearer]).run Db.empty).2
        Db.empty ((run Sample.env Sample.request [Sample.dearer, Sample.tied 1 0]).run Db.empty).2 := by
  have hrearranged : Rearranged [Sample.tied 0 1, Sample.dearer] [Sample.dearer, Sample.tied 1 0] :=
    ⟨_, .swap _ _ _, .cons ⟨rfl, .refl _⟩ (.cons ⟨rfl, .swap _ _ _⟩ .nil)⟩
  have hok : ((run Sample.env Sample.request [Sample.tied 0 1, Sample.dearer]).run Db.empty).1 =
      .ok (Sample.env.uuid4 0) := by
    decide +kernel
  rcases (arrival_order_is_immaterial Sample.env Sample.request hrearranged Db.empty Db.empty).2
    Sample.supplied Sample.supplied with ⟨e, e', herror, -⟩ | hsame
  · rw [hok] at herror
    cases herror
  · exact hsame

end AgentOrchestrator

end Pactra
