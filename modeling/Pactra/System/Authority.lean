import Pactra.System.CreateFence

/-!
# Authority of a provider call

A call of `provider.create_payment` spends money, so everything that was agreed about the mission
has to stand behind it: the policy decision, the offer that was bound, the limits, the consumed
authorization and, beyond the soft budget, a person's signature. The rows that record these are
written by different operations; `Authority` says that at the moment of the call they agree with
each other and with the request.

## Main results

- `create_authorized` — every call of a run is made with authority for exactly its transaction
-/

namespace Pactra

open PaymentExecutor

/-- What stands behind a call of `provider.create_payment` for an intent: its authorization row and
the transaction that this row rebuilds to. -/
structure Authority (env : Env) (db : Db) (i : PaymentIntentRow) (a : AuthorizationRow)
    (t : BoundTransaction) : Prop where
  row : db.getAuthorization i.authorizationId = some a
  missionId : a.missionId = i.missionId
  consumed : a.status = .consumed
  rebuilt : (SecurityKernel.rebuildBoundTransaction env a).run db = (.ok t, db)
  digest : t.digest = a.transactionDigest
  merchantId : i.merchantId = t.merchantId
  amountInr : i.amountInr = t.amountInr
  currency : i.currency = t.currency
  price : ∃ m ∈ db.missions, m.id = i.missionId ∧ t.quantity = m.quantity ∧
    ∃ d ∈ db.policyDecisions, d.missionId = i.missionId ∧
      ∃ o ∈ db.offers, d.selectedOfferId = some o.id ∧ o.missionId = i.missionId ∧
        o.merchantId = t.merchantId ∧ o.productId = t.productId ∧
        i.amountInr = o.amountInr * m.quantity
  constrained : ∃ c ∈ db.missionConstraints, c.missionId = i.missionId
  hardLimit : ∀ c ∈ db.missionConstraints, c.missionId = i.missionId →
    i.amountInr ≤ c.hardLimitInr
  softBudget : ∀ c ∈ db.missionConstraints, c.missionId = i.missionId →
    c.softBudgetInr < i.amountInr → ∃ signingKeyId signatureHex,
      a.signingKeyId = some signingKeyId ∧ a.approvalSignature = some signatureHex ∧
      SecurityKernel.SignatureVerifies env a signingKeyId signatureHex
  decided : ∀ d ∈ db.policyDecisions, d.missionId = i.missionId → d.decision ≠ .deny

section Authority

variable {env : Env} {db : Db} {a : AuthorizationRow} {t : BoundTransaction}

/-- The transaction that a verification returns is the rebuilt one. -/
lemma rebuilt_of_verified {expected : AuthorizationStatus} {now : Datetime} {db' : Db}
    (h : (SecurityKernel.verifyAuthorizationForPayment env a expected now).run db = (.ok t, db')) :
    (SecurityKernel.rebuildBoundTransaction env a).run db = (.ok t, db) := by
  unfold SecurityKernel.verifyAuthorizationForPayment at h
  obtain ⟨t', db₁, hrebuild, hrest⟩ := Tx.bind_ok.mp h
  obtain ⟨rfl, -⟩ := SecurityKernel.rebuildBoundTransaction_ok hrebuild
  suffices t' = t by rwa [this] at hrebuild
  split at hrest
  · simp at hrest
  split at hrest
  · split at hrest
    · exact (SecurityKernel.classifyAndRaise_no_ok hrest).elim
    · simp at hrest
  split at hrest
  · obtain ⟨_, _, -, hraise⟩ := Tx.bind_ok.mp hrest
    simp at hraise
  obtain ⟨_, _, -, hscheme⟩ := Tx.bind_ok.mp hrest
  split at hscheme
  · split at hscheme
    · simp at hscheme
    · exact Except.ok.inj (Prod.mk.inj hscheme).1
  · simp at hscheme
  · split at hscheme
    · obtain ⟨_, _, -, hpure⟩ := Tx.bind_ok.mp hscheme
      exact Except.ok.inj (Prod.mk.inj hpure).1
    · simp at hscheme

/-- What the re-verification before provider I/O establishes in a consistent database. -/
theorem PaymentExecutor.Verified.authority {ctx : TurnContext} {i : PaymentIntentRow}
    (h : Verified ctx i a t) (hc : Consistent ctx.env ctx.db) : Authority ctx.env ctx.db i a t := by
  have hrun := Prod.mk.eta (p := (SecurityKernel.verifyAuthorizationForPayment ctx.env a .consumed
    ctx.now).run ctx.db)
  rw [h.proof] at hrun
  obtain ⟨⟨hdigest, hmerchant, hproduct, hquantity, hamount, -⟩, hstatus, -, hproof⟩ :=
    SecurityKernel.verifyAuthorizationForPayment_ok hrun.symm
  have hback := hc.backed a (Table.mem_of_find h.row)
  obtain ⟨m, hm, hmid, hq⟩ := hback.mission
  obtain ⟨c, hcm, hcid, hhard, hsoft⟩ := hback.limits
  obtain ⟨d, hd, hdid, hdeny, o, ho, hsel, hoid, hprice, hom, hop⟩ := hback.offer
  have honly : ∀ c' ∈ ctx.db.missionConstraints, c'.missionId = i.missionId → c' = c :=
    fun c' hc' hid => hc.constraintMissions.eq_of_key hc' hcm
      (hid.trans (h.missionId.symm.trans hcid.symm))
  have hpaid : i.amountInr = a.boundAmountInr := h.amountInr.symm.trans hamount
  refine ⟨h.row, h.missionId, hstatus, rebuilt_of_verified hrun.symm, hdigest.symm,
    h.merchantId.symm, h.amountInr.symm, h.currency.symm,
    ⟨m, hm, hmid.trans h.missionId, hquantity.trans hq, d, hd, hdid.trans h.missionId, o, ho, hsel,
      hoid.trans h.missionId, (hmerchant.trans hom).symm, (hproduct.trans hop).symm, ?_⟩,
    ⟨c, hcm, hcid.trans h.missionId⟩, ?_, ?_, ?_⟩
  · rw [hpaid, hprice, hq]
  · intro c' hc' hid
    rw [honly c' hc' hid, hpaid]
    exact hhard
  · intro c' hc' hid hover
    rw [honly c' hc' hid, hpaid] at hover
    exact hproof (hsoft hover)
  · intro d' hd' hid
    rw [hc.decisionMissions.eq_of_key hd' hd (hid.trans (h.missionId.symm.trans hdid.symm))]
    exact hdeny

end Authority

section Runs

variable {env : Env} {actions : List Action} {w : World}

/-- Every call of `provider.create_payment` in a run is made, with the amount, currency, merchant
and key of its intent, while the intent has authority for exactly that transaction; and the policy
decision of its mission is not DENY at any later time either. -/
theorem create_authorized (h : World.exec env actions = some w) {k : Nat} {id : Uuid}
    {request : PaymentRequest} (hcall : .createPayment k id request ∈ w.trace) :
    ∃ before action after w₀ i a t, actions = before ++ action :: after ∧
      World.exec env before = some w₀ ∧
      (∃ lookup create, action = .handle k lookup create ∨ action = .crashHandling k lookup create) ∧
      w₀.db.getPaymentIntent id = some i ∧
      request.amountInr = i.amountInr ∧ request.currency = i.currency ∧
      request.merchantId = i.merchantId ∧ request.idempotencyKey = i.idempotencyKey ∧
      Authority env w₀.db i a t ∧
      ∀ d ∈ w.db.policyDecisions, d.missionId = i.missionId → d.decision ≠ .deny := by
  obtain ⟨before, action, after, w₀, w₁, hactions, hbefore, hstep, hafter, -, ho⟩ :=
    exec_observed h hcall
  obtain ⟨lookup, create, turn, event, i, haction, -, hi, hid, rfl, hcreates⟩ := ho.create
  obtain ⟨a, t, hverified⟩ := hcreates.verified
  have hreach := exec_reachable hbefore
  have hauthority : Authority env w₀.db i a t := hverified.authority hreach.consistent
  have hkey : i.id = event.paymentIntentId := Table.key_of_find hi
  rw [← hkey, hid] at hi
  refine ⟨before, action, after, w₀, i, a, t, hactions, hbefore, ⟨lookup, create, haction⟩, hi,
    rfl, rfl, rfl, rfl, hauthority, fun d hd hdm => ?_⟩
  -- the mission's decision stays the only one
  obtain ⟨_, _, _, _, d₀, hd₀, hd₀m, -⟩ := hauthority.price
  have hgrows := (hreach.step hstep).2.trans (run_grows (hreach.step hstep).1 hafter)
  rw [(exec_reachable h).consistent.decisionMissions.eq_of_key hd (hgrows.policyDecisions hd₀)
    (hdm.trans hd₀m.symm)]
  exact hauthority.decided d₀ hd₀ hd₀m

theorem create_authorized_fenced : ∃ w k request, World.exec Sample.env Sample.fenced = some w ∧
    .createPayment k Sample.intentId request ∈ w.trace ∧
    ∃ (w₀ : World) (i : PaymentIntentRow) (a : AuthorizationRow) (t : BoundTransaction),
      w₀.db.getPaymentIntent Sample.intentId = some i ∧ Authority Sample.env w₀.db i a t := by
  obtain ⟨w, hw, hrows⟩ := Option.map_eq_some_iff.mp Sample.fenced_creates
  have hone : 0 < w.creates Sample.intentId := by
    rw [(Prod.mk.inj hrows).2]
    exact Nat.one_pos
  obtain ⟨o, ho, hcreates⟩ := List.countP_pos_iff.mp hone
  cases o with
  | fenceCommitted => cases hcreates
  | createPayment k id request =>
    obtain rfl := of_decide_eq_true hcreates
    obtain ⟨_, _, _, w₀, i, a, t, -, -, -, hi, -, -, -, -, hauthority, -⟩ :=
      create_authorized hw ho
    exact ⟨w, k, request, hw, ho, w₀, i, a, t, hi, hauthority⟩

end Runs

end Pactra
