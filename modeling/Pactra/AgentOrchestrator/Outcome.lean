import Pactra.AgentOrchestrator.Course

/-!
# How a mission's creation ends

After discovery, policy decides on the best offer; an authorizable decision is bound to an exact
transaction and its authorization issued. `Ends` lists the ways in which `Orchestrator.run` can end,
each with the condition under which it does and with all that it added.

## Main results

- `Adds.run_bindSelected` — binding succeeds exactly when the offer makes a valid transaction
- `Adds.authorizes` — issuing and activating an authorization do not fail
- `run_ends` — every creation ends in one of the ways of `Ends`
-/

namespace Pactra

namespace AgentOrchestrator

-- ════════════════════════════════════════════════════════════════════════
-- Policy and binding
-- ════════════════════════════════════════════════════════════════════════

/-- What a decision that is not DENY carries. -/
lemma evaluate_authorizable {c : MissionConstraints} {best : ProvenancedOffer} {quantity : Int}
    (h : (PolicyEngine.evaluate c (some best) quantity).decision ≠ .deny) :
    (PolicyEngine.evaluate c (some best) quantity).selectedOfferId = some best.offerId ∧
      (PolicyEngine.evaluate c (some best) quantity).requestedAmount =
        some (best.amountInr * quantity) ∧
      (PolicyEngine.evaluate c (some best) quantity).policyVersion = PolicyEngine.policyVersion := by
  unfold PolicyEngine.evaluate at h ⊢
  dsimp only at h ⊢
  split
  · next hhard => simp [hhard] at h
  · split <;> exact ⟨rfl, rfl, rfl⟩

/-- The values a selected offer is bound with. -/
def boundValues (best : ProvenancedOffer) (quantity : Int) (expiresAt : Datetime) (nonce : String) :
    BoundTransaction.Values :=
  { merchantId := best.merchantId, productId := best.productId, quantity := quantity,
    amountInr := best.amountInr * quantity, currency := best.currency,
    policyVersion := PolicyEngine.policyVersion, offerVersion := best.offerVersion,
    expiresAt := expiresAt, nonce := nonce }

lemma rankRow_eq (ranked : List ProvenancedOffer) (row : Offer) :
    ∃ r, rankRow ranked row = { row with rank := r } := by
  unfold rankRow
  split
  · exact ⟨_, rfl⟩
  · exact ⟨row.rank, rfl⟩

lemma find?_eq_of_unique {α : Type} {p : α → Bool} {l : List α} {x : α} (hx : x ∈ l) (hp : p x = true)
    (hunique : ∀ y ∈ l, p y = true → y = x) : l.find? p = some x := by
  cases hf : l.find? p with
  | none => exact absurd hp (by simpa using List.find?_eq_none.mp hf x hx)
  | some y => rw [hunique y (List.mem_of_find?_eq_some hf) (List.find?_some hf)]

section Binding

variable {env : Env} {db₀ db : Db} {m : Mission} {cs : List MissionConstraintsRow}
  {ds : List PolicyDecisionRow} {as : List AuthorizationRow} {es : List AuditEntry}
  {c : MissionConstraints} {n : Nat} {raws : List (RawMerchantOffer × MerchantContext)}
  {offers : List ProvenancedOffer} {best : ProvenancedOffer} {quantity : Int}

/-- The row of a ranked offer is found by its identifier. -/
lemma Adds.find_offer (hs : Supplied env db₀)
    (h : Adds env db₀ ⟨m, cs, (offers.map (offerRow m.id)).map (rankRow (PolicyEngine.rankOffers offers)),
      ds, as, es⟩ db)
    (hoffers : offers = normalizedFrom env c n raws) (hn : db₀.drawn ≤ n)
    (hbest : best ∈ PolicyEngine.rankOffers offers) :
    ∃ r, db.offers.find? (fun o => decide (o.id = best.offerId ∧ o.missionId = m.id)) =
      some { offerRow m.id best with rank := r } ∧ best.valid = true := by
  obtain ⟨o, ho, hvalid, rank, rfl⟩ := mem_rankOffers hbest
  obtain ⟨r, hr⟩ := rankRow_eq (PolicyEngine.rankOffers offers) (offerRow m.id o)
  refine ⟨r, ?_, hvalid⟩
  rw [h.offers]
  refine find?_eq_of_unique ?_ ?_ ?_
  · exact List.mem_append_right _ (List.mem_map.mpr ⟨_, List.mem_map_of_mem ho, hr⟩)
  · simp [offerRow]
  · intro row hrow hp
    obtain ⟨hid, -⟩ := of_decide_eq_true hp
    rcases List.mem_append.mp hrow with hrow | hrow
    · obtain ⟨k, hle, -, hk⟩ := exists_drawn_of_mem (hoffers ▸ ho)
      exact absurd (hid.trans hk) ((hs.unused k (hn.trans hle)).offers row hrow)
    · obtain ⟨row', hrow', rfl⟩ := List.mem_map.mp hrow
      obtain ⟨o', ho', rfl⟩ := List.mem_map.mp hrow'
      have hsame : o' = o := by
        refine List.inj_on_of_nodup_map ?_ ho' ho (by simpa [offerRow] using hid)
        rw [hoffers]
        exact nodup_offerId hs.distinct n raws
      rw [hsame]
      exact hr

/-- Binding the selected offer succeeds exactly when its transaction is valid. -/
lemma Adds.run_bindSelected (hs : Supplied env db₀)
    (h : Adds env db₀ ⟨m, cs, (offers.map (offerRow m.id)).map (rankRow (PolicyEngine.rankOffers offers)),
      ds, as, es⟩ db)
    (hoffers : offers = normalizedFrom env c n raws) (hn : db₀.drawn ≤ n)
    (hbest : best ∈ PolicyEngine.rankOffers offers)
    (hd : (PolicyEngine.evaluate c (some best) quantity).decision ≠ .deny) :
    (bindSelected env m.id best (PolicyEngine.evaluate c (some best) quantity) quantity).run db =
      (match BoundTransaction.make env.upper (boundValues best quantity
          (env.utcnow db.drawn + Datetime.seconds env.authorizationTtlSeconds)
          (env.tokenHex (db.drawn + 1))) with
        | none => .error (.validationError "BoundTransaction")
        | some t => .ok t, { db with drawn := db.drawn + 2 }) := by
  obtain ⟨r, hfind, hvalid⟩ := h.find_offer hs hoffers hn hbest
  obtain ⟨hselected, hamount, hversion⟩ := evaluate_authorizable hd
  generalize PolicyEngine.evaluate c (some best) quantity = decision at *
  unfold bindSelected
  rw [Tx.run_bind_of_ok (run_drawNow env db), Tx.run_bind_of_ok (run_drawToken env _)]
  have hbuild : (SecurityKernel.buildBoundTransactionFromSelectedOffer env m.id best.offerId
      best.offerVersion decision quantity (env.tokenHex (db.drawn + 1))
      (env.utcnow db.drawn + Datetime.seconds env.authorizationTtlSeconds)).run
        { db with drawn := db.drawn + 2 } =
      (match BoundTransaction.make env.upper (boundValues best quantity
          (env.utcnow db.drawn + Datetime.seconds env.authorizationTtlSeconds)
          (env.tokenHex (db.drawn + 1))) with
        | none => .error (.validationError "BoundTransaction")
        | some t => .ok t, { db with drawn := db.drawn + 2 }) := by
    unfold SecurityKernel.buildBoundTransactionFromSelectedOffer
    rw [Tx.run_bind_of_ok (Tx.run_get _)]
    dsimp only
    rw [hfind]
    have hcurrent : best.offerVersion = computeOfferVersion best.merchantId best.productId
        best.amountInr best.currency best.rating best.inStock best.offeredAt := rfl
    simp only [offerRow, hcurrent, ne_eq, not_true_eq_false, or_self, if_false, hvalid, Bool.not_true,
      Bool.false_eq_true]
    unfold SecurityKernel.buildBoundTransactionFromValues
    rw [Tx.run_bind_of_ok (run_require (by simpa using hd)), Tx.run_bind_of_ok (run_require rfl),
      Tx.run_bind_of_ok (run_require (by simpa using hselected)), hamount]
    dsimp only
    rw [Tx.run_bind_of_ok (run_require (by simp)), hversion]
    change (match BoundTransaction.make env.upper (boundValues best quantity
        (env.utcnow db.drawn + Datetime.seconds env.authorizationTtlSeconds)
        (env.tokenHex (db.drawn + 1))) with
      | none => Tx.raise (.validationError "BoundTransaction")
      | some transaction => pure transaction : DbTx BoundTransaction).run _ = _
    split <;> rfl
  rw [Tx.run_tryCatch, hbuild]
  split
  · next hmake =>
    obtain ⟨hr, rfl⟩ := Prod.mk.inj hmake
    rw [← hr]
  · next hmake =>
    obtain ⟨hr, rfl⟩ := Prod.mk.inj hmake
    split at hr
    · obtain rfl := Except.error.inj hr
      rfl
    · cases hr

end Binding

-- ════════════════════════════════════════════════════════════════════════
-- Authorization
-- ════════════════════════════════════════════════════════════════════════

/-- The row of an authorization as it is issued. -/
def issuedRow (authorizationId missionId : Uuid) (t : BoundTransaction) (scheme : ApprovalScheme)
    (issuedAt : Datetime) : AuthorizationRow :=
  { authorizationId := authorizationId, missionId := missionId, transactionDigest := t.digest,
    nonce := t.nonce, bindingVersion := bindingVersion, policyVersion := t.policyVersion,
    offerVersion := t.offerVersion, approvalScheme := scheme, signingKeyId := none,
    approvalSignature := none, status := .pending, issuedAt := issuedAt, expiresAt := t.expiresAt,
    consumedAt := none, boundMerchantId := t.merchantId, boundProductId := t.productId,
    boundQuantity := t.quantity, boundAmountInr := t.amountInr, boundCurrency := t.currency }

/-- The entry of the event that records an issued authorization. -/
def createdEntry (row : AuthorizationRow) : AuditEntry :=
  ⟨.authorizationCreated, SecurityKernel.actor,
    [("authorization_id", .str row.authorizationId.str), ("status", .str row.status.value),
     ("transaction_digest_prefix", .str (digestPrefix row.transactionDigest)),
     ("policy_version", .str row.policyVersion), ("offer_version", .str row.offerVersion),
     ("binding_version", .str row.bindingVersion),
     ("approval_scheme", .str row.approvalScheme.value),
     ("expires_at", .str row.expiresAt.isoformat), ("bound_merchant_id", .str row.boundMerchantId),
     ("bound_product_id", .str row.boundProductId), ("bound_quantity", .int row.boundQuantity),
     ("bound_amount_inr", .int row.boundAmountInr), ("bound_currency", .str row.boundCurrency)]⟩

/-- The entry of the event that records an activated authorization. -/
def activatedEntry (row : AuthorizationRow) : AuditEntry :=
  ⟨.authorizationActivated, SecurityKernel.actor,
    [("authorization_id", .str row.authorizationId.str), ("status", .str row.status.value),
     ("transaction_digest_prefix", .str (digestPrefix row.transactionDigest)),
     ("approval_scheme", .str ApprovalScheme.policyAuto.value)]⟩

section Authorization

variable {env : Env} {db₀ db : Db} {m : Mission} {cs : List MissionConstraintsRow} {os : List Offer}
  {ds : List PolicyDecisionRow} {es : List AuditEntry} {row : AuthorizationRow}
  {t : BoundTransaction} {scheme : ApprovalScheme}

/-- An authorization is issued for a bound transaction that has not expired. -/
lemma Adds.issued (hs : Supplied env db₀) (h : Adds env db₀ ⟨m, cs, os, ds, [], es⟩ db)
    (hscheme : scheme ≠ .legacyServer) (hnonce : ∀ a ∈ db₀.authorizations, a.nonce ≠ t.nonce)
    (hprompt : env.utcnow db.drawn < t.expiresAt) :
    ∃ db', (SecurityKernel.issueAuthorization env m.id t scheme).run db =
        (.ok (issuedRow (env.uuid4 (db.drawn + 1)) m.id t scheme (env.utcnow db.drawn)), db') ∧
      Adds env db₀ ⟨m, cs, os, ds,
        [issuedRow (env.uuid4 (db.drawn + 1)) m.id t scheme (env.utcnow db.drawn)],
        es ++ [createdEntry
          (issuedRow (env.uuid4 (db.drawn + 1)) m.id t scheme (env.utcnow db.drawn))]⟩ db' ∧
      db'.drawn = db.drawn + 4 := by
  have hauths : db.authorizations = db₀.authorizations := by rw [h.authorizations, List.append_nil]
  generalize hrow : issuedRow (env.uuid4 (db.drawn + 1)) m.id t scheme (env.utcnow db.drawn) = row
  have hid : row.authorizationId = env.uuid4 (db.drawn + 1) := hrow ▸ rfl
  have hadded : Adds env db₀ ⟨m, cs, os, ds, [row], es⟩
      { db with authorizations := db.authorizations ++ [row], drawn := db.drawn + 2 } := by
    refine ⟨h.fresh, h.missions, h.constraints, h.offers, h.decisions, by simp [hauths], h.events,
      Nat.le_trans h.drawn (by simp), fun n hn => ?_⟩
    have hn' : db.drawn + 2 ≤ n := hn
    obtain ⟨h₁, h₂, h₃, h₄, h₅, h₆⟩ := h.unused n (by omega)
    refine ⟨h₁, h₂, h₃, h₄, h₅, fun a ha => ?_⟩
    rcases List.mem_append.mp ha with ha | ha
    · exact h₆ a ha
    · rw [List.mem_singleton.mp ha, hid]
      exact drawn_ne hs.distinct (by omega)
  obtain ⟨db', hrun, hdone, hdrawn⟩ := hadded.logged hs.distinct (createdEntry row)
  refine ⟨db', ?_, hdone, hdrawn⟩
  unfold SecurityKernel.issueAuthorization
  rw [Tx.run_bind_of_ok (run_require (by simpa using hscheme)),
    Tx.run_bind_of_ok (run_drawNow env db),
    Tx.run_bind_of_ok (run_require (by simpa using hprompt)), Tx.run_bind_of_ok (run_drawUuid env _),
    Tx.run_bind_of_ok (Tx.run_get _)]
  have hfree : db.getAuthorization (env.uuid4 (db.drawn + 1)) = none :=
    Table.find_eq_none.mpr (h.unused _ (Nat.le_succ _)).authorizations
  have hunused : db.authorizations.any (fun a => a.nonce == t.nonce) = false := by
    rw [hauths]
    simpa using hnonce
  rw [if_neg ?_, Tx.run_bind_of_ok (Tx.run_modify _ _)]
  · subst hrow
    exact Tx.run_bind_of_ok hrun
  · intro hc
    rcases hc with hc | hc
    · have hsome : (db.getAuthorization (env.uuid4 (db.drawn + 1))).isSome = true := hc
      simp [hfree] at hsome
    · exact Bool.false_ne_true (hunused.symm.trans hc)

/-- A pending authorization that policy allows takes the active status. -/
lemma Adds.tookActive (hs : Supplied env db₀) (h : Adds env db₀ ⟨m, cs, os, ds, [row], es⟩ db)
    {k : Nat} (hid : row.authorizationId = env.uuid4 k) (hk : db₀.drawn ≤ k)
    (condition : AuthorizationRow → Bool) (hcondition : condition row = true) :
    ∃ db', (SecurityKernel.applyTransition row.authorizationId condition
        (fun r => { r with status := .active })).run db = (.ok true, db') ∧
      Adds env db₀ ⟨m, cs, os, ds, [{ row with status := .active }], es⟩ db' ∧
      db'.getAuthorization row.authorizationId = some { row with status := .active } := by
  have hother : Table.find AuthorizationRow.authorizationId row.authorizationId db₀.authorizations =
      none := by
    rw [hid]
    exact Table.find_eq_none.mpr (hs.unused k hk).authorizations
  have hfind : db.getAuthorization row.authorizationId = some row := by
    rw [Db.getAuthorization, h.authorizations, Table.find_insert, hother]
    simp
  have hupdated : (db.updateAuthorization row.authorizationId
      (fun r => { r with status := .active })).authorizations =
      db₀.authorizations ++ [{ row with status := .active }] := by
    show Table.update AuthorizationRow.authorizationId row.authorizationId _ db.authorizations = _
    rw [h.authorizations, Table.update, List.map_append]
    congr 1
    · exact Table.update_of_absent hother
    · simp
  refine ⟨db.updateAuthorization row.authorizationId (fun r => { r with status := .active }),
    ?_, ?_, ?_⟩
  · change SecurityKernel.applyTransition _ _ _ _ = _
    unfold SecurityKernel.applyTransition
    rw [hfind]
    simp [hcondition]
  · refine ⟨h.fresh, h.missions, h.constraints, h.offers, h.decisions, hupdated, h.events, h.drawn,
      fun n hn => ?_⟩
    obtain ⟨h₁, h₂, h₃, h₄, h₅, h₆⟩ := h.unused n hn
    refine ⟨h₁, h₂, h₃, h₄, h₅, fun a ha => ?_⟩
    obtain ⟨a', ha', rfl⟩ := Table.mem_update.mp ha
    split
    · exact h₆ a' ha'
    · exact h₆ a' ha'
  · rw [Db.getAuthorization, hupdated, Table.find_insert, hother]
    simp

/-- An authorization that policy allows is activated. -/
lemma Adds.activated (hs : Supplied env db₀) (h : Adds env db₀ ⟨m, cs, os, ds, [row], es⟩ db)
    {k : Nat} (hid : row.authorizationId = env.uuid4 k) (hk : db₀.drawn ≤ k)
    (hmission : row.missionId = m.id) (hscheme : row.approvalScheme = .policyAuto)
    (hpending : row.status = .pending) (hkey : row.signingKeyId = none)
    (hsignature : row.approvalSignature = none) (hprompt : env.utcnow db.drawn < row.expiresAt) :
    ∃ db', (SecurityKernel.activateAuthorization env row.authorizationId).run db = (.ok (), db') ∧
      Adds env db₀ ⟨m, cs, os, ds, [{ row with status := .active }],
        es ++ [activatedEntry { row with status := .active }]⟩ db' := by
  obtain ⟨db₁, hchanged, h₁, hactive⟩ := (h.skip (Nat.le_succ db.drawn)).tookActive hs hid hk
    (fun r => r.approvalScheme = .policyAuto ∧ r.status = .pending ∧
      env.utcnow db.drawn < r.expiresAt ∧ r.signingKeyId = none ∧ r.approvalSignature = none)
    (by simp [hscheme, hpending, hkey, hsignature, hprompt])
  obtain ⟨db', hrun, hdone, -⟩ := h₁.logged hs.distinct
    (activatedEntry { row with status := .active })
  refine ⟨db', ?_, hdone⟩
  have hreload : (SecurityKernel.reload row.authorizationId).run db₁ =
      (.ok (some { row with status := .active }), db₁) := by
    rw [← hactive]
    rfl
  unfold SecurityKernel.activateAuthorization
  rw [Tx.run_bind_of_ok (run_drawNow env db)]
  refine (Tx.run_bind_of_ok hchanged).trans ?_
  rw [if_neg (by simp), Tx.run_bind_of_ok hreload]
  dsimp only
  rw [hmission]
  exact hrun

end Authorization

-- ════════════════════════════════════════════════════════════════════════
-- The whole creation
-- ════════════════════════════════════════════════════════════════════════

/-- The policy decision on normalized offers. -/
def decisionOn (request : CreateMissionRequest) (offers : List ProvenancedOffer) : PolicyDecision :=
  PolicyEngine.evaluate request.constraints (PolicyEngine.rankOffers offers).head? request.quantity

/-- What a creation has added when policy has decided. -/
def decidedOn (request : CreateMissionRequest) (quotes : List AuthenticatedQuote)
    (missionId constraintsId decisionId : Uuid) (createdAt : Datetime)
    (offers : List ProvenancedOffer) : Additions :=
  { discovered request quotes missionId constraintsId offers with
    mission := ⟨missionId, request.rawQuery, request.quantity, .policyChecked⟩
    decisions := [decisionRow decisionId missionId (decisionOn request offers) createdAt]
    entries := (discovered request quotes missionId constraintsId offers).entries ++
      [⟨.policyDecision, "policy-engine", dumpDecision (decisionOn request offers)⟩] }

/-- The additions of a mission that policy denied. -/
def Additions.denied (a : Additions) (decision : PolicyDecision) : Additions :=
  { a with
    mission := { a.mission with state := .cancelled }
    entries := a.entries ++ [⟨.missionDenied, "policy-engine",
      [("reason_codes", .arr (decision.reasonCodes.map (fun r => .str r.value)))]⟩] }

/-- The scheme under which the authorization of a decision is issued. -/
def schemeOf (decision : PolicyDecision) : ApprovalScheme :=
  if decision.decision = .requireApproval then .userEd25519 else .policyAuto

/-- The additions of a mission with an authorization: it awaits approval, or is authorized at
once. -/
def Additions.authorized (a : Additions) (env : Env) (decision : PolicyDecision)
    (row : AuthorizationRow) : Additions :=
  if decision.decision = .requireApproval then
    { a with
      mission := { a.mission with state := .awaitingApproval }
      authorizations := [row]
      entries := a.entries ++ [createdEntry row] ++ [⟨.approvalRequested, actor,
        [("requested_amount", .ofOptInt decision.requestedAmount),
         ("authorization_id", .str row.authorizationId.str),
         ("approval_scheme", .str ApprovalScheme.userEd25519.value),
         ("signing_key_id", .str env.demoApproverSigningKeyId)]⟩] }
  else
    { a with
      mission := { a.mission with state := .authorized }
      authorizations := [{ row with status := .active }]
      entries := a.entries ++ [createdEntry row] ++ [activatedEntry { row with status := .active }] }

section Run

variable {env : Env} {db₀ db : Db} {m : Mission} {cs : List MissionConstraintsRow} {os : List Offer}
  {ds : List PolicyDecisionRow} {as : List AuthorizationRow} {es : List AuditEntry}

lemma Adds.insertedDecision (hinj : Function.Injective env.uuid4)
    (h : Adds env db₀ ⟨m, cs, os, ds, as, es⟩ db) (row : PolicyDecisionRow) {k : Nat}
    (hrow : row.id = env.uuid4 k) (hk : k < db.drawn)
    (hfree : ∀ d ∈ db.policyDecisions, d.id ≠ env.uuid4 k) :
    ∃ db', (insertRow PolicyDecisionRow.id Db.policyDecisions
        (fun db l => { db with policyDecisions := l }) row).run db = (.ok (), db') ∧
      Adds env db₀ ⟨m, cs, os, ds ++ [row], as, es⟩ db' ∧ db'.drawn = db.drawn := by
  refine ⟨_, run_insertRow (hrow ▸ hfree), ?_, rfl⟩
  refine ⟨h.fresh, h.missions, h.constraints, h.offers, by simp [h.decisions], h.authorizations,
    h.events, h.drawn, fun n hn => ?_⟩
  obtain ⟨h₁, h₂, h₃, h₄, h₅, h₆⟩ := h.unused n hn
  refine ⟨h₁, h₂, h₃, fun d hd => ?_, h₅, h₆⟩
  rcases List.mem_append.mp hd with hd | hd
  · exact h₄ d hd
  · rw [List.mem_singleton.mp hd, hrow]
    exact drawn_ne hinj (Nat.lt_of_lt_of_le hk hn)

/-- The authorization of a bound transaction is issued, and the mission moves on. -/
lemma Adds.authorizes (hs : Supplied env db₀) (h : Adds env db₀ ⟨m, cs, os, ds, [], es⟩ db)
    (hstate : m.state = .policyChecked) (decision : PolicyDecision) {t : BoundTransaction} {n : Nat}
    (hn : db₀.drawn ≤ n) (hdrawn : db.drawn = n + 2) (hnonce : t.nonce = env.tokenHex (n + 1))
    (hexpires : t.expiresAt = env.utcnow n + Datetime.seconds env.authorizationTtlSeconds) :
    ∃ db', (authorize env m.id decision t).run db = (.ok (), db') ∧
      Adds env db₀ (Additions.authorized ⟨m, cs, os, ds, [], es⟩ env decision
        (issuedRow (env.uuid4 (n + 3)) m.id t (schemeOf decision) (env.utcnow (n + 2)))) db' := by
  have hlegal : schemeOf decision ≠ .legacyServer := by
    unfold schemeOf
    split <;> simp
  obtain ⟨db₁, hissue, h₁, hn₁⟩ := h.issued hs hlegal
    (fun a ha => hnonce ▸ (hs.nonce (n + 1) (by omega)).2 a ha)
    (by rw [hexpires, hdrawn]; exact hs.prompt n 2 hn (by omega))
  rw [hdrawn] at hissue h₁
  generalize hrow : issuedRow (env.uuid4 (n + 2 + 1)) m.id t (schemeOf decision)
    (env.utcnow (n + 2)) = row at *
  unfold Additions.authorized
  by_cases hrequire : decision.decision = .requireApproval
  · obtain ⟨db₂, hrun, h₂, -⟩ := h₁.transition hs.distinct .awaitingApproval .approvalRequested actor
      [("requested_amount", .ofOptInt decision.requestedAmount),
       ("authorization_id", .str row.authorizationId.str),
       ("approval_scheme", .str ApprovalScheme.userEd25519.value),
       ("signing_key_id", .str env.demoApproverSigningKeyId)] (by rw [hstate]; rfl)
    refine ⟨db₂, (Tx.run_bind_of_ok hissue).trans ?_, ?_⟩
    · rw [if_pos hrequire]
      exact hrun
    · rw [if_pos hrequire]
      exact h₂
  · have hpolicy : schemeOf decision = .policyAuto := if_neg hrequire
    obtain ⟨db₂, hactivate, h₂⟩ := h₁.activated hs (k := n + 3) (hrow ▸ rfl) (by omega) (hrow ▸ rfl)
      (hrow ▸ hpolicy) (hrow ▸ rfl) (hrow ▸ rfl) (hrow ▸ rfl) (by
        rw [hn₁, hdrawn, show row.expiresAt = t.expiresAt from hrow ▸ rfl, hexpires]
        exact hs.prompt n 6 hn (le_refl 6))
    have hassert : (assertTransition m.state .authorized : DbTx Unit).run db₂ = (.ok (), db₂) :=
      assertTransition_ok.mpr ⟨by rw [hstate]; rfl, rfl⟩
    refine ⟨db₂.updateMission m.id (fun m => { m with state := .authorized }),
      (Tx.run_bind_of_ok hissue).trans ?_, ?_⟩
    · rw [if_neg hrequire, Tx.run_bind_of_ok hactivate, Tx.run_bind_of_ok (Tx.run_get _),
        h₂.getMission]
      dsimp only
      rw [Tx.run_bind_of_ok hassert, Tx.run_modify]
    · rw [if_neg hrequire]
      exact h₂.withState .authorized

end Run

/-- The ways in which a creation ends, and all that it added when it returned. -/
inductive Ends (env : Env) (request : CreateMissionRequest) (quotes : List AuthenticatedQuote)
    (db : Db) : Except Exc Uuid × Db → Prop where
  /-- A value could not be hashed, or ingress refused an offer. -/
  | refused {e : Exc} {db' : Db} (hrefusal : obstacle request quotes = some e) :
      Ends env request quotes db (.error e, db')
  /-- Policy denied the mission. -/
  | denied {n k l : Nat} {createdAt : Datetime} {db' : Db} (hpassed : obstacle request quotes = none)
      (hdeny : (decisionOn request (offersFrom env request quotes n)).decision = .deny)
      (hadds : Adds env db ((decidedOn request quotes (env.uuid4 db.drawn) (env.uuid4 k)
        (env.uuid4 l) createdAt (offersFrom env request quotes n)).denied
          (decisionOn request (offersFrom env request quotes n))) db') :
      Ends env request quotes db (.ok (env.uuid4 db.drawn), db')
  /-- The selected offer makes no valid transaction. -/
  | unbindable {n : Nat} {best : ProvenancedOffer} {expiresAt : Datetime} {nonce : String} {db' : Db}
      (hpassed : obstacle request quotes = none)
      (hbest : (PolicyEngine.rankOffers (offersFrom env request quotes n)).head? = some best)
      (hallow : (decisionOn request (offersFrom env request quotes n)).decision ≠ .deny)
      (hnonce : isLowerHex 64 nonce = true)
      (hmake : BoundTransaction.make env.upper
        (boundValues best request.quantity expiresAt nonce) = none) :
      Ends env request quotes db (.error (.validationError "BoundTransaction"), db')
  /-- The selected offer was bound and its authorization issued. -/
  | authorized {n k l : Nat} {createdAt expiresAt issuedAt : Datetime} {best : ProvenancedOffer}
      {nonce : String} {t : BoundTransaction} {authorizationId : Uuid} {db' : Db}
      (hpassed : obstacle request quotes = none)
      (hbest : (PolicyEngine.rankOffers (offersFrom env request quotes n)).head? = some best)
      (hallow : (decisionOn request (offersFrom env request quotes n)).decision ≠ .deny)
      (hnonce : isLowerHex 64 nonce = true)
      (hmake : BoundTransaction.make env.upper
        (boundValues best request.quantity expiresAt nonce) = some t)
      (hadds : Adds env db ((decidedOn request quotes (env.uuid4 db.drawn) (env.uuid4 k)
        (env.uuid4 l) createdAt (offersFrom env request quotes n)).authorized env
          (decisionOn request (offersFrom env request quotes n))
          (issuedRow authorizationId (env.uuid4 db.drawn) t
            (schemeOf (decisionOn request (offersFrom env request quotes n))) issuedAt)) db') :
      Ends env request quotes db (.ok (env.uuid4 db.drawn), db')

/-- Every creation that is supplied ends in one of these ways. -/
theorem run_ends {env : Env} {db : Db} (hs : Supplied env db) (request : CreateMissionRequest)
    (quotes : List AuthenticatedQuote) :
    Ends env request quotes db ((run env request quotes).run db) := by
  have hdiscover := discover_ends hs request quotes
  generalize hrun : (run env request quotes).run db = out
  unfold run at hrun
  cases hrefusal : obstacle request quotes with
  | some e =>
    rw [hrefusal] at hdiscover
    obtain ⟨db', hdb'⟩ := hdiscover
    rw [← hrun, Tx.run_bind_of_error hdb']
    exact .refused hrefusal
  | none =>
    rw [hrefusal] at hdiscover
    obtain ⟨k, n, db₁, hn, hfound, h₁⟩ := hdiscover
    replace hrun := Tx.rest_of_ok hfound hrun
    dsimp only at hrun
    obtain ⟨db₂, hdraw, h₂, hn₂, hfree⟩ := h₁.drewUuid
    replace hrun := Tx.rest_of_ok hdraw hrun
    replace hrun := Tx.rest_of_ok (run_drawNow env db₂) hrun
    obtain ⟨db₃, hinsert, h₃, hn₃⟩ := (h₂.skip (Nat.le_succ _)).insertedDecision hs.distinct
      (decisionRow (env.uuid4 db₁.drawn) (env.uuid4 db.drawn)
        (decisionOn request (offersFrom env request quotes n)) (env.utcnow db₂.drawn)) rfl
      (by show db₁.drawn < db₂.drawn + 1; omega) hfree.decisions
    replace hrun := Tx.rest_of_ok hinsert hrun
    obtain ⟨db₄, hchecked, h₄, hn₄⟩ := h₃.transition hs.distinct .policyChecked .policyDecision
      "policy-engine" (dumpDecision (decisionOn request (offersFrom env request quotes n))) rfl
    replace hrun := Tx.rest_of_ok hchecked hrun
    by_cases hdeny : (decisionOn request (offersFrom env request quotes n)).decision = .deny
    · change (if (decisionOn request (offersFrom env request quotes n)).decision = .deny then _
        else _ : DbTx Uuid).run db₄ = out at hrun
      rw [if_pos hdeny] at hrun
      obtain ⟨db₅, hdenied, h₅, -⟩ := h₄.transition hs.distinct .cancelled .missionDenied
        "policy-engine" [("reason_codes", .arr
          ((decisionOn request (offersFrom env request quotes n)).reasonCodes.map
            (fun r => .str r.value)))] rfl
      replace hrun := Tx.rest_of_ok hdenied hrun
      rw [← hrun]
      exact .denied hrefusal hdeny h₅
    · change (if (decisionOn request (offersFrom env request quotes n)).decision = .deny then _
        else _ : DbTx Uuid).run db₄ = out at hrun
      rw [if_neg hdeny] at hrun
      cases hbest : (PolicyEngine.rankOffers (offersFrom env request quotes n)).head? with
      | none =>
        exact absurd (by rw [decisionOn, hbest]; rfl) hdeny
      | some best =>
        have hdecision : decisionOn request (offersFrom env request quotes n) =
            PolicyEngine.evaluate request.constraints (some best) request.quantity := by
          rw [decisionOn, hbest]
        rw [hbest] at hrun
        have hbind := h₄.run_bindSelected hs rfl hn (List.mem_of_mem_head? hbest) (hdecision ▸ hdeny)
        have hnonce := (hs.nonce (db₄.drawn + 1) (h₄.drawn.trans (Nat.le_succ _))).1
        cases hmake : BoundTransaction.make env.upper (boundValues best request.quantity
            (env.utcnow db₄.drawn + Datetime.seconds env.authorizationTtlSeconds)
            (env.tokenHex (db₄.drawn + 1))) with
        | none =>
          rw [hmake] at hbind
          replace hrun := (Tx.run_bind_of_error hbind).symm.trans hrun
          rw [← hrun]
          exact .unbindable hrefusal hbest hdeny hnonce hmake
        | some t =>
          rw [hmake] at hbind
          replace hrun := Tx.rest_of_ok hbind hrun
          obtain ⟨-, -, -, -, -, -, -, hexpires, hsame⟩ := BoundTransaction.make_eq_some hmake
          obtain ⟨db₅, hauthorize, h₅⟩ := (h₄.skip (Nat.le_add_right _ 2)).authorizes hs rfl
            (decisionOn request (offersFrom env request quotes n)) h₄.drawn rfl hsame hexpires
          rw [hdecision] at hauthorize
          replace hrun := Tx.rest_of_ok hauthorize hrun
          rw [← hrun]
          exact .authorized hrefusal hbest hdeny hnonce hmake h₅

end AgentOrchestrator

end Pactra
