import Mathlib.Algebra.GroupWithZero.Nat
import Pactra.AgentOrchestrator.StateMachine
import Pactra.SecurityKernel.Authorization
import Pactra.SecurityKernel.Binding
import Pactra.SecurityKernel.PolicyRegister

/-!
# Mission orchestrator

`services/agent_orchestrator/orchestrator.py`: one mission driven through discovery,
normalization, ranking and policy, ending denied, awaiting approval, or authorized. The quotes are
what the merchant transport collected: each response together with the authenticated context it
arrived in.
-/

namespace Pactra

namespace AgentOrchestrator

/-- `ACTOR`. -/
def actor : String := "orchestrator"

/-- Insert a row, refusing a taken primary key. -/
def insertRow {ρ : Type} (key : ρ → Uuid) (rows : Db → List ρ) (put : Db → List ρ → Db)
    (row : ρ) : DbTx Unit := fun db =>
  if (Table.find key (key row) (rows db)).isSome then (.error .integrityError, db)
  else (.ok (), put db (rows db ++ [row]))

/-- `Orchestrator._transition`. -/
def transition (env : Env) (missionId : Uuid) (target : MissionState) (eventType : EventType)
    (actor : String) (payload : Dict) : DbTx Unit := do
  let db ← Tx.get
  match db.getMission missionId with
  | none => Tx.raise (.other "ObjectDeletedError" "")
  | some mission => do
    assertTransition mission.state target
    Tx.modify fun db => db.updateMission missionId (fun m => { m with state := target })
    appendEvent env missionId ⟨eventType, actor, payload⟩

/-- `constraints.model_dump(mode="json")`. -/
def dumpConstraints (c : MissionConstraints) : PyJson :=
  .obj
    [("category", .str c.category), ("soft_budget_inr", .int c.softBudgetInr),
     ("hard_limit_inr", .int c.hardLimitInr), ("min_rating", .float c.minRating),
     ("currency", .str c.currency),
     ("allowed_merchants", match c.allowedMerchants with
       | none => .null
       | some l => .arr (l.map .str)),
     ("blocked_merchants", .arr (c.blockedMerchants.map .str)),
     ("min_merchant_trust", .float c.minMerchantTrust)]

lemma dumpConstraints_obj {c : MissionConstraints} {v : Json}
    (h : encodePayload (dumpConstraints c) = .ok v) : ∃ fields, v = .obj fields := by
  have hobj := (encodePayload_ok.mp h).2
  cases v with
  | obj fields => exact ⟨fields, rfl⟩
  | _ => cases hobj

/-- `decision.model_dump(mode="json")`. -/
def dumpDecision (d : PolicyDecision) : Dict :=
  [("decision", .str d.decision.value), ("policy_version", .str d.policyVersion),
   ("reason_codes", .arr (d.reasonCodes.map (fun r => .str r.value))),
   ("requested_amount", .ofOptInt d.requestedAmount), ("soft_budget", .int d.softBudget),
   ("hard_limit", .int d.hardLimit),
   ("selected_offer_id", .ofOptStr (d.selectedOfferId.map Uuid.str))]

/-- What a merchant claims in an offer: a value for a field. -/
structure MerchantClaim where
  context : MerchantContext
  raw : RawMerchantOffer
  field : PyStr
  attempted : PyJson

/-- The claims merchants made, in the order in which they are adjudicated. -/
def merchantClaims (quotes : List AuthenticatedQuote) : List MerchantClaim :=
  quotes.flatMap fun q => q.offers.flatMap fun raw =>
    raw.claims.map (fun c => ⟨q.context, raw, c.1, c.2⟩)

/-- One merchant claim: on a protected field it is put to the register, and an escalation is
recorded. -/
def adjudicate (env : Env) (missionId : Uuid) (register : SecurityKernel.ProtectedPolicyRegister)
    (claim : MerchantClaim) : DbTx SecurityKernel.ProtectedPolicyRegister :=
  match claim.field.unicode with
  -- no protected field has a name with a surrogate
  | none => pure register
  | some field =>
    if !register.isProtected field then pure register
    else do
      let incoming := untrusted claim.attempted ("merchant:" ++ claim.context.merchantId)
      match ← register.apply field incoming with
      | .ok updated => pure updated
      | .error escalation => do
        let attempted ← encoded env claim.attempted
        appendEvent env missionId
          { eventType := .securityViolation
            actor := SecurityKernel.actor
            payload :=
              [("reason_code", .str ReasonCode.authorityEscalation.value),
               ("field", .str escalation.field), ("attempted_value", attempted),
               ("source_authority", .str escalation.source.name),
               ("target_authority", .str escalation.target.name),
               ("merchant_id", .str claim.context.merchantId),
               ("claimed_merchant_id", .str claim.raw.merchantId)] }
        pure register

/-- The adjudication of several claims, in order. -/
def adjudicateAll (env : Env) (missionId : Uuid) :
    SecurityKernel.ProtectedPolicyRegister → List MerchantClaim →
    DbTx SecurityKernel.ProtectedPolicyRegister
  | register, [] => pure register
  | register, claim :: claims => do
    let register' ← adjudicate env missionId register claim
    adjudicateAll env missionId register' claims

/-- The protected values are what they were. -/
def requireProtectedUnchanged (register : SecurityKernel.ProtectedPolicyRegister) :
    SecurityKernel.ProtectedPolicyRegister → DbTx Unit
  | [] => pure ()
  | (field, original) :: protected' => do
    let current ← register.get field
    require (current.value.pyEq original.value) "policy.protected_value_immutable"
      ("protected policy field '" ++ field ++ "' was mutated by a lower authority")
    requireProtectedUnchanged register protected'

/-- Runtime authority enforcement: every merchant claim is adjudicated, and the protected values are
checked to be unchanged. -/
def enforceAuthority (env : Env) (missionId : Uuid) (c : MissionConstraints)
    (quotes : List AuthenticatedQuote) : DbTx SecurityKernel.ProtectedPolicyRegister := do
  let protected' := SecurityKernel.protectedPolicyValues c
  let register ← adjudicateAll env missionId protected' (merchantClaims quotes)
  requireProtectedUnchanged register protected'
  pure register

/-- The persisted projection of a normalized offer. -/
def offerRow (missionId : Uuid) (o : ProvenancedOffer) : Offer :=
  { id := o.offerId, missionId := missionId, offerVersion := o.offerVersion,
    merchantId := o.merchantId, merchantName := o.merchantName, merchantTrust := o.merchantTrust,
    productId := o.productId, title := o.title, amountInr := o.amountInr, currency := o.currency,
    rating := o.rating, inStock := o.inStock, offeredAt := o.offeredAt, valid := o.valid,
    rejectionReasons := o.rejectionReasons, rank := none,
    claimedMerchantId := o.claimedMerchantId }

/-- Persist the normalized offers. -/
def insertOffers (missionId : Uuid) : List ProvenancedOffer → DbTx Unit
  | [] => pure ()
  | o :: os => do
    insertRow Offer.id Db.offers (fun db l => { db with offers := l }) (offerRow missionId o)
    insertOffers missionId os

/-- The audit entry of one offer whose payload claimed another merchant's identity. -/
def spoofEntry (o : ProvenancedOffer) : AuditEntry :=
  { eventType := .securityViolation
    actor := SecurityKernel.actor
    payload :=
      [("reason_code", .str ReasonCode.merchantIdentityMismatch.value),
       ("authenticated_merchant_id", .str o.merchantId),
       ("claimed_merchant_id", .str o.claimedMerchantId),
       ("offer_id", .str o.offerId.str), ("rejected", .bool true)] }

/-- Persist the ranks. -/
def storeRanks (ranked : List ProvenancedOffer) (db : Db) : Db :=
  { db with
    offers := db.offers.map fun row =>
      match ranked.find? (fun o => decide (o.offerId = row.id)) with
      | some o => { row with rank := o.rank }
      | none => row }

/-- The row of a policy decision. -/
def decisionRow (id missionId : Uuid) (d : PolicyDecision) (createdAt : Datetime) :
    PolicyDecisionRow :=
  { id := id, missionId := missionId, decision := d.decision, policyVersion := d.policyVersion,
    reasonCodes := d.reasonCodes, requestedAmount := d.requestedAmount,
    softBudget := d.softBudget, hardLimit := d.hardLimit, selectedOfferId := d.selectedOfferId,
    createdAt := createdAt }

/-- From the request to ranked offers: everything `Orchestrator.run` does before policy. -/
def discover (env : Env) (request : CreateMissionRequest) (quotes : List AuthenticatedQuote) :
    DbTx (Uuid × List ProvenancedOffer) := do
  let c := request.constraints
  let missionId ← drawUuid env
  insertRow Mission.id Db.missions (fun db l => { db with missions := l })
    { id := missionId, rawQuery := request.rawQuery, quantity := request.quantity,
      state := .created }
  appendEvent env missionId ⟨.missionCreated, actor,
    [("raw_query", .ofOptStr request.rawQuery), ("quantity", .int request.quantity)]⟩
  let constraintsId ← drawUuid env
  insertRow MissionConstraintsRow.id Db.missionConstraints
    (fun db l => { db with missionConstraints := l })
    { id := constraintsId, missionId := missionId, category := c.category,
      softBudgetInr := c.softBudgetInr, hardLimitInr := c.hardLimitInr, minRating := c.minRating,
      currency := c.currency, allowedMerchants := c.allowedMerchants,
      blockedMerchants := c.blockedMerchants, minMerchantTrust := c.minMerchantTrust }
  let constraints ← encoded env (dumpConstraints c)
  transition env missionId .intentParsed .intentParsed actor [("constraints", constraints)]
  transition env missionId .discovering .discoveryStarted actor
    [("merchants", .arr (quotes.map fun q => .obj
      [("merchant_id", .str q.context.merchantId), ("auth_method", .str "in_process_adapter"),
       ("known", .bool q.context.known)]))]
  transition env missionId .offersReceived .offersReceived actor
    [("raw_offer_count", .int (contextualCount quotes))]
  let _ ← enforceAuthority env missionId c quotes
  let normalized ← PolicyEngine.normalizeOffers env c (PolicyEngine.contextualOffers quotes)
  insertOffers missionId normalized
  appendEvents env missionId
    ((normalized.filter ProvenancedOffer.identityMismatch).map spoofEntry)
  require (normalized.all (fun o => !o.identityMismatch || !o.valid))
    "offer.identity_mismatch_rejected" "an offer spoofed an identity but was not rejected"
  transition env missionId .offersNormalized .offersNormalized actor
    [("valid", .int (normalized.countP ProvenancedOffer.valid)),
     ("invalid", .int (normalized.countP (fun o => !o.valid))),
     ("tainted_merchant_fields", .arr
       (if normalized.isEmpty then [] else PolicyEngine.merchantFields.map .str))]
  let ranked := PolicyEngine.rankOffers normalized
  Tx.modify (storeRanks ranked)
  transition env missionId .ranked .offersRanked actor
    [("ranked", .arr (ranked.map fun o => .obj
      [("offer_id", .str o.offerId.str), ("rank", .ofOptInt (o.rank.map Int.ofNat)),
       ("amount_inr", .int o.amountInr)]))]
  pure (missionId, ranked)
where
  /-- `raw_offer_count`. -/
  contextualCount (quotes : List AuthenticatedQuote) : Int :=
    ((quotes.map (fun q => q.offers.length)).sum : Nat)

/-- Bind the decision to an exact transaction; a refusal is recorded before it is raised. -/
def bindSelected (env : Env) (missionId : Uuid) (best : ProvenancedOffer)
    (decision : PolicyDecision) (quantity : Int) : DbTx BoundTransaction := do
  let now ← drawNow env
  let nonce ← drawToken env
  tryCatch
    (SecurityKernel.buildBoundTransactionFromSelectedOffer env missionId best.offerId
      best.offerVersion decision quantity nonce
      (now + Datetime.seconds env.authorizationTtlSeconds))
    fun exc =>
      match exc with
      | .bindRefusedOfferChanged _ offerId _ invariantId => do
        appendEvent env missionId ⟨.securityViolation, SecurityKernel.actor,
          [("reason_code", .str ReasonCode.bindRefusedOfferChanged.value),
           ("invariant_id", .str invariantId), ("offer_id", .str offerId.str),
           ("bind_refused", .bool true)]⟩
        Tx.raise exc
      | exc => Tx.raise exc

/-- Issue the authorization of an authorizable decision and move the mission on. -/
def authorize (env : Env) (missionId : Uuid) (decision : PolicyDecision)
    (transaction : BoundTransaction) : DbTx Unit := do
  let authorization ← SecurityKernel.issueAuthorization env missionId transaction
    (if decision.decision = .requireApproval then .userEd25519 else .policyAuto)
  if decision.decision = .requireApproval then
    transition env missionId .awaitingApproval .approvalRequested actor
      [("requested_amount", .ofOptInt decision.requestedAmount),
       ("authorization_id", .str authorization.authorizationId.str),
       ("approval_scheme", .str ApprovalScheme.userEd25519.value),
       ("signing_key_id", .str env.demoApproverSigningKeyId)]
  else do
    SecurityKernel.activateAuthorization env authorization.authorizationId
    let db ← Tx.get
    match db.getMission missionId with
    | none => Tx.raise (.other "ObjectDeletedError" "")
    | some mission => do
      assertTransition mission.state .authorized
      Tx.modify fun db => db.updateMission missionId (fun m => { m with state := .authorized })

/-- `Orchestrator.run`. -/
def run (env : Env) (request : CreateMissionRequest) (quotes : List AuthenticatedQuote) :
    DbTx Uuid := do
  let (missionId, ranked) ← discover env request quotes
  let decision := PolicyEngine.evaluate request.constraints ranked.head? request.quantity
  let decisionId ← drawUuid env
  let createdAt ← drawNow env
  insertRow PolicyDecisionRow.id Db.policyDecisions (fun db l => { db with policyDecisions := l })
    (decisionRow decisionId missionId decision createdAt)
  transition env missionId .policyChecked .policyDecision "policy-engine" (dumpDecision decision)
  if decision.decision = .deny then do
    transition env missionId .cancelled .missionDenied "policy-engine"
      [("reason_codes", .arr (decision.reasonCodes.map (fun r => .str r.value)))]
    pure missionId
  else
    match ranked.head? with
    | none =>
      Tx.raise (.invariantViolation "authorization.authorizable_decision_has_offer"
        (decision.decision.value ++ " decision produced no offer to bind"))
    | some best => do
      let transaction ← bindSelected env missionId best decision request.quantity
      authorize env missionId decision transaction
      pure missionId

-- ════════════════════════════════════════════════════════════════════════
-- Merchant claims are refused
-- ════════════════════════════════════════════════════════════════════════

/-- `PROTECTED_POLICY_FIELDS`, each held at user-policy authority. -/
def protectedPolicyFields : List String :=
  ["soft_budget_inr", "hard_limit_inr", "currency", "min_rating", "allowed_merchants",
   "blocked_merchants", "min_merchant_trust"]

/-- The name of the protected policy field that a claim is about, if it is about one. -/
def MerchantClaim.protectedField (claim : MerchantClaim) : Option String :=
  claim.field.unicode.filter (fun field => field ∈ protectedPolicyFields)

/-- The claims merchants made on protected policy fields, in order: each with its field. -/
def protectedClaims (claims : List MerchantClaim) : List (MerchantClaim × String) :=
  claims.filterMap fun claim => claim.protectedField.map fun field => (claim, field)

/-- The audit entry of one refused claim, of the value that was hashed. Merchant data never outranks
user policy, so `register.apply` refuses every claim on a protected field. -/
def escalationEntry (claim : MerchantClaim) (field : String) (attempted : Json) : AuditEntry :=
  { eventType := .securityViolation
    actor := SecurityKernel.actor
    payload :=
      [("reason_code", .str ReasonCode.authorityEscalation.value),
       ("field", .str field), ("attempted_value", attempted),
       ("source_authority", .str "MERCHANT_DATA"), ("target_authority", .str "USER_POLICY"),
       ("merchant_id", .str claim.context.merchantId),
       ("claimed_merchant_id", .str claim.raw.merchantId)] }

/-- The recording of refused claims, in order. -/
def recordAll (env : Env) (missionId : Uuid) : List (MerchantClaim × String) → DbTx Unit
  | [] => pure ()
  | (claim, field) :: rest => do
    let attempted ← encoded env claim.attempted
    appendEvent env missionId (escalationEntry claim field attempted)
    recordAll env missionId rest

/-- The entries of refused claims, of those whose values can be hashed. -/
def escalationEntries (claims : List (MerchantClaim × String)) : List AuditEntry :=
  claims.filterMap fun claim =>
    (encodePayload claim.1.attempted).toOption.map (escalationEntry claim.1 claim.2)

lemma mem_escalationEntries {claims : List (MerchantClaim × String)} {entry : AuditEntry}
    (h : entry ∈ escalationEntries claims) :
    ∃ claim field attempted, entry = escalationEntry claim field attempted := by
  obtain ⟨⟨claim, field⟩, -, hentry⟩ := List.mem_filterMap.mp h
  obtain ⟨attempted, -, rfl⟩ := Option.map_eq_some_iff.mp hentry
  exact ⟨claim, field, attempted, rfl⟩

/-- Refused claims that could be recorded were appended one by one. -/
lemma recordAll_ok {env : Env} {missionId : Uuid} {claims : List (MerchantClaim × String)}
    {db db' : Db} (h : (recordAll env missionId claims).run db = (.ok (), db')) :
    (appendEvents env missionId (escalationEntries claims)).run db = (.ok (), db') := by
  induction claims generalizing db with
  | nil => exact h
  | cons p claims ih =>
    obtain ⟨claim, field⟩ := p
    cases hencode : encodePayload claim.attempted with
    | error exc =>
      rw [recordAll, Tx.run_bind_of_error (run_encoded_error hencode db)] at h
      cases h
    | ok attempted =>
      rw [recordAll, Tx.run_bind_of_ok (run_encoded_ok hencode db)] at h
      obtain ⟨⟨⟩, db₁, hone, hrest⟩ := Tx.bind_ok.mp h
      have hentries : escalationEntries ((claim, field) :: claims) =
          escalationEntry claim field attempted :: escalationEntries claims := by
        simp [escalationEntries, hencode, Except.toOption]
      rw [hentries, appendEvents, Tx.run_bind_of_ok hone]
      exact ih hrest

lemma isProtected_protectedPolicyValues (c : MissionConstraints) (field : String) :
    (SecurityKernel.protectedPolicyValues c).isProtected field =
      decide (field ∈ protectedPolicyFields) := by
  rw [Bool.eq_iff_iff, decide_eq_true_iff, SecurityKernel.ProtectedPolicyRegister.isProtected,
    List.lookup_isSome_iff]
  simp [SecurityKernel.protectedPolicyValues, protectedPolicyFields]

lemma protectedClaims_cons (claim : MerchantClaim) (claims : List MerchantClaim) :
    protectedClaims (claim :: claims) =
      (claim.protectedField.map fun field => (claim, field)).toList ++ protectedClaims claims := by
  unfold protectedClaims
  rw [List.filterMap_cons]
  cases claim.protectedField <;> rfl

/-- One claim changes no protected value: it is passed over, or recorded as an escalation. -/
lemma run_adjudicate (env : Env) (missionId : Uuid) (c : MissionConstraints)
    (claim : MerchantClaim) (db : Db) :
    (adjudicate env missionId (SecurityKernel.protectedPolicyValues c) claim).run db =
      (do
        recordAll env missionId (claim.protectedField.map fun field => (claim, field)).toList
        pure (SecurityKernel.protectedPolicyValues c) : DbTx _).run db := by
  unfold adjudicate MerchantClaim.protectedField
  cases claim.field.unicode with
  | none => rfl
  | some field =>
    dsimp only
    rw [isProtected_protectedPolicyValues]
    by_cases hfield : field ∈ protectedPolicyFields
    · have hrefused := SecurityKernel.apply_untrusted (s := db)
        (SecurityKernel.userPolicy_protectedPolicyValues c)
        ((isProtected_protectedPolicyValues c _).trans (decide_eq_true hfield)) claim.attempted
        ("merchant:" ++ claim.context.merchantId)
      simp only [hfield, decide_true, Bool.not_true, Bool.false_eq_true, if_false, Option.filter_some,
        if_true, Option.map_some, Option.toList_some, recordAll]
      rw [Tx.run_bind_of_ok hrefused]
      change (do
          let attempted ← encoded env claim.attempted
          appendEvent env missionId (escalationEntry claim field attempted)
          pure (SecurityKernel.protectedPolicyValues c) : DbTx _).run db = _
      simp only [Tx.run_bind]
      rcases (encoded env claim.attempted).run db with ⟨_ | attempted, db₁⟩
      · rfl
      · dsimp only
        rcases (appendEvent env missionId (escalationEntry claim field attempted)).run db₁ with
          ⟨_ | _, db₂⟩ <;> rfl
    · simp [hfield, recordAll, Option.filter_some, Tx.run_bind]

lemma run_recordAll_append (env : Env) (missionId : Uuid) (l l' : List (MerchantClaim × String))
    (db : Db) :
    (recordAll env missionId (l ++ l')).run db =
      (do
        recordAll env missionId l
        recordAll env missionId l' : DbTx Unit).run db := by
  induction l generalizing db with
  | nil => rfl
  | cons p l ih =>
    obtain ⟨claim, field⟩ := p
    simp only [List.cons_append, recordAll, Tx.run_bind]
    rcases (encoded env claim.attempted).run db with ⟨_ | attempted, db₁⟩
    · rfl
    · dsimp only
      rcases (appendEvent env missionId (escalationEntry claim field attempted)).run db₁ with
        ⟨_ | _, db₂⟩
      · rfl
      · exact (ih db₂).trans (Tx.run_bind _ _ _)

lemma run_adjudicateAll (env : Env) (missionId : Uuid) (c : MissionConstraints)
    (claims : List MerchantClaim) (db : Db) :
    (adjudicateAll env missionId (SecurityKernel.protectedPolicyValues c) claims).run db =
      (do
        recordAll env missionId (protectedClaims claims)
        pure (SecurityKernel.protectedPolicyValues c) : DbTx _).run db := by
  induction claims generalizing db with
  | nil => rfl
  | cons claim claims ih =>
    rw [protectedClaims_cons, adjudicateAll, Tx.run_bind, run_adjudicate, Tx.run_bind, Tx.run_bind,
      run_recordAll_append, Tx.run_bind]
    rcases (recordAll env missionId _).run db with ⟨_ | _, db₁⟩
    · rfl
    · exact ih db₁

lemma run_requireProtectedUnchanged {register rest : SecurityKernel.ProtectedPolicyRegister}
    (h : ∀ entry ∈ rest, register.lookup entry.1 = some entry.2 ∧
      entry.2.value.pyEq entry.2.value = true) (db : Db) :
    (requireProtectedUnchanged register rest).run db = (.ok (), db) := by
  induction rest with
  | nil => rfl
  | cons entry rest ih =>
    obtain ⟨hheld, hsame⟩ := h entry (by simp)
    have hget : (register.get entry.1 : DbTx _).run db = (.ok entry.2, db) := by
      unfold SecurityKernel.ProtectedPolicyRegister.get
      rw [hheld]
      rfl
    rw [requireProtectedUnchanged, Tx.run_bind_of_ok hget, hsame]
    exact ih fun entry' h' => h entry' (by simp [h'])

lemma protectedPolicyValues_held (c : MissionConstraints) :
    ∀ entry ∈ SecurityKernel.protectedPolicyValues c,
      (SecurityKernel.protectedPolicyValues c).lookup entry.1 = some entry.2 ∧
        entry.2.value.pyEq entry.2.value = true := by
  intro entry hentry
  refine ⟨?_, ?_⟩
  · refine List.lookup_eq_some_iff.mpr ?_
    obtain ⟨before, after, hsplit⟩ := List.append_of_mem hentry
    refine ⟨before, after, hsplit, fun p hp => ?_⟩
    have hnodup : ((SecurityKernel.protectedPolicyValues c).map Prod.fst).Nodup :=
      show protectedPolicyFields.Nodup by decide
    rw [hsplit, List.map_append, List.map_cons, List.nodup_append] at hnodup
    simpa using (hnodup.2.2 p.1 (List.mem_map_of_mem hp) entry.1 (by simp)).symm
  · cases hallowed : c.allowedMerchants <;>
      simp only [SecurityKernel.protectedPolicyValues, hallowed, List.map_cons, List.map_nil,
        List.mem_cons, List.not_mem_nil, or_false] at hentry <;>
      rcases hentry with rfl | rfl | rfl | rfl | rfl | rfl | rfl <;>
      simp [SecurityKernel.ingestUserPolicyValue, authoritative]

/-- Enforcement records every claim on a protected field and leaves every protected value as the
request has it. -/
theorem run_enforceAuthority (env : Env) (missionId : Uuid) (c : MissionConstraints)
    (quotes : List AuthenticatedQuote) (db : Db) :
    (enforceAuthority env missionId c quotes).run db =
      (do
        recordAll env missionId (protectedClaims (merchantClaims quotes))
        pure (SecurityKernel.protectedPolicyValues c) : DbTx _).run db := by
  unfold enforceAuthority
  rw [Tx.run_bind, run_adjudicateAll, Tx.run_bind]
  rcases (recordAll env missionId _).run db with ⟨_ | _, db₁⟩
  · rfl
  · exact Tx.run_bind_of_ok (run_requireProtectedUnchanged
    (protectedPolicyValues_held c) db₁)

end AgentOrchestrator

end Pactra
