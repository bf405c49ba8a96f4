import Pactra.AgentOrchestrator.Abort

/-!
# Merchant text and claims do not interfere

Two creations on the same request whose quotes agree in everything but titles, descriptions and
claims end alike: they store the same offers, decision and authorization but for what was generated,
and they record the same events once the refused claims are left out. The exception is a claim on a
protected policy field whose value cannot be hashed for the event that records its refusal.

## Main results

- `redacted_decided`, `redacted_authorized` — the events of both runs
- `free_text_does_not_interfere_iff` — when the two runs end alike
-/

namespace Pactra

namespace AgentOrchestrator

-- ════════════════════════════════════════════════════════════════════════
-- What is compared
-- ════════════════════════════════════════════════════════════════════════

/-- The keys under which the events of a creation carry generated texts: identifiers, the digest of
the bound transaction and its expiry. -/
def generatedKeys : List String :=
  ["offer_id", "selected_offer_id", "authorization_id", "transaction_digest_prefix", "expires_at"]

/-- A text without what it says. -/
def blank : Json → Json
  | .str _ => .str ""
  | v => v

mutual

/-- A payload with its generated texts blanked. -/
def redact : Json → Json
  | .arr items => .arr (redactItems items)
  | .obj fields => .obj (redactFields fields)
  | v => v

/-- The items of an array, redacted. -/
def redactItems : List Json → List Json
  | [] => []
  | v :: vs => redact v :: redactItems vs

/-- The entries of an object, redacted. -/
def redactFields : List (String × Json) → List (String × Json)
  | [] => []
  | (k, v) :: fields => (k, if k ∈ generatedKeys then blank v else redact v) :: redactFields fields

end

/-- Whether an event records a refused claim on user policy. -/
def recordsEscalation (eventType : String) (payload : Json) : Bool :=
  eventType == EventType.securityViolation.value &&
    match payload with
    | .obj fields =>
      match Dict.get fields "reason_code" with
      | some (.str code) => code == ReasonCode.authorityEscalation.value
      | _ => false
    | _ => false

/-- What remains of a mission's events without the refused claims and without what was generated. -/
def remaining (rows : List AuditEventRow) : List (String × String × Json) :=
  (rows.filter (fun row => !recordsEscalation row.eventType row.payload)).map
    fun row => (row.eventType, row.actor, redact row.payload)

/-- Two identifiers are those of the rows at one position. -/
def SamePosition (rows rows' : List Offer) (a b : Uuid) : Prop :=
  ∃ i : Nat, (rows.map Offer.id)[i]? = some a ∧ (rows'.map Offer.id)[i]? = some b

/-- Two creations added the same to their databases, but for identifiers, titles, times, nonces and
digests. -/
structure Alike (request : CreateMissionRequest) (id id' : Uuid) (db₀ db db₀' db' : Db) : Prop where
  missions : ∃ m m', db.missions = db₀.missions ++ [m] ∧ db'.missions = db₀'.missions ++ [m'] ∧
    m.id = id ∧ m' = { m with id := id' }
  constraints : ∃ k k',
    db.missionConstraints = db₀.missionConstraints ++ [constraintsRow k id request.constraints] ∧
    db'.missionConstraints = db₀'.missionConstraints ++ [constraintsRow k' id' request.constraints]
  selection : ∃ rows rows' d d',
    db.offers = db₀.offers ++ rows ∧ db'.offers = db₀'.offers ++ rows' ∧
    List.Forall₂ (fun o o' => o.missionId = id ∧
      ∃ k title, o' = { o with id := k, missionId := id', title := title }) rows rows' ∧
    db.policyDecisions = db₀.policyDecisions ++ [d] ∧
    db'.policyDecisions = db₀'.policyDecisions ++ [d'] ∧ d.missionId = id ∧
    (∃ k selected createdAt, d' = { d with
      id := k, missionId := id', selectedOfferId := selected, createdAt := createdAt }) ∧
    Option.Rel (SamePosition rows rows') d.selectedOfferId d'.selectedOfferId
  authorizations : ∃ rows rows', db.authorizations = db₀.authorizations ++ rows ∧
    db'.authorizations = db₀'.authorizations ++ rows' ∧
    List.Forall₂ (fun a a' => a.missionId = id ∧
      ∃ k digest nonce issuedAt expiresAt, a' = { a with
        authorizationId := k, missionId := id', transactionDigest := digest, nonce := nonce,
        issuedAt := issuedAt, expiresAt := expiresAt }) rows rows'
  events : ∃ rows rows', db.auditEvents = db₀.auditEvents ++ rows ∧
    db'.auditEvents = db₀'.auditEvents ++ rows' ∧ (∀ row ∈ rows, row.missionId = id) ∧
    (∀ row ∈ rows', row.missionId = id') ∧ remaining rows = remaining rows'

-- ════════════════════════════════════════════════════════════════════════
-- Events
-- ════════════════════════════════════════════════════════════════════════

lemma redactItems_eq_map (items : List Json) : redactItems items = items.map redact := by
  induction items with
  | nil => rfl
  | cons v vs ih => rw [redactItems, ih, List.map_cons]

/-- What remains of the entries of a mission's events. -/
def remainingEntries (entries : List AuditEntry) : List (String × String × Json) :=
  (entries.filter (fun e => !recordsEscalation e.eventType.value (.obj e.payload))).map
    fun e => (e.eventType.value, e.actor, redact (.obj e.payload))

lemma remaining_of_logs {id : Uuid} {rows : List AuditEventRow} {entries : List AuditEntry}
    (h : List.Forall₂ (Logs id) rows entries) : remaining rows = remainingEntries entries := by
  refine Related.map_eq (fun row e hrow => ?_) (Related.filter (fun row e hrow => ?_) h)
  · rw [hrow.eventType, hrow.actor, hrow.payload]
  · rw [hrow.eventType, hrow.payload]

lemma missionId_of_logs {id : Uuid} {rows : List AuditEventRow} {entries : List AuditEntry}
    (h : List.Forall₂ (Logs id) rows entries) : ∀ row ∈ rows, row.missionId = id := by
  induction h with
  | nil => simp
  | cons hrow _ ih =>
    intro row hmem
    rcases List.mem_cons.mp hmem with rfl | hmem
    · exact hrow.missionId
    · exact ih row hmem

lemma remainingEntries_append (entries entries' : List AuditEntry) :
    remainingEntries (entries ++ entries') =
      remainingEntries entries ++ remainingEntries entries' := by
  rw [remainingEntries, List.filter_append, List.map_append]
  rfl

/-- An event that is no security violation remains, redacted. -/
lemma remainingEntries_cons {e : AuditEntry} (entries : List AuditEntry)
    (h : e.eventType ≠ .securityViolation) :
    remainingEntries (e :: entries) =
      (e.eventType.value, e.actor, redact (.obj e.payload)) :: remainingEntries entries := by
  have hvalue : (e.eventType.value == EventType.securityViolation.value) = false := by
    cases htype : e.eventType <;> first | exact absurd htype h | rfl
  simp [remainingEntries, recordsEscalation, hvalue]

/-- Nothing remains of the refused claims. -/
lemma remainingEntries_escalations (claims : List (MerchantClaim × String)) :
    remainingEntries (escalationEntries claims) = [] := by
  unfold remainingEntries
  rw [List.filter_eq_nil_iff.mpr, List.map_nil]
  intro e he
  obtain ⟨claim, field, attempted, rfl⟩ := mem_escalationEntries he
  simp [escalationEntry, recordsEscalation]

section Events

variable {ids : Uuid → Uuid → Prop} {offers offers' : List ProvenancedOffer}
  {quotes quotes' : List AuthenticatedQuote} {request : CreateMissionRequest}

lemma openingEntries_same (h : List.Forall₂ SameQuote quotes quotes') :
    openingEntries request quotes = openingEntries request quotes' := by
  have hcounts : quotes.map (fun q => q.offers.length) = quotes'.map (fun q => q.offers.length) :=
    Related.map_eq (fun q q' hq => hq.offers.length_eq) h
  have hmerchants : (quotes.map fun q => Json.obj
      [("merchant_id", .str q.context.merchantId), ("auth_method", .str "in_process_adapter"),
       ("known", .bool q.context.known)]) = quotes'.map fun q => Json.obj
      [("merchant_id", .str q.context.merchantId), ("auth_method", .str "in_process_adapter"),
       ("known", .bool q.context.known)] :=
    Related.map_eq (fun q q' hq => by rw [hq.context]) h
  unfold openingEntries discover.contextualCount
  rw [hcounts, hmerchants]

/-- The events about the offers are the same on twins. -/
lemma redacted_offers (h : List.Forall₂ (Twins ids) offers offers') :
    remainingEntries (offerEntries offers) = remainingEntries (offerEntries offers') := by
  have hspoofs : remainingEntries ((offers.filter ProvenancedOffer.identityMismatch).map spoofEntry) =
      remainingEntries ((offers'.filter ProvenancedOffer.identityMismatch).map spoofEntry) := by
    unfold remainingEntries
    rw [List.filter_map, List.filter_map, List.map_map, List.map_map]
    refine Related.map_eq (fun o o' ho => ?_) (Related.filter (fun o o' ho => ?_)
      (Related.filter (fun o o' ho => ?_) h)) <;>
    · obtain ⟨id, title, -, rfl⟩ := ho
      simp [spoofEntry, recordsEscalation, redact, redactFields, generatedKeys, blank,
        ProvenancedOffer.identityMismatch]
  have hvalid : offers.countP ProvenancedOffer.valid = offers'.countP ProvenancedOffer.valid :=
    Related.countP_eq (fun o o' ho => ho.valid_eq) h
  have hinvalid : offers.countP (fun o => !o.valid) = offers'.countP (fun o => !o.valid) :=
    Related.countP_eq (fun o o' ho => by rw [ho.valid_eq]) h
  have hempty : offers.isEmpty = offers'.isEmpty := by
    cases h <;> rfl
  have hranked : (PolicyEngine.rankOffers offers).map (fun o => redact (.obj
      [("offer_id", .str o.offerId.str), ("rank", .ofOptInt (o.rank.map Int.ofNat)),
       ("amount_inr", .int o.amountInr)])) =
      (PolicyEngine.rankOffers offers').map (fun o => redact (.obj
      [("offer_id", .str o.offerId.str), ("rank", .ofOptInt (o.rank.map Int.ofNat)),
       ("amount_inr", .int o.amountInr)])) := by
    refine Related.map_eq (fun o o' ho => ?_) (twins_rankOffers h)
    obtain ⟨id, title, -, rfl⟩ := ho
    simp [redact, redactFields, generatedKeys, blank]
  unfold offerEntries
  rw [remainingEntries_append, remainingEntries_append, hspoofs, hvalid, hinvalid, hempty]
  rw [remainingEntries_cons _ (by simp), remainingEntries_cons _ (by simp),
    remainingEntries_cons _ (by simp), remainingEntries_cons _ (by simp)]
  have hplain : "ranked" ∉ generatedKeys := by decide +kernel
  simp only [redact, redactFields, redactItems_eq_map, List.map_map, Function.comp_def, hplain,
    if_false] at hranked ⊢
  rw [hranked]

/-- The events up to the policy decision are the same. -/
lemma redacted_decided (hquotes : List.Forall₂ SameQuote quotes quotes')
    (hoffers : List.Forall₂ (Twins ids) offers offers') {id id' k k' l l' : Uuid}
    {createdAt createdAt' : Datetime} :
    remainingEntries (decidedOn request quotes id k l createdAt offers).entries =
      remainingEntries (decidedOn request quotes' id' k' l' createdAt' offers').entries := by
  obtain ⟨selected, hselected, hdecision⟩ := decisionOn_twins request hoffers
  simp only [decidedOn, discovered, remainingEntries_append, remainingEntries_escalations,
    openingEntries_same hquotes, redacted_offers hoffers]
  congr 1
  rw [remainingEntries_cons _ (by simp), remainingEntries_cons _ (by simp), hdecision]
  generalize decisionOn request offers = d at hselected ⊢
  obtain ⟨decision, policyVersion, reasonCodes, requestedAmount, softBudget, hardLimit, selected'⟩ := d
  cases hselected with
  | none => rfl
  | some h =>
    have hkey : "selected_offer_id" ∈ generatedKeys := by decide +kernel
    simp [redact, redactFields, dumpDecision, hkey, blank]

lemma remainingEntries_created (row : AuthorizationRow) :
    remainingEntries [createdEntry row] = [(EventType.authorizationCreated.value,
      SecurityKernel.actor, redact (.obj (createdEntry row).payload))] :=
  remainingEntries_cons [] (by simp [createdEntry])

lemma remainingEntries_activated (row : AuthorizationRow) :
    remainingEntries [activatedEntry row] = [(EventType.authorizationActivated.value,
      SecurityKernel.actor, redact (.obj (activatedEntry row).payload))] :=
  remainingEntries_cons [] (by simp [activatedEntry])

/-- The events of an authorization are the same for the same transaction, but for its nonce and
expiry. -/
lemma redacted_authorized {a a' : Additions} (h : remainingEntries a.entries = remainingEntries a'.entries)
    (env : Env) (decision : PolicyDecision) (selected : Option Uuid) {row row' : AuthorizationRow}
    (hrow : ∃ k mission digest nonce issuedAt expiresAt, row' = { row with
      authorizationId := k, missionId := mission, transactionDigest := digest, nonce := nonce,
      issuedAt := issuedAt, expiresAt := expiresAt }) :
    remainingEntries (a.authorized env decision row).entries =
      remainingEntries (a'.authorized env { decision with selectedOfferId := selected } row').entries := by
  obtain ⟨k, mission, digest, nonce, issuedAt, expiresAt, rfl⟩ := hrow
  have hid : "authorization_id" ∈ generatedKeys := by decide +kernel
  have hdigest : "transaction_digest_prefix" ∈ generatedKeys := by decide +kernel
  have hexpires : "expires_at" ∈ generatedKeys := by decide +kernel
  unfold Additions.authorized
  by_cases hrequire : decision.decision = .requireApproval
  · rw [if_pos hrequire, if_pos (show _ = _ from hrequire)]
    simp only [remainingEntries_append, h, remainingEntries_created]
    rw [remainingEntries_cons _ (by simp), remainingEntries_cons _ (by simp)]
    simp [createdEntry, redact, redactFields, hid, hdigest, hexpires, blank]
  · rw [if_neg hrequire, if_neg (show ¬_ from hrequire)]
    simp only [remainingEntries_append, h, remainingEntries_created, remainingEntries_activated]
    simp [createdEntry, activatedEntry, redact, redactFields, hid, hdigest, hexpires, blank]

/-- The event of a denial is the same. -/
lemma redacted_denied {a a' : Additions} (h : remainingEntries a.entries = remainingEntries a'.entries)
    {decision : PolicyDecision} {selected : Option Uuid} :
    remainingEntries (a.denied decision).entries =
      remainingEntries (a'.denied { decision with selectedOfferId := selected }).entries := by
  simp only [Additions.denied, remainingEntries_append, h]

end Events

-- ════════════════════════════════════════════════════════════════════════
-- Rows
-- ════════════════════════════════════════════════════════════════════════

lemma rankRow_offerRow (ranked : List ProvenancedOffer) (id : Uuid) (o : ProvenancedOffer) :
    rankRow ranked (offerRow id o) = { offerRow id o with
      rank := (ranked.find? fun x => decide (x.offerId = o.offerId)).bind ProvenancedOffer.rank } := by
  have hid : (offerRow id o).id = o.offerId := rfl
  unfold rankRow
  rw [hid]
  split <;> next hfound => rw [hfound]; rfl

section Rows

variable {ids : Uuid → Uuid → Prop} {offers offers' : List ProvenancedOffer}
  (hone : ∀ {a b a' b'}, ids a b → ids a' b' → (a = a' ↔ b = b'))

include hone

/-- The rows of twins are the same but for identifiers and title; their ranks are equal. -/
lemma rows_twins (h : List.Forall₂ (Twins ids) offers offers') (id id' : Uuid) :
    List.Forall₂ (fun o o' : Offer => o.missionId = id ∧
        ∃ k title, o' = { o with id := k, missionId := id', title := title })
      ((offers.map (offerRow id)).map (rankRow (PolicyEngine.rankOffers offers)))
      ((offers'.map (offerRow id')).map (rankRow (PolicyEngine.rankOffers offers'))) := by
  rw [List.map_map, List.map_map]
  refine List.rel_map (fun o o' ho => ?_) h
  obtain ⟨k, title, hid, rfl⟩ := ho
  have hrank : ((PolicyEngine.rankOffers offers).find?
      fun x => decide (x.offerId = o.offerId)).bind ProvenancedOffer.rank =
      ((PolicyEngine.rankOffers offers').find?
        fun x => decide (x.offerId = k)).bind ProvenancedOffer.rank := by
    have hfound := Related.find? (p := fun x => decide (x.offerId = o.offerId))
      (q := fun x => decide (x.offerId = k)) (fun x x' hx => by
        obtain ⟨k', title', hid', rfl⟩ := hx
        exact decide_eq_decide.mpr (hone hid' hid)) (twins_rankOffers h)
    generalize (PolicyEngine.rankOffers offers).find? _ = found at hfound ⊢
    generalize (PolicyEngine.rankOffers offers').find? _ = found' at hfound ⊢
    cases hfound with
    | none => rfl
    | some hx =>
      obtain ⟨k', title', -, rfl⟩ := hx
      rfl
  rw [Function.comp_apply, Function.comp_apply, rankRow_offerRow, rankRow_offerRow, hrank]
  exact ⟨rfl, k, title, rfl⟩

omit hone in
lemma rows_ids (offers : List ProvenancedOffer) (id : Uuid) :
    ((offers.map (offerRow id)).map (rankRow (PolicyEngine.rankOffers offers))).map Offer.id =
      offers.map ProvenancedOffer.offerId := by
  rw [List.map_map, List.map_map]
  exact List.map_congr_left fun o _ => rankRow_id _ _

omit hone in
/-- The selected offer is one of the offers. -/
lemma selected_mem {request : CreateMissionRequest} {a : Uuid}
    (h : (decisionOn request offers).selectedOfferId = some a) :
    a ∈ offers.map ProvenancedOffer.offerId := by
  unfold decisionOn at h
  cases hbest : (PolicyEngine.rankOffers offers).head? with
  | none =>
    rw [hbest] at h
    cases h
  | some best =>
    obtain ⟨o, ho, -, r, rfl⟩ := mem_rankOffers (List.mem_of_mem_head? hbest)
    rw [hbest] at h
    have hid : (PolicyEngine.evaluate request.constraints (some { o with rank := some r })
        request.quantity).selectedOfferId = some o.offerId := by
      simp only [PolicyEngine.evaluate]
      split
      · rfl
      · split <;> rfl
    rw [← Option.some.inj (hid.symm.trans h)]
    exact List.mem_map_of_mem ho

/-- Identifiers in step are those of the offers at one position. -/
lemma samePosition_of_twins (h : List.Forall₂ (Twins ids) offers offers') {a b : Uuid} (hab : ids a b)
    (ha : a ∈ offers.map ProvenancedOffer.offerId) :
    ∃ i : Nat, (offers.map ProvenancedOffer.offerId)[i]? = some a ∧
      (offers'.map ProvenancedOffer.offerId)[i]? = some b := by
  induction h with
  | nil => cases ha
  | @cons o o' offers offers' ho _ ih =>
    obtain ⟨k, title, hid, rfl⟩ := ho
    by_cases hao : o.offerId = a
    · exact ⟨0, by simp [hao], by simp [(hone hid hab).mp hao]⟩
    · have hmem : a ∈ offers.map ProvenancedOffer.offerId := by
        rcases List.mem_cons.mp ha with ha | ha
        · exact absurd ha.symm hao
        · exact ha
      obtain ⟨i, hi, hi'⟩ := ih hmem
      exact ⟨i + 1, by simpa using hi, by simpa using hi'⟩

end Rows

-- ════════════════════════════════════════════════════════════════════════
-- Two runs
-- ════════════════════════════════════════════════════════════════════════

section TwoRuns

variable {env : Env} {request : CreateMissionRequest} {quotes quotes' : List AuthenticatedQuote}
  {db₀ db db₀' db' : Db} {a a' : Additions}

/-- Additions that are the same but for what is generated leave databases that are alike. -/
lemma alike_of_adds (hinj : Function.Injective env.uuid4) {n n' : Nat} {id id' k k' l l' : Uuid}
    {createdAt createdAt' : Datetime}
    (hquotes : List.Forall₂ SameQuote quotes quotes')
    (h : Adds env db₀ a db) (h' : Adds env db₀' a' db')
    (ha : ∃ state, a.mission = ⟨id, request.rawQuery, request.quantity, state⟩ ∧
      a'.mission = ⟨id', request.rawQuery, request.quantity, state⟩)
    (hc : a.constraints = [constraintsRow k id request.constraints] ∧
      a'.constraints = [constraintsRow k' id' request.constraints])
    (hos : a.offers = (discovered request quotes id k (offersFrom env request quotes n)).offers ∧
      a'.offers = (discovered request quotes' id' k' (offersFrom env request quotes' n')).offers)
    (hds : a.decisions =
        [decisionRow l id (decisionOn request (offersFrom env request quotes n)) createdAt] ∧
      a'.decisions =
        [decisionRow l' id' (decisionOn request (offersFrom env request quotes' n')) createdAt'])
    (has : List.Forall₂ (fun a a' => a.missionId = id ∧
      ∃ k digest nonce issuedAt expiresAt, a' = { a with
        authorizationId := k, missionId := id', transactionDigest := digest, nonce := nonce,
        issuedAt := issuedAt, expiresAt := expiresAt }) a.authorizations a'.authorizations)
    (hes : remainingEntries a.entries = remainingEntries a'.entries) :
    Alike request id id' db₀ db db₀' db' := by
  have htwins : List.Forall₂ (Twins (InStep env n n')) (offersFrom env request quotes n)
      (offersFrom env request quotes' n') := twins_offersFrom hquotes n n'
  obtain ⟨state, hm, hm'⟩ := ha
  obtain ⟨selected, hselected, hdecision⟩ := decisionOn_twins request htwins
  obtain ⟨rows, hrows, hlogs⟩ := h.events
  obtain ⟨rows', hrows', hlogs'⟩ := h'.events
  refine ⟨⟨_, _, hm ▸ h.missions, hm' ▸ h'.missions, rfl, rfl⟩,
    ⟨k, k', hc.1 ▸ h.constraints, hc.2 ▸ h'.constraints⟩, ?_,
    ⟨_, _, h.authorizations, h'.authorizations, has⟩,
    ⟨rows, rows', hrows, hrows', ?_, ?_, ?_⟩⟩
  · refine ⟨_, _, _, _, h.offers.trans (by rw [hos.1]; rfl), h'.offers.trans (by rw [hos.2]; rfl),
      rows_twins (inStep_eq_iff hinj) htwins id id', hds.1 ▸ h.decisions, hds.2 ▸ h'.decisions, rfl, ⟨l', selected, createdAt', ?_⟩, ?_⟩
    · rw [hdecision]
      rfl
    · rw [hdecision]
      change Option.Rel _ (decisionOn request (offersFrom env request quotes n)).selectedOfferId selected
      cases hd : (decisionOn request (offersFrom env request quotes n)).selectedOfferId with
      | none =>
        rw [hd] at hselected
        cases hselected
        exact .none
      | some x =>
        rw [hd] at hselected
        cases hselected with
        | some hab =>
          refine .some ?_
          unfold SamePosition
          rw [rows_ids, rows_ids]
          exact samePosition_of_twins (inStep_eq_iff hinj) htwins hab (selected_mem hd)
  · rw [show a.mission.id = id by rw [hm]] at hlogs
    exact missionId_of_logs hlogs
  · rw [show a'.mission.id = id' by rw [hm']] at hlogs'
    exact missionId_of_logs hlogs'
  · rw [remaining_of_logs hlogs, remaining_of_logs hlogs', hes]

/-- What an authorization adds besides its events. -/
lemma Additions.authorized_eq (a : Additions) (env : Env) (decision : PolicyDecision)
    (row : AuthorizationRow) :
    a.authorized env decision row = { a with
      mission := { a.mission with
        state := if decision.decision = .requireApproval then .awaitingApproval else .authorized }
      authorizations :=
        [{ row with status := if decision.decision = .requireApproval then row.status else .active }]
      entries := (a.authorized env decision row).entries } := by
  unfold Additions.authorized
  split <;> rfl

/-- Two missions with an authorization for the same transaction, but for its nonce and expiry. -/
lemma alike_of_authorized (hinj : Function.Injective env.uuid4) {n n' : Nat} {id id' k k' l l' : Uuid}
    {createdAt createdAt' issuedAt issuedAt' expiresAt : Datetime} {t t' : BoundTransaction}
    {nonce : String} {authorizationId authorizationId' : Uuid} {decision decision' : PolicyDecision}
    (hquotes : List.Forall₂ SameQuote quotes quotes')
    (hdecision : decision = decisionOn request (offersFrom env request quotes n))
    (hdecision' : decision' = decisionOn request (offersFrom env request quotes' n'))
    (ht : t' = { t with expiresAt := expiresAt, nonce := nonce })
    (h : Adds env db₀ ((decidedOn request quotes id k l createdAt
      (offersFrom env request quotes n)).authorized env decision
        (issuedRow authorizationId id t (schemeOf decision) issuedAt)) db)
    (h' : Adds env db₀' ((decidedOn request quotes' id' k' l' createdAt'
      (offersFrom env request quotes' n')).authorized env decision'
        (issuedRow authorizationId' id' t' (schemeOf decision') issuedAt')) db') :
    Alike request id id' db₀ db db₀' db' := by
  have htwins : List.Forall₂ (Twins (InStep env n n')) (offersFrom env request quotes n)
      (offersFrom env request quotes' n') := twins_offersFrom hquotes n n'
  obtain ⟨selected, -, hselected⟩ := decisionOn_twins request htwins
  rw [← hdecision, ← hdecision'] at hselected
  subst hselected ht
  have hdecided : remainingEntries
      (decidedOn request quotes id k l createdAt (offersFrom env request quotes n)).entries =
      remainingEntries (decidedOn request quotes' id' k' l' createdAt'
        (offersFrom env request quotes' n')).entries := redacted_decided hquotes htwins
  have hrow : ∃ k mission digest nonce' issuedAt'' expiresAt',
      issuedRow authorizationId' id' { t with expiresAt := expiresAt, nonce := nonce }
        (schemeOf { decision with selectedOfferId := selected }) issuedAt' =
      { issuedRow authorizationId id t (schemeOf decision) issuedAt with
        authorizationId := k, missionId := mission, transactionDigest := digest, nonce := nonce',
        issuedAt := issuedAt'', expiresAt := expiresAt' } :=
    ⟨authorizationId', id',
      ({ t with expiresAt := expiresAt, nonce := nonce } : BoundTransaction).digest, nonce, issuedAt',
      expiresAt, rfl⟩
  have hentries := redacted_authorized hdecided env decision selected hrow
  rw [Additions.authorized_eq] at h h'
  refine alike_of_adds hinj hquotes h h' ⟨_, rfl, rfl⟩ ⟨rfl, rfl⟩ ⟨rfl, rfl⟩ ⟨rfl, rfl⟩
    (.cons ⟨rfl, ?_⟩ .nil) hentries
  exact ⟨authorizationId',
    ({ t with expiresAt := expiresAt, nonce := nonce } : BoundTransaction).digest, nonce, issuedAt',
    expiresAt, rfl⟩

/-- What a creation ends with is the exception of hashing exactly if a value cannot be hashed. -/
lemma run_hashFailure (hs : Supplied env db₀) (request : CreateMissionRequest)
    (quotes : List AuthenticatedQuote) (e : Exc) :
    hashFailure request quotes = some e ↔ ((run env request quotes).run db₀).1 = .error e ∧
      (e = digitsLimit ∨ e = surrogatesRefused) := by
  have hends := run_ends hs request quotes
  generalize (run env request quotes).run db₀ = out at hends ⊢
  constructor
  · intro hfailure
    have hobstacle : obstacle request quotes = some e := by
      unfold obstacle
      rw [hfailure, Option.some_or]
    refine ⟨?_, hashFailure_eq_some hfailure⟩
    cases hends with
    | refused hrefusal => rw [Option.some.inj (hobstacle.symm.trans hrefusal)]
    | denied hpassed => cases hobstacle.symm.trans hpassed
    | unbindable hpassed => cases hobstacle.symm.trans hpassed
    | authorized hpassed => cases hobstacle.symm.trans hpassed
  · rintro ⟨herror, he⟩
    cases hends with
    | refused hrefusal =>
      obtain rfl := Except.error.inj herror
      unfold obstacle at hrefusal
      rcases Option.or_eq_some_iff.mp hrefusal with hfailure | ⟨-, hrefused⟩
      · exact hfailure
      · obtain ⟨-, hdigits, hsurrogates⟩ := firstRefusal_eq_some hrefused
        rcases he with he | he
        · exact absurd he hdigits
        · exact absurd he hsurrogates
    | denied => cases herror
    | unbindable =>
      obtain rfl := Except.error.inj herror
      rcases he with he | he
      · simp [digitsLimit] at he
      · simp [surrogatesRefused] at he
    | authorized => cases herror

/-- Two creations end alike: they raise the same exception, or return missions that are alike; and the
protected policy values are those of the request throughout. -/
def EndAlike (env : Env) (request : CreateMissionRequest) (quotes quotes' : List AuthenticatedQuote)
    (db₀ db₀' : Db) : Prop :=
  ((∃ e, ((run env request quotes).run db₀).1 = .error e ∧
      ((run env request quotes').run db₀').1 = .error e) ∨
    ∃ id id', ((run env request quotes).run db₀).1 = .ok id ∧
      ((run env request quotes').run db₀').1 = .ok id' ∧
      Alike request id id' db₀ ((run env request quotes).run db₀).2 db₀'
        ((run env request quotes').run db₀').2) ∧
  ∀ q ∈ [quotes, quotes'], ∀ missionId d register d',
    (enforceAuthority env missionId request.constraints q).run d = (.ok register, d') →
      register = SecurityKernel.protectedPolicyValues request.constraints

/-- The register of a creation is never changed. -/
lemma enforceAuthority_register {missionId : Uuid} {c : MissionConstraints} {d d' : Db}
    {register : SecurityKernel.ProtectedPolicyRegister}
    (h : (enforceAuthority env missionId c quotes).run d = (.ok register, d')) :
    register = SecurityKernel.protectedPolicyValues c := by
  rw [run_enforceAuthority] at h
  obtain ⟨-, d'', -, hregister⟩ := Tx.bind_ok.mp h
  exact (Except.ok.inj (Prod.mk.inj hregister).1).symm

/-- Two creations that meet the same obstacle, or none, raise the same exception or return missions
that are alike. -/
lemma runs_alike (request : CreateMissionRequest) (hquotes : List.Forall₂ SameQuote quotes quotes')
    (hobstacles : obstacle request quotes = obstacle request quotes') (hs : Supplied env db₀)
    (hs' : Supplied env db₀') :
    (∃ e, ((run env request quotes).run db₀).1 = .error e ∧
        ((run env request quotes').run db₀').1 = .error e) ∨
      ∃ id id', ((run env request quotes).run db₀).1 = .ok id ∧
        ((run env request quotes').run db₀').1 = .ok id' ∧
        Alike request id id' db₀ ((run env request quotes).run db₀).2 db₀'
          ((run env request quotes').run db₀').2 := by
  have hends := run_ends hs request quotes
  have hends' := run_ends hs' request quotes'
  generalize (run env request quotes).run db₀ = out at hends ⊢
  generalize (run env request quotes').run db₀' = out' at hends' ⊢
  have htwins : ∀ n n', List.Forall₂ (Twins (InStep env n n')) (offersFrom env request quotes n)
      (offersFrom env request quotes' n') := twins_offersFrom hquotes
  have hdecisions : ∀ n n', (decisionOn request (offersFrom env request quotes n)).decision =
      (decisionOn request (offersFrom env request quotes' n')).decision := fun n n' => by
    obtain ⟨selected, -, hdecision⟩ := decisionOn_twins request (htwins n n')
    rw [hdecision]
  have hmakes : ∀ {n n' best best' expiresAt expiresAt' nonce nonce' t t'},
      (PolicyEngine.rankOffers (offersFrom env request quotes n)).head? = some best →
      (PolicyEngine.rankOffers (offersFrom env request quotes' n')).head? = some best' →
      isLowerHex 64 nonce = true → isLowerHex 64 nonce' = true →
      BoundTransaction.make env.upper (boundValues best request.quantity expiresAt nonce) = t →
      BoundTransaction.make env.upper (boundValues best' request.quantity expiresAt' nonce') = t' →
      Option.Rel (fun t t' : BoundTransaction =>
        t' = { t with expiresAt := expiresAt', nonce := nonce' }) t t' := by
    intro n n' best best' expiresAt expiresAt' nonce nonce' t t' hbest hbest' hnonce hnonce' ht ht'
    have hheads := Related.head? (twins_rankOffers (htwins n n'))
    rw [hbest, hbest'] at hheads
    rw [← ht, ← ht']
    cases hheads with
    | some hbests => exact make_twins hbests hnonce hnonce'
  cases hends with
  | @refused e db hrefusal =>
    cases hends' with
    | refused hrefusal' =>
      obtain rfl := Option.some.inj (hrefusal.symm.trans (hobstacles.trans hrefusal'))
      exact .inl ⟨e, rfl, rfl⟩
    | denied hpassed => cases hrefusal.symm.trans (hobstacles.trans hpassed)
    | unbindable hpassed => cases hrefusal.symm.trans (hobstacles.trans hpassed)
    | authorized hpassed => cases hrefusal.symm.trans (hobstacles.trans hpassed)
  | @denied n k l createdAt db hpassed hdeny hadds =>
    cases hends' with
    | refused hrefusal' => cases hpassed.symm.trans (hobstacles.trans hrefusal')
    | @denied n' k' l' createdAt' db' hpassed' hdeny' hadds' =>
      refine .inr ⟨_, _, rfl, rfl, alike_of_adds hs.distinct hquotes hadds hadds'
        ⟨.cancelled, rfl, rfl⟩ ⟨rfl, rfl⟩ ⟨rfl, rfl⟩ ⟨rfl, rfl⟩ .nil ?_⟩
      obtain ⟨selected, -, hselected⟩ := decisionOn_twins request (htwins n n')
      rw [hselected]
      exact redacted_denied (redacted_decided hquotes (htwins n n'))
    | unbindable _ _ hallow => exact absurd ((hdecisions _ _).symm.trans hdeny) hallow
    | authorized _ _ hallow => exact absurd ((hdecisions _ _).symm.trans hdeny) hallow
  | unbindable hpassed hbest hallow hnonce hmake =>
    cases hends' with
    | refused hrefusal' => cases hpassed.symm.trans (hobstacles.trans hrefusal')
    | denied _ hdeny' => exact absurd ((hdecisions _ _).trans hdeny') hallow
    | unbindable => exact .inl ⟨_, rfl, rfl⟩
    | authorized _ hbest' _ hnonce' hmake' =>
      cases hmakes hbest hbest' hnonce hnonce' hmake hmake'
  | authorized hpassed hbest hallow hnonce hmake hadds =>
    cases hends' with
    | refused hrefusal' => cases hpassed.symm.trans (hobstacles.trans hrefusal')
    | denied _ hdeny' => exact absurd ((hdecisions _ _).trans hdeny') hallow
    | unbindable _ hbest' _ hnonce' hmake' =>
      cases hmakes hbest hbest' hnonce hnonce' hmake hmake'
    | authorized _ hbest' _ hnonce' hmake' hadds' =>
      cases hmakes hbest hbest' hnonce hnonce' hmake hmake' with
      | some ht =>
        exact .inr ⟨_, _, rfl, rfl,
          alike_of_authorized hs.distinct hquotes rfl rfl ht hadds hadds'⟩
/-- Titles, descriptions and claims do not interfere, in quotes that agree in the rest, exactly if the
same exception of hashing is met in both, or none. -/
theorem free_text_does_not_interfere_iff (request : CreateMissionRequest)
    (hquotes : List.Forall₂ SameQuote quotes quotes') (hs : Supplied env db₀)
    (hs' : Supplied env db₀') :
    EndAlike env request quotes quotes' db₀ db₀' ↔
      hashFailure request quotes = hashFailure request quotes' := by
  constructor
  · rintro ⟨hruns, -⟩
    refine Option.ext fun e => ?_
    rw [run_hashFailure hs, run_hashFailure hs']
    rcases hruns with ⟨e', herror, herror'⟩ | ⟨id, id', hok, hok', -⟩
    · rw [herror, herror']
    · simp [hok, hok']
  · intro hfailures
    have hobstacles : obstacle request quotes = obstacle request quotes' := by
      unfold obstacle
      rw [hfailures, firstRefusal_same hquotes]
    exact ⟨runs_alike request hquotes hobstacles hs hs',
      fun _ _ _ _ _ _ henforce => enforceAuthority_register henforce⟩

end TwoRuns

namespace Sample

/-- A claim on the hard limit. -/
def raised (attempted : PyJson) : List (PyStr × PyJson) := [("hard_limit_inr", attempted)]

/-- An offer with a claim on the hard limit differs from one without in title and claims only. -/
lemma sameQuote_raised (title : String) (attempted : PyJson) :
    List.Forall₂ SameQuote (quotes 50 fifty_nonneg "t" [])
      (quotes 50 fifty_nonneg title (raised attempted)) :=
  .cons ⟨rfl, .cons ⟨rfl, rfl, rfl, rfl, rfl, rfl, rfl⟩ .nil⟩ .nil

lemma hashFailure_unclaimed : hashFailure request (quotes 50 fifty_nonneg "t" []) = none := by
  change ([dumpConstraints request.constraints].findSome? encodeFailure) = none
  rw [List.findSome?_cons, encodeFailure_eq_none.mpr request_hashable]
  rfl

/-- The value claimed for the hard limit is hashed after the constraints. -/
lemma hashFailure_raised (title : String) (attempted : PyJson) :
    hashFailure request (quotes 50 fifty_nonneg title (raised attempted)) =
      encodeFailure attempted := by
  have hvalues : hashedValues request (quotes 50 fifty_nonneg title (raised attempted)) =
      [dumpConstraints request.constraints, attempted] := by
    simp [hashedValues, protectedClaims, merchantClaims, MerchantClaim.protectedField, quotes, raised,
      protectedPolicyFields, Option.filter_some]
  rw [hashFailure, hvalues, List.findSome?_cons, encodeFailure_eq_none.mpr request_hashable]
  cases h : encodeFailure attempted <;> simp [h]

end Sample

/-- A claim that the hard limit is a lone surrogate: its offer is otherwise that of a merchant without
claims, and the creation ends with an exception instead of an authorization. -/
theorem surrogate_claim_interferes :
    List.Forall₂ SameQuote (Sample.quotes 50 fifty_nonneg "t" [])
        (Sample.quotes 50 fifty_nonneg "t" (Sample.raised (.str ⟨[.surrogate 0]⟩))) ∧
      ((run Sample.env Sample.request (Sample.quotes 50 fifty_nonneg "t"
        (Sample.raised (.str ⟨[.surrogate 0]⟩)))).run Db.empty).1 = .error surrogatesRefused ∧
      ¬EndAlike Sample.env Sample.request (Sample.quotes 50 fifty_nonneg "t" [])
        (Sample.quotes 50 fifty_nonneg "t" (Sample.raised (.str ⟨[.surrogate 0]⟩)))
        Db.empty Db.empty := by
  have hfailure := Sample.hashFailure_raised "t" (.str ⟨[.surrogate 0]⟩)
  have hsurrogate : encodeFailure (.str ⟨[.surrogate 0]⟩) = some surrogatesRefused := rfl
  rw [hsurrogate] at hfailure
  have hraised := (run_hashFailure Sample.supplied _ _ _).mp hfailure
  refine ⟨Sample.sameQuote_raised _ _, hraised.1, fun halike => ?_⟩
  rcases halike.1 with ⟨e, herror, herror'⟩ | ⟨id, id', -, hok, -⟩
  · obtain rfl := Except.error.inj (herror'.symm.trans hraised.1)
    have hnone := (run_hashFailure Sample.supplied _ _ _).mpr ⟨herror, hraised.2⟩
    rw [Sample.hashFailure_unclaimed] at hnone
    cases hnone
  · cases hok.symm.trans hraised.1

/-- Another title and a claim on the hard limit do not interfere with the authorization of an offer of
50 rupees. -/
theorem free_text_does_not_interfere_fifty :
    EndAlike Sample.env Sample.request (Sample.quotes 50 fifty_nonneg "t" [])
      (Sample.quotes 50 fifty_nonneg "free" (Sample.raised (.int 1000000))) Db.empty Db.empty := by
  refine (free_text_does_not_interfere_iff Sample.request (Sample.sameQuote_raised _ _)
    Sample.supplied Sample.supplied).mpr ?_
  rw [Sample.hashFailure_unclaimed, Sample.hashFailure_raised]
  refine (encodeFailure_eq_none.mpr ⟨.int 1000000, encodePayload_ok.mpr ⟨?_, rfl⟩⟩).symm
  exact Wire.spellsInt_of_lt (by decide)

end AgentOrchestrator

end Pactra
