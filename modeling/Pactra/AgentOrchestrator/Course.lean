import Pactra.AgentOrchestrator.Planning

/-!
# The course of a mission's creation

What `Orchestrator.run` does is decided by the request, the quotes and the values it draws. `Supplied`
says what the creation takes from its surroundings: identifiers and nonces that are not in use, and a
clock that does not pass an authorization's lifetime between two of its reads. `Adds` says that a
database is another with some rows and events added, and each operation of the orchestrator is total
on such a database.

## Main results

- `run_normalizeOffers` — ingress of all offers, or the first refusal
- `discover_ends` — discovery returns the ranking, or raises the exception of the first obstacle
-/

namespace Pactra

namespace AgentOrchestrator

/-- An identifier is the key of no row in the tables that a creation adds to. -/
structure Unused (db : Db) (id : Uuid) : Prop where
  missions : ∀ m ∈ db.missions, m.id ≠ id
  constraints : ∀ c ∈ db.missionConstraints, c.id ≠ id
  offers : ∀ o ∈ db.offers, o.id ≠ id
  decisions : ∀ d ∈ db.policyDecisions, d.id ≠ id
  events : ∀ e ∈ db.auditEvents, e.eventId ≠ id
  authorizations : ∀ a ∈ db.authorizations, a.authorizationId ≠ id

/-- What `uuid4`, `token_hex` and the clock provide from a database on: identifiers that differ and
are not in use, nonces in hexadecimal that are not in use, and a clock that advances by less than an
authorization's lifetime over the draws from a binding to its activation. -/
structure Supplied (env : Env) (db : Db) : Prop where
  distinct : Function.Injective env.uuid4
  unused : ∀ n, db.drawn ≤ n → Unused db (env.uuid4 n)
  nonce : ∀ n, db.drawn ≤ n → isLowerHex 64 (env.tokenHex n) = true ∧
    ∀ a ∈ db.authorizations, a.nonce ≠ env.tokenHex n
  prompt : ∀ n k, db.drawn ≤ n → k ≤ 6 →
    env.utcnow (n + k) < env.utcnow n + Datetime.seconds env.authorizationTtlSeconds

/-- What a creation has added to a database: rows, and the entries of its audit events. -/
structure Additions where
  mission : Mission
  constraints : List MissionConstraintsRow
  offers : List Offer
  decisions : List PolicyDecisionRow
  authorizations : List AuthorizationRow
  entries : List AuditEntry

/-- A row that records an entry of a mission, by whoever made it. -/
structure Logs (missionId : Uuid) (row : AuditEventRow) (entry : AuditEntry) : Prop where
  missionId : row.missionId = missionId
  eventType : row.eventType = entry.eventType.value
  actor : row.actor = entry.actor
  payload : row.payload = .obj entry.payload

/-- A database is another with the additions, and what is drawn from here on is not in use. -/
structure Adds (env : Env) (db₀ : Db) (a : Additions) (db : Db) : Prop where
  fresh : db₀.getMission a.mission.id = none
  missions : db.missions = db₀.missions ++ [a.mission]
  constraints : db.missionConstraints = db₀.missionConstraints ++ a.constraints
  offers : db.offers = db₀.offers ++ a.offers
  decisions : db.policyDecisions = db₀.policyDecisions ++ a.decisions
  authorizations : db.authorizations = db₀.authorizations ++ a.authorizations
  events : ∃ rows, db.auditEvents = db₀.auditEvents ++ rows ∧
    List.Forall₂ (Logs a.mission.id) rows a.entries
  drawn : db₀.drawn ≤ db.drawn
  unused : ∀ n, db.drawn ≤ n → Unused db (env.uuid4 n)

-- ════════════════════════════════════════════════════════════════════════
-- Operations
-- ════════════════════════════════════════════════════════════════════════

section Operations

variable {env : Env} {db₀ db : Db} {m : Mission} {cs : List MissionConstraintsRow} {os : List Offer}
  {ds : List PolicyDecisionRow} {as : List AuthorizationRow} {es : List AuditEntry}
  (hinj : Function.Injective env.uuid4)

lemma run_insertRow {ρ : Type} {key : ρ → Uuid} {rows : Db → List ρ} {put : Db → List ρ → Db}
    {row : ρ} (h : ∀ r ∈ rows db, key r ≠ key row) :
    (insertRow key rows put row).run db = (.ok (), put db (rows db ++ [row])) := by
  have hnone : Table.find key (key row) (rows db) = none := Table.find_eq_none.mpr h
  change insertRow key rows put row db = _
  simp [insertRow, hnone]

lemma Adds.skip (h : Adds env db₀ ⟨m, cs, os, ds, as, es⟩ db) {n : Nat} (hn : db.drawn ≤ n) :
    Adds env db₀ ⟨m, cs, os, ds, as, es⟩ { db with drawn := n } where
  fresh := h.fresh
  missions := h.missions
  constraints := h.constraints
  offers := h.offers
  decisions := h.decisions
  authorizations := h.authorizations
  events := h.events
  drawn := h.drawn.trans hn
  unused k hk := by
    obtain ⟨h₁, h₂, h₃, h₄, h₅, h₆⟩ := h.unused k (hn.trans hk)
    exact ⟨h₁, h₂, h₃, h₄, h₅, h₆⟩

lemma Adds.getMission (h : Adds env db₀ ⟨m, cs, os, ds, as, es⟩ db) : db.getMission m.id = some m := by
  rw [Db.getMission, h.missions, Table.find_insert]
  simp [show Table.find Mission.id m.id db₀.missions = none from h.fresh]

lemma Adds.found {a : Additions} (h : Adds env db₀ a db) :
    db.getMission a.mission.id = some a.mission := by
  obtain ⟨m, cs, os, ds, as, es⟩ := a
  exact h.getMission

lemma Adds.withState (h : Adds env db₀ ⟨m, cs, os, ds, as, es⟩ db) (target : MissionState) :
    Adds env db₀ ⟨{ m with state := target }, cs, os, ds, as, es⟩
      (db.updateMission m.id (fun m => { m with state := target })) := by
  have hmissions : (db.updateMission m.id (fun m => { m with state := target })).missions =
      db₀.missions ++ [{ m with state := target }] := by
    show Table.update Mission.id m.id _ db.missions = _
    rw [h.missions, Table.update, List.map_append]
    congr 1
    · exact Table.update_of_absent h.fresh
    · simp
  refine ⟨h.fresh, hmissions, h.constraints, h.offers, h.decisions, h.authorizations, h.events,
    h.drawn, fun n hn => ?_⟩
  obtain ⟨h₁, h₂, h₃, h₄, h₅, h₆⟩ := h.unused n hn
  refine ⟨fun m hm => ?_, h₂, h₃, h₄, h₅, h₆⟩
  obtain ⟨m', hm', rfl⟩ := Table.mem_update.mp hm
  split
  · exact h₁ m' hm'
  · exact h₁ m' hm'

lemma run_require {σ : Type} {condition : Bool} {invariantId detail : String} {s : σ}
    (h : condition = true) : (require condition invariantId detail).run s = (.ok (), s) := by
  subst h
  rfl

/-- An identifier is drawn, which no row has. -/
lemma Adds.drewUuid (h : Adds env db₀ ⟨m, cs, os, ds, as, es⟩ db) :
    ∃ db', (drawUuid env).run db = (.ok (env.uuid4 db.drawn), db') ∧
      Adds env db₀ ⟨m, cs, os, ds, as, es⟩ db' ∧ db'.drawn = db.drawn + 1 ∧
      Unused db' (env.uuid4 db.drawn) := by
  refine ⟨_, run_drawUuid env db, h.skip (Nat.le_succ _), rfl, ?_⟩
  obtain ⟨h₁, h₂, h₃, h₄, h₅, h₆⟩ := h.unused _ (le_refl _)
  exact ⟨h₁, h₂, h₃, h₄, h₅, h₆⟩

include hinj

/-- What was drawn before is none of what is drawn later. -/
lemma drawn_ne {m n : Nat} (h : m < n) : env.uuid4 m ≠ env.uuid4 n := fun he => h.ne (hinj he)

/-- An event is appended, and two values are drawn for it. -/
lemma Adds.logged (h : Adds env db₀ ⟨m, cs, os, ds, as, es⟩ db) (entry : AuditEntry) :
    ∃ db', (appendEvent env m.id entry).run db = (.ok (), db') ∧
      Adds env db₀ ⟨m, cs, os, ds, as, es ++ [entry]⟩ db' ∧ db'.drawn = db.drawn + 2 := by
  have hfree : Table.find AuditEventRow.eventId (env.uuid4 (db.drawn + 1)) db.auditEvents = none :=
    Table.find_eq_none.mpr (h.unused _ (by omega)).events
  obtain ⟨rows, hrows, hlogs⟩ := h.events
  rw [run_appendEvent]
  simp only [nextEventRow, hfree, Option.isSome_none, Bool.false_eq_true, if_false]
  refine ⟨_, rfl, ⟨h.fresh, h.missions, h.constraints, h.offers, h.decisions, h.authorizations, ?_,
    Nat.le_trans h.drawn (by simp), fun n hn => ?_⟩, rfl⟩
  · exact ⟨_, by rw [hrows, List.append_assoc],
      List.rel_append hlogs (.cons ⟨rfl, rfl, rfl, rfl⟩ .nil)⟩
  · have hn' : db.drawn + 2 ≤ n := hn
    obtain ⟨h₁, h₂, h₃, h₄, h₅, h₆⟩ := h.unused n (by omega)
    refine ⟨h₁, h₂, h₃, h₄, fun e he => ?_, h₆⟩
    rcases List.mem_append.mp he with he | he
    · exact h₅ e he
    · rw [List.mem_singleton.mp he]
      exact drawn_ne hinj (by omega)

lemma Adds.loggedAll (h : Adds env db₀ ⟨m, cs, os, ds, as, es⟩ db) (entries : List AuditEntry) :
    ∃ db', (appendEvents env m.id entries).run db = (.ok (), db') ∧
      Adds env db₀ ⟨m, cs, os, ds, as, es ++ entries⟩ db' := by
  induction entries generalizing db es with
  | nil => exact ⟨db, rfl, by simpa using h⟩
  | cons e rest ih =>
    obtain ⟨db₁, hrun, h₁, -⟩ := h.logged hinj e
    obtain ⟨db₂, hrun', h₂⟩ := ih h₁
    refine ⟨db₂, ?_, by simpa using h₂⟩
    rw [appendEvents, Tx.run_bind_of_ok hrun]
    exact hrun'

/-- Refused claims are recorded up to the first value that cannot be hashed. -/
lemma Adds.recordedAll (h : Adds env db₀ ⟨m, cs, os, ds, as, es⟩ db)
    (claims : List (MerchantClaim × String)) :
    match (claims.map fun claim => claim.1.attempted).findSome? encodeFailure with
    | some e => ∃ db', (recordAll env m.id claims).run db = (.error e, db')
    | none => ∃ db', (recordAll env m.id claims).run db = (.ok (), db') ∧
        Adds env db₀ ⟨m, cs, os, ds, as, es ++ escalationEntries claims⟩ db' := by
  induction claims generalizing db es with
  | nil => exact ⟨db, rfl, by simpa [escalationEntries] using h⟩
  | cons p rest ih =>
    obtain ⟨claim, field⟩ := p
    rw [List.map_cons, List.findSome?_cons]
    cases hencode : encodePayload claim.attempted with
    | error e =>
      rw [encodeFailure_eq_some.mpr hencode]
      exact ⟨_, Tx.run_bind_of_error (run_encoded_error hencode db)⟩
    | ok attempted =>
      obtain ⟨db₁, hrun, h₁, -⟩ := h.logged hinj (escalationEntry claim field attempted)
      have hrest := ih h₁
      have hentries : es ++ [escalationEntry claim field attempted] ++ escalationEntries rest =
          es ++ escalationEntries ((claim, field) :: rest) := by
        simp [escalationEntries, hencode, Except.toOption]
      rw [encodeFailure_eq_none.mpr ⟨attempted, hencode⟩]
      rw [recordAll, Tx.run_bind_of_ok (run_encoded_ok hencode db), Tx.run_bind_of_ok hrun, ← hentries]
      exact hrest

/-- A legal move of the mission is made and announced. -/
lemma Adds.transition (h : Adds env db₀ ⟨m, cs, os, ds, as, es⟩ db) (target : MissionState)
    (eventType : EventType) (actor : String) (payload : Dict)
    (hlegal : m.state.canTransition target = true) :
    ∃ db', (transition env m.id target eventType actor payload).run db = (.ok (), db') ∧
      Adds env db₀ ⟨{ m with state := target }, cs, os, ds, as, es ++ [⟨eventType, actor, payload⟩]⟩
        db' ∧ db'.drawn = db.drawn + 2 := by
  obtain ⟨db', hrun, h', hdrawn⟩ := (h.withState target).logged hinj ⟨eventType, actor, payload⟩
  refine ⟨db', ?_, h', hdrawn⟩
  unfold AgentOrchestrator.transition
  rw [Tx.run_bind_of_ok (Tx.run_get db), h.getMission]
  have hassert : (assertTransition m.state target : DbTx Unit).run db = (.ok (), db) :=
    assertTransition_ok.mpr ⟨hlegal, rfl⟩
  dsimp only
  rw [Tx.run_bind_of_ok hassert, Tx.run_bind_of_ok (Tx.run_modify _ _)]
  exact hrun

end Operations

-- ════════════════════════════════════════════════════════════════════════
-- Ingress and normalization
-- ════════════════════════════════════════════════════════════════════════

/-- The exception with which ingress refuses a raw offer, if it does. -/
def refusal (raw : RawMerchantOffer) (context : MerchantContext) : Option Exc :=
  if context.merchantId ≠ context.recordMerchantId then
    some (.invariantViolation "merchant.context_identity_matches_record"
      ("identity '" ++ context.merchantId ++ "' != record '" ++ context.recordMerchantId ++ "'"))
  else if ¬raw.offeredAt.InRange then some (.other "OverflowError" "date value out of range")
  else none

/-- The offer that normalization makes of a raw offer, under a given identifier. -/
def normalized (env : Env) (c : MissionConstraints) (offerId : Uuid) (raw : RawMerchantOffer)
    (context : MerchantContext) : ProvenancedOffer :=
  let offer := PolicyEngine.ingested env offerId raw context
  { offer with
    valid := (PolicyEngine.rejections offer c).isEmpty
    rejectionReasons := PolicyEngine.rejections offer c }

/-- The normalized offers, their identifiers drawn one after another. -/
def normalizedFrom (env : Env) (c : MissionConstraints) :
    Nat → List (RawMerchantOffer × MerchantContext) → List ProvenancedOffer
  | _, [] => []
  | n, (raw, context) :: rest =>
    normalized env c (env.uuid4 n) raw context :: normalizedFrom env c (n + 1) rest

section Normalization

variable {env : Env} {c : MissionConstraints}

lemma run_normalizeOffer (env : Env) (c : MissionConstraints) (raw : RawMerchantOffer)
    (context : MerchantContext) (db : Db) :
    (PolicyEngine.normalizeOffer env raw context c).run db =
      match refusal raw context with
      | some e => (.error e, db)
      | none => (.ok (normalized env c (env.uuid4 db.drawn) raw context),
          { db with drawn := db.drawn + 1 }) := by
  unfold PolicyEngine.normalizeOffer PolicyEngine.ingestMerchantOffer refusal
  by_cases hid : context.merchantId = context.recordMerchantId
  · by_cases hrange : raw.offeredAt.InRange
    · simp [hid, hrange, require, Tx.run_bind, normalized]
    · simp [hid, hrange, require, Tx.run_bind]
  · simp [hid, require, Tx.run_bind]

/-- Normalization of all offers returns them, or raises the first refusal. -/
theorem run_normalizeOffers (env : Env) (c : MissionConstraints)
    (raws : List (RawMerchantOffer × MerchantContext)) (db : Db) :
    match raws.findSome? (fun r => refusal r.1 r.2) with
    | some e => ∃ db', (PolicyEngine.normalizeOffers env c raws).run db = (.error e, db')
    | none => (PolicyEngine.normalizeOffers env c raws).run db =
        (.ok (normalizedFrom env c db.drawn raws), { db with drawn := db.drawn + raws.length }) := by
  induction raws generalizing db with
  | nil => rfl
  | cons r raws ih =>
    obtain ⟨raw, context⟩ := r
    have hone := run_normalizeOffer env c raw context db
    rw [List.findSome?_cons]
    rw [PolicyEngine.normalizeOffers]
    cases hr : refusal raw context with
    | some e =>
      rw [hr] at hone
      exact ⟨db, Tx.run_bind_of_error hone⟩
    | none =>
      rw [hr] at hone
      have hrest := ih { db with drawn := db.drawn + 1 }
      dsimp only
      rw [Tx.run_bind_of_ok hone]
      split
      · next e he =>
        rw [he] at hrest
        obtain ⟨db', hdb'⟩ := hrest
        exact ⟨db', Tx.run_bind_of_error hdb'⟩
      · next hnone =>
        rw [hnone] at hrest
        rw [Tx.run_bind_of_ok hrest]
        simp [normalizedFrom, Nat.add_assoc, Nat.add_comm 1]

lemma exists_drawn_of_mem {n : Nat} {raws : List (RawMerchantOffer × MerchantContext)}
    {o : ProvenancedOffer} (h : o ∈ normalizedFrom env c n raws) :
    ∃ k, n ≤ k ∧ k < n + raws.length ∧ o.offerId = env.uuid4 k := by
  induction raws generalizing n with
  | nil => cases h
  | cons r raws ih =>
    rcases List.mem_cons.mp h with rfl | h
    · exact ⟨n, le_refl n, by simp, rfl⟩
    · obtain ⟨k, hle, hlt, hk⟩ := ih h
      exact ⟨k, by omega, by simp only [List.length_cons]; omega, hk⟩

lemma nodup_offerId (hinj : Function.Injective env.uuid4) (n : Nat)
    (raws : List (RawMerchantOffer × MerchantContext)) :
    ((normalizedFrom env c n raws).map ProvenancedOffer.offerId).Nodup := by
  induction raws generalizing n with
  | nil => exact List.nodup_nil
  | cons r raws ih =>
    refine List.nodup_cons.mpr ⟨?_, ih (n + 1)⟩
    intro hmem
    obtain ⟨o, ho, hid⟩ := List.mem_map.mp hmem
    obtain ⟨k, hle, -, hk⟩ := exists_drawn_of_mem ho
    exact drawn_ne hinj (show n < k by omega) (hid.symm.trans hk)

end Normalization

-- ════════════════════════════════════════════════════════════════════════
-- Discovery
-- ════════════════════════════════════════════════════════════════════════

/-- An offer's row with the rank it was given. -/
def rankRow (ranked : List ProvenancedOffer) (row : Offer) : Offer :=
  match ranked.find? (fun o => decide (o.offerId = row.id)) with
  | some o => { row with rank := o.rank }
  | none => row

@[simp] lemma rankRow_id (ranked : List ProvenancedOffer) (row : Offer) :
    (rankRow ranked row).id = row.id := by
  unfold rankRow
  split <;> rfl

lemma rankRow_of_absent {ranked : List ProvenancedOffer} {row : Offer}
    (h : ∀ o ∈ ranked, o.offerId ≠ row.id) : rankRow ranked row = row := by
  have hnone : ranked.find? (fun o => decide (o.offerId = row.id)) = none := by simpa using h
  simp [rankRow, hnone]

/-- The row of a request's constraints. -/
def constraintsRow (id missionId : Uuid) (c : MissionConstraints) : MissionConstraintsRow :=
  { id := id, missionId := missionId, category := c.category, softBudgetInr := c.softBudgetInr,
    hardLimitInr := c.hardLimitInr, minRating := c.minRating, currency := c.currency,
    allowedMerchants := c.allowedMerchants, blockedMerchants := c.blockedMerchants,
    minMerchantTrust := c.minMerchantTrust }

/-- The dump of a request's constraints as it is hashed. -/
def constraintsJson (c : MissionConstraints) : Json := (PyJson.json? (dumpConstraints c)).getD .null

lemma constraintsJson_eq {c : MissionConstraints} {v : Json}
    (h : encodePayload (dumpConstraints c) = .ok v) : constraintsJson c = v := by
  rw [constraintsJson, PyJson.json?_eq_some.mpr (encodePayload_ok.mp h).2]
  rfl

/-- The entries of the events before enforcement, which say nothing about the offers. -/
def openingEntries (request : CreateMissionRequest) (quotes : List AuthenticatedQuote) :
    List AuditEntry :=
  [⟨.missionCreated, actor,
      [("raw_query", .ofOptStr request.rawQuery), ("quantity", .int request.quantity)]⟩,
   ⟨.intentParsed, actor, [("constraints", constraintsJson request.constraints)]⟩,
   ⟨.discoveryStarted, actor,
      [("merchants", .arr (quotes.map fun q => .obj
        [("merchant_id", .str q.context.merchantId), ("auth_method", .str "in_process_adapter"),
         ("known", .bool q.context.known)]))]⟩,
   ⟨.offersReceived, actor, [("raw_offer_count", .int (discover.contextualCount quotes))]⟩]

/-- The entries of the events after enforcement. -/
def offerEntries (offers : List ProvenancedOffer) : List AuditEntry :=
  (offers.filter ProvenancedOffer.identityMismatch).map spoofEntry ++
    [⟨.offersNormalized, actor,
        [("valid", .int (offers.countP ProvenancedOffer.valid)),
         ("invalid", .int (offers.countP (fun o => !o.valid))),
         ("tainted_merchant_fields", .arr
           (if offers.isEmpty then [] else PolicyEngine.merchantFields.map .str))]⟩,
     ⟨.offersRanked, actor,
        [("ranked", .arr ((PolicyEngine.rankOffers offers).map fun o => .obj
          [("offer_id", .str o.offerId.str), ("rank", .ofOptInt (o.rank.map Int.ofNat)),
           ("amount_inr", .int o.amountInr)]))]⟩]

/-- What discovery adds, given the identifiers it drew and the normalized offers. -/
def discovered (request : CreateMissionRequest) (quotes : List AuthenticatedQuote)
    (missionId constraintsId : Uuid) (offers : List ProvenancedOffer) : Additions :=
  { mission :=
      { id := missionId, rawQuery := request.rawQuery, quantity := request.quantity,
        state := .ranked }
    constraints := [constraintsRow constraintsId missionId request.constraints]
    offers := (offers.map (offerRow missionId)).map (rankRow (PolicyEngine.rankOffers offers))
    decisions := []
    authorizations := []
    entries := openingEntries request quotes ++
      escalationEntries (protectedClaims (merchantClaims quotes)) ++ offerEntries offers }

section Discovery

variable {env : Env} {db₀ db : Db} {m : Mission} {cs : List MissionConstraintsRow} {os : List Offer}
  {ds : List PolicyDecisionRow} {as : List AuthorizationRow} {es : List AuditEntry}
  (hinj : Function.Injective env.uuid4)

include hinj

/-- The mission is created under the first identifier that is drawn. -/
lemma Adds.created (hs : Supplied env db) (hm : m.id = env.uuid4 db.drawn) :
    ∃ db', (do
        let _ ← drawUuid env
        insertRow Mission.id Db.missions (fun db l => { db with missions := l }) m : DbTx Unit).run db =
          (.ok (), db') ∧
      Adds env db ⟨m, [], [], [], [], []⟩ db' ∧ db'.drawn = db.drawn + 1 := by
  have hfree := (hs.unused _ (le_refl _)).missions
  refine ⟨_, (Tx.run_bind_of_ok (run_drawUuid env db)).trans (run_insertRow (hm ▸ hfree)), ?_, rfl⟩
  refine ⟨?_, rfl, by simp, by simp, by simp, by simp, ⟨[], by simp, .nil⟩, by simp,
    fun n hn => ?_⟩
  · rw [Db.getMission, Table.find_eq_none, hm]
    exact hfree
  · have hn' : db.drawn + 1 ≤ n := hn
    obtain ⟨h₁, h₂, h₃, h₄, h₅, h₆⟩ := hs.unused n (by omega)
    refine ⟨fun m' hm' => ?_, h₂, h₃, h₄, h₅, h₆⟩
    rcases List.mem_append.mp hm' with hm' | hm'
    · exact h₁ m' hm'
    · rw [List.mem_singleton.mp hm', hm]
      exact drawn_ne hinj (by omega)

lemma Adds.insertedConstraints (h : Adds env db₀ ⟨m, cs, os, ds, as, es⟩ db)
    (row : MissionConstraintsRow) {k : Nat} (hrow : row.id = env.uuid4 k) (hk : k < db.drawn)
    (hfree : ∀ c ∈ db.missionConstraints, c.id ≠ env.uuid4 k) :
    ∃ db', (insertRow MissionConstraintsRow.id Db.missionConstraints
        (fun db l => { db with missionConstraints := l }) row).run db = (.ok (), db') ∧
      Adds env db₀ ⟨m, cs ++ [row], os, ds, as, es⟩ db' ∧ db'.drawn = db.drawn := by
  refine ⟨_, run_insertRow (hrow ▸ hfree), ?_, rfl⟩
  refine ⟨h.fresh, h.missions, by simp [h.constraints], h.offers, h.decisions, h.authorizations,
    h.events, h.drawn, fun n hn => ?_⟩
  obtain ⟨h₁, h₂, h₃, h₄, h₅, h₆⟩ := h.unused n hn
  refine ⟨h₁, fun c hc => ?_, h₃, h₄, h₅, h₆⟩
  rcases List.mem_append.mp hc with hc | hc
  · exact h₂ c hc
  · rw [List.mem_singleton.mp hc, hrow]
    exact drawn_ne hinj (Nat.lt_of_lt_of_le hk hn)

lemma Adds.withOffers (h : Adds env db₀ ⟨m, cs, os, ds, as, es⟩ db) {rows : List Offer}
    (hrows : ∀ o ∈ rows, ∃ k < db.drawn, o.id = env.uuid4 k) :
    Adds env db₀ ⟨m, cs, os ++ rows, ds, as, es⟩ { db with offers := db.offers ++ rows } := by
  refine ⟨h.fresh, h.missions, h.constraints, by simp [h.offers], h.decisions, h.authorizations,
    h.events, h.drawn, fun n hn => ?_⟩
  obtain ⟨h₁, h₂, h₃, h₄, h₅, h₆⟩ := h.unused n hn
  refine ⟨h₁, h₂, fun o ho => ?_, h₄, h₅, h₆⟩
  rcases List.mem_append.mp ho with ho | ho
  · exact h₃ o ho
  · obtain ⟨k, hk, hid⟩ := hrows o ho
    rw [hid]
    exact drawn_ne hinj (Nat.lt_of_lt_of_le hk hn)

omit hinj in
/-- Ranks are stored on the offers that were ranked, and on no other mission's. -/
lemma Adds.ranked (h : Adds env db₀ ⟨m, cs, os, ds, as, es⟩ db) (ranked : List ProvenancedOffer)
    (hother : ∀ o ∈ ranked, ∀ row ∈ db₀.offers, row.id ≠ o.offerId) :
    Adds env db₀ ⟨m, cs, os.map (rankRow ranked), ds, as, es⟩ (storeRanks ranked db) := by
  have hoffers : (storeRanks ranked db).offers = db₀.offers ++ os.map (rankRow ranked) := by
    show db.offers.map (rankRow ranked) = _
    rw [h.offers, List.map_append]
    congr 1
    conv_rhs => rw [← List.map_id db₀.offers]
    exact List.map_congr_left fun row hrow =>
      rankRow_of_absent fun o ho => (hother o ho row hrow).symm
  refine ⟨h.fresh, h.missions, h.constraints, hoffers, h.decisions, h.authorizations, h.events,
    h.drawn, fun n hn => ?_⟩
  obtain ⟨h₁, h₂, h₃, h₄, h₅, h₆⟩ := h.unused n hn
  refine ⟨h₁, h₂, fun o ho => ?_, h₄, h₅, h₆⟩
  obtain ⟨row, hrow, rfl⟩ := List.mem_map.mp (show o ∈ db.offers.map (rankRow ranked) from ho)
  rw [rankRow_id]
  exact h₃ row hrow

omit hinj in
lemma run_insertOffers {missionId : Uuid} {offers : List ProvenancedOffer}
    (hnew : ∀ o ∈ offers, ∀ row ∈ db.offers, row.id ≠ o.offerId)
    (hnodup : (offers.map ProvenancedOffer.offerId).Nodup) :
    (insertOffers missionId offers).run db =
      (.ok (), { db with offers := db.offers ++ offers.map (offerRow missionId) }) := by
  induction offers generalizing db with
  | nil => simp [insertOffers]
  | cons o rest ih =>
    obtain ⟨hfirst, hrest⟩ := List.nodup_cons.mp hnodup
    have hinsert : (insertRow Offer.id Db.offers (fun db l => { db with offers := l })
        (offerRow missionId o)).run db =
        (.ok (), { db with offers := db.offers ++ [offerRow missionId o] }) :=
      run_insertRow fun row hrow => hnew o (by simp) row hrow
    rw [insertOffers, Tx.run_bind_of_ok hinsert, ih ?_ hrest]
    · simp
    · intro o' ho' row hrow
      rcases List.mem_append.mp hrow with hrow | hrow
      · exact hnew o' (by simp [ho']) row hrow
      · rw [List.mem_singleton.mp hrow]
        exact fun he => hfirst (List.mem_map.mpr ⟨o', ho', he.symm⟩)

omit hinj in
lemma mem_assignRanks {n : Nat} {l : List ProvenancedOffer} {o : ProvenancedOffer}
    (h : o ∈ PolicyEngine.assignRanks n l) : ∃ o' ∈ l, ∃ r, o = { o' with rank := some r } := by
  induction l generalizing n with
  | nil => cases h
  | cons x l ih =>
    rcases List.mem_cons.mp h with rfl | h
    · exact ⟨x, by simp, n, rfl⟩
    · obtain ⟨o', ho', hr⟩ := ih h
      exact ⟨o', by simp [ho'], hr⟩

omit hinj in
/-- A ranked offer is one of the valid offers. -/
lemma mem_rankOffers {offers : List ProvenancedOffer} {o : ProvenancedOffer}
    (h : o ∈ PolicyEngine.rankOffers offers) :
    ∃ o' ∈ offers, o'.valid = true ∧ ∃ r, o = { o' with rank := some r } := by
  obtain ⟨o', ho', hr⟩ := mem_assignRanks h
  rw [List.mem_insertionSort, List.mem_filter] at ho'
  exact ⟨o', ho'.1, ho'.2, hr⟩

omit hinj in
/-- Normalization rejects every spoofed identity. -/
lemma spoofs_rejected (env : Env) (c : MissionConstraints) (n : Nat)
    (raws : List (RawMerchantOffer × MerchantContext)) :
    (normalizedFrom env c n raws).all (fun o => !o.identityMismatch || !o.valid) = true := by
  induction raws generalizing n with
  | nil => rfl
  | cons r raws ih =>
    obtain ⟨raw, context⟩ := r
    rw [normalizedFrom, List.all_cons, ih, Bool.and_true]
    by_cases hid : raw.merchantId = context.merchantId
    · simp [normalized, ProvenancedOffer.identityMismatch, PolicyEngine.ingested, hid]
    · simp [normalized, ProvenancedOffer.identityMismatch, PolicyEngine.ingested,
        PolicyEngine.rejections, hid]

/-- The normalized offers are stored under the identifiers that were drawn for them. -/
lemma Adds.insertedOffers (h : Adds env db₀ ⟨m, cs, os, ds, as, es⟩ db) (c : MissionConstraints)
    (raws : List (RawMerchantOffer × MerchantContext)) :
    ∃ db', (insertOffers m.id (normalizedFrom env c db.drawn raws)).run
        { db with drawn := db.drawn + raws.length } = (.ok (), db') ∧
      Adds env db₀ ⟨m, cs, os ++ (normalizedFrom env c db.drawn raws).map (offerRow m.id), ds, as, es⟩
        db' := by
  refine ⟨_, run_insertOffers ?_ (nodup_offerId hinj _ raws), ?_⟩
  · intro o ho row hrow
    obtain ⟨k, hle, -, hk⟩ := exists_drawn_of_mem ho
    rw [hk]
    exact (h.unused k hle).offers row hrow
  · refine (h.skip (Nat.le_add_right _ _)).withOffers hinj fun row hrow => ?_
    obtain ⟨o, ho, rfl⟩ := List.mem_map.mp hrow
    obtain ⟨k, -, hlt, hk⟩ := exists_drawn_of_mem ho
    exact ⟨k, hlt, hk⟩

end Discovery

/-- The first refusal of ingress, if there is one. -/
def firstRefusal (quotes : List AuthenticatedQuote) : Option Exc :=
  (PolicyEngine.contextualOffers quotes).findSome? (fun r => refusal r.1 r.2)

/-- The values that their authors chose at will, in the order in which they are hashed: the constraints
of the request, and what merchants claimed for protected policy fields. -/
def hashedValues (request : CreateMissionRequest) (quotes : List AuthenticatedQuote) : List PyJson :=
  dumpConstraints request.constraints ::
    (protectedClaims (merchantClaims quotes)).map fun claim => claim.1.attempted

/-- The exception for the first of these values that cannot be hashed, if there is one. -/
def hashFailure (request : CreateMissionRequest) (quotes : List AuthenticatedQuote) : Option Exc :=
  (hashedValues request quotes).findSome? encodeFailure

/-- The exception that ends discovery, if there is one: values are hashed before any offer is
normalized. -/
def obstacle (request : CreateMissionRequest) (quotes : List AuthenticatedQuote) : Option Exc :=
  (hashFailure request quotes).or (firstRefusal quotes)

/-- The normalized offers of a request, their identifiers drawn from a given draw on. -/
def offersFrom (env : Env) (request : CreateMissionRequest) (quotes : List AuthenticatedQuote)
    (n : Nat) : List ProvenancedOffer :=
  normalizedFrom env request.constraints n (PolicyEngine.contextualOffers quotes)

/-- Discovery returns the ranking, or raises the exception of the first obstacle. -/
theorem discover_ends {env : Env} {db : Db} (hs : Supplied env db) (request : CreateMissionRequest)
    (quotes : List AuthenticatedQuote) :
    match obstacle request quotes with
    | some e => ∃ db', (discover env request quotes).run db = (.error e, db')
    | none => ∃ k n db', db.drawn ≤ n ∧
        (discover env request quotes).run db = (.ok (env.uuid4 db.drawn,
            PolicyEngine.rankOffers (offersFrom env request quotes n)), db') ∧
          Adds env db (discovered request quotes (env.uuid4 db.drawn) (env.uuid4 k)
            (offersFrom env request quotes n)) db' := by
  have hinj := hs.distinct
  generalize hrun : (discover env request quotes).run db = out
  unfold discover at hrun
  obtain ⟨db₀, hrun₀, h₀, hn₀⟩ := Adds.created hinj hs (m :=
    ⟨env.uuid4 db.drawn, request.rawQuery, request.quantity, .created⟩) rfl
  replace hrun := Tx.rest_of_ok hrun₀ ((Tx.run_bind_of_ok (run_drawUuid env db)).symm.trans hrun)
  obtain ⟨db₁, hrun₁, h₁, hn₁⟩ := h₀.logged hinj ⟨.missionCreated, actor,
    [("raw_query", .ofOptStr request.rawQuery), ("quantity", .int request.quantity)]⟩
  replace hrun := Tx.rest_of_ok hrun₁ hrun
  obtain ⟨db₁', hdraw, h₁', hn₁', hfree⟩ := h₁.drewUuid
  replace hrun := Tx.rest_of_ok hdraw hrun
  obtain ⟨db₂, hrun₂, h₂, hn₂⟩ := h₁'.insertedConstraints hinj
    (constraintsRow (env.uuid4 db₁.drawn) (env.uuid4 db.drawn) request.constraints) rfl
    (by omega) hfree.constraints
  replace hrun := Tx.rest_of_ok hrun₂ hrun
  unfold obstacle hashFailure hashedValues
  rw [List.findSome?_cons]
  cases hencode : encodePayload (dumpConstraints request.constraints) with
  | error e =>
    rw [encodeFailure_eq_some.mpr hencode]
    exact ⟨_, hrun.symm.trans (Tx.run_bind_of_error (run_encoded_error hencode db₂))⟩
  | ok constraints =>
  rw [encodeFailure_eq_none.mpr ⟨constraints, hencode⟩]
  replace hrun := Tx.rest_of_ok (run_encoded_ok hencode db₂) hrun
  obtain rfl := constraintsJson_eq hencode
  obtain ⟨db₃, hrun₃, h₃, hn₃⟩ := h₂.transition hinj .intentParsed .intentParsed actor
    [("constraints", constraintsJson request.constraints)] rfl
  replace hrun := Tx.rest_of_ok hrun₃ hrun
  obtain ⟨db₄, hrun₄, h₄, hn₄⟩ := h₃.transition hinj .discovering .discoveryStarted actor
    [("merchants", .arr (quotes.map fun q => .obj
      [("merchant_id", .str q.context.merchantId), ("auth_method", .str "in_process_adapter"),
       ("known", .bool q.context.known)]))] rfl
  replace hrun := Tx.rest_of_ok hrun₄ hrun
  obtain ⟨db₅, hrun₅, h₅, hn₅⟩ := h₄.transition hinj .offersReceived .offersReceived actor
    [("raw_offer_count", .int (discover.contextualCount quotes))] rfl
  replace hrun := Tx.rest_of_ok hrun₅ hrun
  have hclaims := h₅.recordedAll hinj (protectedClaims (merchantClaims quotes))
  have henforce := run_enforceAuthority env (env.uuid4 db.drawn) request.constraints quotes db₅
  cases hfailure : ((protectedClaims (merchantClaims quotes)).map fun claim =>
      claim.1.attempted).findSome? encodeFailure with
  | some e =>
    rw [hfailure] at hclaims
    obtain ⟨db', hclaims⟩ := hclaims
    rw [Tx.run_bind_of_error hclaims] at henforce
    exact ⟨db', hrun.symm.trans (Tx.run_bind_of_error henforce)⟩
  | none =>
  rw [hfailure] at hclaims
  obtain ⟨db₆, hrun₆, h₆⟩ := hclaims
  rw [Tx.run_bind_of_ok hrun₆] at henforce
  replace hrun := Tx.rest_of_ok henforce hrun
  have hnormal := run_normalizeOffers env request.constraints (PolicyEngine.contextualOffers quotes)
    db₆
  unfold offersFrom
  dsimp only
  rw [Option.none_or]
  change match firstRefusal quotes with
    | some e => _
    | none => _ at hnormal
  split
  · next e he =>
    rw [he] at hnormal
    obtain ⟨db', hdb'⟩ := hnormal
    exact ⟨db', hrun.symm.trans (Tx.run_bind_of_error hdb')⟩
  · next hnone =>
    rw [hnone] at hnormal
    replace hrun := Tx.rest_of_ok hnormal hrun
    obtain ⟨db₇, hrun₇, h₇⟩ := h₆.insertedOffers hinj request.constraints
      (PolicyEngine.contextualOffers quotes)
    replace hrun := Tx.rest_of_ok hrun₇ hrun
    have hspoofs := spoofs_rejected env request.constraints db₆.drawn
      (PolicyEngine.contextualOffers quotes)
    have hmem := fun o => @exists_drawn_of_mem env request.constraints db₆.drawn
      (PolicyEngine.contextualOffers quotes) o
    generalize hoffers : normalizedFrom env request.constraints db₆.drawn
      (PolicyEngine.contextualOffers quotes) = offers at *
    obtain ⟨db₈, hrun₈, h₈⟩ := h₇.loggedAll hinj
      ((offers.filter ProvenancedOffer.identityMismatch).map spoofEntry)
    replace hrun := Tx.rest_of_ok hrun₈ hrun
    replace hrun := Tx.rest_of_ok (run_require hspoofs) hrun
    obtain ⟨db₉, hrun₉, h₉, hn₉⟩ := h₈.transition hinj .offersNormalized .offersNormalized actor
      [("valid", .int (offers.countP ProvenancedOffer.valid)),
       ("invalid", .int (offers.countP (fun o => !o.valid))),
       ("tainted_merchant_fields", .arr
         (if offers.isEmpty then [] else PolicyEngine.merchantFields.map .str))] rfl
    replace hrun := Tx.rest_of_ok hrun₉ hrun
    replace hrun := Tx.rest_of_ok (Tx.run_modify _ _) hrun
    have hranked := h₉.ranked (PolicyEngine.rankOffers offers) fun o ho row hrow => by
      obtain ⟨o', ho', -, r, rfl⟩ := mem_rankOffers ho
      obtain ⟨k, hle, -, hk⟩ := hmem o' ho'
      rw [show ({ o' with rank := some r } : ProvenancedOffer).offerId = env.uuid4 k from hk]
      exact (hs.unused k (h₆.drawn.trans hle)).offers row hrow
    obtain ⟨db₁₀, hrun₁₀, h₁₀, hn₁₀⟩ := hranked.transition hinj .ranked .offersRanked actor
      [("ranked", .arr ((PolicyEngine.rankOffers offers).map fun o => .obj
        [("offer_id", .str o.offerId.str), ("rank", .ofOptInt (o.rank.map Int.ofNat)),
         ("amount_inr", .int o.amountInr)]))] rfl
    replace hrun := Tx.rest_of_ok hrun₁₀ hrun
    refine ⟨db₁.drawn, db₆.drawn, db₁₀, h₆.drawn, ?_, ?_⟩
    · rw [hoffers]
      exact hrun.symm
    · rw [hoffers]
      simpa [discovered, openingEntries, offerEntries] using h₁₀

end AgentOrchestrator

end Pactra
