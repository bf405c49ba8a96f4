import Pactra.AgentOrchestrator.Orchestrator
import Pactra.SecurityKernel.Lifecycle

/-!
# What the creation of a mission commits

`Orchestrator.run` works on one fresh mission and only adds rows. A `Draft` is what it has added
so far, `Planning` says that a database is the one it started from with that draft added, and that
replay of the mission's events arrives at the draft's states. Each operation takes a plan to a plan.

## Main results

- `run_ok` — a mission that was created
- `run_refused` — a mission whose binding was refused
-/

namespace Pactra

namespace AgentOrchestrator

open Replay

/-- The rows that the creation of one mission has added, and the offers with their ranks. -/
structure Draft where
  mission : Mission
  constraints : List MissionConstraintsRow
  offers : List Offer
  decisions : List PolicyDecisionRow
  authorizations : List AuthorizationRow

/-- The draft with its mission in another state. -/
def Draft.moved (target : MissionState) (d : Draft) : Draft :=
  { d with mission := { d.mission with state := target } }

/-- What replay of the mission's events has to arrive at. -/
def Draft.view (d : Draft) : View :=
  { View.init with
    missionState := some d.mission.state
    authorizationStatus := d.authorizations.head?.map fun a => a.status.value }

/-- A database is another with a draft added. -/
structure Planning (db₀ : Db) (d : Draft) (db : Db) : Prop where
  fresh : db₀.getMission d.mission.id = none
  missions : db.missions = db₀.missions ++ [d.mission]
  constraints : db.missionConstraints = db₀.missionConstraints ++ d.constraints
  decisions : db.policyDecisions = db₀.policyDecisions ++ d.decisions
  authorizations : db.authorizations = db₀.authorizations ++ d.authorizations
  paymentIntents : db.paymentIntents = db₀.paymentIntents
  outboxEvents : db.outboxEvents = db₀.outboxEvents
  webhookEvents : db.webhookEvents = db₀.webhookEvents
  offers : db.offers = d.offers
  kept : ∀ o ∈ db₀.offers, ∃ r, { o with rank := r } ∈ d.offers
  events : ∃ entries, Recorded d.mission.id entries db₀ db ∧
    (∀ e ∈ entries, Readable e.payload) ∧ entries.foldl View.step View.init = d.view

/-- A refusal to bind, which is committed together with its record. -/
def IsBindRefusal : Exc → Prop
  | .bindRefusedOfferChanged _ _ _ _ => True
  | _ => False

-- ════════════════════════════════════════════════════════════════════════
-- Operations on a plan
-- ════════════════════════════════════════════════════════════════════════

section Operations

variable {db₀ db db' : Db} {d : Draft} (h : Planning db₀ d db)

include h

lemma Planning.drawn (n : Nat) : Planning db₀ d { db with drawn := n } := by
  obtain ⟨entries, hrec, hread, hview⟩ := h.events
  refine ⟨h.fresh, h.missions, h.constraints, h.decisions, h.authorizations, h.paymentIntents,
    h.outboxEvents, h.webhookEvents, h.offers, h.kept, entries, hrec.unaudited rfl, hread, hview⟩

lemma Planning.withOffers {l : List Offer}
    (hl : ∀ o ∈ db.offers, ∃ r, { o with rank := r } ∈ l) :
    Planning db₀ { d with offers := l } { db with offers := l } := by
  obtain ⟨entries, hrec, hread, hview⟩ := h.events
  refine ⟨h.fresh, h.missions, h.constraints, h.decisions, h.authorizations, h.paymentIntents,
    h.outboxEvents, h.webhookEvents, rfl, fun o ho => ?_, entries, hrec.unaudited rfl, hread,
    hview⟩
  obtain ⟨r, hr⟩ := h.kept o ho
  rw [← h.offers] at hr
  obtain ⟨r', hr'⟩ := hl _ hr
  exact ⟨r', hr'⟩

lemma Planning.withConstraints (c : MissionConstraintsRow) :
    Planning db₀ { d with constraints := d.constraints ++ [c] }
      { db with missionConstraints := db.missionConstraints ++ [c] } := by
  obtain ⟨entries, hrec, hread, hview⟩ := h.events
  exact ⟨h.fresh, h.missions, by simp [h.constraints], h.decisions, h.authorizations,
    h.paymentIntents, h.outboxEvents, h.webhookEvents, h.offers, h.kept, entries, hrec.unaudited rfl,
    hread, hview⟩

lemma Planning.withDecision (r : PolicyDecisionRow) :
    Planning db₀ { d with decisions := d.decisions ++ [r] }
      { db with policyDecisions := db.policyDecisions ++ [r] } := by
  obtain ⟨entries, hrec, hread, hview⟩ := h.events
  exact ⟨h.fresh, h.missions, h.constraints, by simp [h.decisions], h.authorizations,
    h.paymentIntents, h.outboxEvents, h.webhookEvents, h.offers, h.kept, entries, hrec.unaudited rfl,
    hread, hview⟩

lemma Planning.getMission : db.getMission d.mission.id = some d.mission := by
  rw [Db.getMission, h.missions, Table.find_insert]
  simp [show Table.find Mission.id d.mission.id db₀.missions = none from h.fresh]

/-- Events that say nothing about the draft. -/
lemma Planning.recorded {entries : List AuditEntry} (happ : Appended d.mission.id entries db db')
    (hentries : ∀ e ∈ entries, Readable e.payload ∧ ∀ v : View, v.step e = v) :
    Planning db₀ d db' := by
  obtain ⟨before, hrec, hread, hview⟩ := h.events
  refine ⟨h.fresh, happ.rows.missions.trans h.missions,
    happ.rows.missionConstraints.trans h.constraints,
    happ.rows.policyDecisions.trans h.decisions,
    happ.rows.authorizations.trans h.authorizations,
    happ.rows.paymentIntents.trans h.paymentIntents,
    happ.rows.outboxEvents.trans h.outboxEvents,
    happ.rows.webhookEvents.trans h.webhookEvents, happ.rows.offers.trans h.offers, h.kept,
    before ++ entries, hrec.trans happ.toRecorded, ?_, ?_⟩
  · intro e he
    rcases List.mem_append.mp he with he | he
    · exact hread e he
    · exact (hentries e he).1
  · have hkeep : ∀ (l : List AuditEntry), (∀ e ∈ l, ∀ v : View, v.step e = v) →
        ∀ v, l.foldl View.step v = v := by
      intro l
      induction l with
      | nil => exact fun _ _ => rfl
      | cons e l ih =>
        intro hl v
        rw [List.foldl_cons, hl e (by simp)]
        exact ih (fun e' he' => hl e' (by simp [he'])) v
    rw [List.foldl_append, hview, hkeep entries fun e he => (hentries e he).2]

/-- A change of the draft that one event announces. -/
lemma Planning.announced {d' : Draft} {entry : AuditEntry}
    (hentry : Recorded d.mission.id [entry] db db') (hread : Readable entry.payload)
    (hid : d'.mission.id = d.mission.id) (hm : db'.missions = db₀.missions ++ [d'.mission])
    (hc : db'.missionConstraints = db.missionConstraints ∧ d'.constraints = d.constraints)
    (hd : db'.policyDecisions = db.policyDecisions ∧ d'.decisions = d.decisions)
    (ha : db'.authorizations = db₀.authorizations ++ d'.authorizations)
    (hrest : db'.paymentIntents = db.paymentIntents ∧ db'.outboxEvents = db.outboxEvents ∧
      db'.webhookEvents = db.webhookEvents ∧ db'.offers = db.offers)
    (hoffers : d'.offers = d.offers) (hview : d.view.step entry = d'.view) : Planning db₀ d' db' := by
  obtain ⟨before, hrec, hbefore, hfold⟩ := h.events
  obtain ⟨hi, ho, hw, hoffers'⟩ := hrest
  refine ⟨hid ▸ h.fresh, hm, by rw [hc.1, hc.2, h.constraints], by rw [hd.1, hd.2, h.decisions],
    ha, hi.trans h.paymentIntents, ho.trans h.outboxEvents, hw.trans h.webhookEvents,
    hoffers'.trans (h.offers.trans hoffers.symm), fun o ho' => hoffers ▸ h.kept o ho',
    before ++ [entry], hid ▸ hrec.trans hentry, ?_, ?_⟩
  · intro e he
    rcases List.mem_append.mp he with he | he
    · exact hbefore e he
    · rw [List.mem_singleton.mp he]
      exact hread
  · rw [List.foldl_append, hfold]
    exact hview

/-- The mission table after the fresh mission took another state. -/
lemma Planning.missions_moved (target : MissionState) :
    (db.updateMission d.mission.id (fun m => { m with state := target })).missions =
      db₀.missions ++ [(d.moved target).mission] := by
  show Table.update Mission.id d.mission.id _ db.missions = _
  rw [h.missions, Table.update, List.map_append]
  congr 1
  · exact Table.update_of_absent h.fresh
  · simp [Draft.moved]

/-- A legal move of the mission that its event announces. -/
lemma Planning.transition {env : Env} {target : MissionState} {eventType : EventType}
    {actor : String} {payload : Dict}
    (hrun : (transition env d.mission.id target eventType actor payload).run db = (.ok (), db'))
    (hread : Readable payload)
    (hstep : ∀ v : View, v.step ⟨eventType, actor, payload⟩ = v.moved target) :
    Planning db₀ (d.moved target) db' := by
  unfold AgentOrchestrator.transition at hrun
  rw [Tx.run_bind_of_ok (Tx.run_get db), h.getMission] at hrun
  obtain ⟨⟨⟩, db₁, hassert, hrest⟩ := Tx.bind_ok.mp hrun
  obtain ⟨hlegal, rfl⟩ := assertTransition_ok.mp hassert
  rw [Tx.run_bind_of_ok (Tx.run_modify _ _)] at hrest
  have happ := appendEvent_ok hrest
  refine h.announced ⟨happ.sequenced, happ.chain⟩ hread rfl
    (happ.rows.missions.trans (h.missions_moved target)) ⟨happ.rows.missionConstraints, rfl⟩
    ⟨happ.rows.policyDecisions, rfl⟩ (happ.rows.authorizations.trans h.authorizations)
    ⟨happ.rows.paymentIntents, happ.rows.outboxEvents, happ.rows.webhookEvents, happ.rows.offers⟩
    rfl ?_
  rw [hstep]
  simp [View.moved, Draft.view, Draft.moved, MissionState.moved, hlegal]

/-- The mission's authorization is issued. -/
lemma Planning.issued {env : Env} {transaction : BoundTransaction} {scheme : ApprovalScheme}
    {row : AuthorizationRow} (hnone : d.authorizations = [])
    (hrun : (SecurityKernel.issueAuthorization env d.mission.id transaction scheme).run db =
      (.ok row, db')) :
    Planning db₀ { d with authorizations := [row] } db' ∧
      SecurityKernel.Issued d.mission.id transaction scheme row ∧
      db₀.getAuthorization row.authorizationId = none := by
  obtain ⟨hissued, -, hfree, entry, n, hentry, happ⟩ := SecurityKernel.issueAuthorization_ok hrun
  have hauths : db.authorizations = db₀.authorizations := by rw [h.authorizations, hnone, List.append_nil]
  refine ⟨?_, hissued, ?_⟩
  · refine h.announced ⟨happ.sequenced, happ.chain⟩ hentry.1 rfl
      (happ.rows.missions.trans h.missions) ⟨happ.rows.missionConstraints, rfl⟩
      ⟨happ.rows.policyDecisions, rfl⟩ ?_ ⟨happ.rows.paymentIntents, happ.rows.outboxEvents,
        happ.rows.webhookEvents, happ.rows.offers⟩ rfl ?_
    · rw [happ.rows.authorizations, ← hauths]
    · rw [hentry.2]
      simp [Draft.view, View.authorized, hissued.status]
  · rw [Db.getAuthorization, ← hauths]
    exact hfree

/-- The mission's authorization is activated by policy, and the mission authorized with it. -/
lemma Planning.activated {env : Env} {row : AuthorizationRow} (hrow : d.authorizations = [row])
    (hmission : row.missionId = d.mission.id)
    (hfresh : db₀.getAuthorization row.authorizationId = none)
    (hlegal : d.mission.state.canTransition .authorized = true)
    (hrun : (SecurityKernel.activateAuthorization env row.authorizationId).run db = (.ok (), db')) :
    Planning db₀ ({ d with authorizations := [{ row with status := .active }] }.moved .authorized)
      (db'.updateMission d.mission.id (fun m => { m with state := .authorized })) := by
  obtain ⟨a, entry, n, ha, -, hentry, happ⟩ := SecurityKernel.activateAuthorization_ok hrun
  have hfind : Table.find AuthorizationRow.authorizationId row.authorizationId db₀.authorizations =
      none := hfresh
  obtain rfl : row = a := by
    rw [Db.getAuthorization, h.authorizations, hrow, Table.find_insert, hfind] at ha
    simpa using ha
  rw [hmission] at happ
  refine h.announced ⟨happ.sequenced, happ.chain⟩ hentry.1 rfl ?_ ⟨happ.rows.missionConstraints, rfl⟩
    ⟨happ.rows.policyDecisions, rfl⟩ ?_ ⟨happ.rows.paymentIntents, happ.rows.outboxEvents,
      happ.rows.webhookEvents, happ.rows.offers⟩ rfl ?_
  · have hmoved := h.missions_moved .authorized
    simp only [Db.updateMission] at hmoved ⊢
    rw [happ.rows.missions]
    exact hmoved
  · show db'.authorizations = _
    rw [happ.rows.authorizations]
    show Table.update AuthorizationRow.authorizationId row.authorizationId _ db.authorizations = _
    rw [h.authorizations, hrow, Table.update, List.map_append]
    congr 1
    · exact Table.update_of_absent hfind
    · simp [Draft.moved]
  · rw [hentry.2]
    simp [View.moved, View.authorized, Draft.view, Draft.moved, MissionState.moved, hlegal]

end Operations

-- ════════════════════════════════════════════════════════════════════════
-- Discovery
-- ════════════════════════════════════════════════════════════════════════

lemma insertRow_ok {ρ : Type} {key : ρ → Uuid} {rows : Db → List ρ} {put : Db → List ρ → Db}
    {row : ρ} {db db' : Db} (h : (insertRow key rows put row).run db = (.ok (), db')) :
    Table.find key (key row) (rows db) = none ∧ db' = put db (rows db ++ [row]) := by
  change insertRow key rows put row db = _ at h
  unfold insertRow at h
  split at h
  · simp at h
  · next hfree => exact ⟨by simpa using hfree, (Prod.mk.inj h).2.symm⟩

lemma insertOffers_ok {missionId : Uuid} {offers : List ProvenancedOffer} {db db' : Db}
    (h : (insertOffers missionId offers).run db = (.ok (), db')) :
    db' = { db with offers := db.offers ++ offers.map (offerRow missionId) } := by
  induction offers generalizing db with
  | nil =>
    obtain ⟨-, rfl⟩ := Prod.mk.inj h
    simp
  | cons o os ih =>
    obtain ⟨⟨⟩, db₁, hinsert, hrest⟩ := Tx.bind_ok.mp h
    obtain ⟨-, rfl⟩ := insertRow_ok hinsert
    rw [ih hrest]
    simp

/-- Normalization only draws identifiers. -/
lemma normalizeOffers_ok {env : Env} {c : MissionConstraints}
    {raws : List (RawMerchantOffer × MerchantContext)} {db db' : Db}
    {offers : List ProvenancedOffer}
    (h : (PolicyEngine.normalizeOffers env c raws).run db = (.ok offers, db')) :
    ∃ n, db' = { db with drawn := n } := by
  induction raws generalizing db offers with
  | nil =>
    obtain ⟨-, rfl⟩ := Prod.mk.inj h
    exact ⟨db.drawn, rfl⟩
  | cons raw raws ih =>
    obtain ⟨raw, context⟩ := raw
    obtain ⟨o, db₁, hone, hrest⟩ := Tx.bind_ok.mp h
    obtain ⟨os, db₂, hmany, hpure⟩ := Tx.bind_ok.mp hrest
    obtain ⟨-, rfl⟩ := Prod.mk.inj hpure
    obtain ⟨n, rfl⟩ := ih hmany
    unfold PolicyEngine.normalizeOffer PolicyEngine.ingestMerchantOffer at hone
    obtain ⟨o', db₃, hingest, hone⟩ := Tx.bind_ok.mp hone
    obtain ⟨-, hdraw⟩ := require_bind_ok.mp hingest
    split at hdraw
    · simp at hdraw
    · rw [Tx.run_bind_of_ok (run_drawUuid env db)] at hdraw
      obtain ⟨-, rfl⟩ := Prod.mk.inj hdraw
      obtain ⟨-, rfl⟩ := Prod.mk.inj hone
      exact ⟨n, rfl⟩

lemma readable_escalation (claim : MerchantClaim) (field : String) (attempted : Json) :
    Readable (escalationEntry claim field attempted).payload ∧
      ∀ v : View, v.step (escalationEntry claim field attempted) = v := by
  refine ⟨?_, fun v => rfl⟩
  simp (disch := decide) [Readable, escalationEntry, acceptable_of_unread]

lemma readable_spoof (o : ProvenancedOffer) :
    Readable (spoofEntry o).payload ∧ ∀ v : View, v.step (spoofEntry o) = v := by
  refine ⟨?_, fun v => rfl⟩
  simp (disch := decide) [Readable, spoofEntry]

/-- The rank column is the only one that ranking writes. -/
lemma storeRanks_offers (ranked : List ProvenancedOffer) (db : Db) :
    ∀ o ∈ db.offers, ∃ r, { o with rank := r } ∈ (storeRanks ranked db).offers := by
  intro o ho
  cases hf : ranked.find? (fun x => decide (x.offerId = o.id)) with
  | none => exact ⟨o.rank, List.mem_map.mpr ⟨o, ho, by rw [hf]⟩⟩
  | some x => exact ⟨x.rank, List.mem_map.mpr ⟨o, ho, by rw [hf]⟩⟩

lemma readable_normalized (normalized : List ProvenancedOffer) :
    Readable [("valid", .int (normalized.countP ProvenancedOffer.valid)),
      ("invalid", .int (normalized.countP (fun o => !o.valid))),
      ("tainted_merchant_fields", .arr
        (if normalized.isEmpty then [] else PolicyEngine.merchantFields.map .str))] := by
  have hlist : (if normalized.isEmpty then [] else PolicyEngine.merchantFields.map Json.str) =
      (if normalized.isEmpty then [] else PolicyEngine.merchantFields).map fun s => .str s := by
    split <;> rfl
  rw [hlist]
  simp (disch := decide) [Readable]
  exact acceptable_texts (by decide) (fun s => s) _

/-- The plan of a mission that was just inserted. -/
lemma planning_created (db : Db) {db' : Db} {m : Mission} {n : Nat} {actor : String} {payload : Dict}
    (hfresh : Table.find Mission.id m.id db.missions = none) (hm : m.state = .created)
    (hread : Readable payload)
    (happ : Appended m.id [⟨.missionCreated, actor, payload⟩]
      { db with missions := db.missions ++ [m], drawn := n } db') :
    Planning db ⟨m, [], db.offers, [], []⟩ db' := by
  refine ⟨hfresh, happ.rows.missions, by simp [happ.rows.missionConstraints],
    by simp [happ.rows.policyDecisions], by simp [happ.rows.authorizations],
    happ.rows.paymentIntents, happ.rows.outboxEvents, happ.rows.webhookEvents,
    happ.rows.offers, fun o ho => ⟨o.rank, ho⟩, [⟨.missionCreated, actor, payload⟩], ?_, ?_, ?_⟩
  · exact ⟨fun hs => happ.sequenced hs, happ.chain⟩
  · simpa using hread
  · simp [View.step, View.moved, View.init, view, Draft.view, hm]

/-- What discovery leaves: a ranked mission with its constraints, and nothing else about it. -/
theorem discover_ok {env : Env} {request : CreateMissionRequest}
    {quotes : List AuthenticatedQuote} {db db' : Db} {id : Uuid} {ranked : List ProvenancedOffer}
    (h : (discover env request quotes).run db = (.ok (id, ranked), db')) :
    ∃ d : Draft, Planning db d db' ∧ d.mission.id = id ∧ d.mission.state = .ranked ∧
      d.mission.quantity = request.quantity ∧ d.decisions = [] ∧ d.authorizations = [] ∧
      ∃ c, d.constraints = [c] ∧ c.missionId = id ∧
        c.softBudgetInr = request.constraints.softBudgetInr ∧
        c.hardLimitInr = request.constraints.hardLimitInr := by
  unfold discover at h
  rw [Tx.run_bind_of_ok (run_drawUuid env db)] at h
  obtain ⟨⟨⟩, db₁, hmission, h₁⟩ := Tx.bind_ok.mp h
  obtain ⟨hfresh, rfl⟩ := insertRow_ok hmission
  obtain ⟨⟨⟩, db₂, hcreated, h₂⟩ := Tx.bind_ok.mp h₁
  have hp₀ := planning_created db hfresh rfl (by simp (disch := decide) [Readable])
    (appendEvent_ok hcreated)
  rw [Tx.run_bind_of_ok (run_drawUuid env db₂)] at h₂
  obtain ⟨⟨⟩, db₃, hconstraints, h₃⟩ := Tx.bind_ok.mp h₂
  obtain ⟨-, rfl⟩ := insertRow_ok hconstraints
  have hp₁ := (hp₀.drawn (db₂.drawn + 1)).withConstraints
  obtain ⟨constraints, hencode, h₃⟩ := encoded_bind_ok h₃
  obtain ⟨fields, rfl⟩ := dumpConstraints_obj hencode
  obtain ⟨⟨⟩, db₄, hparsed, h₄⟩ := Tx.bind_ok.mp h₃
  have hreadable : Readable [("constraints", .obj fields)] := by
    simp (disch := decide) [Readable, acceptable, textKeys, numberKeys, listKeys]
  have hp₂ := (hp₁ _).transition hparsed hreadable (fun _ => rfl)
  obtain ⟨⟨⟩, db₅, hdiscovering, h₅⟩ := Tx.bind_ok.mp h₄
  have hp₃ := hp₂.transition hdiscovering (by
    simp (disch := decide) [Readable, acceptable_of_unread]) (fun _ => rfl)
  obtain ⟨⟨⟩, db₆, hreceived, h₆⟩ := Tx.bind_ok.mp h₅
  have hp₄ := hp₃.transition hreceived (by
    simp (disch := decide) [Readable]) (fun _ => rfl)
  obtain ⟨register, db₇', henforce, h₇⟩ := Tx.bind_ok.mp h₆
  rw [run_enforceAuthority] at henforce
  obtain ⟨⟨⟩, db₇, hclaims, hregister⟩ := Tx.bind_ok.mp henforce
  obtain ⟨-, rfl⟩ := Prod.mk.inj hregister
  have hp₅ := hp₄.recorded (appendEvents_ok (recordAll_ok hclaims)) (by
    intro e he
    obtain ⟨claim, field, attempted, rfl⟩ := mem_escalationEntries he
    exact readable_escalation claim field attempted)
  obtain ⟨normalized, db₈, hnormal, h₈⟩ := Tx.bind_ok.mp h₇
  obtain ⟨n, rfl⟩ := normalizeOffers_ok hnormal
  obtain ⟨⟨⟩, db₉, hoffers, h₉⟩ := Tx.bind_ok.mp h₈
  obtain rfl := insertOffers_ok hoffers
  have hp₆ := (hp₅.drawn n).withOffers (l := db₇.offers ++ normalized.map (offerRow (env.uuid4 db.drawn)))
    fun o ho => ⟨o.rank, List.mem_append_left _ ho⟩
  obtain ⟨⟨⟩, db₁₀, hspoofs, h₁₀⟩ := Tx.bind_ok.mp h₉
  have hp₇ := hp₆.recorded (appendEvents_ok hspoofs) (by
    intro e he
    obtain ⟨o, -, rfl⟩ := List.mem_map.mp he
    exact readable_spoof o)
  obtain ⟨-, h₁₁⟩ := require_bind_ok.mp h₁₀
  obtain ⟨⟨⟩, db₁₁, hnormalized, h₁₂⟩ := Tx.bind_ok.mp h₁₁
  have hp₈ := hp₇.transition hnormalized (readable_normalized normalized) (fun _ => rfl)
  rw [Tx.run_bind_of_ok (Tx.run_modify _ _)] at h₁₂
  have hp₉ := hp₈.withOffers (storeRanks_offers (PolicyEngine.rankOffers normalized) db₁₁)
  obtain ⟨⟨⟩, db₁₂, hranked, hpure⟩ := Tx.bind_ok.mp h₁₂
  have hp₁₀ := hp₉.transition hranked (by
    simp (disch := decide) [Readable, acceptable_of_unread]) (fun _ => rfl)
  obtain ⟨hr, rfl⟩ := Prod.mk.inj hpure
  obtain ⟨rfl, rfl⟩ := Prod.mk.inj (Except.ok.inj hr)
  exact ⟨_, hp₁₀, rfl, rfl, rfl, rfl, rfl, _, rfl, rfl, rfl, rfl⟩

-- ════════════════════════════════════════════════════════════════════════
-- Policy and authorization
-- ════════════════════════════════════════════════════════════════════════

/-- What an authorization row of a mission rests on: the mission's constraints, a policy decision
that is not DENY, and the offer that decision selected. -/
structure Backed (env : Env) (db : Db) (a : AuthorizationRow) : Prop where
  mission : ∃ m ∈ db.missions, m.id = a.missionId ∧ a.boundQuantity = m.quantity
  limits : ∃ c ∈ db.missionConstraints, c.missionId = a.missionId ∧
    a.boundAmountInr ≤ c.hardLimitInr ∧
    (c.softBudgetInr < a.boundAmountInr → a.approvalScheme = .userEd25519)
  offer : ∃ d ∈ db.policyDecisions, d.missionId = a.missionId ∧ d.decision ≠ .deny ∧
    ∃ o ∈ db.offers, d.selectedOfferId = some o.id ∧ o.missionId = a.missionId ∧
      a.boundAmountInr = o.amountInr * a.boundQuantity ∧ a.boundMerchantId = o.merchantId ∧
      a.boundProductId = o.productId
  currency : env.upper a.boundCurrency = a.boundCurrency

lemma readable_decision (d : PolicyDecision) : Readable (dumpDecision d) := by
  simp (disch := decide) [Readable, dumpDecision]

/-- How the creation of a mission ended, with the draft it left. -/
inductive Outcome (env : Env) (db : Db) (d : Draft) : Prop
  | denied (hs : d.mission.state = .cancelled) (ha : d.authorizations = [])
  | refused (hs : d.mission.state = .policyChecked) (ha : d.authorizations = [])
  | awaiting (a : AuthorizationRow) (hs : d.mission.state = .awaitingApproval)
    (ha : d.authorizations = [a]) (hstatus : a.status = .pending)
    (hmission : a.missionId = d.mission.id) (hbacked : Backed env db a)
  | authorized (a : AuthorizationRow) (hs : d.mission.state = .authorized)
    (ha : d.authorizations = [a]) (hstatus : a.status = .active)
    (hmission : a.missionId = d.mission.id) (hbacked : Backed env db a)

/-- A database after the creation of one mission. -/
def Planned (env : Env) (db db' : Db) : Prop :=
  ∃ d : Draft, Planning db d db' ∧ Outcome env db' d ∧
    (∃ c, d.constraints = [c] ∧ c.missionId = d.mission.id) ∧
    (∃ r, d.decisions = [r] ∧ r.missionId = d.mission.id) ∧
    ∀ a ∈ d.authorizations, db.getAuthorization a.authorizationId = none

/-- A decision row, next to the decision it stores. -/
structure Decides (id : Uuid) (d : PolicyDecision) (r : PolicyDecisionRow) : Prop where
  missionId : r.missionId = id
  decision : r.decision = d.decision
  selectedOfferId : r.selectedOfferId = d.selectedOfferId

/-- A transaction that the orchestrator bound for an authorizable decision. -/
structure Binds (env : Env) (offers : List Offer) (id : Uuid) (d : PolicyDecision) (n : Int)
    (t : BoundTransaction) : Prop where
  authorizable : d.decision ≠ .deny
  amount : d.requestedAmount = some t.amountInr
  quantity : t.quantity = n
  currency : env.upper t.currency = t.currency
  offer : ∃ o ∈ offers, d.selectedOfferId = some o.id ∧ o.missionId = id ∧
    t.amountInr = o.amountInr * n ∧ t.merchantId = o.merchantId ∧ t.productId = o.productId

lemma bindSelected_ok {env : Env} {missionId : Uuid} {best : ProvenancedOffer}
    {decision : PolicyDecision} {quantity : Int} {db db' : Db} {t : BoundTransaction}
    (h : (bindSelected env missionId best decision quantity).run db = (.ok t, db')) :
    (∃ n, db' = { db with drawn := n }) ∧
      Binds env db.offers missionId decision quantity t := by
  unfold bindSelected at h
  rw [Tx.run_bind_of_ok (run_drawNow env db), Tx.run_bind_of_ok (run_drawToken env _)] at h
  rcases Tx.tryCatch_ok.mp h with hok | ⟨exc, db₁, -, hcaught⟩
  · obtain ⟨rfl, hdeny, o, ho, hid, hmission, hselected, hamount, hprice, hquantity, hmerchant,
      hproduct, hcurrency, -⟩ := SecurityKernel.buildBoundTransactionFromSelectedOffer_ok hok
    refine ⟨⟨_, rfl⟩, hdeny, hamount, hquantity, ?_, o, ho, hid ▸ hselected, hmission, hprice,
      hmerchant, hproduct⟩
    rw [hcurrency, env.upper_upper]
  · split at hcaught
    · obtain ⟨_, _, -, hraise⟩ := Tx.bind_ok.mp hcaught
      simp at hraise
    · simp at hcaught

/-- Binding only reads. -/
lemma buildBound_state (env : Env) (missionId offerId : Uuid) (version : String)
    (decision : PolicyDecision) (quantity : Int) (nonce : String) (expiresAt : Datetime)
    (db : Db) :
    ((SecurityKernel.buildBoundTransactionFromSelectedOffer env missionId offerId version decision
      quantity nonce expiresAt).run db).2 = db := by
  have hrequire : ∀ (c : Bool) (i d : String),
      Tx.Respects (Tx.Same (fun db : Db => db)) (require c i d : DbTx Unit) := by
    intro c i d db
    unfold require
    split <;> rfl
  suffices h : Tx.Respects (Tx.Same (fun db : Db => db))
      (SecurityKernel.buildBoundTransactionFromSelectedOffer env missionId offerId version decision
        quantity nonce expiresAt) from h db
  refine Tx.Respects.get.bind fun db => ?_
  split
  · exact .raise _
  · refine .ite (fun _ => .raise _) fun _ => .ite (fun _ => .raise _) fun _ => ?_
    refine (hrequire _ _ _).bind fun _ => (hrequire _ _ _).bind fun _ =>
      (hrequire _ _ _).bind fun _ => ?_
    split
    · exact .raise _
    · refine (hrequire _ _ _).bind fun _ => ?_
      split
      · exact .raise _
      · exact .pure _

/-- A refused binding leaves its record, which tells replay nothing about the mission. -/
lemma bindSelected_refused {env : Env} {missionId : Uuid} {best : ProvenancedOffer}
    {decision : PolicyDecision} {quantity : Int} {db db' : Db} {exc : Exc}
    (hexc : IsBindRefusal exc)
    (h : (bindSelected env missionId best decision quantity).run db = (.error exc, db')) :
    ∃ entry n, (Readable entry.payload ∧ ∀ v : View, v.step entry = v) ∧
      Appended missionId [entry] { db with drawn := n } db' := by
  unfold bindSelected at h
  rw [Tx.run_bind_of_ok (run_drawNow env db), Tx.run_bind_of_ok (run_drawToken env _),
    Tx.run_tryCatch] at h
  split at h
  · simp at h
  · next e db₁ hfailed =>
    have hstate := buildBound_state env missionId best.offerId best.offerVersion decision quantity
      (env.tokenHex (db.drawn + 1)) (env.utcnow db.drawn + Datetime.seconds env.authorizationTtlSeconds)
      { db with drawn := db.drawn + 1 + 1 }
    rw [hfailed] at hstate
    obtain rfl := hstate
    split at h
    · rcases Tx.bind_error.mp h with ha | ⟨⟨⟩, db₂, ha, hraise⟩
      · have hi := SecurityKernel.audit_error ha
        subst hi
        exact hexc.elim
      · obtain ⟨-, rfl⟩ := Prod.mk.inj hraise
        refine ⟨_, _, ⟨?_, fun v => rfl⟩, appendEvent_ok ha⟩
        simp (disch := decide) [Readable]
    · next hother =>
      obtain ⟨he, -⟩ := Prod.mk.inj h
      obtain rfl := Except.error.inj he
      cases e with
      | bindRefusedOfferChanged a b c d => exact absurd rfl (hother a b c d)
      | _ => exact hexc.elim

/-- What an issued authorization of a bound transaction rests on. -/
lemma backed_of_binds {env : Env} {db : Db} {c : MissionConstraints} {best : ProvenancedOffer}
    {m : Mission} {row : AuthorizationRow} {cr : MissionConstraintsRow} {r : PolicyDecisionRow}
    {t : BoundTransaction} {status : AuthorizationStatus}
    (hbinds : Binds env db.offers m.id (PolicyEngine.evaluate c (some best) m.quantity) m.quantity t)
    (hissued : SecurityKernel.Issued m.id t
      (if (PolicyEngine.evaluate c (some best) m.quantity).decision = .requireApproval
        then .userEd25519 else .policyAuto) row)
    (hm : m ∈ db.missions) (hcr : cr ∈ db.missionConstraints) (hcm : cr.missionId = m.id)
    (hsoft : cr.softBudgetInr = c.softBudgetInr) (hhard : cr.hardLimitInr = c.hardLimitInr)
    (hr : r ∈ db.policyDecisions)
    (hdecides : Decides m.id (PolicyEngine.evaluate c (some best) m.quantity) r) :
    Backed env db { row with status := status } := by
  obtain ⟨hle, happroval⟩ := PolicyEngine.evaluate_amount hbinds.authorizable hbinds.amount
  obtain ⟨o, ho, hselected, homission, hprice, hmerchant, hproduct⟩ := hbinds.offer
  refine ⟨⟨m, hm, hissued.missionId.symm, ?_⟩, ⟨cr, hcr, ?_, ?_, ?_⟩, ⟨r, hr, ?_, ?_, o, ho, ?_⟩, ?_⟩
  · exact hissued.quantity.trans hbinds.quantity
  · exact hcm.trans hissued.missionId.symm
  · rw [hhard]
    exact hissued.amountInr ▸ hle
  · intro hover
    rw [hsoft] at hover
    have := happroval (hissued.amountInr ▸ hover)
    show row.approvalScheme = _
    rw [hissued.scheme, if_pos this]
  · exact hdecides.missionId.trans hissued.missionId.symm
  · exact hdecides.decision ▸ hbinds.authorizable
  · refine ⟨hdecides.selectedOfferId.trans hselected, homission.trans hissued.missionId.symm, ?_,
      hissued.merchantId.trans hmerchant, hissued.productId.trans hproduct⟩
    show row.boundAmountInr = o.amountInr * row.boundQuantity
    rw [hissued.amountInr, hissued.quantity, hbinds.quantity, hprice]
  · show env.upper row.boundCurrency = row.boundCurrency
    rw [hissued.currency, hbinds.currency]

/-- The draft of a mission whose policy decision is stored. -/
structure Decided (request : CreateMissionRequest) (decision : PolicyDecision) (d : Draft) :
    Prop where
  state : d.mission.state = .policyChecked
  quantity : d.mission.quantity = request.quantity
  authorizations : d.authorizations = []
  constraints : ∃ c, d.constraints = [c] ∧ c.missionId = d.mission.id ∧
    c.softBudgetInr = request.constraints.softBudgetInr ∧
    c.hardLimitInr = request.constraints.hardLimitInr
  decisions : ∃ r, d.decisions = [r] ∧ Decides d.mission.id decision r

lemma decided {env : Env} {request : CreateMissionRequest} {quotes : List AuthenticatedQuote}
    {db db₁ db₂ db₃ : Db} {id : Uuid} {ranked : List ProvenancedOffer} {decision : PolicyDecision}
    {row : PolicyDecisionRow} {n : Nat}
    (hdiscover : (discover env request quotes).run db = (.ok (id, ranked), db₁))
    (hrow : Decides id decision row)
    (hinsert : (insertRow PolicyDecisionRow.id Db.policyDecisions
      (fun db l => { db with policyDecisions := l }) row).run { db₁ with drawn := n } =
        (.ok (), db₂))
    (hchecked : (transition env id .policyChecked .policyDecision "policy-engine"
      (dumpDecision decision)).run db₂ = (.ok (), db₃)) :
    ∃ d, Planning db d db₃ ∧ d.mission.id = id ∧ Decided request decision d := by
  obtain ⟨d, hplan, rfl, -, hquantity, hdecisions, hauths, hconstraints⟩ := discover_ok hdiscover
  obtain ⟨-, rfl⟩ := insertRow_ok hinsert
  have hstored := ((hplan.drawn n).withDecision row).transition hchecked
    (readable_decision decision) (fun _ => rfl)
  refine ⟨_, hstored, rfl, rfl, hquantity, hauths, hconstraints, row, ?_, hrow⟩
  simp [Draft.moved, hdecisions]

/-- An authorizable decision that was bound: the mission awaits approval, or is authorized. -/
lemma authorize_ok {env : Env} {request : CreateMissionRequest} {best : ProvenancedOffer}
    {t : BoundTransaction} {db₀ db db' : Db} {d : Draft} (hplan : Planning db₀ d db)
    (hd : Decided request (PolicyEngine.evaluate request.constraints (some best) request.quantity) d)
    (hbinds : Binds env db.offers d.mission.id
      (PolicyEngine.evaluate request.constraints (some best) request.quantity) request.quantity t)
    (h : (authorize env d.mission.id
      (PolicyEngine.evaluate request.constraints (some best) request.quantity) t).run db =
        (.ok (), db')) : Planned env db₀ db' := by
  obtain ⟨c, hc, hcm, hsoft, hhard⟩ := hd.constraints
  obtain ⟨r, hr, hdecides⟩ := hd.decisions
  rw [← hd.quantity] at hbinds h hdecides
  unfold authorize at h
  obtain ⟨row, db₁, hissue, hrest⟩ := Tx.bind_ok.mp h
  obtain ⟨hplan₁, hissued, hfree⟩ := hplan.issued hd.authorizations hissue
  -- the rows the authorization rests on are in every later database of the plan
  have hbacked : ∀ {d' : Draft} {db'' : Db} (status : AuthorizationStatus), Planning db₀ d' db'' →
      d'.mission.id = d.mission.id → d'.mission.quantity = d.mission.quantity →
      d'.constraints = d.constraints → d'.decisions = d.decisions → d'.offers = d.offers →
      Backed env db'' { row with status := status } := by
    intro d' db'' status hp hid hq hcs hds hos
    have hbinds' : Binds env db''.offers d'.mission.id
        (PolicyEngine.evaluate request.constraints (some best) d'.mission.quantity)
        d'.mission.quantity t := by
      rw [hp.offers, hos, ← hplan.offers, hid, hq]
      exact hbinds
    refine backed_of_binds hbinds' (by rw [hid, hq]; exact hissued) ?_ ?_ (hcm.trans hid.symm) hsoft
      hhard ?_ (by rw [hid, hq]; exact hdecides)
    · simp [hp.missions]
    · simp [hp.constraints, hcs, hc]
    · simp [hp.decisions, hds, hr]
  have hmission := hissued.missionId
  split at hrest
  · have hplan₂ := hplan₁.transition hrest (by simp (disch := decide) [Readable])
      (fun _ => rfl)
    refine ⟨_, hplan₂, .awaiting row rfl rfl hissued.status hmission ?_, ⟨c, hc, hcm⟩,
      ⟨r, hr, hdecides.missionId⟩, ?_⟩
    · exact hbacked row.status hplan₂ rfl rfl rfl rfl rfl
    · intro a ha
      rw [List.mem_singleton.mp ha]
      exact hfree
  · obtain ⟨⟨⟩, db₂, hactivate, hlast⟩ := Tx.bind_ok.mp hrest
    have hlegal : d.mission.state.canTransition .authorized = true := by
      rw [hd.state]
      rfl
    have hplan₂ := hplan₁.activated rfl hmission hfree hlegal hactivate
    rw [Tx.run_bind_of_ok (Tx.run_get db₂)] at hlast
    split at hlast
    · simp at hlast
    · obtain ⟨⟨⟩, db₃, hassert, hmodify⟩ := Tx.bind_ok.mp hlast
      obtain ⟨-, rfl⟩ := assertTransition_ok.mp hassert
      obtain ⟨-, rfl⟩ := Prod.mk.inj hmodify
      refine ⟨_, hplan₂, .authorized _ rfl rfl rfl hmission ?_, ⟨c, hc, hcm⟩,
        ⟨r, hr, hdecides.missionId⟩, ?_⟩
      · exact hbacked .active hplan₂ rfl rfl rfl rfl rfl
      · intro a ha
        rw [List.mem_singleton.mp ha]
        exact hfree

/-- A mission that was created. -/
theorem run_ok {env : Env} {request : CreateMissionRequest} {quotes : List AuthenticatedQuote}
    {db db' : Db} {id : Uuid} (h : (run env request quotes).run db = (.ok id, db')) :
    Planned env db db' := by
  unfold run at h
  obtain ⟨⟨id', ranked⟩, db₁, hdiscover, h₁⟩ := Tx.bind_ok.mp h
  dsimp only at h₁
  rw [Tx.run_bind_of_ok (run_drawUuid env db₁), Tx.run_bind_of_ok (run_drawNow env _)] at h₁
  obtain ⟨⟨⟩, db₂, hinsert, h₂⟩ := Tx.bind_ok.mp h₁
  obtain ⟨⟨⟩, db₃, hchecked, h₃⟩ := Tx.bind_ok.mp h₂
  obtain ⟨d, hplan, rfl, hd⟩ := decided hdiscover ⟨rfl, rfl, rfl⟩ hinsert hchecked
  obtain ⟨c, hc, hcm, -, -⟩ := hd.constraints
  obtain ⟨r, hr, hdecides⟩ := hd.decisions
  split at h₃
  · obtain ⟨⟨⟩, db₄, hdenied, hpure⟩ := Tx.bind_ok.mp h₃
    obtain ⟨-, rfl⟩ := Prod.mk.inj hpure
    have hplan₂ := hplan.transition hdenied (by simp (disch := decide) [Readable])
      (fun _ => rfl)
    refine ⟨_, hplan₂, .denied rfl hd.authorizations, ⟨c, hc, hcm⟩, ⟨r, hr, hdecides.missionId⟩, ?_⟩
    intro a ha
    rw [show (d.moved .cancelled).authorizations = [] from hd.authorizations] at ha
    cases ha
  · split at h₃
    · simp at h₃
    · next best hbest =>
      obtain ⟨t, db₄, hbind, h₄⟩ := Tx.bind_ok.mp h₃
      obtain ⟨⟨⟩, db₅, hauthorize, hpure⟩ := Tx.bind_ok.mp h₄
      obtain ⟨-, rfl⟩ := Prod.mk.inj hpure
      obtain ⟨⟨n, rfl⟩, hbinds⟩ := bindSelected_ok hbind
      rw [hbest] at hd hbinds hauthorize
      exact authorize_ok (hplan.drawn n) hd hbinds hauthorize

-- ════════════════════════════════════════════════════════════════════════
-- Refused bindings
-- ════════════════════════════════════════════════════════════════════════

/-- A computation that does not refuse to bind. -/
def Binding {α : Type} (x : DbTx α) : Prop := Tx.Raises (fun e => ¬IsBindRefusal e) x

section Binding

variable {env : Env}

lemma Binding.bind {α β : Type} {x : DbTx α} {f : α → DbTx β} (hx : Binding x)
    (hf : ∀ a, Binding (f a)) : Binding (x >>= f) := Tx.Raises.bind hx hf

lemma Binding.pure {α : Type} (a : α) : Binding (Pure.pure a : DbTx α) := Tx.Raises.pure a

lemma Binding.raise {α : Type} {e : Exc} (h : ¬IsBindRefusal e) : Binding (Tx.raise e : DbTx α) :=
  Tx.Raises.raise h

lemma Binding.ite {α : Type} {c : Prop} [Decidable c] {x y : DbTx α} (hx : Binding x)
    (hy : Binding y) : Binding (if c then x else y) := Tx.Raises.ite hx hy

lemma Binding.get : Binding (Tx.get : DbTx Db) := Tx.Raises.get

lemma Binding.modify (f : Db → Db) : Binding (Tx.modify f) := Tx.Raises.modify f

lemma Binding.draws {α : Type} {x : DbTx α} (h : ∀ db, ∃ a db', x.run db = (.ok a, db')) :
    Binding x := Tx.Raises.of_ok h

lemma Binding.require (c : Bool) (i d : String) : Binding (Pactra.require c i d : DbTx Unit) := by
  unfold Pactra.require
  exact .ite (.pure _) (.raise (fun h => h))

lemma Binding.insertRow {ρ : Type} {key : ρ → Uuid} {rows : Db → List ρ} {put : Db → List ρ → Db}
    {row : ρ} : Binding (insertRow key rows put row) := by
  intro db e db' h
  change AgentOrchestrator.insertRow key rows put row db = _ at h
  unfold AgentOrchestrator.insertRow at h
  split at h
  · obtain rfl := Except.error.inj (Prod.mk.inj h).1
    exact id
  · simp at h

lemma Binding.appendEvent (missionId : Uuid) (entry : AuditEntry) :
    Binding (appendEvent env missionId entry) := by
  intro db e db' h
  rw [run_appendEvent] at h
  dsimp only at h
  split at h
  · obtain rfl := Except.error.inj (Prod.mk.inj h).1
    exact id
  · simp at h

lemma Binding.appendEvents (missionId : Uuid) (entries : List AuditEntry) :
    Binding (appendEvents env missionId entries) := by
  induction entries with
  | nil => exact .pure _
  | cons e es ih => exact (Binding.appendEvent missionId e).bind fun _ => ih

lemma Binding.assertTransition (s t : MissionState) :
    Binding (Pactra.assertTransition s t : DbTx Unit) := by
  unfold Pactra.assertTransition
  exact .ite (.pure _) (.raise (fun h => h))

lemma Binding.transition (missionId : Uuid) (target : MissionState) (eventType : EventType)
    (actor : String) (payload : Dict) :
    Binding (transition env missionId target eventType actor payload) := by
  refine Binding.get.bind fun db => ?_
  split
  · exact .raise (fun h => h)
  · exact (Binding.assertTransition _ _).bind fun _ => (Binding.modify _).bind fun _ =>
      .appendEvent _ _

lemma Binding.normalizeOffers (c : MissionConstraints)
    (raws : List (RawMerchantOffer × MerchantContext)) :
    Binding (PolicyEngine.normalizeOffers env c raws) := by
  induction raws with
  | nil => exact .pure _
  | cons raw raws ih =>
    refine Binding.bind ?_ fun _ => ih.bind fun _ => .pure _
    refine Binding.bind ?_ fun _ => .pure _
    refine (Binding.require _ _ _).bind fun _ => .ite (.raise (fun h => h)) ?_
    exact Binding.bind (.draws fun db => ⟨_, _, run_drawUuid env db⟩) fun _ => .pure _

lemma Binding.encoded (value : PyJson) : Binding (encoded env value) := by
  unfold Pactra.encoded
  cases hencode : encodePayload value with
  | ok v => exact .pure _
  | error exc =>
    refine Binding.bind (.draws fun db => ⟨_, _, run_drawNow env db⟩) fun _ => .raise ?_
    rcases encodePayload_error hencode with rfl | rfl
    · exact fun h => h
    · exact fun h => h

lemma Binding.recordAll (missionId : Uuid) (claims : List (MerchantClaim × String)) :
    Binding (recordAll env missionId claims) := by
  induction claims with
  | nil => exact .pure _
  | cons p claims ih =>
    exact (Binding.encoded _).bind fun _ => (Binding.appendEvent _ _).bind fun _ => ih

lemma Binding.enforceAuthority (missionId : Uuid) (c : MissionConstraints)
    (quotes : List AuthenticatedQuote) : Binding (enforceAuthority env missionId c quotes) := by
  intro db e db' h
  rw [run_enforceAuthority] at h
  exact (Binding.recordAll _ _).bind (fun _ => .pure _) db e db' h

lemma Binding.insertOffers (missionId : Uuid) (offers : List ProvenancedOffer) :
    Binding (insertOffers missionId offers) := by
  induction offers with
  | nil => exact .pure _
  | cons o os ih => exact Binding.insertRow.bind fun _ => ih

lemma Binding.discover (request : CreateMissionRequest) (quotes : List AuthenticatedQuote) :
    Binding (discover env request quotes) := by
  have huuid : Binding (drawUuid env) := .draws fun db => ⟨_, _, run_drawUuid env db⟩
  refine huuid.bind fun _ => Binding.insertRow.bind fun _ => (Binding.appendEvent _ _).bind
    fun _ => huuid.bind fun _ => Binding.insertRow.bind fun _ => (Binding.encoded _).bind fun _ =>
    (Binding.transition _ _ _ _ _).bind fun _ => (Binding.transition _ _ _ _ _).bind fun _ =>
    (Binding.transition _ _ _ _ _).bind fun _ => ?_
  refine (Binding.enforceAuthority _ _ _).bind fun _ => (Binding.normalizeOffers _ _).bind fun _ =>
    (Binding.insertOffers _ _).bind fun _ => (Binding.appendEvents _ _).bind fun _ =>
    (Binding.require _ _ _).bind fun _ => (Binding.transition _ _ _ _ _).bind fun _ => ?_
  exact (Binding.modify _).bind fun _ => (Binding.transition _ _ _ _ _).bind fun _ => .pure _

lemma Binding.audit (missionId : Uuid) (eventType : EventType) (payload : Dict) :
    Binding (SecurityKernel.audit env missionId eventType payload) := .appendEvent _ _

lemma Binding.classifyAndRaise {α : Type} (authorizationId : Uuid) (now : Datetime)
    (expected : AuthorizationStatus) :
    Binding (SecurityKernel.classifyAndRaise env authorizationId none now expected : DbTx α) := by
  have hreload : Binding (SecurityKernel.reload authorizationId) :=
    .draws fun db => ⟨_, _, rfl⟩
  refine hreload.bind fun row => ?_
  cases row with
  | none => exact .raise (fun h => h)
  | some row =>
    refine .ite ((Binding.audit _ _ _).bind fun _ => .raise (fun h => h)) ?_
    refine .ite (Binding.bind ?_ fun _ => .raise (fun h => h)) (.raise (fun h => h))
    intro db e db' he
    rw [SecurityKernel.expireIfStale_error he]
    exact id

lemma Binding.authorize (missionId : Uuid) (decision : PolicyDecision) (t : BoundTransaction) :
    Binding (authorize env missionId decision t) := by
  have hnow : Binding (drawNow env) := .draws fun db => ⟨_, _, run_drawNow env db⟩
  have huuid : Binding (drawUuid env) := .draws fun db => ⟨_, _, run_drawUuid env db⟩
  have hreload : ∀ id, Binding (SecurityKernel.reload id) := fun id => .draws fun db => ⟨_, _, rfl⟩
  refine Binding.bind ?_ fun row => .ite (.transition _ _ _ _ _) (Binding.bind ?_ fun _ =>
    Binding.get.bind fun db => ?_)
  · refine (Binding.require _ _ _).bind fun _ => hnow.bind fun _ => (Binding.require _ _ _).bind
      fun _ => huuid.bind fun _ => Binding.get.bind fun db => .ite (.raise (fun h => h)) ?_
    exact (Binding.modify _).bind fun _ => (Binding.audit _ _ _).bind fun _ => .pure _
  · refine hnow.bind fun now => Binding.bind ?_ fun changed => .ite (.classifyAndRaise _ _ _) ?_
    · intro db e db' he
      exact (SecurityKernel.applyTransition_no_error he).elim
    · refine (hreload _).bind fun row => ?_
      cases row with
      | none => exact .raise (fun h => h)
      | some row => exact .audit _ _ _
  · split
    · exact .raise (fun h => h)
    · exact (Binding.assertTransition _ _).bind fun _ => .modify _

end Binding

/-- A mission whose binding was refused: it stays where the policy decision left it. -/
theorem run_refused {env : Env} {request : CreateMissionRequest} {quotes : List AuthenticatedQuote}
    {db db' : Db} {exc : Exc} (hexc : IsBindRefusal exc)
    (h : (run env request quotes).run db = (.error exc, db')) : Planned env db db' := by
  unfold run at h
  rcases Tx.bind_error.mp h with he | ⟨⟨id, ranked⟩, db₁, hdiscover, h₁⟩
  · exact absurd hexc (Binding.discover request quotes db exc db' he)
  dsimp only at h₁
  rw [Tx.run_bind_of_ok (run_drawUuid env db₁), Tx.run_bind_of_ok (run_drawNow env _)] at h₁
  rcases Tx.bind_error.mp h₁ with he | ⟨⟨⟩, db₂, hinsert, h₂⟩
  · exact absurd hexc (Binding.insertRow _ exc db' he)
  rcases Tx.bind_error.mp h₂ with he | ⟨⟨⟩, db₃, hchecked, h₃⟩
  · exact absurd hexc (Binding.transition _ _ _ _ _ db₂ exc db' he)
  obtain ⟨d, hplan, rfl, hd⟩ := decided hdiscover ⟨rfl, rfl, rfl⟩ hinsert hchecked
  split at h₃
  · exact absurd hexc ((Binding.transition _ _ _ _ _).bind (fun _ => .pure _) db₃ exc db' h₃)
  split at h₃
  · obtain rfl := Except.error.inj (Prod.mk.inj h₃).1
    exact hexc.elim
  rcases Tx.bind_error.mp h₃ with hbind | ⟨t, db₄, -, h₄⟩
  · obtain ⟨entry, n, hentry, happ⟩ := bindSelected_refused hexc hbind
    obtain ⟨c, hc, hcm, -, -⟩ := hd.constraints
    obtain ⟨r, hr, hdecides⟩ := hd.decisions
    refine ⟨d, (hplan.drawn n).recorded happ ?_, .refused hd.state hd.authorizations, ⟨c, hc, hcm⟩,
      ⟨r, hr, hdecides.missionId⟩, ?_⟩
    · intro e he
      rw [List.mem_singleton.mp he]
      exact hentry
    · intro a ha
      rw [hd.authorizations] at ha
      cases ha
  · exact absurd hexc ((Binding.authorize _ _ _).bind (fun _ => .pure _) db₄ exc db' h₄)

end AgentOrchestrator

end Pactra
