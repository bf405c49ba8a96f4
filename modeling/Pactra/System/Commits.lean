import Pactra.AgentOrchestrator.Planning
import Pactra.PaymentExecutor.Effects.Agreement
import Pactra.System.World

/-!
# What a commit does to the database

## Main results

- `commitTurn_ok`, `commitWebhook_ok` — a unit of work became durable
- `finishIntent_ok` — an intent was committed together with its consumed authorization
- `resolveExisting_ok` — an existing intent was returned
-/

namespace Pactra

open PaymentExecutor Replay

-- ════════════════════════════════════════════════════════════════════════
-- Lookups after an update
-- ════════════════════════════════════════════════════════════════════════

lemma getMission_update (db : Db) (id id' : Uuid) {f : Mission → Mission}
    (hf : ∀ m, m.id = id → (f m).id = id) :
    (db.updateMission id f).getMission id' =
      if id' = id then (db.getMission id').map f else db.getMission id' :=
  Table.find_update hf

lemma getPaymentIntent_update (db : Db) (id id' : Uuid) {f : PaymentIntentRow → PaymentIntentRow}
    (hf : ∀ i, i.id = id → (f i).id = id) :
    (db.updatePaymentIntent id f).getPaymentIntent id' =
      if id' = id then (db.getPaymentIntent id').map f else db.getPaymentIntent id' :=
  Table.find_update hf

lemma getPaymentIntent_replaced {db : Db} {i i' : PaymentIntentRow}
    (hi : db.getPaymentIntent i.id = some i) (hid : i'.id = i.id) :
    (db.updatePaymentIntent i.id (fun _ => i')).getPaymentIntent i.id = some i' := by
  rw [getPaymentIntent_update db i.id i.id (fun _ _ => hid), if_pos rfl, hi]
  rfl

lemma getOutboxEvent_update (db : Db) (id id' : Uuid) {f : OutboxEventRow → OutboxEventRow}
    (hf : ∀ e, e.id = id → (f e).id = id) :
    (db.updateOutboxEvent id f).getOutboxEvent id' =
      if id' = id then (db.getOutboxEvent id').map f else db.getOutboxEvent id' :=
  Table.find_update hf

-- ════════════════════════════════════════════════════════════════════════
-- Outbox rows
-- ════════════════════════════════════════════════════════════════════════

/-- A row that an enqueued event became. -/
def Enqueued (intentId : Uuid) (row : OutboxEventRow) (new : NewOutboxEvent) : Prop :=
  ∃ id createdAt, row = outboxRow id intentId new createdAt

/-- The outbox table grew by the rows of some enqueued events. -/
structure Enqueues (intentId : Uuid) (news : List NewOutboxEvent)
    (before after : List OutboxEventRow) : Prop where
  rows : ∃ rows, List.Forall₂ (Enqueued intentId) rows news ∧ after = before ++ rows
  keyed : Table.Keyed OutboxEventRow.id before → Table.Keyed OutboxEventRow.id after

lemma Enqueues.mem {intentId : Uuid} {news : List NewOutboxEvent} {before after : List OutboxEventRow}
    (h : Enqueues intentId news before after) {e : OutboxEventRow} (he : e ∈ after) :
    e ∈ before ∨ ∃ new ∈ news, Enqueued intentId e new := by
  obtain ⟨rows, hrows, rfl⟩ := h.rows
  rcases List.mem_append.mp he with he | he
  · exact .inl he
  · right
    clear h
    induction hrows with
    | nil => cases he
    | cons hx _ ih =>
      rcases List.mem_cons.mp he with rfl | he
      · exact ⟨_, List.mem_cons_self, hx⟩
      · obtain ⟨new, hmem, hnew⟩ := ih (List.mem_append_right _ he) he
        exact ⟨new, List.mem_cons_of_mem _ hmem, hnew⟩

lemma insertOutboxEvents_ok {env : Env} {intentId : Uuid} {news : List NewOutboxEvent}
    {db db' : Db} (h : (insertOutboxEvents env intentId news).run db = (.ok (), db')) :
    Enqueues intentId news db.outboxEvents db'.outboxEvents ∧
      ∃ n, db' = { db with outboxEvents := db'.outboxEvents, drawn := n } := by
  induction news generalizing db with
  | nil =>
    obtain ⟨-, rfl⟩ := Prod.mk.inj h
    exact ⟨⟨⟨[], .nil, by simp⟩, id⟩, db.drawn, rfl⟩
  | cons new news ih =>
    unfold insertOutboxEvents at h
    rw [Tx.run_bind_of_ok (run_drawUuid env db), Tx.run_bind_of_ok (run_drawNow env _),
      Tx.run_bind_of_ok (Tx.run_get _)] at h
    split at h
    · simp at h
    next hfree =>
    rw [Tx.run_bind_of_ok (Tx.run_modify _ _)] at h
    obtain ⟨⟨⟨rows, hrows, heq⟩, hkeyed⟩, n, hdb⟩ := ih h
    rw [List.append_assoc] at heq
    refine ⟨⟨⟨_, .cons ⟨_, _, rfl⟩ hrows, heq⟩, fun hk => hkeyed ?_⟩, n, hdb⟩
    exact hk.insert (Option.not_isSome_iff_eq_none.mp hfree)

-- ════════════════════════════════════════════════════════════════════════
-- Units of work
-- ════════════════════════════════════════════════════════════════════════

/-- A unit of work became durable. -/
structure Committed (u : UnitOfWork) (db db' : Db) : Prop where
  paymentIntents : db'.paymentIntents =
    Table.update PaymentIntentRow.id u.intent.id (fun _ => u.intent) db.paymentIntents
  missions : db'.missions = match u.mission with
    | some m => Table.update Mission.id m.id (fun _ => m) db.missions
    | none => db.missions
  missionConstraints : db'.missionConstraints = db.missionConstraints
  offers : db'.offers = db.offers
  policyDecisions : db'.policyDecisions = db.policyDecisions
  authorizations : db'.authorizations = db.authorizations
  recorded : Recorded u.intent.missionId u.entries db db'
  unique : referenceTaken db u.intent = false

lemma commitWork_ok {env : Env} {u : UnitOfWork} {db db' : Db}
    (h : (World.commitWork env u).run db = (.ok (), db')) :
    Committed u db db' ∧ Enqueues u.intent.id u.enqueued db.outboxEvents db'.outboxEvents ∧
      db'.webhookEvents = db.webhookEvents := by
  unfold World.commitWork at h
  rw [Tx.run_bind_of_ok (Tx.run_get db)] at h
  split at h
  · simp at h
  next hunique =>
  rw [Tx.run_bind_of_ok (Tx.run_modify _ _)] at h
  -- the mission row, where the transaction holds one
  obtain ⟨db₁, h₁, hmissions, hsame⟩ : ∃ db₁ : Db,
      (do
        insertOutboxEvents env u.intent.id u.enqueued
        appendEvents env u.intent.missionId u.entries : DbTx Unit).run db₁ = (.ok (), db') ∧
      (db₁.missions = match u.mission with
        | some m => Table.update Mission.id m.id (fun _ => m) db.missions
        | none => db.missions) ∧
      db₁ = { db.updatePaymentIntent u.intent.id (fun _ => u.intent) with
        missions := db₁.missions } := by
    cases hm : u.mission with
    | none =>
      rw [hm] at h
      exact ⟨_, h, rfl, rfl⟩
    | some m =>
      rw [hm] at h
      exact ⟨_, h, rfl, rfl⟩
  obtain ⟨⟨⟩, db₂, hinsert, happend⟩ := Tx.bind_ok.mp h₁
  obtain ⟨henq, n, hdb₂⟩ := insertOutboxEvents_ok hinsert
  have happ := appendEvents_ok happend
  have hrows := happ.rows
  rw [hsame] at hdb₂ henq
  have haudit : db₂.auditEvents = db.auditEvents := by rw [hdb₂]; rfl
  have hrec : Recorded u.intent.missionId u.entries db db' :=
    Recorded.trans (Recorded.of_eq haudit _) happ.toRecorded
  refine ⟨⟨?_, ?_, ?_, ?_, ?_, ?_, hrec, by simpa using hunique⟩, ?_, ?_⟩
  · rw [hrows.paymentIntents, hdb₂]
    rfl
  · rw [hrows.missions, hdb₂]
    exact hmissions
  · rw [hrows.missionConstraints, hdb₂]
    rfl
  · rw [hrows.offers, hdb₂]
    rfl
  · rw [hrows.policyDecisions, hdb₂]
    rfl
  · rw [hrows.authorizations, hdb₂]
    rfl
  · rw [hrows.outboxEvents]
    exact henq
  · rw [hrows.webhookEvents, hdb₂]
    rfl

/-- A handler's transaction became durable. -/
theorem commitTurn_ok {env : Env} {loaded : OutboxEventRow} {t : Turn} {db db' : Db}
    (h : (World.commitTurn env loaded t).run db = (.ok (), db')) :
    Committed t.work db db' ∧
      Enqueues t.work.intent.id t.work.enqueued
        (Table.update OutboxEventRow.id loaded.id (flushEvent loaded t.event) db.outboxEvents)
        db'.outboxEvents ∧
      db'.webhookEvents = db.webhookEvents := by
  unfold World.commitTurn at h
  rw [Tx.run_bind_of_ok (Tx.run_modify _ _)] at h
  obtain ⟨⟨h₁, h₂, h₃, h₄, h₅, h₆, hrec, hunique⟩, henq, hweb⟩ := commitWork_ok h
  exact ⟨⟨h₁, h₂, h₃, h₄, h₅, h₆, ⟨hrec.sequenced, hrec.chain⟩, hunique⟩, henq, hweb⟩

/-- A webhook delivery became durable. -/
theorem commitWebhook_ok {env : Env} {event : VerifiedWebhookEvent} {now : Datetime}
    {u : UnitOfWork} {applied : Option (Option PaymentIntentState)} {db db' : Db}
    (h : (World.commitWebhook env event now u applied).run db = (.ok (), db')) :
    Committed u db db' ∧ Enqueues u.intent.id u.enqueued db.outboxEvents db'.outboxEvents ∧
      ∃ id, db'.webhookEvents =
        db.webhookEvents ++ (applied.map (webhookRow id u.intent.id event now)).toList := by
  have hcommit : ∃ (db₁ : Db) (id : Uuid), (World.commitWork env u).run db₁ = (.ok (), db') ∧
      db₁.webhookEvents =
        db.webhookEvents ++ (applied.map (webhookRow id u.intent.id event now)).toList ∧
      db₁ = { db with webhookEvents := db₁.webhookEvents, drawn := db₁.drawn } := by
    unfold World.commitWebhook at h
    cases applied with
    | none => exact ⟨db, env.uuid4 0, h, by simp, rfl⟩
    | some state =>
      dsimp only at h
      rw [Tx.run_bind_of_ok (run_drawUuid env db), Tx.run_bind_of_ok (Tx.run_get _)] at h
      split at h
      · rw [Tx.run_bind_of_error (Tx.run_raise _ _)] at h
        simp at h
      · rw [Tx.run_bind_of_ok (Tx.run_modify _ _)] at h
        exact ⟨_, _, h, rfl, rfl⟩
  obtain ⟨db₁, id, hwork, hrows, hsame⟩ := hcommit
  obtain ⟨⟨h₁, h₂, h₃, h₄, h₅, h₆, hrec, hunique⟩, henq, hweb⟩ := commitWork_ok hwork
  rw [hsame] at h₁ h₂ h₃ h₄ h₅ h₆ hrec hunique henq
  exact ⟨⟨h₁, h₂, h₃, h₄, h₅, h₆, ⟨hrec.sequenced, hrec.chain⟩, hunique⟩, henq, id,
    hweb.trans hrows⟩

-- ════════════════════════════════════════════════════════════════════════
-- Payment requests
-- ════════════════════════════════════════════════════════════════════════

/-- What replay makes of the two events of a new intent. -/
lemma step_created (v : View) (d : Dict) (a : String)
    (hid : Dict.get d "provider_payment_id" = none) (hr : Dict.get d "reason_code" = none) :
    v.step ⟨.paymentIntentCreated, a, d⟩ = v := common_of_absent v d hid hr

lemma step_queued (v : View) (id a : String) :
    v.step ⟨.paymentQueued, a, [("payment_intent_id", .str id),
      ("state", .str PaymentIntentState.queued.value)]⟩ =
      { v with paymentState := some PaymentIntentState.queued.value }.moved .paymentPending := by
  simp [View.step, View.common, View.stated, View.moved, text]

/-- An intent that was committed, together with everything that goes with it. -/
structure Created (args : PaymentArgs) (t : BoundTransaction) (intent : PaymentIntentRow)
    (db db' : Db) : Prop where
  free : insertConflicts db intent = false
  paymentIntents : db'.paymentIntents = db.paymentIntents ++ [{ intent with state := .queued }]
  authorization : ∃ a, db.getAuthorization args.authorizationId = some a ∧ a.status = .active ∧
    a.transactionDigest = t.digest
  authorizations : db'.authorizations =
    (db.updateAuthorization args.authorizationId (fun r =>
      { r with status := .consumed, consumedAt := some args.now })).authorizations
  missions : db'.missions =
    (db.updateMission args.missionId (fun m => { m with state := .paymentPending })).missions
  outboxEvents : Enqueues intent.id
    [⟨.paymentCreateRequested, [("idempotency_key", .str args.idempotencyKey)], args.now⟩]
    db.outboxEvents db'.outboxEvents
  missionConstraints : db'.missionConstraints = db.missionConstraints
  offers : db'.offers = db.offers
  policyDecisions : db'.policyDecisions = db.policyDecisions
  recorded : ∀ a, db.getAuthorization args.authorizationId = some a → a.missionId = args.missionId →
    ∃ entries, Recorded args.missionId entries db db' ∧ (∀ e ∈ entries, Readable e.payload) ∧
      ∀ v : View, entries.foldl View.step v =
        { v.authorized (some AuthorizationStatus.consumed.value) with
          paymentState := some PaymentIntentState.queued.value }.moved .paymentPending
  webhookEvents : db'.webhookEvents = db.webhookEvents

/-- A request that committed its intent, for a mission it saw authorized. -/
theorem finishIntent_ok {env : Env} {args : PaymentArgs} {t : BoundTransaction}
    {intent : PaymentIntentRow} {mission : Mission} {db db' : Db}
    (hmission : mission.state = .authorized)
    (h : (finishIntent env args t intent mission).run db = (.ok (), db')) :
    Created args t intent db db' := by
  unfold finishIntent at h
  rw [Tx.run_bind_of_ok (Tx.run_get db)] at h
  split at h
  · simp at h
  next hfree =>
  obtain ⟨⟨⟩, db₁, hconsume, h₁⟩ := Tx.bind_ok.mp h
  obtain ⟨a, entry, ha, hconsumes, hentry, happ⟩ := SecurityKernel.consumeAuthorization_ok hconsume
  rw [Tx.run_bind_of_ok (show (assertPaymentTransition .created .queued : DbTx Unit).run db₁ =
    (.ok (), db₁) from rfl), Tx.run_bind_of_ok (Tx.run_modify _ _)] at h₁
  obtain ⟨⟨⟩, db₂, hcreated, h₂⟩ := Tx.bind_ok.mp h₁
  obtain ⟨⟨⟩, db₃, hqueued, h₃⟩ := Tx.bind_ok.mp h₂
  obtain ⟨⟨⟩, db₄, houtbox, h₄⟩ := Tx.bind_ok.mp h₃
  have happ₂ := appendEvent_ok hcreated
  have happ₃ := appendEvent_ok hqueued
  obtain ⟨henq, n, hdb₄⟩ := insertOutboxEvents_ok houtbox
  rw [hmission] at h₄
  obtain ⟨-, rfl⟩ := Prod.mk.inj h₄
  have hrows := happ₂.rows.trans happ₃.rows
  have hfirst := happ.rows
  -- each table was last written by exactly one of the statements
  refine ⟨by simpa using hfree, ?_, ⟨a, ha, hconsumes.status, hconsumes.digest⟩, ?_, ?_, ?_, ?_,
    ?_, ?_, ?_, ?_⟩
  · show db₄.paymentIntents = _
    rw [hdb₄]
    show db₃.paymentIntents = _
    rw [hrows.paymentIntents]
    show db₁.paymentIntents ++ _ = _
    rw [hfirst.paymentIntents]
    rfl
  · show db₄.authorizations = _
    rw [hdb₄]
    show db₃.authorizations = _
    rw [hrows.authorizations]
    exact hfirst.authorizations
  · show Table.update Mission.id args.missionId _ db₄.missions = _
    rw [hdb₄]
    show Table.update Mission.id args.missionId _ db₃.missions = _
    rw [hrows.missions]
    show Table.update Mission.id args.missionId _ db₁.missions = _
    rw [hfirst.missions]
    rfl
  · have hbefore : db₃.outboxEvents = db.outboxEvents := hrows.outboxEvents.trans hfirst.outboxEvents
    rw [hbefore] at henq
    exact henq
  · show db₄.missionConstraints = _
    rw [hdb₄]
    exact hrows.missionConstraints.trans hfirst.missionConstraints
  · show db₄.offers = _
    rw [hdb₄]
    exact hrows.offers.trans hfirst.offers
  · show db₄.policyDecisions = _
    rw [hdb₄]
    exact hrows.policyDecisions.trans hfirst.policyDecisions
  · intro a' ha' ham
    obtain rfl : a = a' := Option.some.inj (ha.symm.trans ha')
    rw [ham] at happ
    have hfour : db₄.auditEvents = db₃.auditEvents := by rw [hdb₄]
    have hrec : Recorded args.missionId [entry] db db₁ := ⟨happ.sequenced, happ.chain⟩
    have hrec₂ : Recorded args.missionId _ db₁ db₂ := ⟨happ₂.sequenced, happ₂.chain⟩
    refine ⟨_, ((hrec.trans hrec₂).trans happ₃.toRecorded).unaudited hfour, ?_, ?_⟩
    · intro e he
      simp only [List.cons_append, List.nil_append, List.mem_cons, List.not_mem_nil, or_false] at he
      rcases he with rfl | rfl | rfl
      · exact hentry.1
      · simp (disch := decide) [Readable]
      · simp (disch := decide) [Readable]
    · intro v
      simp only [List.cons_append, List.nil_append, List.foldl_cons, List.foldl_nil]
      rw [hentry.2, step_created _ _ _ (by simp) (by simp), step_queued]
  · show db₄.webhookEvents = _
    rw [hdb₄]
    exact hrows.webhookEvents.trans hfirst.webhookEvents

/-- The event of an intent that a request found and returned. -/
def reusedEntry (existing : PaymentIntentRow) (idempotencyKey : String) : AuditEntry :=
  ⟨.paymentIntentReused, PaymentExecutor.actor,
    [("payment_intent_id", .str existing.id.str), ("idempotency_key", .str idempotencyKey),
     ("state", .str existing.state.value), ("authorization_consumed", .bool false)]⟩

/-- A request that returned an existing intent only recorded that. -/
theorem resolveExisting_ok {env : Env} {existing : PaymentIntentRow} {fingerprint key : String}
    {db db' : Db} (h : (resolveExisting env existing fingerprint key).run db = (.ok (), db')) :
    existing.requestFingerprint = fingerprint ∧
      Appended existing.missionId [reusedEntry existing key] db db' := by
  unfold resolveExisting at h
  split at h
  · next hf => exact ⟨hf, appendEvent_ok h⟩
  · obtain ⟨_, _, -, hraise⟩ := Tx.bind_ok.mp h
    simp at hraise

lemma readable_reused (existing : PaymentIntentRow) (key : String) :
    Readable (reusedEntry existing key).payload := by
  simp (disch := decide) [Readable, reusedEntry]

/-- What replay makes of a reuse: the payment takes the state the request loaded. -/
lemma step_reused (v : View) (existing : PaymentIntentRow) (key : String) :
    v.step (reusedEntry existing key) = { v with paymentState := some existing.state.value } := by
  simp [View.step, View.common, View.stated, reusedEntry, text]

end Pactra
