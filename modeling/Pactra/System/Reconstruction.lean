import Pactra.PaymentExecutor.Effects.Agreement
import Pactra.PaymentExecutor.Effects.Declared
import Pactra.System.Missions
import Pactra.System.Outbox

/-!
# Reconstruction

The database describes a mission twice: in the rows of the mission, its authorization and its
payment, and in the audit events that replay folds into a view. Each step of the system touches both
for at most one mission. `Recount` lists how, and every statement that relates the two descriptions
is an induction over runs with one case for each way.

## Main results

- `Change.recounts` — what a step does to the rows and to the chain of a mission
- `reconstructed` — what every recount keeps holds of every mission after every run
- `replay_authority_agrees` — replay agrees with the mission and the authorization rows, always
- `replay_agrees` — it agrees with the payment row too, unless a request answered with a stale intent
- `stale_reuse_mismatches` — then it does not
-/

namespace Pactra

open PaymentExecutor Replay AgentOrchestrator

variable {env : Env} {actions : List Action} {w w' : World} {db db' : Db}

-- ════════════════════════════════════════════════════════════════════════
-- The rows of a mission
-- ════════════════════════════════════════════════════════════════════════

/-- The rows of a mission that its replay is compared with. -/
@[ext] structure Persisted where
  mission : Option Mission
  authorization : Option AuthorizationRow
  payment : Option PaymentIntentRow

/-- The rows of a mission. -/
def Db.persisted (db : Db) (missionId : Uuid) : Persisted where
  mission := db.getMission missionId
  authorization := Table.find AuthorizationRow.missionId missionId db.authorizations
  payment := Table.find PaymentIntentRow.missionId missionId db.paymentIntents

lemma persisted_of_eq (hm : db'.missions = db.missions) (ha : db'.authorizations = db.authorizations)
    (hi : db'.paymentIntents = db.paymentIntents) (missionId : Uuid) :
    db'.persisted missionId = db.persisted missionId := by
  unfold Db.persisted Db.getMission
  rw [hm, ha, hi]

section Rows

variable (hc : Consistent env db)

include hc

/-- A mission has at most one intent. -/
lemma Consistent.intentMissions : Table.Keyed PaymentIntentRow.missionId db.paymentIntents :=
  List.Nodup.map_on (fun _ hi _ hj h => hc.intent_unique hi hj h) (.of_map _ hc.paymentIntents)

/-- The rows of a mission with an authorization. -/
lemma Consistent.persisted_authorization {a : AuthorizationRow} (ha : a ∈ db.authorizations) :
    ∃ m, db.getMission a.missionId = some m ∧ Staged a m ∧
      (db.persisted a.missionId).mission = some m ∧
      (db.persisted a.missionId).authorization = some a := by
  obtain ⟨m, hm, hid, -⟩ := (hc.backed a ha).mission
  have hget := hc.mem_mission.mp hm
  rw [hid] at hget
  exact ⟨m, hget, hc.staged a ha m hm hid, hget, (Table.mem_iff_find hc.authorizationMissions).mp ha⟩

/-- The rows of a mission with a payment. -/
lemma Consistent.persisted_payment {i : PaymentIntentRow} (hi : i ∈ db.paymentIntents) :
    ∃ m a, db.getMission i.missionId = some m ∧
      db.persisted i.missionId = ⟨some m, some a, some i⟩ := by
  obtain ⟨a, ha, hpays⟩ := hc.paying i hi
  obtain ⟨m, hget, -, hm, hauth⟩ := hc.persisted_authorization ha
  rw [← hpays.missionId] at hget hm hauth
  exact ⟨m, a, hget, Persisted.ext hm hauth ((Table.mem_iff_find hc.intentMissions).mp hi)⟩

end Rows

-- ════════════════════════════════════════════════════════════════════════
-- Recounts
-- ════════════════════════════════════════════════════════════════════════

/-- The rows of a mission that has just been created. -/
inductive Opened (m : Mission) : Option AuthorizationRow → Prop
  | unauthorized (h : m.state = .cancelled ∨ m.state = .policyChecked) : Opened m none
  | awaiting (a : AuthorizationRow) (h : m.state = .awaitingApproval) (ha : a.status = .pending) :
    Opened m (some a)
  | authorized (a : AuthorizationRow) (h : m.state = .authorized) (ha : a.status = .active) :
    Opened m (some a)

/-- How one step changes the rows of a mission, with the events it records for the mission. -/
inductive Recount (env : Env) (w : World) (action : Action) :
    Persisted → List AuditEntry → Persisted → Prop
  | untouched (p : Persisted) : Recount env w action p [] p
  | repeated (m : Mission) (a : AuthorizationRow) (payment : Option PaymentIntentRow)
    (entry : AuditEntry) (hentry : SecurityKernel.Repeats a entry) :
    Recount env w action ⟨some m, some a, payment⟩ [entry] ⟨some m, some a, payment⟩
  | planned (m : Mission) (a : Option AuthorizationRow) (entries : List AuditEntry)
    (hopened : Opened m a) (hview : entries.foldl View.step View.init = { View.init with
      missionState := some m.state
      authorizationStatus := a.map fun a => a.status.value }) :
    Recount env w action ⟨none, none, none⟩ entries ⟨some m, a, none⟩
  | ended (m : Mission) (a : AuthorizationRow) (payment : Option PaymentIntentRow)
    (status : AuthorizationStatus) (entry : AuditEntry)
    (hlive : a.status = .pending ∨ a.status = .active)
    (hstatus : status = .expired ∨ status = .revoked)
    (hentry : SecurityKernel.Announces status entry) :
    Recount env w action ⟨some m, some a, payment⟩ [entry]
      ⟨some m, some { a with status := status }, payment⟩
  | activated (m : Mission) (a a' : AuthorizationRow) (payment : Option PaymentIntentRow)
    (entry : AuditEntry) (hm : m.state = .awaitingApproval) (ha : a.status = .pending)
    (ha' : a'.status = .active) (hentry : SecurityKernel.AnnouncesActive entry) :
    Recount env w action ⟨some m, some a, payment⟩ [entry]
      ⟨some { m with state := .authorized }, some a', payment⟩
  | created (m : Mission) (a a' : AuthorizationRow) (i : PaymentIntentRow)
    (entries : List AuditEntry) (hm : m.state = .authorized) (ha : a.status = .active)
    (ha' : a'.status = .consumed) (hi : i.state = .queued) (hid : i.providerPaymentId = none) (hreason : i.lastReasonCode = none)
    (hview : ∀ v : View, entries.foldl View.step v =
      { v.authorized (some AuthorizationStatus.consumed.value) with
        paymentState := some PaymentIntentState.queued.value }.moved .paymentPending) :
    Recount env w action ⟨some m, some a, none⟩ entries
      ⟨some { m with state := .paymentPending }, some a', some i⟩
  | reused (k : Nat) (args : PaymentArgs) (existing i : PaymentIntentRow) (fingerprint : String)
    (m : Mission) (a : AuthorizationRow) (haction : action = .requestStep k)
    (hcall : w.calls[k]? = some ⟨args, .resolving existing fingerprint⟩)
    (hi : w.db.getPaymentIntent existing.id = some i)
    (hf : existing.requestFingerprint = fingerprint) :
    Recount env w action ⟨some m, some a, some i⟩ [reusedEntry existing args.idempotencyKey]
      ⟨some m, some a, some i⟩
  | fenced (m : Mission) (a : AuthorizationRow) (i : PaymentIntentRow) (fence : Option Datetime) :
    Recount env w action ⟨some m, some a, some i⟩ []
      ⟨some m, some a, some { i with providerCreateFencedAt := fence }⟩
  | handled (k : Nat) (lookup : LookupAnswer) (create : CreateAnswer) (turn : WorkerTurn)
    (event : OutboxEventRow) (m : Mission) (a : AuthorizationRow) (i : PaymentIntentRow) (t : Turn)
    (haction : action = .handle k lookup create) (hturn : w.turns[k]? = some turn)
    (hi : w.db.getPaymentIntent event.paymentIntentId = some i) (hc : Committable env i)
    (h : Handled (World.contextOf env w.db turn lookup create) turn.phase ⟨i, some m, [], []⟩
      event t.work t.event) (hc' : Committable env t.work.intent) (hmoves : Moves i t.work.intent) :
    Recount env w action ⟨some m, some a, some i⟩ t.work.entries
      ⟨t.work.mission, some a, some t.work.intent⟩
  | delivered (provider : String) (event : VerifiedWebhookEvent) (now : Datetime) (m : Mission)
    (a : AuthorizationRow) (i : PaymentIntentRow) (u : UnitOfWork)
    (applied : Option (Option PaymentIntentState)) (haction : action = .webhook provider event now)
    (hi : findIntent w.db event = some i) (hid : i.providerPaymentId = some event.providerPaymentId)
    (h : Delivered w.db event ⟨i, some m, [], []⟩ u applied) (hc' : Committable env u.intent)
    (hmoves : Moves i u.intent)
    (haccepted : event.provider = provider ∧ evidenceMismatches i event = []) :
    Recount env w action ⟨some m, some a, some i⟩ u.entries ⟨u.mission, some a, some u.intent⟩

/-- A step recounts one mission: the events it appends are that mission's, and the rows of the
others stay. -/
def Recounts (env : Env) (w : World) (action : Action) (db' : Db) : Prop :=
  ∃ missionId entries, Recorded missionId entries w.db db' ∧
    (∀ e ∈ entries, Readable e.payload) ∧
    Recount env w action (w.db.persisted missionId) entries (db'.persisted missionId) ∧
    ∀ m, m ≠ missionId → db'.persisted m = w.db.persisted m

/-- A step that records nothing and leaves the three tables alone. -/
lemma recounts_of_eq {action : Action} (hm : db'.missions = w.db.missions)
    (ha : db'.authorizations = w.db.authorizations)
    (hi : db'.paymentIntents = w.db.paymentIntents) (haudit : db'.auditEvents = w.db.auditEvents) :
    Recounts env w action db' := by
  refine ⟨⟨""⟩, [], .of_eq haudit _, by simp, ?_, fun m _ => persisted_of_eq hm ha hi m⟩
  rw [persisted_of_eq hm ha hi]
  exact .untouched _

section Changes

variable (hc : Consistent env w.db)

include hc

/-- What an update of an authorization does to the rows of the missions. -/
lemma Consistent.find_authorization {a : AuthorizationRow} (ha : a ∈ w.db.authorizations)
    {f : AuthorizationRow → AuthorizationRow} (hf : (f a).missionId = a.missionId) (m : Uuid) :
    Table.find AuthorizationRow.missionId m
        (w.db.updateAuthorization a.authorizationId f).authorizations =
      if m = a.missionId then some (f a) else (w.db.persisted m).authorization :=
  hc.authorizations.find_update_column hc.authorizationMissions ha hf

/-- What an update of an intent does to the rows of the missions. -/
lemma Consistent.find_payment {i : PaymentIntentRow} (hi : i ∈ w.db.paymentIntents)
    (i' : PaymentIntentRow) (hf : i'.missionId = i.missionId) (m : Uuid) :
    Table.find PaymentIntentRow.missionId m
        (w.db.updatePaymentIntent i.id (fun _ => i')).paymentIntents =
      if m = i.missionId then some i' else (w.db.persisted m).payment :=
  hc.paymentIntents.find_update_column (f := fun _ => i') hc.intentMissions hi hf

/-- The operations on an authorization that neither activate nor consume it. -/
lemma SecurityKernel.Aftermath.recounts {action : Action}
    (h : SecurityKernel.Aftermath w.db db') : Recounts env w action db' := by
  cases h with
  | kept => exact recounts_of_eq rfl rfl rfl rfl
  | recorded a entry _ ha hentry happ =>
    obtain ⟨m, -, -, hm, hauth⟩ := hc.persisted_authorization (Table.mem_of_find ha)
    have hrows := happ.rows
    have hkept := persisted_of_eq hrows.missions hrows.authorizations hrows.paymentIntents
    refine ⟨a.missionId, [entry], happ.toRecorded, by simpa using hentry.1, ?_, fun n _ => hkept n⟩
    rw [hkept, show w.db.persisted a.missionId = ⟨some m, some a, _⟩ from Persisted.ext hm hauth rfl]
    exact .repeated m a _ entry hentry
  | ended a status entry _ ha hlive hstatus hentry happ =>
    have hmem := Table.mem_of_find ha
    obtain ⟨m, -, -, hm, hauth⟩ := hc.persisted_authorization hmem
    have hrows := happ.rows
    have hkept := persisted_of_eq hrows.missions hrows.authorizations hrows.paymentIntents
    have hfind := hc.find_authorization hmem (f := fun r => { r with status := status }) rfl
    refine ⟨a.missionId, [entry], ⟨happ.sequenced, happ.chain⟩, by simpa using hentry.1, ?_, ?_⟩
    · rw [hkept, show w.db.persisted a.missionId = ⟨some m, some a, _⟩ from
        Persisted.ext hm hauth rfl]
      have hafter : (w.db.updateAuthorization a.authorizationId
          (fun r => { r with status := status })).persisted a.missionId =
          ⟨some m, some { a with status := status }, (w.db.persisted a.missionId).payment⟩ :=
        Persisted.ext hm ((hfind _).trans (if_pos rfl)) rfl
      rw [hafter]
      exact .ended m a _ status entry hlive hstatus hentry
    · intro n hn
      rw [hkept]
      exact Persisted.ext rfl ((hfind n).trans (if_neg hn)) rfl

/-- The creation of a mission. -/
lemma AgentOrchestrator.Planned.recounts {action : Action} (h : Planned env w.db db') :
    Recounts env w action db' := by
  obtain ⟨d, hplan, houtcome, -⟩ := h
  obtain ⟨entries, hrec, hread, hview⟩ := hplan.events
  have hfresh := Table.find_eq_none.mp hplan.fresh
  -- no row names the new mission yet
  have hauths : ∀ a ∈ w.db.authorizations, a.missionId ≠ d.mission.id := by
    intro a ha heq
    obtain ⟨m, hget, -⟩ := hc.persisted_authorization ha
    rw [heq] at hget
    cases hplan.fresh.symm.trans hget
  have hintents : ∀ i ∈ w.db.paymentIntents, i.missionId ≠ d.mission.id := by
    intro i hi heq
    obtain ⟨m, -, hget, -⟩ := hc.persisted_payment hi
    rw [heq] at hget
    cases hplan.fresh.symm.trans hget
  have hbefore : w.db.persisted d.mission.id = ⟨none, none, none⟩ :=
    Persisted.ext hplan.fresh (Table.find_eq_none.mpr hauths) (Table.find_eq_none.mpr hintents)
  have hpayments : ∀ m, (db'.persisted m).payment = (w.db.persisted m).payment := fun m => by
    simp only [Db.persisted, hplan.paymentIntents]
  have hnew : ∀ m, (db'.persisted m).authorization = ((w.db.persisted m).authorization).or
      (if m = d.mission.id then d.authorizations.head? else none) := by
    intro m
    have hfound : Table.find AuthorizationRow.missionId m d.authorizations =
        if m = d.mission.id then d.authorizations.head? else none := by
      cases hd : d.authorizations with
      | nil => simp [Table.find]
      | cons a rest =>
        obtain ⟨hone, ham, -⟩ := houtcome.authorization (a := a) (by simp [hd])
        obtain ⟨-, rfl⟩ := List.cons.inj (hd.symm.trans hone)
        by_cases hm : m = d.mission.id <;> simp [Table.find, ham, hm, eq_comm]
    simp only [Db.persisted, hplan.authorizations, Table.find_append, hfound]
  have hmission : ∀ m, (db'.persisted m).mission = ((w.db.persisted m).mission).or
      (if d.mission.id = m then some d.mission else none) := by
    intro m
    simp only [Db.persisted, Db.getMission, hplan.missions, Table.find_insert]
  refine ⟨d.mission.id, entries, hrec, hread, ?_, fun m hm => ?_⟩
  · have hafter : db'.persisted d.mission.id = ⟨some d.mission, d.authorizations.head?, none⟩ := by
      refine Persisted.ext ((hmission _).trans ?_) ((hnew _).trans ?_) ((hpayments _).trans ?_)
      · simp [hbefore]
      · simp [hbefore]
      · simp [hbefore]
    rw [hbefore, hafter]
    refine .planned d.mission _ entries ?_ hview
    cases houtcome with
    | denied hs ha => exact ha ▸ .unauthorized (.inl hs)
    | refused hs ha => exact ha ▸ .unauthorized (.inr hs)
    | awaiting a hs ha hstatus => exact ha ▸ .awaiting a hs hstatus
    | authorized a hs ha hstatus => exact ha ▸ .authorized a hs hstatus
  · refine Persisted.ext ((hmission m).trans ?_) ((hnew m).trans ?_) (hpayments m)
    · rw [if_neg (Ne.symm hm), Option.or_none]
    · rw [if_neg hm, Option.or_none]

/-- The activation of an authorization, which authorizes its mission. -/
lemma recounts_activated {action : Action} {a : AuthorizationRow} {entry : AuditEntry}
    {f : AuthorizationRow → AuthorizationRow} (ha : w.db.getAuthorization a.authorizationId = some a)
    (hstatus : a.status = .pending) (hf : (f a).missionId = a.missionId)
    (hactive : (f a).status = .active) (hentry : SecurityKernel.AnnouncesActive entry)
    (happ : Appended a.missionId [entry] (w.db.updateAuthorization a.authorizationId f) db') :
    Recounts env w action
      (db'.updateMission a.missionId (fun m => { m with state := .authorized })) := by
  have hmem := Table.mem_of_find ha
  obtain ⟨m, hget, hstaged, hm, hauth⟩ := hc.persisted_authorization hmem
  have hrows := happ.rows
  have hfind := hc.find_authorization hmem hf
  have hrec : Recorded a.missionId [entry] w.db
      (db'.updateMission a.missionId (fun m => { m with state := .authorized })) :=
    ⟨happ.sequenced, happ.chain⟩
  have hmissions : ∀ n, (db'.updateMission a.missionId
      (fun m => { m with state := .authorized })).getMission n =
      if n = a.missionId then (w.db.getMission n).map (fun m => { m with state := .authorized })
      else w.db.getMission n := by
    intro n
    refine (getMission_update db' a.missionId n (f := fun m => { m with state := .authorized })
      (fun _ h => h)).trans ?_
    rw [Db.getMission, hrows.missions]
    rfl
  have hauths : ∀ n, (db'.persisted n).authorization =
      if n = a.missionId then some (f a) else (w.db.persisted n).authorization := by
    intro n
    rw [← hfind n, ← hrows.authorizations]
    rfl
  have hpayments : ∀ n, (db'.persisted n).payment = (w.db.persisted n).payment := by
    intro n
    simp only [Db.persisted, hrows.paymentIntents]
    rfl
  refine ⟨a.missionId, [entry], hrec, by simpa using hentry.1, ?_, fun n hn => ?_⟩
  · rw [show w.db.persisted a.missionId = ⟨some m, some a, _⟩ from Persisted.ext hm hauth rfl]
    have hafter : (db'.updateMission a.missionId
        (fun m => { m with state := .authorized })).persisted a.missionId =
        ⟨some { m with state := .authorized }, some (f a), (w.db.persisted a.missionId).payment⟩ := by
      refine Persisted.ext ((hmissions _).trans ?_) ((hauths _).trans (if_pos rfl)) (hpayments _)
      rw [if_pos rfl, hget]
      rfl
    rw [hafter]
    exact .activated m a (f a) _ entry (hstaged.1 hstatus) hstatus hactive hentry
  · exact Persisted.ext ((hmissions n).trans (if_neg hn)) ((hauths n).trans (if_neg hn))
      (hpayments n)

/-- The commit of a new intent, which consumes its authorization. -/
lemma recounts_created {action : Action} {args : PaymentArgs} {t : BoundTransaction}
    {intent : PaymentIntentRow} (hi : Intends env w.db args t intent)
    (h : Created args t intent w.db db') : Recounts env w action db' := by
  obtain ⟨a, ha, hactive, -⟩ := h.authorization
  have hmem := Table.mem_of_find ha
  have hid : a.authorizationId = args.authorizationId := Table.key_of_find ha
  obtain ⟨a', id, createdAt, ha', hmission, -, hintent⟩ := hi
  obtain rfl := Option.some.inj (ha.symm.trans ha')
  obtain ⟨entries, hrec, hread, hview⟩ := h.recorded a ha hmission
  obtain ⟨m, hget, hstaged, hm, hauth⟩ := hc.persisted_authorization hmem
  have hnone : (w.db.persisted a.missionId).payment = none :=
    Table.find_eq_none.mpr (hc.no_intent hmem (by simp [hactive]))
  have hrow : intent.missionId = a.missionId := by rw [hintent, hmission]; rfl
  have hmissions : ∀ n, db'.getMission n = if n = a.missionId then
      (w.db.getMission n).map (fun m => { m with state := .paymentPending }) else w.db.getMission n := by
    intro n
    have hupdate := getMission_update w.db args.missionId n
      (f := fun m => { m with state := .paymentPending }) (fun _ h => h)
    rw [Db.getMission, h.missions, hmission]
    exact hupdate
  have hauths : ∀ n, (db'.persisted n).authorization = if n = a.missionId then
      some { a with status := .consumed, consumedAt := some args.now }
      else (w.db.persisted n).authorization := by
    intro n
    rw [← hc.find_authorization hmem (f := fun r =>
      { r with status := .consumed, consumedAt := some args.now }) rfl n, hid, ← h.authorizations]
    rfl
  have hpayments : ∀ n, (db'.persisted n).payment = ((w.db.persisted n).payment).or
      (if intent.missionId = n then some { intent with state := .queued } else none) := by
    intro n
    simp only [Db.persisted, h.paymentIntents, Table.find_insert]
  rw [hmission] at hget hm hauth hnone
  refine ⟨args.missionId, entries, hrec, hread, ?_, fun n hn => ?_⟩
  · have hafter : db'.persisted args.missionId = ⟨some { m with state := .paymentPending },
        some { a with status := .consumed, consumedAt := some args.now },
        some { intent with state := .queued }⟩ := by
      refine Persisted.ext ((hmissions _).trans ?_) ((hauths _).trans ?_) ((hpayments _).trans ?_)
      · simp [hmission, hget]
      · simp [hmission]
      · simp [hnone, hrow, hmission]
    rw [show w.db.persisted args.missionId = ⟨some m, some a, none⟩ from Persisted.ext hm hauth hnone,
      hafter]
    exact .created m a _ _ entries (hstaged.2 hactive) hactive rfl rfl (by rw [hintent]; rfl)
      (by rw [hintent]; rfl) hview
  · have hn' : n ≠ a.missionId := by rwa [hmission]
    refine Persisted.ext ((hmissions n).trans (if_neg hn')) ((hauths n).trans (if_neg hn'))
      ((hpayments n).trans ?_)
    rw [if_neg (by rw [hrow]; exact Ne.symm hn'), Option.or_none]

/-- The commit of a unit of work on a locked intent. -/
lemma recounts_committed {action : Action} {i : PaymentIntentRow} {u : UnitOfWork}
    (hi : i ∈ w.db.paymentIntents) (hterms : u.intent.terms = i.terms)
    (hmission : missionTerms u = missionTerms (World.lockIntent w.db i)) (hclean : Clean u)
    (hcommit : Committed u w.db db')
    (hrecount : ∀ m a, w.db.getMission i.missionId = some m →
      Recount env w action ⟨some m, some a, some i⟩ u.entries ⟨u.mission, some a, some u.intent⟩) :
    Recounts env w action db' := by
  obtain ⟨m, a, hget, hbefore⟩ := hc.persisted_payment hi
  have hid := PaymentIntentRow.id_of_terms hterms
  have hrow := PaymentIntentRow.missionId_of_terms hterms
  obtain ⟨m', hm', hmterms⟩ : ∃ m', u.mission = some m' ∧ m'.terms = m.terms := by
    cases hu : u.mission with
    | none => simp [missionTerms, hu, World.lockIntent, hget] at hmission
    | some m' => exact ⟨m', rfl, by simpa [missionTerms, hu, World.lockIntent, hget] using hmission⟩
  have hmid : m'.id = i.missionId := (Mission.id_of_terms hmterms).trans (Table.key_of_find hget)
  have hmissions : ∀ n, db'.getMission n = if n = i.missionId then some m' else w.db.getMission n := by
    intro n
    have hrows := hcommit.missions
    rw [hm'] at hrows
    have hupdate := getMission_update w.db m'.id n (f := fun _ => m') (fun _ _ => rfl)
    rw [Db.getMission, hrows, ← hmid]
    refine hupdate.trans ?_
    split
    · next hn => rw [hn, hmid, hget, Option.map_some]
    · rfl
  have hpayments : ∀ n, (db'.persisted n).payment =
      if n = i.missionId then some u.intent else (w.db.persisted n).payment := by
    intro n
    have hfind := hc.find_payment hi u.intent hrow n
    rw [← hid] at hfind
    rw [← hfind]
    simp only [Db.persisted, hcommit.paymentIntents]
    rfl
  have hauths : ∀ n, (db'.persisted n).authorization = (w.db.persisted n).authorization := by
    intro n
    simp only [Db.persisted, hcommit.authorizations]
  refine ⟨i.missionId, u.entries, hrow ▸ hcommit.recorded, hclean, ?_, fun n hn => ?_⟩
  · have hafter : db'.persisted i.missionId = ⟨u.mission, some a, some u.intent⟩ := by
      refine Persisted.ext ((hmissions _).trans ?_) ((hauths _).trans ?_)
        ((hpayments _).trans (if_pos rfl))
      · rw [if_pos rfl, hm']
      · rw [hbefore]
    rw [hbefore, hafter]
    exact hrecount m a hget
  · exact Persisted.ext ((hmissions n).trans (if_neg hn)) (hauths n) ((hpayments n).trans (if_neg hn))

/-- Every step recounts one mission. -/
theorem Change.recounts {action : Action} (h : Change env w action db') :
    Recounts env w action db' := by
  cases h with
  | kept => exact recounts_of_eq rfl rfl rfl rfl
  | planned _ _ _ h => exact h.recounts hc
  | aftermath _ _ h => exact h.recounts hc
  | activated k a entry key signature db₁ ha hstatus hentry happ =>
    exact recounts_activated hc ha hstatus rfl rfl hentry happ
  | created k args t intent _ hi h => exact recounts_created hc hi h
  | reused k args existing fingerprint _ hcall hi happ hf =>
    obtain ⟨i, hget, hterms⟩ := hi
    have hmission := PaymentIntentRow.missionId_of_terms hterms
    obtain ⟨m, a, -, hbefore⟩ := hc.persisted_payment (Table.mem_of_find hget)
    have hrows := happ.rows
    have hkept := persisted_of_eq hrows.missions hrows.authorizations hrows.paymentIntents
    refine ⟨existing.missionId, _, happ.toRecorded, ?_, ?_, fun n _ => hkept n⟩
    · simpa using readable_reused existing args.idempotencyKey
    · rw [hkept, ← hmission, hbefore]
      exact .reused k args existing i fingerprint m a rfl hcall hget hf
  | claimed => exact recounts_of_eq rfl rfl rfl rfl
  | recovered => exact recounts_of_eq rfl rfl rfl rfl
  | fenced k i fence hi =>
    have hmem := Table.mem_of_find hi
    obtain ⟨m, a, -, hbefore⟩ := hc.persisted_payment hmem
    have hfind := hc.find_payment hmem { i with providerCreateFencedAt := fence } rfl
    have hrec : Recorded i.missionId [] w.db (w.db.updatePaymentIntent i.id
        (fun _ => { i with providerCreateFencedAt := fence })) := by
      refine .of_eq ?_ _
      rfl
    refine ⟨i.missionId, [], hrec, by simp, ?_, fun n hn => ?_⟩
    · have hafter : (w.db.updatePaymentIntent i.id
          (fun _ => { i with providerCreateFencedAt := fence })).persisted i.missionId =
          ⟨some m, some a, some { i with providerCreateFencedAt := fence }⟩ := by
        refine Persisted.ext ?_ ?_ ((hfind _).trans (if_pos rfl))
        · exact (congrArg Persisted.mission hbefore :)
        · exact (congrArg Persisted.authorization hbefore :)
      rw [hbefore, hafter]
      exact .fenced m a i fence
    · exact Persisted.ext rfl rfl ((hfind n).trans (if_neg hn))
  | handled k lookup create turn event i t _ hturn _ _ hi hprov h hcommit =>
    have hmem := Table.mem_of_find hi
    have hcommittable := hc.committable i hmem
    have hclean : Clean t.work := by
      have hstart : Clean (World.lockIntent w.db i) := fun _ he => by cases he
      cases h with
      | create h => exact h.clean hstart
      | reconcile _ h => exact h.clean hstart
    obtain ⟨hcommittable', hmoves⟩ := h.moves hcommittable hprov
    refine recounts_committed hc hmem hmoves.terms h.mission hclean hcommit ?_
    intro m a hget
    refine .handled k lookup create turn event m a i t rfl hturn hi hcommittable ?_ hcommittable'
      hmoves
    rwa [World.lockIntent, hget] at h
  | delivered provider event now i u applied _ hi h hcommit _ _ haccepted =>
    have hmem := List.mem_of_find?_eq_some hi
    have hnamed : i.provider = event.provider ∧ i.providerPaymentId = some event.providerPaymentId := by
      simpa using List.find?_some hi
    obtain ⟨hcommittable', hmoves⟩ := h.moves (hc.committable i hmem) hnamed.2
    refine recounts_committed hc hmem hmoves.terms h.mission (h.clean fun _ he => by cases he)
      hcommit ?_
    intro m a hget
    refine .delivered provider event now m a i u applied rfl hi hnamed.2 ?_ hcommittable' hmoves
      haccepted
    rwa [World.lockIntent, hget] at h

end Changes

-- ════════════════════════════════════════════════════════════════════════
-- Runs
-- ════════════════════════════════════════════════════════════════════════

/-- A mission that is still missing has no events. -/
lemma Recount.missing {action : Action} {p p' : Persisted} {entries : List AuditEntry}
    (h : Recount env w action p entries p') (hp : p.mission = none) (hp' : p'.mission = none) :
    entries = [] := by
  cases h with
  | untouched => rfl
  | planned => cases hp'
  | _ => cases hp

/-- The rows and the view of every mission are related. -/
structure Reconstructs (env : Env) (A : Persisted → View → Prop) (w : World) : Prop where
  reachable : Reachable env w
  sequenced : w.db.Sequenced
  missions : ∀ m, ∃ v, ViewOf env w.db m v ∧ ((w.db.persisted m).mission = none → v = View.init) ∧
    A (w.db.persisted m) v

/-- A step that leaves the database alone. -/
lemma Reconstructs.kept {A : Persisted → View → Prop} (h : Reconstructs env A w)
    (hreach : Reachable env w') (hdb : w'.db = w.db) : Reconstructs env A w' := by
  refine ⟨hreach, hdb ▸ h.sequenced, fun m => ?_⟩
  rw [hdb]
  exact h.missions m

/-- A step that commits relates the rows and the views anew when its recount does. -/
lemma Reconstructs.step {A : Persisted → View → Prop} {action : Action}
    (hA : ∀ p entries p' v, w.commits env action = true → Recount env w action p entries p' →
      (p.mission = none → v = View.init) → A p v → A p' (entries.foldl View.step v))
    (h : Reconstructs env A w) (hstep : World.step env w action = some w') :
    Reconstructs env A w' := by
  obtain ⟨hreach', hgrows⟩ := h.reachable.step hstep
  cases hcommits : w.commits env action with
  | false => exact h.kept hreach' (db_of_not_commits hstep hcommits)
  | true =>
    have hchange := step_change h.reachable.consistent h.reachable.inFlight hstep
    obtain ⟨missionId, entries, hrec, hread, hrecount, hothers⟩ :=
      hchange.recounts h.reachable.consistent
    refine ⟨hreach', hrec.sequenced h.sequenced, fun m => ?_⟩
    obtain ⟨v, hview, hmissing, hv⟩ := h.missions m
    have hview' := hview.recorded h.sequenced hrec hread
    by_cases hm : missionId = m
    · subst hm
      rw [if_pos rfl] at hview'
      refine ⟨_, hview', fun hnone => ?_, hA _ _ _ v hcommits hrecount hmissing hv⟩
      -- missions stay, so the mission was missing before as well
      have hbefore : (w.db.persisted missionId).mission = none := by
        cases hget : (w.db.persisted missionId).mission with
        | none => rfl
        | some x =>
          obtain ⟨x', hx', -⟩ := hgrows.missions _ _ hget
          cases (show w'.db.getMission missionId = some x' from hx').symm.trans hnone
      rw [hrecount.missing hbefore hnone]
      exact hmissing hbefore
    · rw [if_neg hm] at hview'
      rw [hothers m (Ne.symm hm)]
      exact ⟨v, hview', hmissing, hv⟩

/-- What relates the rows and the view of a mission that does not exist yet, and is kept by every
recount that a run makes, relates them for every mission after the run. -/
theorem reconstructed {A : Persisted → View → Prop} {guard : World → Action → Prop}
    (hinit : A ⟨none, none, none⟩ View.init)
    (hA : ∀ w action p entries p' v, w.commits env action = true → guard w action →
      Recount env w action p entries p' → (p.mission = none → v = View.init) → A p v →
      A p' (entries.foldl View.step v))
    (h : World.exec env actions = some w)
    (hguard : Runs.Along (World.step env) guard World.init actions) : Reconstructs env A w := by
  refine Runs.invariant_along (I := fun w : World => Reconstructs env A w) ?_ ?_ hguard h
  · intro v action v' hv hg hs
    exact hv.step (fun p entries p' v hc => hA _ _ p entries p' v hc hg) hs
  · exact ⟨reachable_init env, fun _ => List.Pairwise.nil, fun _ => ⟨View.init, ⟨{}, rfl, rfl⟩,
      fun _ => rfl, hinit⟩⟩

section Comparison

variable (hc : Consistent env db)

include hc

lemma Consistent.authorizationForMission (m : Uuid) :
    Replay.authorizationForMission db m = (db.persisted m).authorization :=
  hc.authorizationMissions.best_filter

lemma Consistent.paymentIntentForMission (m : Uuid) :
    Replay.paymentIntentForMission db m = (db.persisted m).payment :=
  hc.intentMissions.best_filter

end Comparison

-- ════════════════════════════════════════════════════════════════════════
-- Missions and authorizations
-- ════════════════════════════════════════════════════════════════════════

/-- Replay agrees with the rows of the mission and of its authorization. -/
structure AuthorityAgrees (p : Persisted) (v : View) : Prop where
  mission : v.missionState = p.mission.map Mission.state
  authorization : v.authorizationStatus = p.authorization.map fun a => a.status.value

lemma moved_missionState {v : View} {s target : MissionState} (h : v.missionState = some s)
    (hlegal : s.moved target = target) : (v.moved target).missionState = some target := by
  simp [View.moved, h, hlegal]

/-- A handler keeps the agreement, whatever replay had made of the payment. -/
lemma AuthorityAgrees.handled {v : View} {m : Mission} {a : AuthorizationRow} {i : PaymentIntentRow}
    {u : UnitOfWork} (h : AuthorityAgrees ⟨some m, some a, some i⟩ v)
    (hfollows : ∀ status v', Follows status v' ⟨i, some m, [], []⟩ → Follows status (replayed v' u) u)
    (hdeclared : Declared u) :
    AuthorityAgrees ⟨u.mission, some a, some u.intent⟩ (u.entries.foldl View.step v) := by
  -- a view that agrees about the payment as well
  have hstart : Follows (some a.status.value) { v with paymentState := some i.state.value }
      ⟨i, some m, [], []⟩ := ⟨h.authorization, rfl, m, rfl, h.mission⟩
  obtain ⟨hauth, -, m', hm', hmission⟩ := hfollows _ _ hstart
  have hboth : SameAuthority v { v with paymentState := some i.state.value } := ⟨rfl, rfl⟩
  have hsame := hboth.replayed hdeclared
  refine ⟨hsame.mission.trans (hmission.trans ?_), hsame.authorization.trans hauth⟩
  rw [hm', Option.map_some]

lemma Handled.follows {ctx : TurnContext} {p : TurnPhase} {u u' : UnitOfWork}
    {e e' : OutboxEventRow} (h : Handled ctx p u e u' e') {status : Option String} {v : View}
    (hu : Follows status (replayed v u) u) : Follows status (replayed v u') u' := by
  cases h with
  | create h => exact h.follows v hu
  | reconcile _ h => exact h.follows v hu

lemma Handled.declared {ctx : TurnContext} {p : TurnPhase} {u u' : UnitOfWork}
    {e e' : OutboxEventRow} (h : Handled ctx p u e u' e') (hu : Declared u) : Declared u' := by
  cases h with
  | create h => exact h.declared hu
  | reconcile _ h => exact h.declared hu

lemma declared_start (i : PaymentIntentRow) (m : Option Mission) : Declared ⟨i, m, [], []⟩ :=
  fun _ he => by cases he

/-- Every recount keeps replay in agreement with the mission and the authorization. -/
lemma Recount.authority {action : Action} {p p' : Persisted} {entries : List AuditEntry} {v : View}
    (hr : Recount env w action p entries p') (hmissing : p.mission = none → v = View.init)
    (h : AuthorityAgrees p v) : AuthorityAgrees p' (entries.foldl View.step v) := by
  cases hr with
  | untouched => exact h
  | repeated m a payment entry hentry =>
    rw [List.foldl_cons, List.foldl_nil, hentry.2 v h.authorization]
    exact h
  | planned m a _ _ hview =>
    rw [hmissing rfl, hview]
    exact ⟨rfl, rfl⟩
  | ended m a payment status entry _ _ hentry =>
    rw [List.foldl_cons, List.foldl_nil, hentry.2 v]
    exact ⟨h.mission, rfl⟩
  | activated m a a' payment entry hm _ ha hentry =>
    rw [List.foldl_cons, List.foldl_nil, hentry.2 v]
    refine ⟨moved_missionState (h.mission.trans (congrArg some hm)) rfl, ?_⟩
    rw [Option.map_some, ha]
    rfl
  | created m a a' i _ hm _ ha _ _ _ hview =>
    rw [hview v]
    refine ⟨moved_missionState (h.mission.trans (congrArg some hm)) rfl, ?_⟩
    rw [Option.map_some, ha]
    rfl
  | reused =>
    rw [List.foldl_cons, List.foldl_nil, step_reused]
    exact ⟨h.mission, h.authorization⟩
  | fenced => exact ⟨h.mission, h.authorization⟩
  | handled k lookup create turn event m a i t _ _ _ _ hh _ _ =>
    exact h.handled (fun _ _ => hh.follows) (hh.declared (declared_start i _))
  | delivered provider event now m a i u applied _ _ _ hd _ _ =>
    exact h.handled (fun _ v' => hd.follows v') (hd.declared (declared_start i _))

/-- In every committed state of every run, replay of every mission's audit chain succeeds, and the
mission state and the authorization status it arrives at are those of the rows. -/
theorem replay_authority_agrees (h : World.exec env actions = some w) (m : Uuid) :
    ∃ s, reduceEvents env (w.db.chain m) = .ok s ∧
      (compareWithPersisted w.db m s).stateMatches = true ∧
      (compareWithPersisted w.db m s).authorizationMatches ≠ some false := by
  have halways : Runs.Along (World.step env) (fun _ _ => True) World.init actions :=
    Runs.along_of fun _ _ => trivial
  have hrec := reconstructed (A := AuthorityAgrees) ⟨rfl, rfl⟩
    (fun _ _ _ _ _ _ _ _ hr => hr.authority) h halways
  obtain ⟨v, ⟨s, hs, rfl⟩, -, hagrees⟩ := hrec.missions m
  have hauth := hrec.reachable.consistent.authorizationForMission m
  refine ⟨s, hs, ?_, ?_⟩
  · exact decide_eq_true hagrees.mission
  · have hsame : (compareWithPersisted w.db m s).replayAuthorizationStatus =
        (compareWithPersisted w.db m s).persistedAuthorizationStatus := by
      refine hagrees.authorization.trans ?_
      rw [compareWithPersisted, hauth]
    unfold StateComparison.authorizationMatches
    rw [hsame]
    split <;> simp

theorem replay_authority_agrees_paid : ∃ w, World.exec Sample.env Sample.paid = some w ∧
    w.db.paymentIntents.map PaymentIntentRow.state = [.succeeded] ∧
    ∀ m, ∃ s, reduceEvents Sample.env (w.db.chain m) = .ok s ∧
      (compareWithPersisted w.db m s).stateMatches = true ∧
      (compareWithPersisted w.db m s).authorizationMatches ≠ some false := by
  obtain ⟨w, hw, hstates⟩ := Option.map_eq_some_iff.mp Sample.paid_states
  exact ⟨w, hw, hstates, replay_authority_agrees hw⟩

-- ════════════════════════════════════════════════════════════════════════
-- Payments
-- ════════════════════════════════════════════════════════════════════════

/-- Replay agrees with the rows of the mission, the authorization and the payment. -/
structure StatesAgree (p : Persisted) (v : View) : Prop extends AuthorityAgrees p v where
  payment : v.paymentState = p.payment.map fun i => i.state.value

/-- The intent that a request is about to answer with: one that has the fingerprint of the request. -/
def CallPhase.reuses : CallPhase → Option PaymentIntentRow
  | .resolving existing fingerprint =>
    if existing.requestFingerprint = fingerprint then some existing else none
  | _ => none

/-- A request that answers with an existing intent finds it in the state it has loaded. -/
def ReusesCurrent (w : World) : Action → Prop
  | .requestStep k => ∀ call ∈ w.calls[k]?, ∀ existing ∈ call.phase.reuses,
    ∀ i ∈ w.db.getPaymentIntent existing.id, i.state = existing.state
  | _ => True

instance (w : World) (action : Action) : Decidable (ReusesCurrent w action) := by
  unfold ReusesCurrent
  split <;> infer_instance

lemma StatesAgree.handled {v : View} {m : Mission} {a : AuthorizationRow} {i : PaymentIntentRow}
    {u : UnitOfWork} (h : StatesAgree ⟨some m, some a, some i⟩ v)
    (hfollows : ∀ status v', Follows status v' ⟨i, some m, [], []⟩ → Follows status (replayed v' u) u) :
    StatesAgree ⟨u.mission, some a, some u.intent⟩ (u.entries.foldl View.step v) := by
  have hstart : Follows (some a.status.value) v ⟨i, some m, [], []⟩ :=
    ⟨h.authorization, h.payment, m, rfl, h.mission⟩
  obtain ⟨hauth, hpayment, m', hm', hmission⟩ := hfollows _ _ hstart
  refine ⟨⟨hmission.trans ?_, hauth⟩, hpayment⟩
  rw [hm', Option.map_some]

/-- Every recount that does not reuse an intent in a state it has left keeps replay in agreement
with the payment as well. -/
lemma Recount.states {action : Action} {p p' : Persisted} {entries : List AuditEntry} {v : View}
    (hr : Recount env w action p entries p') (hguard : ReusesCurrent w action)
    (hmissing : p.mission = none → v = View.init) (h : StatesAgree p v) :
    StatesAgree p' (entries.foldl View.step v) := by
  have hauthority := hr.authority hmissing h.toAuthorityAgrees
  cases hr with
  | untouched => exact h
  | repeated m a payment entry hentry =>
    rw [List.foldl_cons, List.foldl_nil, hentry.2 v h.authorization]
    exact h
  | planned m a _ _ hview =>
    refine ⟨hauthority, ?_⟩
    rw [hmissing rfl, hview]
    rfl
  | ended m a payment status entry _ _ hentry =>
    refine ⟨hauthority, ?_⟩
    rw [List.foldl_cons, List.foldl_nil, hentry.2 v]
    exact h.payment
  | activated m a a' payment entry _ _ _ hentry =>
    refine ⟨hauthority, ?_⟩
    rw [List.foldl_cons, List.foldl_nil, hentry.2 v]
    exact h.payment
  | created m a a' i _ _ _ _ hi _ _ hview =>
    refine ⟨hauthority, ?_⟩
    rw [hview v, Option.map_some, hi]
    rfl
  | reused k args existing i fingerprint m a haction hcall hi hf =>
    refine ⟨hauthority, ?_⟩
    subst haction
    have hcurrent : i.state = existing.state := hguard _ hcall existing (if_pos hf) i hi
    rw [List.foldl_cons, List.foldl_nil, step_reused, Option.map_some, hcurrent]
  | fenced => exact ⟨hauthority, h.payment⟩
  | handled k lookup create turn event m a i t _ _ _ _ hh _ _ => exact h.handled fun _ _ => hh.follows
  | delivered provider event now m a i u applied _ _ _ hd _ _ =>
    exact h.handled fun _ v' => hd.follows v'

/-- In every run in which no request answers with an intent that has left the state it loaded,
replay of every mission's audit chain succeeds in every committed state, and the comparison with the
rows reports no mismatch of mission, authorization or payment. -/
theorem replay_agrees (h : World.exec env actions = some w)
    (hguard : Runs.Along (World.step env) ReusesCurrent World.init actions) (m : Uuid) :
    ∃ s, reduceEvents env (w.db.chain m) = .ok s ∧ (compareWithPersisted w.db m s).NoMismatch := by
  have hrec := reconstructed (A := StatesAgree) ⟨⟨rfl, rfl⟩, rfl⟩
    (fun _ _ _ _ _ _ _ hg hr => hr.states hg) h hguard
  obtain ⟨v, ⟨s, hs, rfl⟩, -, hagrees⟩ := hrec.missions m
  have hc := hrec.reachable.consistent
  have hauth : (compareWithPersisted w.db m s).replayAuthorizationStatus =
      (compareWithPersisted w.db m s).persistedAuthorizationStatus := by
    refine hagrees.authorization.trans ?_
    rw [compareWithPersisted, hc.authorizationForMission m]
  have hpayment : (compareWithPersisted w.db m s).replayPaymentState =
      (compareWithPersisted w.db m s).persistedPaymentState := by
    refine hagrees.payment.trans ?_
    rw [compareWithPersisted, hc.paymentIntentForMission m]
  refine ⟨s, hs, decide_eq_true hagrees.mission, ?_, ?_⟩
  · unfold StateComparison.authorizationMatches
    rw [hauth]
    split <;> simp
  · unfold StateComparison.paymentMatches
    rw [hpayment]
    split <;> simp

/-- An order whose request is repeated before and after its payment. -/
def Sample.repeated : List Action :=
  Sample.order "fake" ++ [.openRequest (Sample.args "fake") false] ++
    List.replicate 4 (.requestStep 1) ++ Sample.claim 0 "fake" ++
    [.handle 0 .notFound (.payment (Sample.payment "fake" "pay_1" .succeeded Sample.pay_1_ne)),
     .openRequest (Sample.args "fake") false] ++ List.replicate 4 (.requestStep 2)

lemma Sample.repeated_reuses : ((World.exec Sample.env Sample.repeated).map fun w =>
    ((w.db.auditEvents.filter fun e =>
        decide (e.eventType = EventType.paymentIntentReused.value)).length,
      decide (Runs.Along (World.step Sample.env) ReusesCurrent World.init Sample.repeated))) =
    some (2, true) := by decide +kernel

theorem replay_agrees_repeated : ∃ w, World.exec Sample.env Sample.repeated = some w ∧
    (w.db.auditEvents.filter fun e =>
      decide (e.eventType = EventType.paymentIntentReused.value)).length = 2 ∧
    ∀ m, ∃ s, reduceEvents Sample.env (w.db.chain m) = .ok s ∧
      (compareWithPersisted w.db m s).NoMismatch := by
  obtain ⟨w, hw, hw'⟩ := Option.map_eq_some_iff.mp Sample.repeated_reuses
  obtain ⟨hreused, hguard⟩ := Prod.mk.inj hw'
  exact ⟨w, hw, hreused, replay_agrees hw (of_decide_eq_true hguard)⟩

/-- An order whose request is repeated, and finds the key, before a worker pays it and answers after. -/
def Sample.overlapped : List Action :=
  Sample.order "fake" ++ [.openRequest (Sample.args "fake") false] ++
    List.replicate 3 (.requestStep 1) ++ Sample.claim 0 "fake" ++
    [.handle 0 .notFound (.payment (Sample.payment "fake" "pay_1" .succeeded Sample.pay_1_ne)),
     .requestStep 1]

lemma Sample.overlapped_payment : ((World.exec Sample.env Sample.overlapped).bind fun w =>
    (reduceEvents Sample.env (w.db.chain ⟨"0"⟩)).toOption.map fun s =>
      ((compareWithPersisted w.db ⟨"0"⟩ s).paymentMatches, s.payment.state)) =
    some (some false, some "QUEUED") := by decide +kernel

/-- The repeated request records the state it had loaded, and replay adopts it. -/
theorem stale_reuse_mismatches : ¬∀ (env : Env) (actions : List Action) (w : World) (m : Uuid),
    World.exec env actions = some w → ∃ s, reduceEvents env (w.db.chain m) = .ok s ∧
      (compareWithPersisted w.db m s).NoMismatch := by
  intro hall
  obtain ⟨w, hw, hreplayed⟩ := Option.bind_eq_some_iff.mp Sample.overlapped_payment
  obtain ⟨s, hs, -, -, hpayment⟩ := hall _ _ w ⟨"0"⟩ hw
  rw [hs] at hreplayed
  obtain ⟨hmismatch, -⟩ := Prod.mk.inj (Option.some.inj hreplayed)
  exact hpayment hmismatch

end Pactra
