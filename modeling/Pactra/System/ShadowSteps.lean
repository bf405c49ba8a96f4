import Pactra.System.Shadow

/-!
# Steps that cannot see further audit events

Two worlds that differ only in their databases, the second one with further audit events, take the
same steps.

## Main results

- `step_shadow` — one step
- `run_shadows` — every run
-/

namespace Pactra

open Tx (Simulates)

namespace World

open PaymentExecutor

variable {env : Env} {d : Draws} {α : Type}

/-- The second world is the first over another database. -/
structure Shadows (env : Env) (d : Draws) (w w' : World) : Prop where
  db : Shadow env d w.db w'.db
  world : w' = { w with db := w'.db }

section Steps

variable {w w' w₁ : World}

/-- What an authorization operation leaves of related databases is related. -/
lemma settle_shadow {x y : DbTx α} (hxy : Simulates (Shadow env d) x y) {db db' : Db}
    (h : Shadow env d db db') :
    Shadow env d (settle db (x.run db)) (settle db' (y.run db')) := by
  rcases hx : x.run db with ⟨e | a, db₁⟩
  all_goals
    obtain ⟨db₁', hy, h₁⟩ := hxy.run h hx
    rw [hy]
  · cases e
    case authorizationFailure => exact h₁
    all_goals exact h
  · exact h₁

lemma settleMission_shadow {x y : DbTx Uuid} (hxy : Simulates (Shadow env d) x y) {db db' : Db}
    (h : Shadow env d db db') :
    Shadow env d (settleMission db (x.run db)) (settleMission db' (y.run db')) := by
  rcases hx : x.run db with ⟨e | a, db₁⟩
  all_goals
    obtain ⟨db₁', hy, h₁⟩ := hxy.run h hx
    rw [hy]
  · cases e
    case bindRefusedOfferChanged => exact h₁
    all_goals exact h
  · exact h₁

lemma verifyRequest_shadow {db db' : Db} (h : Shadow env d db db') (args : PaymentArgs)
    (authorization : AuthorizationRow) (existing : Option PaymentIntentRow)
    (mission : Option Mission) :
    verifyRequest (env.drawing d) db' args authorization existing mission =
      verifyRequest env db args authorization existing mission := by
  unfold verifyRequest
  cases mission with
  | none => rfl
  | some mission =>
    dsimp only
    rw [(SecurityKernel.verifyAuthorizationForPayment_shadow authorization
      (expectedStatus args existing) args.now db db' h).1]

/-- A payment request takes the same statement over both databases. -/
lemma stepCall_shadow {db db' : Db} (h : Shadow env d db db') {calls : List PaymentCall}
    {args : PaymentArgs} {phase phase₁ : CallPhase} {db₁ : Db}
    (hstep : stepCall env db calls args phase = some (phase₁, db₁)) :
    ∃ db₁', stepCall (env.drawing d) db' calls args phase = some (phase₁, db₁') ∧
      Shadow env d db₁ db₁' := by
  have hkey : findByIdempotencyKey db' args.idempotencyKey =
      findByIdempotencyKey db args.idempotencyKey := by
    rw [h.rows]
    rfl
  cases phase with
  | called mission =>
    have hread : readAuthorization db' args = readAuthorization db args := by
      rw [h.rows]
      rfl
    unfold stepCall at hstep ⊢
    dsimp only at hstep ⊢
    rw [hread]
    cases hr : readAuthorization db args with
    | error exc =>
      rw [hr] at hstep
      obtain ⟨rfl, rfl⟩ := Prod.mk.inj (Option.some.inj hstep)
      exact ⟨db', rfl, h⟩
    | ok a =>
      rw [hr] at hstep
      obtain ⟨rfl, rfl⟩ := Prod.mk.inj (Option.some.inj hstep)
      exact ⟨db', rfl, h⟩
  | authorizationRead a mission =>
    obtain ⟨rfl, rfl⟩ := Prod.mk.inj (Option.some.inj hstep)
    refine ⟨db', ?_, h⟩
    unfold stepCall
    dsimp only
    rw [hkey]
  | keyRead a existing mission =>
    have hmission : db'.getMission args.missionId = db.getMission args.missionId := by
      rw [h.rows]
      rfl
    unfold stepCall at hstep ⊢
    dsimp only at hstep ⊢
    rw [hmission, verifyRequest_shadow h]
    revert hstep
    split <;> intro hstep <;> cases hstep
    all_goals exact ⟨db', rfl, h⟩
  | inserting a t mission =>
    have hconflicts : ∀ intent m m', insertConflicts { db' with drawn := m } intent =
        insertConflicts { db with drawn := m' } intent := by
      intro intent m m'
      rw [h.rows]
      rfl
    have hid : (env.drawing d).uuid4 db'.drawn = env.uuid4 db.drawn := h.uuid4 0
    have hnow : (env.drawing d).utcnow (db'.drawn + 1) = env.utcnow (db.drawn + 1) := h.utcnow 1
    unfold stepCall at hstep ⊢
    dsimp only at hstep ⊢
    rw [hid, hnow, hconflicts _ (db'.drawn + 2) (db.drawn + 2)]
    split at hstep
    · cases hstep
    next hwaits =>
    rw [if_neg hwaits]
    split at hstep
    · next hc =>
      obtain ⟨rfl, rfl⟩ := Prod.mk.inj (Option.some.inj hstep)
      rw [if_pos hc]
      exact ⟨_, rfl, h.advance 2⟩
    · next hc =>
      obtain ⟨rfl, rfl⟩ := Prod.mk.inj (Option.some.inj hstep)
      rw [if_neg hc]
      exact ⟨_, rfl, h.advance 2⟩
  | inserted t intent mission =>
    unfold stepCall at hstep ⊢
    dsimp only at hstep ⊢
    rcases hx : (finishIntent env args t intent mission).run db with ⟨e | a, db₂⟩
    all_goals
      obtain ⟨db₂', hy, h₂⟩ := (finishIntent_shadow args t intent mission).run h hx
      rw [hx] at hstep
      rw [hy]
    · cases e
      all_goals
        obtain ⟨rfl, rfl⟩ := Prod.mk.inj (Option.some.inj hstep)
        exact ⟨db', rfl, h⟩
    · obtain ⟨rfl, rfl⟩ := Prod.mk.inj (Option.some.inj hstep)
      exact ⟨db₂', rfl, h₂⟩
  | conflicted fingerprint =>
    unfold stepCall at hstep ⊢
    dsimp only at hstep ⊢
    rw [hkey]
    cases hr : findByIdempotencyKey db args.idempotencyKey with
    | none =>
      rw [hr] at hstep
      obtain ⟨rfl, rfl⟩ := Prod.mk.inj (Option.some.inj hstep)
      exact ⟨db', rfl, h⟩
    | some winner =>
      rw [hr] at hstep
      obtain ⟨rfl, rfl⟩ := Prod.mk.inj (Option.some.inj hstep)
      exact ⟨db', rfl, h⟩
  | resolving existing fingerprint =>
    unfold stepCall at hstep ⊢
    dsimp only at hstep ⊢
    rcases hx : (resolveExisting env existing fingerprint args.idempotencyKey).run db with
      ⟨e | a, db₂⟩
    all_goals
      obtain ⟨db₂', hy, h₂⟩ :=
        (resolveExisting_shadow existing fingerprint args.idempotencyKey).run h hx
      rw [hx] at hstep
      rw [hy]
      obtain ⟨rfl, rfl⟩ := Prod.mk.inj (Option.some.inj hstep)
    · exact ⟨db', rfl, h⟩
    · exact ⟨db₂', rfl, h₂⟩
  | returned => cases hstep
  | refused => cases hstep
  | abandoned => cases hstep

lemma findIntent_shadow {db db' : Db} (h : Shadow env d db db') (event : VerifiedWebhookEvent) :
    findIntent db' event = findIntent db event := by
  rw [h.rows]
  rfl

lemma handleWebhook_shadow {db db' : Db} (h : Shadow env d db db') (event : VerifiedWebhookEvent) :
    handleWebhook db' event = handleWebhook db event := by
  rw [h.rows]
  rfl

lemma lockIntent_shadow {db db' : Db} (h : Shadow env d db db') (intent : PaymentIntentRow) :
    lockIntent db' intent = lockIntent db intent := by
  rw [h.rows]
  rfl

lemma deliverWebhook_shadow (h : Shadows env d w w') (provider : String)
    (event : VerifiedWebhookEvent) (now : Datetime) :
    Shadows env d (deliverWebhook env w provider event now)
      (deliverWebhook (env.drawing d) w' provider event now) := by
  unfold deliverWebhook
  rw [findIntent_shadow h.db, handleWebhook_shadow h.db]
  split
  · exact h
  split
  · exact h
  next intent _ =>
  rw [lockIntent_shadow h.db]
  split
  · exact h
  next outcome applied u _ =>
  rcases hx : (commitWebhook env event now u applied).run w.db with ⟨e | a, db₁⟩
  all_goals
    obtain ⟨db₁', hy, h₁⟩ := (commitWebhook_shadow event now u applied).run h.db hx
    rw [hy]
  · exact h
  · refine ⟨h₁, ?_⟩
    rw [h.world]

/-- The context of a turn's handler over the other database. -/
lemma contextOf_over (h : Shadows env d w w') (turn : WorkerTurn) (lookup : LookupAnswer)
    (create : CreateAnswer) :
    contextOf (env.drawing d) w'.db turn lookup create =
      redrawn (contextOf env w.db turn lookup create) d w'.db.auditEvents w'.db.drawn := by
  rw [contextOf, h.db.rows]
  rfl

lemma handlerOf_shadow (h : Shadows env d w w') (turn : WorkerTurn) (lookup : LookupAnswer)
    (create : CreateAnswer) :
    handlerOf (contextOf (env.drawing d) w'.db turn lookup create) turn.phase =
      handlerOf (contextOf env w.db turn lookup create) turn.phase := by
  rw [contextOf_over h]
  refine handlerOf_over ?_ turn.phase
  have hdb := h.db
  rw [h.db.rows] at hdb
  exact hdb

lemma getPaymentIntent_shadow {db db' : Db} (h : Shadow env d db db') (id : Uuid) :
    db'.getPaymentIntent id = db.getPaymentIntent id := by
  rw [h.rows]
  rfl

lemma handleTurn_shadow (h : Shadows env d w w') {k : Nat} {turn : WorkerTurn}
    {lookup : LookupAnswer} {create : CreateAnswer}
    (hstep : handleTurn env w k turn lookup create = some w₁) :
    ∃ w₁', handleTurn (env.drawing d) w' k turn lookup create = some w₁' ∧
      Shadows env d w₁ w₁' := by
  have hhandler := handlerOf_shadow h turn lookup create
  obtain ⟨db', hdb, rfl⟩ : ∃ db', Shadow env d w.db db' ∧ w' = { w with db := db' } :=
    ⟨w'.db, h.db, h.world⟩
  unfold handleTurn at hstep ⊢
  rw [hhandler]
  split at hstep
  · cases hstep
  next event handler hh =>
  dsimp only
  rw [getPaymentIntent_shadow hdb]
  split at hstep
  · obtain rfl := Option.some.inj hstep
    exact ⟨_, rfl, hdb, rfl⟩
  next intent hi =>
  rw [lockIntent_shadow hdb]
  split at hstep
  · next r t hrun =>
    dsimp only at hstep ⊢
    rcases hx : (commitTurn env event t).run w.db with ⟨e | a, db₁⟩
    all_goals
      obtain ⟨db₁', hy, h₁⟩ := (commitTurn_shadow event t).run hdb hx
      rw [hx] at hstep
      rw [hy]
      obtain rfl := Option.some.inj hstep
    · exact ⟨_, rfl, hdb, rfl⟩
    · exact ⟨_, rfl, h₁, rfl⟩
  · obtain rfl := Option.some.inj hstep
    exact ⟨_, rfl, hdb, rfl⟩
  · obtain rfl := Option.some.inj hstep
    exact ⟨_, rfl, hdb, rfl⟩

lemma crashTurn_shadow (h : Shadows env d w w') {k : Nat} {turn : WorkerTurn}
    {lookup : LookupAnswer} {create : CreateAnswer}
    (hstep : crashTurn env w k turn lookup create = some w₁) :
    ∃ w₁', crashTurn (env.drawing d) w' k turn lookup create = some w₁' ∧
      Shadows env d w₁ w₁' := by
  have hhandler := handlerOf_shadow h turn lookup create
  obtain ⟨db', hdb, rfl⟩ : ∃ db', Shadow env d w.db db' ∧ w' = { w with db := db' } :=
    ⟨w'.db, h.db, h.world⟩
  unfold crashTurn at hstep ⊢
  rw [hhandler]
  split at hstep
  · cases hstep
  next event handler hh =>
  dsimp only
  rw [getPaymentIntent_shadow hdb]
  split at hstep
  · cases hstep
  next intent hi =>
  rw [lockIntent_shadow hdb]
  obtain rfl := Option.some.inj hstep
  exact ⟨_, rfl, hdb, rfl⟩

lemma fenceTurn_shadow (h : Shadows env d w w') {k : Nat} {turn : WorkerTurn}
    (hstep : fenceTurn w k turn = some w₁) :
    ∃ w₁', fenceTurn w' k turn = some w₁' ∧ Shadows env d w₁ w₁' := by
  obtain ⟨db', hdb, rfl⟩ : ∃ db', Shadow env d w.db db' ∧ w' = { w with db := db' } :=
    ⟨w'.db, h.db, h.world⟩
  unfold fenceTurn at hstep ⊢
  split at hstep
  · next event requeue =>
    dsimp only
    rw [getPaymentIntent_shadow hdb]
    split at hstep
    · cases hstep
    · obtain rfl := Option.some.inj hstep
      exact ⟨_, rfl, hdb.updatePaymentIntent _ _, rfl⟩
  · next event =>
    dsimp only
    rw [getPaymentIntent_shadow hdb]
    split at hstep
    · cases hstep
    · obtain rfl := Option.some.inj hstep
      exact ⟨_, rfl, hdb.updatePaymentIntent _ _, rfl⟩
  · cases hstep

lemma nextDue_shadow {db db' : Db} (h : Shadow env d db db') (now : Datetime)
    (locked : List Uuid) : nextDue db' now locked = nextDue db now locked := by
  rw [h.rows]
  rfl

lemma getOutboxEvent_shadow {db db' : Db} (h : Shadow env d db db') (id : Uuid) :
    db'.getOutboxEvent id = db.getOutboxEvent id := by
  rw [h.rows]
  rfl

lemma claimPostgres_shadow {db db' : Db} (h : Shadow env d db db') (workerId : String)
    (now leaseUntil : Datetime) (locked : List Uuid) :
    (claimPostgres db workerId now leaseUntil locked = none ∧
      claimPostgres db' workerId now leaseUntil locked = none) ∨
    ∃ id db₁ db₁', claimPostgres db workerId now leaseUntil locked = some (id, db₁) ∧
      claimPostgres db' workerId now leaseUntil locked = some (id, db₁') ∧
      Shadow env d db₁ db₁' := by
  unfold claimPostgres
  rw [nextDue_shadow h]
  cases nextDue db now locked with
  | none => exact .inl ⟨rfl, rfl⟩
  | some row => exact .inr ⟨_, _, _, rfl, rfl, h.updateOutboxEvent _ _⟩

lemma claimConditional_shadow {db db' : Db} (h : Shadow env d db db') (workerId : String)
    (leaseUntil : Datetime) (eventId : Uuid) (status : OutboxStatus) (availableAt : Datetime) :
    (claimConditional db workerId leaseUntil eventId status availableAt = none ∧
      claimConditional db' workerId leaseUntil eventId status availableAt = none) ∨
    ∃ db₁ db₁', claimConditional db workerId leaseUntil eventId status availableAt = some db₁ ∧
      claimConditional db' workerId leaseUntil eventId status availableAt = some db₁' ∧
      Shadow env d db₁ db₁' := by
  unfold claimConditional
  rw [getOutboxEvent_shadow h]
  cases db.getOutboxEvent eventId with
  | none => exact .inl ⟨rfl, rfl⟩
  | some row =>
    dsimp only
    split
    · exact .inr ⟨_, _, rfl, rfl, h.updateOutboxEvent _ _⟩
    · exact .inl ⟨rfl, rfl⟩

lemma stepTurn_shadow (h : Shadows env d w w') {k : Nat} {turn : WorkerTurn} {action : Action}
    (hstep : stepTurn w k turn action = some w₁) :
    ∃ w₁', stepTurn w' k turn action = some w₁' ∧ Shadows env d w₁ w₁' := by
  obtain ⟨db', hdb, rfl⟩ : ∃ db', Shadow env d w.db db' ∧ w' = { w with db := db' } :=
    ⟨w'.db, h.db, h.world⟩
  unfold stepTurn at hstep ⊢
  cases action with
  | claimPostgres _ locked =>
    dsimp only at hstep ⊢
    split at hstep
    · rcases claimPostgres_shadow hdb turn.workerId turn.now (turn.now + turn.lease) locked with
        ⟨hx, hy⟩ | ⟨id, db₁, db₁', hx, hy, h₁⟩
      · rw [hx] at hstep
        obtain rfl := Option.some.inj hstep
        rw [hy]
        exact ⟨_, rfl, hdb, rfl⟩
      · rw [hx] at hstep
        obtain rfl := Option.some.inj hstep
        rw [hy]
        exact ⟨_, rfl, h₁, rfl⟩
    · cases hstep
  | selectCandidate _ =>
    dsimp only at hstep ⊢
    rw [nextDue_shadow hdb]
    split at hstep
    · split at hstep
      · obtain rfl := Option.some.inj hstep
        exact ⟨_, rfl, hdb, rfl⟩
      · obtain rfl := Option.some.inj hstep
        exact ⟨_, rfl, hdb, rfl⟩
    · cases hstep
  | claimConditional _ =>
    dsimp only at hstep ⊢
    split at hstep
    · next eventId status availableAt _ =>
      rcases claimConditional_shadow hdb turn.workerId (turn.now + turn.lease) eventId status
        availableAt with ⟨hx, hy⟩ | ⟨db₁, db₁', hx, hy, h₁⟩
      · rw [hx] at hstep
        obtain rfl := Option.some.inj hstep
        rw [hy]
        exact ⟨_, rfl, hdb, rfl⟩
      · rw [hx] at hstep
        obtain rfl := Option.some.inj hstep
        rw [hy]
        exact ⟨_, rfl, h₁, rfl⟩
    · cases hstep
  | loadEvent _ =>
    dsimp only at hstep ⊢
    split at hstep
    · rw [getOutboxEvent_shadow hdb]
      split at hstep
      · obtain rfl := Option.some.inj hstep
        exact ⟨_, rfl, hdb, rfl⟩
      · split at hstep
        · next hother =>
          obtain rfl := Option.some.inj hstep
          rw [if_pos hother]
          exact ⟨_, rfl, hdb, rfl⟩
        · next hours =>
          obtain rfl := Option.some.inj hstep
          rw [if_neg hours]
          exact ⟨_, rfl, hdb, rfl⟩
    · cases hstep
  | loadStale _ =>
    dsimp only at hstep ⊢
    split at hstep
    · rw [getOutboxEvent_shadow hdb]
      split at hstep
      · obtain rfl := Option.some.inj hstep
        exact ⟨_, rfl, hdb, rfl⟩
      · obtain rfl := Option.some.inj hstep
        exact ⟨_, rfl, hdb, rfl⟩
    · cases hstep
  | recover _ =>
    dsimp only at hstep ⊢
    split at hstep
    · obtain rfl := Option.some.inj hstep
      exact ⟨_, rfl, hdb.updateOutboxEvent _ _, rfl⟩
    · cases hstep
  | crash _ =>
    dsimp only at hstep ⊢
    split at hstep
    · cases hstep
    · obtain rfl := Option.some.inj hstep
      exact ⟨_, rfl, hdb, rfl⟩
  | _ => cases hstep

/-- A step of the system cannot see further audit events. -/
theorem step_shadow (h : Shadows env d w w') {action : Action} (hstep : step env w action = some w₁) :
    ∃ w₁', step (env.drawing d) w' action = some w₁' ∧ Shadows env d w₁ w₁' := by
  obtain ⟨db', hdb, rfl⟩ : ∃ db', Shadow env d w.db db' ∧ w' = { w with db := db' } :=
    ⟨w'.db, h.db, h.world⟩
  cases action with
  | runMission request quotes =>
    obtain rfl := Option.some.inj hstep
    exact ⟨_, rfl, settleMission_shadow (AgentOrchestrator.run_shadow request quotes) hdb, rfl⟩
  | openApproval missionId signingKeyId signatureHex now =>
    obtain rfl := Option.some.inj hstep
    have hmission : db'.getMission missionId = w.db.getMission missionId := by
      rw [hdb.rows]
      rfl
    have hauthorization : Replay.authorizationForMission db' missionId =
        Replay.authorizationForMission w.db missionId := by
      rw [hdb.rows]
      rfl
    refine ⟨_, rfl, ?_⟩
    simp only [openApproval, hmission, hauthorization]
    split
    · split
      · exact ⟨hdb, rfl⟩
      · exact ⟨hdb, rfl⟩
    · exact ⟨hdb, rfl⟩
  | finishApproval k =>
    simp only [step] at hstep ⊢
    split at hstep
    · cases hstep
    next call _ =>
    split at hstep
    · cases hstep
    next hopen =>
    obtain rfl := Option.some.inj hstep
    rw [if_neg hopen]
    exact ⟨_, rfl, settle_shadow (approve_shadow call) hdb, rfl⟩
  | revoke id reason now =>
    obtain rfl := Option.some.inj hstep
    exact ⟨_, rfl, settle_shadow (SecurityKernel.revokeAuthorization_shadow id reason now) hdb, rfl⟩
  | expire id now =>
    obtain rfl := Option.some.inj hstep
    exact ⟨_, rfl, settle_shadow (SecurityKernel.expireIfStale_shadow id now) hdb, rfl⟩
  | openRequest args preload =>
    obtain rfl := Option.some.inj hstep
    have hmission : db'.getMission args.missionId = w.db.getMission args.missionId := by
      rw [hdb.rows]
      rfl
    refine ⟨_, rfl, hdb, ?_⟩
    rw [hmission]
  | requestStep k =>
    simp only [step] at hstep ⊢
    split at hstep
    · cases hstep
    next call _ =>
    split at hstep
    · cases hstep
    next phase db₁ hcall =>
    obtain rfl := Option.some.inj hstep
    obtain ⟨db₁', hcall', h₁⟩ := stepCall_shadow hdb hcall
    rw [hcall']
    exact ⟨_, rfl, h₁, rfl⟩
  | abandonRequest k =>
    simp only [step] at hstep ⊢
    split at hstep
    · cases hstep
    next call _ =>
    split at hstep
    · cases hstep
    next hopen =>
    obtain rfl := Option.some.inj hstep
    rw [if_neg hopen]
    exact ⟨_, rfl, hdb, rfl⟩
  | startTurn workerId provider now lease =>
    obtain rfl := Option.some.inj hstep
    exact ⟨_, rfl, hdb, rfl⟩
  | webhook provider event now =>
    obtain rfl := Option.some.inj hstep
    exact ⟨_, rfl, deliverWebhook_shadow h provider event now⟩
  | handle k lookup create =>
    simp only [step] at hstep ⊢
    split at hstep
    · cases hstep
    · exact handleTurn_shadow h hstep
  | crashHandling k lookup create =>
    simp only [step] at hstep ⊢
    split at hstep
    · cases hstep
    · exact crashTurn_shadow h hstep
  | commitFence k =>
    simp only [step] at hstep ⊢
    split at hstep
    · cases hstep
    · exact fenceTurn_shadow h hstep
  | _ =>
    simp only [step, Action.turn] at hstep ⊢
    split at hstep
    · cases hstep
    · exact stepTurn_shadow h hstep

/-- Nor can a run of the system. -/
theorem run_shadows (h : Shadows env d w w') {actions : List Action}
    (hrun : Runs.run (step env) w actions = some w₁) :
    ∃ w₁', Runs.run (step (env.drawing d)) w' actions = some w₁' ∧ Shadows env d w₁ w₁' := by
  refine Runs.simulates (R := Shadows env d) (fun s t a s' hst hstep => ?_) h hrun
  exact step_shadow hst hstep

end Steps

end World

end Pactra
