import Pactra.System.PaymentStates

/-!
# Records of refused payment requests

The kernel appends an event before it refuses a payment request for a key of another payment, a
consumed authorization or another transaction. The route maps the exception to a response without
a commit, and the session is rolled back. The approval route commits before it responds.

## Main results

- `stepCall_refused` — what a statement that is refused leaves in its session and in the database
- `refused_payment_leaves_no_record` — none of it is in the committed chain, in any run
-/

namespace Pactra

open PaymentExecutor

/-- The event that records a refusal, for the refusals that are recorded. -/
def Exc.recordType : Exc → Option EventType
  | .idempotencyConflict _ => some .idempotencyConflict
  | .authorizationFailure .replayDetected _ _ => some .authorizationReplayDetected
  | .authorizationFailure .bindingFailure _ _ => some .transactionBindingFailure
  | _ => none

/-- A refusal that is not recorded. -/
def Exc.Unrecorded (e : Exc) : Prop := e.recordType = none

/-- The database that the session of a request sees when its next statement is over, with
everything that the statement wrote before it returned or raised. -/
def World.statementDb (env : Env) (db : Db) (args : PaymentArgs) : CallPhase → Db
  | .keyRead authorization existing _ =>
    ((SecurityKernel.verifyAuthorizationForPayment env authorization (expectedStatus args existing)
      args.now).run db).2
  | .inserted transaction intent mission =>
    ((finishIntent env args transaction intent mission).run db).2
  | .resolving existing fingerprint =>
    ((resolveExisting env existing fingerprint args.idempotencyKey).run db).2
  | _ => db

/-- One event of a type was appended to the events of a database. -/
def Records (t : EventType) (db db' : Db) (event : AuditEventRow) : Prop :=
  db'.auditEvents = db.auditEvents ++ [event] ∧ event ∉ db.auditEvents ∧ event.eventType = t.value

section Records

variable {env : Env} {db db' : Db} {exc : Exc} {t : EventType}

lemma appendEvent_records {missionId : Uuid} {entry : AuditEntry}
    (h : (appendEvent env missionId entry).run db = (.ok (), db')) :
    ∃ event, Records entry.eventType db db' event := by
  rw [run_appendEvent] at h
  dsimp only at h
  split at h
  · cases h
  · next hnew =>
    cases h
    refine ⟨_, rfl, fun hmem => hnew ?_, rfl⟩
    cases hfind : Table.find AuditEventRow.eventId _ db.auditEvents with
    | some _ => rfl
    | none => exact absurd rfl (Table.find_eq_none.mp hfind _ hmem)

/-- An append that fails is not one of the recorded refusals. -/
lemma appendEvent_error {missionId : Uuid} {entry : AuditEntry}
    (h : (appendEvent env missionId entry).run db = (.error exc, db')) : exc = .integrityError := by
  rw [run_appendEvent] at h
  dsimp only at h
  split at h
  · cases h
    rfl
  · cases h

/-- An append before a refusal records it. -/
lemma append_raise_records {α : Type} {missionId : Uuid} {entry : AuditEntry} {raised : Exc}
    (htype : raised.recordType = some entry.eventType)
    (h : (do appendEvent env missionId entry; Tx.raise raised : DbTx α).run db = (.error exc, db'))
    (ht : exc.recordType = some t) : ∃ event, Records t db db' event := by
  rcases Tx.bind_error.mp h with h | ⟨⟨⟩, db₁, happend, hraise⟩
  · rw [appendEvent_error h] at ht
    cases ht
  · cases hraise
    obtain ⟨event, hevent⟩ := appendEvent_records happend
    rw [htype] at ht
    cases ht
    exact ⟨event, hevent⟩

/-- Whether a computation, when it is refused for a reason that is recorded, has appended one event
that says so. An unsupported binding version is refused without a record. -/
def Recording {α : Type} (x : DbTx α) (db : Db) : Prop :=
  ∀ exc db' t, x.run db = (.error exc, db') → exc.recordType = some t →
    t = .transactionBindingFailure ∨ ∃ event, Records t db db' event

section Recording

variable {α β : Type} {x : DbTx α} {f : α → DbTx β}

lemma Recording.of_raises (h : Tx.RaisesAt Exc.Unrecorded x db) :
    Recording x db := by
  intro exc db' t hrun ht
  rw [h exc db' hrun] at ht
  cases ht

/-- After a part that is not refused for such a reason and writes nothing. -/
lemma Recording.bind (hx : Tx.RaisesAt Exc.Unrecorded x db)
    (hsame : ∀ a db', x.run db = (.ok a, db') → db' = db) (hf : ∀ a, Recording (f a) db) :
    Recording (x >>= f) db := by
  intro exc db' t hrun ht
  rcases Tx.bind_error.mp hrun with hfirst | ⟨a, db₁, hok, hrest⟩
  · exact Recording.of_raises hx exc db' t hfirst ht
  · obtain rfl := hsame a db₁ hok
    exact hf a exc db' t hrest ht

/-- Before a part that is not refused for such a reason. -/
lemma Recording.then (hx : Recording x db)
    (hf : ∀ a, Tx.Raises Exc.Unrecorded (f a)) : Recording (x >>= f) db := by
  intro exc db' t hrun ht
  rcases Tx.bind_error.mp hrun with hrun | ⟨a, db₁, -, hrun⟩
  · exact hx exc db' t hrun ht
  · rw [hf a db₁ exc db' hrun] at ht
    cases ht

end Recording

lemma unrecorded_raise {α : Type} {e : Exc} (h : e.recordType = none) :
    Tx.Raises Exc.Unrecorded (Tx.raise e : DbTx α) := .raise h

lemma unrecorded_of_check {e : Exc} (h : SecurityKernel.OfCheck e) : e.Unrecorded := by
  cases h <;> rfl

lemma unrecorded_append (missionId : Uuid) (entry : AuditEntry) :
    Tx.Raises Exc.Unrecorded (appendEvent env missionId entry) := by
  intro db e db' h
  rw [appendEvent_error h]
  rfl

/-- A classified refusal is recorded. -/
lemma recording_classifyAndRaise {α : Type} (id : Uuid) (transaction : Option BoundTransaction)
    (now : Datetime) (expected : AuthorizationStatus) (db : Db) :
    Recording (SecurityKernel.classifyAndRaise env id transaction now expected : DbTx α) db := by
  refine Recording.bind (Tx.Raises.of_ok (fun _ => ⟨_, _, rfl⟩) db)
    (fun _ _ h => ((Prod.mk.inj h).2).symm) fun row => ?_
  cases row with
  | none => exact .of_raises (unrecorded_raise rfl db)
  | some row =>
    dsimp only
    split
    · exact fun exc db' t hrun ht => .inr (append_raise_records rfl hrun ht)
    · split
      · exact fun exc db' t hrun ht => .inr (append_raise_records rfl hrun ht)
      · split
        · refine .of_raises (Tx.RaisesAt.bind (fun exc db' h => ?_) fun _ db' _ =>
            unrecorded_raise rfl db')
          rw [SecurityKernel.expireIfStale_error h]
          rfl
        · exact .of_raises (unrecorded_raise rfl db)

/-- The verification before a payment records what it classifies. -/
lemma recording_verify (row : AuthorizationRow) (expected : AuthorizationStatus) (now : Datetime)
    (db : Db) :
    Recording (SecurityKernel.verifyAuthorizationForPayment env row expected now) db := by
  have hcheck : ∀ e, SecurityKernel.OfCheck e → e.Unrecorded := fun _ => unrecorded_of_check
  refine Recording.bind ((SecurityKernel.raises_rebuild env row).mono hcheck db)
    (fun _ _ h => (SecurityKernel.rebuildBoundTransaction_ok h).1) fun transaction => ?_
  split
  · rintro exc db' t hrun ht
    cases hrun
    cases ht
    exact .inl rfl
  split
  · split
    · exact recording_classifyAndRaise _ _ _ _ db
    · exact .of_raises (unrecorded_raise rfl db)
  split
  · refine .of_raises (Tx.RaisesAt.bind (fun exc db' h => ?_) fun _ db' _ =>
      unrecorded_raise rfl db')
    rw [SecurityKernel.expireIfStale_error h]
    rfl
  · refine .of_raises (Tx.Raises.bind ((SecurityKernel.raises_requirePolicyScheme row).mono hcheck)
      (fun _ => ?_) db)
    split
    · exact .ite (unrecorded_raise rfl) (.pure _)
    · exact unrecorded_raise rfl
    · split
      · exact ((SecurityKernel.raises_verifySuppliedUserProof env row _ _).mono hcheck).bind
          fun _ => .pure _
      · exact unrecorded_raise rfl

lemma recording_consume (id : Uuid) (transaction : BoundTransaction) (now : Datetime) (db : Db) :
    Recording (SecurityKernel.consumeAuthorization env id transaction now) db := by
  intro exc db' t hrun ht
  unfold SecurityKernel.consumeAuthorization at hrun
  rcases SecurityKernel.conditional_run hrun (fun _ => rfl) with ⟨row, -, -, haudit⟩ | hrefused
  · rw [appendEvent_error haudit] at ht
    cases ht
  · exact recording_classifyAndRaise _ _ _ _ db exc db' t hrefused ht

lemma unrecorded_insertOutboxEvents (intentId : Uuid) (news : List NewOutboxEvent) :
    Tx.Raises Exc.Unrecorded (insertOutboxEvents env intentId news) := by
  induction news with
  | nil => exact .pure _
  | cons new rest ih =>
    refine .bind (.of_ok fun _ => ⟨_, _, rfl⟩) fun _ => .bind (.of_ok fun _ => ⟨_, _, rfl⟩) fun _ =>
      .bind .get fun _ => .ite (unrecorded_raise rfl) (.bind (.modify _) fun _ => ih)

/-- What follows the insert of an intent is refused, if at all, by the consumption. -/
lemma recording_finishIntent (args : PaymentArgs) (transaction : BoundTransaction)
    (intent : PaymentIntentRow) (mission : Mission) (db : Db) :
    Recording (finishIntent env args transaction intent mission) db := by
  refine Recording.bind (Tx.Raises.get db) (fun _ _ h => ((Prod.mk.inj h).2).symm) fun _ => ?_
  split
  · exact .of_raises (unrecorded_raise rfl db)
  · refine (recording_consume _ _ _ db).then fun _ => ?_
    refine .bind ?_ fun _ => .bind (.modify _) fun _ => .bind (unrecorded_append _ _) fun _ =>
      .bind (unrecorded_append _ _) fun _ => .bind (unrecorded_insertOutboxEvents _ _) fun _ =>
      .ite (.modify _) (.pure _)
    exact .ite (.pure _) (unrecorded_raise rfl)

lemma recording_resolveExisting (existing : PaymentIntentRow) (fingerprint key : String) (db : Db) :
    Recording (resolveExisting env existing fingerprint key) db := by
  unfold resolveExisting
  split
  · exact .of_raises (unrecorded_append _ _ db)
  · exact fun exc db' t hrun ht => .inr (append_raise_records rfl hrun ht)

/-- What a statement that is refused leaves: the committed database is as it was, and the session
has the record of the refusal, unless a binding version was not supported. -/
lemma stepCall_refused {calls : List PaymentCall} {args : PaymentArgs} {phase : CallPhase}
    (h : World.stepCall env db calls args phase = some (.refused exc, db')) :
    db' = db ∧ ∀ t, exc.recordType = some t → t = .transactionBindingFailure ∨
      ∃ event, Records t db (World.statementDb env db args phase) event := by
  unfold World.stepCall at h
  cases phase with
  | called mission =>
    dsimp only at h
    split at h
    · next e he =>
      cases h
      refine ⟨rfl, fun t ht => ?_⟩
      unfold readAuthorization at he
      split at he
      · cases he
        cases ht
      · split at he
        · cases he
          cases ht
        · cases he
    · cases h
  | authorizationRead authorization mission => cases h
  | keyRead authorization existing mission =>
    dsimp only at h
    split at h
    · next e he =>
      cases h
      refine ⟨rfl, fun t ht => ?_⟩
      unfold verifyRequest at he
      split at he
      · cases he
        cases ht
      · split at he
        · cases he
          cases ht
        · exact recording_verify _ _ _ db _ _ t (Prod.ext he rfl) ht
    · cases h
    · cases h
    · cases h
  | inserting authorization transaction mission =>
    dsimp only at h
    split at h
    · cases h
    · split at h
      · cases h
      · cases h
  | inserted transaction intent mission =>
    dsimp only at h
    split at h
    · cases h
    · cases h
    · next e db₁ _ hrun =>
      cases h
      have hraised := congrArg Prod.fst hrun
      exact ⟨rfl, fun t ht => recording_finishIntent _ _ _ _ db _ _ t (Prod.ext hraised rfl) ht⟩
  | conflicted fingerprint =>
    dsimp only at h
    split at h
    · cases h
      exact ⟨rfl, fun t ht => by cases ht⟩
    · cases h
  | resolving existing fingerprint =>
    dsimp only at h
    split at h
    · cases h
    · next e db₁ hrun =>
      cases h
      have hraised := congrArg Prod.fst hrun
      exact ⟨rfl, fun t ht => recording_resolveExisting _ _ _ db _ _ t (Prod.ext hraised rfl) ht⟩
  | returned id created => cases h
  | refused exc => cases h
  | abandoned => cases h

end Records

section Refused

variable {env : Env} {w w' : World} {k : Nat} {call call' : PaymentCall}
  {exc : Exc} {t : EventType}

/-- The step in which a request is refused. -/
lemma requestStep_refused (hcall : w.calls[k]? = some call)
    (hstep : World.step env w (.requestStep k) = some w') (hcall' : w'.calls[k]? = some call')
    (hrefused : call'.phase = .refused exc) :
    w'.db = w.db ∧ ∀ t, exc.recordType = some t → t = .transactionBindingFailure ∨
      ∃ event, Records t w.db (World.statementDb env w.db call.args call.phase) event := by
  simp only [World.step, hcall] at hstep
  split at hstep
  · cases hstep
  next phase db' hnext =>
  cases hstep
  obtain rfl : phase = .refused exc := by
    have hk := (List.getElem?_eq_some_iff.mp hcall).1
    rw [List.getElem?_set_self hk] at hcall'
    cases hcall'
    exact hrefused
  exact stepCall_refused hnext

/-- In no state does the record of a refused payment request become durable. The step in which a
request is refused because of its key, its authorization or its transaction leaves the committed
database as it was, so that no event which the kernel appended for the refusal is in it; for the
key and the authorization the kernel did append one in the session. -/
theorem refused_payment_leaves_no_record (hcall : w.calls[k]? = some call) (hstep : World.step env w (.requestStep k) = some w')
    (hcall' : w'.calls[k]? = some call') (hrefused : call'.phase = .refused exc)
    (ht : exc.recordType = some t) :
    (¬∃ event ∈ w'.db.auditEvents,
      Records t w.db (World.statementDb env w.db call.args call.phase) event) ∧
    w'.db = w.db ∧
    (t ≠ .transactionBindingFailure → ∃ event,
      Records t w.db (World.statementDb env w.db call.args call.phase) event) := by
  obtain ⟨hsame, hrecords⟩ := requestStep_refused hcall hstep hcall' hrefused
  refine ⟨?_, hsame, fun hother => (hrecords t ht).resolve_left hother⟩
  rintro ⟨event, hevent, -, hnew, -⟩
  rw [hsame] at hevent
  exact hnew hevent

end Refused

namespace Sample

/-- A second request for the mission, with a key of its own. -/
def late : PaymentArgs := ⟨⟨"0"⟩, ⟨"22"⟩, "late", "fake", 0⟩

/-- Two requests that have loaded the authorized mission. The first one consumes the authorization,
then the second one reads it. -/
def overlapping : List Action :=
  [.runMission request (quotes 50 fifty_nonneg), .openRequest (args "fake") true,
    .openRequest late true] ++ List.replicate 5 (.requestStep 0) ++
    List.replicate 2 (.requestStep 1)

/-- The record that a request which was refused should have. -/
def refusalOf (call : PaymentCall) : Option EventType :=
  match call.phase with
  | .refused exc => exc.recordType
  | _ => none

lemma overlapping_refused : ((World.exec env overlapping).bind fun w =>
    (World.step env w (.requestStep 1)).bind fun w' =>
      (w.calls[1]?).bind fun _ => (w'.calls[1]?).map refusalOf) =
      some (some .authorizationReplayDetected) := by
  decide +kernel

/-- The second request is refused as a replay. -/
lemma replay_refused : ∃ w w' call call' exc, World.exec env overlapping = some w ∧
    w.calls[1]? = some call ∧ World.step env w (.requestStep 1) = some w' ∧
    w'.calls[1]? = some call' ∧ call'.phase = .refused exc ∧
    exc.recordType = some .authorizationReplayDetected := by
  obtain ⟨w, hw, h⟩ := Option.bind_eq_some_iff.mp overlapping_refused
  obtain ⟨w', hw', h⟩ := Option.bind_eq_some_iff.mp h
  obtain ⟨call, hcall, h⟩ := Option.bind_eq_some_iff.mp h
  obtain ⟨call', hcall', h⟩ := Option.map_eq_some_iff.mp h
  unfold refusalOf at h
  split at h
  · next exc hphase => exact ⟨w, w', call, call', exc, hw, hcall, hw', hcall', hphase, h⟩
  · cases h

end Sample

/-- The replay of the second request is not in the committed chain. -/
theorem refused_payment_replay : ¬∀ (env : Env) (actions : List Action) (w w' : World) (k : Nat)
    (call call' : PaymentCall) (exc : Exc) (t : EventType),
    World.exec env actions = some w → w.calls[k]? = some call →
    World.step env w (.requestStep k) = some w' → w'.calls[k]? = some call' →
    call'.phase = .refused exc → exc.recordType = some t →
    ∃ event ∈ w'.db.auditEvents,
      Records t w.db (World.statementDb env w.db call.args call.phase) event := by
  intro h
  obtain ⟨w, w', call, call', exc, hw, hcall, hw', hcall', hphase, ht⟩ := Sample.replay_refused
  obtain ⟨event, hevent, -, hnew, -⟩ := h _ _ _ _ _ _ _ _ _ hw hcall hw' hcall' hphase ht
  rw [(requestStep_refused hcall hw' hcall' hphase).1] at hevent
  exact hnew hevent

/-- The kernel recorded the replay of the second request in a session that was rolled back. -/
theorem refused_payment_leaves_no_record_replay :
    ∃ (w w' : World) (call : PaymentCall), World.exec Sample.env Sample.overlapping = some w ∧
      World.step Sample.env w (.requestStep 1) = some w' ∧
      (¬∃ event ∈ w'.db.auditEvents, Records .authorizationReplayDetected w.db
        (World.statementDb Sample.env w.db call.args call.phase) event) ∧
      ∃ event, Records .authorizationReplayDetected w.db
        (World.statementDb Sample.env w.db call.args call.phase) event := by
  obtain ⟨w, w', call, call', exc, hw, hcall, hw', hcall', hphase, ht⟩ := Sample.replay_refused
  obtain ⟨hnone, -, hsome⟩ := refused_payment_leaves_no_record hcall hw' hcall' hphase ht
  exact ⟨w, w', call, hw, hw', hnone, hsome nofun⟩

end Pactra
