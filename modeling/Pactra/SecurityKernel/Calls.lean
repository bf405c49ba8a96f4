import Pactra.Foundation.Runs
import Pactra.SecurityKernel.Lifecycle

/-!
# Interleaved authorization calls

The six lifecycle operations called at once, over one database. A call that changes its row holds
the row's lock from that statement to its commit, and `approve_authorization_with_signature` takes
the lock before it reads, so these calls are one step. A conditional update that changes no row
holds nothing: the classification that follows reads the row as it is by then, and the demotion it
may end with is one more statement. Whoever makes a call commits or rolls back its transaction.

Everything else the system does is a step that may replace every table but `authorizations`.

## Main results

- `Call.operation_of_refused`, `Refusal.explain_of_stale` — the split steps, taken one after the
  other, are the source's functions
- `step_effect` — what one step does to a row, and which call did it
-/

namespace Pactra

namespace SecurityKernel

/-- A call of the lifecycle. -/
inductive Call where
  | issue (missionId : Uuid) (transaction : BoundTransaction) (scheme : ApprovalScheme)
  | activate (authorizationId : Uuid)
  | approve (missionId authorizationId : Uuid) (signingKeyId signatureHex : String)
      (now : Datetime)
  | consume (authorizationId : Uuid) (transaction : BoundTransaction) (now : Datetime)
  | revoke (authorizationId : Uuid) (reason : String) (now : Datetime)
  | expire (authorizationId : Uuid) (now : Datetime)

/-- The operation a call runs. -/
def Call.operation (env : Env) : Call → DbTx Unit
  | .issue missionId transaction scheme => do
    let _ ← issueAuthorization env missionId transaction scheme
    pure ()
  | .activate authorizationId => activateAuthorization env authorizationId
  | .approve missionId authorizationId signingKeyId signatureHex now =>
    approveAuthorizationWithSignature env missionId authorizationId signingKeyId signatureHex now
  | .consume authorizationId transaction now =>
    consumeAuthorization env authorizationId transaction now
  | .revoke authorizationId reason now => revokeAuthorization env authorizationId reason now
  | .expire authorizationId now => do
    let _ ← expireIfStale env authorizationId now
    pure ()

/-- The arguments of `_classify_and_raise`. -/
structure Refusal where
  authorizationId : Uuid
  transaction : Option BoundTransaction
  now : Datetime
  expectedStatus : AuthorizationStatus

/-- The classification of a refused call. -/
def Refusal.explain (env : Env) (r : Refusal) : DbTx Unit :=
  classifyAndRaise env r.authorizationId r.transaction r.now r.expectedStatus

/-- The row a classification has read leads to the demotion. -/
def Refusal.Stale (r : Refusal) (row : AuthorizationRow) : Prop :=
  row.status ≠ .consumed ∧ (∀ t ∈ r.transaction, row.transactionDigest = t.digest) ∧
    row.expiresAt ≤ r.now

instance (r : Refusal) (row : AuthorizationRow) : Decidable (r.Stale row) :=
  inferInstanceAs (Decidable (_ ∧ _ ∧ _))

/-- The demotion a classification ends with. -/
def Refusal.demote (env : Env) (r : Refusal) (expiresAt : Datetime) : DbTx Unit := do
  let _ ← expireIfStale env r.authorizationId r.now
  Tx.raise (.authorizationFailure .expired r.authorizationId
    ("authorization expired at " ++ expiresAt.isoformat))

/-- The first statements of a call that takes no lock before its conditional update, when the
update changes no row. -/
def Call.refusal (env : Env) (db : Db) : Call → Option (Refusal × Db)
  | .activate authorizationId =>
    let now := env.utcnow db.drawn
    if (db.getAuthorization authorizationId).any (fun row =>
        row.approvalScheme = .policyAuto ∧ row.status = .pending ∧ now < row.expiresAt ∧
          row.signingKeyId = none ∧ row.approvalSignature = none) then none
    else some (⟨authorizationId, none, now, .pending⟩, { db with drawn := db.drawn + 1 })
  | .consume authorizationId transaction now =>
    if (db.getAuthorization authorizationId).any (fun row =>
        row.status = .active ∧ row.transactionDigest = transaction.digest ∧
          now < row.expiresAt) then none
    else some (⟨authorizationId, some transaction, now, .active⟩, db)
  | .revoke authorizationId _ now =>
    if (db.getAuthorization authorizationId).any (fun row =>
        row.status = .pending ∨ row.status = .active) then none
    else some (⟨authorizationId, none, now, .active⟩, db)
  | _ => none

/-- How far a call has come. -/
inductive CallStage where
  | refused (r : Refusal)
  | stale (r : Refusal) (expiresAt : Datetime)
  | ended (result : Except Exc Unit) (committed : Bool)

/-- One call. -/
structure Session where
  call : Call
  stage : CallStage

/-- The database and every call made so far. -/
structure Kernel where
  db : Db
  sessions : List Session

/-- The steps of the kernel. -/
inductive KernelStep where
  | call (c : Call) (commits : Bool)
  | refuse (c : Call)
  | classify (k : Nat) (commits : Bool)
  | demote (k : Nat) (commits : Bool)
  | elsewhere (db : Db)

/-- The authorizations by id. -/
abbrev Rows := Uuid → Option AuthorizationRow

/-- What a transaction makes durable. A failed flush leaves nothing to commit. -/
def durable (commits : Bool) (db : Db) : Except Exc Unit × Db → Db
  | (.error .integrityError, _) => db
  | (_, db') => if commits then db' else db

namespace Kernel

/-- A call that ends in this step. -/
def finish (s : Kernel) (k : Nat) (session : Session) (commits : Bool)
    (r : Except Exc Unit × Db) : Kernel :=
  ⟨durable commits s.db r, s.sessions.set k { session with stage := .ended r.1 commits }⟩

/-- One step of the kernel. -/
def step (env : Env) (s : Kernel) : KernelStep → Option Kernel
  | .call c commits =>
    let r := (c.operation env).run s.db
    some ⟨durable commits s.db r, s.sessions ++ [⟨c, .ended r.1 commits⟩]⟩
  | .refuse c =>
    match c.refusal env s.db with
    | none => none
    | some (r, db') => some ⟨db', s.sessions ++ [⟨c, .refused r⟩]⟩
  | .classify k commits =>
    match s.sessions[k]? with
    | some ⟨c, .refused r⟩ =>
      match (s.db.getAuthorization r.authorizationId).filter (fun row => r.Stale row) with
      | some row =>
        some { s with sessions := s.sessions.set k ⟨c, .stale r row.expiresAt⟩ }
      | none => some (s.finish k ⟨c, .refused r⟩ commits ((r.explain env).run s.db))
    | _ => none
  | .demote k commits =>
    match s.sessions[k]? with
    | some ⟨c, .stale r expiresAt⟩ =>
      some (s.finish k ⟨c, .stale r expiresAt⟩ commits ((r.demote env expiresAt).run s.db))
    | _ => none
  | .elsewhere db => some { s with db := { db with authorizations := s.db.authorizations } }

/-- The stored authorizations. -/
def rows (s : Kernel) : Rows := s.db.getAuthorization

/-- A call that returned, and whose transaction was committed. -/
def Returned (s : Kernel) (k : Nat) (c : Call) : Prop :=
  s.sessions[k]? = some ⟨c, .ended (.ok ()) true⟩

/-- The kernel after a list of steps over a database, before any call was made. -/
def exec (env : Env) (db : Db) (steps : List KernelStep) : Option Kernel :=
  Runs.run (step env) ⟨db, []⟩ steps

end Kernel

-- ════════════════════════════════════════════════════════════════════════
-- The split calls
-- ════════════════════════════════════════════════════════════════════════

/-- A conditional update whose condition no row meets goes on to the refusal. -/
lemma run_conditional_of_refused {α : Type} {id : Uuid} {condition : AuthorizationRow → Bool}
    {change : AuthorizationRow → AuthorizationRow} {refuse : DbTx α} {announce : DbTx α} {db : Db}
    (h : (db.getAuthorization id).any condition = false) :
    (do
      let changed ← applyTransition id condition change
      if !changed then refuse
      else announce).run db = refuse.run db := by
  have hupdate : (applyTransition id condition change).run db = (.ok false, db) := by
    change applyTransition id condition change db = _
    unfold applyTransition
    cases hrow : db.getAuthorization id with
    | none => rfl
    | some row =>
      rw [hrow] at h
      simp [show condition row = false from h]
  rw [Tx.run_bind_of_ok hupdate]
  rfl

/-- A call whose update changed no row goes on to the classification. -/
theorem Call.operation_of_refused {env : Env} {c : Call} {r : Refusal} {db db' : Db}
    (h : c.refusal env db = some (r, db')) :
    (c.operation env).run db = (r.explain env).run db' := by
  cases c with
  | activate id =>
    simp only [Call.refusal] at h
    split at h
    · cases h
    next hnone =>
    obtain ⟨rfl, rfl⟩ := Prod.mk.inj (Option.some.inj h)
    simp only [Call.operation, activateAuthorization]
    rw [Tx.run_bind_of_ok (run_drawNow env db)]
    exact run_conditional_of_refused (Bool.eq_false_iff.mpr hnone)
  | consume id t now =>
    simp only [Call.refusal] at h
    split at h
    · cases h
    next hnone =>
    obtain ⟨rfl, rfl⟩ := Prod.mk.inj (Option.some.inj h)
    exact run_conditional_of_refused (Bool.eq_false_iff.mpr hnone)
  | revoke id reason now =>
    simp only [Call.refusal] at h
    split at h
    · cases h
    next hnone =>
    obtain ⟨rfl, rfl⟩ := Prod.mk.inj (Option.some.inj h)
    exact run_conditional_of_refused (Bool.eq_false_iff.mpr hnone)
  | issue => cases h
  | approve => cases h
  | expire => cases h

/-- An update that changed no row left the table alone. -/
lemma Call.refusal_rows {env : Env} {c : Call} {r : Refusal} {db db' : Db}
    (h : c.refusal env db = some (r, db')) : db'.getAuthorization = db.getAuthorization := by
  cases c <;> simp only [Call.refusal] at h
  case activate | consume | revoke =>
    split at h
    · cases h
    · obtain ⟨-, rfl⟩ := Prod.mk.inj (Option.some.inj h)
      rfl
  all_goals cases h

/-- A classification that read a stale row goes on to the demotion. -/
theorem Refusal.explain_of_stale {env : Env} {r : Refusal} {db : Db} {row : AuthorizationRow}
    (hrow : db.getAuthorization r.authorizationId = some row) (hstale : r.Stale row) :
    (r.explain env).run db = (r.demote env row.expiresAt).run db := by
  obtain ⟨hstatus, hdigest, hexpired⟩ := hstale
  have hnone : r.transaction.filter (fun t => decide (row.transactionDigest ≠ t.digest)) = none := by
    rw [Option.filter_eq_none_iff]
    intro t ht
    simp [hdigest t ht]
  unfold Refusal.explain classifyAndRaise
  rw [Tx.run_bind_of_ok (show (reload r.authorizationId).run db = (.ok (some row), db) by
    simp [reload, hrow])]
  simp only [hstatus, if_false, hnone, hexpired, if_true]
  rfl

-- ════════════════════════════════════════════════════════════════════════
-- What one step does to a row
-- ════════════════════════════════════════════════════════════════════════

/-- What a call that returned does to the row it is about. -/
inductive RowStep (env : Env) : Call → AuthorizationRow → AuthorizationRow → Prop
  | activated {a : AuthorizationRow} {now : Datetime} (h : Activates a now) :
    RowStep env (.activate a.authorizationId) a { a with status := .active }
  | approved {a : AuthorizationRow} {missionId : Uuid} {signingKeyId signatureHex : String}
    {now : Datetime} (h : Approves env missionId signingKeyId signatureHex now a) :
    RowStep env (.approve missionId a.authorizationId signingKeyId signatureHex now) a
      { a with
        status := .active
        signingKeyId := some signingKeyId
        approvalSignature := some signatureHex }
  | consumed {a : AuthorizationRow} {t : BoundTransaction} {now : Datetime}
    (h : Consumes t now a) :
    RowStep env (.consume a.authorizationId t now) a
      { a with status := .consumed, consumedAt := some now }
  | revoked {a : AuthorizationRow} {reason : String} {now : Datetime}
    (h : a.status = .pending ∨ a.status = .active) :
    RowStep env (.revoke a.authorizationId reason now) a { a with status := .revoked }

/-- The demotion of a live authorization whose expiry has passed. -/
structure Demotes (now : Datetime) (a a' : AuthorizationRow) : Prop where
  live : a.status = .pending ∨ a.status = .active
  stale : a.expiresAt ≤ now
  row : a' = { a with status := .expired }

/-- The authorizations with one row put in place. -/
def Rows.put (rows : Rows) (row : AuthorizationRow) : Rows :=
  Function.update rows row.authorizationId (some row)

/-- What a step that no call returned from does to the rows: nothing, or a demotion. -/
inductive Holds (now : Option Datetime) (rows rows' : Rows) : Prop
  | kept (h : rows' = rows)
  | demoted (moment : Datetime) (a a' : AuthorizationRow) (hnow : now = some moment)
    (ha : rows a.authorizationId = some a) (h : Demotes moment a a') (hrows : rows' = rows.put a')

/-- What a call that returned does to the rows. -/
inductive Performs (env : Env) (c : Call) (rows rows' : Rows) : Prop
  | issued (missionId : Uuid) (t : BoundTransaction) (scheme : ApprovalScheme)
    (row : AuthorizationRow) (hc : c = .issue missionId t scheme)
    (hissued : Issued missionId t scheme row) (hunsigned : Unsigned row)
    (hfree : rows row.authorizationId = none) (hrows : rows' = rows.put row)
  | changed (a a' : AuthorizationRow) (ha : rows a.authorizationId = some a)
    (h : RowStep env c a a') (hrows : rows' = rows.put a')
  | expired (authorizationId : Uuid) (now : Datetime) (hc : c = .expire authorizationId now)
    (h : Holds (some now) rows rows')

section Rows

variable {env : Env} {db db' : Db} {now : Datetime}

lemma rows_update {a : AuthorizationRow} {f : AuthorizationRow → AuthorizationRow}
    (ha : db.getAuthorization a.authorizationId = some a)
    (hf : ∀ r, (f r).authorizationId = r.authorizationId)
    (hrows : db'.authorizations = (db.updateAuthorization a.authorizationId f).authorizations) :
    db'.getAuthorization = Rows.put db.getAuthorization (f a) := by
  funext id
  rw [Rows.put, hf a, Function.update_apply]
  have hget : db'.getAuthorization id =
      (db.updateAuthorization a.authorizationId f).getAuthorization id := by
    rw [Db.getAuthorization, hrows]
    rfl
  rw [hget, getAuthorization_update _ _ _ hf]
  by_cases hid : id = a.authorizationId
  · rw [if_pos hid, if_pos hid, hid, ha]
    rfl
  · rw [if_neg hid, if_neg hid]

lemma Refused.holds (h : Refused now db db') : Holds (some now) db.getAuthorization db'.getAuthorization := by
  cases h with
  | kept => exact .kept rfl
  | recorded a entry _ ha _ happ =>
    refine .kept (funext fun id => ?_)
    rw [Db.getAuthorization, happ.rows.authorizations]
    rfl
  | expired a entry _ ha hlive hstale _ happ =>
    refine .demoted now a _ rfl ha ⟨hlive, hstale, rfl⟩ ?_
    exact rows_update (f := fun r => { r with status := .expired }) ha (fun _ => rfl)
      happ.rows.authorizations

/-- What a call that returned did. -/
theorem Call.operation_ok {c : Call} (h : (c.operation env).run db = (.ok (), db')) :
    Performs env c db.getAuthorization db'.getAuthorization := by
  cases c with
  | issue missionId t scheme =>
    obtain ⟨row, db₁, hissue, hpure⟩ := Tx.bind_ok.mp h
    obtain ⟨-, rfl⟩ := Prod.mk.inj hpure
    obtain ⟨hissued, hunsigned, hfree, entry, n, -, happ⟩ := issueAuthorization_ok hissue
    refine .issued missionId t scheme row rfl hissued hunsigned hfree (funext fun id => ?_)
    rw [Db.getAuthorization, happ.rows.authorizations, Table.find_insert, Rows.put,
      Function.update_apply]
    by_cases hid : id = row.authorizationId
    · have hnone : Table.find AuthorizationRow.authorizationId id db.authorizations = none :=
        hid ▸ hfree
      simp [hid ▸ hnone, hid]
    · simp [hid, Ne.symm hid, Db.getAuthorization]
  | activate id =>
    obtain ⟨a, entry, n, ha, hactivates, -, happ⟩ := activateAuthorization_ok h
    obtain rfl := id_of_getAuthorization ha
    exact .changed a _ ha (.activated hactivates)
      (rows_update (f := fun r => { r with status := .active }) ha (fun _ => rfl)
        happ.rows.authorizations)
  | approve missionId id key signature now =>
    obtain ⟨a, entry, ha, happroves, -, happ⟩ := approveAuthorizationWithSignature_ok h
    obtain rfl := id_of_getAuthorization ha
    exact .changed a _ ha (.approved happroves)
      (rows_update (f := fun r => { r with
        status := .active
        signingKeyId := some key
        approvalSignature := some signature }) ha (fun _ => rfl) happ.rows.authorizations)
  | consume id t now =>
    obtain ⟨a, entry, ha, hconsumes, -, happ⟩ := consumeAuthorization_ok h
    obtain rfl := id_of_getAuthorization ha
    exact .changed a _ ha (.consumed hconsumes)
      (rows_update (f := fun r => { r with status := .consumed, consumedAt := some now }) ha
        (fun _ => rfl) happ.rows.authorizations)
  | revoke id reason now =>
    obtain ⟨a, entry, ha, rfl, hlive, -, happ⟩ := revokeAuthorization_ok h
    exact .changed a _ ha (.revoked hlive)
      (rows_update (f := fun r => { r with status := .revoked }) ha (fun _ => rfl)
        happ.rows.authorizations)
  | expire id now =>
    obtain ⟨b, db₁, hexpire, hpure⟩ := Tx.bind_ok.mp h
    obtain ⟨-, rfl⟩ := Prod.mk.inj hpure
    exact .expired id now rfl (expireIfStale_settled hexpire).holds

/-- The moment a call compares expiries with. -/
def Call.moment (env : Env) (db : Db) : Call → Option Datetime
  | .issue _ _ _ => none
  | .activate _ => some (env.utcnow db.drawn)
  | .approve _ _ _ _ now | .consume _ _ now | .revoke _ _ now | .expire _ now => some now

/-- The moment with which the call of a step compares expiries. -/
def Kernel.moment (env : Env) (s : Kernel) : KernelStep → Option Datetime
  | .call c _ => c.moment env s.db
  | .classify k _ | .demote k _ =>
    match s.sessions[k]? with
    | some ⟨_, .refused r⟩ | some ⟨_, .stale r _⟩ => some r.now
    | _ => none
  | _ => none

/-- What a call that was refused did. -/
theorem Call.operation_refused {c : Call} {exc : Exc} (hexc : exc ≠ .integrityError)
    (h : (c.operation env).run db = (.error exc, db')) :
    Holds (c.moment env db) db.getAuthorization db'.getAuthorization := by
  cases c with
  | issue missionId t scheme =>
    rcases Tx.bind_error.mp h with hissue | ⟨_, _, -, hpure⟩
    · refine .kept (funext fun id => ?_)
      rw [Db.getAuthorization, issueAuthorization_refused hexc hissue]
      rfl
    · cases hpure
  | activate id => exact (activateAuthorization_refused hexc h).holds
  | approve missionId id key signature now =>
    exact (approveAuthorizationWithSignature_refused hexc h).holds
  | consume id t now => exact (consumeAuthorization_refused hexc h).holds
  | revoke id reason now => exact (revokeAuthorization_refused hexc h).holds
  | expire id now =>
    rcases Tx.bind_error.mp h with hexpire | ⟨_, _, -, hpure⟩
    · exact absurd (expireIfStale_error hexpire) hexc
    · cases hpure

/-- A transaction that no call returned from leaves what its refusal leaves, or nothing. -/
lemma durable_holds {now : Option Datetime} (commits : Bool) {r : Except Exc Unit × Db}
    (hno : ∀ u, r.1 ≠ .ok u)
    (h : ∀ exc, exc ≠ .integrityError → r.1 = .error exc →
      Holds now db.getAuthorization r.2.getAuthorization) :
    Holds now db.getAuthorization (durable commits db r).getAuthorization := by
  obtain ⟨exc | u, db'⟩ := r
  rotate_left
  · exact absurd rfl (hno u)
  unfold durable
  split
  · exact .kept rfl
  · next hne heq =>
    obtain ⟨rfl, rfl⟩ := Prod.mk.inj heq
    cases commits with
    | false => exact .kept rfl
    | true => exact h exc (fun he => hne (by rw [he])) rfl

lemma Refusal.explain_no_ok (r : Refusal) (u : Unit) : ((r.explain env).run db).1 ≠ .ok u := by
  intro hok
  exact classifyAndRaise_no_ok (Prod.ext hok rfl : (r.explain env).run db = (.ok u, _))

lemma Refusal.explain_holds (r : Refusal) {exc : Exc} (hexc : exc ≠ .integrityError)
    (h : ((r.explain env).run db).1 = .error exc) :
    Holds (some r.now) db.getAuthorization ((r.explain env).run db).2.getAuthorization :=
  (classifyAndRaise_error hexc (Prod.ext h rfl : (r.explain env).run db = (.error exc, _))).holds

lemma Refusal.demote_no_ok (r : Refusal) (expiresAt : Datetime) (u : Unit) :
    ((r.demote env expiresAt).run db).1 ≠ .ok u := by
  intro hok
  obtain ⟨_, _, -, hraise⟩ :=
    Tx.bind_ok.mp (Prod.ext hok rfl : (r.demote env expiresAt).run db = (.ok u, _))
  cases hraise

lemma Refusal.demote_holds (r : Refusal) {expiresAt : Datetime} {exc : Exc}
    (hexc : exc ≠ .integrityError) (h : ((r.demote env expiresAt).run db).1 = .error exc) :
    Holds (some r.now) db.getAuthorization
      ((r.demote env expiresAt).run db).2.getAuthorization := by
  rcases Tx.bind_error.mp (Prod.ext h rfl : (r.demote env expiresAt).run db = (.error exc, _)) with
    hexpire | ⟨b, db₁, hexpire, hraise⟩
  · exact absurd (expireIfStale_error hexpire) hexc
  · have hstate : db₁ = ((r.demote env expiresAt).run db).2 := (Prod.mk.inj hraise).2
    rw [← hstate]
    exact (expireIfStale_settled hexpire).holds

end Rows

/-- What one step does: a call returned from a committed transaction, or none did. -/
inductive Effect (env : Env) (s : Kernel) (st : KernelStep) (s' : Kernel) : Prop
  | returned (c : Call) (hstep : st = .call c true)
    (hsessions : s'.sessions = s.sessions ++ [⟨c, .ended (.ok ()) true⟩])
    (h : Performs env c s.rows s'.rows)
  | held (h : Holds (s.moment env st) s.rows s'.rows)
    (hreturned : ∀ k c, s'.Returned k c → s.Returned k c)

section Steps

variable {env : Env} {s s' : Kernel} {st : KernelStep} {db : Db}

/-- A session that did not return adds no returned call. -/
lemma returned_of_append {session : Session}
    (hnot : ∀ c, session ≠ ⟨c, .ended (.ok ()) true⟩) (k : Nat) (c : Call)
    (h : Kernel.Returned ⟨db, s.sessions ++ [session]⟩ k c) : s.Returned k c := by
  unfold Kernel.Returned at h ⊢
  rw [List.getElem?_append] at h
  split at h
  · exact h
  · obtain ⟨hk, hsession⟩ := List.getElem?_eq_some_iff.mp h
    rw [List.getElem_singleton] at hsession
    exact absurd hsession (hnot c)

lemma returned_of_set {j : Nat} {session : Session}
    (hnot : ∀ c, session ≠ ⟨c, .ended (.ok ()) true⟩) (k : Nat) (c : Call)
    (h : Kernel.Returned ⟨db, s.sessions.set j session⟩ k c) : s.Returned k c := by
  unfold Kernel.Returned at h
  rw [List.getElem?_set] at h
  split at h
  · split at h
    · exact absurd (Option.some.inj h) (hnot c)
    · cases h
  · exact h

theorem step_effect (h : Kernel.step env s st = some s') : Effect env s st s' := by
  cases st with
  | call c commits =>
    obtain rfl := Option.some.inj h
    rcases hrun : (c.operation env).run s.db with ⟨exc | ⟨⟩, db'⟩
    · refine .held (durable_holds commits (by simp) fun e he hr => ?_)
        (returned_of_append (by simp))
      obtain rfl := Except.error.inj hr
      exact Call.operation_refused he hrun
    · cases commits with
      | false => exact .held (.kept rfl) (returned_of_append (by simp))
      | true => exact .returned c rfl rfl (Call.operation_ok hrun)
  | refuse c =>
    simp only [Kernel.step] at h
    split at h
    · cases h
    next r db' hrefusal =>
    obtain rfl := Option.some.inj h
    refine .held (.kept (funext fun id => ?_)) (returned_of_append (by simp))
    exact congrFun (Call.refusal_rows hrefusal) id
  | classify k commits =>
    simp only [Kernel.step] at h
    split at h
    · next c r hsession =>
      split at h
      · obtain rfl := Option.some.inj h
        exact .held (.kept rfl) (returned_of_set (by simp))
      · obtain rfl := Option.some.inj h
        have hmoment : s.moment env (.classify k commits) = some r.now := by
          simp [Kernel.moment, hsession]
        refine .held ?_ (returned_of_set (fun c' hc => ?_))
        · rw [hmoment]
          exact durable_holds commits r.explain_no_ok fun e he hr => r.explain_holds he hr
        · injection hc with _ hstage
          injection hstage with hresult
          exact r.explain_no_ok () hresult
    · cases h
  | demote k commits =>
    simp only [Kernel.step] at h
    split at h
    · next c r expiresAt hsession =>
      obtain rfl := Option.some.inj h
      have hmoment : s.moment env (.demote k commits) = some r.now := by
        simp [Kernel.moment, hsession]
      refine .held ?_ (returned_of_set (fun c' hc => ?_))
      · rw [hmoment]
        exact durable_holds commits (r.demote_no_ok expiresAt) fun e he hr => r.demote_holds he hr
      · injection hc with _ hstage
        injection hstage with hresult
        exact r.demote_no_ok expiresAt () hresult
    · cases h
  | elsewhere db =>
    obtain rfl := Option.some.inj h
    exact .held (.kept rfl) (fun _ _ h => h)

end Steps

end SecurityKernel

end Pactra
