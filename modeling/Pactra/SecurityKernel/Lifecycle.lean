import Pactra.AuditLedger.View
import Pactra.Foundation.Simulation
import Pactra.SecurityKernel.Authorization

/-!
# What the authorization operations do

Inversion of the lifecycle operations of `Authorization.lean`, by what they leave behind: an
authorization that took one step, and one audit event that replay reads as that step.

## Main results

- `approveAuthorizationWithSignature_ok`, `consumeAuthorization_ok`, `issueAuthorization_ok`,
  `activateAuthorization_ok`, `revokeAuthorization_ok` — what each step does that returned
- `approveAuthorizationWithSignature_refused`, `consumeAuthorization_refused`,
  `activateAuthorization_refused`, `revokeAuthorization_refused`, `expireIfStale_settled` — what a
  refused step leaves behind
- `verifyAuthorizationForPayment_ok` — what the check before a payment establishes
- `verifyAuthorizationForPayment_again` — what verified once verifies again
-/

namespace Pactra

lemma getAuthorization_update (db : Db) (id id' : Uuid) {f : AuthorizationRow → AuthorizationRow}
    (hf : ∀ a, (f a).authorizationId = a.authorizationId) :
    (db.updateAuthorization id f).getAuthorization id' =
      if id' = id then (db.getAuthorization id').map f else db.getAuthorization id' :=
  Table.find_update fun a ha => (hf a).trans ha

lemma AuthorizationStatus.value_ne_empty (s : AuthorizationStatus) : s.value ≠ "" := by
  cases s <;> decide

namespace SecurityKernel

open Replay

/-- An audit event that replay reads as a status of the authorization. -/
def Announces (status : AuthorizationStatus) (entry : AuditEntry) : Prop :=
  Readable entry.payload ∧ ∀ v : View, v.step entry = v.authorized (some status.value)

/-- An audit event that replay reads as an activation, which also authorizes the mission. -/
def AnnouncesActive (entry : AuditEntry) : Prop :=
  Readable entry.payload ∧ ∀ v : View,
    v.step entry = (v.authorized (some AuthorizationStatus.active.value)).moved .authorized

/-- An audit event that tells replay nothing new about an authorization. -/
def Repeats (a : AuthorizationRow) (entry : AuditEntry) : Prop :=
  Readable entry.payload ∧
    ∀ v : View, v.authorizationStatus = some a.status.value → v.step entry = v

/-- What an authorization operation leaves behind that neither activated nor consumed: nothing, a
record of the refusal, or an authorization that is over. -/
inductive Aftermath (db : Db) : Db → Prop
  | kept : Aftermath db db
  | recorded (a : AuthorizationRow) (entry : AuditEntry) (db' : Db)
    (ha : db.getAuthorization a.authorizationId = some a) (hentry : Repeats a entry)
    (h : Appended a.missionId [entry] db db') : Aftermath db db'
  | ended (a : AuthorizationRow) (status : AuthorizationStatus) (entry : AuditEntry) (db' : Db)
    (ha : db.getAuthorization a.authorizationId = some a)
    (hlive : a.status = .pending ∨ a.status = .active)
    (hstatus : status = .expired ∨ status = .revoked) (hentry : Announces status entry)
    (h : Appended a.missionId [entry]
      (db.updateAuthorization a.authorizationId (fun r => { r with status := status })) db') :
    Aftermath db db'

/-- What a refused operation leaves behind: nothing, a record of the refusal, or the expiry it
noticed. -/
inductive Refused (now : Datetime) (db : Db) : Db → Prop
  | kept : Refused now db db
  | recorded (a : AuthorizationRow) (entry : AuditEntry) (db' : Db)
    (ha : db.getAuthorization a.authorizationId = some a) (hentry : Repeats a entry)
    (h : Appended a.missionId [entry] db db') : Refused now db db'
  | expired (a : AuthorizationRow) (entry : AuditEntry) (db' : Db)
    (ha : db.getAuthorization a.authorizationId = some a)
    (hlive : a.status = .pending ∨ a.status = .active) (hstale : a.expiresAt ≤ now)
    (hentry : Announces .expired entry)
    (h : Appended a.missionId [entry]
      (db.updateAuthorization a.authorizationId (fun r => { r with status := .expired })) db') :
    Refused now db db'

lemma Refused.aftermath {now : Datetime} {db db' : Db} (h : Refused now db db') :
    Aftermath db db' := by
  cases h with
  | kept => exact .kept
  | recorded a entry _ ha hentry happ => exact .recorded a entry _ ha hentry happ
  | expired a entry _ ha hlive _ hentry happ =>
    exact .ended a .expired entry _ ha hlive (.inl rfl) hentry happ

/-- An authorization without an approval proof. -/
def Unsigned (a : AuthorizationRow) : Prop := a.signingKeyId = none ∧ a.approvalSignature = none

-- ════════════════════════════════════════════════════════════════════════
-- Helpers
-- ════════════════════════════════════════════════════════════════════════

lemma orStr_status (s : AuthorizationStatus) (b : Option String) :
    orStr (some s.value) b = some s.value := by
  simp [orStr, s.value_ne_empty]

lemma applyTransition_ok {id : Uuid} {condition : AuthorizationRow → Bool}
    {change : AuthorizationRow → AuthorizationRow} {db db' : Db} {b : Bool}
    (h : (applyTransition id condition change).run db = (.ok b, db')) :
    (b = true ∧ ∃ row, db.getAuthorization id = some row ∧ condition row = true ∧
      db' = db.updateAuthorization id change) ∨ (b = false ∧ db' = db) := by
  change applyTransition id condition change db = _ at h
  unfold applyTransition at h
  split at h
  · next row hrow =>
    split at h
    · next hc =>
      obtain ⟨hb, rfl⟩ := Prod.mk.inj h
      exact .inl ⟨(Except.ok.inj hb).symm, row, hrow, hc, rfl⟩
    · obtain ⟨hb, rfl⟩ := Prod.mk.inj h
      exact .inr ⟨(Except.ok.inj hb).symm, rfl⟩
  · obtain ⟨hb, rfl⟩ := Prod.mk.inj h
    exact .inr ⟨(Except.ok.inj hb).symm, rfl⟩

lemma applyTransition_no_error {id : Uuid} {condition : AuthorizationRow → Bool}
    {change : AuthorizationRow → AuthorizationRow} {db db' : Db} {exc : Exc}
    (h : (applyTransition id condition change).run db = (.error exc, db')) : False := by
  change applyTransition id condition change db = _ at h
  unfold applyTransition at h
  split at h
  · split at h <;> simp at h
  · simp at h

/-- An audit append fails only at a taken event id. -/
lemma audit_error {env : Env} {missionId : Uuid} {eventType : EventType} {payload : Dict}
    {db db' : Db} {exc : Exc}
    (h : (audit env missionId eventType payload).run db = (.error exc, db')) :
    exc = .integrityError := by
  rw [audit, run_appendEvent] at h
  dsimp only at h
  split at h
  · exact (Except.error.inj (Prod.mk.inj h).1).symm
  · simp at h

lemma audit_raise {α : Type} {env : Env} {missionId : Uuid} {eventType : EventType}
    {payload : Dict} {exc exc' : Exc} {db db' : Db} (hexc : exc' ≠ .integrityError)
    (h : (do
      audit env missionId eventType payload
      Tx.raise exc : DbTx α).run db = (.error exc', db')) :
    exc' = exc ∧ Appended missionId [⟨eventType, actor, payload⟩] db db' := by
  rcases Tx.bind_error.mp h with h | ⟨⟨⟩, db₁, haudit, hraise⟩
  · exact absurd (audit_error h) hexc
  · obtain ⟨he, rfl⟩ := Prod.mk.inj hraise
    exact ⟨(Except.error.inj he).symm, appendEvent_ok haudit⟩

/-- A conditional update that changed its row, and the reload after it. -/
lemma reload_updated {id : Uuid} (change : AuthorizationRow → AuthorizationRow)
    (hchange : ∀ a, (change a).authorizationId = a.authorizationId) {db : Db}
    {row : AuthorizationRow} (hrow : db.getAuthorization id = some row) :
    (reload id).run (db.updateAuthorization id change) =
      (.ok (some (change row)), db.updateAuthorization id change) := by
  simp [reload, getAuthorization_update db id id hchange, hrow]

/-- A conditional update and what follows it: the announcement of the row it changed, or the
refusal. -/
lemma conditional_run {α : Type} {id : Uuid} {condition : AuthorizationRow → Bool}
    {change : AuthorizationRow → AuthorizationRow} {refuse vanished : DbTx α}
    {announce : AuthorizationRow → DbTx α} {db db' : Db} {r : Except Exc α}
    (h : (do
      let changed ← applyTransition id condition change
      if !changed then refuse
      else
        match ← reload id with
        | none => vanished
        | some row => announce row).run db = (r, db'))
    (hchange : ∀ a, (change a).authorizationId = a.authorizationId) :
    (∃ row, db.getAuthorization id = some row ∧ condition row = true ∧
      (announce (change row)).run (db.updateAuthorization id change) = (r, db')) ∨
    refuse.run db = (r, db') := by
  rcases hupdate : (applyTransition id condition change).run db with ⟨e | changed, db₁⟩
  · exact (applyTransition_no_error hupdate).elim
  rw [Tx.run_bind_of_ok hupdate] at h
  rcases applyTransition_ok hupdate with ⟨rfl, row, hrow, hc, rfl⟩ | ⟨rfl, rfl⟩
  · simp only [Bool.not_true, Bool.false_eq_true, if_false] at h
    rw [Tx.run_bind_of_ok (reload_updated change hchange hrow)] at h
    exact .inl ⟨row, hrow, hc, h⟩
  · exact .inr h

lemma id_of_getAuthorization {db : Db} {id : Uuid} {row : AuthorizationRow}
    (h : db.getAuthorization id = some row) : row.authorizationId = id := Table.key_of_find h

lemma announces_of_status {eventType : EventType} {status : AuthorizationStatus} {payload : Dict}
    (hread : Readable payload) (htext : text payload "status" = some status.value)
    (htype : eventType = .authorizationConsumed ∨ eventType = .authorizationExpired ∨
      eventType = .authorizationRevoked ∨ eventType = .authorizationCreated) (a : String) :
    Announces status ⟨eventType, a, payload⟩ := by
  refine ⟨hread, fun v => ?_⟩
  rcases htype with rfl | rfl | rfl | rfl <;> simp [View.step, htext, orStr_status]

-- ════════════════════════════════════════════════════════════════════════
-- Refusals, expiry, revocation
-- ════════════════════════════════════════════════════════════════════════

theorem expireIfStale_settled {env : Env} {id : Uuid} {now : Datetime} {db db' : Db} {b : Bool}
    (h : (expireIfStale env id now).run db = (.ok b, db')) : Refused now db db' := by
  unfold expireIfStale at h
  rcases conditional_run h (fun _ => rfl) with ⟨row, hrow, hc, hannounce⟩ | hsame
  · obtain ⟨⟨⟩, db₁, haudit, hpure⟩ := Tx.bind_ok.mp hannounce
    obtain ⟨-, rfl⟩ := Prod.mk.inj hpure
    obtain rfl := id_of_getAuthorization hrow
    simp only [decide_eq_true_eq] at hc
    refine .expired row _ _ hrow hc.1 hc.2 ?_ (appendEvent_ok haudit)
    refine announces_of_status ?_ ?_ (by simp) _
    · simp (disch := decide) [Readable]
    · simp [text]
  · obtain ⟨-, rfl⟩ := Prod.mk.inj hsame
    exact .kept

lemma expireIfStale_error {env : Env} {id : Uuid} {now : Datetime} {db db' : Db} {exc : Exc}
    (h : (expireIfStale env id now).run db = (.error exc, db')) : exc = .integrityError := by
  unfold expireIfStale at h
  rcases conditional_run h (fun _ => rfl) with ⟨row, -, -, hannounce⟩ | hsame
  · rcases Tx.bind_error.mp hannounce with ha | ⟨⟨⟩, db₁, -, hpure⟩
    · exact audit_error ha
    · simp at hpure
  · simp at hsame

/-- A refused transition leaves at most its record, or the expiry it noticed. -/
lemma classifyAndRaise_error {α : Type} {env : Env} {id : Uuid}
    {transaction : Option BoundTransaction} {now : Datetime} {expected : AuthorizationStatus}
    {db db' : Db} {exc : Exc} (hexc : exc ≠ .integrityError)
    (h : (classifyAndRaise env id transaction now expected : DbTx α).run db = (.error exc, db')) :
    Refused now db db' := by
  unfold classifyAndRaise at h
  obtain ⟨row, db₁, hreload, hrest⟩ : ∃ row db₁, (reload id).run db = (.ok row, db₁) ∧ _ := by
    rcases Tx.bind_error.mp h with hr | hr
    · simp [reload] at hr
    · exact hr
  obtain ⟨hrow, rfl⟩ : db.getAuthorization id = row ∧ db = db₁ := by simpa [reload] using hreload
  cases row with
  | none =>
    obtain ⟨-, rfl⟩ := Prod.mk.inj hrest
    exact .kept
  | some row =>
    obtain rfl := id_of_getAuthorization hrow
    dsimp only at hrest
    split at hrest
    · next hconsumed =>
      obtain ⟨-, happ⟩ := audit_raise hexc hrest
      refine .recorded row _ _ hrow ⟨?_, fun v hv => ?_⟩ happ
      · simp (disch := decide) [Readable]
      · simp [View.step, text, View.authorized, ← hv]
    · split at hrest
      · obtain ⟨-, happ⟩ := audit_raise hexc hrest
        refine .recorded row _ _ hrow ⟨?_, fun v hv => rfl⟩ happ
        simp (disch := decide) [Readable]
      · split at hrest
        · rcases Tx.bind_error.mp hrest with he | ⟨b, db₂, hexpire, hraise⟩
          · exact absurd (expireIfStale_error he) hexc
          · obtain ⟨-, rfl⟩ := Prod.mk.inj hraise
            exact expireIfStale_settled hexpire
        · obtain ⟨-, rfl⟩ := Prod.mk.inj hrest
          exact .kept

lemma classifyAndRaise_no_ok {α : Type} {env : Env} {id : Uuid}
    {transaction : Option BoundTransaction} {now : Datetime} {expected : AuthorizationStatus}
    {db db' : Db} {a : α}
    (h : (classifyAndRaise env id transaction now expected : DbTx α).run db = (.ok a, db')) :
    False := by
  unfold classifyAndRaise at h
  obtain ⟨row, db₁, -, hrest⟩ := Tx.bind_ok.mp h
  cases row with
  | none => simp at hrest
  | some row =>
    dsimp only at hrest
    split at hrest
    · obtain ⟨_, _, -, hraise⟩ := Tx.bind_ok.mp hrest
      simp at hraise
    · split at hrest
      · obtain ⟨_, _, -, hraise⟩ := Tx.bind_ok.mp hrest
        simp at hraise
      · split at hrest
        · obtain ⟨_, _, -, hraise⟩ := Tx.bind_ok.mp hrest
          simp at hraise
        · simp at hrest

/-- A revocation that returned. -/
theorem revokeAuthorization_ok {env : Env} {id : Uuid} {reason : String} {now : Datetime}
    {db db' : Db} (h : (revokeAuthorization env id reason now).run db = (.ok (), db')) :
    ∃ a entry, db.getAuthorization a.authorizationId = some a ∧ a.authorizationId = id ∧
      (a.status = .pending ∨ a.status = .active) ∧ Announces .revoked entry ∧
      Appended a.missionId [entry]
        (db.updateAuthorization a.authorizationId (fun r => { r with status := .revoked })) db' := by
  unfold revokeAuthorization at h
  rcases conditional_run h (fun _ => rfl) with ⟨row, hrow, hc, hannounce⟩ | hrefused
  · obtain rfl := id_of_getAuthorization hrow
    refine ⟨row, _, hrow, rfl, by simpa using hc, ?_, appendEvent_ok hannounce⟩
    refine announces_of_status ?_ ?_ (by simp) _
    · simp (disch := decide) [Readable]
    · simp [text]
  · exact (classifyAndRaise_no_ok hrefused).elim

theorem revokeAuthorization_refused {env : Env} {id : Uuid} {reason : String} {now : Datetime}
    {db db' : Db} {exc : Exc} (hexc : exc ≠ .integrityError)
    (h : (revokeAuthorization env id reason now).run db = (.error exc, db')) :
    Refused now db db' := by
  unfold revokeAuthorization at h
  rcases conditional_run h (fun _ => rfl) with ⟨row, -, -, hannounce⟩ | hrefused
  · exact absurd (audit_error hannounce) hexc
  · exact classifyAndRaise_error hexc hrefused

-- ════════════════════════════════════════════════════════════════════════
-- Steps forward
-- ════════════════════════════════════════════════════════════════════════

lemma announcesActive_of_status {payload : Dict} (hread : Readable payload)
    (htext : text payload "status" = some AuthorizationStatus.active.value) (a : String) :
    AnnouncesActive ⟨.authorizationActivated, a, payload⟩ := by
  refine ⟨hread, fun v => ?_⟩
  simp [View.step, htext]

lemma rebuildBoundTransaction_error {σ : Type} {env : Env} {row : AuthorizationRow} {s s' : σ}
    {exc : Exc} (h : (rebuildBoundTransaction env row).run s = (.error exc, s')) : s' = s := by
  unfold rebuildBoundTransaction at h
  split at h
  · exact (Prod.mk.inj h).2.symm
  · rcases Tx.bind_error.mp h with hr | ⟨_, _, hr, hp⟩
    · unfold require at hr
      split at hr
      · simp at hr
      · exact (Prod.mk.inj hr).2.symm
    · simp at hp

/-- The checks that only read leave the database alone, however they end. -/
lemma require_state (condition : Bool) (invariantId detail : String) (db : Db) :
    ((require condition invariantId detail : DbTx Unit).run db).2 = db := by
  unfold require
  split <;> rfl

lemma state_of_require {condition : Bool} {invariantId detail : String} {db db' : Db}
    {r : Except Exc Unit} (h : (require condition invariantId detail : DbTx Unit).run db = (r, db')) :
    db' = db := by
  have hstate := require_state condition invariantId detail db
  rwa [h] at hstate

lemma requirePolicyScheme_state (row : AuthorizationRow) (db : Db) :
    ((requirePolicyScheme row).run db).2 = db := by
  unfold requirePolicyScheme
  rw [Tx.run_bind_of_ok (Tx.run_get db), Tx.run_ite]
  exact (apply_ite Prod.snd _ _ _).trans (ite_self _)

lemma verifySuppliedUserProof_state (env : Env) (row : AuthorizationRow)
    (signingKeyId signatureHex : String) (db : Db) :
    ((verifySuppliedUserProof env row signingKeyId signatureHex).run db).2 = db := by
  have hkey : ∀ db : Db, ((trustedDemoPublicKey env signingKeyId).run db).2 = db := by
    intro db
    unfold trustedDemoPublicKey
    split
    · rfl
    · split
      · rfl
      · split
        · rfl
        · split
          · rfl
          · split <;> rfl
  have hsame : ∀ {α : Type} {x : DbTx α}, (∀ db, (x.run db).2 = db) →
      Tx.Respects (Tx.Same (fun db : Db => db)) x := fun h db => h db
  have hverify : Tx.Respects (Tx.Same (fun db : Db => db))
      (verifyUserEd25519Signature env row.authorizationId row.missionId row.bindingVersion
        row.transactionDigest signingKeyId signatureHex : DbTx Unit) := by
    unfold verifyUserEd25519Signature
    refine .ite (fun _ => .raise _) fun _ => ?_
    refine (hsame hkey).bind fun _ => (hsame (require_state _ _ _)).bind fun _ =>
      (hsame (require_state _ _ _)).bind fun _ => (hsame (require_state _ _ _)).bind fun _ => ?_
    exact .ite (fun _ => .pure _) fun _ => .raise _
  refine Tx.Respects.tryCatch hverify (fun exc => ?_) db
  cases exc <;> exact .raise _

/-- What an approval that returned found: a pending, unexpired, unsigned authorization of the
mission, and a signature that verifies for it. -/
structure Approves (env : Env) (missionId : Uuid) (signingKeyId signatureHex : String)
    (now : Datetime) (a : AuthorizationRow) : Prop where
  missionId : a.missionId = missionId
  scheme : a.approvalScheme = .userEd25519
  status : a.status = .pending
  unexpired : now < a.expiresAt
  unsigned : Unsigned a
  proof : SignatureVerifies env a signingKeyId signatureHex

lemma verifySuppliedUserProof_ok {env : Env} {row : AuthorizationRow}
    {signingKeyId signatureHex : String} {db db' : Db}
    (h : (verifySuppliedUserProof env row signingKeyId signatureHex).run db = (.ok (), db')) :
    SignatureVerifies env row signingKeyId signatureHex := by
  rcases Tx.tryCatch_ok.mp h with hok | ⟨exc, db₁, -, hcaught⟩
  · exact (verifyUserEd25519Signature_ok hok).2
  · split at hcaught <;> simp at hcaught

/-- An approval that returned: the pending authorization is active, with its proof. -/
theorem approveAuthorizationWithSignature_ok {env : Env} {missionId id : Uuid}
    {signingKeyId signatureHex : String} {now : Datetime} {db db' : Db}
    (h : (approveAuthorizationWithSignature env missionId id signingKeyId signatureHex now).run db =
      (.ok (), db')) :
    ∃ a entry, db.getAuthorization id = some a ∧
      Approves env missionId signingKeyId signatureHex now a ∧ AnnouncesActive entry ∧
      Appended missionId [entry] (db.updateAuthorization id (fun r =>
        { r with
          status := .active
          signingKeyId := some signingKeyId
          approvalSignature := some signatureHex })) db' := by
  unfold approveAuthorizationWithSignature at h
  obtain ⟨row, db₁, hreload, hrest⟩ := Tx.bind_ok.mp h
  obtain ⟨hrow, rfl⟩ : db.getAuthorization id = row ∧ db = db₁ := by simpa [reload] using hreload
  cases row with
  | none => simp at hrest
  | some row =>
    dsimp only at hrest
    split at hrest
    · simp at hrest
    next hmission =>
    obtain rfl := not_not.mp hmission
    split at hrest
    · exact (classifyAndRaise_no_ok hrest).elim
    split at hrest
    · obtain ⟨_, _, -, hraise⟩ := Tx.bind_ok.mp hrest
      simp at hraise
    obtain ⟨t, db₂, hrebuild, hchecked⟩ := Tx.bind_ok.mp hrest
    obtain ⟨rfl, -⟩ := rebuildBoundTransaction_ok hrebuild
    split at hchecked
    · simp at hchecked
    obtain ⟨⟨⟩, db₃, hproof, hproved⟩ := Tx.bind_ok.mp hchecked
    -- the proof block returned, so its handler did not run and nothing was written
    obtain ⟨rfl, hverified⟩ : db₃ = db₂ ∧ SignatureVerifies env row signingKeyId signatureHex := by
      rcases Tx.tryCatch_ok.mp hproof with hbody | ⟨exc, db₄, -, hcaught⟩
      · obtain ⟨⟨⟩, db₄, hscheme, hverify⟩ := Tx.bind_ok.mp hbody
        have h₁ := requirePolicyScheme_state row db₂
        have h₂ := verifySuppliedUserProof_state env row signingKeyId signatureHex db₄
        rw [hscheme] at h₁
        rw [hverify] at h₂
        exact ⟨h₂.trans h₁, verifySuppliedUserProof_ok hverify⟩
      · split at hcaught
        · obtain ⟨_, _, -, hraise⟩ := Tx.bind_ok.mp hcaught
          simp at hraise
        · simp at hcaught
    rcases conditional_run hproved (fun _ => rfl) with ⟨row', hrow', hc, hlast⟩ | hrefused
    · obtain rfl : row = row' := Option.some.inj (hrow.symm.trans hrow')
      simp only [decide_eq_true_eq] at hc
      obtain ⟨-, hscheme, hpending, hunexpired, -, -, hkey, hsignature⟩ := hc
      refine ⟨row, _, hrow, ⟨rfl, hscheme, hpending, hunexpired, ⟨hkey, hsignature⟩, hverified⟩, ?_,
        appendEvent_ok hlast⟩
      refine announcesActive_of_status ?_ ?_ _
      · simp (disch := decide) [Readable]
      · simp [text]
    · exact (classifyAndRaise_no_ok hrefused).elim

/-- The record of a refused proof tells replay nothing about the authorization. -/
lemma repeats_proofFailure (row : AuthorizationRow) (reasonCode : String)
    (signingKeyId : Option String) :
    Repeats row ⟨.securityViolation, actor,
      [("reason_code", .str reasonCode),
       ("authorization_id", .str row.authorizationId.str),
       ("approval_scheme", .str row.approvalScheme.value),
       ("signing_key_id", .ofOptStr signingKeyId),
       ("transaction_digest", .str row.transactionDigest),
       ("proof_accepted", .bool false)]⟩ := by
  refine ⟨?_, fun v _ => rfl⟩
  simp (disch := decide) [Readable]

/-- An approval that was refused. -/
theorem approveAuthorizationWithSignature_refused {env : Env} {missionId id : Uuid}
    {signingKeyId signatureHex : String} {now : Datetime} {db db' : Db} {exc : Exc}
    (hexc : exc ≠ .integrityError)
    (h : (approveAuthorizationWithSignature env missionId id signingKeyId signatureHex now).run db =
      (.error exc, db')) : Refused now db db' := by
  unfold approveAuthorizationWithSignature at h
  rcases Tx.bind_error.mp h with hr | ⟨row, db₁, hreload, hrest⟩
  · simp [reload] at hr
  obtain ⟨hrow, rfl⟩ : db.getAuthorization id = row ∧ db = db₁ := by simpa [reload] using hreload
  cases row with
  | none =>
    obtain ⟨-, rfl⟩ := Prod.mk.inj hrest
    exact .kept
  | some row =>
    have hid := id_of_getAuthorization hrow
    have hself : db.getAuthorization row.authorizationId = some row := by rw [hid, hrow]
    dsimp only at hrest
    split at hrest
    · obtain ⟨-, rfl⟩ := Prod.mk.inj hrest
      exact .kept
    split at hrest
    · exact classifyAndRaise_error hexc hrest
    split at hrest
    · obtain ⟨-, happ⟩ := audit_raise hexc hrest
      exact .recorded row _ _ hself (repeats_proofFailure row _ _) happ
    rcases Tx.bind_error.mp hrest with hr | ⟨t, db₂, hrebuild, hchecked⟩
    · obtain rfl := rebuildBoundTransaction_error hr
      exact .kept
    obtain ⟨rfl, -⟩ := rebuildBoundTransaction_ok hrebuild
    split at hchecked
    · obtain ⟨-, rfl⟩ := Prod.mk.inj hchecked
      exact .kept
    -- the two checks of the proof only read
    have hbody : ((do
        requirePolicyScheme row
        verifySuppliedUserProof env row signingKeyId signatureHex : DbTx Unit).run db₂).2 = db₂ :=
      Tx.Respects.bind (R := Tx.Same (fun db : Db => db)) (requirePolicyScheme_state row)
        (fun _ => verifySuppliedUserProof_state env row signingKeyId signatureHex) db₂
    rcases Tx.bind_error.mp hchecked with hproof | ⟨⟨⟩, db₃, hproof, hproved⟩
    · rw [Tx.run_tryCatch] at hproof
      split at hproof
      · simp at hproof
      · next e db₃ hfailed =>
        rw [hfailed] at hbody
        obtain rfl : db₃ = db₂ := hbody
        split at hproof
        · obtain ⟨-, happ⟩ := audit_raise hexc hproof
          exact .recorded row _ _ hself (repeats_proofFailure row _ _) happ
        · obtain ⟨-, rfl⟩ := Prod.mk.inj hproof
          exact .kept
    obtain rfl : db₃ = db₂ := by
      rcases Tx.tryCatch_ok.mp hproof with hok | ⟨e, db₄, -, hcaught⟩
      · rw [hok] at hbody
        exact hbody
      · split at hcaught
        · obtain ⟨_, _, -, hraise⟩ := Tx.bind_ok.mp hcaught
          simp at hraise
        · simp at hcaught
    rcases conditional_run hproved (fun _ => rfl) with ⟨row', -, -, hlast⟩ | hrefused
    · exact absurd (audit_error hlast) hexc
    · exact classifyAndRaise_error hexc hrefused

/-- The row `issueAuthorization` inserts. -/
structure Issued (missionId : Uuid) (transaction : BoundTransaction) (scheme : ApprovalScheme)
    (row : AuthorizationRow) : Prop where
  missionId : row.missionId = missionId
  digest : row.transactionDigest = transaction.digest
  policyVersion : row.policyVersion = transaction.policyVersion
  scheme : row.approvalScheme = scheme
  status : row.status = .pending
  merchantId : row.boundMerchantId = transaction.merchantId
  productId : row.boundProductId = transaction.productId
  quantity : row.boundQuantity = transaction.quantity
  amountInr : row.boundAmountInr = transaction.amountInr
  currency : row.boundCurrency = transaction.currency

theorem issueAuthorization_ok {env : Env} {missionId : Uuid} {transaction : BoundTransaction}
    {scheme : ApprovalScheme} {db db' : Db} {row : AuthorizationRow}
    (h : (issueAuthorization env missionId transaction scheme).run db = (.ok row, db')) :
    Issued missionId transaction scheme row ∧ Unsigned row ∧
      db.getAuthorization row.authorizationId = none ∧
      ∃ entry n, Announces .pending entry ∧ Appended missionId [entry]
        { db with authorizations := db.authorizations ++ [row], drawn := n } db' := by
  unfold issueAuthorization at h
  obtain ⟨-, h₁⟩ := require_bind_ok.mp h
  rw [Tx.run_bind_of_ok (run_drawNow env db)] at h₁
  obtain ⟨-, h₂⟩ := require_bind_ok.mp h₁
  rw [Tx.run_bind_of_ok (run_drawUuid env _), Tx.run_bind_of_ok (Tx.run_get _)] at h₂
  dsimp only at h₂
  split at h₂
  · simp at h₂
  next hfree =>
  rw [Tx.run_bind_of_ok (Tx.run_modify _ _)] at h₂
  obtain ⟨⟨⟩, db₁, haudit, hpure⟩ := Tx.bind_ok.mp h₂
  obtain ⟨hr, rfl⟩ := Prod.mk.inj hpure
  obtain rfl := Except.ok.inj hr
  have hnone : db.getAuthorization (env.uuid4 (db.drawn + 1)) = none := by
    rw [not_or] at hfree
    exact Option.not_isSome_iff_eq_none.mp hfree.1
  refine ⟨⟨rfl, rfl, rfl, rfl, rfl, rfl, rfl, rfl, rfl, rfl⟩, ⟨rfl, rfl⟩, hnone, _, _, ?_,
    appendEvent_ok haudit⟩
  refine announces_of_status ?_ ?_ (by simp) _
  · simp (disch := decide) [Readable]
  · simp [text]

/-- A refused issuance leaves every row as it was. -/
theorem issueAuthorization_refused {env : Env} {missionId : Uuid} {transaction : BoundTransaction}
    {scheme : ApprovalScheme} {db db' : Db} {exc : Exc} (hexc : exc ≠ .integrityError)
    (h : (issueAuthorization env missionId transaction scheme).run db = (.error exc, db')) :
    db'.authorizations = db.authorizations := by
  unfold issueAuthorization at h
  rcases Tx.bind_error.mp h with hr | ⟨⟨⟩, db₁, hr, h₁⟩
  · exact congrArg Db.authorizations (state_of_require hr)
  obtain rfl := state_of_require hr
  rw [Tx.run_bind_of_ok (run_drawNow env _)] at h₁
  rcases Tx.bind_error.mp h₁ with hr | ⟨⟨⟩, db₂, hr, h₂⟩
  · rw [state_of_require hr]
  have hrows : db₂.authorizations = db₁.authorizations := by rw [state_of_require hr]
  rw [Tx.run_bind_of_ok (run_drawUuid env _), Tx.run_bind_of_ok (Tx.run_get _)] at h₂
  dsimp only at h₂
  split at h₂
  · obtain ⟨-, rfl⟩ := Prod.mk.inj h₂
    exact hrows
  rw [Tx.run_bind_of_ok (Tx.run_modify _ _)] at h₂
  rcases Tx.bind_error.mp h₂ with ha | ⟨⟨⟩, db₃, -, hpure⟩
  · exact absurd (audit_error ha) hexc
  · simp at hpure

/-- What an activation that returned found: a pending, unexpired, unsigned authorization that the
policy issued. -/
structure Activates (a : AuthorizationRow) (now : Datetime) : Prop where
  scheme : a.approvalScheme = .policyAuto
  status : a.status = .pending
  unexpired : now < a.expiresAt
  unsigned : Unsigned a

theorem activateAuthorization_ok {env : Env} {id : Uuid} {db db' : Db}
    (h : (activateAuthorization env id).run db = (.ok (), db')) :
    ∃ a entry n, db.getAuthorization id = some a ∧ Activates a (env.utcnow db.drawn) ∧
      AnnouncesActive entry ∧ Appended a.missionId [entry]
        ({ db with drawn := n }.updateAuthorization id (fun r => { r with status := .active }))
        db' := by
  unfold activateAuthorization at h
  rw [Tx.run_bind_of_ok (run_drawNow env db)] at h
  rcases conditional_run h (fun _ => rfl) with ⟨row, hrow, hc, hannounce⟩ | hrefused
  · simp only [decide_eq_true_eq] at hc
    obtain ⟨hscheme, hpending, hunexpired, hkey, hsignature⟩ := hc
    refine ⟨row, _, _, hrow, ⟨hscheme, hpending, hunexpired, hkey, hsignature⟩, ?_,
      appendEvent_ok hannounce⟩
    refine announcesActive_of_status ?_ ?_ _
    · simp (disch := decide) [Readable]
    · simp [text]
  · exact (classifyAndRaise_no_ok hrefused).elim

theorem activateAuthorization_refused {env : Env} {id : Uuid} {db db' : Db} {exc : Exc}
    (hexc : exc ≠ .integrityError)
    (h : (activateAuthorization env id).run db = (.error exc, db')) :
    Refused (env.utcnow db.drawn) { db with drawn := db.drawn + 1 } db' := by
  unfold activateAuthorization at h
  rw [Tx.run_bind_of_ok (run_drawNow env db)] at h
  rcases conditional_run h (fun _ => rfl) with ⟨row, -, -, hannounce⟩ | hrefused
  · exact absurd (audit_error hannounce) hexc
  · exact classifyAndRaise_error hexc hrefused

/-- What a consumption that returned found: an active, unexpired authorization with the presented
digest. -/
structure Consumes (transaction : BoundTransaction) (now : Datetime) (a : AuthorizationRow) :
    Prop where
  status : a.status = .active
  digest : a.transactionDigest = transaction.digest
  unexpired : now < a.expiresAt

/-- A consumption that returned: the active authorization is consumed, for a transaction with its
digest. -/
theorem consumeAuthorization_ok {env : Env} {id : Uuid} {transaction : BoundTransaction}
    {now : Datetime} {db db' : Db}
    (h : (consumeAuthorization env id transaction now).run db = (.ok (), db')) :
    ∃ a entry, db.getAuthorization id = some a ∧ Consumes transaction now a ∧
      Announces .consumed entry ∧
      Appended a.missionId [entry] (db.updateAuthorization id (fun r =>
        { r with status := .consumed, consumedAt := some now })) db' := by
  unfold consumeAuthorization at h
  rcases conditional_run h (fun _ => rfl) with ⟨row, hrow, hc, hannounce⟩ | hrefused
  · simp only [decide_eq_true_eq] at hc
    refine ⟨row, _, hrow, ⟨hc.1, hc.2.1, hc.2.2⟩, ?_, appendEvent_ok hannounce⟩
    refine announces_of_status ?_ ?_ (by simp) _
    · simp (disch := decide) [Readable]
    · simp [text]
  · exact (classifyAndRaise_no_ok hrefused).elim

theorem consumeAuthorization_refused {env : Env} {id : Uuid} {transaction : BoundTransaction}
    {now : Datetime} {db db' : Db} {exc : Exc} (hexc : exc ≠ .integrityError)
    (h : (consumeAuthorization env id transaction now).run db = (.error exc, db')) :
    Refused now db db' := by
  unfold consumeAuthorization at h
  rcases conditional_run h (fun _ => rfl) with ⟨row, -, -, hannounce⟩ | hrefused
  · exact absurd (audit_error hannounce) hexc
  · exact classifyAndRaise_error hexc hrefused

-- ════════════════════════════════════════════════════════════════════════
-- Verification
-- ════════════════════════════════════════════════════════════════════════

/-- The scheme the persisted policy decision of an authorization calls for. -/
def DecisionCallsFor (db : Db) (a : AuthorizationRow) : Prop :=
  ∃ d ∈ db.policyDecisions, d.missionId = a.missionId ∧
    ((d.decision = .allow ∧ a.approvalScheme = .policyAuto) ∨
      (d.decision = .requireApproval ∧ a.approvalScheme = .userEd25519))

lemma requirePolicyScheme_ok {row : AuthorizationRow} {db db' : Db}
    (h : (requirePolicyScheme row).run db = (.ok (), db')) : DecisionCallsFor db row := by
  unfold requirePolicyScheme at h
  rw [Tx.run_bind_of_ok (Tx.run_get db)] at h
  have hexpected := Tx.of_ite_raise_ok h
  split at hexpected
  all_goals
    first
    | (next hd =>
        obtain ⟨d, hbest, hd⟩ := Option.map_eq_some_iff.mp hd
        have hmem := List.mem_filter.mp (Table.mem_of_best hbest)
        have hfields : d.missionId = row.missionId ∧ d.policyVersion = row.policyVersion := by
          simpa using hmem.2
        have hscheme := Option.some.inj hexpected
        refine ⟨d, hmem.1, hfields.1, ?_⟩
        simp [hd, ← hscheme])
    | cases hexpected

/-- A verified authorization: its transaction rebuilds, its policy decision calls for its scheme,
and a user scheme carries a signature that verifies. -/
theorem verifyAuthorizationForPayment_ok {env : Env} {row : AuthorizationRow}
    {expected : AuthorizationStatus} {now : Datetime} {db db' : Db} {t : BoundTransaction}
    (h : (verifyAuthorizationForPayment env row expected now).run db = (.ok t, db')) :
    Rebuilds env row t ∧ row.status = expected ∧ DecisionCallsFor db row ∧
      (row.approvalScheme = .userEd25519 → ∃ signingKeyId signatureHex,
        row.signingKeyId = some signingKeyId ∧ row.approvalSignature = some signatureHex ∧
        SignatureVerifies env row signingKeyId signatureHex) := by
  unfold verifyAuthorizationForPayment at h
  obtain ⟨t', db₁, hrebuild, h₁⟩ := Tx.bind_ok.mp h
  obtain ⟨rfl, hbuilt⟩ := rebuildBoundTransaction_ok hrebuild
  split at h₁
  · simp at h₁
  split at h₁
  · split at h₁
    · exact (classifyAndRaise_no_ok h₁).elim
    · simp at h₁
  next hstatus =>
  have hstatus := not_not.mp hstatus
  split at h₁
  · obtain ⟨_, _, -, hraise⟩ := Tx.bind_ok.mp h₁
    simp at hraise
  obtain ⟨⟨⟩, db₂, hscheme, h₂⟩ := Tx.bind_ok.mp h₁
  have hcalls := requirePolicyScheme_ok hscheme
  split at h₂
  · next hauto =>
    split at h₂
    · simp at h₂
    · obtain ⟨ht, -⟩ := Prod.mk.inj h₂
      obtain rfl := Except.ok.inj ht
      exact ⟨hbuilt, hstatus, hcalls, fun hu => by simp [hauto] at hu⟩
  · simp at h₂
  · split at h₂
    · next signingKeyId signatureHex hkey hsig =>
      obtain ⟨⟨⟩, db₃, hproof, hpure⟩ := Tx.bind_ok.mp h₂
      obtain ⟨ht, -⟩ := Prod.mk.inj hpure
      obtain rfl := Except.ok.inj ht
      exact ⟨hbuilt, hstatus, hcalls, fun _ => ⟨signingKeyId, signatureHex, hkey, hsig,
        verifySuppliedUserProof_ok hproof⟩⟩
    · simp at h₂

section Simulates

open Tx

variable {σ τ : Type} {R : σ → τ → Prop} {env : Env}

lemma require_simulates (condition : Bool) (invariantId detail : String) :
    Simulates R (require condition invariantId detail) (require condition invariantId detail) := by
  unfold require
  exact .ite (.pure _) (.raise _)

lemma rebuildBoundTransaction_simulates (row : AuthorizationRow) :
    Simulates R (rebuildBoundTransaction env row) (rebuildBoundTransaction env row) := by
  unfold rebuildBoundTransaction
  split
  · exact .raise _
  · exact .bind (require_simulates _ _ _) fun _ => .pure _

lemma verifySuppliedUserProof_simulates (row : AuthorizationRow)
    (signingKeyId signatureHex : String) :
    Simulates R (verifySuppliedUserProof env row signingKeyId signatureHex)
      (verifySuppliedUserProof env row signingKeyId signatureHex) := by
  refine .tryCatch ?_ fun exc => ?_
  · unfold verifyUserEd25519Signature
    refine .ite (.raise _) (.bind ?_ fun key => ?_)
    · unfold trustedDemoPublicKey
      refine .ite (.raise _) (.ite (.raise _) ?_)
      cases env.demoApproverPublicKeyHex with
      | none => exact .raise _
      | some encoded => exact .ite (.raise _) (.ite (.raise _) (.pure _))
    · exact .bind (require_simulates _ _ _) fun _ => .bind (require_simulates _ _ _) fun _ =>
        .bind (require_simulates _ _ _) fun _ => .ite (.pure _) (.raise _)
  · cases exc <;> exact .raise _

end Simulates

variable {env : Env} {row : AuthorizationRow} {db db' db₁ : Db} {t : BoundTransaction}

lemma requirePolicyScheme_again (h : (requirePolicyScheme row).run db = (.ok (), db₁))
    (hdecisions : db'.policyDecisions = db.policyDecisions) (status : AuthorizationStatus)
    (consumedAt : Option Datetime) :
    (requirePolicyScheme { row with status := status, consumedAt := consumedAt }).run db' =
      (.ok (), db') := by
  unfold requirePolicyScheme at h ⊢
  rw [Tx.run_bind_of_ok (Tx.run_get _)] at h ⊢
  have hexpected := Tx.of_ite_raise_ok h
  rw [hdecisions]
  exact congrArg (fun x : DbTx Unit => x.run db') (if_pos hexpected)

/-- An authorization that verified while it was ACTIVE verifies again: as it was until it expires,
and CONSUMED at any time. -/
theorem verifyAuthorizationForPayment_again {now now' : Datetime} (status : AuthorizationStatus)
    (consumedAt : Option Datetime)
    (h : (verifyAuthorizationForPayment env row .active now).run db = (.ok t, db₁))
    (hdecisions : db'.policyDecisions = db.policyDecisions)
    (hexpiry : status = .active → now' < row.expiresAt) :
    (verifyAuthorizationForPayment env { row with status := status, consumedAt := consumedAt } status
      now').run db' = (.ok t, db') := by
  unfold verifyAuthorizationForPayment at h ⊢
  obtain ⟨t', db₂, hrebuild, h₁⟩ := Tx.bind_ok.mp h
  obtain ⟨rfl, -⟩ := rebuildBoundTransaction_ok hrebuild
  have hrebuild' : (rebuildBoundTransaction env
      { row with status := status, consumedAt := consumedAt }).run db' = (.ok t', db') := by
    obtain ⟨_, hrun, rfl⟩ :=
      (rebuildBoundTransaction_simulates (R := fun _ s : Db => s = db') row).run rfl hrebuild
    exact hrun
  rw [Tx.run_bind_of_ok hrebuild']
  split at h₁
  · simp at h₁
  next hversion =>
  rw [if_neg hversion, if_neg (not_not.mpr rfl), if_neg fun hc => (hexpiry hc.1).not_ge hc.2]
  split at h₁
  · split at h₁
    · exact (classifyAndRaise_no_ok h₁).elim
    · simp at h₁
  split at h₁
  · obtain ⟨_, _, -, hraise⟩ := Tx.bind_ok.mp h₁
    simp at hraise
  obtain ⟨⟨⟩, db₃, hscheme, h₂⟩ := Tx.bind_ok.mp h₁
  rw [Tx.run_bind_of_ok (requirePolicyScheme_again hscheme hdecisions status consumedAt)]
  dsimp only
  split at h₂
  · split at h₂
    · simp at h₂
    · next hunsigned =>
      obtain ⟨ht, -⟩ := Prod.mk.inj h₂
      obtain rfl := Except.ok.inj ht
      simp [hunsigned]
  · simp at h₂
  · next huser =>
    split at h₂
    · next signingKeyId signatureHex hkey hsignature =>
      obtain ⟨⟨⟩, db₄, hproof, hpure⟩ := Tx.bind_ok.mp h₂
      obtain ⟨ht, -⟩ := Prod.mk.inj hpure
      obtain rfl := Except.ok.inj ht
      have hproof' : (verifySuppliedUserProof env { row with status := status, consumedAt := consumedAt }
          signingKeyId signatureHex).run db' = (.ok (), db') := by
        obtain ⟨_, hrun, rfl⟩ := (verifySuppliedUserProof_simulates (R := fun _ s : Db => s = db') row
          signingKeyId signatureHex).run rfl hproof
        exact hrun
      simp only [huser, hkey, hsignature] at hproof' ⊢
      exact Tx.run_bind_of_ok hproof'
    · simp at h₂

end SecurityKernel

end Pactra
