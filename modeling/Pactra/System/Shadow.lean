import Pactra.SecurityKernel.Lifecycle
import Pactra.System.World

/-!
# What nothing but the ledger can see

Two databases with the same rows, of which the second holds further audit events. No operation of
the system reads the audit table except to append to it, so every operation ends the same way on
both, and leaves them related: provided that the values still to be drawn are the same, and that no
id of a further event is drawn again.

## Main results

- `Shadow` — the relation
- `appendEvent_shadow` — an append cannot tell the two apart
- `run_shadow`, `approve_shadow`, `finishIntent_shadow`, `commitTurn_shadow`, `commitWebhook_shadow`
  — nor can the transactions of the system
- `handlerOf_over` — a turn runs the same handler over both
-/

namespace Pactra

/-- What is drawn from the random source and the clock. -/
structure Draws where
  uuid4 : Nat → Uuid
  utcnow : Nat → Datetime
  tokenHex : Nat → String

/-- The same surroundings with other draws. -/
def Env.drawing (env : Env) (d : Draws) : Env :=
  { env with uuid4 := d.uuid4, utcnow := d.utcnow, tokenHex := d.tokenHex }

/-- The same rows over another audit table and another counter. -/
def Db.over (db : Db) (events : List AuditEventRow) (n : Nat) : Db :=
  { db with auditEvents := events, drawn := n }

/-- What an audit event says, less its place in the chain. -/
def AuditEventRow.content (e : AuditEventRow) : Uuid × Uuid × String × String × Json × Datetime :=
  (e.eventId, e.missionId, e.eventType, e.actor, e.payload, e.createdAt)

/-- The second database has the rows of the first and its audit events, among others whose ids are
not drawn again; what is still drawn is the same. -/
structure Shadow (env : Env) (d : Draws) (db db' : Db) : Prop where
  rows : db' = db.over db'.auditEvents db'.drawn
  uuid4 : ∀ k, d.uuid4 (db'.drawn + k) = env.uuid4 (db.drawn + k)
  utcnow : ∀ k, d.utcnow (db'.drawn + k) = env.utcnow (db.drawn + k)
  tokenHex : ∀ k, d.tokenHex (db'.drawn + k) = env.tokenHex (db.drawn + k)
  events : (db.auditEvents.map AuditEventRow.content).Sublist
    (db'.auditEvents.map AuditEventRow.content)
  fresh : ∀ e' ∈ db'.auditEvents, (∃ e ∈ db.auditEvents, e.eventId = e'.eventId) ∨
    ∀ k, env.uuid4 (db.drawn + k) ≠ e'.eventId

namespace Db

variable (db : Db) (events : List AuditEventRow) (n : Nat)

@[simp] theorem over_getMission (id : Uuid) :
    (db.over events n).getMission id = db.getMission id := rfl

@[simp] theorem over_getAuthorization (id : Uuid) :
    (db.over events n).getAuthorization id = db.getAuthorization id := rfl

@[simp] theorem over_getPaymentIntent (id : Uuid) :
    (db.over events n).getPaymentIntent id = db.getPaymentIntent id := rfl

@[simp] theorem over_getOutboxEvent (id : Uuid) :
    (db.over events n).getOutboxEvent id = db.getOutboxEvent id := rfl

@[simp] theorem over_authorizations : (db.over events n).authorizations = db.authorizations := rfl

@[simp] theorem over_policyDecisions :
    (db.over events n).policyDecisions = db.policyDecisions := rfl

@[simp] theorem over_offers : (db.over events n).offers = db.offers := rfl

@[simp] theorem over_paymentIntents : (db.over events n).paymentIntents = db.paymentIntents := rfl

@[simp] theorem over_webhookEvents : (db.over events n).webhookEvents = db.webhookEvents := rfl

end Db

open Tx (Simulates)

variable {env : Env} {d : Draws} {α : Type}

-- ════════════════════════════════════════════════════════════════════════
-- Statements
-- ════════════════════════════════════════════════════════════════════════

/-- Both counters move on together. -/
lemma Shadow.advance {db db' : Db} (h : Shadow env d db db') (n : Nat) :
    Shadow env d { db with drawn := db.drawn + n } { db' with drawn := db'.drawn + n } where
  rows := by
    conv_lhs => rw [h.rows]
    rfl
  uuid4 k := by
    have := h.uuid4 (n + k)
    simpa only [Nat.add_assoc] using this
  utcnow k := by
    have := h.utcnow (n + k)
    simpa only [Nat.add_assoc] using this
  tokenHex k := by
    have := h.tokenHex (n + k)
    simpa only [Nat.add_assoc] using this
  events := h.events
  fresh e' he' := by
    rcases h.fresh e' he' with hold | hnew
    · exact .inl hold
    · refine .inr fun k => ?_
      have := hnew (n + k)
      simpa only [Nat.add_assoc] using this

lemma drawUuid_shadow :
    Simulates (Shadow env d) (drawUuid env) (drawUuid (env.drawing d)) :=
  fun _ _ h => ⟨congrArg Except.ok (h.uuid4 0), h.advance 1⟩

lemma drawNow_shadow :
    Simulates (Shadow env d) (drawNow env) (drawNow (env.drawing d)) :=
  fun _ _ h => ⟨congrArg Except.ok (h.utcnow 0), h.advance 1⟩

lemma drawToken_shadow :
    Simulates (Shadow env d) (drawToken env) (drawToken (env.drawing d)) :=
  fun _ _ h => ⟨congrArg Except.ok (h.tokenHex 0), h.advance 1⟩

/-- What follows a read may use the rows it read. -/
lemma reads_shadow {f g : Db → DbTx α}
    (h : ∀ db events n, Simulates (Shadow env d) (f db) (g (db.over events n))) :
    Simulates (Shadow env d) (Tx.get >>= f) (Tx.get >>= g) := by
  refine .get_bind fun db db' hdb => ?_
  rw [hdb.rows]
  exact h db _ _

lemma gets_shadow {f : Db → α} (h : ∀ db events n, f (Db.over db events n) = f db) :
    Simulates (Shadow env d) (Tx.gets f : DbTx α) (Tx.gets f) := by
  refine .gets fun db db' hdb => ?_
  rw [hdb.rows]
  exact h db _ _

/-- A write that leaves the audit table and the counter alone. -/
lemma Shadow.write {f : Db → Db} (hf : ∀ db events n, f (Db.over db events n) =
    (f db).over events n) {db db' : Db} (h : Shadow env d db db') : Shadow env d (f db) (f db') := by
  have hself : f db = (f db).over db.auditEvents db.drawn := hf db db.auditEvents db.drawn
  have hother : f db' = (f db).over db'.auditEvents db'.drawn := by
    conv_lhs => rw [h.rows]
    exact hf db _ _
  have hevents : (f db).auditEvents = db.auditEvents := by
    rw [hself]
    rfl
  have hdrawn : (f db).drawn = db.drawn := by
    rw [hself]
    rfl
  constructor
  · rw [hother]
    rfl
  · rw [hother, hdrawn]
    exact h.uuid4
  · rw [hother, hdrawn]
    exact h.utcnow
  · rw [hother, hdrawn]
    exact h.tokenHex
  · rw [hother, hevents]
    exact h.events
  · rw [hother, hevents, hdrawn]
    exact h.fresh

lemma Shadow.updatePaymentIntent {db db' : Db} (h : Shadow env d db db') (id : Uuid)
    (f : PaymentIntentRow → PaymentIntentRow) :
    Shadow env d (db.updatePaymentIntent id f) (db'.updatePaymentIntent id f) :=
  h.write (f := fun db => db.updatePaymentIntent id f) fun _ _ _ => rfl

lemma Shadow.updateOutboxEvent {db db' : Db} (h : Shadow env d db db') (id : Uuid)
    (f : OutboxEventRow → OutboxEventRow) :
    Shadow env d (db.updateOutboxEvent id f) (db'.updateOutboxEvent id f) :=
  h.write (f := fun db => db.updateOutboxEvent id f) fun _ _ _ => rfl

lemma modify_shadow {f : Db → Db} (hf : ∀ db events n, f (Db.over db events n) =
    (f db).over events n) :
    Simulates (Shadow env d) (Tx.modify f : DbTx Unit) (Tx.modify f) :=
  .modify fun _ _ h => h.write hf

lemma require_shadow (condition : Bool) (invariantId detail : String) :
    Simulates (Shadow env d) (require condition invariantId detail : DbTx Unit)
      (require condition invariantId detail) :=
  SecurityKernel.require_simulates condition invariantId detail

/-- An id that is drawn is taken in both audit tables or in neither. -/
lemma Shadow.taken {db db' : Db} (h : Shadow env d db db') (k : Nat) :
    (Table.find AuditEventRow.eventId (d.uuid4 (db'.drawn + k)) db'.auditEvents).isSome =
      (Table.find AuditEventRow.eventId (env.uuid4 (db.drawn + k)) db.auditEvents).isSome := by
  have hfind : ∀ id events, (Table.find AuditEventRow.eventId id events).isSome = true ↔
      ∃ e ∈ events, e.eventId = id := by
    intro id events
    simp [Table.find]
  rw [h.uuid4 k, Bool.eq_iff_iff, hfind, hfind]
  constructor
  · rintro ⟨e', he', hid⟩
    rcases h.fresh e' he' with ⟨e, he, hsame⟩ | hnew
    · exact ⟨e, he, hsame.trans hid⟩
    · exact absurd hid.symm (hnew k)
  · rintro ⟨e, he, hid⟩
    obtain ⟨e', he', hcontent⟩ := List.mem_map.mp (h.events.subset (List.mem_map_of_mem he))
    exact ⟨e', he', (congrArg Prod.fst hcontent).trans hid⟩

lemma appendEvent_shadow (missionId : Uuid) (entry : AuditEntry) :
    Simulates (Shadow env d) (appendEvent env missionId entry)
      (appendEvent (env.drawing d) missionId entry) := by
  intro db db' h
  have htaken := h.taken 1
  have hadvanced := h.advance 2
  rw [run_appendEvent, run_appendEvent]
  dsimp only [nextEventRow, Env.drawing] at htaken ⊢
  rw [htaken]
  split
  · exact ⟨rfl, hadvanced⟩
  · refine ⟨rfl, ?_, hadvanced.uuid4, hadvanced.utcnow, hadvanced.tokenHex, ?_, ?_⟩
    · conv_lhs => rw [h.rows]
      rfl
    · simp only [List.map_append, List.map_cons, List.map_nil, AuditEventRow.content,
        h.uuid4 1, show d.utcnow db'.drawn = env.utcnow db.drawn from h.utcnow 0]
      exact h.events.append (List.Sublist.refl _)
    · intro e' he'
      rcases List.mem_append.mp he' with he' | he'
      · rcases hadvanced.fresh e' he' with ⟨e, he, hid⟩ | hnew
        · exact .inl ⟨e, List.mem_append_left _ he, hid⟩
        · exact .inr hnew
      · obtain rfl := List.mem_singleton.mp he'
        exact .inl ⟨_, List.mem_append_right _ List.mem_cons_self, (h.uuid4 1).symm⟩

lemma appendEvents_shadow (missionId : Uuid) (entries : List AuditEntry) :
    Simulates (Shadow env d) (appendEvents env missionId entries)
      (appendEvents (env.drawing d) missionId entries) := by
  induction entries with
  | nil => exact .pure _
  | cons e es ih => exact .bind (appendEvent_shadow missionId e) fun _ => ih

-- ════════════════════════════════════════════════════════════════════════
-- Authorizations
-- ════════════════════════════════════════════════════════════════════════

namespace SecurityKernel

lemma applyTransition_shadow (id : Uuid) (condition : AuthorizationRow → Bool)
    (change : AuthorizationRow → AuthorizationRow) :
    Simulates (Shadow env d) (applyTransition id condition change)
      (applyTransition id condition change) := by
  intro db db' h
  have hget : db'.getAuthorization id = db.getAuthorization id := by rw [h.rows]; rfl
  change (applyTransition id condition change db').1 = (applyTransition id condition change db).1 ∧
    Shadow env d (applyTransition id condition change db).2
      (applyTransition id condition change db').2
  simp only [applyTransition, hget]
  split
  · split
    · exact ⟨rfl, h.write (f := fun db => db.updateAuthorization id change) fun _ _ _ => rfl⟩
    · exact ⟨rfl, h⟩
  · exact ⟨rfl, h⟩

lemma reload_shadow (id : Uuid) : Simulates (Shadow env d) (reload id) (reload id) :=
  gets_shadow fun _ _ _ => rfl

lemma audit_shadow (missionId : Uuid) (eventType : EventType) (payload : Dict) :
    Simulates (Shadow env d) (audit env missionId eventType payload)
      (audit (env.drawing d) missionId eventType payload) := appendEvent_shadow _ _

/-- A conditional update, its refusal and its announcement. -/
lemma conditional_shadow {id : Uuid} {condition : AuthorizationRow → Bool}
    {change : AuthorizationRow → AuthorizationRow} {refuse refuse' vanished : DbTx α}
    {announce announce' : AuthorizationRow → DbTx α}
    (hrefuse : Simulates (Shadow env d) refuse refuse')
    (hvanished : Simulates (Shadow env d) vanished vanished)
    (hannounce : ∀ row, Simulates (Shadow env d) (announce row) (announce' row)) :
    Simulates (Shadow env d)
      (do
        let changed ← applyTransition id condition change
        if !changed then refuse
        else
          match ← reload id with
          | none => vanished
          | some row => announce row)
      (do
        let changed ← applyTransition id condition change
        if !changed then refuse'
        else
          match ← reload id with
          | none => vanished
          | some row => announce' row) := by
  refine .bind (applyTransition_shadow id condition change) fun changed => ?_
  refine .ite hrefuse (.bind (reload_shadow id) fun row => ?_)
  cases row with
  | none => exact hvanished
  | some row => exact hannounce row

lemma expireIfStale_shadow (id : Uuid) (now : Datetime) :
    Simulates (Shadow env d) (expireIfStale env id now) (expireIfStale (env.drawing d) id now) :=
  conditional_shadow (.pure _) (.pure _) fun _ => .bind (audit_shadow _ _ _) fun _ => .pure _

lemma classifyAndRaise_shadow (id : Uuid) (transaction : Option BoundTransaction) (now : Datetime)
    (expected : AuthorizationStatus) :
    Simulates (Shadow env d) (classifyAndRaise env id transaction now expected : DbTx α)
      (classifyAndRaise (env.drawing d) id transaction now expected) := by
  refine .bind (reload_shadow id) fun row => ?_
  cases row with
  | none => exact .raise _
  | some row =>
    refine .ite (.bind (audit_shadow _ _ _) fun _ => .raise _) ?_
    cases transaction.filter (fun t => row.transactionDigest ≠ t.digest) with
    | some t => exact .bind (audit_shadow _ _ _) fun _ => .raise _
    | none =>
      exact .ite (.bind (expireIfStale_shadow id now) fun _ => .raise _) (.raise _)

lemma rebuildBoundTransaction_shadow (row : AuthorizationRow) :
    Simulates (Shadow env d) (rebuildBoundTransaction env row : DbTx BoundTransaction)
      (rebuildBoundTransaction (env.drawing d) row) :=
  rebuildBoundTransaction_simulates row

lemma requirePolicyScheme_shadow (row : AuthorizationRow) :
    Simulates (Shadow env d) (requirePolicyScheme row) (requirePolicyScheme row) := by
  unfold requirePolicyScheme
  refine reads_shadow fun db events n => ?_
  exact .ite (.pure _) (.raise _)

lemma verifySuppliedUserProof_shadow (row : AuthorizationRow)
    (signingKeyId signatureHex : String) :
    Simulates (Shadow env d)
      (verifySuppliedUserProof env row signingKeyId signatureHex : DbTx Unit)
      (verifySuppliedUserProof (env.drawing d) row signingKeyId signatureHex) :=
  verifySuppliedUserProof_simulates row signingKeyId signatureHex

lemma approveAuthorizationWithSignature_shadow (missionId id : Uuid)
    (signingKeyId signatureHex : String) (now : Datetime) :
    Simulates (Shadow env d)
      (approveAuthorizationWithSignature env missionId id signingKeyId signatureHex now)
      (approveAuthorizationWithSignature (env.drawing d) missionId id signingKeyId signatureHex
        now) := by
  refine .bind (reload_shadow id) fun row => ?_
  cases row with
  | none => exact .raise _
  | some row =>
    refine .ite (.raise _) (.ite (classifyAndRaise_shadow _ _ _ _) ?_)
    refine .ite (.bind (audit_shadow _ _ _) fun _ => .raise _) ?_
    refine .bind (rebuildBoundTransaction_shadow row) fun _ => .ite (.raise _) ?_
    refine .bind (.tryCatch ?_ fun exc => ?_) fun _ => ?_
    · exact .bind (requirePolicyScheme_shadow row) fun _ => verifySuppliedUserProof_shadow _ _ _
    · split
      · exact .bind (audit_shadow _ _ _) fun _ => .raise _
      · exact .raise _
    · exact conditional_shadow (classifyAndRaise_shadow _ _ _ _) (.raise _)
        fun _ => audit_shadow _ _ _

lemma verifyAuthorizationForPayment_shadow (row : AuthorizationRow)
    (expected : AuthorizationStatus) (now : Datetime) :
    Simulates (Shadow env d) (verifyAuthorizationForPayment env row expected now)
      (verifyAuthorizationForPayment (env.drawing d) row expected now) := by
  refine .bind (rebuildBoundTransaction_shadow row) fun t => .ite (.raise _) ?_
  refine .ite (.ite (classifyAndRaise_shadow _ _ _ _) (.raise _)) ?_
  refine .ite (.bind (expireIfStale_shadow _ _) fun _ => .raise _) ?_
  refine .bind (requirePolicyScheme_shadow row) fun _ => ?_
  cases row.approvalScheme with
  | policyAuto => exact .ite (.raise _) (.pure _)
  | legacyServer => exact .raise _
  | userEd25519 =>
    cases row.signingKeyId with
    | none => exact .raise _
    | some key =>
      cases row.approvalSignature with
      | none => exact .raise _
      | some signature => exact .bind (verifySuppliedUserProof_shadow _ _ _) fun _ => .pure _

lemma consumeAuthorization_shadow (id : Uuid) (t : BoundTransaction) (now : Datetime) :
    Simulates (Shadow env d) (consumeAuthorization env id t now)
      (consumeAuthorization (env.drawing d) id t now) :=
  conditional_shadow (classifyAndRaise_shadow _ _ _ _) (.raise _) fun _ => audit_shadow _ _ _

lemma revokeAuthorization_shadow (id : Uuid) (reason : String) (now : Datetime) :
    Simulates (Shadow env d) (revokeAuthorization env id reason now)
      (revokeAuthorization (env.drawing d) id reason now) :=
  conditional_shadow (classifyAndRaise_shadow _ _ _ _) (.raise _) fun _ => audit_shadow _ _ _

lemma activateAuthorization_shadow (id : Uuid) :
    Simulates (Shadow env d) (activateAuthorization env id)
      (activateAuthorization (env.drawing d) id) := by
  refine .bind drawNow_shadow fun now => ?_
  exact conditional_shadow (classifyAndRaise_shadow _ _ _ _) (.raise _) fun _ => audit_shadow _ _ _

lemma issueAuthorization_shadow (missionId : Uuid) (t : BoundTransaction)
    (scheme : ApprovalScheme) :
    Simulates (Shadow env d) (issueAuthorization env missionId t scheme)
      (issueAuthorization (env.drawing d) missionId t scheme) := by
  refine .bind (require_shadow _ _ _) fun _ => .bind drawNow_shadow fun now => ?_
  refine .bind (require_shadow _ _ _) fun _ => .bind drawUuid_shadow fun id => ?_
  refine reads_shadow fun db events n => .ite (.raise _) ?_
  refine .bind (modify_shadow fun _ _ _ => rfl) fun _ => ?_
  exact .bind (audit_shadow _ _ _) fun _ => .pure _

lemma buildBoundTransactionFromSelectedOffer_shadow (missionId offerId : Uuid) (version : String)
    (decision : PolicyDecision) (quantity : Int) (nonce : String) (expiresAt : Datetime) :
    Simulates (Shadow env d)
      (buildBoundTransactionFromSelectedOffer env missionId offerId version decision quantity nonce
        expiresAt)
      (buildBoundTransactionFromSelectedOffer (env.drawing d) missionId offerId version decision
        quantity nonce expiresAt) := by
  refine reads_shadow fun db events n => ?_
  simp only [Db.over_offers]
  cases db.offers.find? (fun o => decide (o.id = offerId ∧ o.missionId = missionId)) with
  | none => exact .raise _
  | some row =>
    refine .ite (.raise _) (.ite (.raise _) ?_)
    change Simulates (Shadow env d) (buildBoundTransactionFromValues env _ _ _ _ _ _)
      (buildBoundTransactionFromValues env _ _ _ _ _ _)
    unfold buildBoundTransactionFromValues
    refine .bind (require_shadow _ _ _) fun _ => .bind (require_shadow _ _ _) fun _ =>
      .bind (require_shadow _ _ _) fun _ => ?_
    cases decision.requestedAmount with
    | none => exact .raise _
    | some amount =>
      refine .bind (require_shadow _ _ _) fun _ => ?_
      split
      · exact .raise _
      · exact .pure _

end SecurityKernel

-- ════════════════════════════════════════════════════════════════════════
-- Missions
-- ════════════════════════════════════════════════════════════════════════

namespace AgentOrchestrator

lemma insertRow_shadow {ρ : Type} {key : ρ → Uuid} {rows : Db → List ρ} {put : Db → List ρ → Db}
    {row : ρ} (hrows : ∀ db events n, rows (Db.over db events n) = rows db)
    (hput : ∀ db events n l, put (Db.over db events n) l = (put db l).over events n) :
    Simulates (Shadow env d) (insertRow key rows put row) (insertRow key rows put row) := by
  intro db db' h
  have hsame : rows db' = rows db := by
    rw [h.rows]
    exact hrows db _ _
  change (insertRow key rows put row db').1 = (insertRow key rows put row db).1 ∧
    Shadow env d (insertRow key rows put row db).2 (insertRow key rows put row db').2
  simp only [insertRow, hsame]
  split
  · exact ⟨rfl, h⟩
  · exact ⟨rfl, h.write (f := fun db' => put db' (rows db ++ [row])) fun _ _ _ => hput _ _ _ _⟩

lemma transition_shadow (missionId : Uuid) (target : MissionState) (eventType : EventType)
    (actor : String) (payload : Dict) :
    Simulates (Shadow env d) (transition env missionId target eventType actor payload)
      (transition (env.drawing d) missionId target eventType actor payload) := by
  refine reads_shadow fun db events n => ?_
  simp only [Db.over_getMission]
  cases db.getMission missionId with
  | none => exact .raise _
  | some mission =>
    refine .bind (.ite (.pure _) (.raise _)) fun _ => ?_
    exact .bind (modify_shadow fun _ _ _ => rfl) fun _ => appendEvent_shadow _ _

lemma insertOffers_shadow (missionId : Uuid) (offers : List ProvenancedOffer) :
    Simulates (Shadow env d) (insertOffers missionId offers) (insertOffers missionId offers) := by
  induction offers with
  | nil => exact .pure _
  | cons o os ih =>
    exact .bind (insertRow_shadow (fun _ _ _ => rfl) fun _ _ _ _ => rfl) fun _ => ih

lemma normalizeOffers_shadow (c : MissionConstraints)
    (raws : List (RawMerchantOffer × MerchantContext)) :
    Simulates (Shadow env d) (PolicyEngine.normalizeOffers env c raws)
      (PolicyEngine.normalizeOffers (env.drawing d) c raws) := by
  induction raws with
  | nil => exact .pure _
  | cons raw rest ih =>
    refine .bind (.bind ?_ fun _ => .pure _) fun _ => .bind ih fun _ => .pure _
    exact .bind (require_shadow _ _ _) fun _ => .ite (.raise _) (.bind drawUuid_shadow fun _ => .pure _)

lemma encoded_shadow (value : PyJson) :
    Simulates (Shadow env d) (encoded env value) (encoded (env.drawing d) value) := by
  unfold encoded
  split
  · exact .pure _
  · exact .bind drawNow_shadow fun _ => .raise _

lemma recordAll_shadow (missionId : Uuid) (claims : List (MerchantClaim × String)) :
    Simulates (Shadow env d) (recordAll env missionId claims)
      (recordAll (env.drawing d) missionId claims) := by
  induction claims with
  | nil => exact .pure _
  | cons p claims ih =>
    exact .bind (encoded_shadow _) fun _ => .bind (appendEvent_shadow _ _) fun _ => ih

lemma enforceAuthority_shadow (missionId : Uuid) (c : MissionConstraints)
    (quotes : List AuthenticatedQuote) :
    Simulates (Shadow env d) (enforceAuthority env missionId c quotes)
      (enforceAuthority (env.drawing d) missionId c quotes) := by
  intro db db' h
  rw [run_enforceAuthority, run_enforceAuthority]
  exact Simulates.bind (recordAll_shadow _ _) (fun _ => .pure _) db db' h

lemma discover_shadow (request : CreateMissionRequest) (quotes : List AuthenticatedQuote) :
    Simulates (Shadow env d) (discover env request quotes)
      (discover (env.drawing d) request quotes) := by
  refine .bind drawUuid_shadow fun missionId => ?_
  refine .bind (insertRow_shadow (fun _ _ _ => rfl) fun _ _ _ _ => rfl) fun _ => ?_
  refine .bind (appendEvent_shadow _ _) fun _ => .bind drawUuid_shadow fun constraintsId => ?_
  refine .bind (insertRow_shadow (fun _ _ _ => rfl) fun _ _ _ _ => rfl) fun _ => ?_
  refine .bind (encoded_shadow _) fun _ => .bind (transition_shadow _ _ _ _ _) fun _ => ?_
  refine .bind (transition_shadow _ _ _ _ _) fun _ => .bind (transition_shadow _ _ _ _ _) fun _ =>
    .bind (enforceAuthority_shadow _ _ _) fun _ => ?_
  refine .bind (normalizeOffers_shadow _ _) fun normalized => ?_
  refine .bind (insertOffers_shadow _ _) fun _ => .bind (appendEvents_shadow _ _) fun _ => ?_
  refine .bind (require_shadow _ _ _) fun _ => .bind (transition_shadow _ _ _ _ _) fun _ => ?_
  refine .bind (modify_shadow fun _ _ _ => rfl) fun _ => ?_
  exact .bind (transition_shadow _ _ _ _ _) fun _ => .pure _

lemma bindSelected_shadow (missionId : Uuid) (best : ProvenancedOffer) (decision : PolicyDecision)
    (quantity : Int) :
    Simulates (Shadow env d) (bindSelected env missionId best decision quantity)
      (bindSelected (env.drawing d) missionId best decision quantity) := by
  refine .bind drawNow_shadow fun now => .bind drawToken_shadow fun nonce => ?_
  refine .tryCatch (SecurityKernel.buildBoundTransactionFromSelectedOffer_shadow _ _ _ _ _ _ _)
    fun exc => ?_
  cases exc
  case bindRefusedOfferChanged => exact .bind (appendEvent_shadow _ _) fun _ => .raise _
  all_goals exact .raise _

lemma authorize_shadow (missionId : Uuid) (decision : PolicyDecision) (t : BoundTransaction) :
    Simulates (Shadow env d) (authorize env missionId decision t)
      (authorize (env.drawing d) missionId decision t) := by
  refine .bind (SecurityKernel.issueAuthorization_shadow _ _ _) fun row => ?_
  refine .ite (transition_shadow _ _ _ _ _) ?_
  refine .bind (SecurityKernel.activateAuthorization_shadow _) fun _ => ?_
  refine reads_shadow fun db events n => ?_
  simp only [Db.over_getMission]
  cases db.getMission missionId with
  | none => exact .raise _
  | some mission =>
    exact .bind (.ite (.pure _) (.raise _)) fun _ => modify_shadow fun _ _ _ => rfl

/-- The creation of a mission cannot see further audit events. -/
theorem run_shadow (request : CreateMissionRequest) (quotes : List AuthenticatedQuote) :
    Simulates (Shadow env d) (run env request quotes) (run (env.drawing d) request quotes) := by
  refine .bind (discover_shadow request quotes) fun found => ?_
  refine .bind drawUuid_shadow fun decisionId => .bind drawNow_shadow fun createdAt => ?_
  refine .bind (insertRow_shadow (fun _ _ _ => rfl) fun _ _ _ _ => rfl) fun _ => ?_
  refine .bind (transition_shadow _ _ _ _ _) fun _ => ?_
  refine .ite (.bind (transition_shadow _ _ _ _ _) fun _ => .pure _) ?_
  cases found.2.head? with
  | none => exact .raise _
  | some best =>
    exact .bind (bindSelected_shadow _ _ _ _) fun t => .bind (authorize_shadow _ _ t) fun _ =>
      .pure _

end AgentOrchestrator

-- ════════════════════════════════════════════════════════════════════════
-- Payments
-- ════════════════════════════════════════════════════════════════════════

namespace PaymentExecutor

lemma insertOutboxEvents_shadow (intentId : Uuid) (news : List NewOutboxEvent) :
    Simulates (Shadow env d) (insertOutboxEvents env intentId news)
      (insertOutboxEvents (env.drawing d) intentId news) := by
  induction news with
  | nil => exact .pure _
  | cons new rest ih =>
    refine .bind drawUuid_shadow fun id => .bind drawNow_shadow fun createdAt => ?_
    refine reads_shadow fun db events n => .ite (.raise _) ?_
    exact .bind (modify_shadow fun _ _ _ => rfl) fun _ => ih

lemma finishIntent_shadow (args : PaymentArgs) (t : BoundTransaction) (intent : PaymentIntentRow)
    (mission : Mission) :
    Simulates (Shadow env d) (finishIntent env args t intent mission)
      (finishIntent (env.drawing d) args t intent mission) := by
  refine reads_shadow fun db events n => .ite (.raise _) ?_
  refine .bind (SecurityKernel.consumeAuthorization_shadow _ _ _) fun _ => ?_
  refine .bind (.ite (.pure _) (.raise _)) fun _ => .bind (modify_shadow fun _ _ _ => rfl) fun _ => ?_
  refine .bind (appendEvent_shadow _ _) fun _ => .bind (appendEvent_shadow _ _) fun _ => ?_
  refine .bind (insertOutboxEvents_shadow _ _) fun _ => ?_
  exact .ite (modify_shadow fun _ _ _ => rfl) (.pure _)

lemma resolveExisting_shadow (existing : PaymentIntentRow) (fingerprint key : String) :
    Simulates (Shadow env d) (resolveExisting env existing fingerprint key)
      (resolveExisting (env.drawing d) existing fingerprint key) :=
  .ite (appendEvent_shadow _ _) (.bind (appendEvent_shadow _ _) fun _ => .raise _)

/-- The context of a handler over the other database. -/
def redrawn (ctx : TurnContext) (d : Draws) (events : List AuditEventRow) (n : Nat) : TurnContext :=
  { ctx with env := ctx.env.drawing d, db := ctx.db.over events n }

section Handlers

variable {ctx : TurnContext} {events : List AuditEventRow} {n : Nat}

lemma verifyIntentAuthorizationBeforeProviderIo_over
    (h : Shadow ctx.env d ctx.db (ctx.db.over events n)) :
    verifyIntentAuthorizationBeforeProviderIo (redrawn ctx d events n) =
      verifyIntentAuthorizationBeforeProviderIo ctx := by
  have hreading : ∀ a, (reading (ctx.db.over events n)
      (SecurityKernel.verifyAuthorizationForPayment (ctx.env.drawing d) a .consumed ctx.now) :
        Handler BoundTransaction) =
      reading ctx.db (SecurityKernel.verifyAuthorizationForPayment ctx.env a .consumed ctx.now) := by
    intro a
    funext t
    exact congrArg (fun r => (r, t))
      (SecurityKernel.verifyAuthorizationForPayment_shadow a .consumed ctx.now _ _ h).1
  unfold verifyIntentAuthorizationBeforeProviderIo
  simp only [redrawn, Db.over_getAuthorization, hreading]

lemma validateProviderRoute_over :
    validateProviderRoute (redrawn ctx d events n) = validateProviderRoute ctx := rfl

lemma applyProviderPayment_over (payment : ProviderPayment) (now : Datetime) :
    applyProviderPayment (ctx.env.drawing d) (ctx.db.over events n) payment now =
      applyProviderPayment ctx.env ctx.db payment now := rfl

lemma finishExistingBeforeCreate_over (existing : ProviderPayment) :
    finishExistingBeforeCreate (redrawn ctx d events n) existing =
      finishExistingBeforeCreate ctx existing := by
  simp only [finishExistingBeforeCreate, redrawn, applyProviderPayment_over]
  rfl

lemma recoverFencedCreate_over (h : Shadow ctx.env d ctx.db (ctx.db.over events n)) :
    recoverFencedCreate (redrawn ctx d events n) = recoverFencedCreate ctx := by
  simp only [recoverFencedCreate, verifyIntentAuthorizationBeforeProviderIo_over h,
    finishExistingBeforeCreate_over]
  rfl

lemma createPayment_over : createPayment (redrawn ctx d events n) = createPayment ctx := by
  simp only [createPayment, finishCreated, finishCreateError, redrawn, applyProviderPayment_over]
  rfl

lemma searchThenCreate_over (h : Shadow ctx.env d ctx.db (ctx.db.over events n)) :
    searchThenCreate (redrawn ctx d events n) = searchThenCreate ctx := by
  simp only [searchThenCreate, verifyIntentAuthorizationBeforeProviderIo_over h,
    finishExistingBeforeCreate_over, createPayment_over]
  rfl

lemma reconcileLookup_over : reconcileLookup (redrawn ctx d events n) = reconcileLookup ctx := by
  have hfound : ∀ payment, reconcileFound (redrawn ctx d events n) payment =
      reconcileFound ctx payment := by
    intro payment
    simp only [reconcileFound, redrawn, applyProviderPayment_over]
    rfl
  simp only [reconcileLookup, hfound]
  rfl

lemma dispatchCreate_over (h : Shadow ctx.env d ctx.db (ctx.db.over events n)) :
    dispatchCreate (redrawn ctx d events n) = dispatchCreate ctx := by
  simp only [dispatchCreate, validateProviderRoute_over,
    verifyIntentAuthorizationBeforeProviderIo_over h, recoverFencedCreate_over h,
    searchThenCreate_over h]
  rfl

lemma dispatchCreateFenced_over (h : Shadow ctx.env d ctx.db (ctx.db.over events n))
    (acquired : Bool) :
    dispatchCreateFenced (redrawn ctx d events n) acquired = dispatchCreateFenced ctx acquired := by
  simp only [dispatchCreateFenced, validateProviderRoute_over,
    verifyIntentAuthorizationBeforeProviderIo_over h, recoverFencedCreate_over h,
    searchThenCreate_over h]

lemma reconcileIntent_over (h : Shadow ctx.env d ctx.db (ctx.db.over events n)) :
    reconcileIntent (redrawn ctx d events n) = reconcileIntent ctx := by
  simp only [reconcileIntent, validateProviderRoute_over,
    verifyIntentAuthorizationBeforeProviderIo_over h, reconcileLookup_over]
  rfl

lemma reconcileIntentFenced_over (h : Shadow ctx.env d ctx.db (ctx.db.over events n)) :
    reconcileIntentFenced (redrawn ctx d events n) = reconcileIntentFenced ctx := by
  simp only [reconcileIntentFenced, validateProviderRoute_over,
    verifyIntentAuthorizationBeforeProviderIo_over h, reconcileLookup_over]
  rfl

/-- A turn runs the same handler over both databases. -/
theorem handlerOf_over (h : Shadow ctx.env d ctx.db (ctx.db.over events n)) (p : TurnPhase) :
    World.handlerOf (redrawn ctx d events n) p = World.handlerOf ctx p := by
  unfold World.handlerOf
  simp only [dispatchCreate_over h, dispatchCreateFenced_over h, reconcileIntent_over h,
    reconcileIntentFenced_over h]

end Handlers

end PaymentExecutor

namespace World

open PaymentExecutor

lemma commitWork_shadow (u : UnitOfWork) :
    Simulates (Shadow env d) (commitWork env u) (commitWork (env.drawing d) u) := by
  refine reads_shadow fun db events n => .ite (.raise _) ?_
  refine .bind (modify_shadow fun _ _ _ => rfl) fun _ => ?_
  have hrest : Simulates (Shadow env d)
      (do
        insertOutboxEvents env u.intent.id u.enqueued
        appendEvents env u.intent.missionId u.entries : DbTx Unit)
      (do
        insertOutboxEvents (env.drawing d) u.intent.id u.enqueued
        appendEvents (env.drawing d) u.intent.missionId u.entries) :=
    .bind (insertOutboxEvents_shadow _ _) fun _ => appendEvents_shadow _ _
  cases u.mission with
  | some m => exact .bind (modify_shadow fun _ _ _ => rfl) fun _ => hrest
  | none => exact hrest

lemma commitTurn_shadow (loaded : OutboxEventRow) (t : Turn) :
    Simulates (Shadow env d) (commitTurn env loaded t) (commitTurn (env.drawing d) loaded t) :=
  .bind (modify_shadow fun _ _ _ => rfl) fun _ => commitWork_shadow _

lemma commitWebhook_shadow (event : VerifiedWebhookEvent) (now : Datetime) (u : UnitOfWork)
    (applied : Option (Option PaymentIntentState)) :
    Simulates (Shadow env d) (commitWebhook env event now u applied)
      (commitWebhook (env.drawing d) event now u applied) := by
  cases applied with
  | none => exact commitWork_shadow u
  | some state =>
    refine .bind drawUuid_shadow fun id => reads_shadow fun db events n => ?_
    exact .ite (.bind (.raise _) fun _ => commitWork_shadow u)
      (.bind (modify_shadow fun _ _ _ => rfl) fun _ => commitWork_shadow u)

lemma approve_shadow (call : ApprovalCall) :
    Simulates (Shadow env d) (approve env call) (approve (env.drawing d) call) := by
  refine .bind (SecurityKernel.approveAuthorizationWithSignature_shadow _ _ _ _ _) fun _ => ?_
  exact .bind (.ite (.pure _) (.raise _)) fun _ => modify_shadow fun _ _ _ => rfl

end World

end Pactra
