import Pactra.SecurityKernel.Calls

/-!
# What the authorization lifecycle guarantees

Over every run of the interleaved calls, from a database as the migrations leave it: fresh, or with
historical rows of which none claims a user's approval.

## Main results

- `Effect.row` — what one step does to a stored row
- `rows_proven` — an active or consumed user authorization stores a proof that verified for it
- `over_fixed` — an authorization that is over is never written again
- `consumed_once` — at most one consumption of an authorization returns
- `authorization_lifecycle` — the lifecycle of every authorization, whatever the calls and their order
-/

namespace Pactra

namespace SecurityKernel

/-- The moves of an authorization's status. -/
inductive Moves : AuthorizationStatus → AuthorizationStatus → Prop
  | activated : Moves .pending .active
  | consumed : Moves .active .consumed
  | expired {status : AuthorizationStatus} (h : status = .pending ∨ status = .active) :
    Moves status .expired
  | revoked {status : AuthorizationStatus} (h : status = .pending ∨ status = .active) :
    Moves status .revoked

/-- The statuses that are never left. -/
def Over (status : AuthorizationStatus) : Prop :=
  status = .consumed ∨ status = .expired ∨ status = .revoked

/-- An active or consumed user authorization stores a proof that verifies for it, and a policy
authorization stores none. -/
structure Proven (env : Env) (a : AuthorizationRow) : Prop where
  user : a.approvalScheme = .userEd25519 → a.status = .active ∨ a.status = .consumed →
    ∃ signingKeyId signatureHex, a.signingKeyId = some signingKeyId ∧
      a.approvalSignature = some signatureHex ∧ SignatureVerifies env a signingKeyId signatureHex
  policy : a.approvalScheme = .policyAuto → Unsigned a

/-- The authorizations as the migrations leave them: none of a user, and none signed. -/
def Migrated (db : Db) : Prop :=
  ∀ id a, db.getAuthorization id = some a → a.approvalScheme ≠ .userEd25519 ∧ Unsigned a

/-- What a step does to a stored row. -/
inductive RowChange (env : Env) (a a' : AuthorizationRow) : Prop
  | kept (h : a' = a)
  | stepped (c : Call) (h : RowStep env c a a')
  | demoted (now : Datetime) (h : Demotes now a a')

section Rows

variable {env : Env} {c : Call} {a a' : AuthorizationRow} {now : Datetime}

lemma Rows.put_apply (rows : Rows) (row : AuthorizationRow) (id : Uuid) :
    rows.put row id = if id = row.authorizationId then some row else rows id :=
  Function.update_apply rows row.authorizationId (some row) id

lemma RowStep.id (h : RowStep env c a a') : a'.authorizationId = a.authorizationId := by
  cases h <;> rfl

lemma RowStep.moves (h : RowStep env c a a') : Moves a.status a'.status := by
  cases h with
  | activated h =>
    rw [h.status]
    exact .activated
  | approved h =>
    rw [h.status]
    exact .activated
  | consumed h =>
    rw [h.status]
    exact .consumed
  | revoked h => exact .revoked h

lemma Demotes.id (h : Demotes now a a') : a'.authorizationId = a.authorizationId := by
  rw [h.row]

lemma Demotes.moves (h : Demotes now a a') : Moves a.status a'.status := by
  rw [h.row]
  exact .expired h.live

lemma RowChange.moves (h : RowChange env a a') : a' = a ∨ Moves a.status a'.status := by
  cases h with
  | kept h => exact .inl h
  | stepped c h => exact .inr h.moves
  | demoted now h => exact .inr h.moves

lemma Moves.not_over {s s' : AuthorizationStatus} (h : Moves s s') : ¬Over s := by
  rintro (rfl | rfl | rfl)
  all_goals cases h with
  | expired h => simp at h
  | revoked h => simp at h

/-- A row of a policy stays unsigned, a user's row becomes active with its proof, and the columns
the proof commits to are never written. -/
lemma RowChange.proven (h : RowChange env a a') (ha : Proven env a) : Proven env a' := by
  cases h with
  | kept h => rwa [h]
  | stepped c h =>
    cases h with
    | activated h =>
      refine ⟨fun hscheme _ => ?_, fun _ => h.unsigned⟩
      exact absurd (h.scheme.symm.trans hscheme) (by decide)
    | approved h =>
      refine ⟨fun _ _ => ⟨_, _, rfl, rfl, h.proof⟩, fun hscheme => ?_⟩
      exact absurd (h.scheme.symm.trans hscheme) (by decide)
    | consumed h => exact ⟨fun hscheme _ => ha.user hscheme (.inl h.status), ha.policy⟩
    | revoked h => exact ⟨fun _ hstatus => by simp at hstatus, ha.policy⟩
  | demoted now h =>
    rw [h.row]
    exact ⟨fun _ hstatus => by simp at hstatus, ha.policy⟩

end Rows

section Steps

variable {env : Env} {s s' : Kernel} {st : KernelStep} {id : Uuid} {a a' : AuthorizationRow}

/-- A row that is put in the place of another. -/
lemma put_row {rows : Rows} {b b' : AuthorizationRow} (hb : rows b.authorizationId = some b)
    (hid : b'.authorizationId = b.authorizationId) (h : RowChange env b b')
    (ha : rows id = some a) : ∃ a', rows.put b' id = some a' ∧ RowChange env a a' := by
  rw [Rows.put_apply]
  by_cases hkey : id = b'.authorizationId
  · rw [if_pos hkey]
    rw [hkey, hid, hb] at ha
    obtain rfl := Option.some.inj ha
    exact ⟨b', rfl, h⟩
  · rw [if_neg hkey]
    exact ⟨a, ha, .kept rfl⟩

lemma Holds.row {now : Option Datetime} {rows rows' : Rows} (h : Holds now rows rows')
    (ha : rows id = some a) : ∃ a', rows' id = some a' ∧ RowChange env a a' := by
  cases h with
  | kept h =>
    rw [h]
    exact ⟨a, ha, .kept rfl⟩
  | demoted moment b b' _ hb h hrows =>
    rw [hrows]
    exact put_row hb h.id (.demoted moment h) ha

/-- A stored row stays stored, and changes at most by one call's step. -/
theorem Effect.row (h : Effect env s st s') (ha : s.rows id = some a) :
    ∃ a', s'.rows id = some a' ∧ RowChange env a a' := by
  cases h with
  | held h _ => exact h.row ha
  | returned c _ _ h =>
    cases h with
    | issued _ _ _ row _ _ _ hfree hrows =>
      refine ⟨a, ?_, .kept rfl⟩
      have hne : id ≠ row.authorizationId := by
        rintro rfl
        rw [hfree] at ha
        cases ha
      rw [hrows, Rows.put_apply, if_neg hne]
      exact ha
    | changed b b' hb h hrows =>
      rw [hrows]
      exact put_row hb h.id (.stepped c h) ha
    | expired _ _ _ h => exact h.row ha

lemma Holds.old {now : Option Datetime} {rows rows' : Rows} (h : Holds now rows rows')
    (ha : rows' id = some a') : ∃ a, rows id = some a := by
  cases h with
  | kept h => exact ⟨a', h ▸ ha⟩
  | demoted moment b b' _ hb h hrows =>
    rw [hrows, Rows.put_apply, h.id] at ha
    split at ha
    · next hkey => exact ⟨b, hkey ▸ hb⟩
    · exact ⟨a', ha⟩

/-- A row that was not stored before is issued by the step: pending and unsigned. -/
lemma Effect.new (h : Effect env s st s') (ha : s'.rows id = some a') :
    (∃ a, s.rows id = some a) ∨ (a'.status = .pending ∧ Unsigned a') := by
  cases h with
  | held h _ => exact .inl (h.old ha)
  | returned c _ _ h =>
    cases h with
    | issued _ _ _ row _ hissued hunsigned _ hrows =>
      rw [hrows, Rows.put_apply] at ha
      split at ha
      · obtain rfl := Option.some.inj ha
        exact .inr ⟨hissued.status, hunsigned⟩
      · exact .inl ⟨a', ha⟩
    | changed b b' hb h hrows =>
      rw [hrows, Rows.put_apply, h.id] at ha
      split at ha
      · next hkey => exact .inl ⟨b, hkey ▸ hb⟩
      · exact .inl ⟨a', ha⟩
    | expired _ _ _ h => exact .inl (h.old ha)

end Steps

-- ════════════════════════════════════════════════════════════════════════
-- Proofs
-- ════════════════════════════════════════════════════════════════════════

section Runs

variable {env : Env} {s s' : Kernel}

lemma proven_step {st : KernelStep}
    (hs : ∀ id a, s.rows id = some a → Proven env a) (h : Kernel.step env s st = some s')
    (id : Uuid) (a : AuthorizationRow) (ha : s'.rows id = some a) : Proven env a := by
  have heffect := step_effect h
  rcases heffect.new ha with ⟨b, hb⟩ | ⟨hstatus, hunsigned⟩
  · obtain ⟨a', ha', hchange⟩ := heffect.row hb
    obtain rfl := Option.some.inj (ha.symm.trans ha')
    exact hchange.proven (hs id b hb)
  · exact ⟨fun _ hlive => by simp [hstatus] at hlive, fun _ => hunsigned⟩

/-- Every stored authorization is proven, in every run. -/
theorem rows_proven {db : Db} (hdb : Migrated db) {steps : List KernelStep}
    (hrun : Kernel.exec env db steps = some s) :
    ∀ id a, s.rows id = some a → Proven env a := by
  refine Runs.invariant (I := fun s => ∀ id a, s.rows id = some a → Proven env a)
    (fun s _ s' hs h => proven_step hs h) (fun id a ha => ?_) hrun
  obtain ⟨hscheme, hunsigned⟩ := hdb id a ha
  exact ⟨fun huser => absurd huser hscheme, fun _ => hunsigned⟩

-- ════════════════════════════════════════════════════════════════════════
-- Authorizations that are over
-- ════════════════════════════════════════════════════════════════════════

/-- An authorization that is over is never written again. -/
theorem over_fixed {later : List KernelStep} (hrun : Runs.run (Kernel.step env) s later = some s')
    {id : Uuid} {a : AuthorizationRow} (ha : s.rows id = some a) (hover : Over a.status) :
    s'.rows id = some a := by
  refine Runs.invariant (I := fun s => s.rows id = some a) (fun s st s' hs h => ?_) ha hrun
  obtain ⟨a', ha', hchange⟩ := (step_effect h).row hs
  rcases hchange.moves with rfl | hmoves
  · exact ha'
  · exact absurd hover hmoves.not_over

-- ════════════════════════════════════════════════════════════════════════
-- Consumption
-- ════════════════════════════════════════════════════════════════════════

/-- The row of a consumption that returned. -/
structure Spent (t : BoundTransaction) (now : Datetime) (a : AuthorizationRow) : Prop where
  status : a.status = .consumed
  consumedAt : a.consumedAt = some now
  unexpired : now < a.expiresAt
  digest : a.transactionDigest = t.digest

/-- Every consumption that returned has its row, and no authorization has two. -/
structure SpentOnce (s : Kernel) : Prop where
  row : ∀ k id t now, s.Returned k (.consume id t now) → ∃ a, s.rows id = some a ∧ Spent t now a
  unique : ∀ i j id t t' now now', s.Returned i (.consume id t now) →
    s.Returned j (.consume id t' now') → i = j

/-- The calls that have returned after a call returned. -/
lemma returned_append {c c' : Call} {k : Nat}
    (hsessions : s'.sessions = s.sessions ++ [⟨c, .ended (.ok ()) true⟩]) (h : s'.Returned k c') :
    s.Returned k c' ∨ (k = s.sessions.length ∧ c' = c) := by
  unfold Kernel.Returned at h ⊢
  rw [hsessions, List.getElem?_append] at h
  split at h
  · exact .inl h
  · obtain ⟨hk, hsession⟩ := List.getElem?_eq_some_iff.mp h
    rw [List.getElem_singleton] at hsession
    have hlen : k - s.sessions.length < 1 := hk
    exact .inr ⟨by omega, (congrArg Session.call hsession).symm⟩

/-- A consumption that returns finds an active row and leaves it spent. -/
lemma Performs.consumed {id : Uuid} {t : BoundTransaction} {now : Datetime} {rows rows' : Rows}
    (h : Performs env (.consume id t now) rows rows') :
    (∃ a, rows id = some a ∧ a.status = .active) ∧ ∃ a, rows' id = some a ∧ Spent t now a := by
  cases h with
  | issued _ _ _ _ hc => cases hc
  | expired _ _ hc => cases hc
  | changed a a' ha h hrows =>
    cases h with
    | consumed h =>
      refine ⟨⟨a, ha, h.status⟩, { a with status := .consumed, consumedAt := some now }, ?_,
        rfl, rfl, h.unexpired, h.digest⟩
      rw [hrows, Rows.put_apply]
      exact if_pos rfl

lemma spent_step {st : KernelStep} (hs : SpentOnce s) (h : Kernel.step env s st = some s') :
    SpentOnce s' := by
  have heffect := step_effect h
  have hkept : ∀ k id t now, s.Returned k (.consume id t now) →
      ∃ a, s'.rows id = some a ∧ Spent t now a := by
    intro k id t now hk
    obtain ⟨a, ha, hspent⟩ := hs.row k id t now hk
    obtain ⟨a', ha', hchange⟩ := heffect.row ha
    rcases hchange.moves with rfl | hmoves
    · exact ⟨a', ha', hspent⟩
    · exact absurd (.inl hspent.status) hmoves.not_over
  cases heffect with
  | held _ hreturned =>
    refine ⟨fun k id t now hk => hkept k id t now (hreturned _ _ hk), ?_⟩
    intro i j id t t' now now' hi hj
    exact hs.unique i j id t t' now now' (hreturned _ _ hi) (hreturned _ _ hj)
  | returned c _ hsessions hperforms =>
    -- a consumption that returned before rules out the active row a second one needs
    have hfirst : ∀ k id t now t' now', s.Returned k (.consume id t now) →
        c = .consume id t' now' → False := by
      rintro k id t now t' now' hk rfl
      obtain ⟨a, ha, hspent⟩ := hs.row k id t now hk
      obtain ⟨⟨b, hb, hactive⟩, -⟩ := hperforms.consumed
      obtain rfl := Option.some.inj (ha.symm.trans hb)
      rw [hspent.status] at hactive
      cases hactive
    constructor
    · intro k id t now hk
      rcases returned_append hsessions hk with hold | ⟨-, rfl⟩
      · exact hkept k id t now hold
      · exact hperforms.consumed.2
    · intro i j id t t' now now' hi hj
      rcases returned_append hsessions hi with hi | ⟨rfl, hci⟩
      · rcases returned_append hsessions hj with hj | ⟨-, hcj⟩
        · exact hs.unique i j id t t' now now' hi hj
        · exact (hfirst i id t now t' now' hi hcj.symm).elim
      · rcases returned_append hsessions hj with hj | ⟨rfl, -⟩
        · exact (hfirst j id t' now' t now hj hci.symm).elim
        · rfl

/-- At most one consumption of an authorization returns. -/
theorem consumed_once {db : Db} {steps : List KernelStep}
    (hrun : Kernel.exec env db steps = some s) : SpentOnce s := by
  refine Runs.invariant (fun s _ s' hs h => spent_step hs h) ⟨?_, ?_⟩ hrun
  · intro k id t now hk
    simp [Kernel.Returned] at hk
  · intro i j id t t' now now' hi
    simp [Kernel.Returned] at hi

-- ════════════════════════════════════════════════════════════════════════
-- The lifecycle
-- ════════════════════════════════════════════════════════════════════════

/-- What holds of a state of the kernel, of its next step and of everything after it. -/
structure Lifecycle (env : Env) (s : Kernel) : Prop where
  /-- A user authorization that is active or consumed has its proof, a policy one has none. -/
  proven : ∀ id a, s.rows id = some a → Proven env a
  /-- A row is issued pending. -/
  issued : ∀ st s', Kernel.step env s st = some s' → ∀ id a, s.rows id = none →
    s'.rows id = some a → a.status = .pending
  /-- A status stays or makes one move. -/
  moves : ∀ st s', Kernel.step env s st = some s' → ∀ id a, s.rows id = some a →
    ∃ a', s'.rows id = some a' ∧ (a'.status = a.status ∨ Moves a.status a'.status)
  /-- A row that is over stays as it is. -/
  fixed : ∀ later s', Runs.run (Kernel.step env) s later = some s' → ∀ id a,
    s.rows id = some a → Over a.status → s'.rows id = some a
  /-- Consumptions that returned were in time and for the stored digest, one for each row. -/
  spent : SpentOnce s
  /-- A step from which no call returns changes no row, but for the demotion of a live row whose
  expiry has passed. -/
  refused : ∀ st s', Kernel.step env s st = some s' →
    (∀ k c, s'.Returned k c → s.Returned k c) → ∀ id, s'.rows id = s.rows id ∨
      ∃ now a a', s.moment env st = some now ∧ s.rows id = some a ∧ Demotes now a a' ∧
        s'.rows id = some a'

lemma refused_step {st : KernelStep} (h : Kernel.step env s st = some s')
    (hnone : ∀ k c, s'.Returned k c → s.Returned k c) (id : Uuid) :
    s'.rows id = s.rows id ∨ ∃ now a a', s.moment env st = some now ∧ s.rows id = some a ∧
      Demotes now a a' ∧ s'.rows id = some a' := by
  cases step_effect h with
  | returned c _ hsessions _ =>
    have hlast : s'.Returned s.sessions.length c := by simp [Kernel.Returned, hsessions]
    have hbefore := hnone _ _ hlast
    simp [Kernel.Returned] at hbefore
  | held h _ =>
    cases h with
    | kept h => exact .inl (congrFun h id)
    | demoted now a a' hnow ha hdemotes hrows =>
      rw [hrows, Rows.put_apply, hdemotes.id]
      by_cases hid : id = a.authorizationId
      · rw [if_pos hid, hid]
        exact .inr ⟨now, a, a', hnow, ha, hdemotes, rfl⟩
      · rw [if_neg hid]
        exact .inl rfl

/-- Whatever the calls, their order and the steps they lose races at, every authorization keeps to
its lifecycle. -/
theorem authorization_lifecycle {db : Db} (hdb : Migrated db) {steps : List KernelStep}
    (hrun : Kernel.exec env db steps = some s) : Lifecycle env s where
  proven := rows_proven hdb hrun
  issued st s' h id a hnone ha := by
    rcases (step_effect h).new ha with ⟨b, hb⟩ | ⟨hstatus, -⟩
    · rw [hnone] at hb
      cases hb
    · exact hstatus
  moves st s' h id a ha := by
    obtain ⟨a', ha', hchange⟩ := (step_effect h).row ha
    exact ⟨a', ha', hchange.moves.imp_left fun he => by rw [he]⟩
  fixed later s' h id a ha hover := over_fixed h ha hover
  spent := consumed_once hrun
  refused st s' h hnone id := refused_step h hnone id

end Runs

namespace Sample

/-- Surroundings with counting identifiers, a clock that stands still, and no signature that
verifies. -/
def kernelEnv : Env where
  uuid4 n := ⟨toString n⟩
  utcnow _ := 0
  tokenHex _ := ""
  upper := id
  upper_upper := upper_id
  repr s := s
  floatRepr q := toString q.num
  pyStr _ := ""
  ed25519Verify _ _ _ := false
  demoApproverSigningKeyId := "demo-approver"
  demoApproverPublicKeyHex := none
  authorizationTtlSeconds := 900
  createRetriesAreIdempotent _ := false

/-- A transaction that expires after ten ticks. -/
def transaction : BoundTransaction :=
  ⟨"m", "p", 1, 50, "INR", "v1", "o1", 10, "nonce", single_item, by decide⟩

/-- An authorization that is issued, activated and consumed, and whose consumption is replayed. -/
def replay : List KernelStep :=
  [.call (.issue ⟨"mission"⟩ transaction .policyAuto) true, .call (.activate ⟨"1"⟩) true,
    .call (.consume ⟨"1"⟩ transaction 5) true, .refuse (.consume ⟨"1"⟩ transaction 6),
    .classify 3 true]

end Sample

theorem authorization_lifecycle_replay :
    ∃ s, Kernel.exec Sample.kernelEnv Db.empty Sample.replay = some s ∧
      (s.rows ⟨"1"⟩).map AuthorizationRow.status = some .consumed ∧
      Lifecycle Sample.kernelEnv s := by
  have hstatus : (Kernel.exec Sample.kernelEnv Db.empty Sample.replay).map
      (fun s => (s.rows ⟨"1"⟩).map AuthorizationRow.status) = some (some .consumed) := by
    decide +kernel
  obtain ⟨s, hrun, hs⟩ := Option.map_eq_some_iff.mp hstatus
  exact ⟨s, hrun, hs, authorization_lifecycle (fun _ _ h => by cases h) hrun⟩

end SecurityKernel

end Pactra
