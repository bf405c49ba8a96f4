import Pactra.PaymentExecutor.Effects.Requests
import Pactra.System.PaymentStates

/-!
# Identical requests

A client that does not know whether its payment request arrived sends it again. Requests for one
payment are answered with one intent, which exactly one of them creates, unless that one commits
while another is between its read of the authorization and its read of the mission: the other then
judges a row from before the commit by what it reads after it.

## Main results

- `Undecided.step`, `Decided.step` — the next statement of a request, before and after one of them
  has committed
- `identical_requests_agree` — the guarantee, for any number of requests, in any order of their
  statements
- `overtaken_request_is_refused` — a request that is overtaken between its reads
-/

namespace Pactra

open PaymentExecutor

variable {env : Env} {args args' : PaymentArgs} {a : AuthorizationRow} {db db' : Db}
  {calls race : List PaymentCall} {w₀ w w' : World}

-- ════════════════════════════════════════════════════════════════════════
-- Requests for one payment
-- ════════════════════════════════════════════════════════════════════════

/-- A repetition of a request, from before the authorization expires. It differs at most in its
clock. -/
def SamePayment (args : PaymentArgs) (a : AuthorizationRow) (args' : PaymentArgs) : Prop :=
  ∃ now < a.expiresAt, args' = { args with now := now }

/-- A step of identical requests: one more arrives, or one of them takes its next statement. -/
def Repeating (args : PaymentArgs) (a : AuthorizationRow) : Action → Prop
  | .openRequest args' _ => SamePayment args a args'
  | .requestStep _ => True
  | _ => False

/-- An authorization that a request can spend: it is ACTIVE, it verifies, and the key of the request
names no payment. -/
structure Spendable (env : Env) (db : Db) (args : PaymentArgs) (a : AuthorizationRow) : Prop where
  read : readAuthorization db args = .ok a
  active : a.status = .active
  verified : ∃ t,
    ((SecurityKernel.verifyAuthorizationForPayment env a .active args.now).run db).1 = .ok t
  unnamed : findByIdempotencyKey db args.idempotencyKey = none

/-- A request that has read its authorization and has not seen its mission yet. -/
def CallPhase.isChecking : CallPhase → Bool
  | .authorizationRead _ _ => true
  | .keyRead _ _ mission => mission.isNone
  | _ => false

/-- A request that commits its intent does so while no request is between its read of the
authorization and its read of the mission. -/
def CommitsUnobserved (w : World) : Action → Prop
  | .requestStep k => ∀ call ∈ w.calls[k]?, World.CallPhase.holds call.phase ≠ none →
    ∀ c ∈ w.calls, c.phase.isChecking = false
  | _ => True

/-- The request that an action takes a statement of. -/
def Action.request : Action → Option Nat
  | .requestStep k => some k
  | _ => none

lemma commitsUnobserved_iff {w : World} {action : Action} :
    (∀ k ∈ Action.request action, ∀ call ∈ w.calls[k]?, World.CallPhase.holds call.phase ≠ none →
      ∀ c ∈ w.calls, c.phase.isChecking = false) ↔ CommitsUnobserved w action := by
  cases action <;> simp [Action.request, CommitsUnobserved]

instance (w : World) (action : Action) : Decidable (CommitsUnobserved w action) :=
  decidable_of_iff _ commitsUnobserved_iff

/-- The fingerprint of a request for the payment that an authorization is bound to. -/
def boundFingerprint (env : Env) (args : PaymentArgs) (a : AuthorizationRow) : String :=
  requestFingerprint args.missionId args.authorizationId a.transactionDigest a.boundAmountInr
    (env.upper a.boundCurrency) a.boundMerchantId args.provider

lemma fingerprintOf_eq {t : BoundTransaction} (h : SecurityKernel.Rebuilds env a t)
    (now : Datetime) : fingerprintOf { args with now := now } a t = boundFingerprint env args a := by
  obtain ⟨-, hmerchant, -, -, hamount, hcurrency⟩ := h
  simp [fingerprintOf, boundFingerprint, hmerchant, hamount, hcurrency]

/-- An authorization after a request has spent it. -/
def AuthorizationRow.spent (a : AuthorizationRow) (now : Datetime) : AuthorizationRow :=
  { a with status := .consumed, consumedAt := some now }

-- ════════════════════════════════════════════════════════════════════════
-- The rows that a request reads
-- ════════════════════════════════════════════════════════════════════════

/-- An authorization that has verified, by the policy decisions of a database. -/
def Verified (env : Env) (db : Db) (a : AuthorizationRow) : Prop :=
  ∃ db₀ now t db₁, db.policyDecisions = db₀.policyDecisions ∧
    (SecurityKernel.verifyAuthorizationForPayment env a .active now).run db₀ = (.ok t, db₁)

lemma Verified.of_eq (h : Verified env db a) (heq : db'.policyDecisions = db.policyDecisions) :
    Verified env db' a := by
  obtain ⟨db₀, now, t, db₁, hdecisions, hrun⟩ := h
  exact ⟨db₀, now, t, db₁, heq.trans hdecisions, hrun⟩

/-- It verifies while it is ACTIVE, until it expires. -/
lemma Verified.active (h : Verified env db a) (hactive : a.status = .active) {now : Datetime}
    (hexpiry : now < a.expiresAt) : ∃ t, SecurityKernel.Rebuilds env a t ∧
      (SecurityKernel.verifyAuthorizationForPayment env a .active now).run db = (.ok t, db) := by
  obtain ⟨db₀, before, t, db₁, hdecisions, hrun⟩ := h
  have hsame : { a with status := .active, consumedAt := a.consumedAt } = a := by rw [← hactive]
  have hagain := SecurityKernel.verifyAuthorizationForPayment_again .active a.consumedAt hrun
    hdecisions fun _ => hexpiry
  rw [hsame] at hagain
  exact ⟨t, (SecurityKernel.verifyAuthorizationForPayment_ok hrun).1, hagain⟩

/-- It verifies once it is spent, at any time. -/
lemma Verified.spent (h : Verified env db a) (spentAt now : Datetime) :
    ∃ t, SecurityKernel.Rebuilds env a t ∧
      (SecurityKernel.verifyAuthorizationForPayment env (a.spent spentAt) .consumed now).run db =
        (.ok t, db) := by
  obtain ⟨db₀, before, t, db₁, hdecisions, hrun⟩ := h
  exact ⟨t, (SecurityKernel.verifyAuthorizationForPayment_ok hrun).1,
    SecurityKernel.verifyAuthorizationForPayment_again .consumed (some spentAt) hrun hdecisions nofun⟩

/-- The database while no request has committed. -/
structure Offered (env : Env) (db : Db) (args : PaymentArgs) (a : AuthorizationRow) : Prop where
  ids : NewIds env db
  read : readAuthorization db args = .ok a
  active : a.status = .active
  verified : Verified env db a
  mission : ∃ m, db.getMission args.missionId = some m ∧ m.state = .authorized
  unnamed : findByIdempotencyKey db args.idempotencyKey = none
  unspent : ∀ i ∈ db.paymentIntents, i.authorizationId ≠ args.authorizationId

/-- The database after a request has committed its intent. -/
structure Granted (env : Env) (db : Db) (args : PaymentArgs) (a : AuthorizationRow)
    (spentAt : Datetime) (i : PaymentIntentRow) : Prop where
  ids : NewIds env db
  read : readAuthorization db args = .ok (a.spent spentAt)
  active : a.status = .active
  verified : Verified env db a
  mission : ∃ m, db.getMission args.missionId = some m
  named : findByIdempotencyKey db args.idempotencyKey = some i
  authorizationId : i.authorizationId = args.authorizationId
  fingerprint : i.requestFingerprint = boundFingerprint env args a

/-- Drawing values changes none of the rows that a request reads. -/
lemma Offered.skip (h : Offered env db args a) {n : Nat} (hn : db.drawn ≤ n) :
    Offered env { db with drawn := n } args a :=
  ⟨h.ids.skip hn, h.read, h.active, h.verified, h.mission, h.unnamed, h.unspent⟩

/-- Neither does an audit event. -/
lemma Granted.audited {spentAt : Datetime} {i : PaymentIntentRow}
    (h : Granted env db args a spentAt i) (hsame : db.SameRows db') (hids : NewIds env db') :
    Granted env db' args a spentAt i := by
  have hread : readAuthorization db' args = readAuthorization db args := by
    unfold readAuthorization Db.getAuthorization
    rw [hsame.authorizations]
  have hmission : db'.getMission args.missionId = db.getMission args.missionId := by
    unfold Db.getMission
    rw [hsame.missions]
  have hnamed : findByIdempotencyKey db' args.idempotencyKey =
      findByIdempotencyKey db args.idempotencyKey := by
    unfold findByIdempotencyKey
    rw [hsame.paymentIntents]
  exact ⟨hids, hread.trans h.read, h.active, h.verified.of_eq hsame.policyDecisions,
    hmission ▸ h.mission, hnamed.trans h.named, h.authorizationId, h.fingerprint⟩

/-- The insert of a request's intent meets no other row. -/
lemma Offered.insertConflicts (h : Offered env db args a) {n : Nat} (hn : db.drawn ≤ n)
    (t : BoundTransaction) (now createdAt : Datetime) :
    PaymentExecutor.insertConflicts db
      (newIntent (env.uuid4 n) { args with now := now } a t createdAt) = false := by
  unfold PaymentExecutor.insertConflicts
  rw [List.any_eq_false]
  intro other hother
  have hid := h.ids.paymentIntents n hn other hother
  have hkey := Table.find_eq_none.mp h.unnamed other hother
  have hauth := h.unspent other hother
  simp [newIntent, hid, hkey, hauth]

/-- What a request that commits its intent makes of the database. -/
lemma Offered.granted (h : Offered env db args a) {t : BoundTransaction}
    {intent : PaymentIntentRow} {now : Datetime} (hids : NewIds env db')
    (hcreated : Created { args with now := now } t intent db db')
    (hauth : intent.authorizationId = args.authorizationId)
    (hkey : intent.idempotencyKey = args.idempotencyKey)
    (hfingerprint : intent.requestFingerprint = boundFingerprint env args a) :
    Granted env db' args a now { intent with state := .queued } := by
  obtain ⟨hget, hmission⟩ := readAuthorization_ok h.read
  obtain ⟨m, hm, -⟩ := h.mission
  have hget' : db'.getAuthorization args.authorizationId = some (a.spent now) := by
    unfold Db.getAuthorization
    rw [hcreated.authorizations]
    refine (getAuthorization_update db args.authorizationId args.authorizationId
      (f := fun r => { r with status := .consumed, consumedAt := some now }) fun _ => rfl).trans ?_
    rw [if_pos rfl, hget]
    rfl
  have hm' : db'.getMission args.missionId = some { m with state := .paymentPending } := by
    unfold Db.getMission
    rw [hcreated.missions]
    refine (getMission_update db args.missionId args.missionId
      (f := fun r => { r with state := .paymentPending }) fun _ hr => hr).trans ?_
    rw [if_pos rfl, hm]
    rfl
  refine ⟨hids, ?_, h.active, h.verified.of_eq hcreated.policyDecisions, ⟨_, hm'⟩, ?_, hauth,
    hfingerprint⟩
  · unfold readAuthorization
    rw [hget']
    exact if_neg (not_not.mpr hmission)
  · unfold findByIdempotencyKey
    rw [hcreated.paymentIntents, Table.find_append,
      show Table.find PaymentIntentRow.idempotencyKey args.idempotencyKey db.paymentIntents = none
        from h.unnamed, Option.none_or]
    simp [Table.find, hkey]

-- ════════════════════════════════════════════════════════════════════════
-- Statements
-- ════════════════════════════════════════════════════════════════════════

/-- A mission row that a session may hold from before it read anything else. -/
def Preloaded (mission : Option Mission) : Prop := ∀ m, mission = some m → m.state = .authorized

/-- How far a request has come while none has committed. -/
inductive Undecided (env : Env) (db : Db) (args : PaymentArgs) (a : AuthorizationRow) :
    CallPhase → Prop
  | called {mission : Option Mission} (hm : Preloaded mission) :
    Undecided env db args a (.called mission)
  | read {mission : Option Mission} (hm : Preloaded mission) :
    Undecided env db args a (.authorizationRead a mission)
  | looked {mission : Option Mission} (hm : Preloaded mission) :
    Undecided env db args a (.keyRead a none mission)
  | inserting {t : BoundTransaction} {mission : Mission} (ht : SecurityKernel.Rebuilds env a t)
      (hm : mission.state = .authorized) : Undecided env db args a (.inserting a t mission)
  | inserted {t : BoundTransaction} {mission : Mission} {createdAt : Datetime} {n : Nat}
      (ht : SecurityKernel.Rebuilds env a t) (hm : mission.state = .authorized) (hn : n < db.drawn)
      (hfree : insertConflicts db (newIntent (env.uuid4 n) args a t createdAt) = false) :
    Undecided env db args a
      (.inserted t (newIntent (env.uuid4 n) args a t createdAt) mission)

/-- How far a request has come once another has committed. -/
inductive Decided (env : Env) (a : AuthorizationRow) (spentAt : Datetime) (i : PaymentIntentRow) :
    CallPhase → Prop
  | called (mission : Option Mission) : Decided env a spentAt i (.called mission)
  | read (mission : Option Mission) :
    Decided env a spentAt i (.authorizationRead (a.spent spentAt) mission)
  | found (mission : Option Mission) :
    Decided env a spentAt i (.keyRead (a.spent spentAt) (some i) mission)
  | missed {mission : Mission} (hm : mission.state = .authorized) :
    Decided env a spentAt i (.keyRead a none (some mission))
  | inserting {t : BoundTransaction} (mission : Mission) (ht : SecurityKernel.Rebuilds env a t) :
    Decided env a spentAt i (.inserting a t mission)
  | conflicted : Decided env a spentAt i (.conflicted i.requestFingerprint)
  | resolving : Decided env a spentAt i (.resolving i i.requestFingerprint)
  | returned : Decided env a spentAt i (.returned i.id false)

lemma Undecided.skip {p : CallPhase} (h : Undecided env db args a p) {n : Nat} (hn : db.drawn ≤ n) :
    Undecided env { db with drawn := n } args a p := by
  cases h with
  | called hm => exact .called hm
  | read hm => exact .read hm
  | looked hm => exact .looked hm
  | inserting ht hm => exact .inserting ht hm
  | inserted ht hm hk hfree => exact .inserted ht hm (hk.trans_le hn) hfree

/-- The verification of a request that found no intent for its key. -/
lemma verifyRequest_unspent (args : PaymentArgs) (h : Verified env db a)
    (hactive : a.status = .active) {mission : Mission} (hm : mission.state = .authorized)
    {now : Datetime} (hexpiry : now < a.expiresAt) :
    ∃ t, SecurityKernel.Rebuilds env a t ∧
      verifyRequest env db { args with now := now } a none (some mission) = .ok t := by
  obtain ⟨t, ht, hrun⟩ := h.active hactive hexpiry
  refine ⟨t, ht, ?_⟩
  simp only [verifyRequest, expectedStatus, hm, ne_eq, not_true_eq_false, and_false, if_false, hrun]

/-- The verification of a request that found the intent its authorization was spent on. -/
lemma verifyRequest_spent (h : Verified env db a) {i : PaymentIntentRow}
    (hi : i.authorizationId = args.authorizationId) (mission : Mission) (spentAt now : Datetime) :
    ∃ t, SecurityKernel.Rebuilds env a t ∧
      verifyRequest env db { args with now := now } (a.spent spentAt) (some i) (some mission) =
        .ok t := by
  obtain ⟨t, ht, hrun⟩ := h.spent spentAt now
  refine ⟨t, ht, ?_⟩
  simp only [verifyRequest, expectedStatus, hi, Option.isNone_some, Bool.false_eq_true, false_and,
    if_false, if_true, hrun]

/-- The next statement of a request while none has committed: it waits for another's insert, reads,
or commits. -/
theorem Undecided.step (h : Offered env db args a) (hargs : SamePayment args a args') {p : CallPhase}
    (hp : Undecided env db args' a p) (calls : List PaymentCall) :
    (World.insertWaits calls args' = true ∧ World.CallPhase.holds p = none ∧
      World.stepCall env db calls args' p = none) ∨
    (∃ p' n, db.drawn ≤ n ∧
      World.stepCall env db calls args' p = some (p', { db with drawn := n }) ∧
      Undecided env { db with drawn := n } args' a p' ∧ World.CallPhase.holds p = none ∧
      (World.CallPhase.holds p' ≠ none → World.insertWaits calls args' = false)) ∨
    ∃ i db', World.stepCall env db calls args' p = some (.returned i.id true, db') ∧
      World.CallPhase.holds p ≠ none ∧ Granted env db' args a args'.now i := by
  obtain ⟨now, hexpiry, rfl⟩ := hargs
  have hsame : ({ db with drawn := db.drawn } : Db) = db := rfl
  cases hp with
  | called hm =>
    refine .inr (.inl ⟨_, db.drawn, le_rfl, ?_, .read hm, rfl, fun hc => absurd rfl hc⟩)
    have hread : readAuthorization db { args with now := now } = .ok a := h.read
    unfold World.stepCall
    simp only [hread]
  | read hm =>
    refine .inr (.inl ⟨_, db.drawn, le_rfl, ?_, .looked hm, rfl, fun hc => absurd rfl hc⟩)
    unfold World.stepCall
    simp only [h.unnamed]
  | @looked mission hm =>
    obtain ⟨m, hget, hauthorized⟩ := h.mission
    obtain ⟨m', hm', hstate⟩ : ∃ m', mission.or (db.getMission args.missionId) = some m' ∧
        m'.state = .authorized := by
      cases mission with
      | none => exact ⟨m, hget, hauthorized⟩
      | some m' => exact ⟨m', rfl, hm m' rfl⟩
    obtain ⟨t, ht, hverified⟩ := verifyRequest_unspent args h.verified h.active hstate hexpiry
    refine .inr (.inl ⟨.inserting a t m', db.drawn, le_rfl, ?_, .inserting ht hstate, rfl,
      fun hc => absurd rfl hc⟩)
    unfold World.stepCall
    simp only [hm', hverified]
  | @inserting t mission ht hm =>
    by_cases hwaits : World.insertWaits calls { args with now := now } = true
    · exact .inl ⟨hwaits, rfl, by unfold World.stepCall; simp only [hwaits, if_true]⟩
    · rw [Bool.not_eq_true] at hwaits
      have hfree := h.insertConflicts (le_refl db.drawn) t now (env.utcnow (db.drawn + 1))
      refine .inr (.inl ⟨_, db.drawn + 2, by omega, ?_, .inserted ht hm (by simp) hfree, rfl,
        fun _ => hwaits⟩)
      unfold World.stepCall
      simp only [hwaits, Bool.false_eq_true, if_false]
      exact if_neg (ne_true_of_eq_false hfree)
  | @inserted t mission createdAt n ht hm hn hfree =>
    obtain ⟨hget, -⟩ := readAuthorization_ok h.read
    obtain ⟨db', hrun, hids⟩ := h.ids.finished { args with now := now } mission
      hfree rfl hn hget h.active ht.1 hexpiry
    refine .inr (.inr ⟨{ newIntent (env.uuid4 n) { args with now := now } a t createdAt with
      state := .queued }, db', ?_, nofun, h.granted hids (finishIntent_ok hm hrun) rfl rfl
        (fingerprintOf_eq ht now)⟩)
    unfold World.stepCall
    simp only [hrun]

/-- The next statement of a request after another has committed: it goes on until it returns the
intent. -/
theorem Decided.step {spentAt : Datetime} {i : PaymentIntentRow}
    (h : Granted env db args a spentAt i) (hargs : SamePayment args a args') {p : CallPhase}
    (hp : Decided env a spentAt i p) (hwaits : World.insertWaits calls args' = false) :
    p = .returned i.id false ∨
    ∃ p' db', World.stepCall env db calls args' p = some (p', db') ∧ Decided env a spentAt i p' ∧
      Granted env db' args a spentAt i := by
  obtain ⟨now, hexpiry, rfl⟩ := hargs
  cases hp with
  | called mission =>
    have hread : readAuthorization db { args with now := now } = .ok (a.spent spentAt) := h.read
    exact .inr ⟨_, db, by unfold World.stepCall; simp only [hread], .read mission, h⟩
  | read mission =>
    exact .inr ⟨_, db, by unfold World.stepCall; simp only [h.named], .found mission, h⟩
  | found mission =>
    obtain ⟨m, hget⟩ := h.mission
    obtain ⟨m', hm'⟩ : ∃ m', mission.or (db.getMission args.missionId) = some m' := by
      cases mission with
      | none => exact ⟨m, hget⟩
      | some m' => exact ⟨m', rfl⟩
    obtain ⟨t, ht, hverified⟩ := verifyRequest_spent h.verified h.authorizationId m' spentAt now
    have hfingerprint : fingerprintOf { args with now := now } (a.spent spentAt) t =
        i.requestFingerprint := (fingerprintOf_eq ht now).trans h.fingerprint.symm
    exact .inr ⟨_, db, by unfold World.stepCall; simp only [hm', hverified, hfingerprint], .resolving, h⟩
  | @missed m hm =>
    obtain ⟨t, ht, hverified⟩ := verifyRequest_unspent args h.verified h.active hm hexpiry
    exact .inr ⟨_, db, by unfold World.stepCall; simp only [Option.some_or, hverified], .inserting m ht, h⟩
  | @inserting t mission ht =>
    have hconflicts : insertConflicts db (newIntent (env.uuid4 db.drawn) { args with now := now } a t
        (env.utcnow (db.drawn + 1))) = true :=
      List.any_eq_true.mpr ⟨i, Table.mem_of_find h.named, by
        simp [newIntent, Table.key_of_find h.named]⟩
    have hfingerprint : fingerprintOf { args with now := now } a t = i.requestFingerprint :=
      (fingerprintOf_eq ht now).trans h.fingerprint.symm
    refine .inr ⟨_, { db with drawn := db.drawn + 2 }, ?_, .conflicted, h.audited
      ⟨rfl, rfl, rfl, rfl, rfl, rfl, rfl, rfl⟩ (h.ids.skip (by omega))⟩
    unfold World.stepCall
    simp only [hwaits, Bool.false_eq_true, if_false]
    rw [← hfingerprint]
    exact if_pos hconflicts
  | conflicted => exact .inr ⟨_, db, by unfold World.stepCall; simp only [h.named], .resolving, h⟩
  | resolving =>
    obtain ⟨db', hrun, hids, hsame⟩ := h.ids.resolved i args.idempotencyKey
    exact .inr ⟨_, db', by unfold World.stepCall; simp only [hrun], .returned, h.audited hsame hids⟩
  | returned => exact .inl rfl

-- ════════════════════════════════════════════════════════════════════════
-- Interleavings
-- ════════════════════════════════════════════════════════════════════════

/-- Identical requests of which none has committed. At most one holds an uncommitted insert. -/
structure Pending (env : Env) (args : PaymentArgs) (a : AuthorizationRow) (db : Db)
    (race : List PaymentCall) : Prop where
  offered : Offered env db args a
  calls : ∀ c ∈ race, SamePayment args a c.args ∧ Undecided env db c.args a c.phase
  alone : ∀ (j k : Nat) (c c' : PaymentCall), race[j]? = some c → race[k]? = some c' →
    World.CallPhase.holds c.phase ≠ none → World.CallPhase.holds c'.phase ≠ none → j = k

/-- Identical requests of which one has committed. -/
structure Settled (env : Env) (args : PaymentArgs) (a : AuthorizationRow) (db : Db)
    (race : List PaymentCall) (spentAt : Datetime) (i : PaymentIntentRow) (winner : Nat) : Prop where
  granted : Granted env db args a spentAt i
  won : ∃ c, race[winner]? = some c ∧ c.phase = .returned i.id true
  lost : ∀ (j : Nat) (c : PaymentCall), j ≠ winner → race[j]? = some c →
    SamePayment args a c.args ∧ Decided env a spentAt i c.phase

/-- Where identical requests that began in one world are in another. -/
def Race (env : Env) (args : PaymentArgs) (a : AuthorizationRow) (w₀ w : World) : Prop :=
  ∃ race, w.calls = w₀.calls ++ race ∧
    (Pending env args a w.db race ∨ ∃ spentAt i k, Settled env args a w.db race spentAt i k)

lemma Undecided.holds {p : CallPhase} (h : Undecided env db args a p)
    (hholds : World.CallPhase.holds p ≠ none) :
    World.CallPhase.holds p = some (args.idempotencyKey, args.authorizationId) := by
  cases h with
  | inserted => rfl
  | _ => exact absurd rfl hholds

/-- A request that holds an insert for the same payment keeps others waiting. -/
lemma insertWaits_of_undecided {c : PaymentCall} (hc : c ∈ calls)
    (hargs : SamePayment args a c.args) (hargs' : SamePayment args a args')
    (hp : Undecided env db c.args a c.phase) (hholds : World.CallPhase.holds c.phase ≠ none) :
    World.insertWaits calls args' = true := by
  obtain ⟨now, -, hnow⟩ := hargs
  obtain ⟨now', -, rfl⟩ := hargs'
  refine List.any_eq_true.mpr ⟨c, hc, ?_⟩
  simp [hp.holds hholds, hnow]

lemma not_insertWaits (h : ∀ c ∈ calls, World.CallPhase.holds c.phase = none) :
    World.insertWaits calls args = false := by
  unfold World.insertWaits
  rw [List.any_eq_false]
  intro c hc
  simp [h c hc]

lemma Decided.holds {spentAt : Datetime} {i : PaymentIntentRow} {p : CallPhase}
    (h : Decided env a spentAt i p) : World.CallPhase.holds p = none := by
  cases h <;> rfl

lemma holds_of_isOver {p : CallPhase} (h : World.CallPhase.isOver p = true) :
    World.CallPhase.holds p = none := by
  cases p <;> simp_all [World.CallPhase.isOver, World.CallPhase.holds]

lemma stepCall_of_isOver {p : CallPhase} (h : World.CallPhase.isOver p = true) :
    World.stepCall env db calls args p = none := by
  cases p <;> first | rfl | cases h

/-- A request that has read its authorization before another commits, and is not between its reads,
goes on from what it holds. -/
lemma Undecided.decided {spentAt : Datetime} {i : PaymentIntentRow} {p : CallPhase}
    (h : Undecided env db args a p) (hchecking : p.isChecking = false)
    (hholds : World.CallPhase.holds p = none) : Decided env a spentAt i p := by
  cases h with
  | called => exact .called _
  | read => cases hchecking
  | @looked mission hm =>
    cases mission with
    | none => cases hchecking
    | some m => exact .missed (hm m rfl)
  | inserting ht => exact .inserting _ ht
  | inserted => cases hholds

/-- A statement of one of the requests, before any has committed. -/
lemma Pending.step (h : Pending env args a db race) {j : Nat} {c : PaymentCall}
    (hc : race[j]? = some c) (hcalls : ∀ c' ∈ race, c' ∈ calls) {p : CallPhase}
    (hstep : World.stepCall env db calls c.args c.phase = some (p, db'))
    (hguard : World.CallPhase.holds c.phase ≠ none → ∀ c' ∈ race, c'.phase.isChecking = false) :
    Pending env args a db' (race.set j { c with phase := p }) ∨
      ∃ spentAt i, Settled env args a db' (race.set j { c with phase := p }) spentAt i j := by
  have hmem := List.mem_of_getElem? hc
  have hj := (List.getElem?_eq_some_iff.mp hc).1
  obtain ⟨hargs, hundecided⟩ := h.calls c hmem
  rcases hundecided.step h.offered hargs calls with ⟨-, -, hnone⟩ |
    ⟨p', n, hn, hsome, hp', hfree, hwaits⟩ | ⟨i, db₁, hsome, hholds, hgranted⟩
  · cases hnone.symm.trans hstep
  · obtain ⟨rfl, rfl⟩ := Prod.mk.inj (Option.some.inj (hsome.symm.trans hstep))
    refine .inl ⟨h.offered.skip hn, fun c' hc' => ?_, ?_⟩
    · rcases List.mem_or_eq_of_mem_set hc' with hc' | rfl
      · exact ⟨(h.calls c' hc').1, (h.calls c' hc').2.skip hn⟩
      · exact ⟨hargs, hp'⟩
    · -- whoever holds an insert keeps the others from inserting
      have hother : ∀ k c', k ≠ j → race[k]? = some c' → World.CallPhase.holds c'.phase ≠ none →
          World.CallPhase.holds p' = none := by
        intro k c' hk hc' hholds
        by_contra hp
        have hmem' := List.mem_of_getElem? hc'
        obtain ⟨hargs', hundecided'⟩ := h.calls c' hmem'
        have hblocked := insertWaits_of_undecided (hcalls c' hmem') hargs' hargs hundecided' hholds
        cases hblocked.symm.trans (hwaits hp)
      intro k l c' c'' hk hl hholds hholds'
      by_cases hkj : k = j
      · subst hkj
        by_cases hlj : l = k
        · exact hlj.symm
        · rw [List.getElem?_set_self hj] at hk
          rw [List.getElem?_set_ne (Ne.symm hlj)] at hl
          obtain rfl := Option.some.inj hk
          exact absurd (hother l c'' hlj hl hholds') hholds
      · rw [List.getElem?_set_ne (Ne.symm hkj)] at hk
        by_cases hlj : l = j
        · subst hlj
          rw [List.getElem?_set_self hj] at hl
          obtain rfl := Option.some.inj hl
          exact absurd (hother k c' hkj hk hholds) hholds'
        · rw [List.getElem?_set_ne (Ne.symm hlj)] at hl
          exact h.alone k l c' c'' hk hl hholds hholds'
  · obtain ⟨rfl, rfl⟩ := Prod.mk.inj (Option.some.inj (hsome.symm.trans hstep))
    refine .inr ⟨_, i, hgranted, ⟨_, List.getElem?_set_self hj, rfl⟩, fun k c' hk hc' => ?_⟩
    rw [List.getElem?_set_ne (Ne.symm hk)] at hc'
    have hmem' := List.mem_of_getElem? hc'
    obtain ⟨hargs', hundecided'⟩ := h.calls c' hmem'
    refine ⟨hargs', hundecided'.decided (hguard hholds c' hmem') ?_⟩
    by_contra hholds'
    exact hk (h.alone k j c' c hc' hc hholds' hholds)

/-- A statement of one of the requests, after one has committed. -/
lemma Settled.step {spentAt : Datetime} {i : PaymentIntentRow} {winner : Nat}
    (h : Settled env args a db race spentAt i winner) {j : Nat} {c : PaymentCall}
    (hc : race[j]? = some c) (hwaits : World.insertWaits calls c.args = false) {p : CallPhase}
    (hstep : World.stepCall env db calls c.args c.phase = some (p, db')) :
    Settled env args a db' (race.set j { c with phase := p }) spentAt i winner := by
  have hj := (List.getElem?_eq_some_iff.mp hc).1
  obtain ⟨hgranted, ⟨cw, hcw, hwon⟩, hlost⟩ := h
  have hne : j ≠ winner := by
    rintro rfl
    obtain rfl := Option.some.inj (hc.symm.trans hcw)
    rw [hwon, stepCall_of_isOver rfl] at hstep
    cases hstep
  obtain ⟨hargs, hdecided⟩ := hlost j c hne hc
  rcases hdecided.step hgranted hargs hwaits with hreturned | ⟨p', db₁, hsome, hp', hgranted'⟩
  · rw [hreturned, stepCall_of_isOver rfl] at hstep
    cases hstep
  obtain ⟨rfl, rfl⟩ := Prod.mk.inj (Option.some.inj (hsome.symm.trans hstep))
  refine ⟨hgranted', ⟨cw, by rwa [List.getElem?_set_ne hne], hwon⟩, fun k c' hk hc' => ?_⟩
  by_cases hkj : j = k
  · subst hkj
    rw [List.getElem?_set_self hj] at hc'
    obtain rfl := Option.some.inj hc'
    exact ⟨hargs, hp'⟩
  · rw [List.getElem?_set_ne hkj] at hc'
    exact hlost k c' hk hc'

lemma getElem?_concat {x c : PaymentCall} {j : Nat} (h : (race ++ [x])[j]? = some c) :
    race[j]? = some c ∨ c = x := by
  by_cases hj : j < race.length
  · rw [List.getElem?_append_left hj] at h
    exact .inl h
  · rw [List.getElem?_append_right (not_lt.mp hj)] at h
    exact .inr (List.mem_singleton.mp (List.mem_of_getElem? h))

/-- One more request arrives. -/
lemma Race.opened (h : Race env args a w₀ w) (hargs : SamePayment args a args') (preload : Bool) :
    Race env args a w₀ { w with
      calls := w.calls ++
        [⟨args', .called (if preload then w.db.getMission args'.missionId else none)⟩] } := by
  obtain ⟨race, hcalls, hrace⟩ := h
  refine ⟨race ++ [_], by rw [hcalls, List.append_assoc], ?_⟩
  rcases hrace with hpending | ⟨spentAt, i, winner, hgranted, ⟨cw, hcw, hwon⟩, hlost⟩
  · refine .inl ⟨hpending.offered, fun c hc => ?_, ?_⟩
    · rcases List.mem_append.mp hc with hc | hc
      · exact hpending.calls c hc
      · obtain rfl := List.mem_singleton.mp hc
        refine ⟨hargs, .called fun m hm => ?_⟩
        obtain ⟨now, -, rfl⟩ := hargs
        obtain ⟨m', hget, hauthorized⟩ := hpending.offered.mission
        cases preload with
        | false => cases hm
        | true =>
          obtain rfl := Option.some.inj (hget.symm.trans hm)
          exact hauthorized
    · intro j k c c' hj hk hholds hholds'
      rcases getElem?_concat hj with hj | rfl
      · rcases getElem?_concat hk with hk | rfl
        · exact hpending.alone j k c c' hj hk hholds hholds'
        · exact absurd rfl hholds'
      · exact absurd rfl hholds
  · have hlt := (List.getElem?_eq_some_iff.mp hcw).1
    refine .inr ⟨spentAt, i, winner, hgranted,
      ⟨cw, by rwa [List.getElem?_append_left hlt], hwon⟩, fun j c hj hc => ?_⟩
    rcases getElem?_concat hc with hc | rfl
    · exact hlost j c hj hc
    · exact ⟨hargs, .called _⟩

/-- Requests that were over before the race, and requests that lost it, hold no insert. -/
lemma Settled.not_insertWaits (args' : PaymentArgs) {spentAt : Datetime} {i : PaymentIntentRow} {winner : Nat}
    (h : Settled env args a db race spentAt i winner)
    (hover : ∀ c ∈ calls, World.CallPhase.isOver c.phase = true) :
    World.insertWaits (calls ++ race) args' = false := by
  refine Pactra.not_insertWaits fun c hc => ?_
  rcases List.mem_append.mp hc with hc | hc
  · exact holds_of_isOver (hover c hc)
  · obtain ⟨j, hj⟩ := List.mem_iff_getElem?.mp hc
    by_cases hwinner : j = winner
    · obtain ⟨cw, hcw, hwon⟩ := h.won
      rw [hwinner] at hj
      obtain rfl := Option.some.inj (hj.symm.trans hcw)
      rw [hwon]
      rfl
    · exact (h.lost j c hwinner hj).2.holds

lemma Undecided.unanswered {p : CallPhase} (h : Undecided env db args a p) :
    (∀ exc, p ≠ .refused exc) ∧ ∀ id created, p ≠ .returned id created := by
  cases h <;> exact ⟨nofun, nofun⟩

lemma Decided.answer {spentAt : Datetime} {i : PaymentIntentRow} {p : CallPhase}
    (h : Decided env a spentAt i p) :
    (∀ exc, p ≠ .refused exc) ∧ ∀ id created, p = .returned id created → id = i.id := by
  cases h with
  | returned => exact ⟨nofun, fun id created heq => (CallPhase.returned.inj heq).1.symm⟩
  | _ => exact ⟨nofun, nofun⟩

/-- No request of a race is refused, and all answers are one intent. -/
lemma Race.answers (h : Race env args a w₀ w) : ∃ race id, w.calls = w₀.calls ++ race ∧
    ∀ c ∈ race, (∀ exc, c.phase ≠ .refused exc) ∧
      ∀ id' created, c.phase = .returned id' created → id' = id := by
  obtain ⟨race, hcalls, hpending | ⟨spentAt, i, winner, hsettled⟩⟩ := h
  · refine ⟨race, args.missionId, hcalls, fun c hc => ?_⟩
    obtain ⟨hrefused, hreturned⟩ := (hpending.calls c hc).2.unanswered
    exact ⟨hrefused, fun id created heq => absurd heq (hreturned id created)⟩
  · refine ⟨race, i.id, hcalls, fun c hc => ?_⟩
    obtain ⟨j, hj⟩ := List.mem_iff_getElem?.mp hc
    by_cases hwinner : j = winner
    · obtain ⟨cw, hcw, hwon⟩ := hsettled.won
      rw [hwinner] at hj
      obtain rfl := Option.some.inj (hj.symm.trans hcw)
      rw [hwon]
      exact ⟨nofun, fun id created heq => (CallPhase.returned.inj heq).1.symm⟩
    · exact (hsettled.lost j c hwinner hj).2.answer

section Over

variable (hover : ∀ c ∈ w₀.calls, World.CallPhase.isOver c.phase = true)

include hover

/-- The call of a statement is one of the race. -/
lemma stepping_race (hcalls : w.calls = w₀.calls ++ race) {k : Nat} {c : PaymentCall}
    (hc : w.calls[k]? = some c) (hnot : World.CallPhase.isOver c.phase = false) :
    ∃ j, k = w₀.calls.length + j ∧ race[j]? = some c := by
  rw [hcalls] at hc
  by_cases hk : k < w₀.calls.length
  · rw [List.getElem?_append_left hk] at hc
    cases (hover c (List.mem_of_getElem? hc)).symm.trans hnot
  · rw [List.getElem?_append_right (not_lt.mp hk)] at hc
    exact ⟨_, (Nat.add_sub_cancel' (not_lt.mp hk)).symm, hc⟩

/-- Every step of identical requests that commits unobserved keeps the race. -/
lemma Race.step (h : Race env args a w₀ w) {action : Action} (hrepeats : Repeating args a action)
    (hguard : CommitsUnobserved w action) (hstep : World.step env w action = some w') :
    Race env args a w₀ w' := by
  cases action with
  | openRequest args' preload =>
    obtain rfl := Option.some.inj hstep
    exact h.opened hrepeats preload
  | requestStep k =>
    simp only [World.step] at hstep
    split at hstep
    · cases hstep
    next c hc =>
    split at hstep
    · cases hstep
    next p db' hcall =>
    obtain rfl := Option.some.inj hstep
    obtain ⟨race, hcalls, hrace⟩ := h
    have hnot : World.CallPhase.isOver c.phase = false := by
      by_contra hover'
      rw [Bool.not_eq_false] at hover'
      cases (stepCall_of_isOver hover').symm.trans hcall
    obtain ⟨j, rfl, hj⟩ := stepping_race hover hcalls hc hnot
    refine ⟨race.set j { c with phase := p }, ?_, ?_⟩
    · show w.calls.set _ _ = _
      rw [hcalls, List.set_append_right _ _ (Nat.le_add_right _ _), Nat.add_sub_cancel_left]
    rcases hrace with hpending | ⟨spentAt, i, winner, hsettled⟩
    · have hmem : ∀ c' ∈ race, c' ∈ w.calls := fun c' hc' =>
        hcalls ▸ List.mem_append_right _ hc'
      have hunseen : World.CallPhase.holds c.phase ≠ none → ∀ c' ∈ race, c'.phase.isChecking = false :=
        fun hholds c' hc' => hguard c hc hholds c' (hmem c' hc')
      rcases hpending.step hj hmem hcall hunseen with hpending' | ⟨spentAt, i, hsettled⟩
      · exact .inl hpending'
      · exact .inr ⟨spentAt, i, j, hsettled⟩
    · have hwaits := hsettled.not_insertWaits c.args hover
      rw [← hcalls] at hwaits
      exact .inr ⟨spentAt, i, winner, hsettled.step hj hwaits hcall⟩
  | _ => exact hrepeats.elim

lemma Race.run {actions : List Action} (h : Race env args a w₀ w)
    (hrepeats : ∀ action ∈ actions, Repeating args a action)
    (hguard : Runs.Along (World.step env) CommitsUnobserved w actions)
    (hrun : Runs.run (World.step env) w actions = some w') : Race env args a w₀ w' := by
  induction actions generalizing w with
  | nil =>
    obtain rfl := Option.some.inj hrun
    exact h
  | cons action rest ih =>
    obtain ⟨w₁, hstep, hrest⟩ := Runs.run_cons.mp hrun
    have hfirst := h.step hover (hrepeats action List.mem_cons_self) hguard.1 hstep
    exact ih hfirst (fun b hb => hrepeats b (List.mem_cons_of_mem _ hb)) (hguard.2 w₁ hstep) hrest

/-- A race in which no request can take a statement any more is over. -/
lemma Race.stuck (h : Race env args a w₀ w)
    (hstuck : ∀ k, World.step env w (.requestStep k) = none) :
    w.calls = w₀.calls ∨ ∃ race i winner, w.calls = w₀.calls ++ race ∧ winner < race.length ∧
      ∀ (j : Nat) (c : PaymentCall), race[j]? = some c →
        c.phase = .returned i (decide (j = winner)) := by
  obtain ⟨race, hcalls, hrace⟩ := h
  have hnone : ∀ c ∈ race, World.stepCall env w.db w.calls c.args c.phase = none := by
    intro c hc
    obtain ⟨k, hk⟩ := List.mem_iff_getElem?.mp (hcalls ▸ List.mem_append_right w₀.calls hc : c ∈ w.calls)
    have hstep := hstuck k
    simp only [World.step, hk] at hstep
    split at hstep
    · assumption
    · cases hstep
  rcases hrace with hpending | ⟨spentAt, i, winner, hsettled⟩
  · cases hrace : race with
    | nil => exact .inl (by rw [hcalls, hrace, List.append_nil])
    | cons c rest =>
      exfalso
      -- only a request that waits for another's insert is stuck, and that one is not
      have hstuck' : ∀ c' ∈ race, World.CallPhase.holds c'.phase = none ∧
          World.insertWaits w.calls c'.args = true := by
        intro c' hc'
        obtain ⟨hargs, hundecided⟩ := hpending.calls c' hc'
        rcases hundecided.step hpending.offered hargs w.calls with ⟨hwaits, hholds, -⟩ |
          ⟨_, _, -, hsome, -⟩ | ⟨_, _, hsome, -⟩
        · exact ⟨hholds, hwaits⟩
        · cases (hnone c' hc').symm.trans hsome
        · cases (hnone c' hc').symm.trans hsome
      have hfree : World.insertWaits w.calls c.args = false := by
        refine not_insertWaits fun c' hc' => ?_
        rw [hcalls] at hc'
        rcases List.mem_append.mp hc' with hc' | hc'
        · exact holds_of_isOver (hover c' hc')
        · exact (hstuck' c' hc').1
      cases hfree.symm.trans (hstuck' c (hrace ▸ List.mem_cons_self)).2
  · obtain ⟨cw, hcw, hwon⟩ := hsettled.won
    refine .inr ⟨race, i.id, winner, hcalls, (List.getElem?_eq_some_iff.mp hcw).1, fun j c hc => ?_⟩
    by_cases hj : j = winner
    · subst hj
      obtain rfl := Option.some.inj (hc.symm.trans hcw)
      simpa using hwon
    · obtain ⟨hargs, hdecided⟩ := hsettled.lost j c hj hc
      have hwaits := hsettled.not_insertWaits c.args hover
      rw [← hcalls] at hwaits
      rcases hdecided.step hsettled.granted hargs hwaits with hreturned | ⟨_, _, hsome, -⟩
      · simpa [hj] using hreturned
      · cases (hnone c (List.mem_of_getElem? hc)).symm.trans hsome

end Over

-- ════════════════════════════════════════════════════════════════════════
-- The number of statements
-- ════════════════════════════════════════════════════════════════════════

/-- How many statements a request still takes, at most. -/
def CallPhase.left : CallPhase → Nat
  | .called _ => 7
  | .authorizationRead _ _ => 6
  | .keyRead _ _ _ => 5
  | .inserting _ _ _ => 4
  | .inserted _ _ _ => 3
  | .conflicted _ => 2
  | .resolving _ _ => 1
  | _ => 0

/-- What the requests of a list still take, at most. -/
def statementsLeft (calls : List PaymentCall) : Nat := (calls.map fun c => c.phase.left).sum

lemma stepCall_left {p p' : CallPhase}
    (h : World.stepCall env db calls args p = some (p', db')) : p'.left < p.left := by
  unfold World.stepCall at h
  split at h
  · split at h <;> (obtain ⟨rfl, -⟩ := Prod.mk.inj (Option.some.inj h); simp [CallPhase.left])
  · obtain ⟨rfl, -⟩ := Prod.mk.inj (Option.some.inj h)
    simp [CallPhase.left]
  · dsimp only at h
    split at h
    · obtain ⟨rfl, -⟩ := Prod.mk.inj (Option.some.inj h)
      simp [CallPhase.left]
    · obtain ⟨rfl, -⟩ := Prod.mk.inj (Option.some.inj h)
      simp [CallPhase.left]
    · obtain ⟨rfl, -⟩ := Prod.mk.inj (Option.some.inj h)
      simp [CallPhase.left]
    · cases h
  · split at h
    · cases h
    · dsimp only at h
      split at h <;> (obtain ⟨rfl, -⟩ := Prod.mk.inj (Option.some.inj h); simp [CallPhase.left])
  · split at h <;> (obtain ⟨rfl, -⟩ := Prod.mk.inj (Option.some.inj h); simp [CallPhase.left])
  · split at h <;> (obtain ⟨rfl, -⟩ := Prod.mk.inj (Option.some.inj h); simp [CallPhase.left])
  · split at h <;> (obtain ⟨rfl, -⟩ := Prod.mk.inj (Option.some.inj h); simp [CallPhase.left])
  all_goals cases h

lemma statementsLeft_set {j : Nat} {c : PaymentCall} {p : CallPhase} (hc : calls[j]? = some c)
    (h : p.left < c.phase.left) :
    statementsLeft (calls.set j { c with phase := p }) < statementsLeft calls := by
  induction calls generalizing j with
  | nil => simp at hc
  | cons c' rest ih =>
    cases j with
    | zero =>
      obtain rfl := Option.some.inj hc
      simpa [statementsLeft] using h
    | succ j => simpa [statementsLeft] using ih hc

/-- Identical requests take at most eight steps each, their arrival included. -/
lemma run_length {actions : List Action} (hrepeats : ∀ action ∈ actions, Repeating args a action)
    (hrun : Runs.run (World.step env) w actions = some w') :
    actions.length + statementsLeft w'.calls + 8 * w.calls.length ≤
      statementsLeft w.calls + 8 * w'.calls.length := by
  induction actions generalizing w with
  | nil =>
    obtain rfl := Option.some.inj hrun
    simp
  | cons action rest ih =>
    obtain ⟨w₁, hstep, hrest⟩ := Runs.run_cons.mp hrun
    have hlater := ih (fun b hb => hrepeats b (List.mem_cons_of_mem _ hb)) hrest
    rw [List.length_cons]
    cases action with
    | openRequest args' preload =>
      obtain rfl := Option.some.inj hstep
      simp only [statementsLeft, List.map_append, List.sum_append, List.map_cons, List.map_nil,
        List.sum_cons, List.sum_nil, List.length_append, List.length_cons, List.length_nil,
        CallPhase.left] at hlater ⊢
      omega
    | requestStep k =>
      simp only [World.step] at hstep
      split at hstep
      · cases hstep
      next c hc =>
      split at hstep
      · cases hstep
      next p db' hcall =>
      obtain rfl := Option.some.inj hstep
      have hless := statementsLeft_set hc (stepCall_left hcall)
      simp only [List.length_set] at hlater
      omega
    | _ => exact (hrepeats _ List.mem_cons_self).elim

lemma left_of_isOver {p : CallPhase} (h : World.CallPhase.isOver p = true) : p.left = 0 := by
  cases p <;> first | rfl | cases h

lemma statementsLeft_of_isOver (h : ∀ c ∈ calls, World.CallPhase.isOver c.phase = true) :
    statementsLeft calls = 0 := by
  induction calls with
  | nil => rfl
  | cons c rest ih =>
    have hrest := ih fun c' hc' => h c' (List.mem_cons_of_mem _ hc')
    have hc := left_of_isOver (h c List.mem_cons_self)
    simpa [statementsLeft, hc] using hrest

-- ════════════════════════════════════════════════════════════════════════
-- The guarantee
-- ════════════════════════════════════════════════════════════════════════

/-- A reachable database offers an authorization that a request can spend. -/
lemma Spendable.offered (h : Spendable env db args a) (hc : Consistent env db)
    (hids : NewIds env db) : Offered env db args a := by
  obtain ⟨hget, hmission⟩ := readAuthorization_ok h.read
  have hmem := Table.mem_of_find hget
  obtain ⟨t, ht⟩ := h.verified
  obtain ⟨m, hm, hid, -⟩ := (hc.backed a hmem).mission
  refine ⟨hids, h.read, h.active, ⟨db, args.now, t, _, rfl, Prod.ext ht rfl⟩, ⟨m, ?_, ?_⟩, h.unnamed,
    fun i hi hia => ?_⟩
  · rw [← hmission, ← hid]
    exact (Table.mem_iff_find hc.missions).mp hm
  · exact (hc.staged a hmem m hm hid).2 h.active
  · obtain ⟨a', ha', hpays⟩ := hc.paying i hi
    have hsame : a' = a := hc.authorizations.eq_of_key ha' hmem
      (hpays.authorizationId.symm.trans (hia.trans (Table.key_of_find hget).symm))
    have hconsumed := hpays.status
    rw [hsame, h.active] at hconsumed
    cases hconsumed

/-- Any number of identical requests, with any interleaving of their statements, from any committed
state in which no other request is under way: as long as none commits while another is between its
read of the authorization and its read of the mission, none is refused, every answer is the same
intent, each request takes at most eight steps, and when none can go on exactly one has returned the
intent as created and every other has returned it as existing. -/
theorem identical_requests_agree {earlier actions : List Action}
    (hw₀ : World.exec env earlier = some w₀)
    (hover : ∀ c ∈ w₀.calls, World.CallPhase.isOver c.phase = true)
    (hids : NewIds env w₀.db) (hspendable : Spendable env w₀.db args a)
    (hrepeats : ∀ action ∈ actions, Repeating args a action)
    (hrun : Runs.run (World.step env) w₀ actions = some w)
    (hguard : Runs.Along (World.step env) CommitsUnobserved w₀ actions) :
    ∃ race id, w.calls = w₀.calls ++ race ∧ actions.length ≤ 8 * race.length ∧
      (∀ c ∈ race, (∀ exc, c.phase ≠ .refused exc) ∧
        ∀ id' created, c.phase = .returned id' created → id' = id) ∧
      (race ≠ [] → (∀ k, World.step env w (.requestStep k) = none) →
        ∃ winner < race.length, ∀ (j : Nat) (c : PaymentCall), race[j]? = some c →
          c.phase = .returned id (decide (j = winner))) := by
  have hoffered := hspendable.offered (exec_reachable hw₀).consistent hids
  have hstart : Race env args a w₀ w₀ :=
    ⟨[], (List.append_nil _).symm, .inl ⟨hoffered, by simp, by simp⟩⟩
  have hend : Race env args a w₀ w := hstart.run hover hrepeats hguard hrun
  obtain ⟨race, id, hcalls, hanswers⟩ := hend.answers
  refine ⟨race, id, hcalls, ?_, hanswers, fun hne hstuck => ?_⟩
  · have hlength := run_length hrepeats hrun
    rw [statementsLeft_of_isOver hover, hcalls, List.length_append] at hlength
    omega
  · rcases hend.stuck hover hstuck with hnone | ⟨race', id', winner, hcalls', hlt, hall⟩
    · rw [hnone] at hcalls
      exact absurd (List.self_eq_append_right.mp hcalls) hne
    · obtain rfl : race' = race := List.append_cancel_left (hcalls'.symm.trans hcalls)
      obtain ⟨c, hc⟩ : ∃ c, race'[winner]? = some c := ⟨_, List.getElem?_eq_getElem hlt⟩
      obtain rfl := (hanswers c (List.mem_of_getElem? hc)).2 _ _ (hall winner c hc)
      exact ⟨winner, hlt, hall⟩

/-- The answer of a request that has returned. -/
def CallPhase.answer : CallPhase → Option (Uuid × Bool)
  | .returned id created => some (id, created)
  | _ => none

/-- The text of the exception that refused a request. -/
def CallPhase.refusal : CallPhase → Option String
  | .refused exc => some exc.text
  | _ => none

/-- A mission within budget, whose authorization is ACTIVE at once. -/
def Sample.planned : List Action := [.runMission Sample.request (Sample.quotes 50 fifty_nonneg)]

/-- Two requests that both find no intent, and a third that arrives after one of them committed. -/
def Sample.retries : List Action :=
  ([false, true].map (.openRequest (Sample.args "fake")) ++
    [0, 1, 0, 1, 0, 1, 0, 0].map .requestStep) ++
  ([true].map (.openRequest (Sample.args "fake")) ++ [2, 1, 2, 1, 2, 1, 2].map .requestStep)

/-- A request that reads its authorization, then loses every statement to an identical one. -/
def Sample.outrun : List Action :=
  [false, false].map (.openRequest (Sample.args "fake")) ++ [1, 0, 0, 0, 0, 0, 1, 1].map .requestStep

/-- What a repeated request needs of the world that it begins in. -/
def Sample.begins (w : World) (a : AuthorizationRow) : Bool :=
  decide (a.status = .active ∧ 0 < a.expiresAt ∧ w.calls.length = 0 ∧
    w.db.paymentIntents.length = 0 ∧ w.db.outboxEvents.length = 0 ∧
    ∀ e ∈ w.db.auditEvents, ∃ k < w.db.drawn, e.eventId = Sample.env.uuid4 k) &&
  ((SecurityKernel.verifyAuthorizationForPayment Sample.env a .active 0).run w.db).1.toOption.isSome

lemma Sample.planned_begins : ((World.exec Sample.env Sample.planned).bind fun w =>
    (readAuthorization w.db (Sample.args "fake")).toOption.map (Sample.begins w)) = some true := by
  decide +kernel

lemma Sample.retries_answers : ((World.exec Sample.env Sample.planned).bind fun w =>
    if Runs.Along (World.step Sample.env) CommitsUnobserved w Sample.retries then
      (Runs.run (World.step Sample.env) w Sample.retries).map fun w' =>
        w'.calls.map fun c => c.phase.answer
    else none) =
    some [some (Sample.intentId, true), some (Sample.intentId, false),
      some (Sample.intentId, false)] := by decide +kernel

lemma Sample.outrun_refusals : ((World.exec Sample.env Sample.planned).bind fun w =>
    (Runs.run (World.step Sample.env) w Sample.outrun).map fun w' =>
      w'.calls.map fun c => c.phase.refusal) =
    some [none, some "AUTHORIZATION_NOT_ACTIVE: authorization is ACTIVE, expected CONSUMED"] := by decide +kernel

lemma Sample.uuid4_injective : Function.Injective Sample.env.uuid4 := fun _ _ h =>
  Text.repr_injective (congrArg Uuid.str h :)

lemma ok_of_toOption {ε α : Type} {x : Except ε α} {v : α} (h : x.toOption = some v) : x = .ok v := by
  cases x with
  | error e => cases h
  | ok u => exact congrArg Except.ok (Option.some.inj h)

lemma Sample.begun (h : Sample.begins w a = true)
    (hread : readAuthorization w.db (Sample.args "fake") = .ok a) :
    w.calls = [] ∧ NewIds Sample.env w.db ∧ Spendable Sample.env w.db (Sample.args "fake") a ∧
      0 < a.expiresAt := by
  simp only [Sample.begins, Bool.and_eq_true, decide_eq_true_eq, List.length_eq_zero_iff] at h
  obtain ⟨⟨hactive, hexpiry, hcalls, hintents, hevents, hdrawn⟩, hverified⟩ := h
  refine ⟨hcalls, ⟨Sample.uuid4_injective, by simp [hintents], by simp [hevents],
    fun n hn e he hid => ?_⟩, ⟨hread, hactive, ?_, by simp [findByIdempotencyKey, hintents, Table.find]⟩,
    hexpiry⟩
  · obtain ⟨k, hk, hek⟩ := hdrawn e he
    have hkn := Sample.uuid4_injective (hek.symm.trans hid)
    omega
  · obtain ⟨t, ht⟩ := Option.isSome_iff_exists.mp hverified
    exact ⟨t, ok_of_toOption ht⟩

lemma Sample.repeating (hexpiry : 0 < a.expiresAt) {preloads : List Bool} {steps : List Nat} :
    ∀ action ∈ preloads.map (.openRequest (Sample.args "fake")) ++ steps.map Action.requestStep,
      Repeating (Sample.args "fake") a action := by
  intro action haction
  rcases List.mem_append.mp haction with haction | haction
  · obtain ⟨preload, -, rfl⟩ := List.mem_map.mp haction
    exact ⟨0, hexpiry, rfl⟩
  · obtain ⟨k, -, rfl⟩ := List.mem_map.mp haction
    trivial

lemma Sample.planned_world : ∃ w a, World.exec Sample.env Sample.planned = some w ∧
    w.calls = [] ∧ NewIds Sample.env w.db ∧ Spendable Sample.env w.db (Sample.args "fake") a ∧
      0 < a.expiresAt := by
  obtain ⟨w, hw, hrow⟩ := Option.bind_eq_some_iff.mp Sample.planned_begins
  obtain ⟨a, ha, hbegins⟩ := Option.map_eq_some_iff.mp hrow
  exact ⟨w, a, hw, Sample.begun hbegins (ok_of_toOption ha)⟩

/-- Of two requests that raced and one that came late, the first to insert created the intent. -/
theorem identical_requests_agree_retried : ∃ w₀ w, World.exec Sample.env Sample.planned = some w₀ ∧
    Runs.run (World.step Sample.env) w₀ Sample.retries = some w ∧
    (w.calls.map fun c => c.phase.answer) = [some (Sample.intentId, true),
      some (Sample.intentId, false), some (Sample.intentId, false)] ∧
    ∃ race id, w.calls = w₀.calls ++ race ∧ ∃ winner < race.length,
      ∀ (j : Nat) (c : PaymentCall), race[j]? = some c →
        c.phase = .returned id (decide (j = winner)) := by
  obtain ⟨w₀, a, hw₀, hnone, hids, hspendable, hexpiry⟩ := Sample.planned_world
  have hrun := Sample.retries_answers
  rw [hw₀, Option.bind_some] at hrun
  split at hrun
  case isFalse => cases hrun
  next hguard =>
  obtain ⟨w, hw, hanswers⟩ := Option.map_eq_some_iff.mp hrun
  have hrepeats : ∀ action ∈ Sample.retries, Repeating (Sample.args "fake") a action :=
    List.forall_mem_append.mpr ⟨Sample.repeating hexpiry, Sample.repeating hexpiry⟩
  obtain ⟨race, id, hcalls, -, -, hdone⟩ :=
    identical_requests_agree hw₀ (by simp [hnone]) hids hspendable hrepeats hw hguard
  refine ⟨w₀, w, hw₀, hw, hanswers, race, id, hcalls, hdone ?_ fun k => ?_⟩
  · rintro rfl
    rw [hcalls, hnone] at hanswers
    cases hanswers
  · -- all three have returned
    have hstuck : ∀ c ∈ w.calls, World.stepCall Sample.env w.db w.calls c.args c.phase = none := by
      intro c hc
      have hmem := List.mem_map_of_mem (f := fun c : PaymentCall => c.phase.answer) hc
      rw [hanswers] at hmem
      refine stepCall_of_isOver ?_
      cases hphase : c.phase <;> simp_all [CallPhase.answer, World.CallPhase.isOver]
    simp only [World.step]
    split
    · rfl
    · next c hc => rw [hstuck c (List.mem_of_getElem? hc)]

/-- A request that read its authorization before an identical one committed, and looks its key up
after, expects to find spent what it holds as ACTIVE. -/
theorem outrun_request_is_refused : ¬∀ (env : Env) (args : PaymentArgs) (a : AuthorizationRow)
    (earlier actions : List Action) (w₀ w : World), World.exec env earlier = some w₀ →
    (∀ c ∈ w₀.calls, World.CallPhase.isOver c.phase = true) → NewIds env w₀.db →
    Spendable env w₀.db args a → (∀ action ∈ actions, Repeating args a action) →
    Runs.run (World.step env) w₀ actions = some w →
    ∀ c ∈ w.calls, ∀ exc, c.phase ≠ .refused exc := by
  intro hall
  obtain ⟨w₀, a, hw₀, hnone, hids, hspendable, hexpiry⟩ := Sample.planned_world
  have hrun := Sample.outrun_refusals
  rw [hw₀, Option.bind_some] at hrun
  obtain ⟨w, hw, hrefusals⟩ := Option.map_eq_some_iff.mp hrun
  have hnot := hall _ _ a _ _ w₀ w hw₀ (by simp [hnone]) hids hspendable (Sample.repeating hexpiry) hw
  obtain ⟨c, hc, hrefusal⟩ : ∃ c ∈ w.calls, c.phase.refusal =
      some "AUTHORIZATION_NOT_ACTIVE: authorization is ACTIVE, expected CONSUMED" :=
    List.mem_map.mp (hrefusals ▸ List.mem_cons_of_mem _ List.mem_cons_self)
  cases hphase : c.phase with
  | refused exc => exact hnot c hc exc hphase
  | _ => simp [hphase, CallPhase.refusal] at hrefusal

end Pactra
