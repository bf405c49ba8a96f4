import Pactra.PaymentExecutor.Effects.ProviderCalls
import Pactra.System.Consistency

/-!
# What a step of the system does

`Change` lists everything that one step can do to the database. A step acts on rows it may have
loaded before others committed, so what it does depends on what it holds; `InFlight` says how the
rows held by requests and turns relate to those of the database. Both are established together with
the consistency of the database, for every reachable state.

## Main results

- `step_change` — every step is one of the listed changes
- `Reachable.step` — every step keeps the invariants, and the database only grows
- `exec_reachable` — they hold after every run
-/

namespace Pactra

open PaymentExecutor AgentOrchestrator

-- ════════════════════════════════════════════════════════════════════════
-- Rows in flight
-- ════════════════════════════════════════════════════════════════════════

/-- A request holds a version of its authorization row. -/
def HoldsAuthorization (db : Db) (args : PaymentArgs) (a : AuthorizationRow) : Prop :=
  a.missionId = args.missionId ∧
    ∃ a', db.getAuthorization args.authorizationId = some a' ∧ a'.terms = a.terms

/-- A request holds a version of an intent row. -/
def HoldsIntent (db : Db) (i : PaymentIntentRow) : Prop :=
  ∃ i', db.getPaymentIntent i.id = some i' ∧ i'.terms = i.terms

/-- A turn holds a version of an outbox row. -/
def HoldsEvent (db : Db) (e : OutboxEventRow) : Prop :=
  ∃ e', db.getOutboxEvent e.id = some e' ∧ e'.terms = e.terms

/-- What a payment request holds. -/
def CallPhase.Sound (env : Env) (db : Db) (args : PaymentArgs) : CallPhase → Prop
  | .authorizationRead a _ => HoldsAuthorization db args a
  | .keyRead a existing _ =>
    HoldsAuthorization db args a ∧ ∀ i, existing = some i → HoldsIntent db i
  | .inserting a t mission =>
    HoldsAuthorization db args a ∧ SecurityKernel.Rebuilds env a t ∧ mission.state = .authorized
  | .inserted t intent mission => Intends env db args t intent ∧ mission.state = .authorized
  | .resolving existing _ => HoldsIntent db existing
  | _ => True

/-- What a worker turn holds. -/
def TurnPhase.Sound (db : Db) (now : Datetime) : TurnPhase → Prop
  | .selected _ status availableAt =>
    (status = .pending ∨ status = .inProgress) ∧ availableAt ≤ now
  | .loaded e => HoldsEvent db e
  | .fencing e requeue => HoldsEvent db e ∧ requeue = false
  | .reconcileFencing e => HoldsEvent db e
  | .fenced e _ => HoldsEvent db e
  | .reconcileFenced e => HoldsEvent db e ∧
    ∃ i, db.getPaymentIntent e.paymentIntentId = some i ∧ i.providerCreateFencedAt ≠ none
  | .recovering e _ => HoldsEvent db e
  | _ => True

/-- What the requests and turns of the system hold. -/
structure InFlight (env : Env) (w : World) : Prop where
  calls : ∀ c ∈ w.calls, c.phase.Sound env w.db c.args
  turns : ∀ t ∈ w.turns, t.phase.Sound w.db t.now

section Growth

variable {env : Env} {db db' : Db} {args : PaymentArgs} (h : Grows db db')

include h

lemma HoldsAuthorization.grows {a : AuthorizationRow} (ha : HoldsAuthorization db args a) :
    HoldsAuthorization db' args a := by
  obtain ⟨hm, a', ha', hterms⟩ := ha
  obtain ⟨b, hb, hterms'⟩ := h.authorizations _ _ ha'
  exact ⟨hm, b, hb, hterms'.trans hterms⟩

lemma HoldsIntent.grows {i : PaymentIntentRow} (hi : HoldsIntent db i) : HoldsIntent db' i := by
  obtain ⟨i', hi', hterms⟩ := hi
  obtain ⟨j, hj, hmoves⟩ := h.paymentIntents _ _ hi'
  exact ⟨j, hj, hmoves.terms.trans hterms⟩

lemma HoldsEvent.grows {e : OutboxEventRow} (he : HoldsEvent db e) : HoldsEvent db' e := by
  obtain ⟨e', he', hterms⟩ := he
  obtain ⟨f, hf, hterms'⟩ := h.outboxEvents _ _ he'
  exact ⟨f, hf, hterms'.trans hterms⟩

end Growth

lemma SecurityKernel.Rebuilds.of_terms {env : Env} {a a' : AuthorizationRow} {t : BoundTransaction}
    (h : SecurityKernel.Rebuilds env a t) (hterms : a'.terms = a.terms) :
    SecurityKernel.Rebuilds env a' t := by
  obtain ⟨h₁, h₂, h₃, h₄, h₅, h₆⟩ := h
  refine ⟨?_, ?_, ?_, ?_, ?_, ?_⟩
  · exact (congrArg AuthorizationRow.transactionDigest hterms).trans h₁
  · exact h₂.trans (congrArg AuthorizationRow.boundMerchantId hterms).symm
  · exact h₃.trans (congrArg AuthorizationRow.boundProductId hterms).symm
  · exact h₄.trans (congrArg AuthorizationRow.boundQuantity hterms).symm
  · exact h₅.trans (congrArg AuthorizationRow.boundAmountInr hterms).symm
  · exact h₆.trans (congrArg (fun r => env.upper (AuthorizationRow.boundCurrency r)) hterms).symm

/-- A transaction that rebuilds from a held row is the one the database's row is for. -/
lemma HoldsAuthorization.intends {env : Env} {db : Db} {args : PaymentArgs} {a : AuthorizationRow}
    {t : BoundTransaction} (ha : HoldsAuthorization db args a)
    (hr : SecurityKernel.Rebuilds env a t) (id : Uuid) (createdAt : Datetime) :
    Intends env db args t (newIntent id args a t createdAt) := by
  obtain ⟨hm, a', ha', hterms⟩ := ha
  refine ⟨a', id, createdAt, ha', (AuthorizationRow.missionId_of_terms hterms).trans hm,
    hr.of_terms hterms, ?_⟩
  have hdigest : a'.transactionDigest = a.transactionDigest :=
    (congrArg AuthorizationRow.transactionDigest hterms :)
  simp [newIntent, fingerprintOf, hdigest]

section Sound

variable {env : Env} {db db' : Db} {args : PaymentArgs} (h : Grows db db')

include h

lemma Intends.grows {t : BoundTransaction} {intent : PaymentIntentRow}
    (hi : Intends env db args t intent) : Intends env db' args t intent := by
  obtain ⟨a, id, createdAt, ha, hm, hr, rfl⟩ := hi
  obtain ⟨b, hb, hterms⟩ := h.authorizations _ _ ha
  exact HoldsAuthorization.intends ⟨hm, b, hb, hterms⟩ hr id createdAt

lemma CallPhase.Sound.grows {p : CallPhase} (hp : p.Sound env db args) : p.Sound env db' args := by
  cases p with
  | authorizationRead => exact HoldsAuthorization.grows h hp
  | keyRead => exact ⟨hp.1.grows h, fun i hi => (hp.2 i hi).grows h⟩
  | inserting => exact ⟨hp.1.grows h, hp.2⟩
  | inserted => exact ⟨hp.1.grows h, hp.2⟩
  | resolving => exact HoldsIntent.grows h hp
  | _ => trivial

lemma TurnPhase.Sound.grows {p : TurnPhase} {now : Datetime} (hp : p.Sound db now) :
    p.Sound db' now := by
  cases p with
  | selected => exact hp
  | loaded => exact HoldsEvent.grows h hp
  | fencing => exact ⟨hp.1.grows h, hp.2⟩
  | reconcileFencing => exact HoldsEvent.grows h hp
  | fenced => exact HoldsEvent.grows h hp
  | reconcileFenced =>
    obtain ⟨he, i, hi, hfence⟩ := hp
    obtain ⟨j, hj, hmoves⟩ := h.paymentIntents _ _ hi
    exact ⟨he.grows h, j, hj, by rwa [hmoves.fence hfence]⟩
  | recovering => exact HoldsEvent.grows h hp
  | _ => trivial

end Sound

-- ════════════════════════════════════════════════════════════════════════
-- Payment requests
-- ════════════════════════════════════════════════════════════════════════

/-- What one statement of a payment request can do: read, commit its intent, or record that it
returns an existing one. -/
inductive CallStep (env : Env) (db : Db) (args : PaymentArgs) :
    CallPhase → CallPhase → Db → Prop
  | read (p p' : CallPhase) (n : Nat) (hp : p'.Sound env db args)
    (hopen : ∀ id created, p' ≠ .returned id created) :
    CallStep env db args p p' { db with drawn := n }
  | created (t : BoundTransaction) (intent : PaymentIntentRow) (mission : Mission) (db' : Db)
    (hi : Intends env db args t intent) (h : Created args t intent db db') :
    CallStep env db args (.inserted t intent mission) (.returned intent.id true) db'
  | reused (existing : PaymentIntentRow) (fingerprint : String) (db' : Db)
    (hi : HoldsIntent db existing) (hf : existing.requestFingerprint = fingerprint)
    (h : Appended existing.missionId [reusedEntry existing args.idempotencyKey] db db') :
    CallStep env db args (.resolving existing fingerprint) (.returned existing.id false) db'

lemma readAuthorization_ok {db : Db} {args : PaymentArgs} {a : AuthorizationRow}
    (h : readAuthorization db args = .ok a) :
    db.getAuthorization args.authorizationId = some a ∧ a.missionId = args.missionId := by
  unfold readAuthorization at h
  split at h
  · cases h
  · split at h
    · cases h
    · next a' ha hm =>
      obtain rfl := Except.ok.inj h
      exact ⟨ha, not_not.mp hm⟩

lemma verifyRequest_ok {env : Env} {db : Db} {args : PaymentArgs} {a : AuthorizationRow}
    {existing : Option PaymentIntentRow} {mission : Option Mission} {t : BoundTransaction}
    (h : verifyRequest env db args a existing mission = .ok t) :
    SecurityKernel.Rebuilds env a t ∧ a.status = expectedStatus args existing ∧
      ∃ m, mission = some m ∧ (existing = none → m.state = .authorized) := by
  unfold verifyRequest at h
  split at h
  · cases h
  · next m =>
    split at h
    · cases h
    · next hstate =>
      have hrun := Prod.mk.eta (p := (SecurityKernel.verifyAuthorizationForPayment env a
        (expectedStatus args existing) args.now).run db)
      rw [h] at hrun
      obtain ⟨hr, hs, -⟩ := SecurityKernel.verifyAuthorizationForPayment_ok hrun.symm
      refine ⟨hr, hs, m, rfl, fun hnone => ?_⟩
      simpa [hnone] using hstate

/-- Every statement of a payment request is one of these. -/
theorem stepCall_cases {env : Env} {db db' : Db} {calls : List PaymentCall} {args : PaymentArgs}
    {p p' : CallPhase} (hp : p.Sound env db args) (hk : Table.Keyed PaymentIntentRow.id db.paymentIntents)
    (h : World.stepCall env db calls args p = some (p', db')) : CallStep env db args p p' db' := by
  have hfound : ∀ {key i}, findByIdempotencyKey db key = some i → HoldsIntent db i := fun hi =>
    ⟨_, (Table.mem_iff_find hk).mp (Table.mem_of_find hi), rfl⟩
  unfold World.stepCall at h
  split at h
  · next mission =>
    split at h
    · obtain ⟨rfl, rfl⟩ := Prod.mk.inj (Option.some.inj h)
      exact .read _ _ db.drawn trivial nofun
    · next a ha =>
      obtain ⟨rfl, rfl⟩ := Prod.mk.inj (Option.some.inj h)
      obtain ⟨hget, hm⟩ := readAuthorization_ok ha
      exact .read _ _ db.drawn ⟨hm, a, hget, rfl⟩ nofun
  · next a mission =>
    obtain ⟨rfl, rfl⟩ := Prod.mk.inj (Option.some.inj h)
    exact .read _ _ db.drawn ⟨hp, fun i hi => hfound hi⟩ nofun
  · next a existing mission =>
    dsimp only at h
    split at h
    · obtain ⟨rfl, rfl⟩ := Prod.mk.inj (Option.some.inj h)
      exact .read _ _ db.drawn trivial nofun
    · next t hv =>
      obtain ⟨rfl, rfl⟩ := Prod.mk.inj (Option.some.inj h)
      exact .read _ _ db.drawn (hp.2 _ rfl) nofun
    · next t m hm hv =>
      obtain ⟨rfl, rfl⟩ := Prod.mk.inj (Option.some.inj h)
      obtain ⟨hr, -, m', hm', hstate⟩ := verifyRequest_ok hv
      obtain rfl := Option.some.inj (hm'.symm.trans hm)
      exact .read _ _ db.drawn ⟨hp.1, hr, hstate rfl⟩ nofun
    · cases h
  · next a t mission =>
    split at h
    · cases h
    · dsimp only at h
      split at h
      · obtain ⟨rfl, rfl⟩ := Prod.mk.inj (Option.some.inj h)
        exact .read _ _ _ trivial nofun
      · obtain ⟨rfl, rfl⟩ := Prod.mk.inj (Option.some.inj h)
        exact .read _ _ _ ⟨hp.1.intends hp.2.1 _ _, hp.2.2⟩ nofun
  · next t intent mission =>
    split at h
    · next db₁ hrun =>
      obtain ⟨rfl, rfl⟩ := Prod.mk.inj (Option.some.inj h)
      exact .created t intent mission db₁ hp.1 (finishIntent_ok hp.2 hrun)
    · obtain ⟨rfl, rfl⟩ := Prod.mk.inj (Option.some.inj h)
      exact .read _ _ db.drawn trivial nofun
    · obtain ⟨rfl, rfl⟩ := Prod.mk.inj (Option.some.inj h)
      exact .read _ _ db.drawn trivial nofun
  · next fingerprint =>
    split at h
    · obtain ⟨rfl, rfl⟩ := Prod.mk.inj (Option.some.inj h)
      exact .read _ _ db.drawn trivial nofun
    · next winner hwinner =>
      obtain ⟨rfl, rfl⟩ := Prod.mk.inj (Option.some.inj h)
      exact .read _ _ db.drawn (hfound hwinner) nofun
  · next existing fingerprint =>
    split at h
    · next db₁ hrun =>
      obtain ⟨rfl, rfl⟩ := Prod.mk.inj (Option.some.inj h)
      obtain ⟨hf, happ⟩ := resolveExisting_ok hrun
      exact .reused existing fingerprint db₁ hp hf happ
    · obtain ⟨rfl, rfl⟩ := Prod.mk.inj (Option.some.inj h)
      exact .read _ _ db.drawn trivial nofun
  · cases h
  · cases h
  · cases h

-- ════════════════════════════════════════════════════════════════════════
-- Handlers
-- ════════════════════════════════════════════════════════════════════════

/-- The event that a turn is about to reconcile, if it is. -/
def TurnPhase.reconciles : TurnPhase → Option OutboxEventRow
  | .loaded e => if e.eventType = .paymentReconcileRequested then some e else none
  | .reconcileFenced e => some e
  | _ => none

/-- The version of its outbox row that a turn will write back to. -/
def TurnPhase.holding : TurnPhase → Option OutboxEventRow
  | .loaded e | .fencing e _ | .reconcileFencing e | .fenced e _ | .reconcileFenced e
  | .recovering e _ => some e
  | _ => none

/-- How the handler of a turn can end, on the intent it locked and the event it loaded. -/
inductive Handled (ctx : TurnContext) (p : TurnPhase) (u : UnitOfWork) (e : OutboxEventRow)
    (u' : UnitOfWork) (e' : OutboxEventRow) : Prop
  | create (h : Dispatched ctx u e u' e')
  | reconcile (hp : p.reconciles = some e) (h : Reconciled ctx u e u' e')
    (hfence : u.intent.state.isTerminal = false →
      u.intent.providerCreateFencedAt ≠ none ∨ ctx.idempotent = true)

section Handled

variable {ctx : TurnContext} {p : TurnPhase} {u u' : UnitOfWork} {e e' : OutboxEventRow}
  (h : Handled ctx p u e u' e')

include h

lemma Handled.moves (hu : Committable ctx.env u.intent) (hp : ctx.provider = u.intent.provider) :
    Committable ctx.env u'.intent ∧ Moves u.intent u'.intent := by
  cases h with
  | create h => exact h.moves hu hp
  | reconcile _ h hfence => exact h.moves hu hp hfence

lemma Handled.mission : missionTerms u' = missionTerms u := by
  cases h with
  | create h => exact h.mission
  | reconcile _ h => exact h.mission

end Handled

lemma run_done {x : Handler DispatchResult} {t t' : Turn} {r : DispatchResult}
    (h : (do
      let result ← x
      pure (.done result) : Handler HandlerStep).run t = (.ok (.done r), t')) :
    x.run t = (.ok r, t') := by
  obtain ⟨r', t₁, hx, hpure⟩ := Tx.bind_ok.mp h
  obtain ⟨hr, rfl⟩ := Prod.mk.inj hpure
  obtain rfl := HandlerStep.done.inj (Except.ok.inj hr)
  exact hx

section Handlers

variable {ctx : TurnContext} {p : TurnPhase} {event : OutboxEventRow}
  {handler : Handler HandlerStep} {i : PaymentIntentRow} {t t' : Turn}
  (hh : World.handlerOf ctx p = some (event, handler))
  (hi : ctx.db.getPaymentIntent event.paymentIntentId = some i)
  (ht : t.work.intent = i ∧ t.event = event)

include hh hi ht

omit hi ht in
lemma handlerOf_holds (hp : p.Sound ctx.db ctx.now) : HoldsEvent ctx.db event := by
  unfold World.handlerOf at hh
  split at hh
  · split at hh <;> obtain ⟨rfl, rfl⟩ := Prod.mk.inj (Option.some.inj hh) <;> exact hp
  · obtain ⟨rfl, rfl⟩ := Prod.mk.inj (Option.some.inj hh)
    exact hp
  · obtain ⟨rfl, rfl⟩ := Prod.mk.inj (Option.some.inj hh)
    exact hp.1
  · cases hh

omit hi ht in
lemma handlerOf_holding : p.holding = some event := by
  unfold World.handlerOf at hh
  split at hh
  · split at hh <;> obtain ⟨rfl, rfl⟩ := Prod.mk.inj (Option.some.inj hh) <;> rfl
  · obtain ⟨rfl, rfl⟩ := Prod.mk.inj (Option.some.inj hh)
    rfl
  · obtain ⟨rfl, rfl⟩ := Prod.mk.inj (Option.some.inj hh)
    rfl
  · cases hh

/-- A handler that ended. -/
theorem handlerOf_done (hp : p.Sound ctx.db ctx.now) {r : DispatchResult}
    (h : handler.run t = (.ok (.done r), t')) :
    ctx.provider = i.provider ∧ Handled ctx p t.work event t'.work t'.event := by
  obtain ⟨rfl, rfl⟩ := ht
  unfold World.handlerOf at hh
  split at hh
  · split at hh
    · obtain ⟨rfl, rfl⟩ := Prod.mk.inj (Option.some.inj hh)
      obtain ⟨hprov, ⟨-, hd⟩ | ⟨hf, -⟩⟩ := dispatchCreate_ok h
      · exact ⟨hprov, .create hd⟩
      · cases hf
    · next htype =>
      obtain ⟨rfl, rfl⟩ := Prod.mk.inj (Option.some.inj hh)
      obtain ⟨hprov, ⟨-, hr, hlacks⟩ | ⟨hf, -⟩⟩ := reconcileIntent_ok h
      · refine ⟨hprov, .reconcile (by simp [TurnPhase.reconciles, htype]) hr fun hterm => ?_⟩
        have := hlacks hterm
        by_cases hidem : ctx.idempotent = true
        · exact .inr hidem
        · left
          simpa [lacksFence, hidem, Option.isSome_iff_ne_none] using this
      · cases hf
  · obtain ⟨rfl, rfl⟩ := Prod.mk.inj (Option.some.inj hh)
    obtain ⟨hprov, hd⟩ := dispatchCreateFenced_ok (run_done h)
    exact ⟨hprov, .create hd⟩
  · obtain ⟨rfl, rfl⟩ := Prod.mk.inj (Option.some.inj hh)
    obtain ⟨hprov, hr⟩ := reconcileIntentFenced_ok (run_done h)
    refine ⟨hprov, .reconcile rfl hr fun _ => .inl ?_⟩
    obtain ⟨-, j, hj, hfence⟩ := hp
    obtain rfl := Option.some.inj (hi.symm.trans hj)
    exact hfence
  · cases hh

/-- A handler that stopped before the fence commit waits for it without a pending requeue. -/
theorem handlerOf_fence (hp : p.Sound ctx.db ctx.now) (hc : Committable ctx.env i)
    (h : handler.run t = (.ok .fence, t')) :
    (World.fencingPhase event i t').Sound ctx.db ctx.now := by
  obtain ⟨rfl, rfl⟩ := ht
  have hnever : ∀ {x : Handler DispatchResult}, (do
      let result ← x
      pure (.done result) : Handler HandlerStep).run t = (.ok .fence, t') → False := by
    intro x hx
    obtain ⟨r', t₁, -, hpure⟩ := Tx.bind_ok.mp hx
    cases (Prod.mk.inj hpure).1
  unfold World.handlerOf at hh
  split at hh
  · split at hh
    · next htype =>
      obtain ⟨rfl, rfl⟩ := Prod.mk.inj (Option.some.inj hh)
      obtain ⟨hprov, ⟨hne, -⟩ | ⟨-, hidem, -, hunstarted, hsame⟩⟩ := dispatchCreate_ok h
      · exact absurd rfl hne
      · -- a retryable intent belongs to an idempotent provider, which needs no fence
        have hqueued : t.work.intent.state = .queued := by
          refine hunstarted.resolve_right fun hr => ?_
          have := hc.retryable hr
          rw [← hprov] at this
          exact absurd (hidem.symm.trans this) (by decide)
        rw [World.fencingPhase, htype, hsame hqueued]
        exact ⟨hp, by simp⟩
    · next htype =>
      obtain ⟨rfl, rfl⟩ := Prod.mk.inj (Option.some.inj hh)
      rw [World.fencingPhase, htype]
      exact hp
  · obtain ⟨rfl, rfl⟩ := Prod.mk.inj (Option.some.inj hh)
    exact (hnever h).elim
  · obtain ⟨rfl, rfl⟩ := Prod.mk.inj (Option.some.inj hh)
    exact (hnever h).elim
  · cases hh

end Handlers

-- ════════════════════════════════════════════════════════════════════════
-- Changes
-- ════════════════════════════════════════════════════════════════════════

/-- The turn that an action lets claim an event. -/
def World.Action.claims : Action → Option Nat
  | .claimPostgres k _ | .claimConditional k => some k
  | _ => none

/-- Everything that a step of the system can do to the database. -/
inductive Change (env : Env) (w : World) : Action → Db → Prop
  | kept (action : Action) (n : Nat) : Change env w action { w.db with drawn := n }
  | planned (request : CreateMissionRequest) (quotes : List AuthenticatedQuote) (db' : Db)
    (h : Planned env w.db db') : Change env w (.runMission request quotes) db'
  | aftermath (action : Action) (db' : Db) (h : SecurityKernel.Aftermath w.db db')
    (haction : ∀ k lookup create, action ≠ .handle k lookup create) : Change env w action db'
  | activated (k : Nat) (a : AuthorizationRow) (entry : AuditEntry)
    (signingKeyId signatureHex : String) (db' : Db)
    (ha : w.db.getAuthorization a.authorizationId = some a) (hstatus : a.status = .pending)
    (hentry : SecurityKernel.AnnouncesActive entry)
    (h : Appended a.missionId [entry] (w.db.updateAuthorization a.authorizationId (fun r =>
      { r with
        status := .active
        signingKeyId := some signingKeyId
        approvalSignature := some signatureHex })) db') :
    Change env w (.finishApproval k)
      (db'.updateMission a.missionId (fun m => { m with state := .authorized }))
  | created (k : Nat) (args : PaymentArgs) (t : BoundTransaction) (intent : PaymentIntentRow)
    (db' : Db) (hi : Intends env w.db args t intent) (h : Created args t intent w.db db') :
    Change env w (.requestStep k) db'
  | reused (k : Nat) (args : PaymentArgs) (existing : PaymentIntentRow) (fingerprint : String)
    (db' : Db) (hcall : w.calls[k]? = some ⟨args, .resolving existing fingerprint⟩)
    (hi : HoldsIntent w.db existing)
    (h : Appended existing.missionId [reusedEntry existing args.idempotencyKey] w.db db')
    (hf : existing.requestFingerprint = fingerprint) : Change env w (.requestStep k) db'
  | claimed (action : Action) (k : Nat) (turn : WorkerTurn) (row : OutboxEventRow)
    (haction : World.Action.claims action = some k) (hturn : w.turns[k]? = some turn)
    (hrow : w.db.getOutboxEvent row.id = some row) (hdue : due turn.now row = true) :
    Change env w action (w.db.updateOutboxEvent row.id
      (claimedRow turn.workerId (turn.now + turn.lease)))
  | recovered (k : Nat) (turn : WorkerTurn) (event : OutboxEventRow) (exc : Exc)
    (hturn : w.turns[k]? = some turn) (hphase : turn.phase = .recovering event exc) :
    Change env w (.recover k) (w.db.updateOutboxEvent event.id (flushEvent event
      (rescheduled (exc.name ++ ": " ++ exc.text) turn.now event)))
  | fenced (k : Nat) (i : PaymentIntentRow) (fence : Option Datetime)
    (hi : w.db.getPaymentIntent i.id = some i)
    (hfence : i.providerCreateFencedAt ≠ none → fence = i.providerCreateFencedAt) :
    Change env w (.commitFence k)
      (w.db.updatePaymentIntent i.id (fun _ => { i with providerCreateFencedAt := fence }))
  | handled (k : Nat) (lookup : LookupAnswer) (create : CreateAnswer) (turn : WorkerTurn)
    (event : OutboxEventRow) (i : PaymentIntentRow) (t : Turn) (db' : Db)
    (hturn : w.turns[k]? = some turn) (hholding : turn.phase.holding = some event)
    (hevent : HoldsEvent w.db event) (hi : w.db.getPaymentIntent event.paymentIntentId = some i)
    (hprov : turn.provider = i.provider)
    (h : Handled (World.contextOf env w.db turn lookup create) turn.phase
      (World.lockIntent w.db i) event t.work t.event)
    (hcommit : Committed t.work w.db db')
    (henq : Enqueues t.work.intent.id t.work.enqueued
      (Table.update OutboxEventRow.id event.id (flushEvent event t.event) w.db.outboxEvents)
      db'.outboxEvents)
    (hweb : db'.webhookEvents = w.db.webhookEvents) :
    Change env w (.handle k lookup create) db'
  | delivered (provider : String) (event : VerifiedWebhookEvent) (now : Datetime)
    (i : PaymentIntentRow) (u : UnitOfWork) (applied : Option (Option PaymentIntentState))
    (db' : Db) (hi : findIntent w.db event = some i)
    (h : Delivered w.db event (World.lockIntent w.db i) u applied)
    (hcommit : Committed u w.db db')
    (henq : Enqueues u.intent.id u.enqueued w.db.outboxEvents db'.outboxEvents)
    (hweb : ∃ id, db'.webhookEvents =
      w.db.webhookEvents ++ (applied.map (webhookRow id u.intent.id event now)).toList)
    (haccepted : event.provider = provider ∧ evidenceMismatches i event = []) :
    Change env w (.webhook provider event now) db'

section StepChange

variable {env : Env} {w w' : World}

/-- What an authorization operation leaves is what it returned with, what it was refused with, or
nothing. -/
lemma settle_cases {α : Type} {motive : Db → Prop} {db : Db} {r : Except Exc α × Db}
    (hok : ∀ a db', r = (.ok a, db') → motive db')
    (herror : ∀ code id detail db', r = (.error (.authorizationFailure code id detail), db') →
      motive db')
    (hkept : motive db) : motive (World.settle db r) := by
  unfold World.settle
  split
  · exact hok _ _ rfl
  · exact herror _ _ _ _ rfl
  · exact hkept

lemma finishApproval_change (k : Nat) (call : ApprovalCall) :
    Change env w (.finishApproval k) (World.settle w.db ((World.approve env call).run w.db)) := by
  refine settle_cases ?_ ?_ (.kept _ _)
  · intro _ db' h
    obtain ⟨⟨⟩, db₁, happrove, hrest⟩ := Tx.bind_ok.mp h
    obtain ⟨⟨⟩, db₂, hassert, hmodify⟩ := Tx.bind_ok.mp hrest
    obtain ⟨-, rfl⟩ := assertTransition_ok.mp hassert
    obtain ⟨-, rfl⟩ := Prod.mk.inj hmodify
    obtain ⟨a, entry, ha, happroves, hentry, happ⟩ :=
      SecurityKernel.approveAuthorizationWithSignature_ok happrove
    have hm := happroves.missionId
    have hid := SecurityKernel.id_of_getAuthorization ha
    rw [← hid] at ha happ
    rw [← hm] at happ
    have hchange : Change env w (.finishApproval k) _ :=
      .activated k a entry _ _ db₂ ha happroves.status hentry happ
    rwa [hm] at hchange
  · intro code id detail db' h
    rcases Tx.bind_error.mp h with happrove | ⟨_, db₁, -, hrest⟩
    · exact .aftermath _ _
        (SecurityKernel.approveAuthorizationWithSignature_refused (by simp) happrove).aftermath
        (by simp)
    · exfalso
      rcases Tx.bind_error.mp hrest with hassert | ⟨_, db₂, -, hmodify⟩
      · unfold assertTransition at hassert
        split at hassert <;> cases hassert
      · cases hmodify

lemma runMission_change (request : CreateMissionRequest) (quotes : List AuthenticatedQuote) :
    Change env w (.runMission request quotes)
      (World.settleMission w.db ((AgentOrchestrator.run env request quotes).run w.db)) := by
  unfold World.settleMission
  split
  · next db' h => exact .planned _ _ _ (run_ok h)
  · next db' h => exact .planned _ _ _ (run_refused (by trivial) h)
  · exact .kept _ _

lemma deliverWebhook_change (provider : String) (event : VerifiedWebhookEvent) (now : Datetime) :
    Change env w (.webhook provider event now) (World.deliverWebhook env w provider event now).db := by
  unfold World.deliverWebhook
  split
  · exact .kept _ _
  next hprovider =>
  split
  · exact .kept _ _
  next i hi =>
  split
  · exact .kept _ _
  next outcome applied u hrun =>
  split
  · next db' hcommit =>
    obtain ⟨hnone, hdelivered⟩ := handleWebhook_ok hrun
    obtain ⟨hcommitted, henq, hweb⟩ := commitWebhook_ok hcommit
    exact .delivered provider event now i u applied db' hi hdelivered hcommitted henq hweb
      ⟨not_ne_iff.mp hprovider, hnone⟩
  · exact .kept _ _

lemma handle_change (hf : InFlight env w) {k : Nat} {lookup : LookupAnswer} {create : CreateAnswer}
    {turn : WorkerTurn} (hturn : w.turns[k]? = some turn)
    (h : World.handleTurn env w k turn lookup create = some w') :
    Change env w (.handle k lookup create) w'.db := by
  have hsound := hf.turns turn (List.mem_of_getElem? hturn)
  unfold World.handleTurn at h
  split at h
  · cases h
  next event handler hh =>
  split at h
  · obtain rfl := Option.some.inj h
    exact .kept _ _
  next i hi =>
  split at h
  · next r t hrun =>
    dsimp only at h
    split at h
    · next db' hcommit =>
      obtain rfl := Option.some.inj h
      obtain ⟨hprov, hhandled⟩ := handlerOf_done hh hi ⟨rfl, rfl⟩ hsound hrun
      obtain ⟨hcommitted, henq, hweb⟩ := commitTurn_ok hcommit
      exact .handled k lookup create turn event i t db' hturn (handlerOf_holding hh)
        (handlerOf_holds hh hsound) hi hprov hhandled hcommitted henq hweb
    · obtain rfl := Option.some.inj h
      exact .kept _ _
  · obtain rfl := Option.some.inj h
    exact .kept _ _
  · obtain rfl := Option.some.inj h
    exact .kept _ _

/-- The conditional update of the fence column, when no requeue is pending. -/
lemma acquireProviderCreateFence_eq (now : Datetime) (i : PaymentIntentRow) :
    ∃ fence, (World.acquireProviderCreateFence now false i).1 =
        { i with providerCreateFencedAt := fence } ∧
      (i.providerCreateFencedAt ≠ none → fence = i.providerCreateFencedAt) ∧
      ((World.acquireProviderCreateFence now false i).2 = true →
        i.providerCreateFencedAt = none ∧ fence = some now) := by
  unfold World.acquireProviderCreateFence
  simp only [Bool.false_eq_true, if_false]
  split
  · next hq => exact ⟨some now, rfl, fun h => absurd hq.2 h, fun _ => ⟨hq.2, rfl⟩⟩
  · exact ⟨i.providerCreateFencedAt, rfl, fun _ => rfl, nofun⟩

lemma fence_change (hk : Table.Keyed PaymentIntentRow.id w.db.paymentIntents) (hf : InFlight env w)
    {k : Nat} {turn : WorkerTurn} (hturn : w.turns[k]? = some turn)
    (h : World.fenceTurn w k turn = some w') : Change env w (.commitFence k) w'.db := by
  have hsound := hf.turns turn (List.mem_of_getElem? hturn)
  unfold World.fenceTurn at h
  split at h
  · next event requeue hphase =>
    rw [hphase] at hsound
    obtain ⟨-, rfl⟩ := hsound
    split at h
    · cases h
    next i hi =>
    obtain rfl := Option.some.inj h
    obtain ⟨fence, heq, hfence, -⟩ := acquireProviderCreateFence_eq turn.now i
    dsimp only
    rw [heq]
    exact .fenced k i fence (by rwa [Table.key_of_find hi]) hfence
  · split at h
    · cases h
    next i hi =>
    obtain rfl := Option.some.inj h
    have hsame : w.db.updatePaymentIntent i.id (World.consumeCreatePermission turn.now) =
        w.db.updatePaymentIntent i.id (fun _ => World.consumeCreatePermission turn.now i) := by
      have honly : ∀ x ∈ w.db.paymentIntents, x.id = i.id → World.consumeCreatePermission turn.now x =
          World.consumeCreatePermission turn.now i := fun x hx hxi => by
        rw [hk.eq_of_key hx (Table.mem_of_find hi) hxi]
      exact congrArg (fun l => { w.db with paymentIntents := l }) (Table.update_congr honly)
    dsimp only
    rw [hsame]
    refine .fenced k i _ (by rwa [Table.key_of_find hi]) fun hne => ?_
    obtain ⟨t, ht⟩ := Option.ne_none_iff_exists'.mp hne
    simp [ht]
  · cases h

lemma due_iff {now : Datetime} {row : OutboxEventRow} : due now row = true ↔
    (row.status = .pending ∨ row.status = .inProgress) ∧ row.availableAt ≤ now := decide_eq_true_iff

lemma mem_of_nextDue {db : Db} {now : Datetime} {locked : List Uuid} {row : OutboxEventRow}
    (h : nextDue db now locked = some row) :
    row ∈ db.outboxEvents ∧ due now row = true := by
  have hmem := List.mem_filter.mp (Table.mem_of_best h)
  exact ⟨hmem.1, (Bool.and_eq_true_iff.mp hmem.2).1⟩

/-- The statements of a turn outside its handler. -/
lemma turn_change (hc : Consistent env w.db) (hf : InFlight env w) {k : Nat} {turn : WorkerTurn}
    (hturn : w.turns[k]? = some turn) {action : Action} (haction : World.Action.turn action = some k)
    (h : World.stepTurn w k turn action = some w') : Change env w action w'.db := by
  have hsound := hf.turns turn (List.mem_of_getElem? hturn)
  cases action with
  | claimPostgres k' locked =>
    simp only [World.stepTurn] at h
    split at h
    · split at h
      · obtain rfl := Option.some.inj h
        exact .kept _ _
      · next eventId db' hclaim =>
        obtain rfl := Option.some.inj h
        unfold claimPostgres at hclaim
        split at hclaim
        · cases hclaim
        next row hrow =>
        obtain ⟨rfl, rfl⟩ := Prod.mk.inj (Option.some.inj hclaim)
        obtain ⟨hmem, hdue⟩ := mem_of_nextDue hrow
        obtain rfl := Option.some.inj haction
        exact .claimed _ _ turn row rfl hturn ((Table.mem_iff_find hc.outboxEvents).mp hmem) hdue
    · cases h
  | selectCandidate k' =>
    simp only [World.stepTurn] at h
    split at h
    · split at h <;> obtain rfl := Option.some.inj h <;> exact .kept _ _
    · cases h
  | claimConditional k' =>
    simp only [World.stepTurn] at h
    split at h
    · next eventId status availableAt hphase =>
      rw [hphase] at hsound
      split at h
      · obtain rfl := Option.some.inj h
        exact .kept _ _
      · next db' hclaim =>
        obtain rfl := Option.some.inj h
        unfold claimConditional at hclaim
        split at hclaim
        · next row hrow =>
          split at hclaim
          · next hseen =>
            obtain rfl := Option.some.inj hclaim
            obtain rfl := Table.key_of_find hrow
            obtain rfl := Option.some.inj haction
            refine .claimed _ _ turn row rfl hturn hrow (due_iff.mpr ?_)
            rw [hseen.1, hseen.2]
            exact hsound
          · cases hclaim
        · cases hclaim
    · cases h
  | loadEvent k' =>
    simp only [World.stepTurn] at h
    split at h
    · split at h
      · obtain rfl := Option.some.inj h
        exact .kept _ _
      · split at h <;> obtain rfl := Option.some.inj h <;> exact .kept _ _
    · cases h
  | loadStale k' =>
    simp only [World.stepTurn] at h
    split at h
    · split at h <;> obtain rfl := Option.some.inj h <;> exact .kept _ _
    · cases h
  | recover k' =>
    simp only [World.stepTurn] at h
    obtain rfl := Option.some.inj haction
    split at h
    · next event exc hphase =>
      obtain rfl := Option.some.inj h
      exact .recovered k' turn event exc hturn hphase
    · cases h
  | crash k' =>
    simp only [World.stepTurn] at h
    split at h
    · cases h
    · obtain rfl := Option.some.inj h
      exact .kept _ _
  | _ => cases h

/-- Every step of the system is one of the listed changes. -/
theorem step_change (hc : Consistent env w.db) (hf : InFlight env w) {action : Action}
    (h : World.step env w action = some w') : Change env w action w'.db := by
  cases action with
  | runMission request quotes =>
    obtain rfl := Option.some.inj h
    exact runMission_change request quotes
  | openApproval missionId signingKeyId signatureHex now =>
    obtain rfl := Option.some.inj h
    unfold World.openApproval
    split
    · split <;> exact .kept _ _
    · exact .kept _ _
  | finishApproval k =>
    simp only [World.step] at h
    split at h
    · cases h
    next call hcall =>
    split at h
    · cases h
    · obtain rfl := Option.some.inj h
      exact finishApproval_change k call
  | revoke id reason now =>
    obtain rfl := Option.some.inj h
    refine settle_cases (motive := Change env w _) ?_ ?_ (.kept _ _)
    · intro _ _ hrun
      obtain ⟨a, entry, ha, -, hlive, hentry, happ⟩ := SecurityKernel.revokeAuthorization_ok hrun
      exact .aftermath _ _ (.ended a .revoked entry _ ha hlive (.inr rfl) hentry happ) (by simp)
    · exact fun _ _ _ _ hrun => .aftermath _ _
        (SecurityKernel.revokeAuthorization_refused (by simp) hrun).aftermath (by simp)
  | expire id now =>
    obtain rfl := Option.some.inj h
    refine settle_cases (motive := Change env w _) ?_ ?_ (.kept _ _)
    · exact fun _ _ hrun =>
        .aftermath _ _ (SecurityKernel.expireIfStale_settled hrun).aftermath (by simp)
    · intro _ _ _ _ hrun
      cases SecurityKernel.expireIfStale_error hrun
  | openRequest args preload =>
    obtain rfl := Option.some.inj h
    exact .kept _ _
  | requestStep k =>
    simp only [World.step] at h
    split at h
    · cases h
    next call hcall =>
    split at h
    · cases h
    next p' db' hstep =>
    obtain rfl := Option.some.inj h
    have hp := hf.calls call (List.mem_of_getElem? hcall)
    obtain ⟨args, p⟩ := call
    cases stepCall_cases hp hc.paymentIntents hstep with
    | read => exact .kept _ _
    | created t intent mission _ hi hcreated => exact .created k args t intent _ hi hcreated
    | reused existing fingerprint _ hi hf happ =>
      exact .reused k args existing fingerprint _ hcall hi happ hf
  | abandonRequest k =>
    simp only [World.step] at h
    split at h
    · cases h
    · split at h
      · cases h
      · obtain rfl := Option.some.inj h
        exact .kept _ _
  | startTurn =>
    obtain rfl := Option.some.inj h
    exact .kept _ _
  | webhook provider event now =>
    obtain rfl := Option.some.inj h
    exact deliverWebhook_change provider event now
  | handle k lookup create =>
    simp only [World.step] at h
    split at h
    · cases h
    next turn hturn => exact handle_change hf hturn h
  | crashHandling k lookup create =>
    simp only [World.step] at h
    split at h
    · cases h
    next turn hturn =>
    unfold World.crashTurn at h
    split at h
    · cases h
    · split at h
      · cases h
      · obtain rfl := Option.some.inj h
        exact .kept _ _
  | commitFence k =>
    simp only [World.step] at h
    split at h
    · cases h
    next turn hturn => exact fence_change hc.paymentIntents hf hturn h
  | _ =>
    simp only [World.step, World.Action.turn] at h
    split at h
    · cases h
    next turn hturn => exact turn_change hc hf hturn rfl h

-- ════════════════════════════════════════════════════════════════════════
-- Invariants
-- ════════════════════════════════════════════════════════════════════════

lemma SecurityKernel.Aftermath.consistent {db db' : Db} (hc : Consistent env db)
    (h : SecurityKernel.Aftermath db db') : Consistent env db' ∧ Grows db db' := by
  cases h with
  | kept => exact ⟨hc, .refl _⟩
  | recorded a entry _ _ _ happ =>
    exact ⟨hc.of_sameRows happ.rows, (Grows.refl db).of_sameRows happ.rows⟩
  | ended a status entry _ ha hlive hstatus _ happ =>
    have hne : a.status ≠ .consumed := by
      rcases hlive with h | h <;> simp [h]
    exact ⟨(hc.ended ha hne hstatus).of_sameRows happ.rows,
      (grows_updateAuthorization db _ (by intro; rfl)).of_sameRows happ.rows⟩

/-- A committed change keeps the database consistent and only grows it. -/
theorem Change.consistent (hc : Consistent env w.db) {action : Action} {db' : Db}
    (h : Change env w action db') : Consistent env db' ∧ Grows w.db db' := by
  cases h with
  | kept _ n =>
    exact ⟨hc.of_eq rfl rfl rfl rfl rfl rfl rfl, (Grows.refl w.db).of_eq rfl rfl rfl rfl rfl rfl rfl⟩
  | planned _ _ _ h => exact hc.planned h
  | aftermath _ _ h => exact h.consistent hc
  | activated k a entry key signature db₁ ha hstatus _ happ =>
    have hrows := happ.rows
    have hne : a.status ≠ .consumed := by simp [hstatus]
    have ht := hc.transition (f := fun r =>
        { r with status := .active, signingKeyId := some key, approvalSignature := some signature })
      (g := fun m => { m with state := .authorized }) ha hne (fun _ => rfl) (by simp)
      (fun _ => rfl) (fun _ => ⟨nofun, fun _ => rfl⟩)
    have hmissions : (db₁.updateMission a.missionId (fun m => { m with state := .authorized })).missions =
        (w.db.updateMission a.missionId (fun m => { m with state := .authorized })).missions := by
      simp only [Db.updateMission, hrows.missions]
      rfl
    have hgrows := (grows_updateAuthorization w.db a.authorizationId (f := fun r =>
        { r with status := .active, signingKeyId := some key, approvalSignature := some signature })
      (by intro; rfl)).trans
      (grows_updateMission _ a.missionId (f := fun m => { m with state := .authorized }) (by intro; rfl))
    exact ⟨ht.of_eq hmissions hrows.missionConstraints hrows.offers hrows.policyDecisions
        hrows.authorizations hrows.paymentIntents hrows.outboxEvents,
      hgrows.of_eq hmissions hrows.missionConstraints hrows.offers hrows.policyDecisions
        hrows.authorizations hrows.paymentIntents hrows.outboxEvents⟩
  | created k args t intent _ hi h => exact ⟨hc.created hi h, h.grows⟩
  | reused k args existing _ _ _ _ happ =>
    exact ⟨hc.of_sameRows happ.rows, (Grows.refl w.db).of_sameRows happ.rows⟩
  | claimed _ k turn row =>
    exact ⟨hc.updateOutboxEvent row.id (claimedRow_terms _ _),
      grows_updateOutboxEvent _ _ (claimedRow_terms _ _)⟩
  | recovered k turn event exc =>
    exact ⟨hc.updateOutboxEvent event.id (flushEvent_terms _ _),
      grows_updateOutboxEvent _ _ (flushEvent_terms _ _)⟩
  | fenced k i fence hi hfence =>
    have hmoves : Moves i { i with providerCreateFencedAt := fence } :=
      ⟨rfl, hfence, fun _ => ⟨rfl, rfl⟩, .refl _⟩
    have hcommittable : Committable env { i with providerCreateFencedAt := fence } :=
      (hc.committable i (Table.mem_of_find hi)).of_eq rfl rfl rfl rfl
    exact ⟨hc.updatePaymentIntent hi hmoves hcommittable, grows_updatePaymentIntent _ hi hmoves⟩
  | handled k lookup create turn event i t _ _ _ _ hi hprov h hcommit henq =>
    obtain ⟨hcommittable, hmoves⟩ := h.moves (hc.committable i (Table.mem_of_find hi)) hprov
    have hid : w.db.getPaymentIntent i.id = some i := by rwa [Table.key_of_find hi]
    have hflushed := hc.updateOutboxEvent event.id (flushEvent_terms event t.event)
    have hcommit' : Committed t.work (w.db.updateOutboxEvent event.id (flushEvent event t.event)) db' :=
      ⟨hcommit.1, hcommit.2, hcommit.3, hcommit.4, hcommit.5, hcommit.6,
        ⟨hcommit.7.sequenced, hcommit.7.chain⟩, hcommit.8⟩
    obtain ⟨hconsistent, hgrows⟩ := hflushed.committed hid hmoves hcommittable h.mission hcommit' henq
    exact ⟨hconsistent, (grows_updateOutboxEvent w.db _ (flushEvent_terms _ _)).trans hgrows⟩
  | delivered provider event now i u applied _ hi h hcommit henq =>
    have hmem := List.mem_of_find?_eq_some hi
    have hid : w.db.getPaymentIntent i.id = some i := hc.mem_intent.mp hmem
    have hnamed : i.provider = event.provider ∧ i.providerPaymentId = some event.providerPaymentId := by
      simpa using List.find?_some hi
    obtain ⟨hcommittable, hmoves⟩ := h.moves (hc.committable i hmem) hnamed.2
    exact hc.committed hid hmoves hcommittable h.mission hcommit henq

/-- What requests and turns hold they hold after others committed too. -/
lemma InFlight.kept (hf : InFlight env w) (hg : Grows w.db w'.db) (hcalls : w'.calls = w.calls)
    (hturns : w'.turns = w.turns) : InFlight env w' := by
  refine ⟨?_, ?_⟩
  · rw [hcalls]
    exact fun c hc => (hf.calls c hc).grows hg
  · rw [hturns]
    exact fun t ht => (hf.turns t ht).grows hg

lemma InFlight.setTurn (hf : InFlight env w) (hg : Grows w.db w'.db) (hcalls : w'.calls = w.calls)
    {k : Nat} {turn : WorkerTurn} {p : TurnPhase}
    (hturns : w'.turns = w.turns.set k { turn with phase := p }) (hp : p.Sound w'.db turn.now) :
    InFlight env w' := by
  refine ⟨?_, ?_⟩
  · rw [hcalls]
    exact fun c hc => (hf.calls c hc).grows hg
  · rw [hturns]
    intro t ht
    rcases List.mem_or_eq_of_mem_set ht with ht | rfl
    · exact (hf.turns t ht).grows hg
    · exact hp

lemma InFlight.setCall (hf : InFlight env w) (hg : Grows w.db w'.db) {k : Nat} {call : PaymentCall}
    {p : CallPhase} (hcalls : w'.calls = w.calls.set k { call with phase := p })
    (hturns : w'.turns = w.turns) (hp : p.Sound env w'.db call.args) : InFlight env w' := by
  refine ⟨?_, ?_⟩
  · rw [hcalls]
    intro c hc
    rcases List.mem_or_eq_of_mem_set hc with hc | rfl
    · exact (hf.calls c hc).grows hg
    · exact hp
  · rw [hturns]
    exact fun t ht => (hf.turns t ht).grows hg

lemma handle_inFlight (hc : Consistent env w.db) (hf : InFlight env w) (hg : Grows w.db w'.db)
    {k : Nat} {lookup : LookupAnswer} {create : CreateAnswer} {turn : WorkerTurn}
    (hturn : w.turns[k]? = some turn)
    (h : World.handleTurn env w k turn lookup create = some w') : InFlight env w' := by
  have hsound := hf.turns turn (List.mem_of_getElem? hturn)
  unfold World.handleTurn at h
  split at h
  · cases h
  next event handler hh =>
  split at h
  · obtain rfl := Option.some.inj h
    exact hf.setTurn hg rfl rfl trivial
  next i hi =>
  split at h
  · next r t hrun =>
    dsimp only at h
    split at h
    · obtain rfl := Option.some.inj h
      exact hf.setTurn hg rfl rfl trivial
    · obtain rfl := Option.some.inj h
      exact hf.setTurn hg rfl rfl trivial
  · next t hrun =>
    obtain rfl := Option.some.inj h
    have hcommittable := hc.committable i (Table.mem_of_find hi)
    exact hf.setTurn hg rfl rfl (handlerOf_fence hh hi ⟨rfl, rfl⟩ hsound hcommittable hrun)
  · obtain rfl := Option.some.inj h
    exact hf.setTurn hg rfl rfl trivial

lemma fence_inFlight (hf : InFlight env w) (hg : Grows w.db w'.db) {k : Nat} {turn : WorkerTurn}
    (hturn : w.turns[k]? = some turn) (h : World.fenceTurn w k turn = some w') :
    InFlight env w' := by
  have hsound := hf.turns turn (List.mem_of_getElem? hturn)
  unfold World.fenceTurn at h
  split at h
  · next event requeue hphase =>
    rw [hphase] at hsound
    split at h
    · cases h
    next i hi =>
    obtain rfl := Option.some.inj h
    exact hf.setTurn hg rfl rfl (hsound.1.grows hg)
  · next event hphase =>
    rw [hphase] at hsound
    split at h
    · cases h
    next i hi =>
    obtain rfl := Option.some.inj h
    refine hf.setTurn hg rfl rfl ⟨HoldsEvent.grows hg hsound, World.consumeCreatePermission turn.now i, ?_, ?_⟩
    · have hid := Table.key_of_find hi
      dsimp only
      rw [getPaymentIntent_update w.db i.id _ (f := World.consumeCreatePermission turn.now)
        (fun _ h => h), if_pos hid.symm, hi]
      rfl
    · simp [World.consumeCreatePermission]
  · cases h

lemma turn_inFlight (hf : InFlight env w) (hg : Grows w.db w'.db) {k : Nat} {turn : WorkerTurn}
    {action : Action} (h : World.stepTurn w k turn action = some w') : InFlight env w' := by
  cases action with
  | claimPostgres k' locked =>
    simp only [World.stepTurn] at h
    split at h
    · split at h <;> obtain rfl := Option.some.inj h <;> exact hf.setTurn hg rfl rfl trivial
    · cases h
  | selectCandidate k' =>
    simp only [World.stepTurn] at h
    split at h
    · split at h
      · obtain rfl := Option.some.inj h
        exact hf.setTurn hg rfl rfl trivial
      · next row hrow =>
        obtain rfl := Option.some.inj h
        exact hf.setTurn hg rfl rfl (due_iff.mp (mem_of_nextDue hrow).2)
    · cases h
  | claimConditional k' =>
    simp only [World.stepTurn] at h
    split at h
    · split at h <;> obtain rfl := Option.some.inj h <;> exact hf.setTurn hg rfl rfl trivial
    · cases h
  | loadEvent k' =>
    simp only [World.stepTurn] at h
    split at h
    · split at h
      · obtain rfl := Option.some.inj h
        exact hf.setTurn hg rfl rfl trivial
      · next event hevent =>
        split at h
        · obtain rfl := Option.some.inj h
          exact hf.setTurn hg rfl rfl trivial
        · obtain rfl := Option.some.inj h
          exact hf.setTurn hg rfl rfl ⟨event, by rwa [Table.key_of_find hevent], rfl⟩
    · cases h
  | loadStale k' =>
    simp only [World.stepTurn] at h
    split at h
    · split at h
      · obtain rfl := Option.some.inj h
        exact hf.setTurn hg rfl rfl trivial
      · next event hevent =>
        obtain rfl := Option.some.inj h
        exact hf.setTurn hg rfl rfl ⟨event, by rwa [Table.key_of_find hevent], rfl⟩
    · cases h
  | recover k' =>
    simp only [World.stepTurn] at h
    split at h
    · obtain rfl := Option.some.inj h
      exact hf.setTurn hg rfl rfl trivial
    · cases h
  | crash k' =>
    simp only [World.stepTurn] at h
    split at h
    · cases h
    · obtain rfl := Option.some.inj h
      exact hf.setTurn hg rfl rfl trivial
  | _ => cases h

/-- Every step leaves requests and turns with versions of the database's rows. -/
theorem step_inFlight (hc : Consistent env w.db) (hf : InFlight env w) (hg : Grows w.db w'.db)
    {action : Action} (h : World.step env w action = some w') : InFlight env w' := by
  cases action with
  | openApproval missionId signingKeyId signatureHex now =>
    obtain rfl := Option.some.inj h
    refine hf.kept hg ?_ ?_ <;>
    · unfold World.openApproval
      split
      · split <;> rfl
      · rfl
  | finishApproval k =>
    simp only [World.step] at h
    split at h
    · cases h
    split at h
    · cases h
    · obtain rfl := Option.some.inj h
      exact hf.kept hg rfl rfl
  | openRequest args preload =>
    obtain rfl := Option.some.inj h
    refine ⟨fun c hc => ?_, fun t ht => (hf.turns t ht).grows hg⟩
    rcases List.mem_append.mp hc with hc | hc
    · exact (hf.calls c hc).grows hg
    · rw [List.mem_singleton.mp hc]
      trivial
  | requestStep k =>
    simp only [World.step] at h
    split at h
    · cases h
    next call hcall =>
    split at h
    · cases h
    next p' db' hstep =>
    obtain rfl := Option.some.inj h
    have hp := hf.calls call (List.mem_of_getElem? hcall)
    refine hf.setCall hg rfl rfl ?_
    obtain ⟨args, p⟩ := call
    cases stepCall_cases hp hc.paymentIntents hstep with
    | read _ _ _ hp' => exact hp'.grows hg
    | created => trivial
    | reused => trivial
  | abandonRequest k =>
    simp only [World.step] at h
    split at h
    · cases h
    split at h
    · cases h
    · obtain rfl := Option.some.inj h
      exact hf.setCall hg rfl rfl trivial
  | startTurn =>
    obtain rfl := Option.some.inj h
    refine ⟨fun c hc => (hf.calls c hc).grows hg, fun t ht => ?_⟩
    rcases List.mem_append.mp ht with ht | ht
    · exact (hf.turns t ht).grows hg
    · rw [List.mem_singleton.mp ht]
      trivial
  | webhook provider event now =>
    obtain rfl := Option.some.inj h
    refine hf.kept hg ?_ ?_ <;>
    · unfold World.deliverWebhook
      repeat' split
      all_goals rfl
  | handle k lookup create =>
    simp only [World.step] at h
    split at h
    · cases h
    next turn hturn => exact handle_inFlight hc hf hg hturn h
  | crashHandling k lookup create =>
    simp only [World.step] at h
    split at h
    · cases h
    unfold World.crashTurn at h
    split at h
    · cases h
    · split at h
      · cases h
      · obtain rfl := Option.some.inj h
        exact hf.setTurn hg rfl rfl trivial
  | commitFence k =>
    simp only [World.step] at h
    split at h
    · cases h
    next turn hturn => exact fence_inFlight hf hg hturn h
  | runMission | revoke | expire =>
    obtain rfl := Option.some.inj h
    exact hf.kept hg rfl rfl
  | _ =>
    simp only [World.step, World.Action.turn] at h
    split at h
    · cases h
    next turn hturn => exact turn_inFlight hf hg h

/-- What holds of every state the system can reach. -/
structure Reachable (env : Env) (w : World) : Prop where
  consistent : Consistent env w.db
  inFlight : InFlight env w

theorem reachable_init (env : Env) : Reachable env World.init := by
  refine ⟨⟨List.nodup_nil, List.nodup_nil, List.nodup_nil, List.nodup_nil, List.nodup_nil,
    List.nodup_nil, List.nodup_nil, List.nodup_nil, List.nodup_nil, ?_, ?_, ?_, ?_, ?_, ?_, ?_, ?_⟩,
    ⟨?_, ?_⟩⟩
  all_goals
    intro x hx
    cases hx

/-- Every step keeps the invariants, and the database only grows. -/
theorem Reachable.step (h : Reachable env w) {action : Action}
    (hstep : World.step env w action = some w') : Reachable env w' ∧ Grows w.db w'.db := by
  obtain ⟨hconsistent, hgrows⟩ := (step_change h.consistent h.inFlight hstep).consistent h.consistent
  exact ⟨⟨hconsistent, step_inFlight h.consistent h.inFlight hgrows hstep⟩, hgrows⟩

theorem run_reachable (h : Reachable env w) {actions : List Action}
    (hrun : Runs.run (World.step env) w actions = some w') : Reachable env w' :=
  Runs.invariant (fun _ _ _ hi hs => (hi.step hs).1) h hrun

theorem run_grows (h : Reachable env w) {actions : List Action}
    (hrun : Runs.run (World.step env) w actions = some w') : Grows w.db w'.db :=
  Runs.relates (r := fun w w' : World => Grows w.db w'.db) (fun w => .refl w.db)
    (fun _ _ _ h h' => h.trans h') (fun _ _ _ hi hs => hi.step hs) h hrun

/-- The invariants hold after every run. -/
theorem exec_reachable {actions : List Action} (hrun : World.exec env actions = some w) :
    Reachable env w := run_reachable (reachable_init env) hrun

end StepChange

end Pactra
