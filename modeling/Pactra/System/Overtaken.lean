import Pactra.PaymentExecutor.Effects.Legality
import Pactra.System.PaymentStates

/-!
# Events that were overtaken

Two events of one payment may be live at once, and a turn may go on after another has moved the
payment. A handler then meets a state its author may not have had in mind. `Overtaken` lists the two
situations in which it asserts a transition that the table refuses:

* a reconcile turn finds nothing at an idempotent provider, for a payment that another reconcile
  turn has already made retryable;
* a create turn finds the payment settled when it reloads it after its fence commit, and nothing it
  could adopt.

## Main results

- `legal_unless_overtaken` — a turn of a reachable state ends with an illegal transition exactly when
  it was overtaken
-/

namespace Pactra

open PaymentExecutor

/-- The event that a turn is about to process, at its start or after a fence commit. -/
def TurnPhase.processes : TurnPhase → Option OutboxEventRow
  | .loaded e | .fenced e _ | .reconcileFenced e => some e
  | _ => none

lemma TurnPhase.processes_of_reconciles {p : TurnPhase} {e : OutboxEventRow}
    (h : p.reconciles = some e) : p.processes = some e := by
  unfold TurnPhase.reconciles at h
  split at h
  · split at h
    · exact h
    · cases h
  · exact h
  · cases h

/-- Processing an event ends with `IllegalPaymentTransition`. -/
def World.RaisesIllegal (env : Env) (w : World) (k : Nat) (lookup : LookupAnswer)
    (create : CreateAnswer) : Prop :=
  ∃ w' turn eventId current target, World.step env w (.handle k lookup create) = some w' ∧
    w'.turns[k]? = some turn ∧ turn.phase = .raised eventId (.illegalPaymentTransition current target)

/-- A turn whose payment others moved to where its own outcome is not allowed any more. -/
def Overtaken (env : Env) (p : TurnPhase) (event : OutboxEventRow) (i : PaymentIntentRow)
    (lookup : LookupAnswer) : Prop :=
  (p.reconciles = some event ∧ lookup = .notFound ∧ unstarted i.state ∧
    env.createRetriesAreIdempotent i.provider = true) ∨
  ((∃ acquired, p = .fenced event acquired) ∧ i.state.isTerminal = true ∧
    i.providerCreateFencedAt ≠ none ∧
    ¬∃ payment, lookup = .found payment ∧ Valid env payment i true ∧ Linkable payment i)

-- ════════════════════════════════════════════════════════════════════════
-- Commits
-- ════════════════════════════════════════════════════════════════════════

section Commits

variable (env : Env)

lemma lawful_drawUuid : Tx.Raises Exc.Lawful (drawUuid env) := .of_ok fun _ => ⟨_, _, rfl⟩

lemma lawful_drawNow : Tx.Raises Exc.Lawful (drawNow env) := .of_ok fun _ => ⟨_, _, rfl⟩

lemma lawful_appendEvents (missionId : Uuid) (entries : List AuditEntry) :
    Tx.Raises Exc.Lawful (appendEvents env missionId entries) := by
  induction entries with
  | nil => exact .pure _
  | cons e es ih =>
    refine Tx.Raises.bind ?_ fun _ => ih
    refine .bind (.of_ok fun _ => ⟨_, _, rfl⟩) fun _ => .bind (lawful_drawNow env) fun _ =>
      .bind (lawful_drawUuid env) fun _ => .bind .get fun _ => ?_
    exact .ite (.raise lawful_integrityError) (.modify _)

lemma lawful_insertOutboxEvents (intentId : Uuid) (news : List NewOutboxEvent) :
    Tx.Raises Exc.Lawful (insertOutboxEvents env intentId news) := by
  induction news with
  | nil => exact .pure _
  | cons new news ih =>
    refine .bind (lawful_drawUuid env) fun _ => .bind (lawful_drawNow env) fun _ =>
      .bind .get fun _ => ?_
    exact .ite (.raise lawful_integrityError) (.bind (.modify _) fun _ => ih)

/-- A commit fails with other exceptions. -/
lemma lawful_commitTurn (loaded : OutboxEventRow) (t : Turn) :
    Tx.Raises Exc.Lawful (World.commitTurn env loaded t) := by
  have hrest : Tx.Raises Exc.Lawful (do
      insertOutboxEvents env t.work.intent.id t.work.enqueued
      appendEvents env t.work.intent.missionId t.work.entries) :=
    (lawful_insertOutboxEvents env _ _).bind fun _ => lawful_appendEvents env _ _
  refine .bind (.modify _) fun _ => .bind .get fun _ => .ite (.raise lawful_integrityError) ?_
  refine .bind (.modify _) fun _ => ?_
  dsimp only
  split
  · exact .bind (.modify _) fun _ => hrest
  · exact hrest

end Commits

-- ════════════════════════════════════════════════════════════════════════
-- Turns
-- ════════════════════════════════════════════════════════════════════════

section Turns

variable {env : Env} {w : World} {k : Nat} {turn : WorkerTurn} {lookup : LookupAnswer}
  {create : CreateAnswer} {event : OutboxEventRow} {i : PaymentIntentRow}

/-- Processing an event ends with an illegal transition when its handler does. -/
lemma raisesIllegal_iff (handler : Handler HandlerStep) (hturn : w.turns[k]? = some turn)
    (hh : World.handlerOf (World.contextOf env w.db turn lookup create) turn.phase =
      some (event, handler))
    (hi : w.db.getPaymentIntent event.paymentIntentId = some i) :
    w.RaisesIllegal env k lookup create ↔ ¬Legal handler ⟨World.lockIntent w.db i, event, []⟩ := by
  have hstep : World.step env w (.handle k lookup create) =
      World.handleTurn env w k turn lookup create := by
    simp only [World.step, hturn]
  have hlen : k < w.turns.length := (List.getElem?_eq_some_iff.mp hturn).1
  have hphase : ∀ (w₁ : World) (p : TurnPhase) (turn' : WorkerTurn), w₁.turns = w.turns →
      (w₁.setTurn k turn p).turns[k]? = some turn' → turn'.phase = p := by
    intro w₁ p turn' hturns hget
    rw [World.setTurn, hturns] at hget
    rw [List.getElem?_set_self hlen] at hget
    rw [← Option.some.inj hget]
  unfold World.RaisesIllegal
  rw [hstep]
  unfold World.handleTurn
  rw [hh]
  dsimp only
  rw [hi]
  dsimp only
  rcases hrun : handler.run ⟨World.lockIntent w.db i, event, []⟩ with ⟨exc | (r | _), t⟩
  · dsimp only
    constructor
    · rintro ⟨w', turn', eventId, current, target, hw', hget, hp⟩ hlegal
      obtain rfl := Option.some.inj hw'
      rw [hphase _ _ _ rfl hget] at hp
      obtain ⟨-, rfl⟩ := TurnPhase.raised.inj hp
      exact hlegal _ _ hrun current target rfl
    · intro hnot
      have hexc : ∃ current target, exc = .illegalPaymentTransition current target := by
        by_contra hne
        refine hnot (Tx.RaisesAt.of_error hrun fun current target heq => hne ⟨current, target, heq⟩)
      obtain ⟨current, target, rfl⟩ := hexc
      refine ⟨_, { turn with phase := .raised event.id (.illegalPaymentTransition current target) },
        event.id, current, target, rfl, ?_, rfl⟩
      exact List.getElem?_set_self hlen
  · have hlegal : Legal handler ⟨World.lockIntent w.db i, event, []⟩ := .of_ok hrun
    refine ⟨fun h => ?_, fun hnot => absurd hlegal hnot⟩
    obtain ⟨w', turn', eventId, current, target, hw', hget, hp⟩ := h
    dsimp only at hw'
    split at hw'
    · obtain rfl := Option.some.inj hw'
      have := hphase _ _ _ (by rfl) hget
      cases this.symm.trans hp
    · next exc _ hcommit =>
      obtain rfl := Option.some.inj hw'
      rw [hphase _ _ _ (by rfl) hget] at hp
      obtain ⟨-, rfl⟩ := TurnPhase.raised.inj hp
      exact absurd rfl (lawful_commitTurn env event t _ _ _ hcommit current target)
  · have hlegal : Legal handler ⟨World.lockIntent w.db i, event, []⟩ := .of_ok hrun
    refine ⟨fun h => ?_, fun hnot => absurd hlegal hnot⟩
    obtain ⟨w', turn', eventId, current, target, hw', hget, hp⟩ := h
    obtain rfl := Option.some.inj hw'
    rw [hphase _ _ _ rfl hget] at hp
    unfold World.fencingPhase at hp
    split at hp <;> cases hp

/-- A committed payment is settled, or may still be. -/
lemma PaymentExecutor.Committable.settledOrOpen (h : Committable env i) :
    i.state.isTerminal = true ∨ inProgress i.state ∧ i.state ≠ .processing := by
  obtain ⟨h₁, h₂, h₃⟩ := h.state
  cases hs : i.state <;> simp_all [PaymentIntentState.isTerminal, inProgress]

lemma not_isTerminal_of_inProgress {s : PaymentIntentState} (h : inProgress s) :
    s.isTerminal = false := by
  rcases h with rfl | rfl | rfl | rfl <;> rfl

lemma not_unstarted_of_isTerminal {s : PaymentIntentState} (h : s.isTerminal = true) :
    ¬unstarted s := by
  rintro (rfl | rfl) <;> cases h

section Handlers

variable {ctx : TurnContext} {t : Turn} (hc : Committable ctx.env t.work.intent)
  (hl : ∀ exc, ctx.lookup ≠ .raised exc) (hroute : ctx.provider = t.work.intent.provider)
  (hv : (verifyIntentAuthorizationBeforeProviderIo ctx).run t = (.ok (), t))

include hc hl

/-- The lookup of a reconcile turn asserts an illegal transition only for an unstarted payment of an
idempotent provider that has no payment for the key. -/
lemma reconcileLookup_legal_of_committable (hs : inProgress t.work.intent.state)
    (hf : t.work.intent.providerCreateFencedAt ≠ none ∨ ctx.idempotent = true) :
    Legal (reconcileLookup ctx) t ↔
      ¬(ctx.lookup = .notFound ∧ unstarted t.work.intent.state ∧ ctx.idempotent = true) := by
  rw [reconcileLookup_legal_iff hl hs, not_iff_not]
  constructor
  · rintro ⟨hnone, -, -, hfence, hun⟩
    exact ⟨hnone, hun, hfence.elim (fun h => hf.resolve_left (not_not.mpr h)) id⟩
  · rintro ⟨hnone, hun, hidem⟩
    exact ⟨hnone, hc.unmarked hun, (hc.unlinked hun).paymentId, .inr hidem, hun⟩

include hroute hv

lemma reconcileIntent_legal_of_committable : Legal (reconcileIntent ctx) t ↔
    ¬(ctx.lookup = .notFound ∧ unstarted t.work.intent.state ∧ ctx.idempotent = true) := by
  rw [reconcileIntent_legal_iff hroute hv]
  rcases hc.settledOrOpen with hterm | ⟨hs, -⟩
  · simp [hterm, not_unstarted_of_isTerminal hterm]
  have hterm := not_isTerminal_of_inProgress hs
  by_cases hlacks : lacksFence ctx t.work.intent = true
  · have hidem : ctx.idempotent = false := by
      simp [lacksFence] at hlacks
      exact hlacks.1
    simp [hlacks, hidem]
  · have hf : t.work.intent.providerCreateFencedAt ≠ none ∨ ctx.idempotent = true := by
      by_contra hnot
      obtain ⟨hnone, hidem⟩ := not_or.mp hnot
      exact hlacks (by simp [lacksFence, not_not.mp hnone, hidem])
    rw [reconcileLookup_legal_of_committable hc hl hs hf]
    simp [hterm, hlacks]

lemma reconcileIntentFenced_legal_of_committable
    (hf : t.work.intent.providerCreateFencedAt ≠ none) : Legal (reconcileIntentFenced ctx) t ↔
    ¬(ctx.lookup = .notFound ∧ unstarted t.work.intent.state ∧ ctx.idempotent = true) := by
  rw [reconcileIntentFenced_legal_iff hroute hv]
  rcases hc.settledOrOpen with hterm | ⟨hs, -⟩
  · simp [hterm, not_unstarted_of_isTerminal hterm]
  · rw [reconcileLookup_legal_of_committable hc hl hs (.inl hf)]
    simp [not_isTerminal_of_inProgress hs]

lemma dispatchCreateFenced_legal_of_committable (hcreate : ∀ exc, ctx.create ≠ .raised exc)
    (acquired : Bool) : Legal (dispatchCreateFenced ctx acquired) t ↔
    ¬(t.work.intent.state.isTerminal = true ∧ t.work.intent.providerCreateFencedAt ≠ none ∧
      ¬∃ payment, ctx.lookup = .found payment ∧ Valid ctx.env payment t.work.intent true ∧
        Linkable payment t.work.intent) := by
  rcases hc.settledOrOpen with hterm | ⟨hs, -⟩
  swap
  · simp [not_isTerminal_of_inProgress hs, dispatchCreateFenced_legal hl hcreate hs]
  by_cases hf : t.work.intent.providerCreateFencedAt = none
  · refine ⟨fun _ hnot => hnot.2.1 hf, fun _ => ?_⟩
    unfold dispatchCreateFenced
    rw [legal_bind_of_ok (run_validateProviderRoute hroute), legal_bind_of_ok (Tx.run_get t)]
    dsimp only
    rw [if_pos hf]
    exact Tx.Raises.raise nofun t
  · -- a settled payment carries no ambiguity mark
    have ha : t.work.intent.providerAmbiguityObservedAt = none := by
      by_contra hmark
      rw [hc.ambiguous hmark] at hterm
      cases hterm
    rw [dispatchCreateFenced_legal_iff hl hroute hv hf ha hterm]
    simp [hterm, hf]

end Handlers

/-- Processing an event in a reachable state, with any answer of the provider and with its authority
verified, ends with `IllegalPaymentTransition` exactly when the turn was overtaken. -/
theorem legal_unless_overtaken {actions : List Action} (h : World.exec env actions = some w)
    (hturn : w.turns[k]? = some turn) (hevent : turn.phase.processes = some event)
    (hi : w.db.getPaymentIntent event.paymentIntentId = some i)
    (hroute : turn.provider = i.provider)
    (hverified : ((verifyIntentAuthorizationBeforeProviderIo
      (World.contextOf env w.db turn lookup create)).run ⟨World.lockIntent w.db i, event, []⟩).1 =
        .ok ())
    (hlookup : ∀ exc, lookup ≠ .raised exc) (hcreate : ∀ exc, create ≠ .raised exc) :
    ¬w.RaisesIllegal env k lookup create ↔ ¬Overtaken env turn.phase event i lookup := by
  have hreach := exec_reachable h
  have hc : Committable env i := hreach.consistent.committable i (Table.mem_of_find hi)
  have hsound := hreach.inFlight.turns turn (List.mem_of_getElem? hturn)
  have hv : (verifyIntentAuthorizationBeforeProviderIo
      (World.contextOf env w.db turn lookup create)).run ⟨World.lockIntent w.db i, event, []⟩ =
      (.ok (), ⟨World.lockIntent w.db i, event, []⟩) :=
    Prod.ext hverified (verifyIntentAuthorizationBeforeProviderIo_state _ _)
  have hidem : (World.contextOf env w.db turn lookup create).idempotent =
      env.createRetriesAreIdempotent i.provider := by
    rw [TurnContext.idempotent, ← hroute]
    rfl
  cases hp : turn.phase with
  | loaded e =>
    rw [hp] at hevent
    obtain rfl := Option.some.inj hevent
    cases htype : e.eventType with
    | paymentCreateRequested =>
      -- a create turn at its start is never overtaken
      rw [raisesIllegal_iff (dispatchCreate (World.contextOf env w.db turn lookup create))
        hturn (by rw [hp]; simp [World.handlerOf, htype]) hi, not_not]
      have hlegal : Legal (dispatchCreate (World.contextOf env w.db turn lookup create))
          ⟨World.lockIntent w.db i, e, []⟩ :=
        dispatchCreate_legal hlookup hcreate (hc.settledOrOpen.imp_right And.left) fun hs =>
          absurd hs hc.state.2.1
      simp [hlegal, Overtaken, TurnPhase.reconciles, htype]
    | paymentReconcileRequested =>
      rw [raisesIllegal_iff (reconcileIntent (World.contextOf env w.db turn lookup create))
        hturn (by rw [hp]; simp [World.handlerOf, htype]) hi, not_not,
        reconcileIntent_legal_of_committable (by exact hc) (by exact hlookup) (by exact hroute) hv,
        hidem]
      simp [Overtaken, TurnPhase.reconciles, htype, World.contextOf, World.lockIntent]
  | fenced e acquired =>
    rw [hp] at hevent
    obtain rfl := Option.some.inj hevent
    rw [raisesIllegal_iff _ hturn (by rw [hp]; rfl) hi, not_not, legal_done_iff,
      dispatchCreateFenced_legal_of_committable (by exact hc) (by exact hlookup) (by exact hroute) hv
        (by exact hcreate)]
    simp [Overtaken, TurnPhase.reconciles, World.contextOf, World.lockIntent]
  | reconcileFenced e =>
    rw [hp] at hevent hsound
    obtain rfl := Option.some.inj hevent
    obtain ⟨-, j, hj, hfence⟩ := hsound
    obtain rfl := Option.some.inj (hi.symm.trans hj)
    rw [raisesIllegal_iff _ hturn (by rw [hp]; rfl) hi, not_not, legal_done_iff,
      reconcileIntentFenced_legal_of_committable (by exact hc) (by exact hlookup) (by exact hroute) hv
        hfence, hidem]
    simp [Overtaken, TurnPhase.reconciles, World.contextOf, World.lockIntent]
  | _ =>
    rw [hp] at hevent
    cases hevent

end Turns

-- ════════════════════════════════════════════════════════════════════════
-- Two reconcile events of one payment
-- ════════════════════════════════════════════════════════════════════════

namespace Sample

/-- A create call whose answer never arrives. -/
def timeout : CreateAnswer := .failed ⟨.timeout, "fake", "timed out"⟩

/-- Two turns handle one create event, since the lease of the first has run out. The later one is
told nothing, the earlier one finds the payment pending, and each leaves a reconcile event. A turn
for one of them finds no payment and makes the payment retryable; another holds the second. -/
def duplicated : List Action :=
  order "fake" ++ claim 0 "fake" ++
    [.startTurn "worker" "fake" 60 60, .claimPostgres 1 [], .loadEvent 1,
     .handle 1 .notFound timeout, .handle 0 .notFound timeout,
     .startTurn "worker" "fake" 60 60, .claimPostgres 2 [], .loadEvent 2,
     .startTurn "worker" "fake" 60 60, .claimPostgres 3 [], .loadEvent 3,
     .handle 2 .notFound timeout]

/-- The turn of the second reconcile event: its payment, route and authority are in order. -/
def holdsSecond (w : World) (turn : WorkerTurn) (event : OutboxEventRow) (i : PaymentIntentRow) :
    Bool :=
  decide (turn.provider = i.provider ∧ i.provider = "fake" ∧ i.state = .failedRetryable) &&
  match ((verifyIntentAuthorizationBeforeProviderIo
      (World.contextOf env w.db turn .notFound timeout)).run
      ⟨World.lockIntent w.db i, event, []⟩).1 with
  | .ok () => true
  | .error _ => false

/-- What the turn of the second reconcile event holds. -/
def second (w : World) : Option Bool := do
  let turn ← w.turns[3]?
  let event ← turn.phase.reconciles
  let i ← w.db.getPaymentIntent event.paymentIntentId
  pure (holdsSecond w turn event i)

/-- The transition that the turn of the second reconcile event asserts, if it is illegal. -/
def asserted (w : World) : Option (PaymentIntentState × PaymentIntentState) := do
  let w' ← World.step env w (.handle 3 .notFound timeout)
  let turn ← w'.turns[3]?
  match turn.phase with
  | .raised _ (.illegalPaymentTransition current target) => some (current, target)
  | _ => none

lemma duplicated_second : (World.exec env duplicated).map (fun w => (second w, asserted w)) =
    some (some true, some (.failedRetryable, .failedRetryable)) := by decide +kernel

lemma holdsSecond_iff {w : World} {turn : WorkerTurn} {event : OutboxEventRow}
    {i : PaymentIntentRow} (h : holdsSecond w turn event i = true) :
    turn.provider = i.provider ∧ i.provider = "fake" ∧ i.state = .failedRetryable ∧
      ((verifyIntentAuthorizationBeforeProviderIo
        (World.contextOf env w.db turn .notFound timeout)).run
        ⟨World.lockIntent w.db i, event, []⟩).1 = .ok () := by
  obtain ⟨hrow, hverified⟩ := Bool.and_eq_true_iff.mp h
  obtain ⟨hroute, hprov, hs⟩ := of_decide_eq_true hrow
  refine ⟨hroute, hprov, hs, ?_⟩
  split at hverified
  · next hok => exact hok
  · cases hverified

end Sample

/-- A claimed reconcile event, with route and authority in order, whose processing ends with an
illegal transition because another event moved the payment first. -/
theorem overtaken_reconcile_raises : ∃ w turn event i,
    World.exec Sample.env Sample.duplicated = some w ∧ w.turns[3]? = some turn ∧
    turn.phase.processes = some event ∧ w.db.getPaymentIntent event.paymentIntentId = some i ∧
    turn.provider = i.provider ∧
    ((verifyIntentAuthorizationBeforeProviderIo
      (World.contextOf Sample.env w.db turn .notFound Sample.timeout)).run
      ⟨World.lockIntent w.db i, event, []⟩).1 = .ok () ∧
    w.RaisesIllegal Sample.env 3 .notFound Sample.timeout := by
  obtain ⟨w, hw, hboth⟩ := Option.map_eq_some_iff.mp Sample.duplicated_second
  obtain ⟨hsecond, hasserted⟩ := Prod.mk.inj hboth
  obtain ⟨turn, hturn, hsecond⟩ := Option.bind_eq_some_iff.mp hsecond
  obtain ⟨event, hevent, hsecond⟩ := Option.bind_eq_some_iff.mp hsecond
  obtain ⟨i, hi, hsecond⟩ := Option.bind_eq_some_iff.mp hsecond
  obtain ⟨hroute, -, -, hverified⟩ := Sample.holdsSecond_iff (Option.some.inj hsecond)
  refine ⟨w, turn, event, i, hw, hturn, TurnPhase.processes_of_reconciles hevent, hi, hroute,
    hverified, ?_⟩
  obtain ⟨w', hstep, hasserted⟩ := Option.bind_eq_some_iff.mp hasserted
  obtain ⟨turn', hturn', hasserted⟩ := Option.bind_eq_some_iff.mp hasserted
  split at hasserted
  · next eventId current target hp => exact ⟨w', turn', eventId, current, target, hstep, hturn', hp⟩
  · cases hasserted

theorem legal_unless_overtaken_duplicated : ∃ w turn event i,
    World.exec Sample.env Sample.duplicated = some w ∧ w.turns[3]? = some turn ∧
    Overtaken Sample.env turn.phase event i .notFound ∧
    (¬w.RaisesIllegal Sample.env 3 .notFound Sample.timeout ↔
      ¬Overtaken Sample.env turn.phase event i .notFound) := by
  obtain ⟨w, hw, hboth⟩ := Option.map_eq_some_iff.mp Sample.duplicated_second
  obtain ⟨hsecond, -⟩ := Prod.mk.inj hboth
  obtain ⟨turn, hturn, hsecond⟩ := Option.bind_eq_some_iff.mp hsecond
  obtain ⟨event, hevent, hsecond⟩ := Option.bind_eq_some_iff.mp hsecond
  obtain ⟨i, hi, hsecond⟩ := Option.bind_eq_some_iff.mp hsecond
  obtain ⟨hroute, hprov, hs, hverified⟩ := Sample.holdsSecond_iff (Option.some.inj hsecond)
  refine ⟨w, turn, event, i, hw, hturn, .inl ⟨hevent, rfl, .inr hs, ?_⟩, ?_⟩
  · rw [hprov]
    decide
  · exact legal_unless_overtaken hw hturn (TurnPhase.processes_of_reconciles hevent) hi hroute
      hverified nofun nofun

end Pactra
