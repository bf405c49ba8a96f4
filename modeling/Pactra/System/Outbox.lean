import Pactra.PaymentExecutor.Effects.Outcomes
import Pactra.System.PaymentStates

/-!
# The outbox, over steps and runs

What can happen to one outbox row in a step: it is claimed, or a turn that holds a version of it
writes back the columns it changed. A turn may outlive its lease, so the version it holds may be
older than the row.

## Main results

- `step_outbox` — what a step does to an outbox row
- `no_stranded_payment` — a payment that is not settled has an event that is not finished
- `step_event` — the same for one event, which only a step that commits changes
- `finished_events_stay` — finished events stay finished, as long as no turn writes to one
-/

namespace Pactra

open PaymentExecutor

variable {env : Env} {actions : List Action} {w w' : World}

-- ════════════════════════════════════════════════════════════════════════
-- Steps
-- ════════════════════════════════════════════════════════════════════════

/-- The turn that an action lets write its event back. -/
def World.Action.writes : Action → Option Nat
  | .handle k _ _ | .recover k => some k
  | _ => none

/-- The version of its event that the turn of a writing action holds, and the row as it is. -/
def World.written (w : World) (action : Action) : Option (OutboxEventRow × OutboxEventRow) := do
  let k ← World.Action.writes action
  let turn ← w.turns[k]?
  let loaded ← turn.phase.holding
  let row ← w.db.getOutboxEvent loaded.id
  pure (loaded, row)

lemma written_eq {action : Action} {k : Nat} {turn : WorkerTurn} {loaded row : OutboxEventRow}
    (haction : World.Action.writes action = some k) (hturn : w.turns[k]? = some turn)
    (hholding : turn.phase.holding = some loaded) (hrow : w.db.getOutboxEvent loaded.id = some row) :
    w.written action = some (loaded, row) := by
  simp [World.written, haction, hturn, hholding, hrow]

/-- Whether a turn is over. -/
def TurnPhase.isEnded : TurnPhase → Bool
  | .ended => true
  | _ => false

/-- Whether a step commits what its turn writes: a handler may instead raise, or stop at a fence, and
then nothing of it is written. -/
def World.commits (env : Env) (w : World) : Action → Bool
  | .handle k lookup create =>
    match World.step env w (.handle k lookup create) with
    | none => false
    | some w' =>
      match w'.turns[k]? with
      | some turn => turn.phase.isEnded
      | none => false
  | _ => true

/-- The version that a turn writes back, and the row it writes to. -/
def World.writesBack (env : Env) (w : World) (action : Action) :
    Option (OutboxEventRow × OutboxEventRow) :=
  if w.commits env action then w.written action else none

lemma writesBack_eq {action : Action} {k : Nat} {turn : WorkerTurn} {loaded row : OutboxEventRow}
    (hcommits : w.commits env action = true) (haction : World.Action.writes action = some k)
    (hturn : w.turns[k]? = some turn) (hholding : turn.phase.holding = some loaded)
    (hrow : w.db.getOutboxEvent loaded.id = some row) :
    w.writesBack env action = some (loaded, row) := by
  rw [World.writesBack, if_pos hcommits, written_eq haction hturn hholding hrow]

/-- A handler that does not end its turn leaves the database as it was. -/
lemma handle_kept {k : Nat} {turn : WorkerTurn} {lookup : LookupAnswer} {create : CreateAnswer}
    (h : World.handleTurn env w k turn lookup create = some w') :
    w'.db = w.db ∨ w'.turns = w.turns.set k { turn with phase := .ended } := by
  unfold World.handleTurn at h
  split at h
  · cases h
  split at h
  · obtain rfl := Option.some.inj h
    exact .inl rfl
  split at h
  · dsimp only at h
    split at h
    · obtain rfl := Option.some.inj h
      exact .inr rfl
    · obtain rfl := Option.some.inj h
      exact .inl rfl
  · obtain rfl := Option.some.inj h
    exact .inl rfl
  · obtain rfl := Option.some.inj h
    exact .inl rfl

lemma db_of_not_commits {action : Action} (h : World.step env w action = some w')
    (hcommits : w.commits env action = false) : w'.db = w.db := by
  cases action with
  | handle k lookup create =>
    simp only [World.commits, h] at hcommits
    simp only [World.step] at h
    split at h
    · cases h
    next turn hturn =>
    rcases handle_kept h with hkept | hended
    · exact hkept
    · have hk : k < w.turns.length := (List.getElem?_eq_some_iff.mp hturn).1
      simp [hended, List.getElem?_set_self hk, TurnPhase.isEnded] at hcommits
  | _ => cases hcommits

/-- A version of an outbox row that a handler or a recovery made of another. -/
def Updated (now : Datetime) (loaded updated : OutboxEventRow) : Prop :=
  updated = completed now loaded ∨ ∃ reason, updated = rescheduled reason now loaded

/-- What a step can do to an outbox row. -/
inductive EventStep (w : World) (action : Action) (e : OutboxEventRow) : OutboxEventRow → Prop
  | kept : EventStep w action e e
  | claimed (k : Nat) (turn : WorkerTurn) (haction : World.Action.claims action = some k)
    (hturn : w.turns[k]? = some turn) (hdue : due turn.now e = true) :
    EventStep w action e (claimedRow turn.workerId (turn.now + turn.lease) e)
  | written (k : Nat) (turn : WorkerTurn) (loaded updated : OutboxEventRow)
    (haction : World.Action.writes action = some k) (hturn : w.turns[k]? = some turn)
    (hholding : turn.phase.holding = some loaded) (hid : loaded.id = e.id)
    (hupdated : Updated turn.now loaded updated) : EventStep w action e (flushEvent loaded updated e)

/-- A row as it is enqueued. -/
def Fresh (e : OutboxEventRow) : Prop :=
  e.status = .pending ∧ e.attempts = 0 ∧ e.maxAttempts = defaultMaxAttempts

lemma Enqueued.fresh {intentId : Uuid} {e : OutboxEventRow} {new : NewOutboxEvent}
    (h : Enqueued intentId e new) : Fresh e := by
  obtain ⟨id, createdAt, rfl⟩ := h
  exact ⟨rfl, rfl, rfl⟩

lemma Handled.leaves {ctx : TurnContext} {p : TurnPhase} {u u' : UnitOfWork} {e e' : OutboxEventRow}
    (h : Handled ctx p u e u' e') : Leaves ctx.now u' e e' := by
  cases h with
  | create h => exact h.leaves
  | reconcile _ h => exact h.leaves

lemma PaymentExecutor.Leaves.updated {now : Datetime} {u : UnitOfWork} {e e' : OutboxEventRow}
    (h : Leaves now u e e') : Updated now e e' := by
  rcases h with h | ⟨h, -⟩
  · exact .inr h
  · exact .inl h

/-- A table in which one row may have been written, and to which new rows may have been added. -/
structure OutboxChange (w : World) (action : Action) (before after : List OutboxEventRow) : Prop where
  old : ∀ id e, Table.find OutboxEventRow.id id before = some e →
    ∃ e', Table.find OutboxEventRow.id id after = some e' ∧ EventStep w action e e'
  new : ∀ e ∈ after, Table.find OutboxEventRow.id e.id before = none → Fresh e

lemma OutboxChange.refl (action : Action) (rows : List OutboxEventRow) (hk : Table.Keyed OutboxEventRow.id rows) :
    OutboxChange w action rows rows := by
  refine ⟨fun id e he => ⟨e, he, .kept⟩, fun e he hnone => ?_⟩
  cases ((Table.mem_iff_find hk).mp he).symm.trans hnone

lemma OutboxChange.update {action : Action} {rows : List OutboxEventRow}
    (hk : Table.Keyed OutboxEventRow.id rows) {id : Uuid} {f : OutboxEventRow → OutboxEventRow}
    (hf : ∀ e, (f e).id = e.id)
    (h : ∀ e, Table.find OutboxEventRow.id id rows = some e → EventStep w action e (f e)) :
    OutboxChange w action rows (Table.update OutboxEventRow.id id f rows) := by
  refine ⟨fun id' e he => ?_, fun e' he' hnone => ?_⟩
  · rw [Table.find_update (fun x hx => (hf x).trans hx)]
    split
    · next heq =>
      subst heq
      rw [he]
      exact ⟨f e, rfl, h e he⟩
    · exact ⟨e, he, .kept⟩
  · obtain ⟨e, hmem, rfl⟩ := Table.mem_update.mp he'
    have hid : (if e.id = id then f e else e).id = e.id := by
      split
      · exact hf e
      · rfl
    rw [hid] at hnone
    cases ((Table.mem_iff_find hk).mp hmem).symm.trans hnone

lemma OutboxChange.enqueues {action : Action} {before rows after : List OutboxEventRow}
    (h : OutboxChange w action before rows) {intentId : Uuid} {news : List NewOutboxEvent}
    (henq : Enqueues intentId news rows after) : OutboxChange w action before after := by
  refine ⟨fun id e he => ?_, fun e he hnone => ?_⟩
  · obtain ⟨e', he', hstep⟩ := h.old id e he
    obtain ⟨new, -, rfl⟩ := henq.rows
    exact ⟨e', by rw [Table.find_append, he']; rfl, hstep⟩
  · rcases henq.mem he with he | ⟨new, -, hnew⟩
    · exact h.new e he hnone
    · exact hnew.fresh

/-- What a change does to the outbox. -/
lemma Change.outbox (hc : Consistent env w.db) {action : Action} {db' : Db}
    (h : Change env w action db') : OutboxChange w action w.db.outboxEvents db'.outboxEvents := by
  have hsame : ∀ {rows}, rows = w.db.outboxEvents →
      OutboxChange w action w.db.outboxEvents rows := by
    rintro rows rfl
    exact .refl action _ hc.outboxEvents
  cases h with
  | kept => exact hsame rfl
  | planned _ _ _ h =>
    obtain ⟨d, hplanning, -⟩ := h
    exact hsame hplanning.outboxEvents
  | aftermath _ _ h =>
    cases h with
    | kept => exact hsame rfl
    | recorded _ _ _ _ _ happ => exact hsame happ.rows.outboxEvents
    | ended _ _ _ _ _ _ _ _ happ => exact hsame happ.rows.outboxEvents
  | activated _ _ _ _ _ _ _ _ _ happ => exact hsame happ.rows.outboxEvents
  | created _ _ _ _ _ _ h => exact (hsame rfl).enqueues h.outboxEvents
  | reused _ _ _ _ _ _ _ happ => exact hsame happ.rows.outboxEvents
  | claimed _ k turn row haction hturn hrow hdue =>
    refine .update hc.outboxEvents (fun _ => rfl) fun e he => ?_
    obtain rfl := Option.some.inj (hrow.symm.trans he)
    exact .claimed k turn haction hturn hdue
  | recovered k turn event exc hturn hphase =>
    refine .update hc.outboxEvents (fun _ => rfl) fun e he => ?_
    exact .written k turn event _ rfl hturn (by rw [hphase]; rfl) (Table.key_of_find he).symm
      (.inr ⟨_, rfl⟩)
  | fenced => exact hsame rfl
  | handled k lookup create turn event i t _ hturn hholding _ _ _ h _ henq =>
    have hwritten : OutboxChange w (.handle k lookup create) w.db.outboxEvents
        (Table.update OutboxEventRow.id event.id (flushEvent event t.event) w.db.outboxEvents) := by
      refine .update hc.outboxEvents (fun _ => rfl) fun e he => ?_
      exact .written k turn event _ rfl hturn hholding (Table.key_of_find he).symm h.leaves.updated
    exact hwritten.enqueues henq
  | delivered _ _ _ _ _ _ _ _ _ _ henq => exact (hsame rfl).enqueues henq

/-- What a step does to the outbox. -/
theorem step_outbox (hreach : Reachable env w) {action : Action}
    (h : World.step env w action = some w') :
    OutboxChange w action w.db.outboxEvents w'.db.outboxEvents :=
  (step_change hreach.consistent hreach.inFlight h).outbox hreach.consistent

/-- What a step does to one event, which it leaves alone unless it commits. -/
lemma step_event (hreach : Reachable env w) {action : Action}
    (h : World.step env w action = some w') {id : Uuid} {e : OutboxEventRow}
    (he : w.db.getOutboxEvent id = some e) :
    ∃ e', w'.db.getOutboxEvent id = some e' ∧
      (e' = e ∨ w.commits env action = true ∧ EventStep w action e e') := by
  cases hcommits : w.commits env action with
  | false => exact ⟨e, (db_of_not_commits h hcommits).symm ▸ he, .inl rfl⟩
  | true =>
    obtain ⟨e', he', hevent⟩ := (step_outbox hreach h).old id e he
    exact ⟨e', he', .inr ⟨rfl, hevent⟩⟩

-- ════════════════════════════════════════════════════════════════════════
-- Finished events
-- ════════════════════════════════════════════════════════════════════════

/-- An event that is done with: PROCESSED, or FAILED. -/
def OutboxEventRow.IsFinished (e : OutboxEventRow) : Prop :=
  e.status = .processed ∨ e.status = .failed

instance (e : OutboxEventRow) : Decidable e.IsFinished := by
  unfold OutboxEventRow.IsFinished
  infer_instance

/-- A turn that writes its event back finds the row unfinished. -/
def FindsUnfinished (env : Env) (w : World) (action : Action) : Prop :=
  ∀ held ∈ w.writesBack env action, ¬held.2.IsFinished

instance (w : World) (action : Action) : Decidable (FindsUnfinished env w action) := by
  unfold FindsUnfinished
  infer_instance

/-- A finished event stays as it is in a step whose turn finds its own event unfinished. -/
lemma EventStep.finished {action : Action} {e e' : OutboxEventRow} (h : EventStep w action e e')
    (hcommits : w.commits env action = true) (he : w.db.getOutboxEvent e.id = some e)
    (hguard : FindsUnfinished env w action) (hfinished : e.IsFinished) : e'.status = e.status := by
  cases h with
  | kept => rfl
  | claimed k turn _ _ hdue =>
    rcases (due_iff.mp hdue).1 with hs | hs <;> rcases hfinished with hf | hf <;>
      cases hs.symm.trans hf
  | written k turn loaded updated haction hturn hholding hid =>
    exact absurd hfinished (hguard _ (writesBack_eq hcommits haction hturn hholding (by rwa [hid])))

/-- A finished outbox event stays finished in every later committed state, in every run in which
no turn writes to an event that was finished since its lease lapsed. -/
theorem finished_events_stay (h : World.exec env actions = some w) {more : List Action}
    (hrun : Runs.run (World.step env) w more = some w')
    (hguard : Runs.Along (World.step env) (FindsUnfinished env) w more) :
    ∀ e ∈ w.db.outboxEvents, e.status = .processed ∨ e.status = .failed →
      ∃ e' ∈ w'.db.outboxEvents, e'.id = e.id ∧ e'.status = e.status := by
  intro e he hfinished
  have hreach := exec_reachable h
  have hget := (Table.mem_iff_find hreach.consistent.outboxEvents).mp he
  have hstays : Reachable env w' ∧ ∃ e', w'.db.getOutboxEvent e.id = some e' ∧ e'.status = e.status := by
    refine Runs.invariant_along (I := fun v : World => Reachable env v ∧
      ∃ e', v.db.getOutboxEvent e.id = some e' ∧ e'.status = e.status) ?_ ⟨hreach, e, hget, rfl⟩
      hguard hrun
    intro v action v' ⟨hv, e₁, he₁, hsame⟩ hg hs
    obtain ⟨e₂, he₂, hkept | ⟨hcommits, hevent⟩⟩ := step_event hv hs he₁
    · exact ⟨(hv.step hs).1, e₂, he₂, hkept ▸ hsame⟩
    have hid : e₁.id = e.id := Table.key_of_find he₁
    have hfinished₁ : e₁.IsFinished := by
      unfold OutboxEventRow.IsFinished
      rwa [hsame]
    exact ⟨(hv.step hs).1, e₂, he₂,
      (hevent.finished hcommits (by rwa [hid]) hg hfinished₁).trans hsame⟩
  obtain ⟨-, e', he', hsame⟩ := hstays
  exact ⟨e', Table.mem_of_find he', Table.key_of_find he', hsame⟩

/-- An order whose create times out, and the lookup that settles it. -/
def Sample.timedOut : List Action :=
  Sample.order "fake" ++ Sample.claim 0 "fake" ++
    [.handle 0 .notFound (.failed ⟨.timeout, "fake", "timed out"⟩)]

def Sample.reconciled : List Action :=
  Sample.claim 1 "fake" ++
    [.handle 1 (.found (Sample.payment "fake" "pay_1" .succeeded Sample.pay_1_ne))
      (.raised .integrityError)]

lemma Sample.timedOut_events : ((World.exec Sample.env Sample.timedOut).map fun w =>
    (w.db.outboxEvents.map OutboxEventRow.status,
      decide (Runs.Along (World.step Sample.env) (FindsUnfinished Sample.env) w Sample.reconciled),
      (Runs.run (World.step Sample.env) w Sample.reconciled).map fun w' =>
        w'.db.outboxEvents.map OutboxEventRow.status)) =
    some ([.processed, .pending], true, some [.processed, .processed]) := by decide +kernel

theorem finished_events_stay_reconciled :
    ∃ w w', World.exec Sample.env Sample.timedOut = some w ∧
      Runs.run (World.step Sample.env) w Sample.reconciled = some w' ∧
      w.db.outboxEvents.map OutboxEventRow.status = [.processed, .pending] ∧
      ∀ e ∈ w.db.outboxEvents, e.status = .processed ∨ e.status = .failed →
        ∃ e' ∈ w'.db.outboxEvents, e'.id = e.id ∧ e'.status = e.status := by
  obtain ⟨w, hw, hw'⟩ := Option.map_eq_some_iff.mp Sample.timedOut_events
  obtain ⟨hstatus, halong, hlater⟩ : w.db.outboxEvents.map OutboxEventRow.status = [.processed, .pending] ∧
      Runs.Along (World.step Sample.env) (FindsUnfinished Sample.env) w Sample.reconciled ∧
      ∃ w', Runs.run (World.step Sample.env) w Sample.reconciled = some w' := by
    simp only [Prod.mk.injEq, decide_eq_true_eq, Option.map_eq_some_iff] at hw'
    exact ⟨hw'.1, hw'.2.1, hw'.2.2.imp fun _ h => h.1⟩
  obtain ⟨w', hrun⟩ := hlater
  exact ⟨w, w', hw, hrun, hstatus, finished_events_stay hw hrun halong⟩

/-- A worker whose handler raised is slow to recover; meanwhile its lease lapses and another worker
finishes the event. -/
def Sample.overtaken : List Action :=
  Sample.order "fake" ++ Sample.claim 0 "fake" ++
    [.handle 0 (.raised .integrityError) (.raised .integrityError),
     .startTurn "other" "fake" 60 60, .claimPostgres 1 [], .loadEvent 1,
     .handle 1 .notFound (.payment (Sample.payment "fake" "pay_1" .succeeded Sample.pay_1_ne))]

/-- The recovery of the first worker puts the finished event back into the queue. -/
theorem finished_event_reopened : ((World.exec Sample.env Sample.overtaken).map fun w =>
    (w.db.outboxEvents.map OutboxEventRow.status,
      (Runs.run (World.step Sample.env) w [.loadStale 0, .recover 0]).map fun w' =>
        w'.db.outboxEvents.map OutboxEventRow.status)) =
    some ([.processed], some [.pending]) := by decide +kernel

-- ════════════════════════════════════════════════════════════════════════
-- Stranded payments
-- ════════════════════════════════════════════════════════════════════════

/-- An intent has an event that is not processed. -/
def Live (rows : List OutboxEventRow) (id : Uuid) : Prop :=
  ∃ e ∈ rows, e.paymentIntentId = id ∧ e.status ≠ .processed

/-- Every payment that is not settled has a live event. -/
def NotStranded (db : Db) : Prop :=
  ∀ i ∈ db.paymentIntents, i.state.isTerminal = false → Live db.outboxEvents i.id

lemma Live.update {rows : List OutboxEventRow} {id eventId : Uuid} (h : Live rows id)
    {f : OutboxEventRow → OutboxEventRow} (hid : ∀ e, (f e).paymentIntentId = e.paymentIntentId)
    (hf : ∀ e ∈ rows, e.id = eventId → e.paymentIntentId = id → e.status ≠ .processed →
      (f e).status ≠ .processed) :
    Live (Table.update OutboxEventRow.id eventId f rows) id := by
  obtain ⟨e, he, hie, hs⟩ := h
  refine ⟨if e.id = eventId then f e else e, Table.mem_update.mpr ⟨e, he, rfl⟩, ?_, ?_⟩
  · split
    · rw [hid, hie]
    · exact hie
  · split
    · next heq => exact hf e he heq hie hs
    · exact hs

lemma Live.enqueues {before after : List OutboxEventRow} {id intentId : Uuid}
    {news : List NewOutboxEvent} (h : Live before id) (henq : Enqueues intentId news before after) :
    Live after id := by
  obtain ⟨e, he, hlive⟩ := h
  obtain ⟨rows, -, rfl⟩ := henq.rows
  exact ⟨e, List.mem_append_left _ he, hlive⟩

/-- An enqueued event is live. -/
lemma Enqueues.live {before after : List OutboxEventRow} {intentId : Uuid}
    {news : List NewOutboxEvent} (henq : Enqueues intentId news before after) (hne : news ≠ []) :
    Live after intentId := by
  obtain ⟨rows, hrows, rfl⟩ := henq.rows
  cases hrows with
  | nil => exact absurd rfl hne
  | cons hx _ =>
    obtain ⟨id, createdAt, rfl⟩ := hx
    exact ⟨_, List.mem_append_right _ List.mem_cons_self, rfl, by simp [outboxRow]⟩

/-- An event that was put back is live. -/
lemma flush_rescheduled_live (reason : String) (now : Datetime) (loaded : OutboxEventRow)
    {e : OutboxEventRow} (h : e.status ≠ .processed) :
    (flushEvent loaded (rescheduled reason now loaded) e).status ≠ .processed := by
  show changedColumn _ _ _ ≠ _
  unfold changedColumn
  split
  · exact h
  · rw [rescheduled_status]
    split <;> simp

/-- A change keeps every open payment attended to. -/
lemma Change.notStranded (hc : Consistent env w.db) {action : Action} {db' : Db}
    (h : Change env w action db') (hn : NotStranded w.db) : NotStranded db' := by
  have hsame : ∀ {db₁ : Db}, db₁.paymentIntents = w.db.paymentIntents →
      db₁.outboxEvents = w.db.outboxEvents → NotStranded db₁ := by
    intro db₁ hintents hevents i hi
    rw [hevents]
    exact hn i (hintents ▸ hi)
  cases h with
  | kept => exact hn
  | planned _ _ _ h =>
    obtain ⟨d, hplanning, -⟩ := h
    exact hsame hplanning.paymentIntents hplanning.outboxEvents
  | aftermath _ _ h =>
    cases h with
    | kept => exact hn
    | recorded _ _ _ _ _ happ => exact hsame happ.rows.paymentIntents happ.rows.outboxEvents
    | ended _ _ _ _ _ _ _ _ happ => exact hsame happ.rows.paymentIntents happ.rows.outboxEvents
  | activated _ _ _ _ _ _ _ _ _ happ => exact hsame happ.rows.paymentIntents happ.rows.outboxEvents
  | reused _ _ _ _ _ _ _ happ => exact hsame happ.rows.paymentIntents happ.rows.outboxEvents
  | created _ _ _ intent _ _ h =>
    intro i hi hopen
    rw [h.paymentIntents] at hi
    rcases List.mem_append.mp hi with hi | hi
    · exact (hn i hi hopen).enqueues h.outboxEvents
    · rw [List.mem_singleton.mp hi]
      exact h.outboxEvents.live (by simp)
  | claimed =>
    intro i hi hopen
    exact (hn i hi hopen).update (fun _ => rfl) fun _ _ _ _ _ => by simp [claimedRow]
  | recovered =>
    intro i hi hopen
    exact (hn i hi hopen).update (fun _ => rfl) fun _ _ _ _ hs => flush_rescheduled_live _ _ _ hs
  | fenced k i fence hi =>
    intro j hj hopen
    obtain ⟨x, hx, rfl⟩ := Table.mem_update.mp hj
    by_cases hid : x.id = i.id
    · rw [if_pos hid] at hopen ⊢
      exact hn i (Table.mem_of_find hi) hopen
    · rw [if_neg hid] at hopen ⊢
      exact hn x hx hopen
  | handled k lookup create turn event i t _ _ _ hevent hi hprov h hcommit henq =>
    intro j hj hopen
    rw [hcommit.paymentIntents] at hj
    have hmoves := (h.moves (hc.committable i (Table.mem_of_find hi)) hprov).2
    have hid : t.work.intent.id = i.id := PaymentIntentRow.id_of_terms hmoves.terms
    have hkey : i.id = event.paymentIntentId := Table.key_of_find hi
    obtain ⟨x, hx, rfl⟩ := Table.mem_update.mp hj
    by_cases hown : x.id = t.work.intent.id
    · -- the intent of the turn: its event was put back, or a follow-up was queued
      rw [if_pos hown] at hopen ⊢
      rcases h.leaves with ⟨reason, heq⟩ | ⟨-, hterm | hqueued⟩
      · refine Live.enqueues ?_ henq
        rw [hid]
        have hlive := hn i (Table.mem_of_find hi) (hmoves.wasOpen hopen)
        refine hlive.update (fun _ => rfl) fun _ _ _ _ hs => ?_
        rw [heq]
        exact flush_rescheduled_live _ _ _ hs
      · cases hterm.symm.trans hopen
      · exact henq.live hqueued
    · rw [if_neg hown] at hopen ⊢
      refine Live.enqueues ?_ henq
      refine (hn x hx hopen).update (fun _ => rfl) fun e he heid hie _ => ?_
      -- the event of the turn belongs to another intent
      obtain ⟨e', he', hterms⟩ := hevent
      have hsame : e = e' := by
        refine hc.outboxEvents.eq_of_key he (Table.mem_of_find he') ?_
        rw [heid, Table.key_of_find he']
      rw [hsame, OutboxEventRow.paymentIntentId_of_terms hterms, ← hkey, ← hid] at hie
      exact absurd hie.symm hown
  | delivered _ event _ i u _ _ hi h hcommit henq =>
    intro j hj hopen
    have hmem := List.mem_of_find?_eq_some hi
    have hnamed : i.provider = event.provider ∧ i.providerPaymentId = some event.providerPaymentId := by
      simpa using List.find?_some hi
    obtain ⟨-, hmoves⟩ := h.moves (hc.committable i hmem) hnamed.2
    rw [hcommit.paymentIntents] at hj
    obtain ⟨x, hx, rfl⟩ := Table.mem_update.mp hj
    by_cases hown : x.id = u.intent.id
    · rw [if_pos hown] at hopen ⊢
      refine Live.enqueues ?_ henq
      rw [PaymentIntentRow.id_of_terms hmoves.terms]
      exact hn i hmem (hmoves.wasOpen hopen)
    · rw [if_neg hown] at hopen ⊢
      exact (hn x hx hopen).enqueues henq

/-- In every committed state, every intent that is not in a terminal state has an outbox event that
is PENDING, IN_PROGRESS or FAILED. -/
theorem no_stranded_payment (h : World.exec env actions = some w) :
    ∀ i ∈ w.db.paymentIntents, i.state.isTerminal = false →
      ∃ e ∈ w.db.outboxEvents, e.paymentIntentId = i.id ∧
        (e.status = .pending ∨ e.status = .inProgress ∨ e.status = .failed) := by
  have hnot : Reachable env w ∧ NotStranded w.db := by
    refine Runs.invariant (I := fun w : World => Reachable env w ∧ NotStranded w.db) ?_
      ⟨reachable_init env, fun i hi => by cases hi⟩ h
    intro v action v' ⟨hreach, hn⟩ hs
    exact ⟨(hreach.step hs).1,
      (step_change hreach.consistent hreach.inFlight hs).notStranded hreach.consistent hn⟩
  intro i hi hopen
  obtain ⟨e, he, hie, hs⟩ := hnot.2 i hi hopen
  refine ⟨e, he, hie, ?_⟩
  revert hs
  cases e.status <;> simp

theorem no_stranded_payment_timedOut : ∃ w, World.exec Sample.env Sample.timedOut = some w ∧
    ∀ i ∈ w.db.paymentIntents, i.state.isTerminal = false →
      ∃ e ∈ w.db.outboxEvents, e.paymentIntentId = i.id ∧
        (e.status = .pending ∨ e.status = .inProgress ∨ e.status = .failed) := by
  obtain ⟨w, hw, -⟩ := Option.map_eq_some_iff.mp Sample.timedOut_events
  exact ⟨w, hw, no_stranded_payment hw⟩

end Pactra
