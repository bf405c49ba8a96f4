import Pactra.PaymentExecutor.Effects.DeadLetters
import Pactra.System.Columns

/-!
# Dead letters, over runs

An outbox row that was given up is `FAILED`, and the audit chain of its mission is meant to say so.
A step that records dead letters extends one chain and writes one row; the other steps do neither.

## Main results

- `replay_flags_dead_letters` — replay flags a mission exactly when its chain has a dead letter
- `dead_letters_audited` — a row is given up exactly when its mission's chain says so, unless a turn
  gave up silently, or worked on an event that had been given up
- `silent_recovery_buries` — then it is not
-/

namespace Pactra

open PaymentExecutor Replay

variable {env : Env} {actions : List Action} {w w' : World} {db db' : Db}

-- ════════════════════════════════════════════════════════════════════════
-- Letters of a chain
-- ════════════════════════════════════════════════════════════════════════

/-- An audit event records that an outbox event was given up. -/
def AuditEventRow.DeadLetters (row : AuditEventRow) (id : Uuid) : Prop :=
  row.eventType = EventType.outboxEventDeadLettered.value ∧
    payloadGet row "outbox_event_id" = some (.str id.str)

/-- The audit chain of a mission records that an outbox event was given up. -/
def Db.DeadLettered (db : Db) (missionId id : Uuid) : Prop :=
  ∃ row ∈ db.chain missionId, row.DeadLetters id

lemma AuditEventRow.DeadLetters.unique {row : AuditEventRow} {id id' : Uuid}
    (h : row.DeadLetters id) (h' : row.DeadLetters id') : id = id' := by
  have hstr := h.2.symm.trans h'.2
  simp only [Option.some.injEq, Json.str.injEq] at hstr
  exact Uuid.str_injective hstr

lemma AuditEventRow.Records.type_iff {row : AuditEventRow} {entry : AuditEntry}
    (h : AuditEventRow.Records row entry) (t : EventType) :
    row.eventType = t.value ↔ entry.eventType = t := by
  rw [h.1, EventType.value_injective.eq_iff]

lemma AuditEventRow.Records.deadLetters_iff {row : AuditEventRow} {entry : AuditEntry}
    (h : AuditEventRow.Records row entry) (id : Uuid) :
    row.DeadLetters id ↔ entry.DeadLetters id := by
  unfold AuditEventRow.DeadLetters AuditEntry.DeadLetters
  rw [h.type_iff]
  refine and_congr_right fun _ => ?_
  unfold payloadGet
  rw [h.2]
  dsimp only
  split
  · next hget => simp [hget]
  · rfl

/-- What rows that record entries have in common with them. -/
lemma exists_records {new : List AuditEventRow} {entries : List AuditEntry}
    (h : List.Forall₂ AuditEventRow.Records new entries) {p : AuditEventRow → Prop}
    {q : AuditEntry → Prop} (hpq : ∀ row entry, AuditEventRow.Records row entry → (p row ↔ q entry)) :
    (∃ row ∈ new, p row) ↔ ∃ entry ∈ entries, q entry := by
  induction h with
  | nil => simp
  | cons hrow _ ih => rw [List.exists_mem_cons_iff, List.exists_mem_cons_iff, ih, hpq _ _ hrow]

lemma mem_records {new : List AuditEventRow} {entries : List AuditEntry}
    (h : List.Forall₂ AuditEventRow.Records new entries) {row : AuditEventRow} (hrow : row ∈ new) :
    ∃ entry ∈ entries, AuditEventRow.Records row entry := by
  induction h with
  | nil => cases hrow
  | @cons r entry new entries hr _ ih =>
    rcases List.mem_cons.mp hrow with rfl | hrow
    · exact ⟨entry, List.mem_cons_self, hr⟩
    · obtain ⟨entry', hentry', hrecords⟩ := ih hrow
      exact ⟨entry', List.mem_cons_of_mem _ hentry', hrecords⟩

/-- What a chain has after some entries were recorded. -/
lemma Recorded.exists_iff {missionId : Uuid} {entries : List AuditEntry}
    (h : Recorded missionId entries db db') {p : AuditEventRow → Prop} {q : AuditEntry → Prop}
    (hpq : ∀ row entry, AuditEventRow.Records row entry → (p row ↔ q entry)) (m : Uuid) :
    (∃ row ∈ db'.chain m, p row) ↔
      (∃ row ∈ db.chain m, p row) ∨ missionId = m ∧ ∃ entry ∈ entries, q entry := by
  obtain ⟨new, hrec, hchain⟩ := h.chain
  rw [hchain m]
  by_cases hm : missionId = m
  · rw [if_pos hm, ← exists_records hrec hpq]
    simp only [hm, List.mem_append, or_and_right, exists_or, true_and]
  · simp [hm]

lemma Recorded.deadLettered_iff {missionId : Uuid} {entries : List AuditEntry}
    (h : Recorded missionId entries db db') (m id : Uuid) :
    db'.DeadLettered m id ↔
      db.DeadLettered m id ∨ missionId = m ∧ ∃ entry ∈ entries, entry.DeadLetters id :=
  h.exists_iff (fun _ _ hrow => hrow.deadLetters_iff id) m

/-- A step other than a handler records no dead letter. -/
lemma Recount.quiet {action : Action} {p p' : Persisted} {entries : List AuditEntry}
    (h : Recount env w action p entries p')
    (hnot : ∀ k lookup create, action ≠ .handle k lookup create) :
    ∀ e ∈ entries, e.eventType ≠ .outboxEventDeadLettered := by
  cases h with
  | untouched | fenced => simp
  | repeated m a payment entry hentry =>
    refine quiet_of_flag (v := View.init.authorized (some a.status.value)) ?_
    rw [List.foldl_cons, List.foldl_nil, hentry.2 _ rfl]
    rfl
  | planned m a _ _ hview =>
    refine quiet_of_flag (v := View.init) ?_
    rw [hview]
    rfl
  | ended m a payment status entry _ _ hentry =>
    refine quiet_of_flag (v := View.init) ?_
    rw [List.foldl_cons, List.foldl_nil, hentry.2]
    rfl
  | activated m a a' payment entry _ _ _ hentry =>
    refine quiet_of_flag (v := View.init) ?_
    rw [List.foldl_cons, List.foldl_nil, hentry.2]
    rfl
  | created m a a' i _ _ _ _ _ _ _ hview =>
    refine quiet_of_flag (v := View.init) ?_
    rw [hview]
    rfl
  | reused => simp [reusedEntry]
  | handled k lookup create _ _ _ _ _ _ haction => exact absurd haction (hnot k lookup create)
  | delivered _ _ _ _ _ _ _ _ _ _ _ hd => exact hd.quiet fun _ he => by cases he

-- ════════════════════════════════════════════════════════════════════════
-- The flag of replay
-- ════════════════════════════════════════════════════════════════════════

/-- Replay of every chain succeeds, and flags a dead letter exactly when the chain has one. -/
structure Flagged (env : Env) (w : World) : Prop where
  reachable : Reachable env w
  sequenced : w.db.Sequenced
  flag : ∀ m, ∃ v, ViewOf env w.db m v ∧ (v.deadLettered = true ↔
    ∃ row ∈ w.db.chain m, row.eventType = EventType.outboxEventDeadLettered.value)

lemma Flagged.step (h : Flagged env w) {action : Action} (hstep : World.step env w action = some w') :
    Flagged env w' := by
  have hchange := step_change h.reachable.consistent h.reachable.inFlight hstep
  obtain ⟨missionId, entries, hrec, hread, -⟩ := hchange.recounts h.reachable.consistent
  refine ⟨(h.reachable.step hstep).1, hrec.sequenced h.sequenced, fun m => ?_⟩
  obtain ⟨v, hview, hflag⟩ := h.flag m
  refine ⟨_, hview.recorded h.sequenced hrec hread, ?_⟩
  rw [hrec.exists_iff (fun _ _ hrow => hrow.type_iff _), ← hflag]
  by_cases hm : missionId = m
  · rw [if_pos hm, foldl_deadLettered]
    simp [hm]
  · simp [hm]

/-- In every committed state of every run replay of a mission's chain succeeds, and flags a dead letter
exactly when the chain has one. -/
theorem replay_flags_dead_letters (h : World.exec env actions = some w) (m : Uuid) :
    ∃ s, reduceEvents env (w.db.chain m) = .ok s ∧ (s.payment.deadLettered = true ↔
      ∃ row ∈ w.db.chain m, row.eventType = EventType.outboxEventDeadLettered.value) := by
  have hinit : Flagged env World.init := ⟨reachable_init env, fun _ => List.Pairwise.nil,
    fun m => ⟨View.init, ⟨{}, rfl, rfl⟩, by simp [World.init, Db.chain, Db.empty, View.init, view]⟩⟩
  have hflagged : Flagged env w := Runs.invariant (fun _ _ _ hv hs => hv.step hs) hinit h
  obtain ⟨v, ⟨s, hs, rfl⟩, hflag⟩ := hflagged.flag m
  exact ⟨s, hs, hflag⟩

-- ════════════════════════════════════════════════════════════════════════
-- Rows and letters
-- ════════════════════════════════════════════════════════════════════════

/-- A row is given up exactly when the chain of its mission says so, and the chains say it of rows
only. -/
structure Lettered (db : Db) : Prop where
  failed : ∀ e ∈ db.outboxEvents, ∀ i, db.getPaymentIntent e.paymentIntentId = some i →
    (e.status = .failed ↔ db.DeadLettered i.missionId e.id)
  known : ∀ m, ∀ row ∈ db.chain m, row.eventType = EventType.outboxEventDeadLettered.value →
    ∃ e ∈ db.outboxEvents, ∃ i, db.getPaymentIntent e.paymentIntentId = some i ∧
      i.missionId = m ∧ row.DeadLetters e.id

/-- What keeps the rows and the letters together, when entries are recorded for one mission. -/
lemma Lettered.recorded (h : Lettered db) (hc : Consistent env db) (hc' : Consistent env db')
    (hg : Grows db db') {missionId : Uuid} {entries : List AuditEntry}
    (hrec : Recorded missionId entries db db')
    (hnew : ∀ e ∈ db'.outboxEvents, db.getOutboxEvent e.id = none → e.status ≠ .failed)
    (hold : ∀ e e' i, db.getOutboxEvent e.id = some e → db'.getOutboxEvent e.id = some e' →
      db.getPaymentIntent e.paymentIntentId = some i → (e'.status = .failed ↔ e.status = .failed ∨
        missionId = i.missionId ∧ ∃ entry ∈ entries, entry.DeadLetters e.id))
    (hentries : ∀ entry ∈ entries, entry.eventType = .outboxEventDeadLettered →
      ∃ e i, db.getOutboxEvent e.id = some e ∧ db.getPaymentIntent e.paymentIntentId = some i ∧
        i.missionId = missionId ∧ entry.DeadLetters e.id) : Lettered db' := by
  -- an old row and its intent, as they are afterwards
  have hkept : ∀ e i, db.getOutboxEvent e.id = some e →
      db.getPaymentIntent e.paymentIntentId = some i → ∃ e' i', e' ∈ db'.outboxEvents ∧
        db'.getPaymentIntent e'.paymentIntentId = some i' ∧ i'.missionId = i.missionId ∧
        e'.id = e.id := by
    intro e i he hi
    obtain ⟨e', he', hterms⟩ := hg.outboxEvents _ _ he
    obtain ⟨i', hi', hmoves⟩ := hg.paymentIntents _ _ hi
    have hintent : e'.paymentIntentId = e.paymentIntentId :=
      (congrArg OutboxEventRow.paymentIntentId hterms :)
    exact ⟨e', i', Table.mem_of_find he', hintent ▸ hi',
      PaymentIntentRow.missionId_of_terms hmoves.terms, Table.key_of_find he'⟩
  refine ⟨fun e' he' i' hi' => ?_, fun m row hrow htype => ?_⟩
  · cases he : db.getOutboxEvent e'.id with
    | none =>
      -- a new row: no letter can name it
      refine iff_of_false (hnew e' he' he) fun hdead => ?_
      rcases (hrec.deadLettered_iff _ _).mp hdead with ⟨row, hrow, hletter⟩ | ⟨-, entry, hentry, hletter⟩
      · obtain ⟨e, hmem, -, -, -, hletter'⟩ := h.known _ row hrow hletter.1
        have hget : db.getOutboxEvent e.id = some e := (Table.mem_iff_find hc.outboxEvents).mp hmem
        rw [← hletter'.unique hletter, hget] at he
        cases he
      · obtain ⟨e, -, hget, -, -, hletter'⟩ := hentries entry hentry hletter.1
        rw [← hletter'.unique hletter, hget] at he
        cases he
    | some e =>
      have hid : e.id = e'.id := Table.key_of_find he
      have hmem := Table.mem_of_find he
      have hget' : db'.getOutboxEvent e.id = some e' := by
        rw [hid]
        exact (Table.mem_iff_find hc'.outboxEvents).mp he'
      rw [← hid] at he
      obtain ⟨j, hj, hjid⟩ := hc.enqueued e hmem
      have hi : db.getPaymentIntent e.paymentIntentId = some j := hjid ▸ hc.mem_intent.mp hj
      obtain ⟨e₁, i₁, he₁, hi₁, hmission, hid₁⟩ := hkept e j he hi
      obtain rfl : e₁ = e' := by
        have hfound := (Table.mem_iff_find hc'.outboxEvents).mp he₁
        rw [hid₁] at hfound
        exact Option.some.inj (hfound.symm.trans hget')
      obtain rfl := Option.some.inj (hi₁.symm.trans hi')
      rw [hold e e₁ j he hget' hi, h.failed e hmem j hi, hrec.deadLettered_iff, hmission, hid₁]
  · have hcases : (row ∈ db.chain m) ∨ missionId = m ∧ ∃ entry ∈ entries,
        AuditEventRow.Records row entry := by
      obtain ⟨new, hforall, hchain⟩ := hrec.chain
      rw [hchain m] at hrow
      rcases List.mem_append.mp hrow with hrow | hrow
      · exact .inl hrow
      · split at hrow
        · next hm => exact .inr ⟨hm, mem_records hforall hrow⟩
        · cases hrow
    rcases hcases with hrow | ⟨rfl, entry, hentry, hrecords⟩
    · obtain ⟨e, he, i, hi, rfl, hletter⟩ := h.known m row hrow htype
      obtain ⟨e', i', he', hi', hmission, hid⟩ :=
        hkept e i ((Table.mem_iff_find hc.outboxEvents).mp he) hi
      exact ⟨e', he', i', hi', hmission, hid ▸ hletter⟩
    · obtain ⟨e, i, he, hi, rfl, hletter⟩ := hentries entry hentry ((hrecords.type_iff _).mp htype)
      obtain ⟨e', i', he', hi', hmission, hid⟩ := hkept e i he hi
      exact ⟨e', he', i', hi', hmission, hid ▸ (hrecords.deadLetters_iff _).mpr hletter⟩

-- ════════════════════════════════════════════════════════════════════════
-- Steps
-- ════════════════════════════════════════════════════════════════════════

instance (lookup : LookupAnswer) (i : PaymentIntentRow) : Decidable (Unrecorded env lookup i) := by
  unfold Unrecorded
  split <;> infer_instance

/-- A turn that puts its event back, if it does, without recording what became of it: a recovery, or
a reconcile turn that is `Unrecorded`. -/
def Silent (env : Env) (w : World) : Action → Prop
  | .recover _ => True
  | .handle k lookup _ => ∃ turn ∈ w.turns[k]?, ∃ event ∈ turn.phase.reconciles,
    ∃ i ∈ w.db.getPaymentIntent event.paymentIntentId, i.state.isTerminal = false ∧
      Unrecorded env lookup i
  | _ => False

/-- Whether an action is a recovery. -/
def Action.recovers : Action → Bool
  | .recover _ => true
  | _ => false

/-- The turn that an action has handle its event, with the answer of the lookup. -/
def Action.handles : Action → Option (Nat × LookupAnswer)
  | .handle k lookup _ => some (k, lookup)
  | _ => none

lemma silent_iff {w : World} {action : Action} :
    (Action.recovers action = true ∨ ∃ handled ∈ Action.handles action,
      ∃ turn ∈ w.turns[handled.1]?, ∃ event ∈ turn.phase.reconciles,
        ∃ i ∈ w.db.getPaymentIntent event.paymentIntentId, i.state.isTerminal = false ∧
          Unrecorded env handled.2 i) ↔ Silent env w action := by
  cases action <;> simp [Action.recovers, Action.handles, Silent]

instance (w : World) (action : Action) : Decidable (Silent env w action) :=
  decidable_of_iff _ silent_iff

/-- A turn that writes its event back has not loaded it as given up and does not find it given up,
and has attempts left where it is silent. -/
def RecordsFailure (env : Env) (w : World) (action : Action) : Prop :=
  ∀ held ∈ w.writesBack env action, held.1.status ≠ .failed ∧ held.2.status ≠ .failed ∧
    (Silent env w action → held.1.attempts < held.1.maxAttempts)

instance (w : World) (action : Action) : Decidable (RecordsFailure env w action) := by
  unfold RecordsFailure
  infer_instance

/-- The status of a row that was not given up, after a version that was not given up either is
written back to it. -/
lemma flush_failed_iff {loaded updated row : OutboxEventRow} (hl : loaded.status ≠ .failed)
    (hr : row.status ≠ .failed) :
    (flushEvent loaded updated row).status = .failed ↔ updated.status = .failed := by
  show changedColumn loaded.status updated.status row.status = .failed ↔ _
  unfold changedColumn
  split
  · next hsame => exact iff_of_false hr (hsame ▸ hl)
  · rfl

/-- A step other than a handler gives no event up. -/
lemma EventStep.failed_iff {action : Action} {e e' : OutboxEventRow} (h : EventStep w action e e')
    (hcommits : w.commits env action = true) (he : w.db.getOutboxEvent e.id = some e)
    (hguard : RecordsFailure env w action)
    (hnot : ∀ k lookup create, action ≠ .handle k lookup create) :
    e'.status = .failed ↔ e.status = .failed := by
  cases h with
  | kept => rfl
  | claimed k turn _ _ hdue =>
    refine iff_of_false (by simp [claimedRow]) fun hs => ?_
    rcases (due_iff.mp hdue).1 with hs' | hs' <;> cases hs.symm.trans hs'
  | written k turn loaded updated haction hturn hholding hid hupdated =>
    obtain ⟨hl, hr, hleft⟩ :=
      hguard _ (writesBack_eq hcommits haction hturn hholding (by rwa [hid]))
    have hsilent : Silent env w action := by
      cases action with
      | recover => trivial
      | handle k lookup create => exact absurd rfl (hnot k lookup create)
      | _ => cases haction
    have hupdated : updated.status ≠ .failed := by
      rcases hupdated with rfl | ⟨reason, rfl⟩
      · simp [completed]
      · exact rescheduled_not_failed reason turn.now (hleft hsilent)
    exact iff_of_false (fun hs => hupdated ((flush_failed_iff hl hr).mp hs)) hr

lemma Handled.letters {ctx : TurnContext} {p : TurnPhase} {u u' : UnitOfWork} {e e' : OutboxEventRow}
    (h : Handled ctx p u e u' e') (hleft : p.reconciles = some e → u.intent.state.isTerminal = false →
      Unrecorded ctx.env ctx.lookup u.intent → e.attempts < e.maxAttempts)
    (hu : Quiet u) : Letters e e' u' := by
  cases h with
  | create h => exact h.letters hu
  | reconcile hp h => exact h.letters (hleft hp) hu

/-- A handler that commits keeps the rows and the letters together. -/
lemma Lettered.handled (h : Lettered w.db) (hc : Consistent env w.db) {k : Nat}
    {lookup : LookupAnswer} {create : CreateAnswer}
    (hchange : Change env w (.handle k lookup create) db') (hc' : Consistent env db')
    (hgrows : Grows w.db db') (hcommits : w.commits env (.handle k lookup create) = true)
    (hguard : RecordsFailure env w (.handle k lookup create))
    (hfresh : ∀ e ∈ db'.outboxEvents, w.db.getOutboxEvent e.id = none → e.status ≠ .failed) :
    Lettered db' := by
  cases hchange with
  | kept => exact ⟨h.failed, h.known⟩
  | aftermath _ _ _ haction => exact absurd rfl (haction k lookup create)
  | claimed _ _ _ _ haction => cases haction
  | handled _ _ _ turn event i t _ hturn hholding hevent hi hprov hh hcommit henq =>
    obtain ⟨row, hrow, hterms⟩ := hevent
    obtain ⟨hl, hr, hleft⟩ := hguard _ (writesBack_eq hcommits rfl hturn hholding hrow)
    have hletters : Letters event t.event t.work :=
      hh.letters (fun hp hopen hsilent => hleft ⟨turn, hturn, event, hp, i, hi, hopen, hsilent⟩)
        fun _ he => by cases he
    obtain ⟨-, hmoves⟩ := hh.moves (hc.committable i (Table.mem_of_find hi)) hprov
    have hrec := hcommit.recorded
    rw [PaymentIntentRow.missionId_of_terms hmoves.terms] at hrec
    have hid : row.id = event.id := Table.key_of_find hrow
    have hintent : row.paymentIntentId = event.paymentIntentId :=
      (congrArg OutboxEventRow.paymentIntentId hterms :)
    refine h.recorded hc hc' hgrows hrec hfresh (fun e e' j he he' hj => ?_) fun entry hentry ht =>
      ⟨row, i, hid ▸ hrow, hintent ▸ hi, rfl, hid ▸ (hletters.failed entry hentry ht).1⟩
    have hfound : e' = if e.id = event.id then flushEvent event t.event e else e := by
      obtain ⟨new, -, hrows⟩ := henq.rows
      have hfind : Table.find OutboxEventRow.id e.id db'.outboxEvents = some e' := he'
      have hold : Table.find OutboxEventRow.id e.id w.db.outboxEvents = some e := he
      have hkeys : ∀ x : OutboxEventRow, x.id = event.id → (flushEvent event t.event x).id = event.id :=
        fun _ hx => hx
      rw [hrows, Table.find_append, Table.find_update hkeys, hold] at hfind
      by_cases heq : e.id = event.id
      · rw [if_pos heq] at hfind ⊢
        exact (Option.some.inj hfind).symm
      · rw [if_neg heq] at hfind ⊢
        exact (Option.some.inj hfind).symm
    by_cases heq : e.id = event.id
    · obtain rfl : row = e := Option.some.inj (hrow.symm.trans (heq ▸ he))
      obtain rfl : i = j := Option.some.inj (hi.symm.trans (hintent ▸ hj))
      rw [hfound, if_pos heq, flush_failed_iff hl hr, heq]
      refine ⟨fun hs => .inr ⟨rfl, hletters.recorded hs⟩, ?_⟩
      rintro (hs | ⟨-, entry, hentry, hletter⟩)
      · exact absurd hs hr
      · exact (hletters.failed entry hentry hletter.1).2
    · rw [hfound, if_neg heq]
      refine (or_iff_left ?_).symm
      rintro ⟨-, entry, hentry, hletter⟩
      exact heq (hletter.unique (hletters.failed entry hentry hletter.1).1)

/-- A step whose turn records what becomes of its event keeps the rows and the letters together. -/
lemma Lettered.step (h : Lettered w.db) (hreach : Reachable env w) {action : Action}
    (hstep : World.step env w action = some w') (hguard : RecordsFailure env w action) :
    Lettered w'.db := by
  cases hcommits : w.commits env action with
  | false =>
    rw [db_of_not_commits hstep hcommits]
    exact h
  | true =>
  have hc := hreach.consistent
  obtain ⟨hreach', hgrows⟩ := hreach.step hstep
  have hchange := step_change hc hreach.inFlight hstep
  have hout := step_outbox hreach hstep
  have hfresh : ∀ e ∈ w'.db.outboxEvents, w.db.getOutboxEvent e.id = none → e.status ≠ .failed := by
    intro e he hnone
    rw [(hout.new e he hnone).1]
    decide
  by_cases hhandle : ∃ k lookup create, action = .handle k lookup create
  · obtain ⟨k, lookup, create, rfl⟩ := hhandle
    exact h.handled hc hchange hreach'.consistent hgrows hcommits hguard hfresh
  · have hnot : ∀ k lookup create, action ≠ .handle k lookup create :=
      fun k lookup create heq => hhandle ⟨k, lookup, create, heq⟩
    obtain ⟨missionId, entries, hrec, -, hrecount, -⟩ := hchange.recounts hc
    have hquiet := hrecount.quiet hnot
    refine h.recorded hc hreach'.consistent hgrows hrec hfresh (fun e e' i he he' _ => ?_)
      fun entry hentry ht => absurd ht (hquiet entry hentry)
    obtain ⟨e₁, he₁, hevent⟩ := hout.old _ e he
    obtain rfl := Option.some.inj (he₁.symm.trans he')
    rw [hevent.failed_iff hcommits he hguard hnot]
    refine (or_iff_left ?_).symm
    rintro ⟨-, entry, hentry, hletter⟩
    exact hquiet entry hentry hletter.1

-- ════════════════════════════════════════════════════════════════════════
-- Runs
-- ════════════════════════════════════════════════════════════════════════

/-- In every run in which no turn gives its event up silently, or writes to an event that had been
given up, a row is `FAILED` in a committed state exactly when the audit chain of its mission has a
dead letter for it, and replay flags a mission exactly when one of its events is `FAILED`. -/
theorem dead_letters_audited (h : World.exec env actions = some w)
    (hguard : Runs.Along (World.step env) (RecordsFailure env) World.init actions) :
    (∀ e ∈ w.db.outboxEvents, ∃ i, w.db.getPaymentIntent e.paymentIntentId = some i ∧
      (e.status = .failed ↔ w.db.DeadLettered i.missionId e.id)) ∧
    ∀ m, ∃ s, reduceEvents env (w.db.chain m) = .ok s ∧ (s.payment.deadLettered = true ↔
      ∃ e ∈ w.db.outboxEvents, ∃ i, w.db.getPaymentIntent e.paymentIntentId = some i ∧
        i.missionId = m ∧ e.status = .failed) := by
  have hinit : Lettered World.init.db := ⟨nofun, nofun⟩
  obtain ⟨hreach, hletters⟩ : Reachable env w ∧ Lettered w.db := by
    refine Runs.invariant_along (I := fun v : World => Reachable env v ∧ Lettered v.db) ?_
      ⟨reachable_init env, hinit⟩ hguard h
    intro v action v' hv hg hs
    exact ⟨(hv.1.step hs).1, hv.2.step hv.1 hs hg⟩
  refine ⟨fun e he => ?_, fun m => ?_⟩
  · obtain ⟨i, hi, hid⟩ := hreach.consistent.enqueued e he
    have hget : w.db.getPaymentIntent e.paymentIntentId = some i :=
      hid ▸ hreach.consistent.mem_intent.mp hi
    exact ⟨i, hget, hletters.failed e he i hget⟩
  · obtain ⟨s, hs, hflag⟩ := replay_flags_dead_letters h m
    refine ⟨s, hs, hflag.trans ⟨?_, ?_⟩⟩
    · rintro ⟨row, hrow, htype⟩
      obtain ⟨e, he, i, hi, rfl, hletter⟩ := hletters.known m row hrow htype
      exact ⟨e, he, i, hi, rfl, (hletters.failed e he i hi).mpr ⟨row, hrow, hletter⟩⟩
    · rintro ⟨e, he, i, hi, rfl, hfailed⟩
      obtain ⟨row, hrow, hletter⟩ := (hletters.failed e he i hi).mp hfailed
      exact ⟨row, hrow, hletter.1⟩

/-- An order whose create event has one attempt left: workers crash after seven claims. -/
def Sample.nearlyExhausted : List Action :=
  Sample.order "fake" ++ (List.range 7).flatMap (fun n =>
    [.startTurn "worker" "fake" (60 * n) 60, .claimPostgres n [], .crash n]) ++
    [.startTurn "worker" "fake" 420 60, .claimPostgres 7 [], .loadEvent 7]

/-- The last attempt is refused for the moment, and is recorded as the last. -/
def Sample.exhausted : List Action :=
  Sample.nearlyExhausted ++ [.handle 7 .notFound (.failed ⟨.transient, "fake", "try again"⟩)]

lemma Sample.exhausted_letters : ((World.exec Sample.env Sample.exhausted).map fun w =>
    (w.db.outboxEvents.map OutboxEventRow.status,
      decide (Runs.Along (World.step Sample.env) (RecordsFailure Sample.env) World.init
        Sample.exhausted))) = some ([.failed], true) := by decide +kernel

theorem dead_letters_audited_exhausted :
    ∃ w, World.exec Sample.env Sample.exhausted = some w ∧
      w.db.outboxEvents.map OutboxEventRow.status = [.failed] ∧
      ∀ e ∈ w.db.outboxEvents, ∃ i, w.db.getPaymentIntent e.paymentIntentId = some i ∧
        (e.status = .failed ↔ w.db.DeadLettered i.missionId e.id) := by
  obtain ⟨w, hw, hw'⟩ := Option.map_eq_some_iff.mp Sample.exhausted_letters
  obtain ⟨hstatus, hguard⟩ := Prod.mk.inj hw'
  exact ⟨w, hw, hstatus, (dead_letters_audited hw (of_decide_eq_true hguard)).1⟩

/-- The last attempt raises, and the recovery gives the event up. -/
def Sample.buried : List Action :=
  Sample.nearlyExhausted ++ [.handle 7 (.raised .integrityError) (.raised .integrityError),
    .loadStale 7, .recover 7]

lemma Sample.buried_letters : ((World.exec Sample.env Sample.buried).map fun w =>
    (w.db.outboxEvents.map OutboxEventRow.status,
      w.db.auditEvents.any fun row =>
        decide (row.eventType = EventType.outboxEventDeadLettered.value))) =
    some ([.failed], false) := by decide +kernel

/-- The recovery of `run_once` gives an event up without saying so. -/
theorem silent_recovery_buries : ¬∀ (env : Env) (actions : List Action) (w : World),
    World.exec env actions = some w → ∀ e ∈ w.db.outboxEvents, ∃ i,
      w.db.getPaymentIntent e.paymentIntentId = some i ∧
        (e.status = .failed ↔ w.db.DeadLettered i.missionId e.id) := by
  intro hall
  obtain ⟨w, hw, hw'⟩ := Option.map_eq_some_iff.mp Sample.buried_letters
  obtain ⟨hstatus, hnone⟩ := Prod.mk.inj hw'
  obtain ⟨e, he, hfailed⟩ : ∃ e ∈ w.db.outboxEvents, e.status = .failed :=
    List.mem_map.mp (hstatus ▸ List.mem_cons_self)
  obtain ⟨i, -, hiff⟩ := hall _ _ w hw e he
  obtain ⟨row, hrow, hletter⟩ := hiff.mp hfailed
  have hmem : row ∈ w.db.auditEvents := List.mem_of_mem_filter hrow
  rw [List.any_eq_false] at hnone
  exact hnone row hmem (decide_eq_true hletter.1)

end Pactra
