import Pactra.AuditLedger.Verify
import Pactra.Foundation.AppendLog

/-!
# Appending sessions

Any number of sessions append events to any missions, with savepoints, rollbacks and commits, one
statement at a time. What they commit for a mission is a chain that verifies, in whatever order it
is read back.

## Main results

- `appendEvent_statements` — the statements of an append do what `append_event` does
- `passes_of_stores` — an appended row passes verification when it is read back
- `appended_chains_verify` — every committed chain verifies
-/

namespace Pactra

-- ════════════════════════════════════════════════════════════════════════
-- The ledger as a log
-- ════════════════════════════════════════════════════════════════════════

/-- What a call of `append_event` that inserts a row brings: the event of a named actor, with a
payload that was hashed, the time and the event id. -/
structure Append where
  entry : AuditEntry
  createdAt : Datetime
  eventId : Uuid
  actor : entry.actor ≠ ""
  spellable : Wire.spellable (.ofJson (.obj entry.payload) : PyJson) = true
  inRange : createdAt.InRange

/-- The rows of `audit_events`, one log for every mission. -/
def ledger (env : Env) : AppendLog.Rows Uuid AuditEventRow Append where
  key := AuditEventRow.missionId
  number := AuditEventRow.sequence
  next m last a := nextEventRow env m a.entry last a.createdAt a.eventId
  key_next _ _ _ := rfl
  number_next _ last _ := by cases last <;> rfl

section Statements

variable {env : Env} {σ : Type} [DecidableEq σ] {w : AppendLog.State Uuid AuditEventRow σ} {s : σ}

/-- Without another session in between, the statements of an append do what `append_event` does to
the chain of its mission. -/
theorem appendEvent_statements {m : Uuid} {a : Append} {db db' : Db}
    (hinv : AppendLog.Inv (ledger env) w) (hidle : (w.sessions s).phase = .idle)
    (hsees : w.Sees s m) (hfree : w.Free s m)
    (hchain : AppendLog.visible (ledger env) w (w.sessions s).frames m = db.chain m)
    (hnow : a.createdAt = env.utcnow db.drawn) (hid : a.eventId = env.uuid4 (db.drawn + 1))
    (hrun : (appendEvent env m a.entry).run db = (.ok (), db')) :
    ∃ w₁ w₂ w₃, AppendLog.Step (ledger env) w s w₁ ∧ AppendLog.Step (ledger env) w₁ s w₂ ∧
      AppendLog.Step (ledger env) w₂ s w₃ ∧
      AppendLog.visible (ledger env) w₃ (w₃.sessions s).frames m = db'.chain m := by
  have hself : ∀ (w : AppendLog.State Uuid AuditEventRow σ) session,
      (w.put s session).sessions s = session := fun w session => Function.update_self ..
  let frames := AppendLog.within (.lock m) (w.sessions s).frames
  let w₁ := w.put s { frames := frames, phase := .locked m }
  let w₂ := w₁.put s { frames := frames, phase := .read m (lastEvent db m) }
  -- the statements see the chain, and the lock does not change it
  have hsame : AppendLog.visible (ledger env) w frames m = db.chain m := by
    rw [AppendLog.visible, AppendLog.pending_lock]
    exact hchain
  have hgenerated : AppendLog.Generated (ledger env) m (db.chain m) :=
    hchain ▸ hinv.generated s m
  have hlast : lastEvent db m = (db.chain m).getLast? := hgenerated.best
  have hread : AppendLog.Step (ledger env) w₁ s w₂ := by
    have hstep := AppendLog.Step.read (L := ledger env) (w := w₁) m (congrArg (·.phase) (hself _ _))
    rw [hself] at hstep
    have hbest : Table.best (fun a b => decide ((ledger env).number b < (ledger env).number a))
        (AppendLog.visible (ledger env) w₁ frames m) = lastEvent db m := congrArg _ hsame
    rw [hbest] at hstep
    exact hstep
  have hframes : (w₂.sessions s).frames = frames := congrArg (·.frames) (hself _ _)
  have hvisible : AppendLog.visible (ledger env) w₂ frames m = db.chain m := hsame
  have hsees₂ : w₂.Sees s m := by
    refine hsees.imp_right fun hcreated => ?_
    rw [hframes]
    exact AppendLog.created_lock.mpr hcreated
  have hfree₂ : w₂.Free s m := by
    intro s' hs'
    have hother : w₂.sessions s' = w.sessions s' :=
      (Function.update_of_ne hs' ..).trans (Function.update_of_ne hs' ..)
    rw [hother]
    exact hfree s' hs'
  let w₃ := w₂.put s
    { frames := AppendLog.within (.insert m ((ledger env).next m (lastEvent db m) a)) frames }
  have hinsert : AppendLog.Step (ledger env) w₂ s w₃ := by
    have hstep := AppendLog.Step.insert (L := ledger env) m (lastEvent db m) a
      (congrArg (·.phase) (hself _ _)) hsees₂ hfree₂
      (by rw [hframes, hvisible, hlast]; exact hgenerated.next_unused a)
    rw [hframes] at hstep
    exact hstep
  refine ⟨w₁, w₂, w₃, .lock m hidle hsees hfree, hread, hinsert, ?_⟩
  have hframes₃ : (w₃.sessions s).frames =
      AppendLog.within (.insert m ((ledger env).next m (lastEvent db m) a)) frames :=
    congrArg (·.frames) (hself _ _)
  rw [hframes₃, AppendLog.visible, AppendLog.pending_insert, ← List.append_assoc, AppendLog.chain,
    List.filter_append, chain_appendEvent hrun m, if_pos rfl, ← hnow, ← hid]
  congr 1
  simp [ledger, nextEventRow]

end Statements

-- ════════════════════════════════════════════════════════════════════════
-- Storage
-- ════════════════════════════════════════════════════════════════════════

/-- An event as a row is read back: the payload is the same JSON value, the timestamp the same
instant. -/
structure Stores (row : AuditEventRow) (event : StoredEvent) : Prop where
  missionId : event.missionId = row.missionId
  sequence : event.sequence = row.sequence
  eventType : event.eventType = row.eventType
  actor : event.actor = row.actor
  payload : ∃ v, event.payload = .ofJson v ∧ v.canon = row.payload.canon
  previousHash : event.previousHash = row.previousHash
  eventHash : event.eventHash = row.eventHash
  createdAt : ∃ t, event.createdAt = some t ∧ t.wall - t.offset.getD 0 = row.createdAt

section Storage

variable {env : Env}

lemma isHashShaped_hexdigest (message : List Nat) :
    isHashShaped (Sha256.hexdigest message) = true := by
  have hdigits : ∀ d < 16, "0123456789abcdef".toList.contains (Sha256.hexDigit d) = true := by
    decide
  simp only [isHashShaped, Sha256.length_hexdigest, beq_self_eq_true, Bool.true_and,
    List.all_eq_true]
  intro c hc
  obtain ⟨d, hd, rfl⟩ := Sha256.mem_hexdigest hc
  exact hdigits d hd

lemma isHashShaped_genesisHash : isHashShaped genesisHash = true := by decide

lemma EventType.value_ne_empty (t : EventType) : t.value ≠ "" := by
  cases t <;> decide

lemma isObject_of_canon {v : Json} {fields : Dict} (h : v.canon = (Json.obj fields).canon) :
    isObject (.ofJson v) = true := by
  cases v with
  | obj fields => rfl
  | _ => cases h

/-- The hashed text does not depend on how the entries of the payload are ordered. -/
lemma canonicalEventBody_congr {m type actor previous : String} {n : Int} {p p' : Json}
    {t : Datetime} (h : p.canon = p'.canon) :
    canonicalEventBody env m n type actor p previous t =
      canonicalEventBody env m n type actor p' previous t := by
  apply String.toList_injective
  rw [canonicalEventBody, canonicalEventBody, Json.dumps_toList, Json.dumps_toList]
  simp only [Json.canon, Json.canonFields, h]

/-- An appended row passes verification when it is read back after its predecessor. -/
lemma passes_of_stores {m : Uuid} {last : Option AuditEventRow} {a : Append}
    {preceding : Option StoredEvent} {event : StoredEvent} {index : Nat}
    (hstores : Stores ((ledger env).next m last a) event)
    (hindex : ((ledger env).next m last a).sequence = index)
    (hshaped : ∀ row, last = some row → isHashShaped row.eventHash = true)
    (hlast : preceding.map StoredEvent.eventHash = last.map AuditEventRow.eventHash) :
    Passes env preceding index event := by
  obtain ⟨t, ht, hinstant⟩ := hstores.createdAt
  obtain ⟨v, hv, hpayload⟩ := hstores.payload
  have hutc : t.asUtc = .ok a.createdAt := by
    unfold StoredDatetime.asUtc
    rw [hinstant]
    exact if_pos a.inRange
  have hencode : encodePayload event.payload = .ok v := by
    refine encodePayload_ok.mpr ⟨?_, hv⟩
    rw [hv, ← PyJson.spellable_canon, hpayload, PyJson.spellable_canon]
    exact a.spellable
  have hprevious : event.previousHash =
      (preceding.map StoredEvent.eventHash).getD genesisHash := by
    rw [hlast, hstores.previousHash]
    cases last <;> rfl
  refine ⟨⟨?_, ?_, ?_, ?_, ?_, ?_, ?_⟩, ?_, hprevious, ?_⟩
  · rw [hstores.sequence]
    exact Int.natCast_nonneg _
  · rw [hprevious, hlast]
    cases last with
    | none => exact isHashShaped_genesisHash
    | some row => exact hshaped row rfl
  · rw [hstores.eventHash]
    exact isHashShaped_hexdigest _
  · rw [hv]
    exact isObject_of_canon hpayload
  · rw [hstores.eventType]
    exact EventType.value_ne_empty _
  · rw [hstores.actor]
    exact a.actor
  · rw [ht]
    simp
  · rw [hstores.sequence, hindex]
  · have hrecomputed : recomputedHash env event = .ok (some (computeEventHash env
        event.missionId.str event.sequence event.eventType event.actor v event.previousHash
        a.createdAt)) := by
      simp only [recomputedHash, ht, hutc, hencode]
      rfl
    rw [hrecomputed, hstores.missionId, hstores.sequence, hstores.eventType, hstores.actor,
      hstores.previousHash, hstores.eventHash, computeEventHash, canonicalEventBody_congr hpayload]
    rfl

/-- Every row of a log carries a hash. -/
lemma isHashShaped_of_generated {m : Uuid} {rows : List AuditEventRow}
    (h : AppendLog.Generated (ledger env) m rows) :
    ∀ row ∈ rows, isHashShaped row.eventHash = true := by
  induction h with
  | nil => nofun
  | append rows a h ih =>
    intro row hrow
    rcases List.mem_append.mp hrow with hrow | hrow
    · exact ih row hrow
    · rw [List.mem_singleton.mp hrow]
      exact isHashShaped_hexdigest _

lemma Intact.append {preceding : Option StoredEvent} {index : Nat} {events : List StoredEvent}
    {event : StoredEvent} (h : Intact env preceding index events)
    (hevent : Passes env (events.getLast?.or preceding) (index + events.length) event) :
    Intact env preceding index (events ++ [event]) := by
  induction events generalizing preceding index with
  | nil => exact ⟨hevent, trivial⟩
  | cons first rest ih =>
    refine ⟨h.1, ih h.2 ?_⟩
    rw [List.length_cons, Nat.add_comm rest.length 1, ← Nat.add_assoc] at hevent
    rw [List.getLast?_cons] at hevent
    cases hlast : rest.getLast? with
    | none => simpa [hlast] using hevent
    | some last => simpa [hlast] using hevent

lemma eventHash_of_stores {rows : List AuditEventRow} {events : List StoredEvent}
    (h : List.Forall₂ Stores rows events) :
    events.map StoredEvent.eventHash = rows.map AuditEventRow.eventHash := by
  induction h with
  | nil => rfl
  | cons hstores _ ih => rw [List.map_cons, List.map_cons, hstores.eventHash, ih]

/-- A log that is read back is an intact chain. -/
lemma intact_of_stores {m : Uuid} {rows : List AuditEventRow}
    (h : AppendLog.Generated (ledger env) m rows) {events : List StoredEvent}
    (hstores : List.Forall₂ Stores rows events) : Intact env none 0 events := by
  induction h generalizing events with
  | nil =>
    cases hstores
    trivial
  | append rows a h ih =>
    have hfront := List.forall₂_take rows.length hstores
    have hlast := List.forall₂_drop rows.length hstores
    rw [List.take_left] at hfront
    rw [List.drop_left] at hlast
    obtain ⟨event, rest, hevent, hrest, hdrop⟩ := List.forall₂_cons_left_iff.mp hlast
    rw [List.forall₂_nil_left_iff.mp hrest] at hdrop
    rw [← List.take_append_drop rows.length events, hdrop]
    have hlength : (events.take rows.length).length = rows.length := hfront.length_eq.symm
    refine (ih hfront).append (passes_of_stores hevent ?_ ?_ ?_)
    · rw [hlength, Nat.zero_add]
      exact h.number_next a
    · intro row hrow
      exact isHashShaped_of_generated h row (List.mem_of_getLast? hrow)
    · rw [Option.or_none, ← List.getLast?_map, ← List.getLast?_map, eventHash_of_stores hfront]

lemma sequence_of_stores {rows : List AuditEventRow} {events : List StoredEvent}
    (h : List.Forall₂ Stores rows events) :
    events.map StoredEvent.sequence = (rows.map AuditEventRow.sequence).map Nat.cast := by
  induction h with
  | nil => rfl
  | cons hstores _ ih => rw [List.map_cons, List.map_cons, List.map_cons, hstores.sequence, ih]

end Storage

-- ════════════════════════════════════════════════════════════════════════
-- Verification
-- ════════════════════════════════════════════════════════════════════════

section Verification

variable {env : Env} {missionId : Uuid}

lemma verifyFrom_of_intact {preceding : Option StoredEvent} {index : Nat}
    {events : List StoredEvent} (hfirst : preceding = none → index = 0)
    (h : Intact env preceding index events) :
    verifyFrom env missionId preceding index events =
      .ok { valid := true, missionId := missionId, eventsChecked := index + events.length } := by
  induction events generalizing preceding index with
  | nil => rfl
  | cons event rest ih =>
    rcases eventFailure_cases env missionId event hfirst with
      ⟨hnone, -⟩ | ⟨_, _, _, hfails, -⟩ | ⟨_, _, hunreportable⟩
    · have hnext : some event = none → index + 1 = 0 := fun h => absurd h (Option.some_ne_none _)
      simp only [verifyFrom, hnone]
      rw [ih hnext h.2, List.length_cons, Nat.add_assoc, Nat.add_comm 1]
    · exact absurd h.1 hfails
    · exact absurd hunreportable h.1.not_unreportable

/-- Events with increasing sequences are verified in that order, however they arrive. -/
lemma sorted_of_increasing {events events' : List StoredEvent}
    (h : (events.map StoredEvent.sequence).Pairwise (· < ·)) (hperm : events.Perm events') :
    events'.insertionSort verifiesBefore = events := by
  have hpairwise : events.Pairwise fun a b => a.sequence < b.sequence := List.pairwise_map.mp h
  have hsorted : events.insertionSort verifiesBefore = events :=
    (hpairwise.imp fun hlt => .inl hlt).insertionSort_eq
  rw [← sorted_eq hperm, hsorted]
  intro a ha b hb hab hba
  have hsame : a.sequence = b.sequence := by
    rcases hab with hab | ⟨hab, -⟩ <;> rcases hba with hba | ⟨hba, -⟩ <;> omega
  exact List.inj_on_of_nodup_map (h.imp Int.ne_of_lt) ha hb hsame

/-- Whatever the sessions do and in whatever order, the committed events of a mission are numbered
`0, …, n - 1`, the first carries the genesis hash and each later one the hash of its predecessor,
and once stored they verify, in whatever order they are read. -/
theorem appended_chains_verify {σ : Type} [DecidableEq σ]
    {w : AppendLog.State Uuid AuditEventRow σ} (h : AppendLog.Reachable (ledger env) w) (m : Uuid)
    {rows : List AuditEventRow} (hrows : rows = AppendLog.chain (ledger env) w.rows m) :
    rows.map AuditEventRow.sequence = List.range rows.length ∧
    (∀ first, rows[0]? = some first → first.previousHash = genesisHash) ∧
    (∀ i a b, rows[i]? = some a → rows[i + 1]? = some b → b.previousHash = a.eventHash) ∧
    ∀ stored events, List.Forall₂ Stores rows stored → stored.Perm events →
      verifyEvents env m events =
        .ok { valid := true, missionId := m, eventsChecked := rows.length } := by
  have hgenerated : AppendLog.Generated (ledger env) m rows :=
    hrows ▸ AppendLog.generated_of_reachable h m
  have hnumbers : rows.map AuditEventRow.sequence = List.range rows.length := hgenerated.numbers
  refine ⟨hnumbers, fun first hfirst => ?_, fun i a b ha hb => ?_, fun stored events hs hperm => ?_⟩
  · obtain ⟨append, rfl⟩ := hgenerated.getElem hfirst
    rfl
  · obtain ⟨append, rfl⟩ := hgenerated.getElem hb
    rw [List.take_add_one, ha, Option.toList_some, List.getLast?_concat]
    rfl
  · have hincreasing : (stored.map StoredEvent.sequence).Pairwise (· < ·) := by
      rw [sequence_of_stores hs, hnumbers, List.pairwise_map]
      exact List.pairwise_lt_range.imp fun hlt => Int.ofNat_lt.mpr hlt
    rw [verifyEvents, sorted_of_increasing hincreasing hperm,
      verifyFrom_of_intact (fun _ => rfl) (intact_of_stores hgenerated hs), hs.length_eq,
      Nat.zero_add]

end Verification

namespace Sample

/-- A call that appends the creation of a mission. -/
def append (eventId : Uuid) : Append where
  entry := ⟨.missionCreated, "orchestrator", []⟩
  createdAt := 0
  eventId := eventId
  actor := by decide
  spellable := rfl
  inRange := inRange_zero

/-- One session creates a mission with its first event; another one begins an append in a
savepoint, rolls back to it, appends after all and commits. -/
lemma appended_reachable : ∃ w : AppendLog.State Uuid AuditEventRow Bool,
    AppendLog.Reachable (ledger ledgerEnv) w ∧
    w.rows = [(ledger ledgerEnv).next ⟨"m"⟩ none (append ⟨"a"⟩),
      (ledger ledgerEnv).next ⟨"m"⟩ (some ((ledger ledgerEnv).next ⟨"m"⟩ none (append ⟨"a"⟩)))
        (append ⟨"b"⟩)] := by
  have hstart : AppendLog.Reachable (ledger ledgerEnv)
      ({} : AppendLog.State Uuid AuditEventRow Bool) := .refl
  have h₁ := hstart.tail ⟨true, .create ⟨"m"⟩ rfl (by decide) (by simp [AppendLog.Created])⟩
  have h₂ := h₁.tail ⟨true, .lock ⟨"m"⟩ rfl (.inr ⟨_, List.mem_cons_self, List.mem_cons_self⟩)
    (by simp [AppendLog.State.Free, AppendLog.Holds, AppendLog.State.put])⟩
  have h₃ := h₂.tail ⟨true, .read ⟨"m"⟩ rfl⟩
  have h₄ := h₃.tail ⟨true, .insert ⟨"m"⟩ none (append ⟨"a"⟩) rfl
    (.inr ⟨_, List.mem_cons_self, List.mem_cons_self⟩)
    (by simp [AppendLog.State.Free, AppendLog.Holds, AppendLog.State.put]) (by decide)⟩
  have h₅ := h₄.tail ⟨true, .commit rfl⟩
  -- the other session
  have h₆ := h₅.tail ⟨false, .savepoint rfl⟩
  have h₇ := h₆.tail ⟨false, .lock ⟨"m"⟩ rfl (.inl List.mem_cons_self)
    (by simp [AppendLog.State.Free, AppendLog.Holds, AppendLog.State.put])⟩
  have h₈ := h₇.tail ⟨false, .rollbackTo⟩
  have h₉ := h₈.tail ⟨false, .lock ⟨"m"⟩ rfl (.inl List.mem_cons_self)
    (by simp [AppendLog.State.Free, AppendLog.Holds, AppendLog.State.put])⟩
  have h₁₀ := h₉.tail ⟨false, .read ⟨"m"⟩ rfl⟩
  have h₁₁ := h₁₀.tail ⟨false, .insert ⟨"m"⟩ _ (append ⟨"b"⟩) rfl (.inl List.mem_cons_self)
    (by simp [AppendLog.State.Free, AppendLog.Holds, AppendLog.State.put]) (by decide)⟩
  exact ⟨_, h₁₁.tail ⟨false, .commit rfl⟩, rfl⟩

/-- A row of that time, read back without its offset. -/
def readBack (row : AuditEventRow) : StoredEvent where
  eventId := row.eventId
  missionId := row.missionId
  sequence := row.sequence
  eventType := row.eventType
  actor := row.actor
  payload := .ofJson row.payload
  previousHash := row.previousHash
  eventHash := row.eventHash
  createdAt := some ⟨0, none, inRange_zero⟩

lemma stores_readBack {row : AuditEventRow} (h : row.createdAt = 0) : Stores row (readBack row) :=
  ⟨rfl, rfl, rfl, rfl, ⟨_, rfl, rfl⟩, rfl, rfl, _, rfl, h.symm⟩

end Sample

/-- The two events of that run verify, read in the reverse order. -/
theorem appended_chains_verify_reversed : ∃ first second,
    verifyEvents Sample.ledgerEnv ⟨"m"⟩ [Sample.readBack second, Sample.readBack first] =
      .ok { valid := true, missionId := ⟨"m"⟩, eventsChecked := 2 } := by
  obtain ⟨w, hreachable, hrows⟩ := Sample.appended_reachable
  have hchain : AppendLog.chain (ledger Sample.ledgerEnv) w.rows ⟨"m"⟩ = w.rows := by
    rw [hrows]
    rfl
  exact ⟨_, _, (appended_chains_verify hreachable ⟨"m"⟩ (hrows.symm.trans hchain.symm)).2.2.2 _ _
    (.cons (Sample.stores_readBack rfl) (.cons (Sample.stores_readBack rfl) .nil))
    (List.Perm.swap _ _ _)⟩

end Pactra
