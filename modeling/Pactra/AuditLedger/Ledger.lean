import Mathlib.Data.List.Forall2
import Pactra.Db.Models
import Pactra.Foundation.PyJson

/-!
# Audit ledger

`services/audit_ledger/ledger.py` and `hashing.py`: an append takes the next sequence number of
its mission, links to the hash of the previous event and inserts the row. The append holds a row
lock on the mission until its transaction ends, so appends to one mission are serialized.

The payload of an entry is a JSON value that can be hashed: what the program puts into it are its own
texts and numbers, and those of validated requests and offers. A value that its author chose at will
is encoded first.
-/

namespace Pactra

/-- `GENESIS_HASH`. -/
def genesisHash : String := String.ofList (List.replicate 64 '0')

/-- `canonical_event_body`: the text that is hashed. -/
def canonicalEventBody (env : Env) (missionId : String) (sequence : Int)
    (eventType actor : String) (payload : Json) (previousHash : String)
    (createdAt : Datetime) : String :=
  Json.dumps env.floatRepr false
    (.obj [("mission_id", .str missionId), ("sequence", .int sequence),
      ("event_type", .str eventType), ("actor", .str actor), ("payload", payload),
      ("previous_hash", .str previousHash), ("created_at", .str createdAt.isoformat)])

/-- `compute_event_hash`. -/
def computeEventHash (env : Env) (missionId : String) (sequence : Int)
    (eventType actor : String) (payload : Json) (previousHash : String)
    (createdAt : Datetime) : String :=
  Sha256.hexdigest ((canonicalEventBody env missionId sequence eventType actor payload
    previousHash createdAt).toUTF8.data.toList.map UInt8.toNat)

/-- The exception for an integer with too many digits. -/
def digitsLimit : Exc :=
  .valueError "Exceeds the limit (4300 digits) for integer string conversion"

/-- The exception for a text with a surrogate. -/
def surrogatesRefused : Exc := .other "UnicodeEncodeError" "surrogates not allowed"

/-- A payload as it is hashed: `json.dumps` spells its integers, then its text is encoded. -/
def encodePayload (payload : PyJson) : Except Exc Json :=
  if Wire.spellable payload then
    match payload.json? with
    | none => .error surrogatesRefused
    | some v => .ok v
  else .error digitsLimit

/-- The payloads that can be hashed. -/
theorem encodePayload_ok {payload : PyJson} {v : Json} :
    encodePayload payload = .ok v ↔ Wire.spellable payload = true ∧ payload = .ofJson v := by
  rw [← PyJson.json?_eq_some, encodePayload]
  split
  · next hspells => cases payload.json? <;> simp [hspells]
  · next hspells => simp [hspells]

/-- The exception for a payload that cannot be hashed. -/
def encodeFailure (payload : PyJson) : Option Exc :=
  match encodePayload payload with
  | .error exc => some exc
  | .ok _ => none

theorem encodeFailure_eq_none {payload : PyJson} :
    encodeFailure payload = none ↔ ∃ v, encodePayload payload = .ok v := by
  unfold encodeFailure
  cases encodePayload payload <;> simp

theorem encodeFailure_eq_some {payload : PyJson} {exc : Exc} :
    encodeFailure payload = some exc ↔ encodePayload payload = .error exc := by
  unfold encodeFailure
  cases encodePayload payload <;> simp

theorem encodePayload_error {payload : PyJson} {exc : Exc} (h : encodePayload payload = .error exc) :
    exc = digitsLimit ∨ exc = surrogatesRefused := by
  unfold encodePayload at h
  split at h
  · split at h
    · exact .inr (Except.error.inj h).symm
    · cases h
  · exact .inl (Except.error.inj h).symm

/-- A value of a payload as `append_event` hashes it, after it has read the clock. -/
def encoded (env : Env) (value : PyJson) : DbTx Json :=
  match encodePayload value with
  | .ok v => pure v
  | .error exc => do
    let _ ← drawNow env
    Tx.raise exc

theorem run_encoded_ok {env : Env} {value : PyJson} {v : Json} (h : encodePayload value = .ok v)
    (db : Db) : (encoded env value).run db = (.ok v, db) := by
  unfold encoded
  rw [h]
  rfl

theorem run_encoded_error {env : Env} {value : PyJson} {exc : Exc}
    (h : encodePayload value = .error exc) (db : Db) :
    (encoded env value).run db = (.error exc, { db with drawn := db.drawn + 1 }) := by
  unfold encoded
  rw [h]
  rfl

theorem encoded_bind_ok {α : Type} {env : Env} {value : PyJson} {f : Json → DbTx α} {a : α}
    {db db' : Db} (h : ((encoded env value) >>= f).run db = (.ok a, db')) :
    ∃ v, encodePayload value = .ok v ∧ (f v).run db = (.ok a, db') := by
  cases hencode : encodePayload value with
  | ok v => exact ⟨v, rfl, (Tx.run_bind_of_ok (run_encoded_ok hencode db)).symm.trans h⟩
  | error exc => cases (Tx.run_bind_of_error (run_encoded_error hencode db)).symm.trans h

/-- An audit event that was handed to `append_event`. -/
structure AuditEntry where
  eventType : EventType
  actor : String
  payload : Dict

/-- `_last_event`: the event of a mission with the largest sequence number. -/
def lastEvent (db : Db) (missionId : Uuid) : Option AuditEventRow :=
  Table.best (fun a b => decide (b.sequence < a.sequence)) (db.chain missionId)

/-- The row `append_event` adds after the previous event of the mission. -/
def nextEventRow (env : Env) (missionId : Uuid) (entry : AuditEntry)
    (prev : Option AuditEventRow) (createdAt : Datetime) (eventId : Uuid) : AuditEventRow :=
  let sequence := match prev with
    | none => 0
    | some e => e.sequence + 1
  let previousHash := match prev with
    | none => genesisHash
    | some e => e.eventHash
  { eventId := eventId
    missionId := missionId
    sequence := sequence
    eventType := entry.eventType.value
    actor := entry.actor
    payload := .obj entry.payload
    previousHash := previousHash
    eventHash := computeEventHash env missionId.str sequence entry.eventType.value entry.actor
      (.obj entry.payload) previousHash createdAt
    createdAt := createdAt }

/-- `append_event`. -/
def appendEvent (env : Env) (missionId : Uuid) (entry : AuditEntry) : DbTx Unit := do
  let prev ← Tx.gets (fun db => lastEvent db missionId)
  let createdAt ← drawNow env
  let eventId ← drawUuid env
  let db ← Tx.get
  if (Table.find AuditEventRow.eventId eventId db.auditEvents).isSome then
    Tx.raise .integrityError
  else
    Tx.modify fun db =>
      { db with
        auditEvents := db.auditEvents ++ [nextEventRow env missionId entry prev createdAt eventId] }

/-- Append several events of one mission, in order. -/
def appendEvents (env : Env) (missionId : Uuid) : List AuditEntry → DbTx Unit
  | [] => pure ()
  | e :: es => do
    appendEvent env missionId e
    appendEvents env missionId es

/-- Everything but the audit table and the draw counter is the same. -/
structure Db.SameRows (db db' : Db) : Prop where
  missions : db'.missions = db.missions
  missionConstraints : db'.missionConstraints = db.missionConstraints
  offers : db'.offers = db.offers
  policyDecisions : db'.policyDecisions = db.policyDecisions
  authorizations : db'.authorizations = db.authorizations
  paymentIntents : db'.paymentIntents = db.paymentIntents
  outboxEvents : db'.outboxEvents = db.outboxEvents
  webhookEvents : db'.webhookEvents = db.webhookEvents

theorem Db.SameRows.refl (db : Db) : db.SameRows db := ⟨rfl, rfl, rfl, rfl, rfl, rfl, rfl, rfl⟩

theorem Db.SameRows.trans {a b c : Db} (h : a.SameRows b) (h' : b.SameRows c) : a.SameRows c :=
  ⟨h'.1.trans h.1, h'.2.trans h.2, h'.3.trans h.3, h'.4.trans h.4, h'.5.trans h.5,
    h'.6.trans h.6, h'.7.trans h.7, h'.8.trans h.8⟩

/-- What an append does: it either stops at a taken event id, or adds exactly one row. -/
theorem run_appendEvent (env : Env) (missionId : Uuid) (entry : AuditEntry) (db : Db) :
    (appendEvent env missionId entry).run db =
      let row := nextEventRow env missionId entry (lastEvent db missionId)
        (env.utcnow db.drawn) (env.uuid4 (db.drawn + 1))
      if (Table.find AuditEventRow.eventId row.eventId db.auditEvents).isSome then
        (.error .integrityError, { db with drawn := db.drawn + 2 })
      else
        (.ok (), { db with auditEvents := db.auditEvents ++ [row], drawn := db.drawn + 2 }) := by
  simp only [appendEvent, Tx.run_bind, Tx.run_gets, Tx.run_get, run_drawNow, run_drawUuid,
    Tx.run_ite, Tx.run_raise, Tx.run_modify]
  rfl

/-- A mission's chain is in sequence order, with no number used twice. -/
def Db.Sequenced (db : Db) : Prop :=
  ∀ m, (db.chain m).Pairwise fun a b => a.sequence < b.sequence

theorem Db.Sequenced.lastEvent {db : Db} (h : db.Sequenced) (m : Uuid) :
    lastEvent db m = (db.chain m).getLast? := by
  refine Table.best_eq_getLast ?_
  simpa using h m

/-- The chains after an append: the mission's own grows by one row, the others stay. -/
theorem chain_appendEvent {env : Env} {missionId : Uuid} {entry : AuditEntry} {db db' : Db}
    (h : (appendEvent env missionId entry).run db = (.ok (), db')) (m : Uuid) :
    db'.chain m = db.chain m ++ if missionId = m then
      [nextEventRow env missionId entry (lastEvent db missionId) (env.utcnow db.drawn)
        (env.uuid4 (db.drawn + 1))] else [] := by
  rw [run_appendEvent] at h
  simp only at h
  split at h
  · simp at h
  · obtain ⟨-, rfl⟩ := Prod.mk.inj h
    by_cases hm : missionId = m <;> simp [Db.chain, nextEventRow, hm]

theorem sameRows_appendEvent {env : Env} {missionId : Uuid} {entry : AuditEntry} {db db' : Db}
    {r : Except Exc Unit} (h : (appendEvent env missionId entry).run db = (r, db')) :
    db.SameRows db' := by
  rw [run_appendEvent] at h
  simp only at h
  split at h <;> (obtain ⟨-, rfl⟩ := Prod.mk.inj h; exact ⟨rfl, rfl, rfl, rfl, rfl, rfl, rfl, rfl⟩)

/-- An append keeps every chain in sequence order. -/
theorem Db.Sequenced.appendEvent {env : Env} {missionId : Uuid} {entry : AuditEntry} {db db' : Db}
    (hs : db.Sequenced) (h : (appendEvent env missionId entry).run db = (.ok (), db')) :
    db'.Sequenced := by
  intro m
  rw [chain_appendEvent h m]
  by_cases hm : missionId = m
  · subst hm
    rw [if_pos rfl, List.pairwise_append]
    refine ⟨hs missionId, List.pairwise_singleton _ _, ?_⟩
    intro a ha b hb
    rw [List.mem_singleton.mp hb, hs.lastEvent missionId]
    simp only [nextEventRow]
    -- the last row has the largest number, and the new row's is one more
    cases hlast : (db.chain missionId).getLast? with
    | none => simp [List.getLast?_eq_none_iff.mp hlast] at ha
    | some l =>
      obtain ⟨pre, hpre⟩ := List.getLast?_eq_some_iff.mp hlast
      have hpw := hs missionId
      rw [hpre, List.pairwise_append] at hpw
      rw [hpre] at ha
      rcases List.mem_append.mp ha with ha | ha
      · exact Nat.lt_succ_of_lt (hpw.2.2 a ha l (by simp))
      · rw [List.mem_singleton.mp ha]
        exact Nat.lt_succ_self _
  · simpa [hm] using hs m

-- ════════════════════════════════════════════════════════════════════════
-- Appended events
-- ════════════════════════════════════════════════════════════════════════

/-- A row that records an entry. -/
def AuditEventRow.Records (row : AuditEventRow) (entry : AuditEntry) : Prop :=
  row.eventType = entry.eventType.value ∧ row.payload = .obj entry.payload

/-- The chain of one mission grew by the records of some entries, and no other chain changed. -/
structure Recorded (missionId : Uuid) (entries : List AuditEntry) (db db' : Db) : Prop where
  sequenced : db.Sequenced → db'.Sequenced
  chain : ∃ new, List.Forall₂ AuditEventRow.Records new entries ∧
    ∀ m, db'.chain m = db.chain m ++ if missionId = m then new else []

/-- Nothing but the chain of one mission changed. -/
structure Appended (missionId : Uuid) (entries : List AuditEntry) (db db' : Db) : Prop
    extends Recorded missionId entries db db' where
  rows : db.SameRows db'

theorem Recorded.trans {missionId : Uuid} {entries entries' : List AuditEntry} {a b c : Db}
    (h : Recorded missionId entries a b) (h' : Recorded missionId entries' b c) :
    Recorded missionId (entries ++ entries') a c := by
  obtain ⟨new, hnew, hchain⟩ := h.chain
  obtain ⟨new', hnew', hchain'⟩ := h'.chain
  refine ⟨h'.sequenced ∘ h.sequenced, new ++ new', List.rel_append hnew hnew', fun m => ?_⟩
  rw [hchain' m, hchain m]
  split <;> simp

/-- A change that leaves the audit table alone records nothing, for whatever mission. -/
theorem Recorded.of_eq {db db' : Db} (h : db'.auditEvents = db.auditEvents) (missionId : Uuid) :
    Recorded missionId [] db db' := by
  have hchain : ∀ m, db'.chain m = db.chain m := fun m => by rw [Db.chain, h, Db.chain]
  exact ⟨fun hs m => hchain m ▸ hs m, [], .nil, fun m => by simp [hchain m]⟩

theorem Recorded.unaudited {missionId : Uuid} {entries : List AuditEntry} {a b c : Db}
    (h : Recorded missionId entries a b) (hc : c.auditEvents = b.auditEvents) :
    Recorded missionId entries a c := by
  simpa using h.trans (.of_eq hc missionId)

theorem Appended.refl (missionId : Uuid) (db : Db) : Appended missionId [] db db :=
  ⟨.of_eq rfl missionId, .refl db⟩

theorem Appended.trans {missionId : Uuid} {entries entries' : List AuditEntry} {a b c : Db}
    (h : Appended missionId entries a b) (h' : Appended missionId entries' b c) :
    Appended missionId (entries ++ entries') a c :=
  ⟨h.toRecorded.trans h'.toRecorded, h.rows.trans h'.rows⟩

theorem appendEvent_ok {env : Env} {missionId : Uuid} {entry : AuditEntry} {db db' : Db}
    (h : (appendEvent env missionId entry).run db = (.ok (), db')) :
    Appended missionId [entry] db db' :=
  ⟨⟨fun hs => hs.appendEvent h, _, .cons ⟨rfl, rfl⟩ .nil, chain_appendEvent h⟩,
    sameRows_appendEvent h⟩

theorem appendEvents_ok {env : Env} {missionId : Uuid} {entries : List AuditEntry} {db db' : Db}
    (h : (appendEvents env missionId entries).run db = (.ok (), db')) :
    Appended missionId entries db db' := by
  induction entries generalizing db with
  | nil =>
    obtain rfl : db = db' := (Prod.mk.inj h).2
    exact .refl missionId db
  | cons e es ih =>
    obtain ⟨⟨⟩, db₁, hfirst, hrest⟩ := Tx.bind_ok.mp h
    exact (appendEvent_ok hfirst).trans (ih hrest)

end Pactra
