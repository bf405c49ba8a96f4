import Mathlib.Data.String.Basic
import Pactra.AuditLedger.Ledger
import Pactra.Foundation.PyJson
import Pactra.Schemas.Injectivity

/-!
# Chain verification

`services/audit_ledger/verify.py`: a mission's events are sorted by sequence and event id, and
checked in that order for shape, position, genesis or linkage, and content. The first failure is
reported. An event whose contents cannot be hashed ends the verification with an exception.

## Main results

- `verifyFrom_cases` — the loop counts the events that pass, up to one that fails or cannot be hashed
- `sorted_perm` — the order in which events arrive does not matter
- `verify_longest_prefix_iff` — when the result describes the longest intact prefix
-/

namespace Pactra

-- ════════════════════════════════════════════════════════════════════════
-- Stored events
-- ════════════════════════════════════════════════════════════════════════

/-- A datetime as a store hands it back: wall clock time with its UTC offset, or without one when
the store drops it. -/
structure StoredDatetime where
  wall : Int
  offset : Option Int
  inRange : Datetime.InRange wall

/-- `as_utc`: a datetime without offset was written as UTC, and an instant outside the years of a
datetime overflows. -/
def StoredDatetime.asUtc (t : StoredDatetime) : Except Exc Datetime :=
  let instant : Datetime := t.wall - t.offset.getD 0
  if instant.InRange then .ok instant
  else .error (.other "OverflowError" "date value out of range")

/-- An `audit_events` row as it is read back for verification. -/
structure StoredEvent where
  eventId : Uuid
  missionId : Uuid
  sequence : Int
  eventType : String
  actor : String
  payload : PyJson
  previousHash : String
  eventHash : String
  createdAt : Option StoredDatetime

/-- `AuditReasonCode`. -/
inductive AuditReasonCode where
  | auditValid | auditSequenceGap | auditPreviousHashMismatch | auditEventHashMismatch
  | auditGenesisInvalid | auditEventMalformed
deriving DecidableEq

/-- `AuditVerificationResult`. -/
structure AuditVerificationResult where
  valid : Bool
  missionId : Uuid
  eventsChecked : Nat
  firstInvalidSequence : Option Int := none
  reasonCode : AuditReasonCode := .auditValid
  expectedHash : Option String := none
  actualHash : Option String := none
  detail : Option String := none
deriving DecidableEq

/-- `_is_hash_shaped`. -/
def isHashShaped (value : String) : Bool :=
  value.length == 64 && value.toList.all fun c => "0123456789abcdef".toList.contains c

/-- `_malformed`. -/
def malformed (missionId : Uuid) (checked : Nat) (sequence : Int) (detail : String) :
    AuditVerificationResult where
  valid := false
  missionId := missionId
  eventsChecked := checked
  firstInvalidSequence := some sequence
  reasonCode := .auditEventMalformed
  detail := some detail

/-- Whether a payload is a JSON object. -/
def isObject : PyJson → Bool
  | .obj _ => true
  | _ => false

/-- `_structural_failure`. -/
def structuralFailure (missionId : Uuid) (checked index : Nat) (event : StoredEvent) :
    Option AuditVerificationResult :=
  let failure := fun detail => some (malformed missionId checked event.sequence detail)
  if event.sequence < 0 then
    failure ("event at position " ++ toString index ++ " has a negative sequence")
  else if !isHashShaped event.previousHash then
    failure "previous_hash is not 64 lowercase hex characters"
  else if !isHashShaped event.eventHash then
    failure "event_hash is not 64 lowercase hex characters"
  else if !isObject event.payload then failure "payload is not a JSON object"
  else if event.eventType = "" then failure "event_type is empty"
  else if event.actor = "" then failure "actor is empty"
  else if event.createdAt.isNone then
    failure "created_at is absent, so the hashed instant cannot be reproduced"
  else none

/-- `compute_event_hash` of an event's contents, when it has a time. -/
def recomputedHash (env : Env) (event : StoredEvent) : Except Exc (Option String) :=
  match event.createdAt with
  | none => pure none
  | some createdAt => do
    let instant ← createdAt.asUtc
    let payload ← encodePayload event.payload
    pure (some (computeEventHash env event.missionId.str event.sequence event.eventType event.actor
      payload event.previousHash instant))

/-- The early returns of the loop of `verify_events` for one event, at its position and after the
preceding event. -/
def eventFailure (env : Env) (missionId : Uuid) (preceding : Option StoredEvent) (index : Nat)
    (event : StoredEvent) : Except Exc (Option AuditVerificationResult) :=
  match structuralFailure missionId index index event with
  | some result => pure (some result)
  | none =>
    if event.sequence ≠ index then
      if Wire.spellsInt event.sequence then
        pure (some
          { valid := false, missionId := missionId, eventsChecked := index
            firstInvalidSequence := some event.sequence, reasonCode := .auditSequenceGap
            detail := some ("expected sequence " ++ toString index ++ ", found " ++
              toString event.sequence) })
      else .error digitsLimit
    else
      match linkFailure missionId preceding index event with
      | some result => pure (some result)
      | none => do
        let recomputed ← recomputedHash env event
        if recomputed ≠ some event.eventHash then
          pure (some
            { valid := false, missionId := missionId, eventsChecked := index
              firstInvalidSequence := some event.sequence
              reasonCode := .auditEventHashMismatch
              expectedHash := recomputed, actualHash := some event.eventHash
              detail := some "the event's contents do not hash to its stored event_hash" })
        else pure none
where
  /-- The first event carries the genesis hash, each later one that of the event before it. -/
  linkFailure (missionId : Uuid) (preceding : Option StoredEvent) (index : Nat)
      (event : StoredEvent) : Option AuditVerificationResult :=
    match preceding with
    | none =>
      if event.previousHash ≠ genesisHash then
        some
          { valid := false, missionId := missionId, eventsChecked := 0
            firstInvalidSequence := some event.sequence, reasonCode := .auditGenesisInvalid
            expectedHash := some genesisHash, actualHash := some event.previousHash
            detail := some "the first event must carry the genesis previous_hash" }
      else none
    | some preceding =>
      if event.previousHash ≠ preceding.eventHash then
        some
          { valid := false, missionId := missionId, eventsChecked := index
            firstInvalidSequence := some event.sequence
            reasonCode := .auditPreviousHashMismatch
            expectedHash := some preceding.eventHash, actualHash := some event.previousHash
            detail := some "this event does not link to the event before it" }
      else none

/-- The loop of `verify_events`, from a position on. -/
def verifyFrom (env : Env) (missionId : Uuid) (preceding : Option StoredEvent) (index : Nat) :
    List StoredEvent → Except Exc AuditVerificationResult
  | [] => pure { valid := true, missionId := missionId, eventsChecked := index }
  | event :: rest =>
    match eventFailure env missionId preceding index event with
    | .error exc => .error exc
    | .ok (some result) => pure result
    | .ok none => verifyFrom env missionId (some event) (index + 1) rest

/-- The order in which events are verified: by sequence, then by the text of the event id. -/
def verifiesBefore (a b : StoredEvent) : Prop :=
  a.sequence < b.sequence ∨ (a.sequence = b.sequence ∧ a.eventId.str ≤ b.eventId.str)

instance : DecidableRel verifiesBefore := fun a b => by unfold verifiesBefore; infer_instance

/-- `verify_events`. -/
def verifyEvents (env : Env) (missionId : Uuid) (events : List StoredEvent) :
    Except Exc AuditVerificationResult :=
  verifyFrom env missionId none 0 (events.insertionSort verifiesBefore)

-- ════════════════════════════════════════════════════════════════════════
-- The loop
-- ════════════════════════════════════════════════════════════════════════

/-- A row that is shaped like an audit event. -/
structure StoredEvent.WellFormed (event : StoredEvent) : Prop where
  sequence : 0 ≤ event.sequence
  previousHash : isHashShaped event.previousHash = true
  eventHash : isHashShaped event.eventHash = true
  payload : isObject event.payload = true
  eventType : event.eventType ≠ ""
  actor : event.actor ≠ ""
  createdAt : event.createdAt ≠ none

/-- An event that links to the one before it. -/
def StoredEvent.Links (event : StoredEvent) (preceding : Option StoredEvent) : Prop :=
  event.previousHash = (preceding.map StoredEvent.eventHash).getD genesisHash

/-- An event that passes every check at its position. -/
structure Passes (env : Env) (preceding : Option StoredEvent) (index : Nat)
    (event : StoredEvent) : Prop where
  wellFormed : event.WellFormed
  sequence : event.sequence = index
  links : event.Links preceding
  eventHash : recomputedHash env event = .ok (some event.eventHash)

/-- Every event passes at its position, the first one after a given event. -/
def Intact (env : Env) : Option StoredEvent → Nat → List StoredEvent → Prop
  | _, _, [] => True
  | preceding, index, event :: rest =>
    Passes env preceding index event ∧ Intact env (some event) (index + 1) rest

/-- An event whose contents can be hashed: UTC has its time, and its payload has no surrogate and no
integer with too many digits. -/
structure StoredEvent.Hashable (event : StoredEvent) : Prop where
  createdAt : ∀ t, event.createdAt = some t → Datetime.InRange (t.wall - t.offset.getD 0)
  characters : ∃ v, event.payload = .ofJson v
  spellable : Wire.spellable event.payload = true

/-- A well-formed event of which no result can be made: its sequence is a wrong one with too many
digits to be printed, or it is in its place and its contents cannot be hashed. -/
def Unreportable (preceding : Option StoredEvent) (index : Nat) (event : StoredEvent) : Prop :=
  event.WellFormed ∧
    ((event.sequence ≠ index ∧ Wire.spellsInt event.sequence = false) ∨
      (event.sequence = index ∧ event.Links preceding ∧ ¬event.Hashable))

/-- After some events that pass comes one of which no result can be made. -/
def Obstructed (env : Env) : Option StoredEvent → Nat → List StoredEvent → Prop
  | _, _, [] => False
  | preceding, index, event :: rest =>
    Unreportable preceding index event ∨
      (Passes env preceding index event ∧ Obstructed env (some event) (index + 1) rest)

section Loop

variable {env : Env} {missionId : Uuid} {preceding : Option StoredEvent} {index : Nat}
  {event : StoredEvent}

lemma structuralFailure_eq_none {checked : Nat} :
    structuralFailure missionId checked index event = none ↔ event.WellFormed := by
  unfold structuralFailure
  dsimp only
  constructor
  · intro h
    split_ifs at h with h₁ h₂ h₃ h₄ h₅ h₆ h₇
    exact ⟨by omega, by simpa using h₂, by simpa using h₃, by simpa using h₄, h₅, h₆,
      by simpa using h₇⟩
  · rintro ⟨h₁, h₂, h₃, h₄, h₅, h₆, h₇⟩
    rw [if_neg (by omega), if_neg (by simpa using h₂), if_neg (by simpa using h₃),
      if_neg (by simpa using h₄), if_neg h₅, if_neg h₆, if_neg (by simpa using h₇)]

/-- A failure names the position and the sequence of its event. -/
structure Reports (index : Nat) (event : StoredEvent) (result : AuditVerificationResult) : Prop where
  valid : result.valid = false
  checked : result.eventsChecked = index
  sequence : result.firstInvalidSequence = some event.sequence

lemma structuralFailure_reports {result : AuditVerificationResult}
    (h : structuralFailure missionId index index event = some result) :
    Reports index event result := by
  unfold structuralFailure at h
  dsimp only at h
  split_ifs at h
  all_goals
    obtain rfl := Option.some.inj h
    exact ⟨rfl, rfl, rfl⟩

/-- The check of the link fails with a result, exactly for an event that does not link. -/
lemma linkFailure_cases (missionId : Uuid) (event : StoredEvent)
    (hfirst : preceding = none → index = 0) :
    (eventFailure.linkFailure missionId preceding index event = none ∧ event.Links preceding) ∨
      ∃ result, eventFailure.linkFailure missionId preceding index event = some result ∧
        Reports index event result ∧ ¬event.Links preceding := by
  unfold eventFailure.linkFailure StoredEvent.Links
  cases preceding with
  | none =>
    dsimp only
    split_ifs with h
    · exact .inr ⟨_, rfl, ⟨rfl, (hfirst rfl).symm, rfl⟩, h⟩
    · exact .inl ⟨rfl, not_not.mp h⟩
  | some preceding =>
    dsimp only
    split_ifs with h
    · exact .inr ⟨_, rfl, ⟨rfl, rfl, rfl⟩, h⟩
    · exact .inl ⟨rfl, not_not.mp h⟩

/-- The contents are hashed exactly if they can be. -/
lemma recomputedHash_cases (env : Env) (h : event.WellFormed) :
    (event.Hashable ∧ ∃ recomputed, recomputedHash env event = .ok recomputed) ∨
      (¬event.Hashable ∧ ∃ exc, recomputedHash env event = .error exc) := by
  obtain ⟨t, ht⟩ := Option.ne_none_iff_exists'.mp h.createdAt
  unfold recomputedHash
  simp only [ht]
  by_cases hinstant : Datetime.InRange (t.wall - t.offset.getD 0)
  · have hutc : t.asUtc = .ok (t.wall - t.offset.getD 0) := if_pos hinstant
    rw [hutc]
    cases hpayload : encodePayload event.payload with
    | ok v =>
      obtain ⟨hspellable, hv⟩ := encodePayload_ok.mp hpayload
      refine .inl ⟨⟨fun t' ht' => ?_, ⟨v, hv⟩, hspellable⟩, _, rfl⟩
      obtain rfl : t = t' := Option.some.inj (ht.symm.trans ht')
      exact hinstant
    | error exc =>
      refine .inr ⟨fun hhashable => ?_, exc, rfl⟩
      obtain ⟨v, hv⟩ := hhashable.characters
      rw [encodePayload_ok.mpr ⟨hhashable.spellable, hv⟩] at hpayload
      cases hpayload
  · have hutc : t.asUtc = .error (.other "OverflowError" "date value out of range") :=
      if_neg hinstant
    rw [hutc]
    exact .inr ⟨fun hhashable => hinstant (hhashable.createdAt t ht), _, rfl⟩

/-- An event that passes is no obstacle. -/
lemma Passes.not_unreportable (h : Passes env preceding index event) :
    ¬Unreportable preceding index event := by
  rintro ⟨hshape, ⟨hsequence, -⟩ | ⟨-, -, hunhashable⟩⟩
  · exact hsequence h.sequence
  · rcases recomputedHash_cases env hshape with ⟨hhashable, -⟩ | ⟨-, exc, hexc⟩
    · exact hunhashable hhashable
    · rw [h.eventHash] at hexc
      cases hexc

/-- An event passes, fails with a result, or is one of which no result can be made. -/
lemma eventFailure_cases (env : Env) (missionId : Uuid) (event : StoredEvent)
    (hfirst : preceding = none → index = 0) :
    (eventFailure env missionId preceding index event = .ok none ∧
        Passes env preceding index event) ∨
      (∃ result, eventFailure env missionId preceding index event = .ok (some result) ∧
        Reports index event result ∧ ¬Passes env preceding index event ∧
        ¬Unreportable preceding index event) ∨
      ∃ exc, eventFailure env missionId preceding index event = .error exc ∧
        Unreportable preceding index event := by
  unfold eventFailure
  cases hshape : structuralFailure missionId index index event with
  | some result =>
    have hill : ¬event.WellFormed := by
      rw [← @structuralFailure_eq_none missionId index event index, hshape]
      exact nofun
    exact .inr (.inl ⟨result, rfl, structuralFailure_reports hshape, fun h => hill h.wellFormed,
      fun h => hill h.1⟩)
  | none =>
    have hwf := structuralFailure_eq_none.mp hshape
    dsimp only
    by_cases hseq : event.sequence = index
    · rw [if_neg (not_not.mpr hseq)]
      have hplace : ¬(event.sequence ≠ index ∧ Wire.spellsInt event.sequence = false) :=
        fun h => h.1 hseq
      rcases linkFailure_cases missionId event hfirst with
        ⟨hnone, hlinks⟩ | ⟨result, hsome, hreports, hunlinked⟩
      · simp only [hnone]
        rcases recomputedHash_cases env hwf with ⟨hhashable, hash, hhash⟩ | ⟨hunhashable, exc, hexc⟩
        · have hreportable : ¬Unreportable preceding index event := by
            rintro ⟨-, h | ⟨-, -, h⟩⟩
            · exact hplace h
            · exact h hhashable
          rw [hhash]
          by_cases hsame : hash = some event.eventHash
          · refine .inl ⟨?_, hwf, hseq, hlinks, hsame ▸ hhash⟩
            exact if_neg (not_not.mpr hsame)
          · refine .inr (.inl ⟨_, if_pos hsame, ⟨rfl, rfl, rfl⟩, fun h => hsame ?_, hreportable⟩)
            exact Except.ok.inj (hhash.symm.trans h.eventHash)
        · rw [hexc]
          exact .inr (.inr ⟨exc, rfl, hwf, .inr ⟨hseq, hlinks, hunhashable⟩⟩)
      · simp only [hsome]
        refine .inr (.inl ⟨result, rfl, hreports, fun h => hunlinked h.links, ?_⟩)
        rintro ⟨-, h | ⟨-, h, -⟩⟩
        · exact hplace h
        · exact hunlinked h
    · rw [if_pos hseq]
      cases hspells : Wire.spellsInt event.sequence with
      | true =>
        refine .inr (.inl ⟨_, rfl, ⟨rfl, rfl, rfl⟩, fun h => hseq h.sequence, ?_⟩)
        rintro ⟨-, ⟨-, h⟩ | ⟨h, -⟩⟩
        · rw [hspells] at h
          cases h
        · exact hseq h
      | false => exact .inr (.inr ⟨_, rfl, hwf, .inl ⟨hseq, hspells⟩⟩)

/-- A result describes the longest intact prefix of some events: their number, whether it is all of
them, and otherwise the sequence of the event after it. -/
def Describes (env : Env) (preceding : Option StoredEvent) (index : Nat) (events : List StoredEvent)
    (result : AuditVerificationResult) : Prop :=
  ∃ j ≤ events.length, result.eventsChecked = index + j ∧
    Intact env preceding index (events.take j) ∧
    (∀ k ≤ events.length, Intact env preceding index (events.take k) → k ≤ j) ∧
    (result.valid = true ↔ j = events.length) ∧
    ∀ event, events[j]? = some event → result.firstInvalidSequence = some event.sequence

lemma Describes.cons {events : List StoredEvent} {result : AuditVerificationResult}
    (hpasses : Passes env preceding index event)
    (h : Describes env (some event) (index + 1) events result) :
    Describes env preceding index (event :: events) result := by
  obtain ⟨j, hj, hchecked, hintact, hmax, hvalid, hsequence⟩ := h
  refine ⟨j + 1, Nat.succ_le_succ hj, by omega, ⟨hpasses, hintact⟩, ?_, by simpa using hvalid,
    fun next hnext => hsequence next (by simpa using hnext)⟩
  intro k hk hk'
  cases k with
  | zero => exact Nat.zero_le _
  | succ k => exact Nat.succ_le_succ (hmax k (Nat.le_of_succ_le_succ hk) hk'.2)

lemma Describes.first {events : List StoredEvent} {result : AuditVerificationResult}
    (hfails : ¬Passes env preceding index event) (h : Reports index event result) :
    Describes env preceding index (event :: events) result := by
  refine ⟨0, Nat.zero_le _, h.checked, trivial, ?_, by simp [h.valid], ?_⟩
  · intro k hk hk'
    cases k with
    | zero => exact le_rfl
    | succ k => exact absurd hk'.1 hfails
  · intro next hnext
    obtain rfl : event = next := by simpa using hnext
    exact h.sequence

/-- The loop counts the events that pass, up to the first that does not. It ends with an exception
exactly at one of which no result can be made. -/
theorem verifyFrom_cases (env : Env) (missionId : Uuid) (hfirst : preceding = none → index = 0)
    (events : List StoredEvent) :
    (¬Obstructed env preceding index events ∧ ∃ result,
        verifyFrom env missionId preceding index events = .ok result ∧
          Describes env preceding index events result) ∨
      (Obstructed env preceding index events ∧
        ∃ exc, verifyFrom env missionId preceding index events = .error exc) := by
  induction events generalizing preceding index with
  | nil =>
    refine .inl ⟨not_false, _, rfl, 0, le_rfl, rfl, trivial, fun k hk _ => hk, by simp, ?_⟩
    intro event hevent
    simp at hevent
  | cons event rest ih =>
    simp only [verifyFrom, Obstructed, not_or, not_and]
    rcases eventFailure_cases env missionId event hfirst with
      ⟨hnone, hpasses⟩ | ⟨result, hsome, hreports, hfails, hreportable⟩ | ⟨exc, hexc, hunreportable⟩
    · simp only [hnone]
      have hnext : some event = none → index + 1 = 0 := fun h => absurd h (Option.some_ne_none _)
      rcases ih hnext with ⟨hclear, result, hresult, hdescribes⟩ | ⟨hobstructed, exc, hexc⟩
      · exact .inl ⟨⟨hpasses.not_unreportable, fun _ => hclear⟩, result, hresult,
          hdescribes.cons hpasses⟩
      · exact .inr ⟨.inr ⟨hpasses, hobstructed⟩, exc, hexc⟩
    · simp only [hsome]
      exact .inl ⟨⟨hreportable, fun hpasses => absurd hpasses hfails⟩, result, rfl, .first hfails hreports⟩
    · simp only [hexc]
      exact .inr ⟨.inl hunreportable, exc, rfl⟩

end Loop

-- ════════════════════════════════════════════════════════════════════════
-- Order
-- ════════════════════════════════════════════════════════════════════════

section Order

variable {events events' : List StoredEvent}

instance : Std.Total verifiesBefore where
  total a b := by
    unfold verifiesBefore
    rcases Int.lt_trichotomy a.sequence b.sequence with h | h | h
    · exact .inl (.inl h)
    · rcases le_total a.eventId.str b.eventId.str with h' | h'
      · exact .inl (.inr ⟨h, h'⟩)
      · exact .inr (.inr ⟨h.symm, h'⟩)
    · exact .inr (.inl h)

instance : IsTrans StoredEvent verifiesBefore where
  trans a b c := by
    rintro (h | ⟨h, hid⟩) (h' | ⟨h', hid'⟩)
    · exact .inl (Int.lt_trans h h')
    · exact .inl (h' ▸ h)
    · exact .inl (h ▸ h')
    · exact .inr ⟨h.trans h', le_trans hid hid'⟩

/-- Where no two events have the same place, the order of verification is the only one. -/
lemma sorted_eq (hperm : events.Perm events')
    (hplaces : ∀ a ∈ events, ∀ b ∈ events, verifiesBefore a b → verifiesBefore b a → a = b) :
    events.insertionSort verifiesBefore = events'.insertionSort verifiesBefore := by
  have hsorted : (events.insertionSort verifiesBefore).Perm (events'.insertionSort verifiesBefore) :=
    (List.perm_insertionSort _ _).trans (hperm.trans (List.perm_insertionSort _ _).symm)
  refine hsorted.eq_of_pairwise ?_ (List.pairwise_insertionSort _ _)
    (List.pairwise_insertionSort _ _)
  intro a b ha hb
  exact hplaces a ((List.perm_insertionSort verifiesBefore events).subset ha) b
    (hperm.symm.subset ((List.perm_insertionSort verifiesBefore events').subset hb))

/-- With distinct event ids, what is verified does not depend on how the events arrive. -/
lemma sorted_perm (hids : (events.map StoredEvent.eventId).Nodup) (h : events.Perm events') :
    events.insertionSort verifiesBefore = events'.insertionSort verifiesBefore := by
  refine sorted_eq h ?_
  -- two events of the same place have the same id, so they are one event
  intro a ha b hb hab hba
  have hsame : a.eventId.str = b.eventId.str := by
    rcases hab with h | ⟨h, hid⟩ <;> rcases hba with h' | ⟨h', hid'⟩
    · omega
    · omega
    · omega
    · exact le_antisymm hid hid'
  exact List.inj_on_of_nodup_map hids ha hb (Uuid.str_injective hsame)

/-- `verify_events` reports the longest intact prefix of the sorted events, whatever the order in
which they arrive. -/
def ReportsLongestPrefix (env : Env) (missionId : Uuid) (events : List StoredEvent) : Prop :=
  ∃ result, Describes env none 0 (events.insertionSort verifiesBefore) result ∧
    ∀ events', events.Perm events' → verifyEvents env missionId events' = .ok result

/-- `verify_events` reports the longest intact prefix of the sorted events exactly if the event after
that prefix is not one of which no result can be made. -/
theorem verify_longest_prefix_iff (env : Env) (missionId : Uuid)
    (hids : (events.map StoredEvent.eventId).Nodup) :
    ReportsLongestPrefix env missionId events ↔
      ¬Obstructed env none 0 (events.insertionSort verifiesBefore) := by
  rcases @verifyFrom_cases none 0 env missionId (fun _ => rfl)
    (events.insertionSort verifiesBefore) with
    ⟨hclear, result, hresult, hdescribes⟩ | ⟨hobstructed, exc, hexc⟩
  · refine iff_of_true ⟨result, hdescribes, fun events' hperm => ?_⟩ hclear
    rw [verifyEvents, ← sorted_perm hids hperm, hresult]
  · refine iff_of_false ?_ (not_not.mpr hobstructed)
    rintro ⟨result, -, hresult⟩
    have hsame := hresult events (.refl events)
    rw [verifyEvents, hexc] at hsame
    cases hsame

end Order

namespace Sample

/-- Surroundings for the ledger, with counting identifiers and a clock that stands still. -/
def ledgerEnv : Env where
  uuid4 n := ⟨toString n⟩
  utcnow _ := 0
  tokenHex _ := ""
  upper := id
  upper_upper := upper_id
  repr s := s
  floatRepr q := toString q.num
  pyStr _ := ""
  ed25519Verify _ _ _ := true
  demoApproverSigningKeyId := "demo-approver"
  demoApproverPublicKeyHex := none
  authorizationTtlSeconds := 900
  createRetriesAreIdempotent _ := true

lemma inRange_zero : Datetime.InRange 0 := by decide

/-- An event as the ledger writes it, read back without its offset. -/
def stored (eventId : Uuid) (sequence : Int) (previousHash : String) : StoredEvent where
  eventId := eventId
  missionId := ⟨"m"⟩
  sequence := sequence
  eventType := "MISSION_CREATED"
  actor := "orchestrator"
  payload := .obj []
  previousHash := previousHash
  eventHash := computeEventHash ledgerEnv "m" sequence "MISSION_CREATED" "orchestrator" (.obj [])
    previousHash 0
  createdAt := some ⟨0, none, inRange_zero⟩

lemma hashable_stored (eventId : Uuid) (sequence : Int) (previousHash : String) :
    (stored eventId sequence previousHash).Hashable := by
  refine ⟨fun t ht => ?_, ⟨.obj [], rfl⟩, rfl⟩
  obtain rfl := Option.some.inj ht
  exact inRange_zero

/-- The first event, with a payload that was edited to hold a lone surrogate. -/
def edited : StoredEvent :=
  { stored ⟨"a"⟩ 0 genesisHash with
    payload := .obj [("raw_query", .str ⟨[.surrogate 0]⟩)] }

lemma wellFormed_edited : edited.WellFormed where
  sequence := by decide
  previousHash := by decide
  eventHash := by decide +kernel
  payload := rfl
  eventType := by decide
  actor := by decide
  createdAt := nofun

lemma not_hashable_edited : ¬edited.Hashable := by
  rintro ⟨-, ⟨v, hv⟩, -⟩
  have hnone : PyJson.json? edited.payload = none := rfl
  rw [PyJson.json?_eq_some.mpr hv] at hnone
  cases hnone

/-- A first event, and one whose number leaves a gap. -/
def gap : List StoredEvent := [stored ⟨"b"⟩ 2 genesisHash, stored ⟨"a"⟩ 0 genesisHash]

lemma gap_clear : ¬Obstructed ledgerEnv none 0 (gap.insertionSort verifiesBefore) := by
  have hsorted : gap.insertionSort verifiesBefore =
      [stored ⟨"a"⟩ 0 genesisHash, stored ⟨"b"⟩ 2 genesisHash] := rfl
  rw [hsorted]
  rintro (⟨-, ⟨hne, -⟩ | ⟨-, -, h⟩⟩ | ⟨-, ⟨-, ⟨-, hlong⟩ | ⟨hplace, -⟩⟩ | ⟨hpasses, -⟩⟩)
  · exact hne rfl
  · exact h (hashable_stored _ _ _)
  · rw [Wire.spellsInt_of_lt (by decide)] at hlong
    cases hlong
  · exact absurd hplace (by decide)
  · exact absurd hpasses.sequence (by decide)

end Sample

/-- The edited event: its payload is JSON, and nothing is reported of it. -/
theorem verify_stops_at_surrogate : ¬∀ (env : Env) (missionId : Uuid) (events : List StoredEvent),
    (events.map StoredEvent.eventId).Nodup → ReportsLongestPrefix env missionId events := by
  intro h
  have hreports := h Sample.ledgerEnv ⟨"m"⟩ [Sample.edited] (List.nodup_singleton _)
  obtain ⟨result, -, hresult⟩ := hreports
  have hobstructed : Obstructed Sample.ledgerEnv none 0 [Sample.edited] :=
    .inl ⟨Sample.wellFormed_edited, .inr ⟨rfl, rfl, Sample.not_hashable_edited⟩⟩
  rcases @verifyFrom_cases none 0 Sample.ledgerEnv ⟨"m"⟩ (fun _ => rfl) [Sample.edited] with
    ⟨hclear, -⟩ | ⟨-, exc, hexc⟩
  · exact hclear hobstructed
  · have hsame : verifyEvents Sample.ledgerEnv ⟨"m"⟩ [Sample.edited] = .ok result :=
      hresult _ (.refl _)
    have herror : verifyEvents Sample.ledgerEnv ⟨"m"⟩ [Sample.edited] = .error exc := hexc
    rw [herror] at hsame
    cases hsame

/-- The two events with the gap are reported, in whatever order they arrive. -/
theorem verify_longest_prefix_iff_gap :
    ReportsLongestPrefix Sample.ledgerEnv ⟨"m"⟩ Sample.gap :=
  (verify_longest_prefix_iff Sample.ledgerEnv ⟨"m"⟩
    (show (Sample.gap.map StoredEvent.eventId).Nodup by decide)).mpr Sample.gap_clear

end Pactra
