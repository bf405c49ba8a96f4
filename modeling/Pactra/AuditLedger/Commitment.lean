import Pactra.AuditLedger.Verify

/-!
# A hash commits to its prefix

The hash of an event covers the hash of the event before it. As long as SHA-256 has no collision
among the hashed texts, two intact chains with the same hash at one position agree on everything up
to there.

## Main results

- `agrees_of_hash` — one hash determines the event
- `hash_commits_to_prefix` — and with it the events before
-/

namespace Pactra

/-- SHA-256 has no collision among some messages. -/
def CollisionFree (messages : List Nat → Prop) : Prop :=
  ∀ m m', messages m → messages m' → Sha256.hexdigest m = Sha256.hexdigest m' → m = m'

/-- The bytes that are hashed for an event, when its contents can be hashed. -/
def StoredEvent.preimage (env : Env) (e : StoredEvent) : Option (List Nat) :=
  match e.createdAt.map StoredDatetime.asUtc, encodePayload e.payload with
  | some (.ok instant), .ok payload =>
    some (Canonical.asciiBytes (canonicalEventBody env e.missionId.str e.sequence e.eventType e.actor
      payload e.previousHash instant))
  | _, _ => none

/-- Two events agree on everything that is hashed, payloads as JSON values, and on the hash. -/
structure Agrees (a b : StoredEvent) : Prop where
  missionId : a.missionId = b.missionId
  sequence : a.sequence = b.sequence
  eventType : a.eventType = b.eventType
  actor : a.actor = b.actor
  payload : ∃ v w, a.payload = .ofJson v ∧ b.payload = .ofJson w ∧ v.canon = w.canon
  previousHash : a.previousHash = b.previousHash
  eventHash : a.eventHash = b.eventHash
  createdAt : a.createdAt.map StoredDatetime.asUtc = b.createdAt.map StoredDatetime.asUtc

section Commitment

variable {env : Env} {P : Rat → Prop} {a b : StoredEvent}

/-- An event whose contents are hashed has an instant, and a payload that can be encoded. -/
lemma preimage_eq_some {m : List Nat} (h : a.preimage env = some m) :
    ∃ instant payload, a.createdAt.map StoredDatetime.asUtc = some (.ok instant) ∧
      encodePayload a.payload = .ok payload ∧
      m = Canonical.asciiBytes (canonicalEventBody env a.missionId.str a.sequence a.eventType a.actor
        payload a.previousHash instant) := by
  unfold StoredEvent.preimage at h
  split at h
  · next instant payload hinstant hpayload =>
    exact ⟨instant, payload, hinstant, hpayload, (Option.some.inj h).symm⟩
  · cases h

lemma recomputedHash_ok {hash : String} :
    recomputedHash env a = .ok (some hash) ↔ (a.preimage env).map Sha256.hexdigest = some hash := by
  unfold recomputedHash StoredEvent.preimage
  cases hcreated : a.createdAt with
  | none => simp [pure, Except.pure]
  | some t =>
    cases hinstant : t.asUtc with
    | error exc => simp [hinstant, Bind.bind, Except.bind]
    | ok instant =>
      cases hpayload : encodePayload a.payload with
      | error exc => simp [hinstant, Bind.bind, Except.bind]
      | ok payload =>
        simp [hinstant, Bind.bind, Except.bind, pure, Except.pure, computeEventHash,
          Canonical.asciiBytes]

lemma inRange_of_asUtc {t : StoredDatetime} {instant : Datetime} (h : t.asUtc = .ok instant) :
    instant.InRange := by
  unfold StoredDatetime.asUtc at h
  dsimp only at h
  split at h
  · next hrange =>
    cases h
    exact hrange
  · cases h

/-- The hashed text determines its parts. -/
lemma body_injective (hfloat : Json.FloatText P env.floatRepr) {m m' : String} {n n' : Int}
    {type type' actor actor' previous previous' : String} {payload payload' : Json}
    {t t' : Datetime} (hp : Json.Floats P payload) (hp' : Json.Floats P payload')
    (ht : t.InRange) (ht' : t'.InRange)
    (h : canonicalEventBody env m n type actor payload previous t =
      canonicalEventBody env m' n' type' actor' payload' previous' t') :
    m = m' ∧ n = n' ∧ type = type' ∧ actor = actor' ∧ payload.canon = payload'.canon ∧
      previous = previous' ∧ t = t' := by
  have hfloats : ∀ {payload : Json}, Json.Floats P payload → ∀ m n type actor previous created,
      Json.Floats P (.obj [("mission_id", .str m), ("sequence", .int n),
        ("event_type", .str type), ("actor", .str actor), ("payload", payload),
        ("previous_hash", .str previous), ("created_at", .str created)]) := by
    intro payload hp m n type actor previous created
    exact ⟨trivial, trivial, trivial, trivial, hp, trivial, trivial, trivial⟩
  have hsubset := (Json.perm_of_canon_obj (Json.canon_eq_of_dumps hfloat (hfloats hp _ _ _ _ _ _)
    (hfloats hp' _ _ _ _ _ _) h)).subset
  simp only [List.map_cons, List.map_nil, Json.canon] at hsubset
  have hentry : ∀ key value, (key, value) ∈ _ → _ := fun key value hmem => @hsubset (key, value) hmem
  have hmission := hentry "mission_id" (.str m) (by simp)
  have hsequence := hentry "sequence" (.int n) (by simp)
  have htype := hentry "event_type" (.str type) (by simp)
  have hactor := hentry "actor" (.str actor) (by simp)
  have hpayload := hentry "payload" payload.canon (by simp)
  have hprevious := hentry "previous_hash" (.str previous) (by simp)
  have hcreated := hentry "created_at" (.str t.isoformat) (by simp)
  simp at hmission hsequence htype hactor hpayload hprevious hcreated
  exact ⟨hmission, hsequence, htype, hactor, hpayload, hprevious,
    Datetime.isoformat_injective ht ht' hcreated⟩

/-- Without a collision between them, two events with the same hash agree. -/
lemma agrees_of_hash (hfloat : Json.FloatText P env.floatRepr) {messages : List Nat → Prop}
    (hcollision : CollisionFree messages) (ha : ∀ v, a.payload = .ofJson v → Json.Floats P v)
    (hb : ∀ v, b.payload = .ofJson v → Json.Floats P v)
    (hma : ∀ m, a.preimage env = some m → messages m)
    (hmb : ∀ m, b.preimage env = some m → messages m)
    (hra : recomputedHash env a = .ok (some a.eventHash))
    (hrb : recomputedHash env b = .ok (some b.eventHash))
    (h : a.eventHash = b.eventHash) : Agrees a b := by
  rw [recomputedHash_ok] at hra hrb
  obtain ⟨m, hm, hhash⟩ := Option.map_eq_some_iff.mp hra
  obtain ⟨m', hm', hhash'⟩ := Option.map_eq_some_iff.mp hrb
  obtain rfl : m = m' :=
    hcollision m m' (hma m hm) (hmb m' hm') (hhash.trans (h.trans hhash'.symm))
  obtain ⟨t, v, ht, hv, hbytes⟩ := preimage_eq_some hm
  obtain ⟨t', w, ht', hw, hbytes'⟩ := preimage_eq_some hm'
  have hv := (encodePayload_ok.mp hv).2
  have hw := (encodePayload_ok.mp hw).2
  have hbody : canonicalEventBody env a.missionId.str a.sequence a.eventType a.actor v
        a.previousHash t =
      canonicalEventBody env b.missionId.str b.sequence b.eventType b.actor w b.previousHash t' :=
    Canonical.asciiBytes_injective (hbytes.symm.trans hbytes')
  have hinstant : ∀ {e : StoredEvent} {instant : Datetime},
      e.createdAt.map StoredDatetime.asUtc = some (.ok instant) → instant.InRange := by
    intro e instant he
    obtain ⟨stored, -, hstored⟩ := Option.map_eq_some_iff.mp he
    exact inRange_of_asUtc hstored
  obtain ⟨hmission, hsequence, htype, hactor, hpayload, hprevious, rfl⟩ :=
    body_injective hfloat (ha v hv) (hb w hw) (hinstant ht) (hinstant ht') hbody
  exact ⟨Uuid.str_injective hmission, hsequence, htype, hactor, ⟨v, w, hv, hw, hpayload⟩, hprevious,
    h, ht.trans ht'.symm⟩

end Commitment

-- ════════════════════════════════════════════════════════════════════════
-- Prefixes
-- ════════════════════════════════════════════════════════════════════════

section Prefix

variable {env : Env} {events events' : List StoredEvent}

/-- The event at a position of an intact chain passes after the one before it. -/
lemma Intact.passes {preceding : Option StoredEvent} {index : Nat}
    (h : Intact env preceding index events) {i : Nat} {event : StoredEvent} (hevent : events[i]? = some event) :
    Passes env ((preceding :: events.map some).getD i none) (index + i) event := by
  induction events generalizing preceding index i with
  | nil => simp at hevent
  | cons first rest ih =>
    cases i with
    | zero =>
      obtain rfl : first = event := by simpa using hevent
      exact h.1
    | succ i =>
      have hrest := ih h.2 (by simpa using hevent)
      rw [Nat.add_assoc, Nat.add_comm 1 i] at hrest
      exact hrest

/-- A later event of an intact chain carries the hash of its predecessor. -/
lemma Intact.previousHash (h : Intact env none 0 events) {i : Nat} {a b : StoredEvent}
    (ha : events[i]? = some a) (hb : events[i + 1]? = some b) : b.previousHash = a.eventHash := by
  have hpasses := (h.passes hb).links
  simpa [StoredEvent.Links, List.getD, ha] using hpasses

/-- Events that are verified as valid are intact. -/
lemma intact_of_valid {missionId : Uuid} {result : AuditVerificationResult}
    (h : verifyEvents env missionId events = .ok result) (hvalid : result.valid = true) :
    Intact env none 0 (events.insertionSort verifiesBefore) := by
  rcases @verifyFrom_cases none 0 env missionId (fun _ => rfl)
    (events.insertionSort verifiesBefore) with
    ⟨-, described, hdescribed, j, -, -, hintact, -, hall, -⟩ | ⟨-, exc, hexc⟩
  · obtain rfl : result = described := Except.ok.inj (h.symm.trans hdescribed)
    rw [hall.mp hvalid, List.take_length] at hintact
    exact hintact
  · rw [verifyEvents, hexc] at h
    cases h

/-- Backwards along two intact chains: from one equal hash to the hash before it. -/
lemma agree_up_to (hintact : Intact env none 0 events) (hintact' : Intact env none 0 events')
    (hagrees : ∀ a ∈ events, ∀ b ∈ events', recomputedHash env a = .ok (some a.eventHash) →
      recomputedHash env b = .ok (some b.eventHash) → a.eventHash = b.eventHash → Agrees a b)
    (k : Nat) {a b : StoredEvent} (ha : events[k]? = some a) (hb : events'[k]? = some b)
    (h : a.eventHash = b.eventHash) :
    List.Forall₂ Agrees (events.take (k + 1)) (events'.take (k + 1)) := by
  have hhere : ∀ {i a b}, events[i]? = some a → events'[i]? = some b →
      a.eventHash = b.eventHash → Agrees a b := fun ha hb =>
    hagrees _ (List.mem_of_getElem? ha) _ (List.mem_of_getElem? hb)
      (hintact.passes ha).eventHash (hintact'.passes hb).eventHash
  induction k generalizing a b with
  | zero =>
    rw [List.take_add_one, List.take_add_one, ha, hb]
    exact .cons (hhere ha hb h) .nil
  | succ k ih =>
    obtain ⟨c, hc⟩ : ∃ c, events[k]? = some c := by
      obtain ⟨hlt, -⟩ := List.getElem?_eq_some_iff.mp ha
      exact ⟨_, List.getElem?_eq_getElem (by omega)⟩
    obtain ⟨d, hd⟩ : ∃ d, events'[k]? = some d := by
      obtain ⟨hlt, -⟩ := List.getElem?_eq_some_iff.mp hb
      exact ⟨_, List.getElem?_eq_getElem (by omega)⟩
    have hlast := hhere ha hb h
    have hlink : c.eventHash = d.eventHash := calc
      c.eventHash = a.previousHash := (hintact.previousHash hc ha).symm
      _ = b.previousHash := hlast.previousHash
      _ = d.eventHash := hintact'.previousHash hd hb
    rw [@List.take_add_one _ events (k + 1), @List.take_add_one _ events' (k + 1), ha, hb]
    exact List.rel_append (ih hc hd hlink) (.cons hlast .nil)

/-- A retained event hash commits to the whole prefix: two lists of events that are both verified
as valid, and whose events at one position of the order of verification have the same hash, agree
on every event up to there. So an edit, deletion, insertion, reordering or renumbering before an
event with a known hash is not verified as valid. -/
theorem hash_commits_to_prefix {missionId missionId' : Uuid} {P : Rat → Prop}
    (hfloat : Json.FloatText P env.floatRepr)
    (hfloats : ∀ e ∈ events ++ events', ∀ v, e.payload = .ofJson v → Json.Floats P v)
    (hcollision : CollisionFree fun m => ∃ e ∈ events ++ events', e.preimage env = some m)
    {result result' : AuditVerificationResult}
    (hresult : verifyEvents env missionId events = .ok result) (hvalid : result.valid = true)
    (hresult' : verifyEvents env missionId' events' = .ok result') (hvalid' : result'.valid = true)
    {k : Nat} {a b : StoredEvent} (ha : (events.insertionSort verifiesBefore)[k]? = some a)
    (hb : (events'.insertionSort verifiesBefore)[k]? = some b)
    (h : a.eventHash = b.eventHash) :
    List.Forall₂ Agrees ((events.insertionSort verifiesBefore).take (k + 1))
      ((events'.insertionSort verifiesBefore).take (k + 1)) := by
  refine agree_up_to (intact_of_valid hresult hvalid) (intact_of_valid hresult' hvalid') ?_ k ha hb h
  intro c hc d hd hcontents hcontents' hsame
  have hc : c ∈ events ++ events' :=
    List.mem_append_left _ ((List.perm_insertionSort verifiesBefore events).subset hc)
  have hd : d ∈ events ++ events' :=
    List.mem_append_right _ ((List.perm_insertionSort verifiesBefore events').subset hd)
  exact agrees_of_hash hfloat hcollision (hfloats c hc) (hfloats d hd)
    (fun m hm => ⟨c, hc, hm⟩) (fun m hm => ⟨d, hd, hm⟩) hcontents hcontents' hsame

end Prefix

namespace Sample

/-- A first event and its successor, under any identifiers. -/
def chain (first second : Uuid) : List StoredEvent :=
  [stored second 1 (stored first 0 genesisHash).eventHash, stored first 0 genesisHash]

/-- The event id is not hashed. -/
lemma preimage_stored (eventId eventId' : Uuid) (sequence : Int) (previousHash : String) :
    (stored eventId sequence previousHash).preimage ledgerEnv =
      (stored eventId' sequence previousHash).preimage ledgerEnv := rfl

/-- What is reported of a valid chain of two events. -/
def intactResult : AuditVerificationResult :=
  { valid := true, missionId := ⟨"m"⟩, eventsChecked := 2 }

lemma chain_valid :
    verifyEvents ledgerEnv ⟨"m"⟩ (chain ⟨"a"⟩ ⟨"b"⟩) = .ok intactResult := by
  decide +kernel

lemma chain_valid_renamed :
    verifyEvents ledgerEnv ⟨"m"⟩ (chain ⟨"c"⟩ ⟨"d"⟩) = .ok intactResult := by
  decide +kernel

/-- Only the two texts of a chain are hashed, and their hashes differ. -/
lemma chain_collisionFree : CollisionFree fun m =>
    ∃ e ∈ chain ⟨"a"⟩ ⟨"b"⟩ ++ chain ⟨"c"⟩ ⟨"d"⟩, e.preimage ledgerEnv = some m := by
  have hhashes : ((stored ⟨"a"⟩ 0 genesisHash).preimage ledgerEnv).map Sha256.hexdigest ≠
      ((stored ⟨"b"⟩ 1 (stored ⟨"a"⟩ 0 genesisHash).eventHash).preimage ledgerEnv).map
        Sha256.hexdigest := by
    decide +kernel
  have htexts : ∀ e ∈ chain ⟨"a"⟩ ⟨"b"⟩ ++ chain ⟨"c"⟩ ⟨"d"⟩,
      e.preimage ledgerEnv = (stored ⟨"a"⟩ 0 genesisHash).preimage ledgerEnv ∨
      e.preimage ledgerEnv =
        (stored ⟨"b"⟩ 1 (stored ⟨"a"⟩ 0 genesisHash).eventHash).preimage ledgerEnv := by
    intro e he
    simp only [chain, List.cons_append, List.nil_append, List.mem_cons, List.not_mem_nil,
      or_false] at he
    rcases he with rfl | rfl | rfl | rfl
    · exact .inr rfl
    · exact .inl rfl
    · exact .inr (preimage_stored _ _ _ _)
    · exact .inl (preimage_stored _ _ _ _)
  rintro m m' ⟨e, he, hm⟩ ⟨e', he', hm'⟩ hsame
  have hdigests : (e.preimage ledgerEnv).map Sha256.hexdigest =
      (e'.preimage ledgerEnv).map Sha256.hexdigest := by
    rw [hm, hm', Option.map_some, Option.map_some, hsame]
  suffices e.preimage ledgerEnv = e'.preimage ledgerEnv by
    exact Option.some.inj (hm.symm.trans (this.trans hm'))
  rcases htexts e he with h | h <;> rcases htexts e' he' with h' | h' <;>
    rw [h, h'] at hdigests ⊢
  · exact absurd hdigests hhashes
  · exact absurd hdigests.symm hhashes

end Sample

/-- Two chains that differ in their event ids only. -/
theorem hash_commits_to_prefix_renamed :
    List.Forall₂ Agrees ((Sample.chain ⟨"a"⟩ ⟨"b"⟩).insertionSort verifiesBefore)
      ((Sample.chain ⟨"c"⟩ ⟨"d"⟩).insertionSort verifiesBefore) := by
  refine @ hash_commits_to_prefix Sample.ledgerEnv (Sample.chain ⟨"a"⟩ ⟨"b"⟩)
    (Sample.chain ⟨"c"⟩ ⟨"d"⟩) ⟨"m"⟩ ⟨"m"⟩ (fun _ => False)
    ⟨fun _ h => h.elim, fun _ h => h.elim, fun _ _ h => h.elim, fun _ _ h => h.elim⟩
    ?_ ?_ _ _ Sample.chain_valid rfl Sample.chain_valid_renamed rfl 1 _ _ rfl rfl rfl
  · intro e he v hv
    have hpayload : ∀ e ∈ Sample.chain ⟨"a"⟩ ⟨"b"⟩ ++ Sample.chain ⟨"c"⟩ ⟨"d"⟩,
        e.payload = .ofJson (.obj []) := by
      intro e he
      simp only [Sample.chain, List.cons_append, List.nil_append, List.mem_cons,
        List.not_mem_nil, or_false] at he
      rcases he with rfl | rfl | rfl | rfl <;> rfl
    have hsame : PyJson.json? e.payload = some (.obj []) :=
      PyJson.json?_eq_some.mpr (hpayload e he)
    rw [PyJson.json?_eq_some.mpr hv, Option.some.injEq] at hsame
    rw [hsame]
    trivial
  · exact Sample.chain_collisionFree

end Pactra
