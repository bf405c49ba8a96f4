import Mathlib.Algebra.Group.Int.Defs
import Pactra.AuditLedger.Replay
import Pactra.AuditLedger.Verify
import Pactra.Foundation.Related

/-!
# Risk assessments in replay

A `RISK_ASSESSED` event adds a record to a list that no other rule reads. Two reconstructed states
that differ only in that list and in the number of events therefore stay so under every event, and
deleting advisory events from a history, or adding some to it, changes nothing else. The one advisory
event that does stop a replay is one whose score is an integer beyond the range of a float.

## Main results

- `applyEvent_rest` — no event reads what advisory events leave behind
- `foldlM_deleted`, `foldlM_inserted` — histories with and without advisory events
- `riskEvents_inert_iff` — replay of the two histories
-/

namespace Pactra

/-- A reconstructed state without the number of its events and its advisory records. -/
def ReplayState.rest (s : ReplayState) : ReplayState :=
  { s with eventsReplayed := 0, riskAssessments := [] }

namespace Replay

/-- A `RISK_ASSESSED` event. -/
def IsRisk (e : AuditEventRow) : Prop := e.eventType = EventType.riskAssessed.value

/-- The score of an event, if it is an integer, lies in the range of a float. -/
def ScoreFits (e : AuditEventRow) : Prop :=
  ∀ n, payloadGet e "score" = some (.int n) → n.natAbs < Numeric.floatBound

-- ════════════════════════════════════════════════════════════════════════
-- One event
-- ════════════════════════════════════════════════════════════════════════

section OneEvent

variable (env : Env) (s : ReplayState) (e : AuditEventRow)

lemma rest_advance (target : MissionState) :
    (advance s e target).rest = advance s.rest e target := by
  unfold advance
  cases hs : s.missionState with
  | none => simp [ReplayState.rest, hs]
  | some current =>
    by_cases hc : current = target
    · simp [ReplayState.rest, hs, hc]
    · by_cases ht : current.canTransition target = true <;> simp [ReplayState.rest, hs, hc, ht]

lemma rest_recordSecurity :
    ReplayState.rest <$> recordSecurity s e = recordSecurity s.rest e := by
  simp only [recordSecurity, map_bind]
  rfl

lemma rest_commonPaymentFields :
    ReplayState.rest <$> commonPaymentFields s e = commonPaymentFields s.rest e := by
  unfold commonPaymentFields
  by_cases h : payloadHas e "reason_code" = true
  · simp only [h, if_true, map_bind]
    rfl
  · simp only [h, map_bind]
    rfl

lemma rest_paymentStateFromPayload :
    ReplayState.rest <$> paymentStateFromPayload env s e = paymentStateFromPayload env s.rest e := by
  unfold paymentStateFromPayload
  split
  · rfl
  · split <;> rfl
  · rfl

/-- A rule that goes on from another one. -/
lemma rest_bind {x y : Except ReplayError ReplayState}
    {f g : ReplayState → Except ReplayError ReplayState} (hx : ReplayState.rest <$> x = y)
    (h : ∀ c, ReplayState.rest <$> f c = g c.rest) : ReplayState.rest <$> (x >>= f) = y >>= g := by
  rw [map_bind, ← hx, bind_map_left]
  exact bind_congr h

/-- A rule that goes on from the payment fields and the payment's state. -/
lemma rest_afterState {f g : ReplayState → Except ReplayError ReplayState}
    (h : ∀ c, ReplayState.rest <$> f c = g c.rest) :
    ReplayState.rest <$> (commonPaymentFields s e >>= fun c => paymentStateFromPayload env c e >>= f) =
      commonPaymentFields s.rest e >>= fun c => paymentStateFromPayload env c e >>= g :=
  rest_bind (rest_commonPaymentFields s e) fun c => rest_bind (rest_paymentStateFromPayload env c e) h

lemma rest_onIntentParsed : ReplayState.rest <$> onIntentParsed s e = onIntentParsed s.rest e := by
  unfold onIntentParsed
  split
  · exact congrArg Except.ok (rest_advance _ _ _)
  · exact congrArg Except.ok (rest_advance _ _ _)
  · rfl

lemma rest_onPolicyDecision :
    ReplayState.rest <$> onPolicyDecision env s e = onPolicyDecision env s.rest e := by
  unfold onPolicyDecision
  simp only [map_bind]
  refine bind_congr fun raw => ?_
  cases raw with
  | none =>
    simp only [map_bind]
    repeat refine bind_congr fun _ => ?_
    exact congrArg Except.ok (rest_advance _ _ _)
  | some raw =>
    dsimp only
    cases PolicyOutcome.ofValue raw with
    | none => rfl
    | some outcome =>
      simp only [map_bind]
      repeat refine bind_congr fun _ => ?_
      exact congrArg Except.ok (rest_advance _ _ _)

/-- A rule other than the advisory one keeps the two fields and does not read them. -/
lemma rest_handler (t : EventType) (ht : t ≠ .riskAssessed) :
    ReplayState.rest <$> handler env t s e = handler env t s.rest e := by
  cases t
  case missionCreated =>
    simp only [handler, onMissionCreated, map_bind]
    exact bind_congr fun _ => bind_congr fun _ => congrArg Except.ok (rest_advance _ _ _)
  case intentParsed => exact rest_onIntentParsed s e
  case discoveryStarted => exact congrArg Except.ok (rest_advance _ _ _)
  case offersReceived =>
    simp only [handler, onOffersReceived, map_bind]
    exact bind_congr fun _ => congrArg Except.ok (rest_advance _ _ _)
  case offersNormalized =>
    simp only [handler, onOffersNormalized, map_bind]
    exact bind_congr fun _ => bind_congr fun _ => bind_congr fun _ =>
      congrArg Except.ok (rest_advance _ _ _)
  case offersRanked => exact congrArg Except.ok (rest_advance _ _ _)
  case policyDecision => exact rest_onPolicyDecision env s e
  case approvalRequested =>
    simp only [handler, onApprovalRequested, map_bind]
    exact bind_congr fun _ => bind_congr fun _ => congrArg Except.ok (rest_advance _ _ _)
  case missionDenied =>
    simp only [handler, onMissionDenied, map_bind]
    refine bind_congr fun codes => ?_
    rw [← map_bind]
    exact rest_bind (rest_recordSecurity _ e) fun c => congrArg Except.ok (rest_advance c e _)
  case authorizationActivated =>
    simp only [handler, onAuthorizationActivated, map_bind]
    exact bind_congr fun _ => bind_congr fun _ => bind_congr fun _ => bind_congr fun _ =>
      congrArg Except.ok (rest_advance _ _ _)
  case authorizationReplayDetected =>
    simp only [handler, onAuthorizationReplayDetected, map_bind]
    exact bind_congr fun _ => bind_congr fun _ => rest_recordSecurity _ _
  case paymentIntentCreated =>
    refine rest_bind (rest_commonPaymentFields s e) fun c => ?_
    simp only [map_bind]
    rfl
  case paymentQueued =>
    exact rest_afterState env s e fun c => congrArg Except.ok (rest_advance _ _ _)
  case paymentSucceeded =>
    exact rest_afterState env s e fun c => congrArg Except.ok (rest_advance _ _ _)
  case paymentFailed =>
    refine rest_afterState env s e fun c => ?_
    by_cases h : c.payment.state = some PaymentIntentState.failedTerminal.value
    · rw [if_pos h, if_pos (show c.rest.payment.state = _ from h)]
      exact congrArg Except.ok (rest_advance _ _ _)
    · rw [if_neg h, if_neg (show ¬c.rest.payment.state = _ from h)]
      rfl
  case paymentAttempted => exact rest_afterState env s e fun c => rfl
  case paymentProviderUncertain => exact rest_afterState env s e fun c => rfl
  case paymentRetryScheduled => exact rest_afterState env s e fun c => rfl
  case paymentIntentReused => exact rest_afterState env s e fun c => rfl
  case paymentProviderTimeout => exact rest_bind (rest_commonPaymentFields s e) fun c => rfl
  case paymentReconciled => exact rest_bind (rest_commonPaymentFields s e) fun c => rfl
  case outboxEventDeadLettered => exact rest_bind (rest_commonPaymentFields s e) fun c => rfl
  case webhookVerified => exact rest_bind (rest_commonPaymentFields s e) fun c => rfl
  case duplicateWebhookIgnored => exact rest_bind (rest_commonPaymentFields s e) fun c => rest_recordSecurity _ _
  case webhookOutOfOrderIgnored => exact rest_bind (rest_commonPaymentFields s e) fun c => rest_recordSecurity _ _
  case securityViolation => exact rest_recordSecurity s e
  case idempotencyConflict => exact rest_recordSecurity s e
  case webhookRejected => exact rest_recordSecurity s e
  case transactionBindingFailure => exact rest_recordSecurity _ e
  case authorizationCreated =>
    simp only [handler, onAuthorizationCreated, map_bind]
    rfl
  case authorizationConsumed =>
    simp only [handler, onAuthorizationConsumed, map_bind]
    rfl
  case authorizationExpired =>
    simp only [handler, onAuthorizationExpired, map_bind]
    rfl
  case authorizationRevoked =>
    simp only [handler, onAuthorizationRevoked, map_bind]
    rfl
  case riskAssessed => exact absurd rfl ht

/-- Counting an event changes nothing else. -/
lemma rest_counted (x : Except ReplayError ReplayState) :
    ReplayState.rest <$> (do
      let s ← x
      .ok { s with eventsReplayed := s.eventsReplayed + 1 }) = ReplayState.rest <$> x := by
  cases x <;> rfl

/-- No event reads the two fields. -/
lemma rest_applyEvent :
    ReplayState.rest <$> applyEvent env s e = ReplayState.rest <$> applyEvent env s.rest e := by
  unfold applyEvent
  cases EventType.ofValue e.eventType with
  | none => rfl
  | some t =>
    dsimp only
    by_cases hobject : isObject e.payload = true
    · rw [if_pos hobject, if_pos hobject, rest_counted, rest_counted]
      by_cases ht : t = .riskAssessed
      · subst ht
        simp only [handler, onRiskAssessed, map_bind]
        rfl
      · rw [rest_handler env s e t ht, rest_handler env s.rest e t ht]
        rfl
    · rw [if_neg hobject, if_neg hobject]

variable {env s e}

/-- An event acts alike on states that differ in the two fields only. -/
lemma applyEvent_rest {s' t : ReplayState} (hs : s.rest = s'.rest)
    (h : applyEvent env s e = .ok t) : ∃ t', applyEvent env s' e = .ok t' ∧ t'.rest = t.rest := by
  have hsame : ReplayState.rest <$> applyEvent env s e = ReplayState.rest <$> applyEvent env s' e := by
    rw [rest_applyEvent, hs, ← rest_applyEvent]
  rw [h] at hsame
  cases h' : applyEvent env s' e with
  | error err =>
    rw [h'] at hsame
    cases hsame
  | ok t' =>
    rw [h'] at hsame
    exact ⟨t', rfl, (Except.ok.inj hsame).symm⟩

lemma advisoryScore_ok : (∃ q, advisoryScore (payloadGet e "score") = .ok q) ↔ ScoreFits e := by
  unfold ScoreFits
  cases payloadGet e "score" with
  | none => simp [advisoryScore]
  | some v =>
    cases v with
    | int n =>
      have hfits : (∀ m, some (Json.int n) = some (.int m) → m.natAbs < Numeric.floatBound) ↔
          n.natAbs < Numeric.floatBound :=
        ⟨fun h => h n rfl, fun h m hm => by cases hm; exact h⟩
      rw [hfits]
      unfold advisoryScore Numeric.floatOfInt
      by_cases hn : Numeric.floatBound ≤ n.natAbs
      · simp [hn]
      · simp [hn, Nat.lt_of_not_le hn]
    | _ => simp [advisoryScore]

/-- An advisory event is folded in unless its payload is no object or its score overflows. -/
lemma applyEvent_risk (hrisk : IsRisk e) : (∃ t, applyEvent env s e = .ok t) ↔
    isObject e.payload = true ∧ ScoreFits e := by
  have htype : EventType.ofValue e.eventType = some .riskAssessed := by
    rw [hrisk]
    exact EventType.ofValue_value _
  unfold applyEvent
  rw [htype, ← advisoryScore_ok]
  by_cases hobject : isObject e.payload = true
  · simp only [hobject, if_true, true_and, handler, onRiskAssessed]
    cases advisoryScore (payloadGet e "score") with
    | error err => simp [bind, Except.bind]
    | ok q => exact ⟨fun _ => ⟨q, rfl⟩, fun _ => ⟨_, rfl⟩⟩
  · simp [hobject]

/-- An advisory event that is folded in leaves the rest as it was. -/
lemma rest_of_risk (hrisk : IsRisk e) {t : ReplayState} (h : applyEvent env s e = .ok t) :
    t.rest = s.rest := by
  have htype : EventType.ofValue e.eventType = some .riskAssessed := by
    rw [hrisk]
    exact EventType.ofValue_value _
  unfold applyEvent at h
  rw [htype] at h
  dsimp only at h
  split at h
  · simp only [handler, onRiskAssessed] at h
    cases hq : advisoryScore (payloadGet e "score") with
    | error err =>
      rw [hq] at h
      cases h
    | ok q =>
      rw [hq] at h
      rw [← Except.ok.inj h]
      rfl
  · cases h

end OneEvent

-- ════════════════════════════════════════════════════════════════════════
-- Histories with and without advisory events
-- ════════════════════════════════════════════════════════════════════════

section Histories

variable {env : Env} {kept risks events : List AuditEventRow} {s s' t : ReplayState}

/-- Without some of its advisory events a history is reduced to the same, and these had scores in
range. -/
lemma foldlM_deleted (h : Interleaved kept risks events) (hrisks : ∀ e ∈ risks, IsRisk e)
    (hs : s.rest = s'.rest) (hrun : events.foldlM (applyEvent env) s = .ok t) :
    (∃ t', kept.foldlM (applyEvent env) s' = .ok t' ∧ t'.rest = t.rest) ∧
      ∀ e ∈ risks, ScoreFits e := by
  induction h generalizing s s' with
  | nil =>
    obtain rfl := Except.ok.inj hrun
    exact ⟨⟨s', rfl, hs.symm⟩, by simp⟩
  | left e _ ih =>
    rw [List.foldlM_cons] at hrun
    obtain ⟨s₁, hstep, hrun⟩ := Tx.except_bind_ok.mp hrun
    obtain ⟨s₁', hstep', hs₁⟩ := applyEvent_rest hs hstep
    obtain ⟨⟨t', hrun', ht'⟩, hfits⟩ := ih hrisks hs₁.symm hrun
    refine ⟨⟨t', ?_, ht'⟩, hfits⟩
    rw [List.foldlM_cons, hstep']
    exact hrun'
  | right e _ ih =>
    rw [List.foldlM_cons] at hrun
    obtain ⟨s₁, hstep, hrun⟩ := Tx.except_bind_ok.mp hrun
    have hrisk : IsRisk e := hrisks e (by simp)
    obtain ⟨hkept, hfits⟩ := ih (fun e' he' => hrisks e' (by simp [he']))
      ((rest_of_risk hrisk hstep).trans hs) hrun
    refine ⟨hkept, fun e' he' => ?_⟩
    rcases List.mem_cons.mp he' with rfl | he'
    · exact ((applyEvent_risk hrisk).mp ⟨s₁, hstep⟩).2
    · exact hfits e' he'

/-- With advisory events added whose scores are in range, a history is reduced to the same. -/
lemma foldlM_inserted (h : Interleaved kept risks events)
    (hrisks : ∀ e ∈ risks, IsRisk e ∧ isObject e.payload = true ∧ ScoreFits e)
    (hs : s.rest = s'.rest) (hrun : kept.foldlM (applyEvent env) s = .ok t) :
    ∃ t', events.foldlM (applyEvent env) s' = .ok t' ∧ t'.rest = t.rest := by
  induction h generalizing s s' with
  | nil =>
    obtain rfl := Except.ok.inj hrun
    exact ⟨s', rfl, hs.symm⟩
  | left e _ ih =>
    rw [List.foldlM_cons] at hrun
    obtain ⟨s₁, hstep, hrun⟩ := Tx.except_bind_ok.mp hrun
    obtain ⟨s₁', hstep', hs₁⟩ := applyEvent_rest hs hstep
    obtain ⟨t', hrun', ht'⟩ := ih hrisks hs₁.symm hrun
    refine ⟨t', ?_, ht'⟩
    rw [List.foldlM_cons, hstep']
    exact hrun'
  | right e _ ih =>
    obtain ⟨hrisk, hobject, hfits⟩ := hrisks e (by simp)
    obtain ⟨s₁', hstep⟩ := (applyEvent_risk (s := s') hrisk).mpr ⟨hobject, hfits⟩
    obtain ⟨t', hrun', ht'⟩ := ih (fun e' he' => hrisks e' (by simp [he']))
      (hs.trans (rest_of_risk hrisk hstep).symm) hrun
    refine ⟨t', ?_, ht'⟩
    rw [List.foldlM_cons, hstep]
    exact hrun'

end Histories

instance : IsTrans AuditEventRow before where
  trans a b c := by
    rintro (h | ⟨h, hid⟩) (h' | ⟨h', hid'⟩)
    · exact .inl (Nat.lt_trans h h')
    · exact .inl (h' ▸ h)
    · exact .inl (h ▸ h')
    · exact .inr ⟨h.trans h', le_trans hid hid'⟩

instance : Std.Total before where
  total a b := by
    unfold before
    rcases lt_trichotomy a.sequence b.sequence with h | h | h
    · exact .inl (.inl h)
    · rcases le_total a.eventId.str b.eventId.str with h' | h'
      · exact .inl (.inr ⟨h, h'⟩)
      · exact .inr (.inr ⟨h.symm, h'⟩)
    · exact .inr (.inl h)

/-- Advisory events in replay: a history on which it succeeds can lose any of them, and can take any
others exactly when the scores among these that are integers are in the range of a float; nothing
else of the reconstruction changes. -/
theorem riskEvents_inert_iff (env : Env) {kept risks events : List AuditEventRow}
    (h : Interleaved kept risks events) (hrisks : ∀ e ∈ risks, IsRisk e) :
    (∀ s, reduceEvents env events = .ok s →
      ∃ s', reduceEvents env kept = .ok s' ∧ s'.rest = s.rest) ∧
    ∀ s, reduceEvents env kept = .ok s → (∀ e ∈ risks, isObject e.payload = true) →
      ((∃ s', reduceEvents env events = .ok s' ∧ s'.rest = s.rest) ↔ ∀ e ∈ risks, ScoreFits e) := by
  have hsorted : Interleaved (kept.insertionSort before) (risks.insertionSort before)
      (events.insertionSort before) := h.insertionSort
  have hmem : ∀ e, e ∈ risks.insertionSort before ↔ e ∈ risks := fun e => List.mem_insertionSort _
  have hrisks' : ∀ e ∈ risks.insertionSort before, IsRisk e :=
    fun e he => hrisks e ((hmem e).mp he)
  refine ⟨fun s hrun => (foldlM_deleted hsorted hrisks' rfl hrun).1,
    fun s hrun hobjects => ⟨?_, fun hfits => ?_⟩⟩
  · rintro ⟨s', hrun', -⟩ e he
    exact (foldlM_deleted hsorted hrisks' rfl hrun').2 e ((hmem e).mpr he)
  · refine foldlM_inserted hsorted (fun e he => ?_) rfl hrun
    have he' : e ∈ risks := (hmem e).mp he
    exact ⟨hrisks e he', hobjects e he', hfits e he'⟩

namespace Sample

/-- An advisory event with a score. -/
def assessed (score : Json) : AuditEventRow :=
  { eventId := ⟨"e"⟩, missionId := ⟨"m"⟩, sequence := 1, eventType := "RISK_ASSESSED",
    actor := "risk-engine", payload := .obj [("score", score)], previousHash := "", eventHash := "", createdAt := 0 }

end Sample

/-- A score of `2 ^ 1024` ends the replay of a history that is empty without it. -/
theorem riskEvent_overflows :
    Interleaved [] [Sample.assessed (.int (2 ^ 1024))] [Sample.assessed (.int (2 ^ 1024))] ∧
      IsRisk (Sample.assessed (.int (2 ^ 1024))) ∧
      isObject (Sample.assessed (.int (2 ^ 1024))).payload = true ∧
      (∃ s, reduceEvents Sample.ledgerEnv [] = .ok s) ∧
      ¬∃ s, reduceEvents Sample.ledgerEnv [Sample.assessed (.int (2 ^ 1024))] = .ok s := by
  refine ⟨.right _ .nil, rfl, rfl, ⟨_, rfl⟩, ?_⟩
  rintro ⟨s, hs⟩
  have hfails : (reduceEvents Sample.ledgerEnv [Sample.assessed (.int (2 ^ 1024))]).isOk = false := by
    decide +kernel
  rw [hs] at hfails
  cases hfails

namespace Sample

/-- An event that a mission records. -/
def recorded (sequence : Nat) (type : EventType) (payload : Json) : AuditEventRow :=
  { eventId := ⟨toString sequence⟩, missionId := ⟨"m"⟩, sequence := sequence
    eventType := type.value, actor := "orchestrator", payload := payload
    previousHash := "", eventHash := "", createdAt := 0 }

def created : AuditEventRow :=
  recorded 0 .missionCreated (.obj [("raw_query", .str "two bags of coffee"), ("quantity", .int 2)])

def parsed : AuditEventRow :=
  recorded 1 .intentParsed (.obj [("constraints", .obj [("hard_limit_inr", .int 1000)])])

def discovering : AuditEventRow := recorded 2 .discoveryStarted (.obj [])

def timedOut : AuditEventRow :=
  recorded 3 .paymentProviderTimeout (.obj [("payment_intent_id", .str "i")])

/-- A history without its advisory events, as a reader may receive it. -/
def history : List AuditEventRow := [discovering, created, timedOut, parsed]

/-- Its advisory events: one after the parsing, and one later with the given score. -/
def advice (score : Json) : List AuditEventRow :=
  [assessed (.float (7 / 10)), { assessed score with sequence := 2 }]

/-- The history with its advisory events. -/
def advised (score : Json) : List AuditEventRow :=
  [discovering, assessed (.float (7 / 10)), created, { assessed score with sequence := 2 },
    timedOut, parsed]

lemma advised_interleaved (score : Json) :
    Interleaved history (advice score) (advised score) :=
  .left _ (.right _ (.left _ (.right _ (.left _ (.left _ .nil)))))

lemma advice_risks (score : Json) : ∀ e ∈ advice score, IsRisk e :=
  List.forall_mem_cons.mpr ⟨rfl, List.forall_mem_singleton.mpr rfl⟩

lemma history_reduced : ((reduceEvents Sample.ledgerEnv history).map fun s =>
    (s.missionState, s.payment.providerTimeouts)) = .ok (some .discovering, 1) := by
  decide +kernel

lemma advised_reduced : ((reduceEvents Sample.ledgerEnv (advised (.int 1))).map fun s =>
    (s.eventsReplayed, s.riskAssessments.length)) = .ok (6, 2) := by
  decide +kernel

end Sample

/-- Two assessments are deleted from the history of a mission, and others are put back into it, of
which one has a score that does not fit. -/
theorem riskEvents_inert_history :
    (∃ s s', reduceEvents Sample.ledgerEnv (Sample.advised (.int 1)) = .ok s ∧
      s.eventsReplayed = 6 ∧ s.riskAssessments.length = 2 ∧
      reduceEvents Sample.ledgerEnv Sample.history = .ok s' ∧ s'.rest = s.rest) ∧
    ∃ s, reduceEvents Sample.ledgerEnv Sample.history = .ok s ∧
      s.missionState = some .discovering ∧ s.payment.providerTimeouts = 1 ∧
      (∃ s', reduceEvents Sample.ledgerEnv (Sample.advised (.bool true)) = .ok s' ∧
        s'.rest = s.rest) ∧
      ¬∃ s', reduceEvents Sample.ledgerEnv (Sample.advised (.int (2 ^ 1024))) = .ok s' ∧
        s'.rest = s.rest := by
  have hinert := fun score => riskEvents_inert_iff Sample.ledgerEnv
    (Sample.advised_interleaved score) (Sample.advice_risks score)
  have hobjects : ∀ score, ∀ e ∈ Sample.advice score, isObject e.payload = true :=
    fun score => List.forall_mem_cons.mpr ⟨rfl, List.forall_mem_singleton.mpr rfl⟩
  constructor
  · have hreduced := Sample.advised_reduced
    cases hs : reduceEvents Sample.ledgerEnv (Sample.advised (.int 1)) with
    | error e =>
      rw [hs] at hreduced
      cases hreduced
    | ok s =>
      rw [hs] at hreduced
      obtain ⟨hcount, hrisks⟩ := Prod.mk.inj (Except.ok.inj hreduced)
      obtain ⟨s', hs', hrest⟩ := (hinert (.int 1)).1 s hs
      exact ⟨s, s', rfl, hcount, hrisks, hs', hrest⟩
  · have hreduced := Sample.history_reduced
    cases hs : reduceEvents Sample.ledgerEnv Sample.history with
    | error e =>
      rw [hs] at hreduced
      cases hreduced
    | ok s =>
      rw [hs] at hreduced
      obtain ⟨hstate, htimeouts⟩ := Prod.mk.inj (Except.ok.inj hreduced)
      refine ⟨s, rfl, hstate, htimeouts, ?_, ?_⟩
      · refine ((hinert (.bool true)).2 s hs (hobjects _)).mpr ?_
        refine List.forall_mem_cons.mpr ⟨fun n hn => ?_, List.forall_mem_singleton.mpr fun n hn => ?_⟩
        all_goals cases hn
      · rw [(hinert (.int (2 ^ 1024))).2 s hs (hobjects _)]
        intro hfits
        have hsmall := hfits _ (.tail _ (.head _)) (2 ^ 1024) rfl
        unfold Numeric.floatBound at hsmall
        rw [Int.natAbs_pow, show (2 : Int).natAbs = 2 from rfl] at hsmall
        exact absurd hsmall (Nat.not_lt.mpr (Nat.sub_le _ _))

end Replay

end Pactra
