import Pactra.AuditLedger.Replay

/-!
# What replay says about a mission

The reducer of `Replay.lean` reconstructs many fields. The ones that have a column to be compared
with form the `View`: the mission's state, the authorization's status, and the payment's state,
provider reference, reason code and dead-letter flag. On this view an event acts as a total
function of its type and payload, as long as the payload is `Readable`: every key the reducer
reads has a value of the type it expects.

## Main results

- `applyEvent_view` — on a readable event the reducer succeeds and acts on the view as `View.step`
- `ViewOf.recorded` — recording readable events moves the view of their mission step by step
- `ViewOf.of_chain_eq` — the view depends on the mission's own chain only
-/

namespace Pactra

namespace Replay

-- ════════════════════════════════════════════════════════════════════════
-- Readable payloads
-- ════════════════════════════════════════════════════════════════════════

/-- The keys read as texts. -/
def textKeys : List String :=
  ["payment_intent_id", "provider", "provider_payment_id", "idempotency_key", "currency",
   "merchant_id", "reason_code", "raw_query", "decision", "policy_version", "selected_offer_id",
   "authorization_id", "status", "transaction_digest_prefix", "offer_version", "binding_version",
   "approval_scheme", "expires_at", "bound_merchant_id", "bound_product_id", "bound_currency",
   "consumed_at", "state"]

/-- The keys read as whole numbers. -/
def numberKeys : List String :=
  ["amount_inr", "quantity", "raw_offer_count", "valid", "invalid", "requested_amount",
   "soft_budget", "hard_limit", "bound_quantity", "bound_amount_inr"]

/-- The keys read as lists of texts. -/
def listKeys : List String := ["reason_codes", "tainted_merchant_fields"]

/-- Whether a value is one the reducer accepts under a key: absent values are always accepted. -/
def acceptable (key : String) : Json → Bool
  | .null => true
  | .str s =>
    decide (key ∉ numberKeys) && decide (key ∉ listKeys) && decide (key ≠ "constraints") &&
      (decide (key ≠ "state") || (PaymentIntentState.ofValue s).isSome) &&
      (decide (key ≠ "approval_scheme") || (ApprovalScheme.ofValue s).isSome) &&
      (decide (key ≠ "decision") || (PolicyOutcome.ofValue s).isSome)
  | .int n =>
    decide (key ∉ textKeys) && decide (key ∉ listKeys) && decide (key ≠ "constraints") &&
      (decide (key ≠ "score") || (Numeric.floatOfInt n).isSome)
  | .arr items =>
    decide (key ∉ textKeys) && decide (key ∉ numberKeys) && decide (key ≠ "constraints") &&
      (decide (key ∉ listKeys) || (strings items).isSome)
  | .obj _ => decide (key ∉ textKeys) && decide (key ∉ numberKeys) && decide (key ∉ listKeys)
  | _ =>
    decide (key ∉ textKeys) && decide (key ∉ numberKeys) && decide (key ∉ listKeys) &&
      decide (key ≠ "constraints")

/-- A key under which every text is accepted. -/
def takesText (key : String) : Bool :=
  decide (key ∉ numberKeys) && decide (key ∉ listKeys) && decide (key ≠ "constraints") &&
    decide (key ≠ "state") && decide (key ≠ "approval_scheme") && decide (key ≠ "decision")

/-- A key under which every whole number is accepted. -/
def takesNumber (key : String) : Bool :=
  decide (key ∉ textKeys) && decide (key ∉ listKeys) && decide (key ≠ "constraints") &&
    decide (key ≠ "score")

/-- A key the reducer does not read, except for the details of a security event. -/
def unread (key : String) : Bool :=
  decide (key ∉ textKeys) && decide (key ∉ numberKeys) && decide (key ∉ listKeys) &&
    decide (key ≠ "constraints") && decide (key ≠ "score")

section Acceptable

variable {key : String}

@[simp] lemma acceptable_null : acceptable key .null = true := rfl

@[simp] lemma acceptable_str (h : takesText key = true) (s : String) :
    acceptable key (.str s) = true := by
  simp [takesText] at h
  simp [acceptable.eq_def, h]

@[simp] lemma acceptable_ofOptStr (h : takesText key = true) (s : Option String) :
    acceptable key (.ofOptStr s) = true := by
  cases s with
  | none => rfl
  | some s => exact acceptable_str h s

@[simp] lemma acceptable_int (h : takesNumber key = true) (n : Int) : acceptable key (.int n) = true := by
  simp [takesNumber] at h
  simp [acceptable.eq_def, h]

@[simp] lemma acceptable_ofOptInt (h : takesNumber key = true) (n : Option Int) :
    acceptable key (.ofOptInt n) = true := by
  cases n with
  | none => rfl
  | some n => exact acceptable_int h n

lemma acceptable_of_unread (h : unread key = true) (v : Json) : acceptable key v = true := by
  simp [unread] at h
  have htext : key ≠ "state" ∧ key ≠ "approval_scheme" ∧ key ≠ "decision" := by
    refine ⟨?_, ?_, ?_⟩ <;> (rintro rfl; exact absurd h.1.1.1.1 (by simp [textKeys]))
  cases v <;> simp [acceptable.eq_def, h, htext]

@[simp] lemma acceptable_bool (h : unread key = true) (b : Bool) : acceptable key (.bool b) = true :=
  acceptable_of_unread h _

@[simp] lemma acceptable_state (state : PaymentIntentState) :
    acceptable "state" (.str state.value) = true := by
  simp [acceptable.eq_def, numberKeys, listKeys]

/-- A key under which every list of texts is accepted. -/
def takesTexts (key : String) : Bool :=
  decide (key ∉ textKeys) && decide (key ∉ numberKeys) && decide (key ≠ "constraints")

@[simp] lemma strings_map_str {α : Type} (f : α → String) (l : List α) :
    strings (l.map fun x => .str (f x)) = some (l.map f) := by
  induction l with
  | nil => rfl
  | cons s l ih => simp [strings, ih]

@[simp] lemma acceptable_texts (h : takesTexts key = true) {α : Type} (f : α → String)
    (l : List α) : acceptable key (.arr (l.map fun x => .str (f x))) = true := by
  simp [takesTexts] at h
  simp [acceptable.eq_def, h]

@[simp] lemma acceptable_scheme (scheme : ApprovalScheme) :
    acceptable "approval_scheme" (.str scheme.value) = true := by
  simp [acceptable.eq_def, numberKeys, listKeys]

@[simp] lemma acceptable_decision (decision : PolicyOutcome) :
    acceptable "decision" (.str decision.value) = true := by
  simp [acceptable.eq_def, numberKeys, listKeys]

end Acceptable

/-- Every entry of a payload has an acceptable value. -/
def Readable (d : Dict) : Prop := ∀ p ∈ d, acceptable p.1 p.2 = true

lemma Readable.get {d : Dict} (h : Readable d) {key : String} {v : Json}
    (hv : Dict.get d key = some v) : acceptable key v = true := by
  induction d with
  | nil => simp at hv
  | cons p d ih =>
    obtain ⟨k, w⟩ := p
    by_cases hk : k = key
    · subst hk
      obtain rfl : w = v := by simpa using hv
      exact h (k, w) (by simp)
    · exact ih (fun q hq => h q (by simp [hq])) (by simpa [hk] using hv)

lemma Readable.set {d : Dict} (h : Readable d) {key : String} {v : Json}
    (hv : acceptable key v = true) : Readable (Dict.set d key v) := by
  induction d with
  | nil => simpa [Readable, Dict.set] using hv
  | cons p d ih =>
    obtain ⟨k, w⟩ := p
    have hrest : Readable d := fun q hq => h q (by simp [hq])
    by_cases hk : k = key
    · subst hk
      simpa [Readable, Dict.set] using And.intro hv hrest
    · simpa [Readable, Dict.set, hk] using And.intro (h (k, w) (by simp)) (ih hrest)

lemma Readable.update {d e : Dict} (h : Readable d) (he : Readable e) :
    Readable (Dict.update d e) := by
  induction e generalizing d with
  | nil => exact h
  | cons p e ih =>
    obtain ⟨k, v⟩ := p
    exact ih (h.set (he (k, v) (by simp))) fun q hq => he q (by simp [hq])

lemma Readable.append {d e : Dict} (h : Readable d) (he : Readable e) : Readable (d ++ e) := by
  intro p hp
  rcases List.mem_append.mp hp with hp | hp
  · exact h p hp
  · exact he p hp

/-- The text at a key, if there is one. -/
def text (d : Dict) (key : String) : Option String :=
  match Dict.get d key with
  | some (.str s) => some s
  | _ => none

section Readers

variable {row : AuditEventRow} {d : Dict} (hp : row.payload = .obj d) (hd : Readable d)

include hp hd

lemma optStr_eq {key : String} (hk : key ∈ textKeys) : optStr row key = .ok (text d key) := by
  unfold optStr payloadGet text
  rw [hp]
  dsimp only
  cases hv : Dict.get d key with
  | none => rfl
  | some v =>
    have hv := hd.get hv
    cases v <;> simp_all [acceptable.eq_def]

lemma optInt_ok {key : String} (hk : key ∈ numberKeys) : ∃ n, optInt row key = .ok n := by
  unfold optInt payloadGet
  rw [hp]
  dsimp only
  cases hv : Dict.get d key with
  | none => exact ⟨none, rfl⟩
  | some v =>
    have hv := hd.get hv
    cases v <;> simp_all [acceptable.eq_def]

lemma optStrList_ok {key : String} (hk : key ∈ listKeys) : ∃ l, optStrList row key = .ok l := by
  unfold optStrList payloadGet
  rw [hp]
  dsimp only
  cases hv : Dict.get d key with
  | none => exact ⟨none, rfl⟩
  | some v =>
    have hv := hd.get hv
    cases v with
    | arr items =>
      simp [acceptable.eq_def, hk] at hv
      obtain ⟨l, hl⟩ := Option.isSome_iff_exists.mp hv.2
      exact ⟨some l, by simp [hl]⟩
    | _ => simp_all [acceptable.eq_def]

end Readers

-- ════════════════════════════════════════════════════════════════════════
-- The view and its steps
-- ════════════════════════════════════════════════════════════════════════

@[simp] lemma orStr_self (a : Option String) : orStr a a = a := by
  unfold orStr
  split
  · split
    · rfl
    · rfl
  · rfl

@[simp] lemma orStr_none (a : Option String) : orStr none a = a := rfl

/-- What replay reconstructs about the columns of a mission, its authorization and its payment. -/
structure View where
  missionState : Option MissionState
  authorizationStatus : Option String
  paymentState : Option String
  providerPaymentId : Option String
  lastReasonCode : Option String
  deadLettered : Bool

/-- The view of a reconstructed state. -/
def view (s : ReplayState) : View :=
  { missionState := s.missionState
    authorizationStatus := s.authorization.status
    paymentState := s.payment.state
    providerPaymentId := s.payment.providerPaymentId
    lastReasonCode := s.payment.lastReasonCode
    deadLettered := s.payment.deadLettered }

/-- The view before any event. -/
def View.init : View := view {}

namespace View

/-- The mission moves, where that is legal; the first state is taken as it is. -/
def moved (target : MissionState) (v : View) : View :=
  { v with
    missionState := some (match v.missionState with
      | none => target
      | some current => current.moved target) }

/-- The authorization takes a status. -/
def authorized (status : Option String) (v : View) : View :=
  { v with authorizationStatus := status }

/-- The shared payment fields are adopted from a payload. -/
def common (d : Dict) (v : View) : View :=
  { v with
    providerPaymentId := orStr (text d "provider_payment_id") v.providerPaymentId
    lastReasonCode :=
      if (Dict.get d "reason_code").isSome then text d "reason_code" else v.lastReasonCode }

/-- The payment takes the state a payload names. -/
def stated (d : Dict) (v : View) : View :=
  { v with paymentState := (text d "state").or v.paymentState }

/-- The payment takes a state and a reason code, and a provider reference if one is named. -/
def paid (state : PaymentIntentState) (reasonCode providerPaymentId : Option String)
    (v : View) : View :=
  { v with
    paymentState := some state.value
    lastReasonCode := reasonCode
    providerPaymentId := orStr providerPaymentId v.providerPaymentId }

/-- The effect of one event. -/
def step (v : View) (e : AuditEntry) : View :=
  match e.eventType with
  | .missionCreated => v.moved .created
  | .intentParsed => v.moved .intentParsed
  | .discoveryStarted => v.moved .discovering
  | .offersReceived => v.moved .offersReceived
  | .offersNormalized => v.moved .offersNormalized
  | .offersRanked => v.moved .ranked
  | .policyDecision => v.moved .policyChecked
  | .approvalRequested => v.moved .awaitingApproval
  | .missionDenied => v.moved .cancelled
  | .authorizationCreated =>
    v.authorized (orStr (text e.payload "status") (some AuthorizationStatus.pending.value))
  | .authorizationActivated =>
    (v.authorized (orStr (text e.payload "status")
      (some AuthorizationStatus.active.value))).moved .authorized
  | .authorizationConsumed =>
    v.authorized (orStr (text e.payload "status") (some AuthorizationStatus.consumed.value))
  | .authorizationExpired =>
    v.authorized (orStr (text e.payload "status") (some AuthorizationStatus.expired.value))
  | .authorizationRevoked =>
    v.authorized (orStr (text e.payload "status") (some AuthorizationStatus.revoked.value))
  | .authorizationReplayDetected =>
    v.authorized (orStr (text e.payload "status") v.authorizationStatus)
  | .paymentIntentCreated | .paymentProviderTimeout | .paymentReconciled | .webhookVerified
  | .duplicateWebhookIgnored | .webhookOutOfOrderIgnored => v.common e.payload
  | .paymentQueued => ((v.common e.payload).stated e.payload).moved .paymentPending
  | .paymentAttempted | .paymentProviderUncertain | .paymentRetryScheduled
  | .paymentIntentReused => (v.common e.payload).stated e.payload
  | .paymentSucceeded => ((v.common e.payload).stated e.payload).moved .paymentSucceeded
  | .paymentFailed =>
    let w := (v.common e.payload).stated e.payload
    if w.paymentState = some PaymentIntentState.failedTerminal.value then w.moved .paymentFailed
    else w
  | .outboxEventDeadLettered => { v.common e.payload with deadLettered := true }
  | .securityViolation | .transactionBindingFailure | .idempotencyConflict | .webhookRejected
  | .riskAssessed => v

end View

lemma view_advance (s : ReplayState) (row : AuditEventRow) (target : MissionState) :
    view (advance s row target) = (view s).moved target := by
  unfold advance View.moved MissionState.moved view
  cases hs : s.missionState with
  | none => simp
  | some current =>
    by_cases hc : current = target
    · subst hc
      simp [hs]
    · by_cases ht : current.canTransition target = true <;> simp [hc, ht]

section Handlers

variable {row : AuditEventRow} {d : Dict} (hp : row.payload = .obj d) (hd : Readable d)

include hp hd

lemma recordSecurity_view (s : ReplayState) :
    ∃ s', recordSecurity s row = .ok s' ∧ view s' = view s := by
  unfold recordSecurity
  rw [optStr_eq hp hd (by simp [textKeys])]
  exact ⟨_, rfl, rfl⟩

lemma commonPaymentFields_view (s : ReplayState) :
    ∃ s', commonPaymentFields s row = .ok s' ∧ view s' = (view s).common d := by
  obtain ⟨amount, hamount⟩ := optInt_ok hp hd (show "amount_inr" ∈ numberKeys by simp [numberKeys])
  have hhas : payloadHas row "reason_code" = (Dict.get d "reason_code").isSome := by
    simp [payloadHas, hp]
  unfold commonPaymentFields
  simp only [optStr_eq hp hd (show "payment_intent_id" ∈ textKeys by simp [textKeys]),
    optStr_eq hp hd (show "provider" ∈ textKeys by simp [textKeys]),
    optStr_eq hp hd (show "provider_payment_id" ∈ textKeys by simp [textKeys]),
    optStr_eq hp hd (show "idempotency_key" ∈ textKeys by simp [textKeys]),
    optStr_eq hp hd (show "currency" ∈ textKeys by simp [textKeys]),
    optStr_eq hp hd (show "merchant_id" ∈ textKeys by simp [textKeys]),
    optStr_eq hp hd (show "reason_code" ∈ textKeys by simp [textKeys]), hamount, hhas]
  by_cases hr : (Dict.get d "reason_code").isSome = true
  · exact ⟨_, by simp only [hr, if_true]; rfl, by simp [View.common, view, hr]⟩
  · exact ⟨_, by simp only [hr]; rfl, by simp [View.common, view, hr]⟩

lemma paymentStateFromPayload_view (env : Env) (s : ReplayState) :
    ∃ s', paymentStateFromPayload env s row = .ok s' ∧ view s' = (view s).stated d := by
  unfold paymentStateFromPayload payloadGet
  rw [hp]
  dsimp only
  cases hv : Dict.get d "state" with
  | none => exact ⟨s, rfl, by simp [View.stated, text, hv]⟩
  | some v =>
    have hacc := hd.get hv
    cases v with
    | null => exact ⟨s, rfl, by simp [View.stated, text, hv]⟩
    | str raw =>
      have hsome : (PaymentIntentState.ofValue raw).isSome = true := by
        simp [acceptable] at hacc
        exact hacc.2
      obtain ⟨state, hstate⟩ := Option.isSome_iff_exists.mp hsome
      refine ⟨{ s with payment := { s.payment with state := some state.value } },
        by simp [hstate], ?_⟩
      simp [View.stated, text, hv, view, PaymentIntentState.value_of_ofValue hstate]
    | _ => simp [acceptable.eq_def, textKeys] at hacc

lemma optApprovalScheme_ok (env : Env) : ∃ scheme, optApprovalScheme env row = .ok scheme := by
  unfold optApprovalScheme
  rw [optStr_eq hp hd (by simp [textKeys])]
  cases hv : Dict.get d "approval_scheme" with
  | none => exact ⟨none, by simp [text, hv]; rfl⟩
  | some v =>
    have hacc := hd.get hv
    cases v with
    | str raw =>
      have hsome : (ApprovalScheme.ofValue raw).isSome = true := by
        simp [acceptable] at hacc
        exact hacc.2
      obtain ⟨scheme, hscheme⟩ := Option.isSome_iff_exists.mp hsome
      refine ⟨some scheme, ?_⟩
      simp [text, hv, hscheme, bind, Except.bind]
    | _ => exact ⟨none, by simp [text, hv]; rfl⟩

lemma onPolicyDecision_view (env : Env) (s : ReplayState) :
    ∃ s', onPolicyDecision env s row = .ok s' ∧ view s' = (view s).moved .policyChecked := by
  obtain ⟨codes, hcodes⟩ := optStrList_ok hp hd (show "reason_codes" ∈ listKeys by simp [listKeys])
  obtain ⟨amount, hamount⟩ :=
    optInt_ok hp hd (show "requested_amount" ∈ numberKeys by simp [numberKeys])
  obtain ⟨soft, hsoft⟩ := optInt_ok hp hd (show "soft_budget" ∈ numberKeys by simp [numberKeys])
  obtain ⟨hard, hhard⟩ := optInt_ok hp hd (show "hard_limit" ∈ numberKeys by simp [numberKeys])
  unfold onPolicyDecision
  rw [optStr_eq hp hd (show "decision" ∈ textKeys by simp [textKeys]),
    optStr_eq hp hd (show "policy_version" ∈ textKeys by simp [textKeys]),
    optStr_eq hp hd (show "selected_offer_id" ∈ textKeys by simp [textKeys]), hcodes, hamount,
    hsoft, hhard]
  have hdecision : ∀ raw, text d "decision" = some raw → (PolicyOutcome.ofValue raw).isSome := by
    intro raw hraw
    unfold text at hraw
    split at hraw
    · next s' hs =>
      obtain rfl := Option.some.inj hraw
      have hacc := hd.get hs
      simp [acceptable] at hacc
      exact hacc.2
    · cases hraw
  cases hv : text d "decision" with
  | none => exact ⟨_, rfl, view_advance _ _ _⟩
  | some raw =>
    obtain ⟨outcome, houtcome⟩ := Option.isSome_iff_exists.mp (hdecision raw hv)
    refine ⟨_, by simp only [bind, Except.bind, houtcome]; rfl, ?_⟩
    exact view_advance _ _ _

lemma onIntentParsed_view (s : ReplayState) :
    ∃ s', onIntentParsed s row = .ok s' ∧ view s' = (view s).moved .intentParsed := by
  unfold onIntentParsed payloadGet
  rw [hp]
  dsimp only
  cases hv : Dict.get d "constraints" with
  | none => exact ⟨_, rfl, view_advance _ _ _⟩
  | some v =>
    have hacc := hd.get hv
    cases v with
    | null => exact ⟨_, rfl, view_advance _ _ _⟩
    | obj fields => exact ⟨_, rfl, view_advance _ _ _⟩
    | _ => simp [acceptable] at hacc

/-- The payment handlers that adopt the shared fields, then the state. -/
lemma stated_view (env : Env) (s : ReplayState) :
    ∃ s₁ s₂, commonPaymentFields s row = .ok s₁ ∧ paymentStateFromPayload env s₁ row = .ok s₂ ∧
      view s₂ = ((view s).common d).stated d := by
  obtain ⟨s₁, h₁, hv₁⟩ := commonPaymentFields_view hp hd s
  obtain ⟨s₂, h₂, hv₂⟩ := paymentStateFromPayload_view hp hd env s₁
  exact ⟨s₁, s₂, h₁, h₂, by rw [hv₂, hv₁]⟩

/-- On a readable payload every handler succeeds, and acts on the view as one step. -/
lemma onRiskAssessed_view (env : Env) (s : ReplayState) :
    ∃ s', onRiskAssessed env s row = .ok s' ∧ view s' = view s := by
  have hscore : ∃ q, advisoryScore (payloadGet row "score") = .ok q := by
    unfold payloadGet
    rw [hp]
    dsimp only
    cases hv : Dict.get d "score" with
    | none => exact ⟨none, rfl⟩
    | some v =>
      have hacceptable := hd.get hv
      cases v with
      | int n =>
        simp [acceptable] at hacceptable
        obtain ⟨q, hq⟩ := Option.isSome_iff_exists.mp hacceptable.2
        exact ⟨some q, by simp only [advisoryScore, hq]⟩
      | _ => exact ⟨_, rfl⟩
  obtain ⟨q, hq⟩ := hscore
  unfold onRiskAssessed
  rw [hq]
  exact ⟨_, rfl, rfl⟩

lemma handler_view (env : Env) (s : ReplayState) (eventType : EventType) (actor : String) :
    ∃ s', handler env eventType s row = .ok s' ∧ view s' = (view s).step ⟨eventType, actor, d⟩ := by
  obtain ⟨c, hc, hcv⟩ := commonPaymentFields_view hp hd s
  obtain ⟨s₁, s₂, h₁, h₂, hv⟩ := stated_view hp hd env s
  have hauth := optStr_eq hp hd (show "authorization_id" ∈ textKeys by simp [textKeys])
  have hstatus := optStr_eq hp hd (show "status" ∈ textKeys by simp [textKeys])
  have hdigest := optStr_eq hp hd (show "transaction_digest_prefix" ∈ textKeys by simp [textKeys])
  have hexpires := optStr_eq hp hd (show "expires_at" ∈ textKeys by simp [textKeys])
  have hconsumed := optStr_eq hp hd (show "consumed_at" ∈ textKeys by simp [textKeys])
  obtain ⟨scheme, hscheme⟩ := optApprovalScheme_ok hp hd env
  obtain ⟨codes, hcodes⟩ := optStrList_ok hp hd (show "reason_codes" ∈ listKeys by simp [listKeys])
  cases eventType
  case missionCreated =>
    obtain ⟨n, hn⟩ := optInt_ok hp hd (show "quantity" ∈ numberKeys by simp [numberKeys])
    simp only [handler, onMissionCreated, optStr_eq hp hd (show "raw_query" ∈ textKeys by
      simp [textKeys]), hn]
    exact ⟨_, rfl, view_advance _ _ _⟩
  case intentParsed => exact onIntentParsed_view hp hd s
  case discoveryStarted => exact ⟨_, rfl, view_advance _ _ _⟩
  case offersReceived =>
    obtain ⟨n, hn⟩ := optInt_ok hp hd (show "raw_offer_count" ∈ numberKeys by simp [numberKeys])
    simp only [handler, onOffersReceived, hn]
    exact ⟨_, rfl, view_advance _ _ _⟩
  case offersNormalized =>
    obtain ⟨n, hn⟩ := optInt_ok hp hd (show "valid" ∈ numberKeys by simp [numberKeys])
    obtain ⟨m, hm⟩ := optInt_ok hp hd (show "invalid" ∈ numberKeys by simp [numberKeys])
    obtain ⟨l, hl⟩ :=
      optStrList_ok hp hd (show "tainted_merchant_fields" ∈ listKeys by simp [listKeys])
    simp only [handler, onOffersNormalized, hn, hm, hl]
    exact ⟨_, rfl, view_advance _ _ _⟩
  case offersRanked => exact ⟨_, rfl, view_advance _ _ _⟩
  case policyDecision => exact onPolicyDecision_view hp hd env s
  case approvalRequested =>
    obtain ⟨n, hn⟩ := optInt_ok hp hd (show "requested_amount" ∈ numberKeys by simp [numberKeys])
    simp only [handler, onApprovalRequested, hn, hauth]
    exact ⟨_, rfl, view_advance _ _ _⟩
  case missionDenied =>
    have hdenied : ∀ l, ∃ s', (do
          let recorded ← recordSecurity { s with policyReasonCodes := l } row
          .ok (advance recorded row .cancelled) : Except ReplayError ReplayState) = .ok s' ∧
        view s' = (view s).moved .cancelled := by
      intro l
      obtain ⟨s', hs', hv'⟩ := recordSecurity_view hp hd { s with policyReasonCodes := l }
      rw [hs']
      exact ⟨_, rfl, by rw [view_advance, hv']; rfl⟩
    simp only [handler, onMissionDenied, hcodes]
    exact hdenied _
  case securityViolation => exact recordSecurity_view hp hd s
  case authorizationCreated =>
    obtain ⟨q, hq⟩ := optInt_ok hp hd (show "bound_quantity" ∈ numberKeys by simp [numberKeys])
    obtain ⟨n, hn⟩ := optInt_ok hp hd (show "bound_amount_inr" ∈ numberKeys by simp [numberKeys])
    simp only [handler, onAuthorizationCreated, hauth, hstatus, hdigest, hexpires, hscheme, hq, hn,
      optStr_eq hp hd (show "policy_version" ∈ textKeys by simp [textKeys]),
      optStr_eq hp hd (show "offer_version" ∈ textKeys by simp [textKeys]),
      optStr_eq hp hd (show "binding_version" ∈ textKeys by simp [textKeys]),
      optStr_eq hp hd (show "bound_merchant_id" ∈ textKeys by simp [textKeys]),
      optStr_eq hp hd (show "bound_product_id" ∈ textKeys by simp [textKeys]),
      optStr_eq hp hd (show "bound_currency" ∈ textKeys by simp [textKeys])]
    exact ⟨_, rfl, rfl⟩
  case authorizationActivated =>
    simp only [handler, onAuthorizationActivated, hauth, hstatus, hdigest, hscheme]
    exact ⟨_, rfl, view_advance _ _ _⟩
  case authorizationConsumed =>
    simp only [handler, onAuthorizationConsumed, hstatus, hconsumed]
    exact ⟨_, rfl, rfl⟩
  case authorizationExpired =>
    simp only [handler, onAuthorizationExpired, hstatus, hexpires]
    exact ⟨_, rfl, rfl⟩
  case authorizationRevoked =>
    simp only [handler, onAuthorizationRevoked, hstatus]
    exact ⟨_, rfl, rfl⟩
  case authorizationReplayDetected =>
    simp only [handler, onAuthorizationReplayDetected, hstatus, hconsumed]
    obtain ⟨s', hs', hv'⟩ := recordSecurity_view hp hd { s with
      authorization := { s.authorization with
        replayDetected := true
        status := orStr (text d "status") s.authorization.status
        consumedAt := orStr (text d "consumed_at") s.authorization.consumedAt } }
    exact ⟨s', hs', hv'⟩
  case transactionBindingFailure =>
    exact recordSecurity_view hp hd { s with
      authorization := { s.authorization with
        bindingFailures := s.authorization.bindingFailures + 1 } }
  case paymentIntentCreated =>
    simp only [handler, onPaymentIntentCreated, hc, hauth]
    exact ⟨_, rfl, hcv⟩
  case paymentQueued =>
    simp only [handler, onPaymentQueued, h₁, h₂, bind, Except.bind]
    exact ⟨_, rfl, by rw [view_advance, hv]; rfl⟩
  case paymentAttempted =>
    simp only [handler, onPaymentAttempted, h₁, h₂, bind, Except.bind]
    exact ⟨_, rfl, hv⟩
  case paymentProviderTimeout =>
    simp only [handler, onPaymentProviderTimeout, hc]
    exact ⟨_, rfl, hcv⟩
  case paymentProviderUncertain =>
    simp only [handler, onPaymentProviderUncertain, h₁, h₂, bind, Except.bind]
    exact ⟨_, rfl, hv⟩
  case paymentRetryScheduled =>
    simp only [handler, onPaymentRetryScheduled, h₁, h₂, bind, Except.bind]
    exact ⟨_, rfl, hv⟩
  case paymentReconciled =>
    simp only [handler, onPaymentReconciled, hc]
    exact ⟨_, rfl, hcv⟩
  case paymentSucceeded =>
    simp only [handler, onPaymentSucceeded, h₁, h₂, bind, Except.bind]
    exact ⟨_, rfl, by rw [view_advance, hv]; rfl⟩
  case paymentFailed =>
    simp only [handler, onPaymentFailed, h₁, h₂, bind, Except.bind]
    have hstate : s₂.payment.state = (((view s).common d).stated d).paymentState :=
      congrArg View.paymentState hv
    by_cases ht : s₂.payment.state = some PaymentIntentState.failedTerminal.value
    · refine ⟨_, by rw [if_pos ht], ?_⟩
      rw [view_advance, hv]
      simp only [View.step]
      rw [if_pos (hstate ▸ ht)]
    · refine ⟨_, by rw [if_neg ht], ?_⟩
      rw [hv]
      simp only [View.step]
      rw [if_neg (hstate ▸ ht)]
  case paymentIntentReused =>
    simp only [handler, onPaymentIntentReused, h₁, h₂, bind, Except.bind]
    exact ⟨_, rfl, hv⟩
  case idempotencyConflict => exact recordSecurity_view hp hd s
  case outboxEventDeadLettered =>
    simp only [handler, onOutboxDeadLettered, hc]
    refine ⟨_, rfl, ?_⟩
    show { view c with deadLettered := true } = _
    rw [hcv]
    rfl
  case webhookVerified =>
    simp only [handler, onWebhookVerified, hc]
    exact ⟨_, rfl, hcv⟩
  case webhookRejected => exact recordSecurity_view hp hd s
  case duplicateWebhookIgnored =>
    simp only [handler, onDuplicateWebhookIgnored, hc]
    obtain ⟨s', hs', hv'⟩ := recordSecurity_view hp hd { c with
      payment := { c.payment with
        duplicateWebhooksIgnored := c.payment.duplicateWebhooksIgnored + 1 } }
    exact ⟨s', hs', hv'.trans hcv⟩
  case webhookOutOfOrderIgnored =>
    simp only [handler, onWebhookOutOfOrderIgnored, hc]
    obtain ⟨s', hs', hv'⟩ := recordSecurity_view hp hd { c with
      payment := { c.payment with
        outOfOrderWebhooksIgnored := c.payment.outOfOrderWebhooksIgnored + 1 } }
    exact ⟨s', hs', hv'.trans hcv⟩
  case riskAssessed => exact onRiskAssessed_view hp hd env s

/-- On a readable event the reducer succeeds, and acts on the view as one step. -/
theorem applyEvent_view (env : Env) (s : ReplayState) (eventType : EventType) (actor : String)
    (hrow : row.eventType = eventType.value) :
    ∃ s', applyEvent env s row = .ok s' ∧
      view s' = (view s).step ⟨eventType, actor, d⟩ := by
  obtain ⟨s', hs', hview⟩ := handler_view hp hd env s eventType actor
  refine ⟨{ s' with eventsReplayed := s'.eventsReplayed + 1 }, ?_, hview⟩
  simp [applyEvent, hrow, hp, isObject, hs', bind, Except.bind]

end Handlers

-- ════════════════════════════════════════════════════════════════════════
-- The view of a mission in the database
-- ════════════════════════════════════════════════════════════════════════

/-- Replay of a mission's committed chain succeeds with a given view. -/
def ViewOf (env : Env) (db : Db) (missionId : Uuid) (v : View) : Prop :=
  ∃ s, reduceEvents env (db.chain missionId) = .ok s ∧ view s = v

/-- A chain in sequence order is replayed in that order. -/
lemma reduceEvents_chain (env : Env) {db : Db} (hs : db.Sequenced) (m : Uuid) :
    reduceEvents env (db.chain m) = (db.chain m).foldlM (applyEvent env) {} := by
  have hsorted : (db.chain m).Pairwise before := (hs m).imp fun h => .inl h
  rw [reduceEvents, hsorted.insertionSort_eq]

lemma foldlM_applyEvent_view (env : Env) {rows : List AuditEventRow} {entries : List AuditEntry}
    (hrec : List.Forall₂ AuditEventRow.Records rows entries)
    (hread : ∀ e ∈ entries, Readable e.payload) (s : ReplayState) :
    ∃ s', rows.foldlM (applyEvent env) s = .ok s' ∧ view s' = entries.foldl View.step (view s) := by
  induction hrec generalizing s with
  | nil => exact ⟨s, rfl, rfl⟩
  | @cons row e rows entries hrow _ ih =>
    obtain ⟨s₁, hs₁, hv₁⟩ := applyEvent_view hrow.2 (hread e (by simp)) env s e.eventType e.actor
      hrow.1
    obtain ⟨s₂, hs₂, hv₂⟩ := ih (fun e' he' => hread e' (by simp [he'])) s₁
    refine ⟨s₂, ?_, by rw [hv₂, hv₁]; rfl⟩
    simp only [List.foldlM_cons, hs₁, bind, Except.bind]
    exact hs₂

/-- The view depends on the mission's own chain only. -/
lemma ViewOf.of_chain_eq {env : Env} {db db' : Db} {m : Uuid} {v : View}
    (h : db'.chain m = db.chain m) (hv : ViewOf env db m v) : ViewOf env db' m v := by
  obtain ⟨s, hs, hview⟩ := hv
  exact ⟨s, h ▸ hs, hview⟩

/-- Readable events move the view of their mission step by step, and no other. -/
theorem ViewOf.recorded {env : Env} {db db' : Db} {missionId m : Uuid} {v : View}
    {entries : List AuditEntry} (hs : db.Sequenced) (hv : ViewOf env db m v)
    (h : Recorded missionId entries db db') (hread : ∀ e ∈ entries, Readable e.payload) :
    ViewOf env db' m (if missionId = m then entries.foldl View.step v else v) := by
  obtain ⟨new, hrec, hchain⟩ := h.chain
  by_cases hm : missionId = m
  · obtain ⟨s, hrun, rfl⟩ := hv
    obtain ⟨s', hs', hview⟩ := foldlM_applyEvent_view env hrec hread s
    rw [reduceEvents_chain env hs] at hrun
    refine ⟨s', ?_, by simp [hm, hview]⟩
    rw [reduceEvents_chain env (h.sequenced hs), hchain m, if_pos hm, List.foldlM_append, hrun]
    exact hs'
  · simpa [hm] using hv.of_chain_eq (by rw [hchain m, if_neg hm, List.append_nil])

end Replay

end Pactra
