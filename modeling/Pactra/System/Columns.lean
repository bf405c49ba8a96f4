import Pactra.System.Outbox
import Pactra.System.Reconstruction

/-!
# What replay says about a payment

Besides its state, replay reconstructs two columns of a payment: the reference of the provider's
payment and the last reason code. Both are adopted from payment events only, so a run that keeps
them in agreement is one whose handlers and deliveries do. The branches that record something the
row does not take over are the conditions here.

## Main results

- `replay_names_payment` — replay names the provider payment that the row names, unless a lookup for
  an ambiguous intent found another
- `unadopted_payment_is_named` — then it does not
- `replay_keeps_reason` — replay has the reason code of the row, unless a reconcile turn or a
  delivery only recorded one
- `ignored_webhook_is_a_reason` — then it does not
-/

namespace Pactra

open PaymentExecutor Replay

variable {env : Env} {actions : List Action} {w w' : World}

-- ════════════════════════════════════════════════════════════════════════
-- Columns of the payment
-- ════════════════════════════════════════════════════════════════════════

/-- A column of the payment row that replay reconstructs from payment events only. -/
structure PaymentColumn where
  view : View → Option String
  row : PaymentIntentRow → Option String
  init : view View.init = none
  planned : ∀ mission status, view { View.init with
    missionState := mission, authorizationStatus := status } = none
  moved : ∀ v target, view (v.moved target) = view v
  authorized : ∀ v status, view (v.authorized status) = view v
  stated : ∀ (v : View) state, view { v with paymentState := state } = view v
  fenced : ∀ (i : PaymentIntentRow) fence, row { i with providerCreateFencedAt := fence } = row i

/-- The provider reference. -/
def PaymentColumn.providerPaymentId : PaymentColumn where
  view := View.providerPaymentId
  row := PaymentIntentRow.providerPaymentId
  init := rfl
  planned _ _ := rfl
  moved _ _ := rfl
  authorized _ _ := rfl
  stated _ _ := rfl
  fenced _ _ := rfl

/-- The last reason code. -/
def PaymentColumn.lastReasonCode : PaymentColumn where
  view := View.lastReasonCode
  row := PaymentIntentRow.lastReasonCode
  init := rfl
  planned _ _ := rfl
  moved _ _ := rfl
  authorized _ _ := rfl
  stated _ _ := rfl
  fenced _ _ := rfl

namespace PaymentColumn

variable (c : PaymentColumn)

/-- Replay agrees with the rows of the mission and the authorization, and with the column. -/
structure Agrees (p : Persisted) (v : View) : Prop extends AuthorityAgrees p v where
  column : c.view v = p.payment.bind c.row

/-- A recount keeps a column in agreement when the handler or the delivery behind it does. -/
lemma agrees_of_recount {action : Action} {p p' : Persisted} {entries : List AuditEntry} {v : View}
    (hr : Recount env w action p entries p') (hmissing : p.mission = none → v = View.init)
    (hnew : ∀ i : PaymentIntentRow, i.providerPaymentId = none → i.lastReasonCode = none →
      c.row i = none)
    (hhandled : ∀ k lookup create turn event m i (t : Turn), action = .handle k lookup create →
      w.turns[k]? = some turn → w.db.getPaymentIntent event.paymentIntentId = some i →
      Committable env i → Handled (World.contextOf env w.db turn lookup create) turn.phase
        ⟨i, some m, [], []⟩ event t.work t.event → c.view v = c.row i →
      c.view (replayed v t.work) = c.row t.work.intent)
    (hdelivered : ∀ provider event now m i u applied, action = .webhook provider event now →
      findIntent w.db event = some i → i.providerPaymentId = some event.providerPaymentId →
      event.provider = provider ∧ evidenceMismatches i event = [] →
      Delivered w.db event ⟨i, some m, [], []⟩ u applied → c.view v = c.row i →
      c.view (replayed v u) = c.row u.intent)
    (h : c.Agrees p v) : c.Agrees p' (entries.foldl View.step v) := by
  refine ⟨hr.authority hmissing h.toAuthorityAgrees, ?_⟩
  have hcolumn := h.column
  cases hr with
  | untouched => exact hcolumn
  | repeated m a payment entry hentry =>
    rw [List.foldl_cons, List.foldl_nil, hentry.2 v h.authorization]
    exact hcolumn
  | planned m a _ _ hview =>
    rw [hmissing rfl, hview]
    exact c.planned _ _
  | ended m a payment status entry _ _ hentry =>
    rw [List.foldl_cons, List.foldl_nil, hentry.2 v, c.authorized]
    exact hcolumn
  | activated m a a' payment entry _ _ _ hentry =>
    rw [List.foldl_cons, List.foldl_nil, hentry.2 v, c.moved, c.authorized]
    exact hcolumn
  | created m a a' i _ _ _ _ _ hid hreason hview =>
    rw [hview v, c.moved, c.stated, c.authorized, hcolumn]
    exact (hnew i hid hreason).symm
  | reused =>
    rw [List.foldl_cons, List.foldl_nil, step_reused, c.stated]
    exact hcolumn
  | fenced m a i fence => exact hcolumn.trans (c.fenced i fence).symm
  | handled k lookup create turn event m a i t haction hturn hi hc hh =>
    exact hhandled k lookup create turn event m i t haction hturn hi hc hh hcolumn
  | delivered provider event now m a i u applied haction hi hid hd _ _ haccepted =>
    exact hdelivered provider event now m i u applied haction hi hid haccepted hd hcolumn

/-- What a run that keeps a column in agreement comes to. -/
lemma replayed_column {guard : World → Action → Prop}
    (hstep : ∀ w action p entries p' v, w.commits env action = true → guard w action →
      Recount env w action p entries p' → (p.mission = none → v = View.init) → c.Agrees p v →
      c.Agrees p' (entries.foldl View.step v))
    (h : World.exec env actions = some w)
    (hguard : Runs.Along (World.step env) guard World.init actions) (m : Uuid) :
    ∃ s, reduceEvents env (w.db.chain m) = .ok s ∧
      c.view (Replay.view s) = (paymentIntentForMission w.db m).bind c.row := by
  have hrec := reconstructed (A := c.Agrees) ⟨⟨rfl, rfl⟩, c.init⟩ hstep h hguard
  obtain ⟨v, ⟨s, hs, rfl⟩, -, hagrees⟩ := hrec.missions m
  refine ⟨s, hs, ?_⟩
  rw [hrec.reachable.consistent.paymentIntentForMission m]
  exact hagrees.column

end PaymentColumn

-- ════════════════════════════════════════════════════════════════════════
-- Provider references
-- ════════════════════════════════════════════════════════════════════════

/-- The payment that a lookup found. -/
def LookupAnswer.payment : LookupAnswer → Option ProviderPayment
  | .found payment => some payment
  | _ => none

/-- A reconcile turn that commits for an ambiguous intent has found no payment but the one the intent
names. -/
def FindsLinked (env : Env) (w : World) : Action → Prop
  | .handle k lookup create => w.commits env (.handle k lookup create) = true →
    ∀ turn ∈ w.turns[k]?, ∀ event ∈ turn.phase.reconciles,
      ∀ i ∈ w.db.getPaymentIntent event.paymentIntentId, i.providerAmbiguityObservedAt ≠ none →
        ∀ payment ∈ lookup.payment, i.providerPaymentId = some payment.providerPaymentId
  | _ => True

instance (w : World) (action : Action) : Decidable (FindsLinked env w action) := by
  unfold FindsLinked
  split <;> infer_instance

-- ════════════════════════════════════════════════════════════════════════
-- Reason codes
-- ════════════════════════════════════════════════════════════════════════

section Decidable

variable {payment : ProviderPayment} {i : PaymentIntentRow}

instance (b : Bool) : Decidable (Valid env payment i b) := by
  unfold Valid
  infer_instance

instance (held value : Option String) : Decidable (Agree held value) := by
  unfold Agree
  infer_instance

instance : Decidable (Linkable payment i) :=
  decidable_of_iff (Agree i.providerPaymentId (some payment.providerPaymentId) ∧
    Agree i.providerOrderId payment.providerOrderId ∧
    Agree i.providerReceipt payment.providerReceipt ∧ (payment.status = .succeeded →
      Agree i.providerTransactionId payment.providerTransactionId))
    ⟨fun h => ⟨h.1, h.2.1, h.2.2.1, h.2.2.2⟩,
      fun h => ⟨h.paymentId, h.orderId, h.receipt, h.transactionId⟩⟩

instance : Decidable (Adoptable env payment i) :=
  decidable_of_iff (Valid env payment i (i.providerPaymentId == none) ∧ Linkable payment i)
    ⟨fun h => ⟨h.1, h.2⟩, fun h => ⟨h.valid, h.linkable⟩⟩

end Decidable

/-- The reason code that a reconcile turn on an open intent records without writing it to the row. -/
def recordedOnly (env : Env) (lookup : LookupAnswer) (i : PaymentIntentRow) : Option String :=
  match lookup with
  | .failed error => if error.kind = .ambiguity then none else some error.reasonCode
  | .notFound =>
    if i.providerAmbiguityObservedAt = none ∧ i.providerPaymentId ≠ none then
      some ReasonCode.providerPaymentNotFound.value
    else none
  | .found payment =>
    if i.providerAmbiguityObservedAt = none ∧ ¬Adoptable env payment i then
      some ReasonCode.providerResponseMismatch.value
    else none
  | .raised _ => none

lemma PaymentExecutor.RecordsOnly.eq_recordedOnly {lookup : LookupAnswer} {i : PaymentIntentRow} {code : String}
    (h : RecordsOnly env lookup i code) : recordedOnly env lookup i = some code := by
  cases h with
  | lookupFailed error h hk => rw [h, recordedOnly, if_neg hk]
  | linkedNotFound h ha hp => rw [h, recordedOnly, if_pos ⟨ha, hp⟩]
  | refused payment h ha hn => rw [h, recordedOnly, if_pos ⟨ha, hn⟩]

/-- A reconcile turn that commits records no reason code but the row's, and a delivery that is
accepted is a first one that fits the state of the payment. -/
def RecordsReason (env : Env) (w : World) : Action → Prop
  | .handle k lookup create => w.commits env (.handle k lookup create) = true →
    ∀ turn ∈ w.turns[k]?, ∀ event ∈ turn.phase.reconciles,
      ∀ i ∈ w.db.getPaymentIntent event.paymentIntentId, i.state.isTerminal = false →
        ∀ code ∈ recordedOnly env lookup i, i.lastReasonCode = some code
  | .webhook provider event _ => event.provider = provider → ∀ i ∈ findIntent w.db event,
    evidenceMismatches i event = [] → alreadyDelivered w.db event = false ∧
      (i.providerAmbiguityObservedAt = none →
        (i.state = .providerPending ∧ webhookTypeToState event.eventType = .providerPending) ∨
          i.state.canTransition (webhookTypeToState event.eventType) = true)
  | _ => True

instance (w : World) (action : Action) : Decidable (RecordsReason env w action) := by
  unfold RecordsReason
  split <;> infer_instance

-- ════════════════════════════════════════════════════════════════════════
-- Agreement
-- ════════════════════════════════════════════════════════════════════════

/-- A create that times out, and a lookup that settles it, record nothing the row does not take. -/
lemma Sample.reconciled_columns :
    ((World.exec Sample.env (Sample.timedOut ++ Sample.reconciled)).map fun w =>
      (w.db.paymentIntents.map PaymentIntentRow.providerPaymentId,
        decide (Runs.Along (World.step Sample.env)
          (fun w action => FindsLinked Sample.env w action ∧ RecordsReason Sample.env w action) World.init
          (Sample.timedOut ++ Sample.reconciled)))) = some ([some "pay_1"], true) := by
  decide +kernel

/-- In every run in which no lookup for an ambiguous intent finds another payment than the one the
intent names, the provider payment that replay names is in every committed state the one the intent
row names. -/
theorem replay_names_payment (h : World.exec env actions = some w)
    (hguard : Runs.Along (World.step env) (FindsLinked env) World.init actions) (m : Uuid) :
    ∃ s, reduceEvents env (w.db.chain m) = .ok s ∧ s.payment.providerPaymentId =
      (paymentIntentForMission w.db m).bind PaymentIntentRow.providerPaymentId := by
  refine PaymentColumn.replayed_column .providerPaymentId ?_ h hguard m
  intro w action p entries p' v hcommits hg hr hmissing hv
  refine PaymentColumn.agrees_of_recount _ hr hmissing (fun _ hid _ => hid) ?_ ?_ hv
  · intro k lookup create turn event m i t haction hturn hi hc hh hcolumn
    subst haction
    have hstart : Named (replayed v ⟨i, some m, [], []⟩) i := hcolumn
    cases hh with
    | create hd => exact hd.named hc hstart
    | reconcile hp hd =>
      refine hd.named hc (fun payment hl hambiguous => ?_) hstart
      have hl : lookup = .found payment := hl
      exact hg hcommits turn hturn event hp i hi hambiguous payment (by rw [hl]; rfl)
  · intro provider event now m i u applied _ _ hid _ hd hcolumn
    exact hd.named hid hcolumn

theorem replay_names_payment_reconciled :
    ∃ w, World.exec Sample.env (Sample.timedOut ++ Sample.reconciled) = some w ∧
      w.db.paymentIntents.map PaymentIntentRow.providerPaymentId = [some "pay_1"] ∧
      ∀ m, ∃ s, reduceEvents Sample.env (w.db.chain m) = .ok s ∧ s.payment.providerPaymentId =
        (paymentIntentForMission w.db m).bind PaymentIntentRow.providerPaymentId := by
  obtain ⟨w, hw, hw'⟩ := Option.map_eq_some_iff.mp Sample.reconciled_columns
  obtain ⟨hpaid, hguard⟩ := Prod.mk.inj hw'
  exact ⟨w, hw, hpaid, replay_names_payment hw
    ((of_decide_eq_true hguard).imp fun _ _ h => h.1)⟩

lemma Sample.settledLater_payment : ((World.exec Sample.env (Sample.ambiguous ++
    Sample.settledLater)).bind fun w =>
      (reduceEvents Sample.env (w.db.chain ⟨"0"⟩)).toOption.map fun s =>
        (s.payment.providerPaymentId, (paymentIntentForMission w.db ⟨"0"⟩).bind
          PaymentIntentRow.providerPaymentId)) = some (some "pay_1", none) := by decide +kernel

/-- A later lookup for the ambiguous order finds one of its payments. The row does not take it over,
and replay does. -/
theorem unadopted_payment_is_named : ¬∀ (env : Env) (actions : List Action) (w : World) (m : Uuid),
    World.exec env actions = some w → ∃ s, reduceEvents env (w.db.chain m) = .ok s ∧
      s.payment.providerPaymentId =
        (paymentIntentForMission w.db m).bind PaymentIntentRow.providerPaymentId := by
  intro hall
  obtain ⟨w, hw, hreplayed⟩ := Option.bind_eq_some_iff.mp Sample.settledLater_payment
  obtain ⟨s, hs, hsame⟩ := hall _ _ w ⟨"0"⟩ hw
  rw [hs] at hreplayed
  obtain ⟨hnamed, hunnamed⟩ := Prod.mk.inj (Option.some.inj hreplayed)
  rw [hnamed, hunnamed] at hsame
  cases hsame

/-- In every run whose reconcile turns record no other reason code than the row's, and whose
deliveries are first ones that fit the state of the payment, the last reason code that replay
reconstructs is in every committed state the one of the intent row. -/
theorem replay_keeps_reason (h : World.exec env actions = some w)
    (hguard : Runs.Along (World.step env) (RecordsReason env) World.init actions) (m : Uuid) :
    ∃ s, reduceEvents env (w.db.chain m) = .ok s ∧ s.payment.lastReasonCode =
      (paymentIntentForMission w.db m).bind PaymentIntentRow.lastReasonCode := by
  refine PaymentColumn.replayed_column .lastReasonCode ?_ h hguard m
  intro w action p entries p' v hcommits hg hr hmissing hv
  refine PaymentColumn.agrees_of_recount _ hr hmissing (fun _ _ hreason => hreason) ?_ ?_ hv
  · intro k lookup create turn event m i t haction hturn hi hc hh hcolumn
    subst haction
    have hstart : Reasoned (replayed v ⟨i, some m, [], []⟩) i := hcolumn
    cases hh with
    | create hd => exact hd.reasoned hstart
    | reconcile hp hd =>
      refine hd.reasoned hc (fun code hopen hcode => ?_) hstart
      exact hg hcommits turn hturn event hp i hi hopen code hcode.eq_recordedOnly
  · intro provider event now m i u applied haction hi _ haccepted hd _
    subst haction
    obtain ⟨hfirst, horder⟩ := hg haccepted.1 i hi haccepted.2
    exact hd.reasoned hfirst horder

theorem replay_keeps_reason_reconciled :
    ∃ w, World.exec Sample.env (Sample.timedOut ++ Sample.reconciled) = some w ∧
      w.db.paymentIntents.map PaymentIntentRow.providerPaymentId = [some "pay_1"] ∧
      ∀ m, ∃ s, reduceEvents Sample.env (w.db.chain m) = .ok s ∧ s.payment.lastReasonCode =
        (paymentIntentForMission w.db m).bind PaymentIntentRow.lastReasonCode := by
  obtain ⟨w, hw, hw'⟩ := Option.map_eq_some_iff.mp Sample.reconciled_columns
  obtain ⟨hpaid, hguard⟩ := Prod.mk.inj hw'
  exact ⟨w, hw, hpaid, replay_keeps_reason hw
    ((of_decide_eq_true hguard).imp fun _ _ h => h.2)⟩

lemma Sample.redelivered_reason : ((World.exec Sample.env (Sample.paid ++
    [.webhook "fake" Sample.succeeded 0])).bind fun w =>
      (reduceEvents Sample.env (w.db.chain ⟨"0"⟩)).toOption.map fun s =>
        (s.payment.lastReasonCode, (paymentIntentForMission w.db ⟨"0"⟩).bind
          PaymentIntentRow.lastReasonCode)) =
    some (some ReasonCode.illegalPaymentTransition.value, none) := by decide +kernel

/-- The webhook of a payment that a worker has settled already is recorded as ignored, with a reason
that replay takes for the payment's. -/
theorem ignored_webhook_is_a_reason : ¬∀ (env : Env) (actions : List Action) (w : World) (m : Uuid),
    World.exec env actions = some w → ∃ s, reduceEvents env (w.db.chain m) = .ok s ∧
      s.payment.lastReasonCode =
        (paymentIntentForMission w.db m).bind PaymentIntentRow.lastReasonCode := by
  intro hall
  obtain ⟨w, hw, hreplayed⟩ := Option.bind_eq_some_iff.mp Sample.redelivered_reason
  obtain ⟨s, hs, hsame⟩ := hall _ _ w ⟨"0"⟩ hw
  rw [hs] at hreplayed
  obtain ⟨hreason, hnone⟩ := Prod.mk.inj (Option.some.inj hreplayed)
  rw [hreason, hnone] at hsame
  cases hsame

end Pactra
