import Pactra.PaymentExecutor.Effects.Dispatch
import Pactra.PaymentExecutor.Effects.Reconcile
import Pactra.PaymentExecutor.Effects.Webhook

/-!
# What a payment operation does to the intent row

A row that a transaction may commit is `Committable`; how one committed row follows another is
`Moves`. Both are about a single row, so they are proved here for one handler at a time, and the
system only has to carry them from one committed state to the next. The mission row that a handler
holds next to the intent changes in its state only.

## Main results

- `Dispatched.moves`, `Reconciled.moves`, `Delivered.moves` — every handler that ends leaves a row
  that may be committed and that follows the one it locked
- `Dispatched.mission`, `Reconciled.mission`, `Delivered.mission` — and only moves the mission
-/

namespace Pactra

/-- The columns of a mission row that no operation changes. -/
def Mission.terms (m : Mission) : Mission := { m with state := .created }

lemma Mission.id_of_terms {m m' : Mission} (h : m'.terms = m.terms) : m'.id = m.id :=
  (congrArg Mission.id h :)

lemma Mission.quantity_of_terms {m m' : Mission} (h : m'.terms = m.terms) :
    m'.quantity = m.quantity := (congrArg Mission.quantity h :)

namespace PaymentIntentRow

/-- The columns of a row that no operation changes: the row with all others blanked. -/
def terms (i : PaymentIntentRow) : PaymentIntentRow :=
  { i with
    providerPaymentId := none, providerOrderId := none, providerTransactionId := none,
    providerReceipt := none, providerStatus := none, providerAttempts := none,
    providerCreateFencedAt := none, providerAmbiguityObservedAt := none, state := .created,
    attempts := 0, lastReasonCode := none }

section Terms

variable {i i' : PaymentIntentRow} (h : i'.terms = i.terms)

include h

lemma id_of_terms : i'.id = i.id := (congrArg PaymentIntentRow.id h :)

lemma missionId_of_terms : i'.missionId = i.missionId :=
  (congrArg PaymentIntentRow.missionId h :)

lemma authorizationId_of_terms : i'.authorizationId = i.authorizationId :=
  (congrArg PaymentIntentRow.authorizationId h :)

lemma idempotencyKey_of_terms : i'.idempotencyKey = i.idempotencyKey :=
  (congrArg PaymentIntentRow.idempotencyKey h :)

lemma provider_of_terms : i'.provider = i.provider := (congrArg PaymentIntentRow.provider h :)

end Terms

/-- The provider references of a row. -/
def references (i : PaymentIntentRow) :
    Option String × Option String × Option String × Option String :=
  (i.providerPaymentId, i.providerOrderId, i.providerReceipt, i.providerTransactionId)

/-- No provider payment is linked to the row. -/
def Unlinked (i : PaymentIntentRow) : Prop := i.references = (none, none, none, none)

lemma Unlinked.paymentId {i : PaymentIntentRow} (h : i.Unlinked) : i.providerPaymentId = none :=
  congrArg Prod.fst h

end PaymentIntentRow

namespace PaymentExecutor

open PaymentIntentState PaymentIntentRow

/-- A row that a transaction may commit. -/
structure Committable (env : Env) (i : PaymentIntentRow) : Prop where
  state : i.state ≠ .created ∧ i.state ≠ .processing ∧ i.state ≠ .cancelled
  unlinked : unstarted i.state → i.Unlinked
  referenced : i.providerPaymentId = none → i.Unlinked
  ambiguous : i.providerAmbiguityObservedAt ≠ none → i.state = .providerPending
  retryable : i.state = .failedRetryable → env.createRetriesAreIdempotent i.provider = true

/-- How one committed row of an intent follows another. -/
structure Moves (i i' : PaymentIntentRow) : Prop where
  terms : i'.terms = i.terms
  fence : i.providerCreateFencedAt ≠ none →
    i'.providerCreateFencedAt = i.providerCreateFencedAt
  ambiguity : i.providerAmbiguityObservedAt ≠ none →
    i'.providerAmbiguityObservedAt = i.providerAmbiguityObservedAt ∧ i'.references = i.references
  path : Path i.state i'.state

theorem Moves.refl (i : PaymentIntentRow) : Moves i i :=
  ⟨rfl, fun _ => rfl, fun _ => ⟨rfl, rfl⟩, .refl _⟩

theorem Moves.trans {i j k : PaymentIntentRow} (h : Moves i j) (h' : Moves j k) : Moves i k := by
  refine ⟨h'.terms.trans h.terms, fun hf => ?_, fun ha => ?_, h.path.trans h'.path⟩
  · have hj := h.fence hf
    exact (h'.fence (hj ▸ hf)).trans hj
  · obtain ⟨hj, hr⟩ := h.ambiguity ha
    obtain ⟨hk, hr'⟩ := h'.ambiguity (hj ▸ ha)
    exact ⟨hk.trans hj, hr'.trans hr⟩

/-- A payment that is still open was open before. -/
lemma Moves.wasOpen {i i' : PaymentIntentRow} (h : Moves i i') (hs : i'.state.isTerminal = false) :
    i.state.isTerminal = false := by
  by_contra hterm
  rw [h.path.eq_of_isTerminal (by simpa using hterm)] at hs
  exact hterm hs

lemma Moves.of_unmarked {i i' : PaymentIntentRow} (hterms : i'.terms = i.terms)
    (hfence : i'.providerCreateFencedAt = i.providerCreateFencedAt)
    (ha : i.providerAmbiguityObservedAt = none) (hpath : Path i.state i'.state) : Moves i i' :=
  ⟨hterms, fun _ => hfence, fun h => absurd ha h, hpath⟩

section Rows

variable {env : Env} {i : PaymentIntentRow}

lemma Committable.of_open (hs : i.state = .providerPending)
    (hr : i.providerPaymentId = none → i.Unlinked) : Committable env i :=
  ⟨by simp [hs], by simp [hs, unstarted], hr, fun _ => hs, by simp [hs]⟩

lemma Committable.of_linked (hs : i.state = .providerPending ∨ i.state = .succeeded ∨
      i.state = .failedTerminal) (hp : i.providerPaymentId ≠ none)
    (ha : i.providerAmbiguityObservedAt = none) : Committable env i := by
  refine ⟨?_, ?_, fun h => absurd h hp, fun h => absurd ha h, ?_⟩
  all_goals rcases hs with hs | hs | hs <;> simp [hs, unstarted]

/-- An unstarted intent carries no ambiguity mark. -/
lemma Committable.unmarked (h : Committable env i) (hs : unstarted i.state) :
    i.providerAmbiguityObservedAt = none := by
  by_contra ha
  rw [h.ambiguous ha] at hs
  simp [unstarted] at hs

lemma Committable.of_eq {i' : PaymentIntentRow} (h : Committable env i)
    (hs : i'.state = i.state) (hr : i'.references = i.references)
    (ha : i'.providerAmbiguityObservedAt = i.providerAmbiguityObservedAt)
    (hp : i'.provider = i.provider) : Committable env i' := by
  have hid : i'.providerPaymentId = i.providerPaymentId := congrArg Prod.fst hr
  refine ⟨hs ▸ h.state, fun hu => ?_, fun hn => ?_, fun hm => ?_, fun hf => ?_⟩
  · exact hr.trans (h.unlinked (hs ▸ hu))
  · exact hr.trans (h.referenced (hid ▸ hn))
  · exact hs ▸ h.ambiguous (ha ▸ hm)
  · exact hp ▸ h.retryable (hs ▸ hf)

end Rows

-- ════════════════════════════════════════════════════════════════════════
-- The closed forms on the row
-- ════════════════════════════════════════════════════════════════════════

section ClosedForms

variable (u : UnitOfWork)

lemma attempted_intent (a b : Bool) :
    (attempted a b u).intent = if unstarted u.intent.state then
      { u.intent with state := .processing, lastReasonCode := none,
                      attempts := u.intent.attempts + 1 } else u.intent := by
  unfold attempted
  split <;> rfl

lemma moves_attempted (a b : Bool) : Moves u.intent (attempted a b u).intent := by
  rw [attempted_intent]
  split
  · next hs =>
    refine ⟨rfl, fun _ => rfl, fun _ => ⟨rfl, rfl⟩, ?_⟩
    rcases hs with hs | hs
    · rw [hs]
      exact .single rfl
    · rw [hs]
      exact (Path.single (t := .queued) rfl).trans (.single rfl)
  · exact .refl _

lemma uncertain_intent (detail : String) (now : Datetime) (reasonCode : String)
    (timedOut : Bool) :
    (uncertain detail now reasonCode timedOut u).intent =
      { markedAmbiguous now reasonCode u.intent with
        state := .providerPending
        lastReasonCode := some (recordedReason reasonCode u.intent) } := by
  cases timedOut <;> rfl

lemma path_of_maybeUncertain {state : PaymentIntentState} (hs : maybeUncertain state) :
    Path state .providerPending := by
  rcases hs with rfl | hs
  · exact .refl _
  · exact .single hs

lemma references_markedAmbiguous (now : Datetime) (reasonCode : String) (i : PaymentIntentRow) :
    (markedAmbiguous now reasonCode i).references = i.references := by
  unfold markedAmbiguous
  split <;> rfl

lemma moves_markedAmbiguous (now : Datetime) (reasonCode : String) (i : PaymentIntentRow) :
    Moves i (markedAmbiguous now reasonCode i) := by
  unfold markedAmbiguous
  split
  · refine ⟨rfl, fun _ => rfl, fun ha => ⟨?_, rfl⟩, .refl _⟩
    obtain ⟨t, ht⟩ := Option.ne_none_iff_exists'.mp ha
    simp [rememberProviderAmbiguity, ht]
  · exact .refl _

lemma moves_uncertain (detail : String) (now : Datetime) (reasonCode : String) (timedOut : Bool)
    (hs : maybeUncertain u.intent.state) :
    Moves u.intent (uncertain detail now reasonCode timedOut u).intent := by
  rw [uncertain_intent]
  have hm := moves_markedAmbiguous now reasonCode u.intent
  exact ⟨hm.terms, hm.fence, hm.ambiguity, path_of_maybeUncertain hs⟩

lemma committable_uncertain {env : Env} (detail : String) (now : Datetime) (reasonCode : String)
    (timedOut : Bool) (hr : u.intent.providerPaymentId = none → u.intent.Unlinked) :
    Committable env (uncertain detail now reasonCode timedOut u).intent := by
  have href : (uncertain detail now reasonCode timedOut u).intent.references =
      u.intent.references := by
    rw [uncertain_intent]
    exact references_markedAmbiguous now reasonCode u.intent
  refine .of_open (by rw [uncertain_intent]) fun hn => href.trans (hr ?_)
  rw [← hn]
  exact (congrArg Prod.fst href).symm

/-- The state after a provider answer was folded in. -/
lemma settled_state (payment : ProviderPayment) (now : Datetime) :
    (settled payment now u).intent.state =
      if u.intent.state = providerStatusToState payment.status ∨ u.intent.state.isTerminal = true
      then u.intent.state else providerStatusToState payment.status := by
  unfold settled
  dsimp only
  split
  · rfl
  · cases payment.status <;> rfl

lemma settled_columns (payment : ProviderPayment) (now : Datetime) :
    (settled payment now u).intent.terms = u.intent.terms ∧
      (settled payment now u).intent.providerCreateFencedAt = u.intent.providerCreateFencedAt ∧
      (settled payment now u).intent.providerAmbiguityObservedAt =
        u.intent.providerAmbiguityObservedAt ∧
      (settled payment now u).intent.providerPaymentId = some payment.providerPaymentId := by
  unfold settled
  dsimp only
  split
  · exact ⟨rfl, rfl, rfl, rfl⟩
  · cases payment.status <;> exact ⟨rfl, rfl, rfl, rfl⟩

variable {u} {u' : UnitOfWork} {env : Env} {db : Db} {payment : ProviderPayment} {now : Datetime}

lemma Settles.moves (h : Settles env db payment now u u')
    (ha : u.intent.providerAmbiguityObservedAt = none) : Moves u.intent u'.intent := by
  obtain ⟨ht, hf, -, -⟩ := settled_columns u payment now
  rw [h.eq]
  refine .of_unmarked ht hf ha ?_
  rw [settled_state]
  split
  · exact .refl _
  · next hn =>
    have hreach := h.reachable
    exact .single (by tauto)

lemma Settles.committable (h : Settles env db payment now u u')
    (ha : u.intent.providerAmbiguityObservedAt = none) (hc : u.intent.state ≠ .cancelled) :
    Committable env u'.intent := by
  obtain ⟨-, -, hm, hp⟩ := settled_columns u payment now
  rw [h.eq]
  refine .of_linked ?_ (by simp [hp]) (hm.trans ha)
  have htarget : providerStatusToState payment.status = .providerPending ∨
      providerStatusToState payment.status = .succeeded ∨
      providerStatusToState payment.status = .failedTerminal := by
    cases payment.status <;> simp [providerStatusToState]
  rw [settled_state]
  split
  · next hsame =>
    rcases hsame with hsame | hsame
    · rwa [hsame]
    · revert hsame hc
      cases u.intent.state <;> simp [isTerminal]
  · exact htarget

/-- A refused answer leaves the row of a committable intent linked as it was. -/
lemma Refused.moves (h : Refused u u') (ha : u.intent.providerAmbiguityObservedAt = none) :
    Moves u.intent u'.intent := by
  rcases h with rfl | ⟨i', hi', rfl⟩
  · exact .refl _
  · refine .of_unmarked ?_ ?_ ha ?_
    all_goals rw [hi'.columns]
    · rfl
    · exact .refl _

lemma Refused.state (h : Refused u u') : u'.intent.state = u.intent.state := by
  rcases h with rfl | ⟨i', hi', rfl⟩
  · rfl
  · rw [hi'.columns]

lemma Refused.unmarked (h : Refused u u') :
    u'.intent.providerAmbiguityObservedAt = u.intent.providerAmbiguityObservedAt := by
  rcases h with rfl | ⟨i', hi', rfl⟩
  · rfl
  · rw [hi'.columns]

/-- The references of an unlinked row contradict no answer. -/
lemma PartlyLinked.paymentId_ne {i i' : PaymentIntentRow} (h : PartlyLinked i i')
    (hr : i.providerPaymentId = none → i.Unlinked) : i.providerPaymentId ≠ none := by
  intro hn
  have hu := hr hn
  simp only [Unlinked, PaymentIntentRow.references, Prod.mk.injEq] at hu
  have := h.contradicted
  simp [hu] at this

lemma Refused.paymentId (h : Refused u u')
    (hr : u.intent.providerPaymentId = none → u.intent.Unlinked) :
    u'.intent.providerPaymentId = u.intent.providerPaymentId := by
  rcases h with rfl | ⟨i', hi', rfl⟩
  · rfl
  · rcases hi'.paymentId with hn | heq
    · exact absurd hn (hi'.paymentId_ne hr)
    · exact heq

lemma Refused.referenced (h : Refused u u')
    (hr : u.intent.providerPaymentId = none → u.intent.Unlinked) :
    u'.intent.providerPaymentId = none → u'.intent.Unlinked := by
  intro hn
  have hid := h.paymentId hr
  rcases h with rfl | ⟨i', hi', rfl⟩
  · exact hr hn
  · exact absurd (hid ▸ hn) (hi'.paymentId_ne hr)

lemma references_attempted (a b : Bool) :
    (attempted a b u).intent.references = u.intent.references := by
  rw [attempted_intent]
  split <;> rfl

lemma attempted_unmarked (a b : Bool) :
    (attempted a b u).intent.providerAmbiguityObservedAt =
      u.intent.providerAmbiguityObservedAt := by
  rw [attempted_intent]
  split <;> rfl

lemma attempted_referenced (a b : Bool)
    (hr : u.intent.providerPaymentId = none → u.intent.Unlinked) :
    (attempted a b u).intent.providerPaymentId = none → (attempted a b u).intent.Unlinked := by
  have href := references_attempted (u := u) a b
  intro hn
  exact href.trans (hr ((congrArg Prod.fst href).symm.trans hn))

lemma attempted_not_cancelled (a b : Bool) (hc : u.intent.state ≠ .cancelled) :
    (attempted a b u).intent.state ≠ .cancelled := by
  rw [attempted_intent]
  split
  · simp
  · exact hc

end ClosedForms

@[simp] lemma followedUp_intent (now : Datetime) (u : UnitOfWork) :
    (followedUp now u).intent = u.intent := by
  unfold followedUp
  split <;> rfl

-- ════════════════════════════════════════════════════════════════════════
-- Handlers
-- ════════════════════════════════════════════════════════════════════════

section Handlers

variable {ctx : TurnContext} {u u' : UnitOfWork} {e e' : OutboxEventRow}

/-- A create turn leaves a row that may be committed and that follows the one it locked. -/
theorem Dispatched.moves (h : Dispatched ctx u e u' e') (hu : Committable ctx.env u.intent)
    (hp : ctx.provider = u.intent.provider) :
    Committable ctx.env u'.intent ∧ Moves u.intent u'.intent := by
  have hprocessing : ∀ {a b : Bool}, unstarted u.intent.state →
      (attempted a b u).intent.state = .processing := fun hs => attempted_state hs _ _
  have hpending : maybeUncertain .processing := .inr rfl
  cases h with
  | finished => exact ⟨hu, .refl _⟩
  | handedOver => exact ⟨hu, .refl _⟩
  | uncertain detail reasonCode timedOut hs =>
    exact ⟨committable_uncertain _ _ _ _ _ hu.referenced, moves_uncertain _ _ _ _ _ hs⟩
  | recovered payment v _ ha _ h =>
    have hm := (attempted_unmarked (u := u) false true).trans ha
    simp only [followedUp_intent, noted_intent]
    exact ⟨h.committable hm (attempted_not_cancelled _ _ hu.state.2.2),
      (moves_attempted _ _ _).trans (h.moves hm)⟩
  | recoveredRefused detail v ha h hs =>
    rcases h with rfl | h
    · exact ⟨committable_uncertain _ _ _ _ _ hu.referenced, moves_uncertain _ _ _ _ _ hs⟩
    · have hm := (attempted_unmarked (u := u) false true).trans ha
      exact ⟨committable_uncertain _ _ _ _ _ (h.referenced (attempted_referenced _ _ hu.referenced)),
        ((moves_attempted _ _ _).trans (h.moves hm)).trans (moves_uncertain _ _ _ _ _ hs)⟩
  | created payment v _ hs _ h =>
    have hm := (attempted_unmarked (u := u) true false).trans (hu.unmarked hs)
    rw [followedUp_intent]
    exact ⟨h.committable hm (attempted_not_cancelled _ _ hu.state.2.2),
      (moves_attempted _ _ _).trans (h.moves hm)⟩
  | createdRefused detail v hs h =>
    have hm := (attempted_unmarked (u := u) true false).trans (hu.unmarked hs)
    have hv : maybeUncertain v.intent.state := by
      rw [h.state, hprocessing hs]
      exact hpending
    exact ⟨committable_uncertain _ _ _ _ _ (h.referenced (attempted_referenced _ _ hu.referenced)),
      ((moves_attempted _ _ _).trans (h.moves hm)).trans (moves_uncertain _ _ _ _ _ hv)⟩
  | createUncertain detail reasonCode timedOut hs =>
    have hv : maybeUncertain (attempted true false u).intent.state := by
      rw [hprocessing hs]
      exact hpending
    exact ⟨committable_uncertain _ _ _ _ _ (attempted_referenced _ _ hu.referenced),
      (moves_attempted _ _ _).trans (moves_uncertain _ _ _ _ _ hv)⟩
  | createRetryable reason hs hi =>
    have hrow : (attempted true false u).intent.Unlinked :=
      (references_attempted true false).trans (hu.unlinked hs)
    have hm := (attempted_unmarked (u := u) true false).trans (hu.unmarked hs)
    have hprovider : (attempted true false u).intent.provider = ctx.provider := by
      rw [hp, attempted_intent, if_pos hs]
    refine ⟨⟨by simp [transitioned], fun _ => hrow, fun _ => hrow, fun ha => absurd hm ha,
      fun _ => ?_⟩, (moves_attempted u true false).trans (.of_unmarked rfl rfl hm ?_)⟩
    · show ctx.env.createRetriesAreIdempotent (attempted true false u).intent.provider = true
      rw [hprovider]
      exact hi
    · rw [hprocessing hs]
      exact .single rfl
  | createTerminal detail hs =>
    have hrow : (attempted true false u).intent.Unlinked :=
      (references_attempted true false).trans (hu.unlinked hs)
    have hm := (attempted_unmarked (u := u) true false).trans (hu.unmarked hs)
    refine ⟨⟨by simp [withMission, transitioned], fun _ => hrow, fun _ => hrow,
      fun ha => absurd hm ha, by simp [withMission, transitioned]⟩,
      (moves_attempted u true false).trans (.of_unmarked rfl rfl hm ?_)⟩
    rw [hprocessing hs]
    exact .single rfl

lemma moves_ambiguityObserved (now : Datetime) (detail : String)
    (hs : maybeUncertain u.intent.state) :
    Moves u.intent (ambiguityObserved now detail u).intent := by
  refine ⟨rfl, fun _ => rfl, fun ha => ⟨?_, rfl⟩, path_of_maybeUncertain hs⟩
  obtain ⟨t, ht⟩ := Option.ne_none_iff_exists'.mp ha
  simp [ambiguityObserved, transitioned, rememberProviderAmbiguity, ht]

lemma moves_ambiguityKept (now : Datetime) (ha : u.intent.providerAmbiguityObservedAt ≠ none)
    (hs : maybeUncertain u.intent.state) : Moves u.intent (ambiguityKept now u).intent := by
  unfold ambiguityKept
  split
  · exact ⟨rfl, fun _ => rfl, fun _ => ⟨rfl, rfl⟩, path_of_maybeUncertain hs⟩
  · refine ⟨rfl, fun _ => rfl, fun _ => ⟨?_, rfl⟩, .refl _⟩
    obtain ⟨t, ht⟩ := Option.ne_none_iff_exists'.mp ha
    simp [rememberProviderAmbiguity, ht]

lemma ambiguityKept_state (now : Datetime) : (ambiguityKept now u).intent.state = .providerPending := by
  unfold ambiguityKept
  split
  · rfl
  · next hs => exact not_not.mp hs

lemma fencedKept_state : (fencedKept u).intent.state = .providerPending := by
  unfold fencedKept
  split
  · rfl
  · next hs => exact not_not.mp hs

lemma moves_fencedKept (hs : maybeUncertain u.intent.state) :
    Moves u.intent (fencedKept u).intent := by
  unfold fencedKept
  split
  · exact ⟨rfl, fun _ => rfl, fun _ => ⟨rfl, rfl⟩, path_of_maybeUncertain hs⟩
  · exact ⟨rfl, fun _ => rfl, fun _ => ⟨rfl, rfl⟩, .refl _⟩

/-- A lookup that was refused after the attempt had been recorded was refused on an intent that
was already under way: an unlinked row contradicts nothing. -/
lemma not_unstarted_of_refused {payment : ProviderPayment} (hu : Committable ctx.env u.intent)
    (hv : Valid ctx.env payment u.intent (u.intent.providerPaymentId == none))
    (hn : ¬Adoptable ctx.env payment (attempted false true u).intent) :
    ¬unstarted u.intent.state := by
  intro hs
  have hrow : (attempted false true u).intent.Unlinked :=
    (references_attempted false true).trans (hu.unlinked hs)
  simp only [Unlinked, PaymentIntentRow.references, Prod.mk.injEq] at hrow
  refine hn ⟨?_, .inl hrow.1, .inl hrow.2.1, .inl hrow.2.2.1, fun _ => .inl hrow.2.2.2⟩
  rw [attempted_intent, if_pos hs]
  exact hv

/-- A reconcile turn leaves a row that may be committed and that follows the one it locked. -/
theorem Reconciled.moves (h : Reconciled ctx u e u' e') (hu : Committable ctx.env u.intent)
    (hp : ctx.provider = u.intent.provider)
    (hfence : u.intent.state.isTerminal = false →
      u.intent.providerCreateFencedAt ≠ none ∨ ctx.idempotent = true) :
    Committable ctx.env u'.intent ∧ Moves u.intent u'.intent := by
  cases h with
  | finished => exact ⟨hu, .refl _⟩
  | ambiguityObserved error _ _ hs =>
    exact ⟨.of_open rfl hu.referenced, moves_ambiguityObserved ctx.now error.detail hs⟩
  | lookupFailed => exact ⟨hu, .refl _⟩
  | ambiguous payment _ ha hs =>
    have hm := moves_ambiguityKept ctx.now ha hs
    have hr := (hm.ambiguity ha).2
    refine ⟨.of_open (ambiguityKept_state _) fun hn => hr.trans (hu.referenced ?_), hm⟩
    exact (congrArg Prod.fst hr).symm.trans hn
  | linkedNotFound => exact ⟨hu, .refl _⟩
  | fencedNotFound _ _ _ hs =>
    have hm := moves_fencedKept hs
    have hr : (fencedKept u).intent.references = u.intent.references := by
      unfold fencedKept
      split <;> rfl
    refine ⟨.of_open fencedKept_state fun hn => hr.trans (hu.referenced ?_), hm⟩
    exact (congrArg Prod.fst hr).symm.trans hn
  | noPayment _ ha hid hf hs =>
    have hopen : u.intent.state.isTerminal = false := by
      revert hs
      cases u.intent.state <;> simp [isTerminal, canTransition, allowedTransitions]
    have hidem : ctx.idempotent = true := by
      rcases hf with hf | hf
      · exact (hfence hopen).resolve_left (by simp [hf])
      · exact hf
    refine ⟨⟨by simp [PaymentExecutor.noPayment, queuedEvent], fun _ => hu.referenced hid, hu.referenced,
      fun hm => absurd ha hm, fun _ => ?_⟩, .of_unmarked rfl rfl ha (.single hs)⟩
    show ctx.env.createRetriesAreIdempotent u.intent.provider = true
    rw [← hp]
    exact hidem
  | found payment v _ ha _ h =>
    have hm := (attempted_unmarked (u := u) false true).trans ha
    exact ⟨h.committable hm (attempted_not_cancelled _ _ hu.state.2.2),
      (moves_attempted _ _ _).trans (h.moves hm)⟩
  | refused payment detail v _ ha _ hn h =>
    rcases h with rfl | ⟨hv, h⟩
    · exact ⟨hu, .refl _⟩
    · have hs := not_unstarted_of_refused hu hv hn
      have heq : attempted false true u = u := by rw [attempted, if_neg hs]
      rw [heq] at h
      have hstate : v.intent.state = u.intent.state := h.state
      have hprov := provider_of_terms (h.moves ha).terms
      refine ⟨⟨?_, ?_, h.referenced hu.referenced, fun hm => ?_, fun hr => ?_⟩, h.moves ha⟩
      · exact hstate ▸ hu.state
      · intro hun
        exact absurd (hstate ▸ hun) hs
      · exact absurd (h.unmarked.trans ha) hm
      · exact hprov ▸ hu.retryable (hstate ▸ hr)

/-- A webhook delivery to an intent that its reference names leaves a row that may be committed
and that follows the one it locked. -/
theorem Delivered.moves {env : Env} {db : Db} {event : VerifiedWebhookEvent}
    {applied : Option (Option PaymentIntentState)} (h : Delivered db event u u' applied)
    (hu : Committable env u.intent)
    (hid : u.intent.providerPaymentId = some event.providerPaymentId) :
    Committable env u'.intent ∧ Moves u.intent u'.intent := by
  cases h with
  | duplicate => exact ⟨hu, .refl _⟩
  | held =>
    exact ⟨hu.of_eq rfl rfl rfl rfl, rfl, fun _ => rfl, fun _ => ⟨rfl, rfl⟩, .refl _⟩
  | observed _ ha hs =>
    exact ⟨.of_linked (.inl hs) (by simp [storeProviderEvidence, reported, hid]) ha,
      .of_unmarked rfl rfl ha (.refl _)⟩
  | outOfOrder => exact ⟨hu, .refl _⟩
  | applied target _ ha ht hs =>
    have htarget : target = .providerPending ∨ target = .succeeded ∨ target = .failedTerminal := by
      rw [← ht]
      cases event.eventType <;> simp [webhookTypeToState]
    rcases htarget with rfl | rfl | rfl
    all_goals
      exact ⟨.of_linked (by simp [withSettledMission, withMission, transitioned])
        (by simp [withSettledMission, withMission, transitioned, storeProviderEvidence, reported,
          hid]) ha, .of_unmarked rfl rfl ha (.single hs)⟩

end Handlers

-- ════════════════════════════════════════════════════════════════════════
-- The mission row
-- ════════════════════════════════════════════════════════════════════════

section MissionRow

/-- The immutable columns of the mission row that a unit of work holds. -/
def missionTerms (u : UnitOfWork) : Option Mission := u.mission.map Mission.terms

variable (u : UnitOfWork)

@[simp] lemma missionTerms_withMission (target : MissionState) :
    missionTerms (withMission target u) = missionTerms u := by
  cases h : u.mission <;> simp [missionTerms, withMission, h, movedMission, Mission.terms]

@[simp] lemma missionTerms_noted (eventType : EventType) (payload : Dict) :
    missionTerms (noted eventType payload u) = missionTerms u := rfl

@[simp] lemma missionTerms_transitioned (target : PaymentIntentState) (eventType : EventType)
    (payload : Dict) (reasonCode : Option String) :
    missionTerms (transitioned target eventType payload reasonCode u) = missionTerms u := rfl

@[simp] lemma missionTerms_withIntent (f : PaymentIntentRow → PaymentIntentRow) :
    missionTerms (withIntent f u) = missionTerms u := rfl

@[simp] lemma missionTerms_queuedEvent (eventType : OutboxEventType) (now : Datetime) :
    missionTerms (queuedEvent eventType now u) = missionTerms u := rfl

@[simp] lemma missionTerms_retried (event : OutboxEventRow) (code phase : String) :
    missionTerms (retried event code phase u) = missionTerms u := rfl

@[simp] lemma missionTerms_attempted (a b : Bool) :
    missionTerms (attempted a b u) = missionTerms u := by
  unfold attempted
  split <;> rfl

@[simp] lemma missionTerms_uncertain (detail : String) (now : Datetime) (reasonCode : String)
    (timedOut : Bool) :
    missionTerms (uncertain detail now reasonCode timedOut u) = missionTerms u := by
  cases timedOut <;> rfl

@[simp] lemma missionTerms_settled (payment : ProviderPayment) (now : Datetime) :
    missionTerms (settled payment now u) = missionTerms u := by
  unfold settled
  dsimp only
  split
  · rfl
  · split <;> simp

@[simp] lemma missionTerms_followedUp (now : Datetime) :
    missionTerms (followedUp now u) = missionTerms u := by
  unfold followedUp
  split <;> rfl

variable {u} {u' : UnitOfWork} {ctx : TurnContext} {e e' : OutboxEventRow}

lemma Refused.mission (h : Refused u u') : missionTerms u' = missionTerms u := by
  obtain rfl | ⟨i, -, rfl⟩ := h <;> rfl

/-- A create turn only moves the mission. -/
theorem Dispatched.mission (h : Dispatched ctx u e u' e') : missionTerms u' = missionTerms u := by
  cases h with
  | recovered payment v _ _ _ h => simp [h.eq]
  | recoveredRefused _ v _ h =>
    rcases h with rfl | h
    · simp
    · simp [h.mission]
  | created payment v _ _ _ h => simp [h.eq]
  | createdRefused _ v _ h => simp [h.mission]
  | _ => simp

/-- A reconcile turn only moves the mission. -/
theorem Reconciled.mission (h : Reconciled ctx u e u' e') : missionTerms u' = missionTerms u := by
  cases h with
  | ambiguous =>
    rw [missionTerms_noted]
    unfold ambiguityKept
    split <;> rfl
  | fencedNotFound =>
    rw [missionTerms_retried, missionTerms_noted]
    unfold fencedKept
    split <;> rfl
  | found payment v _ _ _ h => simp [h.eq]
  | refused payment _ v _ _ _ _ h =>
    rcases h with rfl | ⟨-, h⟩
    · simp
    · simp [h.mission]
  | _ => rfl

/-- A webhook delivery only moves the mission. -/
theorem Delivered.mission {db : Db} {event : VerifiedWebhookEvent}
    {applied : Option (Option PaymentIntentState)} (h : Delivered db event u u' applied) :
    missionTerms u' = missionTerms u := by
  cases h with
  | applied target =>
    unfold withSettledMission
    split <;> simp
  | _ => rfl

end MissionRow

end PaymentExecutor

end Pactra
