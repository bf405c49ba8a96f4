import Pactra.PaymentExecutor.Effects.Dispatch
import Pactra.PaymentExecutor.Effects.Reconcile

/-!
# Illegal payment transitions

The handlers assert transitions of the table from whatever state the intent is in when the event is
finally processed. These results say from which states, and with which answers, they never assert
one that the table refuses, and where they do.

## Main results

- `recoverFencedCreate_legal`, `recoverFencedCreate_legal_iff` — the search of a fenced intent
- `dispatchCreate_legal`, `dispatchCreateFenced_legal_iff` — a create turn
- `reconcileIntent_legal_iff`, `reconcileIntentFenced_legal_iff` — a reconcile turn
-/

namespace Pactra

namespace PaymentExecutor

open PaymentIntentState

/-- Not an illegal payment transition. -/
def Exc.Lawful (e : Exc) : Prop := ∀ current target, e ≠ .illegalPaymentTransition current target

/-- A computation that asserts no illegal payment transition from a state. -/
def Legal {σ α : Type} (x : Tx σ Exc α) (s : σ) : Prop := Tx.RaisesAt Exc.Lawful x s

/-- The states from which a payment may still be settled. -/
def inProgress (s : PaymentIntentState) : Prop :=
  s = .queued ∨ s = .processing ∨ s = .providerPending ∨ s = .failedRetryable

section Rules

variable {σ α β : Type} {s : σ}

lemma lawful_provider (error : ProviderError) : Exc.Lawful (.provider error) := nofun

lemma lawful_integrityError : Exc.Lawful .integrityError := nofun

lemma Legal.of_ok {x : Tx σ Exc α} {a : α} {s' : σ} (h : x.run s = (.ok a, s')) : Legal x s :=
  Tx.RaisesAt.of_ok h

lemma Legal.pure (a : α) : Legal (Pure.pure a : Tx σ Exc α) s := .of_ok rfl

lemma Legal.bind {x : Tx σ Exc α} {f : α → Tx σ Exc β} (hx : Legal x s)
    (hf : ∀ a s', x.run s = (.ok a, s') → Legal (f a) s') : Legal (x >>= f) s :=
  Tx.RaisesAt.bind hx hf

lemma Legal.bind_of_ok {x : Tx σ Exc α} {f : α → Tx σ Exc β} {a : α} {s' : σ}
    (hx : x.run s = (.ok a, s')) (hf : Legal (f a) s') : Legal (x >>= f) s :=
  Tx.RaisesAt.bind_of_ok hx hf

/-- An illegal transition of the first half is one of the whole. -/
lemma not_legal_bind {x : Tx σ Exc α} {f : α → Tx σ Exc β} (h : ¬Legal x s) :
    ¬Legal (x >>= f) s := by
  intro hl
  refine h fun e s' he => hl e s' ?_
  rw [Tx.run_bind_of_error he]

lemma legal_bind_of_ok {x : Tx σ Exc α} {f : α → Tx σ Exc β} {a : α} {s' : σ}
    (hx : x.run s = (.ok a, s')) : Legal (x >>= f) s ↔ Legal (f a) s' := by
  refine ⟨fun h e s'' he => h e s'' ?_, Legal.bind_of_ok hx⟩
  rw [Tx.run_bind_of_ok hx]
  exact he

lemma not_legal_of_error {x : Tx σ Exc α} {current target : PaymentIntentState} {s' : σ}
    (h : x.run s = (.error (.illegalPaymentTransition current target), s')) : ¬Legal x s :=
  fun hl => hl _ _ h current target rfl

lemma legal_onWork {x : Work α} {t : Turn} : Legal (onWork x) t ↔ Legal x t.work := by
  refine ⟨fun h e u' he => h e { t with work := u' } ?_, fun h e t' he => ?_⟩
  · rw [run_onWork, he]
  · obtain ⟨u', hu, -⟩ := onWork_eq he
    exact h e u' hu

/-- A guarded block is legal when its body is, and its handler from every refused answer. -/
lemma Legal.exceptMismatch {x : Tx σ Exc α} {handler : ProviderError → Tx σ Exc α}
    (hx : Legal x s)
    (hh : ∀ error s', error.kind = .mismatch → x.run s = (.error (.provider error), s') →
      Legal (handler error) s') : Legal (exceptMismatch x handler) s := by
  refine Tx.RaisesAt.tryCatch fun exc s' hexc => ?_
  have hlawful := hx exc s' hexc
  split
  · next error =>
    split
    · next hk => exact hh error s' hk hexc
    · exact Tx.Raises.raise hlawful s'
  · exact Tx.Raises.raise hlawful s'

end Rules

-- ════════════════════════════════════════════════════════════════════════
-- Operations
-- ════════════════════════════════════════════════════════════════════════

section Operations

variable {env : Env} {db : Db} {payment : ProviderPayment} {now : Datetime} {u : UnitOfWork}

lemma maybeUncertain_of_inProgress {s : PaymentIntentState} (h : inProgress s) :
    maybeUncertain s := by
  rcases h with rfl | rfl | rfl | rfl
  · exact .inr rfl
  · exact .inr rfl
  · exact .inl rfl
  · exact .inr rfl

lemma not_maybeUncertain_of_isTerminal {s : PaymentIntentState} (h : s.isTerminal = true) :
    ¬maybeUncertain s := by
  cases s <;> simp_all [isTerminal, maybeUncertain, canTransition, allowedTransitions]

/-- An uncertainty is recorded from a state that permits it, and from no other. -/
lemma markUncertain_cases (detail : String) (now : Datetime) (reasonCode : String)
    (timedOut : Bool) (u : UnitOfWork) :
    (maybeUncertain u.intent.state ∧
      ∃ u', (markUncertain detail now reasonCode timedOut).run u = (.ok (), u')) ∨
    (¬maybeUncertain u.intent.state ∧ ∃ u', (markUncertain detail now reasonCode timedOut).run u =
      (.error (.illegalPaymentTransition u.intent.state .providerPending), u')) := by
  by_cases ha : reasonCode = ReasonCode.providerAmbiguity.value ∨
      u.intent.providerAmbiguityObservedAt ≠ none
  all_goals
    by_cases hs : u.intent.state = .providerPending
    · left
      refine ⟨.inl hs, ?_⟩
      cases timedOut <;> exact ⟨_, by simp [markUncertain, Tx.run_bind, ha, hs]; rfl⟩
    · by_cases hc : u.intent.state.canTransition .providerPending = true
      · left
        refine ⟨.inr hc, ?_⟩
        cases timedOut <;>
          exact ⟨_, by simp [markUncertain, Tx.run_bind, ha, hs, hc, run_applyPaymentTransition]; rfl⟩
      · right
        refine ⟨fun h => h.elim hs hc, ?_⟩
        cases timedOut <;>
          exact ⟨_, by simp [markUncertain, Tx.run_bind, ha, hs, hc, run_applyPaymentTransition]; rfl⟩

lemma finishUncertain_legal_iff (detail : String) (now : Datetime) (reasonCode : String)
    (timedOut : Bool) (t : Turn) :
    Legal (finishUncertain detail now reasonCode timedOut) t ↔
      maybeUncertain t.work.intent.state := by
  unfold finishUncertain
  rcases markUncertain_cases detail now reasonCode timedOut t.work with ⟨hs, u', hrun⟩ | ⟨hs, u', hrun⟩
  · refine ⟨fun _ => hs, fun _ => ?_⟩
    exact (legal_onWork.mpr (.of_ok hrun)).bind fun _ t' _ => .of_ok rfl
  · refine ⟨fun h => absurd h (not_legal_bind ?_), fun h => absurd h hs⟩
    rw [legal_onWork]
    exact not_legal_of_error hrun

lemma validateProviderPayment_legal (requireKey : Bool) :
    Legal (validateProviderPayment env payment requireKey) u := by
  rcases run_validateProviderPayment env payment requireKey u with ⟨-, hrun⟩ | ⟨-, detail, hrun⟩
  · exact .of_ok hrun
  · exact Tx.RaisesAt.of_error hrun (lawful_provider _)

/-- The states from which every answer can be folded in. -/
def settleable (s : PaymentIntentState) : Prop :=
  s = .processing ∨ s = .providerPending ∨ s.isTerminal = true

lemma applyPaymentTransition_legal {target : PaymentIntentState} (eventType : EventType)
    (payload : Dict) (reasonCode : Option String)
    (h : u.intent.state.canTransition target = true) :
    Legal (applyPaymentTransition target eventType payload reasonCode) u := by
  have hrun : (applyPaymentTransition target eventType payload reasonCode).run u =
      (.ok (), transitioned target eventType payload reasonCode u) := by
    rw [run_applyPaymentTransition, if_pos h]
  exact .of_ok hrun

lemma linkProviderPayment_legal : Legal (linkProviderPayment env db payment) u := by
  rcases linkProviderPayment_cases env db payment u with ⟨-, hrun⟩ | ⟨-, detail, i', -, hrun⟩
  · split at hrun
    · exact Tx.RaisesAt.of_error hrun lawful_integrityError
    · exact .of_ok hrun
  · exact Tx.RaisesAt.of_error hrun (lawful_provider _)

lemma linkProviderPayment_state {u' : UnitOfWork}
    (h : (linkProviderPayment env db payment).run u = (.ok (), u')) :
    u'.intent.state = u.intent.state := by
  rcases linkProviderPayment_cases env db payment u with ⟨-, hrun⟩ | ⟨-, detail, i', -, hrun⟩
  · rw [hrun] at h
    split at h
    · simp at h
    · obtain ⟨-, rfl⟩ := Prod.mk.inj h
      rfl
  · rw [hrun] at h
    simp at h

/-- An answer is folded in without an illegal transition. -/
lemma applyProviderPayment_legal (hs : settleable u.intent.state) :
    Legal (applyProviderPayment env db payment now) u := by
  unfold applyProviderPayment
  refine .bind_of_ok (Tx.run_get u) ((validateProviderPayment_legal _).bind fun _ u₁ hvalid => ?_)
  have hsame : u₁ = u := by
    rcases run_validateProviderPayment env payment (u.intent.providerPaymentId == none) u with
      ⟨-, hrun⟩ | ⟨-, detail, hrun⟩
    · exact (Prod.mk.inj (hvalid.symm.trans hrun)).2
    · cases (Prod.mk.inj (hvalid.symm.trans hrun)).1
  subst hsame
  refine linkProviderPayment_legal.bind fun _ u₂ hlink => ?_
  have hstate := linkProviderPayment_state hlink
  dsimp only
  split
  · exact .pure _
  next hopen =>
  -- the remaining states are PROCESSING and PROVIDER_PENDING
  have hopen' : u₁.intent.state = .processing ∨ u₁.intent.state = .providerPending := by
    rcases hs with hs | hs | hs
    · exact .inl hs
    · exact .inr hs
    · exact absurd (.inr hs) hopen
  split
  all_goals
    refine (applyPaymentTransition_legal _ _ _ ?_).bind fun _ u₃ _ => .of_ok rfl
    rw [hstate]
  · rcases hopen' with hs | hs <;> rw [hs] <;> rfl
  · rcases hopen' with hs | hs <;> rw [hs] <;> rfl
  · next hsucc hfail =>
    rcases hopen' with hs | hs
    · rw [hs]
      rfl
    · refine absurd (.inl ?_) hopen
      rw [hs]
      revert hsucc hfail
      cases payment.status <;> simp [providerStatusToState]

lemma settleable_attempted {a b : Bool} (h : inProgress u.intent.state) :
    settleable (attempted a b u).intent.state := by
  unfold attempted
  rcases h with h | h | h | h
  · rw [if_pos (.inl h)]
    exact .inl rfl
  · rw [if_neg (by simp [unstarted, h])]
    exact .inl h
  · rw [if_neg (by simp [unstarted, h])]
    exact .inr (.inl h)
  · rw [if_pos (.inr h)]
    exact .inl rfl

lemma inProgress_attempted {a b : Bool} (h : inProgress u.intent.state) :
    inProgress (attempted a b u).intent.state := by
  unfold attempted
  split
  · exact .inr (.inl rfl)
  · exact h

/-- Validate an answer and fold it in, possibly after recording the attempt. -/
lemma recover_legal {requireKey : Bool} {rest : Work PaymentIntentState} {v : UnitOfWork}
    (hrest : rest.run u = (applyProviderPayment env db payment now).run v)
    (hs : settleable v.intent.state) :
    Legal (do
      validateProviderPayment env payment requireKey
      rest : Work PaymentIntentState) u := by
  refine (validateProviderPayment_legal requireKey).bind fun _ u₁ hvalid => ?_
  rcases run_validateProviderPayment env payment requireKey u with ⟨-, hrun⟩ | ⟨-, detail, hrun⟩
  · obtain ⟨-, rfl⟩ := Prod.mk.inj (hvalid.symm.trans hrun)
    intro e u₂ he
    rw [hrest] at he
    exact applyProviderPayment_legal hs e u₂ he
  · cases (Prod.mk.inj (hvalid.symm.trans hrun)).1

/-- What a refused answer leaves is in the state before the answer, or that of the attempt. -/
lemma recover_refused {requireKey : Bool} {rest : Work PaymentIntentState} {u' v : UnitOfWork}
    {error : ProviderError}
    (hrest : rest.run u = (applyProviderPayment env db payment now).run v)
    (h : (do
      validateProviderPayment env payment requireKey
      rest : Work PaymentIntentState).run u = (.error (.provider error), u')) :
    u'.intent.state = u.intent.state ∨ u'.intent.state = v.intent.state := by
  obtain ⟨rfl | ⟨-, hrefused⟩, -⟩ := recover_error hrest h
  · exact .inl rfl
  · right
    rcases hrefused with rfl | ⟨i', hi', rfl⟩
    · rfl
    · rw [hi'.columns]

end Operations

-- ════════════════════════════════════════════════════════════════════════
-- Authority
-- ════════════════════════════════════════════════════════════════════════

section Authority

open SecurityKernel

lemma lawful_of_check {e : Exc} (h : OfCheck e) : Exc.Lawful e := by
  cases h <;> exact nofun

/-- The re-verification of authority refuses with other exceptions. -/
lemma verify_legal (ctx : TurnContext) (t : Turn) :
    Legal (verifyIntentAuthorizationBeforeProviderIo ctx) t := by
  have hproof : ∀ a, Tx.Raises Exc.Lawful
      (verifyAuthorizationForPayment ctx.env a .consumed ctx.now) := by
    intro a
    refine ((raises_rebuild ctx.env a).mono fun _ => lawful_of_check).bind fun _ => ?_
    refine .ite (.raise nofun) (.ite ?_ ?_)
    · rw [if_neg nofun]
      exact .raise nofun
    · rw [if_neg (by simp)]
      refine ((raises_requirePolicyScheme a).mono fun _ => lawful_of_check).bind fun _ => ?_
      split
      · exact .ite (.raise nofun) (.pure _)
      · exact .raise nofun
      · split
        · exact ((raises_verifySuppliedUserProof ctx.env a _ _).mono fun _ => lawful_of_check).bind
            fun _ => .pure _
        · exact .raise nofun
  unfold verifyIntentAuthorizationBeforeProviderIo
  refine .bind_of_ok (Tx.run_get t) ?_
  dsimp only
  split
  · exact Tx.Raises.raise nofun t
  · next a _ =>
    refine Legal.bind ?_ fun _ t' _ => Tx.Raises.ite (.pure _) (.raise nofun) t'
    intro e t' he
    exact hproof a ctx.db e _ (Prod.ext (Prod.mk.inj he).1 rfl)

end Authority

-- ════════════════════════════════════════════════════════════════════════
-- Create turns
-- ════════════════════════════════════════════════════════════════════════

section Create

variable {ctx : TurnContext} {t : Turn}

lemma quiet_onWork {α : Type} {x : Work α} (h : Tx.Quiet x) : Tx.Quiet (onWork x) := by
  intro t e t' he
  obtain ⟨u', hu, -⟩ := onWork_eq he
  exact h t.work e u' hu

lemma quiet_append (eventType : EventType) (payload : Dict) :
    Tx.Quiet (onWork (append eventType payload)) := quiet_onWork (.modify _)

lemma quiet_enqueue (eventType : OutboxEventType) (now : Datetime) :
    Tx.Quiet (onWork (enqueueOutboxEvent eventType now)) := quiet_onWork (.modify _)

lemma quiet_completeEvent (now : Datetime) : Tx.Quiet (completeEvent now) := .modify _

/-- Fold an answer in and go on without raising; a refused answer goes to the handler. -/
lemma legal_adopt {α β : Type} {x : Work α} {tail : α → Handler β}
    {handler : ProviderError → Handler β} (hx : Legal x t.work) (htail : ∀ a, Tx.Quiet (tail a))
    (hh : ∀ error u', x.run t.work = (.error (.provider error), u') →
      Legal (handler error) { t with work := u' }) :
    Legal (exceptMismatch (onWork x >>= tail) handler) t := by
  refine Legal.exceptMismatch ((legal_onWork.mpr hx).bind fun a t' _ => (htail a).raisesAt t') ?_
  intro error t' _ herror
  obtain ⟨u', hu, rfl⟩ := onWork_eq (Tx.Quiet.error_of_bind htail herror)
  exact hh error u' hu

/-- The common start of the branches that hold a provider payment. -/
def adopt (ctx : TurnContext) (existing : ProviderPayment) : Work PaymentIntentState := do
  validateProviderPayment ctx.env existing true
  recordPaymentAttempt false true
  applyProviderPayment ctx.env ctx.db existing ctx.now

lemma run_attempted (ctx : TurnContext) (existing : ProviderPayment) (u : UnitOfWork) :
    (do
      recordPaymentAttempt false true
      applyProviderPayment ctx.env ctx.db existing ctx.now : Work PaymentIntentState).run u =
      (applyProviderPayment ctx.env ctx.db existing ctx.now).run (attempted false true u) := by
  rw [Tx.run_bind_of_ok (run_recordPaymentAttempt false true u)]

/-- An existing payment is adopted, or recorded as uncertain, from every state that permits both. -/
lemma finishExistingBeforeCreate_legal_of {existing : ProviderPayment}
    (ha : t.work.intent.providerAmbiguityObservedAt = none)
    (hs : settleable (attempted false true t.work).intent.state)
    (hrefused : ∀ error u', (adopt ctx existing).run t.work = (.error (.provider error), u') →
      maybeUncertain u'.intent.state) : Legal (finishExistingBeforeCreate ctx existing) t := by
  unfold finishExistingBeforeCreate
  refine .bind_of_ok (Tx.run_get t) ?_
  rw [if_neg (by simpa using ha)]
  refine legal_adopt (recover_legal (run_attempted ctx existing t.work) hs) (fun state => ?_)
    fun error u' herror => (finishUncertain_legal_iff _ _ _ _ _).mpr (hrefused error u' herror)
  refine .bind .get fun t => .bind (quiet_append _ _) fun _ => ?_
  dsimp only
  split
  · exact .bind (quiet_enqueue _ _) fun _ => .bind (quiet_completeEvent _) fun _ => .pure _
  · exact .bind (quiet_completeEvent _) fun _ => .pure _

/-- An existing payment is adopted, or recorded as uncertain, from every state in progress. -/
lemma finishExistingBeforeCreate_legal {existing : ProviderPayment}
    (hs : inProgress t.work.intent.state) : Legal (finishExistingBeforeCreate ctx existing) t := by
  by_cases ha : t.work.intent.providerAmbiguityObservedAt = none
  · refine finishExistingBeforeCreate_legal_of ha (settleable_attempted hs) fun error u' herror => ?_
    apply maybeUncertain_of_inProgress
    rcases recover_refused (run_attempted ctx existing t.work) herror with hstate | hstate <;>
      rw [hstate]
    · exact hs
    · exact inProgress_attempted hs
  · unfold finishExistingBeforeCreate
    refine .bind_of_ok (Tx.run_get t) ?_
    rw [if_pos ha]
    exact (finishUncertain_legal_iff _ _ _ _ t).mpr (maybeUncertain_of_inProgress hs)

lemma attempted_of_isTerminal {u : UnitOfWork} (hs : u.intent.state.isTerminal = true) (a b : Bool) :
    attempted a b u = u := by
  unfold attempted
  refine if_neg fun h => ?_
  rcases h with h | h <;> simp [h, isTerminal] at hs

lemma Valid.of_required {env : Env} {payment : ProviderPayment} {i : PaymentIntentRow}
    (h : Valid env payment i true) (requireKey : Bool) : Valid env payment i requireKey := by
  cases requireKey with
  | true => exact h
  | false =>
    unfold Valid paymentMismatches at h ⊢
    cases hk : payment.idempotencyKey <;> simp_all

/-- A refused answer that the handler cannot record is an illegal transition. -/
lemma not_legal_exceptMismatch {σ α : Type} {x : Tx σ Exc α} {handler : ProviderError → Tx σ Exc α}
    {s : σ} (s' : σ) (error : ProviderError) (hx : x.run s = (.error (.provider error), s'))
    (hk : error.kind = .mismatch) (hh : ¬Legal (handler error) s') :
    ¬Legal (exceptMismatch x handler) s := by
  intro hl
  refine hh fun e s'' he => hl e s'' ?_
  rw [exceptMismatch, Tx.run_tryCatch, hx]
  simp [hk, he]

/-- On a settled payment the search of a fenced intent is legal only if it finds a payment that can
be adopted. -/
lemma finishExistingBeforeCreate_legal_iff {existing : ProviderPayment}
    (ha : t.work.intent.providerAmbiguityObservedAt = none)
    (hs : t.work.intent.state.isTerminal = true) :
    Legal (finishExistingBeforeCreate ctx existing) t ↔
      Valid ctx.env existing t.work.intent true ∧ Linkable existing t.work.intent := by
  have hsame := attempted_of_isTerminal hs false true
  have hrest := run_attempted ctx existing t.work
  rw [hsame] at hrest
  constructor
  swap
  · rintro ⟨hv, hlink⟩
    refine finishExistingBeforeCreate_legal_of ha (hsame.symm ▸ .inr (.inr hs)) fun error u' herror => ?_
    exact absurd ⟨hv, hv.of_required _, hlink⟩ (recover_error hrest herror).2
  intro hl
  unfold finishExistingBeforeCreate at hl
  rw [legal_bind_of_ok (Tx.run_get t)] at hl
  dsimp only at hl
  rw [if_neg (by simpa using ha)] at hl
  -- a refused answer ends in an uncertainty that a settled payment does not permit
  have hnot : ∀ (detail : String) (i' : PaymentIntentRow), i'.state = t.work.intent.state →
      ∀ (reasonCode : String), ¬Legal (finishUncertain detail ctx.now reasonCode false)
        { t with work := { t.work with intent := i' } } := by
    intro detail i' hi' reasonCode
    rw [finishUncertain_legal_iff]
    apply not_maybeUncertain_of_isTerminal
    dsimp only
    rwa [hi']
  rcases run_validateProviderPayment ctx.env existing true t.work with ⟨hv, hrun⟩ | ⟨-, detail, hrun⟩
  swap
  · refine absurd hl (not_legal_exceptMismatch t
      ⟨.mismatch, t.work.intent.provider, detail⟩ ?_ rfl (hnot _ t.work.intent rfl _))
    refine Tx.run_bind_of_error ?_
    rw [run_onWork, Tx.run_bind_of_error hrun]
  refine ⟨hv, ?_⟩
  rcases run_validateProviderPayment ctx.env existing
    (t.work.intent.providerPaymentId == none) t.work with ⟨-, hrun'⟩ | ⟨hnv, -⟩
  swap
  · exact absurd (hv.of_required _) hnv
  rcases linkProviderPayment_cases ctx.env ctx.db existing t.work with
    ⟨hyes, -⟩ | ⟨-, detail, i', hi', hrefused⟩
  · exact hyes
  have happly : (applyProviderPayment ctx.env ctx.db existing ctx.now).run t.work =
      (.error (.provider ⟨.mismatch, t.work.intent.provider, detail⟩),
        { t.work with intent := i' }) := by
    unfold applyProviderPayment
    rw [Tx.run_bind_of_ok (Tx.run_get _), Tx.run_bind_of_ok hrun', Tx.run_bind_of_error hrefused]
  refine absurd hl (not_legal_exceptMismatch
    { t with work := { t.work with intent := i' } }
    ⟨.mismatch, t.work.intent.provider, detail⟩ ?_ rfl
    (hnot _ i' (by rw [hi'.columns]) _))
  refine Tx.run_bind_of_error ?_
  rw [run_onWork, Tx.run_bind_of_ok hrun, hrest, happly]

/-- The search of a fenced intent is legal from every state in progress. -/
theorem recoverFencedCreate_legal (hl : ∀ exc, ctx.lookup ≠ .raised exc)
    (hs : inProgress t.work.intent.state) : Legal (recoverFencedCreate ctx) t := by
  have hmay := maybeUncertain_of_inProgress hs
  unfold recoverFencedCreate
  refine (verify_legal ctx t).bind fun _ t' hverify => ?_
  obtain ⟨rfl, -⟩ := verifyIntentAuthorizationBeforeProviderIo_ok hverify
  split
  · exact (finishUncertain_legal_iff _ _ _ _ _).mpr hmay
  · next exc hexc => exact absurd hexc (hl exc)
  · exact finishExistingBeforeCreate_legal hs
  · exact (finishUncertain_legal_iff _ _ _ _ _).mpr hmay

/-- On a settled payment it is legal only if it finds a payment that can be adopted. -/
theorem recoverFencedCreate_legal_iff (hl : ∀ exc, ctx.lookup ≠ .raised exc)
    (hv : (verifyIntentAuthorizationBeforeProviderIo ctx).run t = (.ok (), t))
    (ha : t.work.intent.providerAmbiguityObservedAt = none)
    (hs : t.work.intent.state.isTerminal = true) :
    Legal (recoverFencedCreate ctx) t ↔ ∃ payment, ctx.lookup = .found payment ∧
      Valid ctx.env payment t.work.intent true ∧ Linkable payment t.work.intent := by
  have hnot := not_maybeUncertain_of_isTerminal hs
  unfold recoverFencedCreate
  rw [legal_bind_of_ok hv]
  split
  · next error hlookup =>
    rw [finishUncertain_legal_iff]
    simp [hlookup, hnot]
  · next exc hexc => exact absurd hexc (hl exc)
  · next existing hlookup =>
    rw [finishExistingBeforeCreate_legal_iff ha hs]
    simp [hlookup]
  · next hlookup =>
    rw [finishUncertain_legal_iff]
    simp [hlookup, hnot]

lemma quiet_rescheduleEvent (reason : String) (now : Datetime) :
    Tx.Quiet (rescheduleEvent reason now) := .of_ok fun _ => ⟨_, _, rfl⟩

lemma quiet_auditRetry (retried : Bool) : Tx.Quiet (auditRetry retried) :=
  .bind .get fun _ => quiet_append _ _

/-- What follows a create call is legal once the attempt was recorded. -/
lemma finishCreateError_legal {error : ProviderError} (hs : t.work.intent.state = .processing) :
    Legal (finishCreateError ctx error) t := by
  have hmay : maybeUncertain t.work.intent.state := .inr (by rw [hs]; rfl)
  unfold finishCreateError
  split
  · exact (finishUncertain_legal_iff _ _ _ _ t).mpr hmay
  split
  · split
    · exact (finishUncertain_legal_iff _ _ _ _ t).mpr hmay
    · refine .bind_of_ok (Tx.run_get t) (Legal.bind ?_ fun _ t' _ => ?_)
      · exact legal_onWork.mpr (applyPaymentTransition_legal _ _ _ (by rw [hs]; rfl))
      · refine Tx.Quiet.raisesAt ?_ t'
        exact .bind (quiet_rescheduleEvent _ _) fun _ => .bind (quiet_auditRetry _) fun _ => .pure _
  · refine .bind_of_ok (Tx.run_get t) (Legal.bind ?_ fun _ t' _ => ?_)
    · refine legal_onWork.mpr ?_
      exact (applyPaymentTransition_legal _ _ _ (by rw [hs]; rfl)).bind fun _ u _ => .of_ok rfl
    · exact Tx.Quiet.raisesAt (.bind (quiet_completeEvent _) fun _ => .pure _) t'

lemma finishCreated_legal {payment : ProviderPayment} (hs : t.work.intent.state = .processing) :
    Legal (finishCreated ctx payment) t := by
  unfold finishCreated
  refine legal_adopt (recover_legal rfl (.inl hs)) (fun state => ?_) fun error u' herror => ?_
  · dsimp only
    split
    · exact .bind (quiet_enqueue _ _) fun _ => .bind (quiet_completeEvent _) fun _ => .pure _
    · exact .bind (quiet_completeEvent _) fun _ => .pure _
  · rw [finishUncertain_legal_iff]
    have hstate : u'.intent.state = .processing := by
      rcases recover_refused rfl herror with h | h <;> exact h.trans hs
    exact .inr (by dsimp only; rw [hstate]; rfl)

/-- The create call and everything after it. -/
lemma createPayment_legal (hc : ∀ exc, ctx.create ≠ .raised exc)
    (hs : unstarted t.work.intent.state) : Legal (createPayment ctx) t := by
  have hattempt : ∀ t' : Turn, t'.work = t.work → ∃ t'' : Turn,
      (onWork (recordPaymentAttempt true false)).run t' = (.ok (), t'') ∧
      t''.work.intent.state = .processing := by
    intro t' ht'
    refine ⟨{ t' with work := attempted true false t'.work }, ?_, ?_⟩
    · rw [run_onWork, run_recordPaymentAttempt]
    · exact attempted_state (ht' ▸ hs) true false
  unfold createPayment
  refine .bind_of_ok (Tx.run_modify _ t) ?_
  split
  · next exc hexc => exact absurd hexc (hc exc)
  · split
    · obtain ⟨t'', hrun, hstate⟩ := hattempt
        { t with created := t.created ++ [paymentRequest t.work.intent] } rfl
      exact .bind_of_ok hrun (finishCreateError_legal hstate)
    · exact Tx.Raises.raise nofun _
  · obtain ⟨t'', hrun, hstate⟩ := hattempt
        { t with created := t.created ++ [paymentRequest t.work.intent] } rfl
    exact .bind_of_ok hrun (finishCreated_legal hstate)

lemma inProgress_of_unstarted {s : PaymentIntentState} (h : unstarted s) : inProgress s := by
  rcases h with h | h
  · exact .inl h
  · exact .inr (.inr (.inr h))

lemma searchThenCreate_legal (hl : ∀ exc, ctx.lookup ≠ .raised exc)
    (hc : ∀ exc, ctx.create ≠ .raised exc) (hs : unstarted t.work.intent.state) :
    Legal (searchThenCreate ctx) t := by
  have hprogress := inProgress_of_unstarted hs
  unfold searchThenCreate
  split
  · exact (finishUncertain_legal_iff _ _ _ _ t).mpr (maybeUncertain_of_inProgress hprogress)
  · next exc hexc => exact absurd hexc (hl exc)
  · exact finishExistingBeforeCreate_legal hprogress
  · refine (verify_legal ctx t).bind fun _ t' hverify => ?_
    obtain ⟨rfl, -⟩ := verifyIntentAuthorizationBeforeProviderIo_ok hverify
    exact createPayment_legal hc hs

lemma validateProviderRoute_legal (ctx : TurnContext) (t : Turn) :
    Legal (onWork (validateProviderRoute ctx)) t := by
  refine legal_onWork.mpr (.bind_of_ok (Tx.run_get _) ?_)
  exact Tx.Raises.ite (.pure _) (.raise nofun) _

lemma run_validateProviderRoute (hroute : ctx.provider = t.work.intent.provider) :
    (onWork (validateProviderRoute ctx)).run t = (.ok (), t) := by
  simp [validateProviderRoute, Tx.run_bind, hroute]

lemma legal_done {x : Handler DispatchResult} (h : Legal x t) :
    Legal (do
      let result ← x
      pure (.done result) : Handler HandlerStep) t :=
  h.bind fun _ _ _ => .pure _

/-- A create turn is legal from every settled or open payment; one that was left in PROCESSING has
to be fenced. -/
theorem dispatchCreate_legal (hl : ∀ exc, ctx.lookup ≠ .raised exc)
    (hc : ∀ exc, ctx.create ≠ .raised exc)
    (hs : t.work.intent.state.isTerminal = true ∨ inProgress t.work.intent.state)
    (hp : t.work.intent.state = .processing →
      ctx.idempotent = false ∧ t.work.intent.providerCreateFencedAt ≠ none) :
    Legal (dispatchCreate ctx) t := by
  unfold dispatchCreate
  refine (validateProviderRoute_legal ctx t).bind fun _ t' hroute => ?_
  obtain ⟨rfl, -⟩ := validateProviderRoute_ok hroute
  refine .bind_of_ok (Tx.run_get t') ?_
  dsimp only
  split
  · exact .of_ok rfl
  next hopen =>
  have hprogress := hs.resolve_left hopen
  split
  · exact legal_done (recoverFencedCreate_legal hl hprogress)
  next hfence =>
  split
  · exact .of_ok rfl
  next hpending =>
  -- what is left is QUEUED, or FAILED_RETRYABLE and put back in the queue
  have hqueued : ∀ t₁ : Turn, t₁.work.intent.state = .queued → Legal (do
      verifyIntentAuthorizationBeforeProviderIo ctx
      if (!ctx.idempotent) = true then pure HandlerStep.fence
      else do
        let result ← searchThenCreate ctx
        pure (HandlerStep.done result) : Handler HandlerStep) t₁ := by
    intro t₁ hq
    refine (verify_legal ctx t₁).bind fun _ t₂ hverify => ?_
    obtain ⟨rfl, -⟩ := verifyIntentAuthorizationBeforeProviderIo_ok hverify
    split
    · exact .pure _
    · exact legal_done (searchThenCreate_legal hl hc (.inl hq))
  rcases hprogress with h | h | h | h
  · rw [h]
    exact hqueued t' h
  · obtain ⟨hidem, hne⟩ := hp h
    exact absurd (by simp [hidem, Option.isSome_iff_ne_none, hne]) hfence
  · exact absurd h hpending
  · rw [h]
    rw [if_pos rfl]
    refine .bind_of_ok (run_assertPaymentTransition _ _ t') ?_
    exact .bind_of_ok (run_onWork _ t') (hqueued _ rfl)

/-- The rest of a create turn after its fence commit is legal from every open payment. -/
theorem dispatchCreateFenced_legal (hl : ∀ exc, ctx.lookup ≠ .raised exc)
    (hc : ∀ exc, ctx.create ≠ .raised exc) (hs : inProgress t.work.intent.state)
    (acquired : Bool) : Legal (dispatchCreateFenced ctx acquired) t := by
  unfold dispatchCreateFenced
  refine (validateProviderRoute_legal ctx t).bind fun _ t' hroute => ?_
  obtain ⟨rfl, -⟩ := validateProviderRoute_ok hroute
  refine .bind_of_ok (Tx.run_get t') ?_
  dsimp only
  split
  · exact Tx.Raises.raise nofun t'
  split
  · exact recoverFencedCreate_legal hl hs
  · next hqueued =>
    have hq : t'.work.intent.state = .queued := by
      by_contra hne
      exact hqueued (by simp [hne])
    refine (verify_legal ctx t').bind fun _ t₁ hverify => ?_
    obtain ⟨rfl, -⟩ := verifyIntentAuthorizationBeforeProviderIo_ok hverify
    exact searchThenCreate_legal hl hc (.inl hq)

/-- On a payment that was settled meanwhile it is legal only if the search finds a payment that can
be adopted: unlike the start of the turn, it does not look whether the payment is settled. -/
theorem dispatchCreateFenced_legal_iff (hl : ∀ exc, ctx.lookup ≠ .raised exc)
    (hroute : ctx.provider = t.work.intent.provider)
    (hv : (verifyIntentAuthorizationBeforeProviderIo ctx).run t = (.ok (), t))
    (hf : t.work.intent.providerCreateFencedAt ≠ none)
    (ha : t.work.intent.providerAmbiguityObservedAt = none)
    (hs : t.work.intent.state.isTerminal = true) (acquired : Bool) :
    Legal (dispatchCreateFenced ctx acquired) t ↔ ∃ payment, ctx.lookup = .found payment ∧
      Valid ctx.env payment t.work.intent true ∧ Linkable payment t.work.intent := by
  have hq : t.work.intent.state ≠ .queued := by
    intro h
    simp [h, isTerminal] at hs
  unfold dispatchCreateFenced
  rw [legal_bind_of_ok (run_validateProviderRoute hroute), legal_bind_of_ok (Tx.run_get t)]
  dsimp only
  rw [if_neg hf, if_pos (by simp [hq])]
  exact recoverFencedCreate_legal_iff hl hv ha hs

end Create

-- ════════════════════════════════════════════════════════════════════════
-- Reconcile turns
-- ════════════════════════════════════════════════════════════════════════

section Reconcile

variable {ctx : TurnContext} {t : Turn}

lemma quiet_retryReconcile (reason reasonCode phase : String) :
    Tx.Quiet (retryReconcile ctx reason reasonCode phase) :=
  .of_ok fun t => ⟨_, _, run_retryReconcile ctx reason reasonCode phase t⟩

/-- From a state in progress the table permits an uncertainty. -/
lemma canTransition_of_inProgress {s : PaymentIntentState} (h : inProgress s)
    (hs : s ≠ .providerPending) : s.canTransition .providerPending = true :=
  (maybeUncertain_of_inProgress h).resolve_left hs

lemma reconcileLookupFailed_legal {error : ProviderError} (hs : inProgress t.work.intent.state) :
    Legal (reconcileLookupFailed ctx error) t := by
  unfold reconcileLookupFailed
  have hretry : ∀ t' : Turn, ∀ state, Legal (do
      let retried ← retryReconcile ctx error.detail error.reasonCode "reconciliation"
      pure ⟨state, true, retried⟩ : Handler DispatchResult) t' := fun t' state =>
    Tx.Quiet.raisesAt (.bind (quiet_retryReconcile _ _ _) fun _ => .pure _) t'
  refine .bind_of_ok (Tx.run_get t) ?_
  dsimp only
  split
  · refine Legal.bind (legal_onWork.mpr ?_) fun _ t' _ => hretry t' _
    refine .bind_of_ok (run_setIntent _ _) (.bind_of_ok (Tx.run_get _) ?_)
    split
    · next hne => exact applyPaymentTransition_legal _ _ _ (canTransition_of_inProgress hs hne)
    · exact .of_ok rfl
  · exact hretry t _

lemma reconcileAmbiguous_legal {payment : Option ProviderPayment}
    (hs : inProgress t.work.intent.state) : Legal (reconcileAmbiguous ctx payment) t := by
  unfold reconcileAmbiguous
  refine .bind_of_ok (Tx.run_get t) (Legal.bind ?_ fun _ t' _ => ?_)
  · refine legal_onWork.mpr ?_
    split
    · next hne => exact applyPaymentTransition_legal _ _ _ (canTransition_of_inProgress hs hne)
    · exact .of_ok rfl
  · exact Tx.Quiet.raisesAt (.bind (quiet_rescheduleEvent _ _) fun _ =>
      .bind (quiet_append _ _) fun _ => .pure _) t'

lemma reconcileLinkedNotFound_legal : Legal (reconcileLinkedNotFound ctx) t := by
  refine Tx.Quiet.raisesAt ?_ t
  refine .bind .get fun _ => .bind (quiet_rescheduleEvent _ _) fun _ => .bind ?_ fun _ => .pure _
  exact quiet_onWork (.bind (.modify _) fun _ => .modify _)

lemma reconcileFencedNotFound_legal (hs : inProgress t.work.intent.state) :
    Legal (reconcileFencedNotFound ctx) t := by
  unfold reconcileFencedNotFound
  refine .bind_of_ok (Tx.run_get t) (Legal.bind ?_ fun _ t' _ => ?_)
  · refine legal_onWork.mpr ?_
    split
    · next hne => exact applyPaymentTransition_legal _ _ _ (canTransition_of_inProgress hs hne)
    · exact .of_ok rfl
  · refine Tx.Quiet.raisesAt (.bind (quiet_rescheduleEvent _ _) fun _ => .bind ?_ fun _ => .pure _) t'
    exact quiet_onWork (.bind (.modify _) fun _ => .modify _)

/-- A payment becomes retryable only from a state that permits it. -/
lemma resolveNoProviderPayment_legal_iff : Legal (resolveNoProviderPayment ctx) t ↔
    t.work.intent.state.canTransition .failedRetryable = true := by
  unfold resolveNoProviderPayment
  rw [legal_bind_of_ok (Tx.run_get t)]
  by_cases hc : t.work.intent.state.canTransition .failedRetryable = true
  · refine ⟨fun _ => hc, fun _ => Legal.bind ?_ fun _ t' _ => ?_⟩
    · refine legal_onWork.mpr (.bind_of_ok (run_append _ _ _) (.bind ?_ fun _ u _ => .of_ok rfl))
      exact .of_ok ((run_assertPaymentTransition _ _ _).trans (if_pos hc))
    · exact Tx.Quiet.raisesAt (.bind (quiet_completeEvent _) fun _ =>
        .bind (quiet_append _ _) fun _ => .pure _) t'
  · refine ⟨fun h => absurd h (not_legal_bind ?_), fun h => absurd h hc⟩
    rw [legal_onWork, legal_bind_of_ok (run_append _ _ _)]
    exact not_legal_bind (not_legal_of_error ((run_assertPaymentTransition _ _ _).trans (if_neg hc)))

lemma reconcileFound_legal {payment : ProviderPayment} (hs : inProgress t.work.intent.state) :
    Legal (reconcileFound ctx payment) t := by
  unfold reconcileFound
  refine .bind_of_ok (Tx.run_get t) (Tx.RaisesAt.tryCatch fun exc t' hexc => ?_)
  have hbody : Exc.Lawful exc := by
    refine Legal.bind ?_ ?_ exc t' hexc
    · exact legal_onWork.mpr (recover_legal (run_attemptUnstarted ctx payment t.work)
        (settleable_attempted hs))
    · intro state t₁ _
      refine Tx.Quiet.raisesAt (.bind (quiet_append _ _) fun _ => ?_) t₁
      split
      · exact .bind (quiet_rescheduleEvent _ _) fun _ => .pure _
      · exact .bind (quiet_completeEvent _) fun _ => .pure _
  split
  · split
    · exact Tx.Quiet.raisesAt (.bind .get fun _ => .bind (quiet_retryReconcile _ _ _) fun _ =>
        .pure _) t'
    · exact Tx.Raises.raise hbody t'
  · exact Tx.Raises.raise hbody t'

/-- The state from which the absence of a payment is not a legal outcome: an attempt of the payment
was not under way. -/
lemma canTransition_failedRetryable {s : PaymentIntentState} (h : inProgress s) :
    s.canTransition .failedRetryable = true ↔ ¬unstarted s := by
  rcases h with rfl | rfl | rfl | rfl <;>
    simp [unstarted, canTransition, allowedTransitions]

/-- The lookup of a reconcile turn is legal from every open payment, but for one outcome: nothing
was found for an unlinked intent whose provider may be asked again, and no attempt is under way. -/
theorem reconcileLookup_legal_iff (hl : ∀ exc, ctx.lookup ≠ .raised exc)
    (hs : inProgress t.work.intent.state) :
    Legal (reconcileLookup ctx) t ↔
      ¬(ctx.lookup = .notFound ∧ t.work.intent.providerAmbiguityObservedAt = none ∧
        t.work.intent.providerPaymentId = none ∧
        (t.work.intent.providerCreateFencedAt = none ∨ ctx.idempotent = true) ∧
        unstarted t.work.intent.state) := by
  unfold reconcileLookup
  rw [legal_bind_of_ok (Tx.run_get t)]
  dsimp only
  split
  · next exc hexc => exact absurd hexc (hl exc)
  · next error hlookup => simp [hlookup, reconcileLookupFailed_legal hs]
  · next payment hlookup =>
    split
    · simp [hlookup, reconcileAmbiguous_legal hs]
    · simp [hlookup, reconcileFound_legal hs]
  · next hlookup =>
    split
    · next ha => simp [ha, reconcileAmbiguous_legal hs]
    split
    · next hp => simp [hp, reconcileLinkedNotFound_legal]
    split
    · next hf => simp [hf, reconcileFencedNotFound_legal hs]
    · next ha hp hf =>
      rw [resolveNoProviderPayment_legal_iff, canTransition_failedRetryable hs]
      have hf' : t.work.intent.providerCreateFencedAt = none ∨ ctx.idempotent = true := by
        by_cases hn : t.work.intent.providerCreateFencedAt = none
        · exact .inl hn
        · right
          by_contra hidem
          exact hf ⟨hn, by simpa using hidem⟩
      simp [hlookup, not_not.mp ha, not_not.mp hp, hf']

lemma legal_done_iff {x : Handler DispatchResult} :
    Legal (do
      let result ← x
      pure (.done result) : Handler HandlerStep) t ↔ Legal x t :=
  ⟨fun h => by_contra fun hx => not_legal_bind hx h, legal_done⟩

/-- A reconcile turn of a settled payment, or one that has to commit a fence first, is legal; any
other is legal if its lookup is. -/
theorem reconcileIntent_legal_iff (hroute : ctx.provider = t.work.intent.provider)
    (hv : (verifyIntentAuthorizationBeforeProviderIo ctx).run t = (.ok (), t)) :
    Legal (reconcileIntent ctx) t ↔ t.work.intent.state.isTerminal = true ∨
      lacksFence ctx t.work.intent = true ∨ Legal (reconcileLookup ctx) t := by
  unfold reconcileIntent
  rw [legal_bind_of_ok (run_validateProviderRoute hroute), legal_bind_of_ok (Tx.run_get t)]
  dsimp only
  split
  · next hterm => exact ⟨fun _ => .inl hterm, fun _ => .of_ok rfl⟩
  · next hterm =>
    rw [legal_bind_of_ok hv]
    split
    · next hlacks => exact ⟨fun _ => .inr (.inl hlacks), fun _ => .pure _⟩
    · next hlacks => simp [legal_done_iff, hterm, hlacks]

/-- The same after the fence commit. -/
theorem reconcileIntentFenced_legal_iff (hroute : ctx.provider = t.work.intent.provider)
    (hv : (verifyIntentAuthorizationBeforeProviderIo ctx).run t = (.ok (), t)) :
    Legal (reconcileIntentFenced ctx) t ↔
      t.work.intent.state.isTerminal = true ∨ Legal (reconcileLookup ctx) t := by
  unfold reconcileIntentFenced
  rw [legal_bind_of_ok (run_validateProviderRoute hroute), legal_bind_of_ok (Tx.run_get t)]
  dsimp only
  split
  · next hterm => exact ⟨fun _ => .inl hterm, fun _ => .of_ok rfl⟩
  · next hterm =>
    rw [legal_bind_of_ok hv]
    simp [hterm]

end Reconcile

end PaymentExecutor

end Pactra
