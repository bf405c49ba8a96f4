import Pactra.PaymentExecutor.Effects.Dispatch
import Pactra.PaymentExecutor.Effects.Reconcile

/-!
# Calls to the provider

Which handlers can call `provider.create_payment`, under which guards, and with what. A call has
happened whether or not the transaction around it commits, so these results hold however the
handler ends.

## Main results

- `NoCreate.reconcileIntent`, `NoCreate.reconcileIntentFenced` — reconciliation never creates
- `dispatchCreate_created`, `dispatchCreateFenced_created` — who may create, and for what
-/

namespace Pactra

namespace PaymentExecutor

/-- A computation of a handler that does not call `provider.create_payment`. -/
def NoCreate {α : Type} (x : Handler α) : Prop := Tx.Respects (Tx.Same Turn.created) x

section NoCreate

variable {α β : Type}

lemma NoCreate.bind {x : Handler α} {f : α → Handler β} (hx : NoCreate x)
    (hf : ∀ a, NoCreate (f a)) : NoCreate (x >>= f) := Tx.Respects.bind hx hf

lemma NoCreate.pure (a : α) : NoCreate (Pure.pure a) := Tx.Respects.pure a

lemma NoCreate.raise (exc : Exc) : NoCreate (Tx.raise exc : Handler α) := Tx.Respects.raise exc

lemma NoCreate.get : NoCreate Tx.get := Tx.Respects.get

lemma NoCreate.onWork (x : Work α) : NoCreate (onWork x) := fun _ => rfl

lemma NoCreate.completeEvent (now : Datetime) : NoCreate (completeEvent now) := fun _ => rfl

lemma NoCreate.rescheduleEvent (reason : String) (now : Datetime) :
    NoCreate (rescheduleEvent reason now) := fun _ => rfl

lemma NoCreate.verify (ctx : TurnContext) :
    NoCreate (verifyIntentAuthorizationBeforeProviderIo ctx) := fun t =>
  congrArg Turn.created (verifyIntentAuthorizationBeforeProviderIo_state ctx t)

lemma NoCreate.finishUncertain (detail : String) (now : Datetime) (reasonCode : String)
    (timedOut : Bool) : NoCreate (finishUncertain detail now reasonCode timedOut) :=
  (NoCreate.onWork _).bind fun _ => (NoCreate.completeEvent now).bind fun _ => .pure _

lemma NoCreate.exceptMismatch {x : Handler α} {handler : ProviderError → Handler α}
    (hx : NoCreate x) (hh : ∀ e, NoCreate (handler e)) : NoCreate (exceptMismatch x handler) := by
  refine Tx.Respects.tryCatch hx fun exc => ?_
  split
  · exact Tx.Respects.ite (fun _ => hh _) (fun _ => .raise _)
  · exact .raise _

lemma NoCreate.finishExistingBeforeCreate (ctx : TurnContext) (existing : ProviderPayment) :
    NoCreate (finishExistingBeforeCreate ctx existing) := by
  refine NoCreate.get.bind fun t => ?_
  split
  · exact .finishUncertain _ _ _ _
  · refine .exceptMismatch ?_ fun _ => .finishUncertain _ _ _ _
    refine (NoCreate.onWork _).bind fun state => NoCreate.get.bind fun t =>
      (NoCreate.onWork _).bind fun _ => ?_
    dsimp only
    split
    · exact (NoCreate.onWork _).bind fun _ => (NoCreate.completeEvent _).bind fun _ => .pure _
    · exact (NoCreate.completeEvent _).bind fun _ => .pure _

lemma NoCreate.recoverFencedCreate (ctx : TurnContext) : NoCreate (recoverFencedCreate ctx) := by
  refine (NoCreate.verify ctx).bind fun _ => ?_
  split
  · exact .finishUncertain _ _ _ _
  · exact .raise _
  · exact .finishExistingBeforeCreate ctx _
  · exact .finishUncertain _ _ _ _

lemma NoCreate.finishCreated (ctx : TurnContext) (payment : ProviderPayment) :
    NoCreate (finishCreated ctx payment) := by
  refine .exceptMismatch ?_ fun _ => .finishUncertain _ _ _ _
  refine (NoCreate.onWork _).bind fun state => ?_
  dsimp only
  split
  · exact (NoCreate.onWork _).bind fun _ => (NoCreate.completeEvent _).bind fun _ => .pure _
  · exact (NoCreate.completeEvent _).bind fun _ => .pure _

lemma NoCreate.finishCreateError (ctx : TurnContext) (error : ProviderError) :
    NoCreate (finishCreateError ctx error) := by
  unfold PaymentExecutor.finishCreateError
  split
  · exact .finishUncertain _ _ _ _
  split
  · split
    · exact .finishUncertain _ _ _ _
    · exact NoCreate.get.bind fun t => (NoCreate.onWork _).bind fun _ =>
        (NoCreate.rescheduleEvent _ _).bind fun _ =>
          (NoCreate.get.bind fun _ => NoCreate.onWork _).bind fun _ => .pure _
  · exact NoCreate.get.bind fun t => (NoCreate.onWork _).bind fun _ =>
      (NoCreate.completeEvent _).bind fun _ => .pure _

lemma NoCreate.retryReconcile (ctx : TurnContext) (reason reasonCode phase : String) :
    NoCreate (retryReconcile ctx reason reasonCode phase) := fun t => by
  rw [run_retryReconcile]
  exact rfl

lemma NoCreate.reconcileLookupFailed (ctx : TurnContext) (error : ProviderError) :
    NoCreate (reconcileLookupFailed ctx error) := by
  refine NoCreate.get.bind fun t => ?_
  dsimp only
  split
  · exact (NoCreate.onWork _).bind fun _ => (NoCreate.retryReconcile _ _ _ _).bind fun _ => .pure _
  · exact (NoCreate.retryReconcile _ _ _ _).bind fun _ => .pure _

lemma NoCreate.reconcileFound (ctx : TurnContext) (payment : ProviderPayment) :
    NoCreate (reconcileFound ctx payment) := by
  refine NoCreate.get.bind fun t => ?_
  refine Tx.Respects.tryCatch ?_ fun exc => ?_
  · refine (NoCreate.onWork _).bind fun state => (NoCreate.onWork _).bind fun _ => ?_
    exact Tx.Respects.ite
      (fun _ => (NoCreate.rescheduleEvent _ _).bind fun _ => .pure _)
      (fun _ => (NoCreate.completeEvent _).bind fun _ => .pure _)
  · split
    · exact Tx.Respects.ite
        (fun _ => NoCreate.get.bind fun _ => (NoCreate.retryReconcile _ _ _ _).bind fun _ =>
          .pure _)
        (fun _ => .raise _)
    · exact .raise _

lemma NoCreate.reconcileLookup (ctx : TurnContext) : NoCreate (reconcileLookup ctx) := by
  have hambiguous : ∀ payment, NoCreate (reconcileAmbiguous ctx payment) := fun payment =>
    NoCreate.get.bind fun _ => (NoCreate.onWork _).bind fun _ =>
      (NoCreate.rescheduleEvent _ _).bind fun _ => (NoCreate.onWork _).bind fun _ => .pure _
  refine NoCreate.get.bind fun t => ?_
  dsimp only
  split
  · exact .raise _
  · exact .reconcileLookupFailed ctx _
  · exact Tx.Respects.ite (fun _ => hambiguous _) (fun _ => NoCreate.reconcileFound ctx _)
  · refine Tx.Respects.ite (fun _ => hambiguous _) fun _ =>
      Tx.Respects.ite (fun _ => ?_) fun _ => Tx.Respects.ite (fun _ => ?_) fun _ => ?_
    · exact NoCreate.get.bind fun _ => (NoCreate.rescheduleEvent _ _).bind fun _ =>
        (NoCreate.onWork _).bind fun _ => .pure _
    · exact NoCreate.get.bind fun _ => (NoCreate.onWork _).bind fun _ =>
        (NoCreate.rescheduleEvent _ _).bind fun _ => (NoCreate.onWork _).bind fun _ => .pure _
    · exact NoCreate.get.bind fun _ => (NoCreate.onWork _).bind fun _ =>
        (NoCreate.completeEvent _).bind fun _ => (NoCreate.onWork _).bind fun _ => .pure _

/-- A reconcile turn never calls `provider.create_payment`, however it ends. -/
theorem NoCreate.reconcileIntent (ctx : TurnContext) : NoCreate (reconcileIntent ctx) := by
  refine (NoCreate.onWork _).bind fun _ => NoCreate.get.bind fun t => ?_
  refine Tx.Respects.ite (fun _ => (NoCreate.completeEvent _).bind fun _ => .pure _) fun _ => ?_
  refine (NoCreate.verify ctx).bind fun _ => Tx.Respects.ite (fun _ => .pure _) fun _ => ?_
  exact (NoCreate.reconcileLookup ctx).bind fun _ => .pure _

theorem NoCreate.reconcileIntentFenced (ctx : TurnContext) :
    NoCreate (reconcileIntentFenced ctx) := by
  refine (NoCreate.onWork _).bind fun _ => NoCreate.get.bind fun t => ?_
  refine Tx.Respects.ite (fun _ => (NoCreate.completeEvent _).bind fun _ => .pure _) fun _ => ?_
  exact (NoCreate.verify ctx).bind fun _ => .reconcileLookup ctx

end NoCreate

lemma created_createPayment (ctx : TurnContext) (t : Turn) :
    ((createPayment ctx).run t).2.created = t.created ++ [paymentRequest t.work.intent] := by
  have hrest : ∀ x : Handler DispatchResult, NoCreate x →
      ((do
        Tx.modify fun t => { t with created := t.created ++ [paymentRequest t.work.intent] }
        x : Handler DispatchResult).run t).2.created =
        t.created ++ [paymentRequest t.work.intent] := by
    intro x hx
    rw [Tx.run_bind_of_ok (Tx.run_modify _ _)]
    exact hx _
  refine hrest _ ?_
  split
  · exact .raise _
  · exact Tx.Respects.ite
      (fun _ => (NoCreate.onWork _).bind fun _ => NoCreate.finishCreateError ctx _)
      (fun _ => .raise _)
  · exact (NoCreate.onWork _).bind fun _ => .finishCreated ctx _

/-- The calls to `provider.create_payment` of a computation: none, or one with the stored request
of an intent whose authority was verified. -/
def CreatesVerified (ctx : TurnContext) (t t' : Turn) : Prop :=
  t'.created = t.created ∨
    ((∃ a transaction, Verified ctx t.work.intent a transaction) ∧
      t'.created = t.created ++ [paymentRequest t.work.intent])

lemma searchThenCreate_created (ctx : TurnContext) (t : Turn) :
    CreatesVerified ctx t ((searchThenCreate ctx).run t).2 := by
  unfold searchThenCreate
  split
  · exact .inl (NoCreate.finishUncertain _ _ _ _ t)
  · exact .inl rfl
  · exact .inl (NoCreate.finishExistingBeforeCreate ctx _ t)
  · have hstate := verifyIntentAuthorizationBeforeProviderIo_state ctx t
    rcases hv : (verifyIntentAuthorizationBeforeProviderIo ctx).run t with ⟨r | ⟨⟩, t₁⟩
    · rw [Tx.run_bind_of_error hv]
      rw [hv] at hstate
      exact .inl (congrArg Turn.created hstate)
    · obtain ⟨rfl, hverified⟩ := verifyIntentAuthorizationBeforeProviderIo_ok hv
      rw [Tx.run_bind_of_ok hv]
      exact .inr ⟨hverified, created_createPayment ctx _⟩

lemma verifyThen_created {α : Type} {ctx : TurnContext} {rest : Handler α} {t : Turn}
    (hrest : CreatesVerified ctx t (rest.run t).2) :
    CreatesVerified ctx t
      ((do verifyIntentAuthorizationBeforeProviderIo ctx; rest : Handler α).run t).2 := by
  have hstate := verifyIntentAuthorizationBeforeProviderIo_state ctx t
  rcases hv : (verifyIntentAuthorizationBeforeProviderIo ctx).run t with ⟨r | ⟨⟩, t₁⟩
  · rw [Tx.run_bind_of_error hv]
    rw [hv] at hstate
    exact .inl (congrArg Turn.created hstate)
  · obtain ⟨rfl, -⟩ := verifyIntentAuthorizationBeforeProviderIo_ok hv
    rwa [Tx.run_bind_of_ok hv]

/-- Up to the fence commit only a create turn of an idempotent provider calls
`provider.create_payment`, at most once, and for verified authority. -/
theorem dispatchCreate_created (ctx : TurnContext) (t : Turn) :
    ((dispatchCreate ctx).run t).2.created = t.created ∨
      (ctx.provider = t.work.intent.provider ∧ ctx.idempotent = true ∧
        unstarted t.work.intent.state ∧ CreatesVerified ctx t ((dispatchCreate ctx).run t).2) := by
  -- the end of the handler, on an intent that is queued in memory
  have htail : ∀ t₁ : Turn, let t₂ := ((do
        verifyIntentAuthorizationBeforeProviderIo ctx
        if !ctx.idempotent then pure .fence
        else do
          let result ← searchThenCreate ctx
          pure (.done result) : Handler HandlerStep).run t₁).2
      t₂.created = t₁.created ∨ (ctx.idempotent = true ∧ CreatesVerified ctx t₁ t₂) := by
    intro t₁
    by_cases hidem : ctx.idempotent = true
    · refine .inr ⟨hidem, verifyThen_created ?_⟩
      simp only [hidem, Bool.not_true, Bool.false_eq_true, if_false]
      have h := searchThenCreate_created ctx t₁
      rcases hsearch : (searchThenCreate ctx).run t₁ with ⟨r | result, t₂⟩
      · rw [Tx.run_bind_of_error hsearch]
        simpa [hsearch] using h
      · rw [Tx.run_bind_of_ok hsearch]
        simpa [hsearch] using h
    · left
      refine (NoCreate.verify ctx).bind (fun _ => ?_) t₁
      simp only [hidem]
      exact .pure _
  rcases hroute : (onWork (validateProviderRoute ctx)).run t with ⟨r | ⟨⟩, t₁⟩
  · left
    have h := NoCreate.onWork (validateProviderRoute ctx) t
    rw [hroute] at h
    rw [dispatchCreate, Tx.run_bind_of_error hroute]
    exact h
  obtain ⟨rfl, hprov⟩ := validateProviderRoute_ok hroute
  rw [dispatchCreate, Tx.run_bind_of_ok hroute, Tx.run_bind_of_ok (Tx.run_get _)]
  dsimp only
  split
  · exact .inl rfl
  split
  · exact .inl ((NoCreate.recoverFencedCreate ctx).bind (fun _ => .pure _) t₁)
  split
  · exact .inl rfl
  split
  · next hr =>
    have hassert : (assertPaymentTransition t₁.work.intent.state .queued : Handler Unit).run t₁ =
        (.ok (), t₁) := by
      simp [run_assertPaymentTransition, hr, PaymentIntentState.canTransition,
        PaymentIntentState.allowedTransitions]
    rw [Tx.run_bind_of_ok hassert, Tx.run_bind_of_ok (run_onWork _ _)]
    simp only [ne_eq, not_true, if_false]
    rcases htail { t₁ with work := requeued t₁.work } with h | ⟨hidem, h⟩
    · exact .inl h
    · refine .inr ⟨hprov, hidem, .inr hr, ?_⟩
      rcases h with h | ⟨⟨a, transaction, hv⟩, h⟩
      · exact .inl h
      · exact .inr ⟨⟨a, transaction, ⟨hv.1, hv.2, hv.3, hv.4, hv.5, hv.6, hv.7⟩⟩, h⟩
  · split
    · exact .inl rfl
    · next hq =>
      rcases htail t₁ with h | ⟨hidem, h⟩
      · exact .inl h
      · exact .inr ⟨hprov, hidem, .inl (not_not.mp hq), h⟩

/-- After the fence commit only the turn that acquired the fence, on an intent that is still
queued, calls `provider.create_payment`. -/
theorem dispatchCreateFenced_created (ctx : TurnContext) (acquired : Bool) (t : Turn) :
    ((dispatchCreateFenced ctx acquired).run t).2.created = t.created ∨
      (ctx.provider = t.work.intent.provider ∧ acquired = true ∧
        t.work.intent.state = .queued ∧
        CreatesVerified ctx t ((dispatchCreateFenced ctx acquired).run t).2) := by
  rcases hroute : (onWork (validateProviderRoute ctx)).run t with ⟨r | ⟨⟩, t₁⟩
  · left
    have h := NoCreate.onWork (validateProviderRoute ctx) t
    rw [hroute] at h
    rw [dispatchCreateFenced, Tx.run_bind_of_error hroute]
    exact h
  obtain ⟨rfl, hprov⟩ := validateProviderRoute_ok hroute
  rw [dispatchCreateFenced, Tx.run_bind_of_ok hroute, Tx.run_bind_of_ok (Tx.run_get _)]
  dsimp only
  split
  · exact .inl rfl
  split
  · exact .inl (NoCreate.recoverFencedCreate ctx t₁)
  · next hq =>
    simp at hq
    exact .inr ⟨hprov, hq.1, hq.2, verifyThen_created (searchThenCreate_created ctx t₁)⟩

end PaymentExecutor

end Pactra
