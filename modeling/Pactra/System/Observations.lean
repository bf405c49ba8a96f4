import Pactra.System.Steps

/-!
# Calls to the provider, over steps and runs

A step adds at most one observation to the trace. `Observed` says which step adds which: the commit
of a create fence, or a call of `provider.create_payment` for an intent whose authority was
verified just before, by a turn that was permitted to make it.

## Main results

- `step_trace` — what a step adds to the trace
-/

namespace Pactra

open PaymentExecutor

/-- A turn that may call `provider.create_payment` for an intent: the authority was verified, and
the provider is idempotent or the turn holds the create fence. -/
structure Creates (ctx : TurnContext) (p : TurnPhase) (event : OutboxEventRow)
    (i : PaymentIntentRow) : Prop where
  verified : ∃ a transaction, Verified ctx i a transaction
  provider : ctx.provider = i.provider
  permitted : (ctx.idempotent = true ∧ unstarted i.state) ∨
    (p = .fenced event true ∧ i.state = .queued)

/-- What a step can add to the trace. -/
inductive Observed (env : Env) (w : World) : Action → Observation → Prop
  | fenceCommitted (k : Nat) (turn : WorkerTurn) (event : OutboxEventRow) (requeue : Bool)
    (i : PaymentIntentRow) (hturn : w.turns[k]? = some turn)
    (hphase : turn.phase = .fencing event requeue)
    (hi : w.db.getPaymentIntent event.paymentIntentId = some i) :
    Observed env w (.commitFence k)
      (.fenceCommitted k i.id (World.acquireProviderCreateFence turn.now requeue i).2)
  | createPayment (k : Nat) (lookup : LookupAnswer) (create : CreateAnswer) (action : Action)
    (turn : WorkerTurn) (event : OutboxEventRow) (i : PaymentIntentRow)
    (haction : action = .handle k lookup create ∨ action = .crashHandling k lookup create)
    (hturn : w.turns[k]? = some turn)
    (hi : w.db.getPaymentIntent event.paymentIntentId = some i)
    (h : Creates (World.contextOf env w.db turn lookup create) turn.phase event i) :
    Observed env w action (.createPayment k i.id (paymentRequest i))

/-- Which call of `provider.create_payment` an observation is. -/
lemma Observed.create {env : Env} {w : World} {action : Action} {k : Nat} {id : Uuid}
    {request : PaymentRequest} (h : Observed env w action (.createPayment k id request)) :
    ∃ lookup create turn event i,
      (action = .handle k lookup create ∨ action = .crashHandling k lookup create) ∧
      w.turns[k]? = some turn ∧ w.db.getPaymentIntent event.paymentIntentId = some i ∧
      i.id = id ∧ request = paymentRequest i ∧
      Creates (World.contextOf env w.db turn lookup create) turn.phase event i := by
  generalize ho : Observation.createPayment k id request = o at h
  cases h with
  | fenceCommitted => cases ho
  | createPayment k lookup create action turn event i haction hturn hi h =>
    obtain ⟨rfl, rfl, rfl⟩ := Observation.createPayment.inj ho
    exact ⟨lookup, create, turn, event, i, haction, hturn, hi, rfl, rfl, h⟩

/-- Which fence commit an observation is. -/
lemma Observed.fence {env : Env} {w : World} {action : Action} {k : Nat} {id : Uuid}
    {acquired : Bool} (h : Observed env w action (.fenceCommitted k id acquired)) :
    action = .commitFence k ∧ ∃ turn event requeue i, w.turns[k]? = some turn ∧
      turn.phase = .fencing event requeue ∧
      w.db.getPaymentIntent event.paymentIntentId = some i ∧ i.id = id ∧
      acquired = (World.acquireProviderCreateFence turn.now requeue i).2 := by
  generalize ho : Observation.fenceCommitted k id acquired = o at h
  cases h with
  | fenceCommitted k turn event requeue i hturn hphase hi =>
    obtain ⟨rfl, rfl, rfl⟩ := Observation.fenceCommitted.inj ho
    exact ⟨rfl, turn, event, requeue, i, hturn, hphase, hi, rfl, rfl⟩
  | createPayment => cases ho

lemma created_done (x : Handler DispatchResult) (t : Turn) :
    ((do
      let result ← x
      pure (.done result) : Handler HandlerStep).run t).2.created = (x.run t).2.created := by
  rcases h : x.run t with ⟨r | r, t'⟩
  · rw [Tx.run_bind_of_error h]
  · rw [Tx.run_bind_of_ok h]
    rfl

/-- A handler calls `provider.create_payment` at most once, and only where it is permitted. -/
lemma handlerOf_created {ctx : TurnContext} {p : TurnPhase} {event : OutboxEventRow}
    {handler : Handler HandlerStep} {t : Turn}
    (hh : World.handlerOf ctx p = some (event, handler)) (hnone : t.created = []) :
    (handler.run t).2.created = [] ∨
      (handler.run t).2.created = [paymentRequest t.work.intent] ∧
        Creates ctx p event t.work.intent := by
  have hcreates : ∀ {t' : Turn}, CreatesVerified ctx t t' → ctx.provider = t.work.intent.provider →
      ((ctx.idempotent = true ∧ unstarted t.work.intent.state) ∨
        (p = .fenced event true ∧ t.work.intent.state = .queued)) →
      t'.created = [] ∨ t'.created = [paymentRequest t.work.intent] ∧
        Creates ctx p event t.work.intent := by
    intro t' hv hprov hguard
    rcases hv with hsame | ⟨hverified, hone⟩
    · exact .inl (hsame.trans hnone)
    · rw [hnone] at hone
      exact .inr ⟨hone, hverified, hprov, hguard⟩
  unfold World.handlerOf at hh
  split at hh
  · split at hh
    · obtain ⟨rfl, rfl⟩ := Prod.mk.inj (Option.some.inj hh)
      rcases dispatchCreate_created ctx t with hsame | ⟨hprov, hidem, hunstarted, hv⟩
      · exact .inl (hsame.trans hnone)
      · exact hcreates hv hprov (.inl ⟨hidem, hunstarted⟩)
    · obtain ⟨rfl, rfl⟩ := Prod.mk.inj (Option.some.inj hh)
      exact .inl ((NoCreate.reconcileIntent ctx t).trans hnone)
  · next e acquired =>
    obtain ⟨rfl, rfl⟩ := Prod.mk.inj (Option.some.inj hh)
    rw [created_done]
    rcases dispatchCreateFenced_created ctx acquired t with hsame | ⟨hprov, rfl, hqueued, hv⟩
    · exact .inl (hsame.trans hnone)
    · exact hcreates hv hprov (.inr ⟨rfl, hqueued⟩)
  · obtain ⟨rfl, rfl⟩ := Prod.mk.inj (Option.some.inj hh)
    rw [created_done]
    exact .inl ((NoCreate.reconcileIntentFenced ctx t).trans hnone)
  · cases hh

section Trace

variable {env : Env} {w w' : World}

/-- The trace after a step. -/
def Traced (env : Env) (w : World) (action : Action) (w' : World) : Prop :=
  w'.trace = w.trace ∨ ∃ o, w'.trace = w.trace ++ [o] ∧ Observed env w action o

/-- The observations of a handler segment, whether it committed or not. -/
lemma traced_handler {k : Nat} {lookup : LookupAnswer} {create : CreateAnswer} {turn : WorkerTurn}
    {event : OutboxEventRow} {handler : Handler HandlerStep} {i : PaymentIntentRow} {action : Action}
    (haction : action = .handle k lookup create ∨ action = .crashHandling k lookup create)
    (hturn : w.turns[k]? = some turn)
    (hh : World.handlerOf (World.contextOf env w.db turn lookup create) turn.phase =
      some (event, handler))
    (hi : w.db.getPaymentIntent event.paymentIntentId = some i)
    (htrace : w'.trace = w.trace ++ World.createObservations k i.id
      (handler.run ⟨World.lockIntent w.db i, event, []⟩).2) : Traced env w action w' := by
  rcases handlerOf_created (t := ⟨World.lockIntent w.db i, event, []⟩) hh rfl with hnone | ⟨hone, hc⟩
  · left
    rw [htrace, World.createObservations, hnone]
    simp
  · right
    rw [World.createObservations, hone] at htrace
    exact ⟨_, htrace, .createPayment k lookup create action turn event i haction hturn hi hc⟩

lemma handle_trace {k : Nat} {lookup : LookupAnswer} {create : CreateAnswer} {turn : WorkerTurn}
    (hturn : w.turns[k]? = some turn)
    (h : World.handleTurn env w k turn lookup create = some w') :
    Traced env w (.handle k lookup create) w' := by
  unfold World.handleTurn at h
  split at h
  · cases h
  next event handler hh =>
  split at h
  · obtain rfl := Option.some.inj h
    exact .inl rfl
  next i hi =>
  split at h
  · next r t hrun =>
    refine traced_handler (.inl rfl) hturn hh hi ?_
    rw [hrun]
    dsimp only at h
    split at h <;> obtain rfl := Option.some.inj h <;> rfl
  · obtain rfl := Option.some.inj h
    exact .inl rfl
  · next exc t hrun =>
    refine traced_handler (.inl rfl) hturn hh hi ?_
    rw [hrun]
    obtain rfl := Option.some.inj h
    rfl

/-- A step adds at most one observation. -/
theorem step_trace {action : Action} (h : World.step env w action = some w') :
    Traced env w action w' := by
  cases action with
  | openApproval missionId signingKeyId signatureHex now =>
    obtain rfl := Option.some.inj h
    left
    unfold World.openApproval
    split
    · split <;> rfl
    · rfl
  | finishApproval k =>
    simp only [World.step] at h
    split at h
    · cases h
    split at h
    · cases h
    · obtain rfl := Option.some.inj h
      exact .inl rfl
  | requestStep k =>
    simp only [World.step] at h
    split at h
    · cases h
    split at h
    · cases h
    · obtain rfl := Option.some.inj h
      exact .inl rfl
  | abandonRequest k =>
    simp only [World.step] at h
    split at h
    · cases h
    split at h
    · cases h
    · obtain rfl := Option.some.inj h
      exact .inl rfl
  | webhook provider event now =>
    obtain rfl := Option.some.inj h
    left
    unfold World.deliverWebhook
    repeat' split
    all_goals rfl
  | handle k lookup create =>
    simp only [World.step] at h
    split at h
    · cases h
    next turn hturn => exact handle_trace hturn h
  | crashHandling k lookup create =>
    simp only [World.step] at h
    split at h
    · cases h
    next turn hturn =>
    unfold World.crashTurn at h
    split at h
    · cases h
    next event handler hh =>
    split at h
    · cases h
    next i hi =>
    obtain rfl := Option.some.inj h
    exact traced_handler (.inr rfl) hturn hh hi rfl
  | commitFence k =>
    simp only [World.step] at h
    split at h
    · cases h
    next turn hturn =>
    unfold World.fenceTurn at h
    split at h
    · next event requeue hphase =>
      split at h
      · cases h
      next i hi =>
      obtain rfl := Option.some.inj h
      exact .inr ⟨_, rfl, .fenceCommitted k turn event requeue i hturn hphase hi⟩
    · split at h
      · cases h
      · obtain rfl := Option.some.inj h
        exact .inl rfl
    · cases h
  | runMission | revoke | expire | openRequest | startTurn =>
    obtain rfl := Option.some.inj h
    exact .inl rfl
  | _ =>
    simp only [World.step, World.Action.turn] at h
    split at h
    · cases h
    simp only [World.stepTurn] at h
    repeat' split at h
    all_goals first
      | cases h; done
      | (obtain rfl := Option.some.inj h; exact .inl rfl)

end Trace

end Pactra
