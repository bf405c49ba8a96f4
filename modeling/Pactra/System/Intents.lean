import Pactra.PaymentExecutor.Effects.Settlement
import Pactra.System.Steps

/-!
# What a step does to one intent

`Change` speaks about the whole database. Most guarantees are about one intent, and for them a step
is one of a few things: the row is as it was, its fence was committed, a handler or a webhook moved
it, or a request has just committed it.

## Main results

- `step_intents` — a step replaces one row at most, or adds one
- `step_intent` — where the row of an intent comes from
-/

namespace Pactra

open PaymentExecutor

/-- What a step does to the row of an intent. -/
inductive IntentStep (env : Env) (w : World) : Action → PaymentIntentRow → PaymentIntentRow → Prop
  | kept (action : Action) (i : PaymentIntentRow) : IntentStep env w action i i
  | fenced (k : Nat) (i : PaymentIntentRow) (fence : Option Datetime) :
    IntentStep env w (.commitFence k) i { i with providerCreateFencedAt := fence }
  | handled (k : Nat) (lookup : LookupAnswer) (create : CreateAnswer) (turn : WorkerTurn)
    (event e' : OutboxEventRow) (i : PaymentIntentRow) (u : UnitOfWork)
    (hturn : w.turns[k]? = some turn)
    (hi : w.db.getPaymentIntent event.paymentIntentId = some i)
    (hprov : turn.provider = i.provider)
    (h : Handled (World.contextOf env w.db turn lookup create) turn.phase
      (World.lockIntent w.db i) event u e')
    (hunique : referenceTaken w.db u.intent = false) :
    IntentStep env w (.handle k lookup create) i u.intent
  | delivered (provider : String) (event : VerifiedWebhookEvent) (now : Datetime)
    (i : PaymentIntentRow) (u : UnitOfWork) (applied : Option (Option PaymentIntentState))
    (hi : findIntent w.db event = some i)
    (h : Delivered w.db event (World.lockIntent w.db i) u applied)
    (hunique : referenceTaken w.db u.intent = false) :
    IntentStep env w (.webhook provider event now) i u.intent

/-- An intent that a request has just committed. -/
def Inserted (env : Env) (db : Db) (action : Action) (i : PaymentIntentRow) (db' : Db) : Prop :=
  ∃ k args t intent, action = .requestStep k ∧ Intends env db args t intent ∧
    Created args t intent db db' ∧ i = { intent with state := .queued }

section IntentStep

variable {env : Env} {w w' : World} {action : Action} {db' : Db} {id : Uuid}
  {i i' : PaymentIntentRow}

/-- The intent that a webhook names. -/
lemma findIntent_some {db : Db} {event : VerifiedWebhookEvent} (h : findIntent db event = some i) :
    i ∈ db.paymentIntents ∧ i.provider = event.provider ∧
      i.providerPaymentId = some event.providerPaymentId :=
  ⟨List.mem_of_find?_eq_some h, by simpa using List.find?_some h⟩

/-- What a step does to the table of intents. -/
inductive IntentsStep (env : Env) (w : World) (action : Action) (db' : Db) : Prop
  | kept (h : db'.paymentIntents = w.db.paymentIntents)
  | moved (i i' : PaymentIntentRow) (hi : w.db.getPaymentIntent i.id = some i)
    (hmoves : Moves i i') (h : IntentStep env w action i i')
    (hrows : db'.paymentIntents = (w.db.updatePaymentIntent i.id (fun _ => i')).paymentIntents)
  | inserted (i : PaymentIntentRow) (h : Inserted env w.db action i db')
    (hrows : db'.paymentIntents = w.db.paymentIntents ++ [i])

/-- Every change replaces one row at most, or adds one. -/
theorem Change.intents (hc : Consistent env w.db) (h : Change env w action db') :
    IntentsStep env w action db' := by
  cases h with
  | kept => exact .kept rfl
  | planned _ _ _ h =>
    obtain ⟨d, hplanning, -⟩ := h
    exact .kept hplanning.paymentIntents
  | aftermath _ _ h =>
    cases h with
    | kept => exact .kept rfl
    | recorded _ _ _ _ _ happ => exact .kept happ.rows.paymentIntents
    | ended _ _ _ _ _ _ _ _ happ => exact .kept happ.rows.paymentIntents
  | activated _ _ _ _ _ _ _ _ _ happ => exact .kept happ.rows.paymentIntents
  | created k args t intent _ hintends h =>
    exact .inserted _ ⟨k, args, t, intent, rfl, hintends, h, rfl⟩ h.paymentIntents
  | reused _ _ _ _ _ _ _ happ => exact .kept happ.rows.paymentIntents
  | claimed => exact .kept rfl
  | recovered => exact .kept rfl
  | fenced k j fence hj hfence =>
    refine .moved j _ hj ?_ (.fenced k j fence) rfl
    exact ⟨rfl, hfence, fun _ => ⟨rfl, rfl⟩, .refl _⟩
  | handled k lookup create turn event j t _ hturn _ _ hj hprov h hcommit =>
    obtain ⟨-, hmoves⟩ := h.moves (hc.committable j (Table.mem_of_find hj)) hprov
    have hrows := hcommit.paymentIntents
    rw [PaymentIntentRow.id_of_terms hmoves.terms] at hrows
    refine .moved j t.work.intent (by rwa [Table.key_of_find hj]) hmoves ?_ hrows
    exact .handled k lookup create turn event t.event j t.work hturn hj hprov h hcommit.unique
  | delivered provider event now j u applied _ hj h hcommit =>
    obtain ⟨hmem, -, hlinked⟩ := findIntent_some hj
    obtain ⟨-, hmoves⟩ := h.moves (hc.committable j hmem) hlinked
    have hrows := hcommit.paymentIntents
    rw [PaymentIntentRow.id_of_terms hmoves.terms] at hrows
    refine .moved j u.intent (hc.mem_intent.mp hmem) hmoves ?_ hrows
    exact .delivered provider event now j u applied hj h hcommit.unique

/-- Where the row of an intent comes from. -/
theorem IntentsStep.intent (h : IntentsStep env w action db')
    (hi' : db'.getPaymentIntent id = some i') :
    (∃ i, w.db.getPaymentIntent id = some i ∧ IntentStep env w action i i') ∨
      (w.db.getPaymentIntent id = none ∧ Inserted env w.db action i' db') := by
  have hfind : Table.find PaymentIntentRow.id id db'.paymentIntents = some i' := hi'
  cases h with
  | kept h =>
    rw [h] at hfind
    exact .inl ⟨i', hfind, .kept action i'⟩
  | moved j j' hj hmoves hstep hrows =>
    have hid : j'.id = j.id := PaymentIntentRow.id_of_terms hmoves.terms
    have hget := getPaymentIntent_update w.db j.id id (f := fun _ => j') (fun _ _ => hid)
    rw [hrows] at hfind
    by_cases hk : id = j.id
    · subst hk
      rw [if_pos rfl, hj] at hget
      obtain rfl := Option.some.inj (hget.symm.trans hfind)
      exact .inl ⟨j, hj, hstep⟩
    · rw [if_neg hk] at hget
      exact .inl ⟨i', hget.symm.trans hfind, .kept action i'⟩
  | inserted i h hrows =>
    rw [hrows, Table.find_append] at hfind
    cases hbefore : Table.find PaymentIntentRow.id id w.db.paymentIntents with
    | some i =>
      rw [hbefore, Option.some_or] at hfind
      obtain rfl := Option.some.inj hfind
      exact .inl ⟨i, hbefore, .kept _ i⟩
    | none =>
      rw [hbefore, Option.none_or] at hfind
      obtain rfl := List.mem_singleton.mp (Table.mem_of_find hfind)
      exact .inr ⟨hbefore, h⟩

/-- What a step of the system does to the table of intents. -/
theorem step_intents (hreach : Reachable env w) (h : World.step env w action = some w') :
    IntentsStep env w action w'.db :=
  (step_change hreach.consistent hreach.inFlight h).intents hreach.consistent

/-- Where the row of an intent comes from, for a step of the system. -/
theorem step_intent (hreach : Reachable env w) (h : World.step env w action = some w')
    (hi' : w'.db.getPaymentIntent id = some i') :
    (∃ i, w.db.getPaymentIntent id = some i ∧ IntentStep env w action i i') ∨
      (w.db.getPaymentIntent id = none ∧ Inserted env w.db action i' w'.db) :=
  (step_intents hreach h).intent hi'

/-- A new intent waits in the queue, and nothing is linked to it. -/
lemma Inserted.fresh (h : Inserted env w.db action i db') :
    i.state = .queued ∧ i.providerPaymentId = none := by
  obtain ⟨_, _, _, intent, -, hintends, -, rfl⟩ := h
  obtain ⟨_, _, _, -, -, -, rfl⟩ := hintends
  exact ⟨rfl, rfl⟩

end IntentStep

end Pactra
