import Pactra.System.Intents
import Pactra.System.PaymentStates

/-!
# Settlement against an adversarial provider

The provider may answer anything, at any entry point and in any order. What a run can rely on is the
reference of the provider payment: it is written once, from an answer that names the intent, it
belongs to no other intent, and a payment succeeds only on an answer or a webhook about it.

## Main results

- `IntentStep.links`, `IntentStep.succeeds` — what one step can do to the reference and the outcome
- `settlement_sound` — the guarantee, over every run
-/

namespace Pactra

open PaymentExecutor

-- ════════════════════════════════════════════════════════════════════════
-- Steps
-- ════════════════════════════════════════════════════════════════════════

/-- A step that processes a provider answer about the intent's payment that says it succeeded, or a
webhook that does. -/
def Settling (action : Action) (i : PaymentIntentRow) : Prop :=
  (∃ k lookup create payment, action = .handle k lookup create ∧ Answers lookup create payment ∧
    payment.status = .succeeded ∧ i.providerPaymentId = some payment.providerPaymentId) ∨
  ∃ provider event now, action = .webhook provider event now ∧
    event.eventType = .paymentSucceeded ∧ event.provider = i.provider ∧
    i.providerPaymentId = some event.providerPaymentId

section Steps

variable {env : Env} {w w' : World} {action : Action} {i i' : PaymentIntentRow}

lemma Handled.links {ctx : TurnContext} {p : TurnPhase} {u u' : UnitOfWork} {e e' : OutboxEventRow}
    (h : Handled ctx p u e u' e') (hu : Committable ctx.env u.intent) :
    Links ctx.lookup ctx.create u.intent u'.intent := by
  cases h with
  | create h => exact h.links hu
  | reconcile _ h => exact h.links hu

lemma Handled.succeeds {ctx : TurnContext} {p : TurnPhase} {u u' : UnitOfWork}
    {e e' : OutboxEventRow} (h : Handled ctx p u e u' e') :
    Succeeds ctx.lookup ctx.create u.intent u'.intent := by
  cases h with
  | create h => exact h.succeeds
  | reconcile _ h => exact h.succeeds

/-- A step keeps the reference, or writes it from an answer that names the intent. -/
lemma IntentStep.links (h : IntentStep env w action i i') (hc : Consistent env w.db) :
    i'.providerPaymentId = i.providerPaymentId ∨
      (i.providerPaymentId = none ∧ ∃ k lookup create payment, action = .handle k lookup create ∧
        Answers lookup create payment ∧ Names payment i ∧
        i'.providerPaymentId = some payment.providerPaymentId) := by
  cases h with
  | kept => exact .inl rfl
  | fenced => exact .inl rfl
  | handled k lookup create turn event e' _ u _ hi _ h =>
    rcases h.links (hc.committable i (Table.mem_of_find hi)) with hsame | ⟨hnone, payment, hlink⟩
    · exact .inl hsame
    · exact .inr ⟨hnone, k, lookup, create, payment, rfl, hlink⟩
  | delivered _ _ _ _ u _ _ h => exact .inl h.paymentId

/-- A payment that succeeds in a step does so on an answer or a webhook about its reference. -/
lemma IntentStep.succeeds (h : IntentStep env w action i i') (hs : i.state ≠ .succeeded)
    (hs' : i'.state = .succeeded) : Settling action i' := by
  cases h with
  | kept => exact absurd hs' hs
  | fenced => exact absurd hs' hs
  | handled k lookup create turn event e' _ u _ _ _ h =>
    obtain ⟨payment, ha, hstatus, hid⟩ := (h.succeeds hs').resolve_left hs
    exact .inl ⟨k, lookup, create, payment, rfl, ha, hstatus, hid⟩
  | delivered provider event now _ u _ hi h =>
    obtain ⟨-, hprov, hid⟩ := findIntent_some hi
    have htype := (h.succeeds hs').resolve_left hs
    refine .inr ⟨provider, event, now, rfl, htype, ?_, h.paymentId.trans hid⟩
    have hterms : u.intent.provider = i.provider := by
      cases h with
      | applied target =>
        unfold withSettledMission
        split <;> rfl
      | _ => rfl
    rw [hterms, hprov]

/-- A reference belongs to one intent only. -/
def ReferencesDistinct (db : Db) : Prop :=
  ∀ i ∈ db.paymentIntents, ∀ j ∈ db.paymentIntents, i.providerPaymentId ≠ none →
    i.providerPaymentId = j.providerPaymentId → i.id = j.id

lemma not_referenceTaken {db : Db} {i : PaymentIntentRow} (h : referenceTaken db i = false)
    (hne : i.providerPaymentId ≠ none) :
    ∀ j ∈ db.paymentIntents, i.providerPaymentId = j.providerPaymentId → i.id = j.id := by
  intro j hj heq
  by_contra hid
  have hnot := List.any_eq_false.mp h j hj
  simp only [decide_eq_true_eq] at hnot
  exact hnot ⟨fun h => hid h.symm, .inl ⟨hne, heq.symm⟩⟩

/-- A row that is committed with a reference was checked against all others. -/
lemma IntentStep.distinct (h : IntentStep env w action i i')
    (hd : ReferencesDistinct w.db) (hi : i ∈ w.db.paymentIntents)
    (hne : i'.providerPaymentId ≠ none) :
    ∀ j ∈ w.db.paymentIntents, i'.providerPaymentId = j.providerPaymentId → i'.id = j.id := by
  intro j hj heq
  cases h with
  | kept => exact hd i hi j hj hne heq
  | fenced => exact hd i hi j hj hne heq
  | handled _ _ _ _ _ _ _ _ _ _ _ _ hunique => exact not_referenceTaken hunique hne j hj heq
  | delivered _ _ _ _ _ _ _ _ hunique => exact not_referenceTaken hunique hne j hj heq

/-- Every step keeps references apart. -/
theorem ReferencesDistinct.step (hreach : Reachable env w) (hd : ReferencesDistinct w.db)
    (h : World.step env w action = some w') : ReferencesDistinct w'.db := by
  cases step_intents hreach h with
  | kept hrows =>
    unfold ReferencesDistinct
    rw [hrows]
    exact hd
  | moved i i' hi _ hstep hrows =>
    have hmem := Table.mem_of_find hi
    have hrow : ∀ x ∈ w'.db.paymentIntents, x = i' ∨ x ∈ w.db.paymentIntents := by
      intro x hx
      rw [hrows] at hx
      obtain ⟨y, hy, rfl⟩ := Table.mem_update.mp hx
      split
      · exact .inl rfl
      · exact .inr hy
    intro x hx y hy hne heq
    rcases hrow x hx with rfl | hx <;> rcases hrow y hy with rfl | hy
    · rfl
    · exact hstep.distinct hd hmem hne y hy heq
    · exact (hstep.distinct hd hmem (heq ▸ hne) x hx heq.symm).symm
    · exact hd x hx y hy hne heq
  | inserted i hin hrows =>
    have hnone := hin.fresh.2
    intro x hx y hy hne heq
    rw [hrows] at hx hy
    rcases List.mem_append.mp hx with hx | hx <;> rcases List.mem_append.mp hy with hy | hy
    · exact hd x hx y hy hne heq
    · rw [heq, List.mem_singleton.mp hy] at hne
      exact absurd hnone hne
    · rw [List.mem_singleton.mp hx] at hne
      exact absurd hnone hne
    · rw [List.mem_singleton.mp hx, List.mem_singleton.mp hy]

end Steps

-- ════════════════════════════════════════════════════════════════════════
-- Runs
-- ════════════════════════════════════════════════════════════════════════

section Runs

variable {env : Env} {actions : List Action} {w w' : World}

lemma exec_referencesDistinct (h : World.exec env actions = some w) : ReferencesDistinct w.db := by
  have hstart : Reachable env World.init ∧ ReferencesDistinct World.init.db :=
    ⟨reachable_init env, fun i hi => by cases hi⟩
  exact (Runs.invariant (I := fun w => Reachable env w ∧ ReferencesDistinct w.db)
    (fun _ _ _ hi hs => ⟨(hi.1.step hs).1, hi.2.step hi.1 hs⟩) hstart h).2

/-- A reference that was written stays. -/
lemma run_paymentId {more : List Action} (hreach : Reachable env w)
    (hrun : Runs.run (World.step env) w more = some w') {i : PaymentIntentRow}
    (hi : w.db.getPaymentIntent i.id = some i) (hne : i.providerPaymentId ≠ none) :
    ∃ i', w'.db.getPaymentIntent i.id = some i' ∧ i'.providerPaymentId = i.providerPaymentId := by
  have hstep : ∀ s a s', (Reachable env s ∧ ∃ i', s.db.getPaymentIntent i.id = some i' ∧
      i'.providerPaymentId = i.providerPaymentId) → World.step env s a = some s' →
      Reachable env s' ∧ ∃ i', s'.db.getPaymentIntent i.id = some i' ∧
        i'.providerPaymentId = i.providerPaymentId := by
    rintro s a s' ⟨hs, j, hj, hid⟩ hstep
    obtain ⟨hs', hgrows⟩ := hs.step hstep
    obtain ⟨j', hj', -⟩ := hgrows.paymentIntents _ _ hj
    refine ⟨hs', j', hj', ?_⟩
    rcases step_intent hs hstep hj' with ⟨j₀, hj₀, hmove⟩ | ⟨hnone, -⟩
    · obtain rfl := Option.some.inj (hj.symm.trans hj₀)
      rcases hmove.links hs.consistent with hsame | ⟨hnone, -⟩
      · exact hsame.trans hid
      · exact absurd (hid.symm.trans hnone) hne
    · cases hj.symm.trans hnone
  exact (Runs.invariant (I := fun s => Reachable env s ∧ ∃ i', s.db.getPaymentIntent i.id = some i' ∧
    i'.providerPaymentId = i.providerPaymentId) hstep ⟨hreach, i, hi, rfl⟩ hrun).2

/-- A reference was written by a step of the run, from an answer that names the intent. -/
def LinkedIn (env : Env) (actions : List Action) (i : PaymentIntentRow) : Prop :=
  ∃ before k lookup create after w₀ w₁ i₀ i₁ payment,
    actions = before ++ .handle k lookup create :: after ∧ World.exec env before = some w₀ ∧
    World.step env w₀ (.handle k lookup create) = some w₁ ∧
    w₀.db.getPaymentIntent i.id = some i₀ ∧ i₀.providerPaymentId = none ∧
    w₁.db.getPaymentIntent i.id = some i₁ ∧
    i₁.providerPaymentId = some payment.providerPaymentId ∧
    Answers lookup create payment ∧ Names payment i ∧
    i.providerPaymentId = some payment.providerPaymentId

lemma exec_linked (h : World.exec env actions = some w) {i : PaymentIntentRow}
    (hi : w.db.getPaymentIntent i.id = some i) (hne : i.providerPaymentId ≠ none) :
    LinkedIn env actions i := by
  obtain ⟨before, action, after, w₀, w₁, hactions, hbefore, hstep, hafter, hnot, i₁, hi₁, hne₁⟩ :=
    Runs.first_step (p := fun s : World => ∃ j, s.db.getPaymentIntent i.id = some j ∧
      j.providerPaymentId ≠ none) (by rintro ⟨j, hj, -⟩; cases hj) h ⟨i, hi, hne⟩
  have hreach := exec_reachable hbefore
  have hreach₁ := (hreach.step hstep).1
  have hkey : i₁.id = i.id := Table.key_of_find hi₁
  -- the row at the end is a later version of the row that was linked
  obtain ⟨i', hi', hmoves⟩ := (run_grows hreach₁ hafter).paymentIntents _ _ hi₁
  obtain rfl := Option.some.inj (hi.symm.trans hi')
  obtain ⟨i', hi', hid⟩ := run_paymentId hreach₁ hafter (by rwa [hkey]) hne₁
  rw [hkey] at hi'
  obtain rfl := Option.some.inj (hi.symm.trans hi')
  rcases step_intent hreach hstep hi₁ with ⟨i₀, hi₀, hmove⟩ | ⟨-, hin⟩
  · have hnone : i₀.providerPaymentId = none := by
      by_contra hlinked
      exact hnot ⟨i₀, hi₀, hlinked⟩
    rcases hmove.links hreach.consistent with hsame | ⟨-, k, lookup, create, payment, rfl, ha, hn, hp⟩
    · exact absurd (hsame.trans hnone) hne₁
    · obtain ⟨j, hj, hmoves₀⟩ := (hreach.step hstep).2.paymentIntents _ _ hi₀
      obtain rfl := Option.some.inj (hi₁.symm.trans hj)
      exact ⟨before, k, lookup, create, after, w₀, w₁, i₀, i₁, payment, hactions, hbefore, hstep,
        hi₀, hnone, hi₁, hp, ha, hn.of_terms (hmoves.terms.trans hmoves₀.terms), hid.trans hp⟩
  · exact absurd hin.fresh.2 hne₁

/-- A step that lets a payment succeed settles it. -/
lemma step_settling (hreach : Reachable env w) {action : Action}
    (hstep : World.step env w action = some w') {i : PaymentIntentRow}
    (hi : w'.db.getPaymentIntent i.id = some i) (hs : i.state = .succeeded)
    (hnot : ∀ i₀, w.db.getPaymentIntent i.id = some i₀ → i₀.state ≠ .succeeded) :
    Settling action i := by
  rcases step_intent hreach hstep hi with ⟨i₀, hi₀, hmove⟩ | ⟨-, hin⟩
  · exact hmove.succeeds (hnot i₀ hi₀) hs
  · rw [hin.fresh.1] at hs
    cases hs

/-- A succeeded payment is linked. -/
lemma exec_succeeded_linked (h : World.exec env actions = some w) {i : PaymentIntentRow}
    (hi : w.db.getPaymentIntent i.id = some i) (hs : i.state = .succeeded) :
    i.providerPaymentId ≠ none := by
  obtain ⟨before, action, after, w₀, w₁, -, hbefore, hstep, hafter, hnot, i₁, hi₁, hs₁⟩ :=
    Runs.first_step (p := fun s : World => ∃ j, s.db.getPaymentIntent i.id = some j ∧
      j.state = .succeeded) (by rintro ⟨j, hj, -⟩; cases hj) h ⟨i, hi, hs⟩
  have hreach := exec_reachable hbefore
  have hkey : i₁.id = i.id := Table.key_of_find hi₁
  have hsettling := step_settling hreach hstep (by rwa [hkey]) hs₁ fun i₀ hi₀ hs₀ =>
    hnot ⟨i₀, hkey ▸ hi₀, hs₀⟩
  have hne₁ : i₁.providerPaymentId ≠ none := by
    rcases hsettling with ⟨_, _, _, payment, -, -, -, hid⟩ | ⟨_, event, _, -, -, -, hid⟩ <;> simp [hid]
  obtain ⟨i', hi', hid⟩ := run_paymentId (hreach.step hstep).1 hafter (by rwa [hkey]) hne₁
  rw [hkey] at hi'
  obtain rfl := Option.some.inj (hi.symm.trans hi')
  rwa [hid]

/-- Whatever the provider answers, and in whatever order: a payment that succeeded is linked to a
provider payment that an answer reported with the intent's provider, amount, currency and key; a
reference is never rewritten; no two intents hold the same; and a payment succeeds only in a
transaction that processes an answer, or a verified webhook, that reports the success of the linked
payment. -/
theorem settlement_sound (h : World.exec env actions = some w) :
    (∀ i ∈ w.db.paymentIntents, i.state = .succeeded → LinkedIn env actions i) ∧
    (∀ more w', Runs.run (World.step env) w more = some w' → ∀ i ∈ w.db.paymentIntents,
      i.providerPaymentId ≠ none → ∃ i' ∈ w'.db.paymentIntents, i'.id = i.id ∧
        i'.providerPaymentId = i.providerPaymentId) ∧
    (∀ i ∈ w.db.paymentIntents, ∀ j ∈ w.db.paymentIntents, i.provider = j.provider →
      i.providerPaymentId ≠ none → i.providerPaymentId = j.providerPaymentId → i = j) ∧
    ∀ action w', World.step env w action = some w' → ∀ i ∈ w'.db.paymentIntents,
      i.state = .succeeded →
      (∀ i₀ ∈ w.db.paymentIntents, i₀.id = i.id → i₀.state ≠ .succeeded) → Settling action i := by
  have hreach := exec_reachable h
  have hc := hreach.consistent
  refine ⟨fun i hi hs => ?_, fun more w' hrun i hi hne => ?_, fun i hi j hj _ hne heq => ?_,
    fun action w' hstep i hi hs hnot => ?_⟩
  · have hget := hc.mem_intent.mp hi
    exact exec_linked h hget (exec_succeeded_linked h hget hs)
  · obtain ⟨i', hi', hid⟩ := run_paymentId hreach hrun (hc.mem_intent.mp hi) hne
    exact ⟨i', Table.mem_of_find hi', Table.key_of_find hi', hid⟩
  · exact hc.paymentIntents.eq_of_key hi hj (exec_referencesDistinct h i hi j hj hne heq)
  · have hc' := (hreach.step hstep).1.consistent
    refine step_settling hreach hstep (hc'.mem_intent.mp hi) hs fun i₀ hi₀ => ?_
    exact hnot i₀ (Table.mem_of_find hi₀) (Table.key_of_find hi₀)

theorem settlement_sound_paid : ∃ w, World.exec Sample.env Sample.paid = some w ∧
    ∃ i ∈ w.db.paymentIntents, i.state = .succeeded ∧ LinkedIn Sample.env Sample.paid i := by
  obtain ⟨w, hw, hstates⟩ := Option.map_eq_some_iff.mp Sample.paid_states
  have hmem : PaymentIntentState.succeeded ∈ w.db.paymentIntents.map PaymentIntentRow.state := by
    rw [hstates]
    exact List.mem_singleton_self _
  obtain ⟨i, hi, hs⟩ := List.mem_map.mp hmem
  exact ⟨w, hw, i, hi, hs, (settlement_sound hw).1 i hi hs⟩

end Runs

end Pactra
