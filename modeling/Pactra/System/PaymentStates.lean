import Pactra.System.Observations

/-!
# Committed payment states

What can be read off the committed rows of a payment intent: the states it can be in, how they
follow each other, and that a provider ambiguity, once committed, is final.

## Main results

- `committed_payment_states` — the committed states of an intent, and the paths between them
- `ambiguity_permanent` — nothing moves an intent with a committed ambiguity mark, and no create is
  made for it

The module starts with the runs that the statements about runs are tried on.
-/

namespace Pactra

open PaymentExecutor

-- ════════════════════════════════════════════════════════════════════════
-- Sample runs
-- ════════════════════════════════════════════════════════════════════════

namespace Sample

/-- Surroundings with counting identifiers and a clock that stands still. -/
def env : Env where
  uuid4 n := ⟨toString n⟩
  utcnow _ := 0
  tokenHex _ := String.ofList (List.replicate 64 '0')
  upper := id
  upper_upper := upper_id
  repr s := s
  floatRepr q := toString q.num
  pyStr _ := ""
  ed25519Verify _ _ _ := true
  demoApproverSigningKeyId := "demo-approver"
  demoApproverPublicKeyHex := none
  authorizationTtlSeconds := 900
  createRetriesAreIdempotent provider := decide (provider = "fake")

/-- A mission with a budget of 100 and a limit of 200. -/
def request : CreateMissionRequest where
  rawQuery := none
  quantity := 1
  constraints := ⟨"headphones", 100, 200, 0, "INR", none, [], 0, hundred_pos, hundred_le_twoHundred⟩
  quantity_range := single_item

/-- One merchant's offer, at a given price. -/
def quotes (price : Rat) (h : 0 ≤ price) : List AuthenticatedQuote :=
  [⟨⟨"m", "m", "M", 1, true⟩, [⟨"m", "p", "t", "d", price, "INR", 4, true, 0, [], h⟩]⟩]

/-- A payment request for the mission. -/
def args (provider : String) : PaymentArgs := ⟨⟨"0"⟩, ⟨"22"⟩, "key", provider, 0⟩

/-- A mission within budget, and a payment request that commits its intent. -/
def order (provider : String) : List Action :=
  [.runMission request (quotes 50 fifty_nonneg), .openRequest (args provider) false] ++
    List.replicate 5 (.requestStep 0)

/-- The intent of the order. -/
def intentId : Uuid := ⟨"28"⟩

/-- A worker turn up to its handler. -/
def claim (k : Nat) (provider : String) : List Action :=
  [.startTurn "worker" provider 0 60, .claimPostgres k [], .loadEvent k]

/-- A payment as the provider reports it. -/
def payment (provider providerPaymentId : String) (status : ProviderPaymentStatus)
    (h : providerPaymentId ≠ "") : ProviderPayment where
  provider := provider
  providerPaymentId := providerPaymentId
  status := status
  amountInr := 50
  currency := "INR"
  idempotencyKey := some "key"
  providerOrderId := none
  providerTransactionId := none
  providerReceipt := none
  providerStatus := none
  providerAttempts := none
  providerPaymentId_ne := h

lemma pay_1_ne : "pay_1" ≠ "" := by decide

/-- An order whose payment the provider creates and reports as succeeded. -/
def paid : List Action :=
  order "fake" ++ claim 0 "fake" ++
    [.handle 0 .notFound (.payment (payment "fake" "pay_1" .succeeded pay_1_ne))]

/-- The webhook that says the payment succeeded. -/
def succeeded : VerifiedWebhookEvent where
  provider := "fake"
  providerEventId := "evt_1"
  eventType := .paymentSucceeded
  providerPaymentId := "pay_1"
  providerOrderId := none
  providerTransactionId := none
  amountInr := none
  currency := none
  providerStatus := none
  providerAttempts := none
  sequence := none

/-- An order for whose key the provider reports several payments. -/
def ambiguous : List Action :=
  order "fake" ++ claim 0 "fake" ++
    [.handle 0 (.failed ⟨.ambiguity, "fake", "two payments"⟩) (.raised .integrityError)]

/-- A later lookup that finds one of them. -/
def settledLater : List Action :=
  claim 1 "fake" ++
    [.handle 1 (.found (payment "fake" "pay_1" .succeeded pay_1_ne)) (.raised .integrityError)]

end Sample

-- ════════════════════════════════════════════════════════════════════════
-- States
-- ════════════════════════════════════════════════════════════════════════

variable {env : Env} {actions more : List Action} {w w' : World}

/-- In every committed state no intent is CREATED, PROCESSING or CANCELLED, an intent that is QUEUED
or FAILED_RETRYABLE has no provider reference, and later states are reached along the transition
table, from SUCCEEDED and FAILED_TERMINAL none. -/
theorem committed_payment_states (h : World.exec env actions = some w) :
    (∀ i ∈ w.db.paymentIntents,
      i.state ≠ .created ∧ i.state ≠ .processing ∧ i.state ≠ .cancelled ∧
      (i.state = .queued ∨ i.state = .failedRetryable →
        i.providerPaymentId = none ∧ i.providerOrderId = none ∧ i.providerReceipt = none ∧
          i.providerTransactionId = none)) ∧
    ∀ more w', Runs.run (World.step env) w more = some w' →
      ∀ i ∈ w.db.paymentIntents, ∃ i' ∈ w'.db.paymentIntents, i'.id = i.id ∧
        PaymentIntentState.Path i.state i'.state ∧
        (i.state = .succeeded ∨ i.state = .failedTerminal → i'.state = i.state) := by
  have hreach := exec_reachable h
  have hc := hreach.consistent
  refine ⟨fun i hi => ?_, fun more w' hrun i hi => ?_⟩
  · have hcommittable := hc.committable i hi
    obtain ⟨h₁, h₂, h₃⟩ := hcommittable.state
    refine ⟨h₁, h₂, h₃, fun hs => ?_⟩
    simpa [PaymentIntentRow.Unlinked, PaymentIntentRow.references] using hcommittable.unlinked hs
  · obtain ⟨i', hi', hmoves⟩ := (run_grows hreach hrun).paymentIntents _ _ (hc.mem_intent.mp hi)
    refine ⟨i', Table.mem_of_find hi', Table.key_of_find hi', hmoves.path, fun hs => ?_⟩
    refine hmoves.path.eq_of_isTerminal ?_
    rcases hs with hs | hs <;> rw [hs] <;> rfl

lemma Sample.paid_states : (World.exec Sample.env Sample.paid).map (fun w =>
    w.db.paymentIntents.map PaymentIntentRow.state) = some [.succeeded] := by decide +kernel

theorem committed_payment_states_paid : ∃ w, World.exec Sample.env Sample.paid = some w ∧
    w.db.paymentIntents.map PaymentIntentRow.state = [.succeeded] ∧
    ∀ more w', Runs.run (World.step Sample.env) w more = some w' →
      ∀ i ∈ w.db.paymentIntents, ∃ i' ∈ w'.db.paymentIntents, i'.id = i.id ∧
        PaymentIntentState.Path i.state i'.state ∧
        (i.state = .succeeded ∨ i.state = .failedTerminal → i'.state = i.state) := by
  obtain ⟨w, hw, hstates⟩ := Option.map_eq_some_iff.mp Sample.paid_states
  exact ⟨w, hw, hstates, (committed_payment_states hw).2⟩

-- ════════════════════════════════════════════════════════════════════════
-- Ambiguity
-- ════════════════════════════════════════════════════════════════════════

/-- A step never creates a payment for an intent that carries the ambiguity mark. -/
lemma not_create_of_marked (hreach : Reachable env w) {action : Action} {i : PaymentIntentRow}
    {id : Uuid} (hi : w.db.getPaymentIntent id = some i) (hm : i.providerAmbiguityObservedAt ≠ none)
    {k : Nat} {request : PaymentRequest} :
    ¬Observed env w action (.createPayment k id request) := by
  intro ho
  obtain ⟨_, _, _, event, j, -, -, hj, hid, -, hcreates⟩ := ho.create
  have hkey : j.id = event.paymentIntentId := Table.key_of_find hj
  rw [← hkey, hid, hi] at hj
  obtain rfl := Option.some.inj hj
  -- a marked intent is PROVIDER_PENDING, and creates are for unstarted ones
  have hs := (hreach.consistent.committable i (Table.mem_of_find hi)).ambiguous hm
  rcases hcreates.permitted with ⟨-, hu⟩ | ⟨-, hq⟩
  · rw [hs] at hu
    simp [unstarted] at hu
  · rw [hs] at hq
    cases hq

/-- Since a given trace, an intent has carried the ambiguity mark and no create was made for it. -/
structure Held (env : Env) (id : Uuid) (before : List Observation) (w : World) : Prop where
  reachable : Reachable env w
  marked : ∃ i, w.db.getPaymentIntent id = some i ∧ i.providerAmbiguityObservedAt ≠ none
  noCreate : ∃ new, w.trace = before ++ new ∧ ∀ k request, .createPayment k id request ∉ new

lemma Held.step {id : Uuid} {before : List Observation} (h : Held env id before w)
    {action : Action} (hstep : World.step env w action = some w') : Held env id before w' := by
  obtain ⟨hreach, ⟨i, hi, hm⟩, new, htrace, hnone⟩ := h
  obtain ⟨hreach', hgrows⟩ := hreach.step hstep
  obtain ⟨i', hi', hmoves⟩ := hgrows.paymentIntents _ _ hi
  refine ⟨hreach', ⟨i', hi', by rwa [(hmoves.ambiguity hm).1]⟩, ?_⟩
  rcases step_trace hstep with heq | ⟨o, heq, ho⟩
  · exact ⟨new, heq.trans htrace, hnone⟩
  · refine ⟨new ++ [o], by rw [heq, htrace, List.append_assoc], fun k request hmem => ?_⟩
    rcases List.mem_append.mp hmem with hmem | hmem
    · exact hnone k request hmem
    · obtain rfl := List.mem_singleton.mp hmem
      exact not_create_of_marked hreach hi hm ho

/-- Once an ambiguity mark is committed, every later committed state has the same mark and the same
references, in PROVIDER_PENDING, and no create is made for the intent any more. -/
theorem ambiguity_permanent (h : World.exec env actions = some w)
    (hrun : Runs.run (World.step env) w more = some w') {id : Uuid} {i : PaymentIntentRow}
    {observedAt : Datetime} (hi : w.db.getPaymentIntent id = some i)
    (hm : i.providerAmbiguityObservedAt = some observedAt) :
    (∃ i', w'.db.getPaymentIntent id = some i' ∧
      i'.providerAmbiguityObservedAt = some observedAt ∧ i'.state = .providerPending ∧
      i'.providerPaymentId = i.providerPaymentId ∧ i'.providerOrderId = i.providerOrderId ∧
      i'.providerReceipt = i.providerReceipt ∧
      i'.providerTransactionId = i.providerTransactionId) ∧
    ∃ new, w'.trace = w.trace ++ new ∧ ∀ k request, .createPayment k id request ∉ new := by
  have hreach := exec_reachable h
  have hmark : i.providerAmbiguityObservedAt ≠ none := by simp [hm]
  have hstart : Held env id w.trace w := ⟨hreach, ⟨i, hi, hmark⟩, [], by simp, by simp⟩
  have hend : Held env id w.trace w' := Runs.invariant (fun _ _ _ hv hs => hv.step hs) hstart hrun
  refine ⟨?_, hend.noCreate⟩
  obtain ⟨i', hi', hmoves⟩ := (run_grows hreach hrun).paymentIntents _ _ hi
  obtain ⟨hsame, hrefs⟩ := hmoves.ambiguity hmark
  have hs := (hend.reachable.consistent.committable i' (Table.mem_of_find hi')).ambiguous
    (hsame ▸ hmark)
  simp only [PaymentIntentRow.references, Prod.mk.injEq] at hrefs
  exact ⟨i', hi', hsame.trans hm, hs, hrefs⟩

lemma Sample.ambiguous_mark : ((World.exec Sample.env Sample.ambiguous).map fun w =>
    ((w.db.getPaymentIntent Sample.intentId).map PaymentIntentRow.providerAmbiguityObservedAt,
      (Runs.run (World.step Sample.env) w Sample.settledLater).isSome)) =
    some (some (some 0), true) := by decide +kernel

theorem ambiguity_permanent_settledLater :
    ∃ w w' i', World.exec Sample.env Sample.ambiguous = some w ∧
      Runs.run (World.step Sample.env) w Sample.settledLater = some w' ∧
      w'.db.getPaymentIntent Sample.intentId = some i' ∧
      i'.providerAmbiguityObservedAt = some 0 ∧ i'.state = .providerPending := by
  obtain ⟨w, hw, hmark⟩ := Option.map_eq_some_iff.mp Sample.ambiguous_mark
  obtain ⟨hmark, hlater⟩ := Prod.mk.inj hmark
  obtain ⟨i, hi, hm⟩ := Option.map_eq_some_iff.mp hmark
  obtain ⟨w', hw'⟩ := Option.isSome_iff_exists.mp hlater
  obtain ⟨⟨i', hi', hm', hs, -⟩, -⟩ := ambiguity_permanent hw hw' hi hm
  exact ⟨w, w', i', hw, hw', hi', hm', hs⟩

end Pactra
