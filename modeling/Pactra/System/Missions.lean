import Pactra.PaymentExecutor.Effects.Outcomes
import Pactra.System.PaymentStates

/-!
# Missions and their payments

A mission and its payment are two rows, moved by separate functions. They stay coupled: the state
of a mission that has an intent is determined by the state of the intent.

## Main results

- `Change.coupled` — every change keeps missions and payments coupled
- `mission_payment_coupled` — they are coupled in every committed state
-/

namespace Pactra

open PaymentExecutor

variable {env : Env} {actions : List Action} {w w' : World} {db db' : Db}

/-- The states of a mission that is being paid or was. -/
def MissionState.IsPayment (s : MissionState) : Prop :=
  s = .paymentPending ∨ s = .paymentSucceeded ∨ s = .paymentFailed

/-- The mission of an intent is in the state that goes with the payment, and a mission without an
intent is in no payment state. -/
structure MissionsCoupled (db : Db) : Prop where
  paid : ∀ i ∈ db.paymentIntents, ∀ m ∈ db.missions, m.id = i.missionId →
    m.state = missionStateOf i.state
  unpaid : ∀ m ∈ db.missions, (∀ i ∈ db.paymentIntents, i.missionId ≠ m.id) → ¬m.state.IsPayment

lemma MissionsCoupled.of_eq (h : MissionsCoupled db) (hm : db'.missions = db.missions)
    (hi : db'.paymentIntents = db.paymentIntents) : MissionsCoupled db' := by
  refine ⟨?_, ?_⟩
  · rw [hm, hi]
    exact h.paid
  · rw [hm, hi]
    exact h.unpaid

/-- A mission has at most one intent. -/
lemma Consistent.intent_unique (hc : Consistent env db) {i j : PaymentIntentRow}
    (hi : i ∈ db.paymentIntents) (hj : j ∈ db.paymentIntents) (h : i.missionId = j.missionId) :
    i = j := by
  obtain ⟨a, ha, hpays⟩ := hc.paying i hi
  have hpays' := hc.pays hj ha (hpays.missionId.symm.trans h)
  exact hc.intentAuthorizations.eq_of_key hi hj
    (hpays.authorizationId.trans hpays'.authorizationId.symm)

/-- A mission whose authorization is not consumed has no intent. -/
lemma Consistent.no_intent (hc : Consistent env db) {a : AuthorizationRow}
    (ha : a ∈ db.authorizations) (hs : a.status ≠ .consumed) :
    ∀ i ∈ db.paymentIntents, i.missionId ≠ a.missionId := by
  intro i hi hm
  exact hs (hc.pays hi ha hm.symm).status

/-- The rows of an intent and its mission after a unit of work. -/
lemma MissionsCoupled.committed (h : MissionsCoupled db) (hc : Consistent env db)
    {i : PaymentIntentRow} {u : UnitOfWork} (hi : db.getPaymentIntent i.id = some i)
    (hterms : u.intent.terms = i.terms)
    (hm : u.mission.map Mission.terms = (db.getMission i.missionId).map Mission.terms)
    (hcoupled : Coupled u) (hcommit : Committed u db db') : MissionsCoupled db' := by
  have hmem := Table.mem_of_find hi
  have hid := PaymentIntentRow.id_of_terms hterms
  have hmission := PaymentIntentRow.missionId_of_terms hterms
  have hintents : ∀ j ∈ db'.paymentIntents, j = u.intent ∨ j ∈ db.paymentIntents ∧ j.id ≠ i.id := by
    intro j hj
    rw [hcommit.paymentIntents, hid] at hj
    obtain ⟨x, hx, rfl⟩ := Table.mem_update.mp hj
    by_cases hxi : x.id = i.id
    · exact .inl (if_pos hxi)
    · rw [if_neg hxi]
      exact .inr ⟨hx, hxi⟩
  have hmissions : ∀ m ∈ db'.missions, (m.id = i.missionId → m.state = missionStateOf u.intent.state) ∧
      (m.id ≠ i.missionId → m ∈ db.missions) := by
    have hrows := hcommit.missions
    cases hu : u.mission with
    | none =>
      rw [hu] at hrows hm
      intro m hmem'
      rw [hrows] at hmem'
      refine ⟨fun heq => ?_, fun _ => hmem'⟩
      -- the mission of the intent would have been loaded
      have hget := hc.mem_mission.mp hmem'
      rw [heq] at hget
      simp [hget] at hm
    | some m' =>
      rw [hu] at hrows hm
      dsimp only at hrows
      cases hget : db.getMission i.missionId with
      | none => simp [hget] at hm
      | some m₀ =>
        have hterms' : m'.terms = m₀.terms := by simpa [hget] using hm
        have hid' : m'.id = i.missionId :=
          (Mission.id_of_terms hterms').trans (Table.key_of_find hget)
        intro m hmem'
        rw [hrows] at hmem'
        obtain ⟨x, hx, rfl⟩ := Table.mem_update.mp hmem'
        by_cases hxm : x.id = m'.id
        · rw [if_pos hxm]
          exact ⟨fun _ => hcoupled m' hu, fun hne => absurd hid' hne⟩
        · rw [if_neg hxm]
          exact ⟨fun heq => absurd (heq.trans hid'.symm) hxm, fun _ => hx⟩
  have hown : u.intent ∈ db'.paymentIntents := by
    rw [hcommit.paymentIntents]
    exact Table.mem_update.mpr ⟨i, hmem, (if_pos hid.symm).symm⟩
  refine ⟨fun j hj m hm' hmj => ?_, fun m hm' hnone => ?_⟩
  · rcases hintents j hj with rfl | ⟨hj', hne⟩
    · exact (hmissions m hm').1 (hmj.trans hmission)
    · have hother : m.id ≠ i.missionId := fun heq =>
        hne (congrArg PaymentIntentRow.id (hc.intent_unique hj' hmem (hmj.symm.trans heq)))
      exact h.paid j hj' m ((hmissions m hm').2 hother) hmj
  · have hother : m.id ≠ i.missionId := fun heq =>
      hnone u.intent hown (hmission.trans heq.symm)
    refine h.unpaid m ((hmissions m hm').2 hother) fun j hj hjm => ?_
    have hne : j.id ≠ i.id := fun heq =>
      hother (hjm.symm.trans (congrArg PaymentIntentRow.missionId (hc.paymentIntents.eq_of_key hj hmem heq)))
    refine hnone j ?_ hjm
    rw [hcommit.paymentIntents, hid]
    exact Table.mem_update.mpr ⟨j, hj, (if_neg hne).symm⟩

/-- The mission that a transaction loads next to an intent is coupled with it. -/
lemma MissionsCoupled.locked (h : MissionsCoupled db) {i : PaymentIntentRow}
    (hi : i ∈ db.paymentIntents) : Coupled (World.lockIntent db i) := by
  intro m hm
  exact h.paid i hi m (Table.mem_of_find hm) (Table.key_of_find hm)

lemma Handled.coupled {ctx : TurnContext} {p : TurnPhase} {u u' : UnitOfWork} {e e' : OutboxEventRow}
    (h : Handled ctx p u e u' e') (hu : Coupled u) : Coupled u' := by
  cases h with
  | create h => exact h.coupled hu
  | reconcile _ h => exact h.coupled hu

/-- Every change keeps missions and payments coupled. -/
theorem Change.coupled (hc : Consistent env w.db) {action : Action} (h : Change env w action db')
    (hm : MissionsCoupled w.db) : MissionsCoupled db' := by
  cases h with
  | kept => exact hm.of_eq rfl rfl
  | planned _ _ _ h =>
    obtain ⟨d, hplanning, houtcome, -⟩ := h
    have hfresh : ∀ i ∈ w.db.paymentIntents, i.missionId ≠ d.mission.id := by
      intro i hi heq
      obtain ⟨a, ha, hpays⟩ := hc.paying i hi
      obtain ⟨m, hmem, hid, -⟩ := (hc.backed a ha).mission
      have hget := hc.mem_mission.mp hmem
      rw [hid, ← hpays.missionId, heq] at hget
      cases hplanning.fresh.symm.trans hget
    refine ⟨fun i hi m hmem hid => ?_, fun m hmem hnone => ?_⟩
    · rw [hplanning.paymentIntents] at hi
      rw [hplanning.missions] at hmem
      rcases List.mem_append.mp hmem with hmem | hmem
      · exact hm.paid i hi m hmem hid
      · rw [List.mem_singleton.mp hmem] at hid
        exact absurd hid.symm (hfresh i hi)
    · rw [hplanning.paymentIntents] at hnone
      rw [hplanning.missions] at hmem
      rcases List.mem_append.mp hmem with hmem | hmem
      · exact hm.unpaid m hmem hnone
      · rw [List.mem_singleton.mp hmem]
        cases houtcome with
        | denied hs | refused hs | awaiting _ hs | authorized _ hs =>
          simp [MissionState.IsPayment, hs]
  | aftermath _ _ h =>
    cases h with
    | kept => exact hm
    | recorded _ _ _ _ _ happ => exact hm.of_eq happ.rows.missions happ.rows.paymentIntents
    | ended _ _ _ _ _ _ _ _ happ => exact hm.of_eq happ.rows.missions happ.rows.paymentIntents
  | activated k a entry _ _ db₁ ha hstatus _ happ =>
    have hmem := Table.mem_of_find ha
    have hnone := hc.no_intent hmem (by simp [hstatus])
    have hrows := happ.rows
    have hintents : db₁.paymentIntents = w.db.paymentIntents := hrows.paymentIntents
    have hmissions : db₁.missions = w.db.missions := hrows.missions
    refine ⟨fun i hi m hm' hid => ?_, fun m hm' hnone' => ?_⟩
    · have hi' : i ∈ w.db.paymentIntents := hintents ▸ hi
      obtain ⟨x, hx, rfl⟩ := Table.mem_update.mp hm'
      have hne : x.id ≠ a.missionId := by
        intro heq
        rw [if_pos heq] at hid
        exact hnone i hi' (hid.symm.trans heq)
      rw [if_neg hne] at hid ⊢
      exact hm.paid i hi' x (hmissions ▸ hx) hid
    · obtain ⟨x, hx, rfl⟩ := Table.mem_update.mp hm'
      by_cases heq : x.id = a.missionId
      · rw [if_pos heq]
        simp [MissionState.IsPayment]
      · rw [if_neg heq] at hnone' ⊢
        exact hm.unpaid x (hmissions ▸ hx) fun i hi => hnone' i (hintents.symm ▸ hi)
  | created k args t intent _ hi h =>
    obtain ⟨a, ha, hactive, -⟩ := h.authorization
    have hpays := hi.pays hc ha
    have hmission : a.missionId = args.missionId := by
      obtain ⟨a', _, _, ha', hm', -⟩ := hi
      rw [Option.some.inj (ha.symm.trans ha')]
      exact hm'
    have hnone := hc.no_intent (Table.mem_of_find ha) (by simp [hactive])
    have hintent : intent.missionId = args.missionId := by
      obtain ⟨a', id, createdAt, -, -, -, rfl⟩ := hi
      rfl
    rw [hmission] at hnone
    refine ⟨fun i hi' m hm' hid => ?_, fun m hm' hnone' => ?_⟩
    · rw [h.paymentIntents] at hi'
      rw [h.missions] at hm'
      obtain ⟨x, hx, rfl⟩ := Table.mem_update.mp hm'
      rcases List.mem_append.mp hi' with hi' | hi'
      · have hne : x.id ≠ args.missionId := by
          intro heq
          rw [if_pos heq] at hid
          exact hnone i hi' (hid.symm.trans heq)
        rw [if_neg hne] at hid ⊢
        exact hm.paid i hi' x hx hid
      · rw [List.mem_singleton.mp hi'] at hid ⊢
        have heq : x.id = args.missionId := by
          by_contra hne
          rw [if_neg hne] at hid
          exact hne (hid.trans hintent)
        rw [if_pos heq]
        rfl
    · rw [h.missions] at hm'
      rw [h.paymentIntents] at hnone'
      obtain ⟨x, hx, rfl⟩ := Table.mem_update.mp hm'
      have hne : x.id ≠ args.missionId := by
        intro heq
        rw [if_pos heq] at hnone'
        exact hnone' { intent with state := .queued } (by simp) (hintent.trans heq.symm)
      rw [if_neg hne] at hnone' ⊢
      exact hm.unpaid x hx fun i hi => hnone' i (List.mem_append_left _ hi)
  | reused _ _ _ _ _ _ _ happ => exact hm.of_eq happ.rows.missions happ.rows.paymentIntents
  | claimed => exact hm.of_eq rfl rfl
  | recovered => exact hm.of_eq rfl rfl
  | fenced k i fence hi =>
    have hsame : ∀ j ∈ (w.db.updatePaymentIntent i.id
        (fun _ => { i with providerCreateFencedAt := fence })).paymentIntents,
        ∃ j' ∈ w.db.paymentIntents, j'.missionId = j.missionId ∧ j'.state = j.state := by
      intro j hj
      obtain ⟨x, hx, rfl⟩ := Table.mem_update.mp hj
      split
      · exact ⟨i, Table.mem_of_find hi, rfl, rfl⟩
      · exact ⟨x, hx, rfl, rfl⟩
    refine ⟨fun j hj m hmem hid => ?_, fun m hmem hnone => ?_⟩
    · obtain ⟨j', hj', hmj, hs⟩ := hsame j hj
      rw [← hs]
      exact hm.paid j' hj' m hmem (hid.trans hmj.symm)
    · refine hm.unpaid m hmem fun j hj hjm => ?_
      by_cases hid : j.id = i.id
      · obtain rfl := hc.paymentIntents.eq_of_key hj (Table.mem_of_find hi) hid
        exact hnone _ (Table.mem_update.mpr ⟨j, hj, (if_pos rfl).symm⟩) hjm
      · exact hnone j (Table.mem_update.mpr ⟨j, hj, (if_neg hid).symm⟩) hjm
  | handled k lookup create turn event i t _ _ _ _ hi hprov h hcommit =>
    have hmoves := (h.moves (hc.committable i (Table.mem_of_find hi)) hprov).2
    have hid : w.db.getPaymentIntent i.id = some i := by rwa [Table.key_of_find hi]
    exact hm.committed hc hid hmoves.terms h.mission (h.coupled (hm.locked (Table.mem_of_find hi)))
      hcommit
  | delivered _ event _ i u _ _ hi h hcommit =>
    have hmem := List.mem_of_find?_eq_some hi
    have hnamed : i.provider = event.provider ∧ i.providerPaymentId = some event.providerPaymentId := by
      simpa using List.find?_some hi
    have hmoves := (h.moves (hc.committable i hmem) hnamed.2).2
    exact hm.committed hc (hc.mem_intent.mp hmem) hmoves.terms h.mission
      (h.coupled (hm.locked hmem)) hcommit

lemma exec_coupled (h : World.exec env actions = some w) : MissionsCoupled w.db := by
  have hboth : Reachable env w ∧ MissionsCoupled w.db := by
    refine Runs.invariant (I := fun w : World => Reachable env w ∧ MissionsCoupled w.db) ?_
      ⟨reachable_init env, ⟨fun i hi => (by cases hi), fun m hm => (by cases hm)⟩⟩ h
    intro v action v' ⟨hreach, hm⟩ hs
    exact ⟨(hreach.step hs).1,
      (step_change hreach.consistent hreach.inFlight hs).coupled hreach.consistent hm⟩
  exact hboth.2

/-- In every committed state, a mission with an intent is PAYMENT_PENDING exactly while the payment
is not settled, PAYMENT_SUCCEEDED exactly if it succeeded and PAYMENT_FAILED exactly if it failed
terminally; a mission without an intent is in none of these states. -/
theorem mission_payment_coupled (h : World.exec env actions = some w) :
    (∀ i ∈ w.db.paymentIntents, ∀ m ∈ w.db.missions, m.id = i.missionId →
      (m.state = .paymentPending ↔ i.state.isTerminal = false) ∧
      (m.state = .paymentSucceeded ↔ i.state = .succeeded) ∧
      (m.state = .paymentFailed ↔ i.state = .failedTerminal)) ∧
    ∀ m ∈ w.db.missions, (∀ i ∈ w.db.paymentIntents, i.missionId ≠ m.id) →
      m.state ≠ .paymentPending ∧ m.state ≠ .paymentSucceeded ∧ m.state ≠ .paymentFailed := by
  have hm := exec_coupled h
  refine ⟨fun i hi m hmem hid => ?_, fun m hmem hnone => ?_⟩
  · have hcommittable := (exec_reachable h).consistent.committable i hi
    rw [hm.paid i hi m hmem hid]
    have hstate := hcommittable.state
    cases hs : i.state <;> simp [hs, missionStateOf, PaymentIntentState.isTerminal] at hstate ⊢
  · simpa [MissionState.IsPayment] using hm.unpaid m hmem hnone

lemma Sample.paid_mission : (World.exec Sample.env Sample.paid).map (fun w =>
    w.db.missions.map Mission.state) = some [.paymentSucceeded] := by decide +kernel

theorem mission_payment_coupled_paid : ∃ w, World.exec Sample.env Sample.paid = some w ∧
    w.db.missions.map Mission.state = [.paymentSucceeded] ∧
    ∀ i ∈ w.db.paymentIntents, ∀ m ∈ w.db.missions, m.id = i.missionId →
      (m.state = .paymentSucceeded ↔ i.state = .succeeded) := by
  obtain ⟨w, hw, hstates⟩ := Option.map_eq_some_iff.mp Sample.paid_mission
  refine ⟨w, hw, hstates, fun i hi m hm hid => ?_⟩
  exact ((mission_payment_coupled hw).1 i hi m hm hid).2.1

end Pactra
