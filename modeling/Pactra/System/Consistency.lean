import Pactra.System.Commits

/-!
# Consistency of the database

The relations between rows that every committed database of the system keeps, and how one committed
database grows out of another. Each lemma is about one kind of write; which step makes which write
is the subject of `System/Steps.lean`.

## Main results

- `Consistent.updatePaymentIntent`, `Consistent.updateMission`, `Consistent.withOutbox` — the writes
  of a handler keep the database consistent
- `Consistent.settled`, `Consistent.activated`, `Consistent.created`, `Consistent.planned` — so do
  those of the authorization operations, of a payment request and of a new mission
-/

namespace Pactra

open PaymentExecutor AgentOrchestrator

-- ════════════════════════════════════════════════════════════════════════
-- Immutable columns
-- ════════════════════════════════════════════════════════════════════════

/-- The columns of an authorization row that no operation changes. -/
def AuthorizationRow.terms (a : AuthorizationRow) : AuthorizationRow :=
  { a with
    status := .pending, consumedAt := none, signingKeyId := none, approvalSignature := none }

/-- The columns of an outbox row that no operation changes. -/
def OutboxEventRow.terms (e : OutboxEventRow) : OutboxEventRow :=
  { e with
    status := .pending, attempts := 0, availableAt := 0, claimedBy := none, lastError := none,
    processedAt := none }

section Terms

lemma AuthorizationRow.id_of_terms {a a' : AuthorizationRow} (h : a'.terms = a.terms) :
    a'.authorizationId = a.authorizationId := (congrArg AuthorizationRow.authorizationId h :)

lemma AuthorizationRow.missionId_of_terms {a a' : AuthorizationRow} (h : a'.terms = a.terms) :
    a'.missionId = a.missionId := (congrArg AuthorizationRow.missionId h :)

lemma OutboxEventRow.id_of_terms {e e' : OutboxEventRow} (h : e'.terms = e.terms) :
    e'.id = e.id := (congrArg OutboxEventRow.id h :)

lemma OutboxEventRow.paymentIntentId_of_terms {e e' : OutboxEventRow} (h : e'.terms = e.terms) :
    e'.paymentIntentId = e.paymentIntentId := (congrArg OutboxEventRow.paymentIntentId h :)

lemma flushEvent_terms (loaded updated current : OutboxEventRow) :
    (flushEvent loaded updated current).terms = current.terms := rfl

lemma claimedRow_terms (workerId : String) (leaseUntil : Datetime) (row : OutboxEventRow) :
    (claimedRow workerId leaseUntil row).terms = row.terms := rfl

end Terms

-- ════════════════════════════════════════════════════════════════════════
-- Growth
-- ════════════════════════════════════════════════════════════════════════

/-- How one committed database follows another: no row disappears, and each changes only as its
table allows. -/
structure Grows (db db' : Db) : Prop where
  missions : Table.Evolves Mission.id (fun m m' => m'.terms = m.terms) db.missions db'.missions
  missionConstraints : db.missionConstraints ⊆ db'.missionConstraints
  policyDecisions : db.policyDecisions ⊆ db'.policyDecisions
  offers : ∀ o ∈ db.offers, ∃ r, { o with rank := r } ∈ db'.offers
  authorizations : Table.Evolves AuthorizationRow.authorizationId (fun a a' => a'.terms = a.terms)
    db.authorizations db'.authorizations
  paymentIntents : Table.Evolves PaymentIntentRow.id Moves db.paymentIntents db'.paymentIntents
  outboxEvents : Table.Evolves OutboxEventRow.id (fun e e' => e'.terms = e.terms)
    db.outboxEvents db'.outboxEvents

theorem Grows.refl (db : Db) : Grows db db :=
  ⟨.refl (by intro; rfl) _, fun _ h => h, fun _ h => h, fun o h => ⟨o.rank, h⟩,
    .refl (by intro; rfl) _, .refl Moves.refl _, .refl (by intro; rfl) _⟩

theorem Grows.trans {a b c : Db} (h : Grows a b) (h' : Grows b c) : Grows a c where
  missions := h.missions.trans (fun _ _ _ h h' => h'.trans h) h'.missions
  missionConstraints := fun _ hc => h'.missionConstraints (h.missionConstraints hc)
  policyDecisions := fun _ hd => h'.policyDecisions (h.policyDecisions hd)
  offers := by
    intro o ho
    obtain ⟨r, hr⟩ := h.offers o ho
    exact h'.offers { o with rank := r } hr
  authorizations := h.authorizations.trans (fun _ _ _ h h' => h'.trans h) h'.authorizations
  paymentIntents := h.paymentIntents.trans (fun _ _ _ h h' => h.trans h') h'.paymentIntents
  outboxEvents := h.outboxEvents.trans (fun _ _ _ h h' => h'.trans h) h'.outboxEvents

/-- A mission that exists stays. -/
lemma Grows.named {db db' : Db} (h : Grows db db') (hk : Table.Keyed Mission.id db.missions)
    {id : Uuid} (hid : ∃ m ∈ db.missions, m.id = id) : ∃ m ∈ db'.missions, m.id = id := by
  obtain ⟨m, hm, rfl⟩ := hid
  obtain ⟨m', hfind, hterms⟩ := h.missions _ _ ((Table.mem_iff_find hk).mp hm)
  exact ⟨m', Table.mem_of_find hfind, Mission.id_of_terms hterms⟩

/-- Growth is about the row tables only. -/
lemma Grows.of_eq {a b c : Db} (h : Grows a b) (h₁ : c.missions = b.missions)
    (h₂ : c.missionConstraints = b.missionConstraints) (h₃ : c.offers = b.offers)
    (h₄ : c.policyDecisions = b.policyDecisions) (h₅ : c.authorizations = b.authorizations)
    (h₆ : c.paymentIntents = b.paymentIntents) (h₇ : c.outboxEvents = b.outboxEvents) :
    Grows a c :=
  ⟨h₁ ▸ h.missions, h₂ ▸ h.missionConstraints, h₄ ▸ h.policyDecisions, h₃ ▸ h.offers,
    h₅ ▸ h.authorizations, h₆ ▸ h.paymentIntents, h₇ ▸ h.outboxEvents⟩

lemma Grows.of_sameRows {a b c : Db} (h : Grows a b) (hrows : b.SameRows c) : Grows a c :=
  h.of_eq hrows.missions hrows.missionConstraints hrows.offers hrows.policyDecisions
    hrows.authorizations hrows.paymentIntents hrows.outboxEvents

section Growth

variable (db : Db)

lemma grows_updateMission (id : Uuid) {f : Mission → Mission} (hf : ∀ m, (f m).terms = m.terms) :
    Grows db (db.updateMission id f) :=
  { Grows.refl db with
    missions := .update (fun _ => rfl) (fun m hm => (Mission.id_of_terms (hf m)).trans hm)
      (fun m _ => hf m) }

lemma grows_updateAuthorization (id : Uuid) {f : AuthorizationRow → AuthorizationRow}
    (hf : ∀ a, (f a).terms = a.terms) : Grows db (db.updateAuthorization id f) :=
  { Grows.refl db with
    authorizations := .update (fun _ => rfl)
      (fun a ha => (AuthorizationRow.id_of_terms (hf a)).trans ha) (fun a _ => hf a) }

lemma grows_updatePaymentIntent {i i' : PaymentIntentRow} (hi : db.getPaymentIntent i.id = some i)
    (hmoves : Moves i i') : Grows db (db.updatePaymentIntent i.id (fun _ => i')) :=
  { Grows.refl db with
    paymentIntents := by
      refine .update Moves.refl (fun _ _ => PaymentIntentRow.id_of_terms hmoves.terms) ?_
      intro r hr
      obtain rfl := Option.some.inj (hi.symm.trans hr)
      exact hmoves }

lemma grows_updateOutboxEvent (id : Uuid) {f : OutboxEventRow → OutboxEventRow}
    (hf : ∀ e, (f e).terms = e.terms) : Grows db (db.updateOutboxEvent id f) :=
  { Grows.refl db with
    outboxEvents := .update (fun _ => rfl)
      (fun e he => (OutboxEventRow.id_of_terms (hf e)).trans he) (fun e _ => hf e) }

lemma grows_enqueues {db : Db} {intentId : Uuid} {news : List NewOutboxEvent}
    {rows : List OutboxEventRow} (h : Enqueues intentId news db.outboxEvents rows) :
    Grows db { db with outboxEvents := rows } := by
  obtain ⟨new, -, rfl⟩ := h.rows
  exact { Grows.refl db with outboxEvents := .append (by intro; rfl) new }

end Growth

-- ════════════════════════════════════════════════════════════════════════
-- Consistency
-- ════════════════════════════════════════════════════════════════════════

/-- An intent is the one that consumed an authorization, for its transaction. -/
structure Pays (a : AuthorizationRow) (i : PaymentIntentRow) : Prop where
  authorizationId : i.authorizationId = a.authorizationId
  missionId : i.missionId = a.missionId
  status : a.status = .consumed
  transactionDigest : i.transactionDigest = a.transactionDigest
  amountInr : i.amountInr = a.boundAmountInr
  currency : i.currency = a.boundCurrency
  merchantId : i.merchantId = a.boundMerchantId

/-- What a mission's state has to be while its authorization is still live. -/
def Staged (a : AuthorizationRow) (m : Mission) : Prop :=
  (a.status = .pending → m.state = .awaitingApproval) ∧
    (a.status = .active → m.state = .authorized)

/-- The relations between the rows of a committed database. -/
structure Consistent (env : Env) (db : Db) : Prop where
  missions : Table.Keyed Mission.id db.missions
  authorizations : Table.Keyed AuthorizationRow.authorizationId db.authorizations
  authorizationMissions : Table.Keyed AuthorizationRow.missionId db.authorizations
  constraintMissions : Table.Keyed MissionConstraintsRow.missionId db.missionConstraints
  decisionMissions : Table.Keyed PolicyDecisionRow.missionId db.policyDecisions
  paymentIntents : Table.Keyed PaymentIntentRow.id db.paymentIntents
  idempotencyKeys : Table.Keyed PaymentIntentRow.idempotencyKey db.paymentIntents
  intentAuthorizations : Table.Keyed PaymentIntentRow.authorizationId db.paymentIntents
  outboxEvents : Table.Keyed OutboxEventRow.id db.outboxEvents
  constrained : ∀ c ∈ db.missionConstraints, ∃ m ∈ db.missions, m.id = c.missionId
  decided : ∀ d ∈ db.policyDecisions, ∃ m ∈ db.missions, m.id = d.missionId
  backed : ∀ a ∈ db.authorizations, Backed env db a
  staged : ∀ a ∈ db.authorizations, ∀ m ∈ db.missions, m.id = a.missionId → Staged a m
  paying : ∀ i ∈ db.paymentIntents, ∃ a ∈ db.authorizations, Pays a i
  consumed : ∀ a ∈ db.authorizations, a.status = .consumed →
    ∃ i ∈ db.paymentIntents, i.authorizationId = a.authorizationId
  committable : ∀ i ∈ db.paymentIntents, Committable env i
  enqueued : ∀ e ∈ db.outboxEvents, ∃ i ∈ db.paymentIntents, i.id = e.paymentIntentId

section Consistent

variable {env : Env} {db db' : Db}

lemma AgentOrchestrator.Backed.grows {a a' : AuthorizationRow} (hb : Backed env db a)
    (hk : Table.Keyed Mission.id db.missions) (h : Grows db db') (ha : a'.terms = a.terms) :
    Backed env db' a' := by
  have hm : a'.missionId = a.missionId := AuthorizationRow.missionId_of_terms ha
  have hq : a'.boundQuantity = a.boundQuantity := (congrArg AuthorizationRow.boundQuantity ha :)
  have hamount : a'.boundAmountInr = a.boundAmountInr :=
    (congrArg AuthorizationRow.boundAmountInr ha :)
  have hscheme : a'.approvalScheme = a.approvalScheme :=
    (congrArg AuthorizationRow.approvalScheme ha :)
  have hmerchant : a'.boundMerchantId = a.boundMerchantId :=
    (congrArg AuthorizationRow.boundMerchantId ha :)
  have hproduct : a'.boundProductId = a.boundProductId :=
    (congrArg AuthorizationRow.boundProductId ha :)
  have hcurrency : a'.boundCurrency = a.boundCurrency :=
    (congrArg AuthorizationRow.boundCurrency ha :)
  obtain ⟨m, hmem, hid, hquantity⟩ := hb.mission
  obtain ⟨m', hfind, hterms⟩ := h.missions _ _ ((Table.mem_iff_find hk).mp hmem)
  obtain ⟨c, hc, hlimits⟩ := hb.limits
  obtain ⟨d, hd, hdm, hdeny, o, ho, hoffer⟩ := hb.offer
  obtain ⟨r, hr⟩ := h.offers o ho
  refine ⟨⟨m', Table.mem_of_find hfind, ?_, ?_⟩, ⟨c, h.missionConstraints hc, ?_⟩,
    ⟨d, h.policyDecisions hd, ?_, hdeny, _, hr, ?_⟩, ?_⟩
  · rw [Mission.id_of_terms hterms, hid, hm]
  · rw [hq, hquantity, Mission.quantity_of_terms hterms]
  · rw [hm, hamount, hscheme]
    exact hlimits
  · rw [hm, hdm]
  · rw [hm, hamount, hq, hmerchant, hproduct]
    exact hoffer
  · rw [hcurrency]
    exact hb.currency

/-- Consistency is about the row tables only. -/
lemma Consistent.of_eq (h : Consistent env db) (h₁ : db'.missions = db.missions)
    (h₂ : db'.missionConstraints = db.missionConstraints) (h₃ : db'.offers = db.offers)
    (h₄ : db'.policyDecisions = db.policyDecisions) (h₅ : db'.authorizations = db.authorizations)
    (h₆ : db'.paymentIntents = db.paymentIntents) (h₇ : db'.outboxEvents = db.outboxEvents) :
    Consistent env db' := by
  obtain ⟨_, _, _, _, _, _, _, _, _, _⟩ := db'
  dsimp only at h₁ h₂ h₃ h₄ h₅ h₆ h₇
  subst h₁ h₂ h₃ h₄ h₅ h₆ h₇
  exact ⟨h.1, h.2, h.3, h.4, h.5, h.6, h.7, h.8, h.9, h.10, h.11,
    fun a ha => ⟨(h.12 a ha).1, (h.12 a ha).2, (h.12 a ha).3, (h.12 a ha).4⟩, h.13, h.14, h.15,
    h.16, h.17⟩

lemma Consistent.of_sameRows (h : Consistent env db) (hrows : db.SameRows db') :
    Consistent env db' :=
  h.of_eq hrows.missions hrows.missionConstraints hrows.offers hrows.policyDecisions
    hrows.authorizations hrows.paymentIntents hrows.outboxEvents

lemma Consistent.mem_intent (h : Consistent env db) {i : PaymentIntentRow} :
    i ∈ db.paymentIntents ↔ db.getPaymentIntent i.id = some i := Table.mem_iff_find h.paymentIntents

lemma Consistent.mem_mission (h : Consistent env db) {m : Mission} :
    m ∈ db.missions ↔ db.getMission m.id = some m := Table.mem_iff_find h.missions

/-- The authorization that an intent consumed, and no other, is the mission's. -/
lemma Consistent.pays (h : Consistent env db) {i : PaymentIntentRow} (hi : i ∈ db.paymentIntents)
    {a : AuthorizationRow} (ha : a ∈ db.authorizations) (hm : a.missionId = i.missionId) :
    Pays a i := by
  obtain ⟨a', ha', hp⟩ := h.paying i hi
  obtain rfl := h.authorizationMissions.eq_of_key ha ha' (hm.trans hp.missionId)
  exact hp

-- ════════════════════════════════════════════════════════════════════════
-- Payment rows
-- ════════════════════════════════════════════════════════════════════════

/-- A committed move of an intent row. -/
theorem Consistent.updatePaymentIntent (h : Consistent env db) {i i' : PaymentIntentRow}
    (hi : db.getPaymentIntent i.id = some i) (hmoves : Moves i i') (hc : Committable env i') :
    Consistent env (db.updatePaymentIntent i.id (fun _ => i')) := by
  have hmem := Table.mem_of_find hi
  have hid := PaymentIntentRow.id_of_terms hmoves.terms
  -- the only row with the id is the one that moved
  have honly : ∀ x ∈ db.paymentIntents, x.id = i.id → x = i := fun x hx hk =>
    h.paymentIntents.eq_of_key hx hmem hk
  have hkeyed : ∀ {γ : Type} [DecidableEq γ] {g : PaymentIntentRow → γ}, g i' = g i →
      Table.Keyed g db.paymentIntents →
      Table.Keyed g (db.updatePaymentIntent i.id (fun _ => i')).paymentIntents :=
    fun hg hk => hk.update fun x hx hxi => by rw [honly x hx hxi, hg]
  have hnew : ∀ x ∈ (db.updatePaymentIntent i.id (fun _ => i')).paymentIntents,
      x = i' ∨ x ∈ db.paymentIntents := by
    intro x hx
    obtain ⟨y, hy, rfl⟩ := Table.mem_update.mp hx
    split
    · exact .inl rfl
    · exact .inr hy
  have hold : ∀ x ∈ db.paymentIntents, ∃ x' ∈ (db.updatePaymentIntent i.id (fun _ => i')).paymentIntents,
      x'.id = x.id ∧ x'.authorizationId = x.authorizationId := by
    intro x hx
    refine ⟨_, Table.mem_update.mpr ⟨x, hx, rfl⟩, ?_⟩
    split
    · next hxi =>
      rw [honly x hx hxi]
      exact ⟨hid, PaymentIntentRow.authorizationId_of_terms hmoves.terms⟩
    · exact ⟨rfl, rfl⟩
  have hgrows := grows_updatePaymentIntent db hi hmoves
  refine { h with
    paymentIntents := hkeyed hid h.paymentIntents
    idempotencyKeys := hkeyed (PaymentIntentRow.idempotencyKey_of_terms hmoves.terms)
      h.idempotencyKeys
    intentAuthorizations := hkeyed (PaymentIntentRow.authorizationId_of_terms hmoves.terms)
      h.intentAuthorizations
    backed := fun a ha => (h.backed a ha).grows h.missions hgrows rfl
    paying := ?_, consumed := ?_, committable := ?_, enqueued := ?_ }
  · intro x hx
    rcases hnew x hx with rfl | hx
    · obtain ⟨a, ha, hp⟩ := h.paying i hmem
      refine ⟨a, ha, ?_, ?_, hp.status, ?_, ?_, ?_, ?_⟩
      · exact (PaymentIntentRow.authorizationId_of_terms hmoves.terms).trans hp.authorizationId
      · exact (PaymentIntentRow.missionId_of_terms hmoves.terms).trans hp.missionId
      · exact (congrArg PaymentIntentRow.transactionDigest hmoves.terms).trans hp.transactionDigest
      · exact (congrArg PaymentIntentRow.amountInr hmoves.terms).trans hp.amountInr
      · exact (congrArg PaymentIntentRow.currency hmoves.terms).trans hp.currency
      · exact (congrArg PaymentIntentRow.merchantId hmoves.terms).trans hp.merchantId
    · exact h.paying x hx
  · intro a ha hconsumed
    obtain ⟨x, hx, hxa⟩ := h.consumed a ha hconsumed
    obtain ⟨x', hx', -, hx'a⟩ := hold x hx
    exact ⟨x', hx', hx'a.trans hxa⟩
  · intro x hx
    rcases hnew x hx with rfl | hx
    · exact hc
    · exact h.committable x hx
  · intro e he
    obtain ⟨x, hx, hxe⟩ := h.enqueued e he
    obtain ⟨x', hx', hx'id, -⟩ := hold x hx
    exact ⟨x', hx', hx'id.trans hxe⟩

/-- A move of a mission whose authorization is no longer live. -/
theorem Consistent.updateMission (h : Consistent env db) {id : Uuid} {f : Mission → Mission}
    (hf : ∀ m, (f m).terms = m.terms)
    (hover : ∀ a ∈ db.authorizations, a.missionId = id → ∀ m, Staged a (f m)) :
    Consistent env (db.updateMission id f) := by
  have hgrows := grows_updateMission db id hf
  refine { h with
    missions := h.missions.update fun x _ _ => Mission.id_of_terms (hf x)
    constrained := fun c hc => hgrows.named h.missions (h.constrained c hc)
    decided := fun d hd => hgrows.named h.missions (h.decided d hd)
    backed := fun a ha => (h.backed a ha).grows h.missions hgrows rfl
    staged := ?_ }
  intro a ha m hm hma
  obtain ⟨x, hx, rfl⟩ := Table.mem_update.mp hm
  split at hma
  · next hid =>
    rw [if_pos hid]
    rw [Mission.id_of_terms (hf x), hid] at hma
    exact hover a ha hma.symm x
  · next hid =>
    rw [if_neg hid]
    exact h.staged a ha x hx hma

/-- A change of the outbox whose rows name existing intents. -/
theorem Consistent.withOutbox (h : Consistent env db) {rows : List OutboxEventRow}
    (hkeyed : Table.Keyed OutboxEventRow.id rows)
    (hrows : ∀ e ∈ rows, ∃ i ∈ db.paymentIntents, i.id = e.paymentIntentId) :
    Consistent env { db with outboxEvents := rows } :=
  { h with
    outboxEvents := hkeyed, enqueued := hrows
    backed := fun a ha => ⟨(h.backed a ha).1, (h.backed a ha).2, (h.backed a ha).3,
      (h.backed a ha).4⟩ }

/-- A change of the columns of an outbox row that may change. -/
lemma Consistent.updateOutboxEvent (h : Consistent env db) (id : Uuid)
    {f : OutboxEventRow → OutboxEventRow} (hf : ∀ e, (f e).terms = e.terms) :
    Consistent env (db.updateOutboxEvent id f) := by
  refine h.withOutbox (h.outboxEvents.update fun e _ _ => OutboxEventRow.id_of_terms (hf e)) ?_
  intro e he
  obtain ⟨x, hx, rfl⟩ := Table.mem_update.mp he
  obtain ⟨i, hi, hix⟩ := h.enqueued x hx
  refine ⟨i, hi, hix.trans ?_⟩
  split
  · exact (OutboxEventRow.paymentIntentId_of_terms (hf x)).symm
  · rfl

-- ════════════════════════════════════════════════════════════════════════
-- Authorizations
-- ════════════════════════════════════════════════════════════════════════

section Transition

variable {a : AuthorizationRow} {f : AuthorizationRow → AuthorizationRow}

/-- The other authorizations are those of other missions. -/
lemma Consistent.mem_updateAuthorization (h : Consistent env db)
    (ha : db.getAuthorization a.authorizationId = some a) {b : AuthorizationRow}
    (hb : b ∈ (db.updateAuthorization a.authorizationId f).authorizations) :
    b = f a ∨ b ∈ db.authorizations ∧ b.authorizationId ≠ a.authorizationId ∧
      b.missionId ≠ a.missionId := by
  have hmem := Table.mem_of_find ha
  obtain ⟨x, hx, rfl⟩ := Table.mem_update.mp hb
  by_cases hid : x.authorizationId = a.authorizationId
  · rw [if_pos hid, h.authorizations.eq_of_key hx hmem hid]
    exact .inl rfl
  · rw [if_neg hid]
    refine .inr ⟨hx, hid, fun hm => hid ?_⟩
    rw [h.authorizationMissions.eq_of_key hx hmem hm]

lemma mem_updateAuthorization_of_ne {id : Uuid} {b : AuthorizationRow} (hb : b ∈ db.authorizations)
    (hne : b.authorizationId ≠ id) : b ∈ (db.updateAuthorization id f).authorizations :=
  Table.mem_update.mpr ⟨b, hb, by rw [if_neg hne]⟩

/-- An authorization that no intent has consumed takes another status, and its mission a state that
fits. -/
theorem Consistent.transition (h : Consistent env db)
    (ha : db.getAuthorization a.authorizationId = some a) (hlive : a.status ≠ .consumed)
    (hf : ∀ r, (f r).terms = r.terms) (hnew : (f a).status ≠ .consumed) {g : Mission → Mission}
    (hg : ∀ m, (g m).terms = m.terms) (hstaged : ∀ m, Staged (f a) (g m)) :
    Consistent env ((db.updateAuthorization a.authorizationId f).updateMission a.missionId g) := by
  have hgrows := (grows_updateAuthorization db a.authorizationId hf).trans
    (grows_updateMission _ a.missionId hg)
  refine { h with
    missions := h.missions.update fun x _ _ => Mission.id_of_terms (hg x)
    authorizations := h.authorizations.update fun x _ _ => AuthorizationRow.id_of_terms (hf x)
    authorizationMissions := h.authorizationMissions.update fun x _ _ =>
      AuthorizationRow.missionId_of_terms (hf x)
    constrained := fun c hc => hgrows.named h.missions (h.constrained c hc)
    decided := fun d hd => hgrows.named h.missions (h.decided d hd)
    backed := ?_, staged := ?_, paying := ?_, consumed := ?_ }
  · intro b hb
    rcases h.mem_updateAuthorization ha hb with rfl | ⟨hb, -⟩
    · exact (h.backed a (Table.mem_of_find ha)).grows h.missions hgrows (hf a)
    · exact (h.backed b hb).grows h.missions hgrows rfl
  · intro b hb m hm hmb
    obtain ⟨x, hx, rfl⟩ := Table.mem_update.mp hm
    have hxid : (if x.id = a.missionId then g x else x).id = x.id := by
      split
      · exact Mission.id_of_terms (hg x)
      · rfl
    rw [hxid] at hmb
    rcases h.mem_updateAuthorization ha hb with rfl | ⟨hb, -, hne⟩
    · rw [if_pos (hmb.trans (AuthorizationRow.missionId_of_terms (hf a)))]
      exact hstaged x
    · rw [if_neg fun hxa => hne (hmb.symm.trans hxa)]
      exact h.staged b hb x hx hmb
  · intro i hi
    obtain ⟨b, hb, hp⟩ := h.paying i hi
    refine ⟨b, mem_updateAuthorization_of_ne hb fun hid => ?_, hp⟩
    rw [h.authorizations.eq_of_key hb (Table.mem_of_find ha) hid] at hp
    exact hlive hp.status
  · intro b hb hconsumed
    rcases h.mem_updateAuthorization ha hb with rfl | ⟨hb, -⟩
    · exact absurd hconsumed hnew
    · exact h.consumed b hb hconsumed

/-- An authorization that expired or was revoked. -/
theorem Consistent.ended (h : Consistent env db)
    (ha : db.getAuthorization a.authorizationId = some a) (hlive : a.status ≠ .consumed)
    {status : AuthorizationStatus} (hstatus : status = .expired ∨ status = .revoked) :
    Consistent env
      (db.updateAuthorization a.authorizationId (fun r => { r with status := status })) := by
  have hover : ∀ m, Staged { a with status := status } m := by
    intro m
    rcases hstatus with rfl | rfl <;> exact ⟨nofun, nofun⟩
  have hc : (status : AuthorizationStatus) ≠ .consumed := by rcases hstatus with rfl | rfl <;> nofun
  have ht := h.transition (f := fun r => { r with status := status }) (g := id) ha hlive
    (fun _ => rfl) hc (fun _ => rfl) hover
  have hsame : ∀ db' : Db, (db'.updateMission a.missionId id) = db' := by
    intro db'
    simp [Db.updateMission, Table.update]
  rwa [hsame] at ht

end Transition

-- ════════════════════════════════════════════════════════════════════════
-- New intents
-- ════════════════════════════════════════════════════════════════════════

/-- The intent a request is about to commit, built from the transaction of its authorization. -/
def Intends (env : Env) (db : Db) (args : PaymentArgs) (t : BoundTransaction)
    (intent : PaymentIntentRow) : Prop :=
  ∃ a id createdAt, db.getAuthorization args.authorizationId = some a ∧
    a.missionId = args.missionId ∧ SecurityKernel.Rebuilds env a t ∧
    intent = newIntent id args a t createdAt

lemma Intends.pays {args : PaymentArgs} {t : BoundTransaction} {intent : PaymentIntentRow}
    (h : Intends env db args t intent) (hc : Consistent env db) {a : AuthorizationRow}
    (ha : db.getAuthorization args.authorizationId = some a) :
    Pays { a with status := .consumed, consumedAt := some args.now }
      { intent with state := .queued } := by
  obtain ⟨a', id, createdAt, ha', hm, hr, rfl⟩ := h
  obtain rfl := Option.some.inj (ha.symm.trans ha')
  obtain ⟨-, hmerchant, -, -, hamount, hcurrency⟩ := hr
  have hback := hc.backed a (Table.mem_of_find ha)
  refine ⟨(Table.key_of_find ha).symm, hm.symm, rfl, rfl, hamount, ?_, hmerchant⟩
  exact hcurrency.trans hback.currency

lemma Intends.committable {args : PaymentArgs} {t : BoundTransaction} {intent : PaymentIntentRow}
    (h : Intends env db args t intent) : Committable env { intent with state := .queued } := by
  obtain ⟨a, id, createdAt, -, -, -, rfl⟩ := h
  exact ⟨by simp, fun _ => rfl, fun _ => rfl, fun hm => absurd rfl hm, by simp⟩

lemma not_insertConflicts {intent : PaymentIntentRow} (h : insertConflicts db intent = false) :
    ∀ i ∈ db.paymentIntents, i.id ≠ intent.id ∧ i.idempotencyKey ≠ intent.idempotencyKey ∧
      i.authorizationId ≠ intent.authorizationId := by
  simpa [insertConflicts] using h

lemma Created.grows {args : PaymentArgs} {t : BoundTransaction} {intent : PaymentIntentRow}
    (h : Created args t intent db db') : Grows db db' where
  missions := by
    rw [h.missions]
    exact (grows_updateMission db _ (by intro; rfl)).missions
  missionConstraints := by simp [h.missionConstraints]
  policyDecisions := by simp [h.policyDecisions]
  offers := by
    rw [h.offers]
    exact (Grows.refl db).offers
  authorizations := by
    rw [h.authorizations]
    exact (grows_updateAuthorization db _ (by intro; rfl)).authorizations
  paymentIntents := by
    rw [h.paymentIntents]
    exact .append Moves.refl _
  outboxEvents := by
    obtain ⟨new, -, hnew⟩ := h.outboxEvents.rows
    rw [hnew]
    exact .append (by intro; rfl) _

/-- An intent that was committed together with its consumed authorization. -/
theorem Consistent.created (h : Consistent env db) {args : PaymentArgs} {t : BoundTransaction}
    {intent : PaymentIntentRow} (hi : Intends env db args t intent)
    (hcreated : Created args t intent db db') : Consistent env db' := by
  obtain ⟨a, ha, hactive, -⟩ := hcreated.authorization
  have hid : a.authorizationId = args.authorizationId := Table.key_of_find ha
  have hmem := Table.mem_of_find ha
  have hpays := hi.pays h ha
  have hfree := not_insertConflicts hcreated.free
  have hgrows := hcreated.grows
  rw [← hid] at ha
  have hauth := hcreated.authorizations
  rw [← hid] at hauth
  have hmission : a.missionId = args.missionId := by
    obtain ⟨a', _, _, ha', hm, -⟩ := hi
    rw [← hid] at ha'
    rw [Option.some.inj (ha.symm.trans ha')]
    exact hm
  have hmissions := hcreated.missions
  rw [← hmission] at hmissions
  have hauths : ∀ b ∈ db'.authorizations, b = { a with status := .consumed, consumedAt := some args.now } ∨
      b ∈ db.authorizations ∧ b.authorizationId ≠ a.authorizationId ∧ b.missionId ≠ a.missionId := by
    intro b hb
    rw [hauth] at hb
    exact h.mem_updateAuthorization ha hb
  have hnewmem : { a with status := AuthorizationStatus.consumed, consumedAt := some args.now } ∈
      db'.authorizations := by
    rw [hauth]
    exact Table.mem_update.mpr ⟨a, hmem, by rw [if_pos rfl]⟩
  refine ⟨?_, ?_, ?_, ?_, ?_, ?_, ?_, ?_, ?_, ?_, ?_, ?_, ?_, ?_, ?_, ?_, ?_⟩
  · rw [hmissions]
    exact h.missions.update fun _ _ _ => rfl
  · rw [hauth]
    exact h.authorizations.update fun _ _ _ => rfl
  · rw [hauth]
    exact h.authorizationMissions.update fun _ _ _ => rfl
  · rw [hcreated.missionConstraints]
    exact h.constraintMissions
  · rw [hcreated.policyDecisions]
    exact h.decisionMissions
  · rw [hcreated.paymentIntents]
    exact h.paymentIntents.insert (Table.find_eq_none.mpr fun i hi => (hfree i hi).1)
  · rw [hcreated.paymentIntents]
    exact h.idempotencyKeys.insert (Table.find_eq_none.mpr fun i hi => (hfree i hi).2.1)
  · rw [hcreated.paymentIntents]
    exact h.intentAuthorizations.insert (Table.find_eq_none.mpr fun i hi => (hfree i hi).2.2)
  · exact hcreated.outboxEvents.keyed h.outboxEvents
  · rw [hcreated.missionConstraints]
    exact fun c hc => hgrows.named h.missions (h.constrained c hc)
  · rw [hcreated.policyDecisions]
    exact fun d hd => hgrows.named h.missions (h.decided d hd)
  · intro b hb
    rcases hauths b hb with rfl | ⟨hb, -⟩
    · exact (h.backed a hmem).grows h.missions hgrows rfl
    · exact (h.backed b hb).grows h.missions hgrows rfl
  · intro b hb m hm hmb
    rcases hauths b hb with rfl | ⟨hb, -, hne⟩
    · exact ⟨nofun, nofun⟩
    · rw [hmissions] at hm
      obtain ⟨x, hx, rfl⟩ := Table.mem_update.mp hm
      have hxm : x.id ≠ a.missionId := by
        intro hxa
        rw [if_pos hxa] at hmb
        exact hne (hmb.symm.trans hxa)
      rw [if_neg hxm] at hmb ⊢
      exact h.staged b hb x hx hmb
  · intro i hi
    rw [hcreated.paymentIntents] at hi
    rcases List.mem_append.mp hi with hi | hi
    · obtain ⟨b, hb, hp⟩ := h.paying i hi
      refine ⟨b, ?_, hp⟩
      rw [hauth]
      refine mem_updateAuthorization_of_ne hb fun hba => ?_
      rw [h.authorizations.eq_of_key hb hmem hba] at hp
      rw [hp.status] at hactive
      cases hactive
    · rw [List.mem_singleton.mp hi]
      exact ⟨_, hnewmem, hpays⟩
  · intro b hb hconsumed
    rw [hcreated.paymentIntents]
    rcases hauths b hb with rfl | ⟨hb, -⟩
    · exact ⟨_, by simp, hpays.authorizationId⟩
    · obtain ⟨i, hi, hia⟩ := h.consumed b hb hconsumed
      exact ⟨i, List.mem_append_left _ hi, hia⟩
  · intro i hi'
    rw [hcreated.paymentIntents] at hi'
    rcases List.mem_append.mp hi' with hi' | hi'
    · exact h.committable i hi'
    · rw [List.mem_singleton.mp hi']
      exact hi.committable
  · intro e he
    rw [hcreated.paymentIntents]
    rcases hcreated.outboxEvents.mem he with he | ⟨new, -, id, createdAt, rfl⟩
    · obtain ⟨i, hi, hie⟩ := h.enqueued e he
      exact ⟨i, List.mem_append_left _ hi, hie⟩
    · exact ⟨_, List.mem_append_right _ (List.mem_singleton.mpr rfl), rfl⟩

-- ════════════════════════════════════════════════════════════════════════
-- Units of work
-- ════════════════════════════════════════════════════════════════════════

section Committed

variable {i : PaymentIntentRow} {u : UnitOfWork}

/-- A unit of work changes at most the state of the intent's mission. -/
lemma Committed.missions_eq (hcommit : Committed u db db') (h : Consistent env db)
    (hm : u.mission.map Mission.terms = (db.getMission i.missionId).map Mission.terms) :
    db'.missions = db.missions ∨ ∃ s, db'.missions =
      (db.updateMission i.missionId (fun m => { m with state := s })).missions := by
  have hmissions := hcommit.missions
  cases hu : u.mission with
  | none =>
    rw [hu] at hmissions
    exact .inl hmissions
  | some m' =>
    rw [hu] at hm hmissions
    cases hget : db.getMission i.missionId with
    | none => simp [hget] at hm
    | some m =>
      have hterms : m'.terms = m.terms := by simpa [hget] using hm
      have hid : m.id = i.missionId := Table.key_of_find hget
      refine .inr ⟨m'.state, hmissions.trans ?_⟩
      dsimp only
      rw [Mission.id_of_terms hterms, hid]
      refine Table.update_congr fun x hx hxid => ?_
      obtain rfl := h.missions.eq_of_key hx (Table.mem_of_find hget) (hxid.trans hid.symm)
      show ({ m'.terms with state := m'.state } : Mission) = { x.terms with state := m'.state }
      rw [hterms]

/-- A unit of work that leaves its intent row in order. -/
theorem Consistent.committed (h : Consistent env db) (hi : db.getPaymentIntent i.id = some i)
    (hmoves : Moves i u.intent) (hc : Committable env u.intent)
    (hm : u.mission.map Mission.terms = (db.getMission i.missionId).map Mission.terms)
    (hcommit : Committed u db db')
    (henq : Enqueues u.intent.id u.enqueued db.outboxEvents db'.outboxEvents) :
    Consistent env db' ∧ Grows db db' := by
  have hid := PaymentIntentRow.id_of_terms hmoves.terms
  have hintents := hcommit.paymentIntents
  rw [hid] at hintents henq
  have hover : ∀ s, ∀ a ∈ db.authorizations, a.missionId = i.missionId →
      ∀ m : Mission, Staged a { m with state := s } := by
    intro s a ha ham m
    rw [Staged, (h.pays (Table.mem_of_find hi) ha ham).status]
    exact ⟨nofun, nofun⟩
  -- intent row, then mission row, then outbox
  have h₁ := h.updatePaymentIntent hi hmoves hc
  have g₁ := grows_updatePaymentIntent db hi hmoves
  obtain ⟨db₂, h₂, g₂, hdb₂, hmissions⟩ : ∃ db₂ : Db, Consistent env db₂ ∧ Grows db db₂ ∧
      db₂ = { db.updatePaymentIntent i.id (fun _ => u.intent) with missions := db₂.missions } ∧
      db'.missions = db₂.missions := by
    rcases hcommit.missions_eq h hm with heq | ⟨s, heq⟩
    · exact ⟨_, h₁, g₁, rfl, heq⟩
    · refine ⟨_, h₁.updateMission (f := fun m => { m with state := s }) (fun _ => rfl) (hover s),
        g₁.trans (grows_updateMission _ _ (fun _ => rfl)), rfl, heq⟩
  have hout : db₂.outboxEvents = db.outboxEvents := by rw [hdb₂]; rfl
  have hpay : db₂.paymentIntents = db'.paymentIntents := by rw [hdb₂]; exact hintents.symm
  rw [← hout] at henq
  have h₃ : Consistent env { db₂ with outboxEvents := db'.outboxEvents } := by
    refine h₂.withOutbox (henq.keyed h₂.outboxEvents) fun e he => ?_
    rcases henq.mem he with he | ⟨new, -, _, _, rfl⟩
    · exact h₂.enqueued e he
    · obtain ⟨i', hfind, hi'⟩ := g₂.paymentIntents _ _ hi
      exact ⟨i', Table.mem_of_find hfind, PaymentIntentRow.id_of_terms hi'.terms⟩
  have g₃ := g₂.trans (grows_enqueues henq)
  have hrows : db'.missionConstraints = db₂.missionConstraints ∧ db'.offers = db₂.offers ∧
      db'.policyDecisions = db₂.policyDecisions ∧ db'.authorizations = db₂.authorizations := by
    rw [hdb₂]
    exact ⟨hcommit.missionConstraints, hcommit.offers, hcommit.policyDecisions,
      hcommit.authorizations⟩
  obtain ⟨hcons, hoffers, hdecisions, hauths⟩ := hrows
  exact ⟨h₃.of_eq hmissions hcons hoffers hdecisions hauths hpay.symm rfl,
    g₃.of_eq hmissions hcons hoffers hdecisions hauths hpay.symm rfl⟩

end Committed

-- ════════════════════════════════════════════════════════════════════════
-- New missions
-- ════════════════════════════════════════════════════════════════════════

/-- The authorization of a new mission, if there is one. -/
lemma AgentOrchestrator.Outcome.authorization {d : Draft} (h : Outcome env db d)
    {a : AuthorizationRow} (ha : a ∈ d.authorizations) :
    d.authorizations = [a] ∧ a.missionId = d.mission.id ∧ Backed env db a ∧ Staged a d.mission ∧
      a.status ≠ .consumed := by
  cases h with
  | denied _ hnone => simp [hnone] at ha
  | refused _ hnone => simp [hnone] at ha
  | awaiting b hs hb hstatus hm hbacked =>
    obtain rfl : a = b := by simpa [hb] using ha
    exact ⟨hb, hm, hbacked, ⟨fun _ => hs, by simp [hstatus]⟩, by simp [hstatus]⟩
  | authorized b hs hb hstatus hm hbacked =>
    obtain rfl : a = b := by simpa [hb] using ha
    exact ⟨hb, hm, hbacked, ⟨by simp [hstatus], fun _ => hs⟩, by simp [hstatus]⟩

lemma AgentOrchestrator.Planning.grows {d : Draft} (h : Planning db d db') : Grows db db' where
  missions := by
    rw [h.missions]
    exact .append (by intro; rfl) _
  missionConstraints := by simp [h.constraints]
  policyDecisions := by simp [h.decisions]
  offers := by
    rw [h.offers]
    exact h.kept
  authorizations := by
    rw [h.authorizations]
    exact .append (by intro; rfl) _
  paymentIntents := by
    rw [h.paymentIntents]
    exact .refl Moves.refl _
  outboxEvents := by
    rw [h.outboxEvents]
    exact .refl (by intro; rfl) _

/-- The creation of a mission. -/
theorem Consistent.planned (h : Consistent env db) (hplanned : Planned env db db') :
    Consistent env db' ∧ Grows db db' := by
  obtain ⟨d, hplan, hout, ⟨c, hc, hcm⟩, ⟨r, hr, hrm⟩, hfree⟩ := hplanned
  have hgrows := hplan.grows
  have hfresh := Table.find_eq_none.mp hplan.fresh
  -- no row names the new mission yet
  have hunnamed : ∀ id, (∃ m ∈ db.missions, m.id = id) → id ≠ d.mission.id := by
    rintro _ ⟨m, hm, rfl⟩
    exact hfresh m hm
  have hauthorized : ∀ a ∈ db.authorizations, a.missionId ≠ d.mission.id := by
    intro a ha
    obtain ⟨m, hm, hid, -⟩ := (h.backed a ha).mission
    exact hunnamed _ ⟨m, hm, hid⟩
  have hauths : Table.Keyed AuthorizationRow.authorizationId db'.authorizations ∧
      Table.Keyed AuthorizationRow.missionId db'.authorizations := by
    rw [hplan.authorizations]
    cases ha : d.authorizations with
    | nil => exact ⟨by simpa using h.authorizations, by simpa using h.authorizationMissions⟩
    | cons a rest =>
      have hmem : a ∈ d.authorizations := by simp [ha]
      obtain ⟨hone, hm, -⟩ := hout.authorization hmem
      obtain ⟨-, rfl⟩ := List.cons.inj (ha.symm.trans hone)
      refine ⟨h.authorizations.insert (hfree a hmem), h.authorizationMissions.insert ?_⟩
      rw [hm]
      exact Table.find_eq_none.mpr hauthorized
  refine ⟨⟨?_, hauths.1, hauths.2, ?_, ?_, ?_, ?_, ?_, ?_, ?_, ?_, ?_, ?_, ?_, ?_, ?_, ?_⟩, hgrows⟩
  · rw [hplan.missions]
    exact h.missions.insert hplan.fresh
  · rw [hplan.constraints, hc]
    refine h.constraintMissions.insert (Table.find_eq_none.mpr fun x hx => ?_)
    rw [hcm]
    exact hunnamed _ (h.constrained x hx)
  · rw [hplan.decisions, hr]
    refine h.decisionMissions.insert (Table.find_eq_none.mpr fun x hx => ?_)
    rw [hrm]
    exact hunnamed _ (h.decided x hx)
  · rw [hplan.paymentIntents]
    exact h.paymentIntents
  · rw [hplan.paymentIntents]
    exact h.idempotencyKeys
  · rw [hplan.paymentIntents]
    exact h.intentAuthorizations
  · rw [hplan.outboxEvents]
    exact h.outboxEvents
  · intro x hx
    rw [hplan.constraints, hc] at hx
    rcases List.mem_append.mp hx with hx | hx
    · exact hgrows.named h.missions (h.constrained x hx)
    · rw [List.mem_singleton.mp hx, hplan.missions]
      exact ⟨d.mission, by simp, hcm.symm⟩
  · intro x hx
    rw [hplan.decisions, hr] at hx
    rcases List.mem_append.mp hx with hx | hx
    · exact hgrows.named h.missions (h.decided x hx)
    · rw [List.mem_singleton.mp hx, hplan.missions]
      exact ⟨d.mission, by simp, hrm.symm⟩
  · intro a ha
    rw [hplan.authorizations] at ha
    rcases List.mem_append.mp ha with ha | ha
    · exact (h.backed a ha).grows h.missions hgrows rfl
    · exact (hout.authorization ha).2.2.1
  · intro a ha m hm hma
    rw [hplan.authorizations] at ha
    rw [hplan.missions] at hm
    rcases List.mem_append.mp ha with ha | ha <;> rcases List.mem_append.mp hm with hm | hm
    · exact h.staged a ha m hm hma
    · rw [List.mem_singleton.mp hm] at hma
      exact absurd hma.symm (hauthorized a ha)
    · obtain ⟨-, ham, -⟩ := hout.authorization ha
      exact absurd (hma.trans ham) (hfresh m hm)
    · obtain ⟨-, -, -, hstaged, -⟩ := hout.authorization ha
      rw [List.mem_singleton.mp hm]
      exact hstaged
  · intro i hi
    rw [hplan.paymentIntents] at hi
    obtain ⟨a, ha, hp⟩ := h.paying i hi
    rw [hplan.authorizations]
    exact ⟨a, List.mem_append_left _ ha, hp⟩
  · intro a ha hconsumed
    rw [hplan.authorizations] at ha
    rw [hplan.paymentIntents]
    rcases List.mem_append.mp ha with ha | ha
    · exact h.consumed a ha hconsumed
    · exact absurd hconsumed (hout.authorization ha).2.2.2.2
  · rw [hplan.paymentIntents]
    exact h.committable
  · rw [hplan.outboxEvents, hplan.paymentIntents]
    exact h.enqueued

end Consistent

end Pactra
