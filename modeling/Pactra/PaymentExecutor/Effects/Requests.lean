import Pactra.PaymentExecutor.Intents
import Pactra.SecurityKernel.Lifecycle

/-!
# Requests that nothing stops

The statements of a payment request that write go through as long as the identifiers they draw are
new, and leave those that are still to be drawn new.

## Main results

- `NewIds.finished` — what follows the insert of an intent goes through
- `NewIds.resolved` — so does the answer with an existing intent
-/

namespace Pactra

open PaymentExecutor

/-- The identifiers that are drawn from a database on are new: they differ from each other and from
those of the rows. -/
structure NewIds (env : Env) (db : Db) : Prop where
  distinct : Function.Injective env.uuid4
  paymentIntents : ∀ n, db.drawn ≤ n → ∀ i ∈ db.paymentIntents, i.id ≠ env.uuid4 n
  outboxEvents : ∀ n, db.drawn ≤ n → ∀ e ∈ db.outboxEvents, e.id ≠ env.uuid4 n
  auditEvents : ∀ n, db.drawn ≤ n → ∀ e ∈ db.auditEvents, e.eventId ≠ env.uuid4 n

section NewIds

variable {env : Env} {db : Db} (h : NewIds env db)

include h

lemma NewIds.skip {n : Nat} (hn : db.drawn ≤ n) : NewIds env { db with drawn := n } where
  distinct := h.distinct
  paymentIntents k hk := h.paymentIntents k (hn.trans hk)
  outboxEvents k hk := h.outboxEvents k (hn.trans hk)
  auditEvents k hk := h.auditEvents k (hn.trans hk)

/-- An audit event is appended. -/
lemma NewIds.appended (missionId : Uuid) (entry : AuditEntry) :
    ∃ db', (appendEvent env missionId entry).run db = (.ok (), db') ∧ NewIds env db' ∧
      db.drawn ≤ db'.drawn := by
  have hfree : Table.find AuditEventRow.eventId (env.uuid4 (db.drawn + 1)) db.auditEvents = none :=
    Table.find_eq_none.mpr (h.auditEvents _ (by omega))
  rw [run_appendEvent]
  simp only [nextEventRow, hfree, Option.isSome_none, Bool.false_eq_true, if_false]
  obtain ⟨h₁, h₂, h₃, h₄⟩ := h.skip (n := db.drawn + 2) (by omega)
  refine ⟨_, rfl, ⟨h₁, h₂, h₃, fun n hn e he => ?_⟩, by simp⟩
  have hn' : db.drawn + 2 ≤ n := hn
  rcases List.mem_append.mp he with he | he
  · exact h₄ n hn e he
  · rw [List.mem_singleton.mp he]
    intro hid
    have := h.distinct hid
    omega

/-- An outbox event is inserted. -/
lemma NewIds.enqueued (intentId : Uuid) (new : NewOutboxEvent) :
    ∃ db', (insertOutboxEvents env intentId [new]).run db = (.ok (), db') ∧ NewIds env db' := by
  have hfree : db.getOutboxEvent (env.uuid4 db.drawn) = none :=
    Table.find_eq_none.mpr (h.outboxEvents _ le_rfl)
  obtain ⟨h₁, h₂, h₃, h₄⟩ := h.skip (n := db.drawn + 2) (by omega)
  have hfree' : ({ db with drawn := db.drawn + 1 + 1 } : Db).getOutboxEvent (env.uuid4 db.drawn) =
      none := hfree
  simp only [insertOutboxEvents, Tx.run_bind, run_drawUuid, run_drawNow, Tx.run_get,
    hfree', Option.isSome_none, Bool.false_eq_true, if_false, Tx.run_modify, Tx.run_pure]
  refine ⟨_, rfl, h₁, h₂, fun n hn e he => ?_, h₄⟩
  have hn' : db.drawn + 2 ≤ n := hn
  rcases List.mem_append.mp he with he | he
  · exact h₃ n hn e he
  · rw [List.mem_singleton.mp he]
    intro hid
    have : db.drawn = n := h.distinct hid
    omega

/-- An active authorization is consumed for the transaction it was issued for. -/
lemma NewIds.consumed {id : Uuid} {a : AuthorizationRow} {t : BoundTransaction} {now : Datetime}
    (ha : db.getAuthorization id = some a) (hactive : a.status = .active)
    (hdigest : a.transactionDigest = t.digest) (hexpiry : now < a.expiresAt) :
    ∃ db', (SecurityKernel.consumeAuthorization env id t now).run db = (.ok (), db') ∧
      NewIds env db' ∧ db.drawn ≤ db'.drawn := by
  have hchanged : (SecurityKernel.applyTransition id
      (fun row => row.status = .active ∧ row.transactionDigest = t.digest ∧ now < row.expiresAt)
      (fun row => { row with status := .consumed, consumedAt := some now })).run db =
      (.ok true, db.updateAuthorization id
        (fun row => { row with status := .consumed, consumedAt := some now })) := by
    change SecurityKernel.applyTransition id _ _ db = _
    simp [SecurityKernel.applyTransition, ha, hactive, hdigest, hexpiry]
  have hupdated : NewIds env (db.updateAuthorization id
      (fun row => { row with status := .consumed, consumedAt := some now })) :=
    ⟨h.distinct, h.paymentIntents, h.outboxEvents, h.auditEvents⟩
  unfold SecurityKernel.consumeAuthorization
  rw [Tx.run_bind_of_ok hchanged]
  simp only [Bool.not_true, Bool.false_eq_true, if_false]
  rw [Tx.run_bind_of_ok (SecurityKernel.reload_updated
    (fun row => { row with status := .consumed, consumedAt := some now }) (fun _ => rfl) ha)]
  exact hupdated.appended _ _

/-- What follows the insert of an intent goes through. -/
theorem NewIds.finished (args : PaymentArgs) (mission : Mission) {a : AuthorizationRow}
    {t : BoundTransaction} {intent : PaymentIntentRow} {k : Nat}
    (hfree : insertConflicts db intent = false) (hid : intent.id = env.uuid4 k) (hk : k < db.drawn)
    (ha : db.getAuthorization args.authorizationId = some a) (hactive : a.status = .active)
    (hdigest : a.transactionDigest = t.digest) (hexpiry : args.now < a.expiresAt) :
    ∃ db', (finishIntent env args t intent mission).run db = (.ok (), db') ∧ NewIds env db' := by
  obtain ⟨db₁, hconsumed, h₁, hdrawn⟩ := h.consumed ha hactive hdigest hexpiry
  have h₂ : NewIds env
      { db₁ with paymentIntents := db₁.paymentIntents ++ [{ intent with state := .queued }] } := by
    refine ⟨h₁.distinct, fun n hn i hi => ?_, h₁.outboxEvents, h₁.auditEvents⟩
    rcases List.mem_append.mp hi with hi | hi
    · exact h₁.paymentIntents n hn i hi
    · rw [List.mem_singleton.mp hi]
      intro heq
      have hkn : k = n := h.distinct (hid.symm.trans heq)
      have hn' : db₁.drawn ≤ n := hn
      omega
  obtain ⟨db₃, hcreated, h₃, -⟩ := h₂.appended args.missionId _
  obtain ⟨db₄, hqueued, h₄, -⟩ := h₃.appended args.missionId _
  obtain ⟨db₅, henqueued, h₅⟩ := h₄.enqueued intent.id _
  unfold finishIntent
  rw [Tx.run_bind_of_ok (Tx.run_get db), hfree, if_neg Bool.false_ne_true,
    Tx.run_bind_of_ok hconsumed, Tx.run_bind_of_ok (show (assertPaymentTransition .created .queued :
      DbTx Unit).run db₁ = (.ok (), db₁) from rfl), Tx.run_bind_of_ok (Tx.run_modify _ _),
    Tx.run_bind_of_ok hcreated, Tx.run_bind_of_ok hqueued, Tx.run_bind_of_ok henqueued]
  split
  · exact ⟨_, rfl, h₅.distinct, h₅.paymentIntents, h₅.outboxEvents, h₅.auditEvents⟩
  · exact ⟨_, rfl, h₅⟩

/-- A request that presents the fingerprint of an existing intent is answered with it. -/
lemma NewIds.resolved (existing : PaymentIntentRow) (key : String) :
    ∃ db', (resolveExisting env existing existing.requestFingerprint key).run db = (.ok (), db') ∧
      NewIds env db' ∧ db.SameRows db' := by
  unfold resolveExisting
  rw [if_pos rfl]
  obtain ⟨db', hrun, hids, -⟩ := h.appended existing.missionId _
  exact ⟨db', hrun, hids, sameRows_appendEvent hrun⟩

end NewIds

end Pactra
