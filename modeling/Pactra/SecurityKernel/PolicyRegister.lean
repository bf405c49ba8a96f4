import Pactra.PolicyEngine.Engine
import Pactra.Schemas.Provenance

/-!
# Protected policy register

`services/security_kernel/authority.py` and `policy_register.py`, and the part of `ingress.py` that
fills the register: the user's policy fields are held at user-policy authority, and every attempt to
write one goes through the authority lattice. A write of merchant data is an escalation, which leaves
the register as it was.

## Main results

- `mergeKeepHigher_ok` — the value that wins has at least the authority of the one it replaces
- `apply_untrusted` — a register of user-policy values refuses merchant data
-/

namespace Pactra

namespace SecurityKernel

/-- `AuthorityEscalation`, by what its handler reads. -/
structure AuthorityEscalation where
  source : AuthorityLevel
  target : AuthorityLevel
  field : String

/-- `merge_keep_higher`. -/
def mergeKeepHigher {α : Type} (field : String) (current incoming : Provenanced α) :
    Except AuthorityEscalation (Provenanced α) :=
  if incoming.authority.value < current.authority.value then
    .error { source := incoming.authority, target := current.authority, field := field }
  else .ok incoming

/-- The value that wins has at least the authority of the one it replaces. -/
theorem mergeKeepHigher_ok {α : Type} {field : String} {current incoming winner : Provenanced α}
    (h : mergeKeepHigher field current incoming = .ok winner) :
    winner = incoming ∧ current.authority.value ≤ winner.authority.value := by
  unfold mergeKeepHigher at h
  split at h
  · cases h
  · next hle =>
    cases h
    exact ⟨rfl, Nat.le_of_not_lt hle⟩

/-- `ProtectedPolicyRegister`: the protected fields with their values, in order. -/
abbrev ProtectedPolicyRegister := List (String × Provenanced PyJson)

namespace ProtectedPolicyRegister

/-- `is_protected`. -/
def isProtected (register : ProtectedPolicyRegister) (field : String) : Bool :=
  (register.lookup field).isSome

/-- `get`. -/
def get {σ : Type} (register : ProtectedPolicyRegister) (field : String) :
    Tx σ Exc (Provenanced PyJson) :=
  match register.lookup field with
  | none =>
    Tx.raise (.invariantViolation "policy_register.field_is_protected"
      ("'" ++ field ++ "' is not a protected policy field"))
  | some value => pure value

/-- `self._values[field] = updated`, for a field that is present. -/
def store (register : ProtectedPolicyRegister) (field : String) (updated : Provenanced PyJson) :
    ProtectedPolicyRegister :=
  register.map fun entry => if entry.1 = field then (field, updated) else entry

/-- `apply`: the register after a write that was allowed, or the escalation that a write of lower
authority is. -/
def apply {σ : Type} (register : ProtectedPolicyRegister) (field : String)
    (incoming : Provenanced PyJson) :
    Tx σ Exc (Except AuthorityEscalation ProtectedPolicyRegister) := do
  let current ← register.get field
  match mergeKeepHigher field current incoming with
  | .error escalation => pure (.error escalation)
  | .ok updated => pure (.ok (register.store field updated))

end ProtectedPolicyRegister

/-- `ingest_user_policy_value`. -/
def ingestUserPolicyValue (field : String) (value : PyJson) : Provenanced PyJson :=
  authoritative value ("user-policy:" ++ field)

/-- `protected_policy_values`. -/
def protectedPolicyValues (c : MissionConstraints) : ProtectedPolicyRegister :=
  [("soft_budget_inr", .int c.softBudgetInr), ("hard_limit_inr", .int c.hardLimitInr),
   ("currency", .str c.currency), ("min_rating", .float c.minRating),
   ("allowed_merchants", match c.allowedMerchants with
     | none => .null
     | some l => .arr (l.map .str)),
   ("blocked_merchants", .arr (c.blockedMerchants.map .str)),
   ("min_merchant_trust", .float c.minMerchantTrust)].map
    fun entry => (entry.1, ingestUserPolicyValue entry.1 entry.2)

-- ════════════════════════════════════════════════════════════════════════
-- Escalations
-- ════════════════════════════════════════════════════════════════════════

section Escalation

variable {σ : Type} {register : ProtectedPolicyRegister} {field : String}

/-- Every value of the register is held at user-policy authority. -/
def ProtectedPolicyRegister.UserPolicy (register : ProtectedPolicyRegister) : Prop :=
  ∀ entry ∈ register, entry.2.authority = .userPolicy

lemma userPolicy_protectedPolicyValues (c : MissionConstraints) :
    (protectedPolicyValues c).UserPolicy := by
  intro entry hentry
  obtain ⟨_, -, rfl⟩ := List.mem_map.mp hentry
  rfl

/-- A register of user-policy values refuses merchant data. -/
theorem apply_untrusted (hregister : register.UserPolicy) (hfield : register.isProtected field)
    (attempted : PyJson) (source : String) (s : σ) :
    (register.apply field (untrusted attempted source)).run s =
      (.ok (.error { source := .merchantData, target := .userPolicy, field := field }), s) := by
  obtain ⟨current, hcurrent⟩ := Option.isSome_iff_exists.mp hfield
  obtain ⟨before, after, hsplit, -⟩ := List.lookup_eq_some_iff.mp hcurrent
  have huser : current.authority = .userPolicy := hregister (field, current) (by simp [hsplit])
  have hget : (register.get field : Tx σ Exc _).run s = (.ok current, s) := by
    unfold ProtectedPolicyRegister.get
    rw [hcurrent]
    rfl
  unfold ProtectedPolicyRegister.apply
  rw [Tx.run_bind_of_ok hget]
  simp [mergeKeepHigher, huser, untrusted, AuthorityLevel.value]

end Escalation

end SecurityKernel

end Pactra
