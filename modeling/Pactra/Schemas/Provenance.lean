import Mathlib.Tactic.Common
import Pactra.Foundation.PyStr

/-!
# Provenance

`packages/schemas/provenance.py`: where a value came from, what authority its source held, and
whether it is tainted.
-/

namespace Pactra

/-- `AuthorityLevel`. -/
inductive AuthorityLevel where
  | merchantData | agentProposal | trustedInternalService | authorization | systemSecurityPolicy
  | userPolicy
deriving DecidableEq

namespace AuthorityLevel

/-- The value of a level, by which levels are ordered. -/
def value : AuthorityLevel → Nat
  | .merchantData => 10
  | .agentProposal => 20
  | .trustedInternalService => 30
  | .authorization => 40
  | .systemSecurityPolicy => 50
  | .userPolicy => 60

/-- The name of a level. -/
def name : AuthorityLevel → String
  | .merchantData => "MERCHANT_DATA"
  | .agentProposal => "AGENT_PROPOSAL"
  | .trustedInternalService => "TRUSTED_INTERNAL_SERVICE"
  | .authorization => "AUTHORIZATION"
  | .systemSecurityPolicy => "SYSTEM_SECURITY_POLICY"
  | .userPolicy => "USER_POLICY"

end AuthorityLevel

/-- `TrustLevel`. -/
inductive TrustLevel where
  | authoritative | trusted | untrusted
deriving DecidableEq

/-- The wire value of a trust level. -/
def TrustLevel.value : TrustLevel → String
  | .authoritative => "authoritative"
  | .trusted => "trusted"
  | .untrusted => "untrusted"

/-- `ProvenanceMeta`. -/
structure ProvenanceMeta where
  source : PyStr
  authority : AuthorityLevel
  trust : TrustLevel
  tainted : Bool
  transformed : Bool := false
deriving DecidableEq

/-- `Provenanced`: a value carrying its provenance and taint. -/
structure Provenanced (α : Type) where
  value : α
  source : String
  authority : AuthorityLevel
  trust : TrustLevel
  tainted : Bool
  transformed : Bool := false

/-- `authoritative`. -/
def authoritative {α : Type} (value : α) (source : String) : Provenanced α :=
  { value := value, source := source, authority := .userPolicy, trust := .authoritative,
    tainted := false }

/-- `untrusted`: merchant-controlled, of the lowest authority and always tainted. -/
def untrusted {α : Type} (value : α) (source : String) : Provenanced α :=
  { value := value, source := source, authority := .merchantData, trust := .untrusted,
    tainted := true }

end Pactra
