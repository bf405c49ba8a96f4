import Pactra.Schemas.Domain
import Pactra.Foundation.Sha256

/-!
# Canonical messages and digests

`packages/schemas/canonical.py`: type-tagged values, encoded as a sorted JSON object in ASCII and
prefixed with a domain string and the unit separator.
-/

namespace Pactra

/-- The values a canonical message may cover. -/
inductive CanonicalValue where
  | str (s : String)
  | int (n : Int)
  | bool (b : Bool)
  | datetime (t : Datetime)
  | none

namespace Canonical

/-- `_encode_value`: one value as `[type_tag, payload]`. -/
def encodeValue : CanonicalValue → Json
  | .bool b => .arr [.str "b", .bool b]
  | .int n => .arr [.str "i", .int n]
  | .str s => .arr [.str "s", .str s]
  | .datetime t => .arr [.str "t", .str t.encodeTimestamp]
  | .none => .arr [.str "n", .null]

/-- `s.encode("ascii")`, for an ASCII text. -/
def asciiBytes (s : String) : List Nat := s.toUTF8.data.toList.map UInt8.toNat

/-- `canonical_bytes`. No field is a float, so how one would be rendered does not matter. -/
def canonicalBytes (fields : List (String × CanonicalValue)) : List Nat :=
  asciiBytes (Json.dumps (fun _ => "") true
    (.obj (fields.map (fun p => (p.1, encodeValue p.2)))))

/-- `canonical_message`: domain, unit separator, encoded fields. -/
def canonicalMessage (domain : String) (fields : List (String × CanonicalValue)) : List Nat :=
  asciiBytes domain ++ 0x1f :: canonicalBytes fields

/-- `canonical_digest`. -/
def canonicalDigest (domain : String) (fields : List (String × CanonicalValue)) : String :=
  Sha256.hexdigest (canonicalMessage domain fields)

end Canonical

end Pactra
