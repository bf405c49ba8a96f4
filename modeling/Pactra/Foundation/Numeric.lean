import Mathlib.Algebra.Group.Nat.Defs
import Mathlib.Data.Rat.Defs
import Mathlib.Tactic.Common

/-!
# Rounding and calendar arithmetic

Exact models of library functions: rounding a number to the nearest integer with ties to even,
rounding a rational or an integer to the nearest IEEE 754 double, and splitting an instant into
civil date and time.
-/

namespace Numeric

/-- Round to the nearest integer, ties to even. -/
def roundHalfEven (q : Rat) : Int :=
  let lower := q.floor
  let rest := q - lower
  if rest < 1 / 2 then lower
  else if 1 / 2 < rest then lower + 1
  else if lower % 2 = 0 then lower else lower + 1

/-- `2 ^ e` for an integer exponent. -/
def twoPow (e : Int) : Rat :=
  if 0 ≤ e then ((2 ^ e.toNat : Nat) : Rat) else 1 / ((2 ^ (-e).toNat : Nat) : Rat)

/-- The exponent of the last binary digit a double keeps of a positive number. -/
def ulpExponent (q : Rat) : Int :=
  let guess : Int := (Nat.log2 q.num.toNat : Int) - Nat.log2 q.den
  let exponent := if twoPow guess ≤ q then guess else guess - 1
  max (exponent - 52) (-1074)

/-- The double nearest to a non-negative rational, ties to even. -/
def toDouble (q : Rat) : Rat :=
  if q ≤ 0 then 0
  else
    let e := ulpExponent q
    (roundHalfEven (q / twoPow e) : Rat) * twoPow e

/-- The double nearest to a rational, ties to even. -/
def nearestDouble (q : Rat) : Rat := if q < 0 then -toDouble (-q) else toDouble q

/-- The least whole number that rounds beyond the largest double. -/
@[irreducible] def floatBound : Nat := 2 ^ 1024 - 2 ^ 970

/-- A number whose nearest double is finite. -/
def FitsDouble (q : Rat) : Prop := -(floatBound : Rat) < q ∧ q < floatBound

instance : DecidablePred FitsDouble := fun q => by unfold FitsDouble; infer_instance

/-- `float(n)` of an integer, which overflows from `floatBound` on. -/
def floatOfInt (n : Int) : Option Rat :=
  if floatBound ≤ n.natAbs then none else some (n.sign * toDouble n.natAbs)

/-- A civil date. -/
structure CivilDate where
  year : Int
  month : Int
  day : Int

/-- The proleptic Gregorian date `days` days after 1970-01-01. -/
def civilFromDays (days : Int) : CivilDate :=
  let z := days + 719468
  let era := z / 146097
  let doe := z % 146097
  let yoe := (doe - doe / 1460 + doe / 36524 - doe / 146096) / 365
  let doy := doe - (365 * yoe + yoe / 4 - yoe / 100)
  let mp := (5 * doy + 2) / 153
  let month := if mp < 10 then mp + 3 else mp - 9
  ⟨yoe + era * 400 + (if month ≤ 2 then 1 else 0), month, doy - (153 * mp + 2) / 5 + 1⟩

/-- A number in decimal, padded with zeros on the left to a given width. -/
def zeroPad (width : Nat) (n : Int) : String :=
  let digits := toString n.toNat
  String.ofList (List.replicate (width - digits.length) '0') ++ digits

end Numeric
