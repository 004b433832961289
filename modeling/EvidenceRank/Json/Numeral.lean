import EvidenceRank.Json.Value

/-!
# Numerals

How a numeral becomes a number. One without point and exponent is an integer if it fits into 64
bits, signed when negative. Any other is a double, computed in two roundings: its leading digits,
as many as 64 bits hold, are rounded to a double, which is then scaled by a power of ten.

A numeral whose value is too large for a double has no number.
-/

namespace EvidenceRank.Json

/-- A numeral in its parts. -/
structure Numeral where
  negative : Bool
  whole : List Char
  fraction : Option (List Char)
  /-- The exponent's sign is negative, and its digits. -/
  exponent : Option (Bool × List Char)

def digitValue (c : Char) : Nat := c.toNat - '0'.toNat

def natOfDigits (ds : List Char) : Nat :=
  ds.foldl (fun n c => 10 * n + digitValue c) 0

/-- Append digits to `n` as long as 64 bits hold the result; also how many were appended. -/
def gather (n : Nat) (taken : Nat) : List Char → Nat × Nat
  | [] => (n, taken)
  | c :: cs =>
    if 10 * n + digitValue c < Nat.pow 2 64 then gather (10 * n + digitValue c) (taken + 1) cs
    else (n, taken)

/-- Scale by a power of ten, in steps that a double can hold. `none` if the result is too large. -/
def scale : Nat → Float → Int → Option Float
  | 0, x, _ => some x
  | fuel + 1, x, e =>
    if e.natAbs ≤ 308 then
      let power := Float.ofScientific 1 false e.natAbs
      if 0 ≤ e then
        let y := x * power
        if y.isInf then none else some y
      else some (x / power)
    else if x == 0.0 then some x
    else if 0 ≤ e then none
    else scale fuel (x / Float.ofScientific 1 false 308) (e + 308)

namespace Numeral

/-- The significant digits that are used, and the power of ten they are scaled by. -/
def significand (n : Numeral) : Nat × Int :=
  let (whole, used) := gather 0 0 n.whole
  let (all, behind) := gather whole 0 (n.fraction.getD [])
  let power : Int := match n.exponent with
    | none => 0
    | some (true, ds) => -(natOfDigits ds : Int)
    | some (false, ds) => natOfDigits ds
  (all, ((n.whole.length - used : Nat) : Int) - behind + power)

/-- The double that the numeral stands for, if it is not too large. -/
def toDouble? (n : Numeral) : Option Float :=
  let (s, e) := n.significand
  (scale (e.natAbs / 308 + 2) (Float.ofNat s) e).map fun x => if n.negative then -x else x

/-- The integer that the numeral stands for, if it is written as one and 64 bits hold it. A
negative zero is none. -/
def toInt? (n : Numeral) : Option Int :=
  if n.fraction.isSome || n.exponent.isSome then none
  else
    let v := natOfDigits n.whole
    if n.negative then
      if 0 < v && v ≤ Nat.pow 2 63 then some (-(v : Int)) else none
    else if v < Nat.pow 2 64 then some v
    else none

/-- The value of the numeral. -/
def toJson (n : Numeral) : Json :=
  match n.toInt? with
  | some i => .num (.int i)
  | none => match n.toDouble? with
    | some x => .num (.double x)
    | none => .sealed

end Numeral
end EvidenceRank.Json
