/-!
# Binary floats as numbers

A finite positive float is `mantissa · 2 ^ exponent`. The reals that round to it form an interval
around it whose ends lie half way to its neighbours; below a power of two the neighbour is only
half as far away.
-/

namespace EvidenceRank.Decimal

/-- A positive binary number together with the shape of its rounding interval. -/
structure Binary where
  mantissa : Nat
  exponent : Int
  /-- The next smaller float is only half as far away as the next larger one. -/
  narrowBelow : Bool

/-- What a float stands for. -/
inductive Reading where
  | nan
  | infinite (negative : Bool)
  | zero (negative : Bool)
  | number (negative : Bool) (magnitude : Binary)

/-- Decode the sign, exponent and fraction of a format whose fraction has `width` bits and whose
exponents go up to `top`; `bias` is the exponent of the smallest number. -/
def Reading.ofParts (width top : Nat) (bias : Int) (negative : Bool) (exponent fraction : Nat) :
    Reading :=
  if exponent == top then
    if fraction == 0 then .infinite negative else .nan
  else if exponent == 0 then
    if fraction == 0 then .zero negative else .number negative ⟨fraction, bias, false⟩
  else
    .number negative ⟨fraction + Nat.pow 2 width, bias + (exponent - 1 : Nat),
      fraction == 0 && exponent > 1⟩

/-- The bits from `low` on, so many of them. -/
def bitField (bits low width : Nat) : Nat :=
  bits / Nat.pow 2 low % Nat.pow 2 width

/-- What a double precision float stands for. -/
def Reading.ofDouble (x : Float) : Reading :=
  let bits := x.toBits.toNat
  .ofParts 52 2047 (-1074) (bitField bits 63 1 == 1) (bitField bits 52 11) (bitField bits 0 52)

/-- What a single precision float stands for. -/
def Reading.ofSingle (x : Float32) : Reading :=
  let bits := x.toBits.toNat
  .ofParts 23 255 (-149) (bitField bits 31 1 == 1) (bitField bits 23 8) (bitField bits 0 23)

end EvidenceRank.Decimal
