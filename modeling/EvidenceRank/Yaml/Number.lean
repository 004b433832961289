import EvidenceRank.Yaml.Scalar

/-!
# Numbers in configuration texts

Which texts of scalars are numbers. An integer may name its base; a decimal may have a fraction and
an exponent, and is read as the nearest double.
-/

namespace EvidenceRank.Yaml

/-- Zeros in front of other digits make a text of them. -/
def isPaddedNumber (cs : List Char) : Bool :=
  let digits := match cs with
    | '-' :: ds => ds
    | '+' :: ds => ds
    | ds => ds
  1 < digits.length && digits.head? == some '0' && digits.all Char.isDigit

/-- The number that digits of a base stand for; there must be one. -/
def natInBase? (base : Nat) (cs : List Char) : Option Nat := do
  if cs.isEmpty then none
  let ds ← cs.mapM fun c => do
    let d ← hexDigit? c
    if d < base then return d else none
  return ds.foldl (fun n d => base * n + d) 0

/-- A number that is not negative, by its base's mark or in decimal digits. -/
def magnitude? : List Char → Option Nat
  | '0' :: 'x' :: cs => natInBase? 16 cs
  | '0' :: 'o' :: cs => natInBase? 8 cs
  | '0' :: 'b' :: cs => natInBase? 2 cs
  | cs => if isPaddedNumber cs then none else natInBase? 10 cs

/-- An integer of 64 bits. -/
def integer? : List Char → Option Int
  | '-' :: cs => do
    let n ← magnitude? cs
    if 0 < n && n ≤ Nat.pow 2 63 then return -(n : Int) else none
  | '+' :: cs => do
    let n ← magnitude? cs
    if n < Nat.pow 2 64 then return n else none
  | cs => do
    let n ← magnitude? cs
    if n < Nat.pow 2 64 then return n else none

/-- The double nearest to a decimal with optional fraction and exponent. At least one digit must
stand next to the point. -/
def decimal? (cs : List Char) : Option Float := do
  let whole := cs.takeWhile Char.isDigit
  let cs := cs.dropWhile Char.isDigit
  let (fraction, cs) := match cs with
    | '.' :: cs => (cs.takeWhile Char.isDigit, cs.dropWhile Char.isDigit)
    | cs => ([], cs)
  if whole.isEmpty && fraction.isEmpty then none
  let (negative, exponent, cs) ← match cs with
    | [] => pure (false, ['0'], [])
    | e :: cs =>
      if e == 'e' || e == 'E' then
        match cs with
        | '-' :: cs => pure (true, cs.takeWhile Char.isDigit, cs.dropWhile Char.isDigit)
        | '+' :: cs => pure (false, cs.takeWhile Char.isDigit, cs.dropWhile Char.isDigit)
        | cs => pure (false, cs.takeWhile Char.isDigit, cs.dropWhile Char.isDigit)
      else none
  if exponent.isEmpty || !cs.isEmpty then none
  let power := (← natInBase? 10 exponent : Nat)
  let shift : Int := (if negative then -(power : Int) else power) - fraction.length
  let digits ← natInBase? 10 (whole ++ fraction)
  return Float.ofScientific digits (shift < 0) shift.natAbs

/-- A double: a decimal that is not too large, an infinity, or no number. -/
def double? (text : String) : Option Float :=
  let unsigned := match text.toList with
    | '+' :: cs => cs
    | cs => cs
  if [".inf", ".Inf", ".INF"].contains (String.ofList unsigned) then some (1.0 / 0.0)
  else if ["-.inf", "-.Inf", "-.INF"].contains text then some (-1.0 / 0.0)
  else if [".nan", ".NaN", ".NAN"].contains text then some (0.0 / 0.0)
  else do
    let x ← match text.toList with
      | '+' :: cs => decimal? cs
      | '-' :: cs => (decimal? cs).map (- ·)
      | cs => decimal? cs
    if x.isFinite then return x else none

end EvidenceRank.Yaml
