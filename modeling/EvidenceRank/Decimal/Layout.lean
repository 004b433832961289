import EvidenceRank.Decimal.Shortest

/-!
# Decimal text

How the digits of a decimal are laid out. A `Layout` says which decimals are written positionally,
what follows a whole number, and which of two equally near decimals is taken.

* `plain`: never an exponent, as numbers stand in messages.
* `interchange`, `interchangeSingle`: what interchange files hold for double and single precision.
-/

namespace EvidenceRank.Decimal

structure Layout where
  /-- Written positionally, given the number of digits in front of the point. -/
  positional : Int → Bool
  /-- What follows the digits of a whole number. -/
  whole : String
  tie : Tie

/-- Positional at every size, and a whole number without a point. -/
def plain : Layout := ⟨fun _ => true, "", .up⟩

/-- Positional from `0.00001` up to sixteen digits; a whole number ends in `.0`. -/
def interchange : Layout := ⟨fun p => -5 < p && p ≤ 16, ".0", .even⟩

/-- Positional from `0.000001` up to thirteen digits; a whole number ends in `.0`. -/
def interchangeSingle : Layout := ⟨fun p => -6 < p && p ≤ 13, ".0", .even⟩

/-- The decimal digits of a number. -/
def digitsOf (n : Nat) : List Char := Nat.toDigits 10 n

def zeros (n : Nat) : List Char := List.replicate n '0'

/-- Lay out the digits `ds` with the weight `10 ^ k` on the last one. -/
def Layout.place (layout : Layout) (ds : List Char) (k : Int) : List Char :=
  let point : Int := ds.length + k
  if layout.positional point then
    if 0 ≤ k then ds ++ zeros k.toNat ++ layout.whole.toList
    else if 0 < point then ds.take point.toNat ++ '.' :: ds.drop point.toNat
    else '0' :: '.' :: zeros (-point).toNat ++ ds
  else
    let power := (toString (point - 1)).toList
    match ds with
    | [d] => d :: 'e' :: power
    | d :: rest => d :: '.' :: rest ++ 'e' :: power
    | [] => []

def signed (negative : Bool) (text : List Char) : String :=
  String.ofList (if negative then '-' :: text else text)

/-- The text of what a float stands for. -/
def Layout.text (layout : Layout) : Reading → String
  | .nan => "NaN"
  | .infinite negative => signed negative ['i', 'n', 'f']
  | .zero negative => signed negative ('0' :: layout.whole.toList)
  | .number negative b =>
    let d := shortest b layout.tie
    signed negative (layout.place (digitsOf d.digits) d.exponent)

/-- The text of a float with exactly `places` digits behind the point. -/
def fixed (places : Nat) : Reading → String
  | .nan => "NaN"
  | .infinite negative => signed negative ['i', 'n', 'f']
  | .zero negative => signed negative ('0' :: '.' :: zeros places)
  | .number negative b =>
    let n := b.rounded places
    let behind := digitsOf (n % Nat.pow 10 places)
    signed negative
      (digitsOf (n / Nat.pow 10 places) ++ '.' :: zeros (places - behind.length) ++ behind)

/-- The text of a double as it stands in messages. -/
def plainText (x : Float) : String := plain.text (.ofDouble x)

end EvidenceRank.Decimal
