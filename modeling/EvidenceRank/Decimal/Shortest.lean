import EvidenceRank.Decimal.Binary

/-!
# Shortest decimals

`shortest` finds the decimal with the fewest digits that reads back as a given binary number, and
among those the one nearest to it. The decimals whose last digit has weight `10 ^ k` form a grid;
if a point of it rounds to the number, so does one of the number's two neighbours on the grid.
The search goes from coarse grids to fine ones and takes the first with a hit.
-/

namespace EvidenceRank.Decimal

/-- Which neighbour is taken when the number lies half way between two hits. -/
inductive Tie where
  | even
  | up

/-- The decimal `digits · 10 ^ exponent`. -/
structure Digits where
  digits : Nat
  exponent : Int

/-- A number and its rounding interval on a grid, over the denominator `unit`. -/
structure OnGrid where
  low : Nat
  value : Nat
  high : Nat
  unit : Nat
  /-- The ends of the interval belong to it. -/
  closed : Bool

/-- The number in units of `10 ^ k`; the interval's ends are counted in quarters of the last bit. -/
def Binary.onGrid (b : Binary) (k : Int) : OnGrid :=
  let q := b.exponent - 2
  let scale := Nat.pow 2 q.toNat * Nat.pow 10 (-k).toNat
  { low := (4 * b.mantissa - if b.narrowBelow then 1 else 2) * scale
    value := 4 * b.mantissa * scale
    high := (4 * b.mantissa + 2) * scale
    unit := Nat.pow 2 (-q).toNat * Nat.pow 10 k.toNat
    closed := b.mantissa % 2 == 0 }

namespace OnGrid

/-- The grid point `c` rounds to the number. -/
def hits (g : OnGrid) (c : Nat) : Bool :=
  if g.closed then g.low ≤ c * g.unit && c * g.unit ≤ g.high
  else g.low < c * g.unit && c * g.unit < g.high

/-- The nearest grid point that rounds to the number. -/
def nearest? (g : OnGrid) (tie : Tie) : Option Nat :=
  let below := g.value / g.unit
  let above := below + 1
  match g.hits below, g.hits above with
  | false, false => none
  | true, false => some below
  | false, true => some above
  | true, true =>
    match compare (g.value - below * g.unit) (above * g.unit - g.value), tie with
    | .lt, _ => some below
    | .gt, _ => some above
    | .eq, .up => some above
    | .eq, .even => some (if below % 2 == 0 then below else above)

end OnGrid

/-- The first hit on the grids `10 ^ k`, `10 ^ (k - 1)`, …, of which at most `fuel` are tried. -/
def firstHit (b : Binary) (tie : Tie) : Nat → Int → Digits
  | 0, k => ⟨0, k⟩
  | fuel + 1, k =>
    match (b.onGrid k).nearest? tie with
    | some c => ⟨c, k⟩
    | none => firstHit b tie fuel (k - 1)

/-- The shortest decimal that reads back as `b`. The first grid is coarser than the number; twenty
grids later even seventeen digits are reached. -/
def shortest (b : Binary) (tie : Tie) : Digits :=
  firstHit b tie 24 ((b.mantissa.log2 + b.exponent + 1) * 30103 / 100000 + 2)

/-- The number rounded to `places` decimal places, in units of the last place; a half goes to the
even neighbour. -/
def Binary.rounded (b : Binary) (places : Nat) : Nat :=
  let num := b.mantissa * Nat.pow 2 b.exponent.toNat * Nat.pow 10 places
  let den := Nat.pow 2 (-b.exponent).toNat
  let below := num / den
  match compare (2 * (num % den)) den with
  | .lt => below
  | .gt => below + 1
  | .eq => if below % 2 == 0 then below else below + 1

end EvidenceRank.Decimal
