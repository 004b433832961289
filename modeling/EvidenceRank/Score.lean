/-!
# Score arithmetic

Relevance scores are computed over any type with the operations of `Score`. Running programs use
double precision floats, for which the class has its instance here; the laws of normalisation and
fusion can be read in exact arithmetic by giving an instance for it.

* `Score.least`, `Score.greatest`: the extremes of a column (`from_scores`), where values that are
  no numbers are passed over.
-/

namespace EvidenceRank

/-- The operations and comparisons that scores need; decimal literals are those of the type. -/
class Score (σ : Type) extends Add σ, Sub σ, Mul σ, Div σ, Neg σ, OfScientific σ where
  /-- A count as a score. -/
  ofCount : Nat → σ
  /-- Square root. -/
  sqrt : σ → σ
  /-- Strictly below; `false` when one side is no number. -/
  lt : σ → σ → Bool
  /-- At or below; `false` when one side is no number. -/
  le : σ → σ → Bool
  /-- Equality of values; `false` when one side is no number. -/
  same : σ → σ → Bool
  /-- The value stands for no number. -/
  isNaN : σ → Bool
  /-- The value is a number and not infinite. -/
  isFinite : σ → Bool
  /-- What the least value of a column without numbers is. -/
  top : σ
  /-- What the greatest value of a column without numbers is. -/
  bottom : σ

instance : Score Float where
  ofCount := Float.ofNat
  sqrt := Float.sqrt
  lt a b := a < b
  le a b := a ≤ b
  same a b := a == b
  isNaN := Float.isNaN
  isFinite := Float.isFinite
  top := 1.0 / 0.0
  bottom := -1.0 / 0.0

namespace Score

variable {σ : Type} [Score σ]

/-- The better of the best value so far and `x`, where `better x b` says that `x` replaces `b`. -/
def pick (better : σ → σ → Bool) (best : Option σ) (x : σ) : Option σ :=
  if isNaN x then best
  else match best with
    | none => some x
    | some b => some (if better x b then x else b)

/-- The least number of a column. -/
def least (column : List σ) : σ :=
  (column.foldl (pick lt) none).getD top

/-- The greatest number of a column. -/
def greatest (column : List σ) : σ :=
  (column.foldl (pick fun x b => lt b x) none).getD bottom

/-- The sum of a column, from the left. -/
def sum (column : List σ) : σ :=
  column.foldl (· + ·) 0.0

end Score
end EvidenceRank
