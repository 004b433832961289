import EvidenceRank.Data.Source
import EvidenceRank.Decimal.Layout
import EvidenceRank.Score

/-!
# Score columns

Scores of different channels live on unrelated scales, so a column is rescaled before it is
combined with others. `ColumnStats.ofScores?` summarises a column once (`from_scores`), and the two
normalisers rescale a value by a summary (`zero_score`, `min_max_centered`).

A column without spread has no meaningful scale: the normalisers refuse with `Degenerate`, which
tells the spread that cannot be divided by (`is_usable_spread`).
-/

namespace EvidenceRank

/-- The summary of a column of scores. -/
structure ColumnStats (σ : Type) where
  count : Nat
  min : σ
  max : σ
  mean : σ
  /-- The deviation of a sample, whose variance divides by one less than the count. -/
  std : σ

/-- A column has no usable spread. -/
structure Degenerate (σ : Type) where
  spread : σ

def Degenerate.message (d : Degenerate Float) : String :=
  s!"degenerate score distribution (spread {Decimal.plainText d.spread})"

namespace ColumnStats

variable {σ : Type} [Score σ]

/-- The deviation of a column from its mean; none for a single value. -/
def deviation (column : List σ) (mean : σ) : σ :=
  if 1 < column.length then
    Score.sqrt (Score.sum (column.map fun s => (s - mean) * (s - mean))
      / Score.ofCount (column.length - 1))
  else 0.0

/-- The summary of a column that is not empty. -/
def ofScores? (column : List σ) : Option (ColumnStats σ) :=
  if column.isEmpty then none
  else
    let mean := Score.sum column / Score.ofCount column.length
    some
      { count := column.length
        min := Score.least column
        max := Score.greatest column
        mean
        std := deviation column mean }

/-- A spread that can be divided by. -/
def usable (spread : σ) : Bool := Score.isFinite spread && Score.lt 0.0 spread

/-- The distance from the mean, in deviations. -/
def zeroScore (stats : ColumnStats σ) (x : σ) : Except (Degenerate σ) σ :=
  if usable stats.std && Score.isFinite stats.mean then .ok ((x - stats.mean) / stats.std)
  else .error ⟨stats.std⟩

/-- The distance from the middle of the range, in widths of the range. -/
def minMaxCentered (stats : ColumnStats σ) (x : σ) : Except (Degenerate σ) σ :=
  let spread := stats.max - stats.min
  if usable spread then .ok ((x - (stats.min + stats.max) / 2.0) / spread)
  else .error ⟨spread⟩

open Data

def read? {δ : Type} [Source δ] : δ → Option (ColumnStats Float) :=
  record do
    let count ← required "count" nat?
    let min ← required "min" Source.double?
    let max ← required "max" Source.double?
    let mean ← required "mean" Source.double?
    let std ← required "std" Source.double?
    return { count, min, max, mean, std }

def toJson (s : ColumnStats Float) : Json :=
  .obj [("count", .ofNat s.count), ("min", .ofDouble s.min), ("max", .ofDouble s.max),
    ("mean", .ofDouble s.mean), ("std", .ofDouble s.std)]

end ColumnStats

namespace Column

variable {σ : Type} [Score σ]

/-- Rescale every value; one that cannot be rescaled becomes `fallback`. -/
def rescale (fallback : σ) (f : σ → Except (Degenerate σ) σ) (column : List σ) : List σ :=
  column.map fun x => match f x with
    | .ok y => y
    | .error _ => fallback

/-- Where a column without spread stands after centring: every row is a best row. -/
def flatCentered : σ := 0.5

/-- Where a column without spread stands in deviations: every row is average. -/
def flatDeviation : σ := 0.0

/-- Rescale by a given summary to the middle of its range. -/
def centerBy (stats : ColumnStats σ) (column : List σ) : List σ :=
  rescale flatCentered stats.minMaxCentered column

/-- Rescale by the column's own summary to the middle of its range. -/
def center (column : List σ) : List σ :=
  match ColumnStats.ofScores? column with
  | some stats => centerBy stats column
  | none => []

/-- Rescale by a given summary to deviations from its mean. -/
def standardizeBy (stats : ColumnStats σ) (column : List σ) : List σ :=
  rescale flatDeviation stats.zeroScore column

end Column
end EvidenceRank
