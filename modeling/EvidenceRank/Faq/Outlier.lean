import EvidenceRank.Lists.Runs
import EvidenceRank.Score

/-!
# Outliers

Which scores of a list stand out (`confident_indices`). With five or more scores these are the ones
that reach the third quartile plus a multiple of the interquartile range, or exceed it when that
range is zero. With fewer scores only the best one can stand out, and only from a fixed score on.

Quartiles (`percentile`) need the scores in order, and if they cannot be ordered there is no answer.
-/

namespace EvidenceRank.Faq

variable {σ : Type} [Score σ]

/-- The `k`-th quartile of ascending scores, interpolated between the two nearest. The quartile
stands at `k · (n - 1) / 4`. -/
def quartile? (ascending : List σ) (k : Nat) : Option σ := do
  let quarters := k * (ascending.length - 1)
  let low ← ascending[quarters / 4]?
  let high ← ascending[(quarters + 3) / 4]?
  return low + (high - low) * (Score.ofCount (quarters % 4) / 4.0)

/-- The number of scores from which on quartiles are tested. -/
def enoughForQuartiles : Nat := 5

/-- The score from which on the best of few stands out. -/
def fewThreshold : σ := 3.0

/-- The position and value of the first score that no later one exceeds. -/
def firstBest (scores : List σ) : Option (Nat × σ) :=
  ((List.range scores.length).zip scores).foldl
    (fun best p => match best with
      | none => some p
      | some b => if Score.lt b.2 p.2 then some p else some b)
    none

/-- The positions at which `p` holds. -/
def positions (p : σ → Bool) (scores : List σ) : List Nat :=
  (((List.range scores.length).zip scores).filter fun s => p s.2).map (·.1)

/-- The position of the best of few scores, if it stands out. -/
def bestOfFew (scores : List σ) : List Nat :=
  match firstBest scores with
  | some (i, s) => if Score.le fewThreshold s then [i] else []
  | none => []

/-- The positions of the scores that stand out, given the scores in ascending order. -/
def beyondQuartiles (multiplier : σ) (scores ascending : List σ) : List Nat :=
  match quartile? ascending 1, quartile? ascending 3 with
  | some q1, some q3 =>
    let range := q3 - q1
    let bound := q3 + multiplier * range
    positions
      (fun s => if Score.lt 0.0 range then Score.le bound s else Score.lt bound s) scores
  | _, _ => []

/-- The positions of the scores that stand out. -/
def outliers (multiplier : σ) (scores : List σ) : Option (List Nat) :=
  if scores.length < enoughForQuartiles then some (bestOfFew scores)
  else do
    let ascending ← Lists.rankScores (!Score.isNaN ·) Score.lt 8 scores
    return beyondQuartiles multiplier scores ascending

end EvidenceRank.Faq
