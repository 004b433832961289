import EvidenceRank.Lists.Distinct
import EvidenceRank.Score
import EvidenceRank.Text.LowerCase
import EvidenceRank.Text.Normal

/-!
# Character overlap

How well a title matches a query by its characters alone (`lexical_scores`). A title that equals the
query, apart from case and spacing (`normalize_for_match`), is an exact match and scores far above
all others. Otherwise the share of the query's characters that the title has counts, from four
fifths on.
-/

namespace EvidenceRank.Faq

/-- The form in which titles and queries are compared. -/
def matchForm (s : String) : String := Text.withoutSpaces (Text.lowerCase (Text.trim s))

variable {σ : Type} [Score σ]

/-- The score of an exact match. -/
def exactScore : σ := 100.0

/-- The score of a title that does not match. -/
def noMatchScore : σ := -1.0

/-- The share from which on a title matches. -/
def overlapThreshold : σ := 0.8

/-- The distinct characters of a text. -/
def characters (s : String) : List Char := Lists.distinctBy id s.toList

/-- The share of the query's characters that the title has; none of an empty query. -/
def sharedRatio (title query : String) : σ :=
  let wanted := characters query
  let found := wanted.countP fun c => title.toList.contains c
  if wanted.isEmpty then 0.0 else Score.ofCount found / Score.ofCount wanted.length

/-- The overlap score of a title. -/
def overlapScore (query title : String) : σ :=
  if matchForm title == matchForm query then exactScore
  else
    let ratio : σ := sharedRatio title query
    if Score.le overlapThreshold ratio then (ratio - overlapThreshold) * 5.0 else noMatchScore

end EvidenceRank.Faq
