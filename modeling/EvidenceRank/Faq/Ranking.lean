import EvidenceRank.Config.Basic
import EvidenceRank.Faq.Entry
import EvidenceRank.Faq.Outlier
import EvidenceRank.Faq.Overlap
import EvidenceRank.Query
import EvidenceRank.Reranker

/-!
# FAQ ranking

Ranking entries against a query (`rank`) gives either a confident answer or a short list.

1. Every title (`flatten`) is scored by the mean of its reranker score and its overlap with the
   query.
2. An exact title wins outright. Otherwise the titles' scores are summed per entry, and entries
   whose sums stand out are confident.
3. Without a confident entry, titles and answers are reranked together, and the best entries are
   listed (`fallback`).

Scores that cannot be ordered end the ranking, in either of its two orderings.
-/

namespace EvidenceRank.Faq

/-- A text with the position of the entry that it belongs to. -/
structure Tagged where
  owner : Nat
  text : String

/-- Image details of at most this many characters are left out. -/
def shortDetail : Nat := 2

/-- A detail of an image that says nothing new: a very short one, or a caption that repeats a
title. -/
def idleDetail (titles : List String) (kind detail : String) : Bool :=
  let detail := Text.trim detail
  detail.toList.length ≤ shortDetail
    || (kind == "image" && titles.any fun t => Text.trim t == detail)

/-- The texts of a fragment that answer something. -/
def Fragment.texts (titles : List String) (f : Fragment) : List String :=
  match f.kind with
  | .text => [f.content]
  | .image => (f.details.entries.filter fun (k, d) => !idleDetail titles k d).map (·.2)
  | .other => []

/-- The texts that `texts` picks from each entry. -/
def tagged (texts : Entry → List String) (entries : List Entry) : List Tagged :=
  ((List.range entries.length).zip entries).flatMap fun (i, e) => (texts e).map (Tagged.mk i)

/-- All titles. -/
def questions (entries : List Entry) : List Tagged := tagged (·.titles) entries

/-- All titles and answers; an entry's titles come first. -/
def questionsAnswers (entries : List Entry) : List Tagged :=
  tagged (fun e => e.titles ++ e.fragments.flatMap (·.texts e.titles)) entries

/-- A title with its scores. -/
structure ScoredTitle (σ : Type) where
  owner : Nat
  overlap : σ
  /-- The mean of the reranker's score and the overlap. -/
  combined : σ

section
variable {σ : Type} [Score σ]

def scoreTitle (query : String) (t : Tagged) (relevance : σ) : ScoredTitle σ :=
  let overlap := overlapScore query t.text
  ⟨t.owner, overlap, (relevance + overlap) / 2.0⟩

/-- The sum of the titles' scores of each entry that has titles, in the order of the entries. -/
def entryScores (titles : List (ScoredTitle σ)) : List (Nat × σ) :=
  (Lists.distinctBy id (titles.map (·.owner))).map fun owner =>
    (owner, Score.sum ((titles.filter (·.owner == owner)).map (·.combined)))

/-- The titles that are chosen with confidence: the first exact one, or else the first title of
each entry that stands out. -/
def confidentTitles (multiplier : σ) (titles : List (ScoredTitle σ)) :
    Option (List (ScoredTitle σ)) :=
  match titles.find? fun t => Score.same t.overlap exactScore with
  | some t => some [t]
  | none => do
    let scores := entryScores titles
    let places ← outliers multiplier (scores.map (·.2))
    return places.filterMap fun i => do
      let (owner, _) ← scores[i]?
      titles.find? (·.owner == owner)

/-- The answer that an entry with a score is. -/
def answerOf? (entries : List Entry) (owner : Nat) (score : σ) : Option (Answer σ) :=
  entries[owner]?.map fun e => ⟨owner, e, score⟩

/-- The best text of each entry, best first. -/
def bestTexts (scored : List (Nat × σ)) : Option (List (Nat × σ)) := do
  let ranked ←
    Lists.rankScores (fun s => !Score.isNaN s.2) (fun a b => Score.lt b.2 a.2) 8 scored
  return Lists.distinctBy (·.1) ranked

variable {m : Type → Type} [Monad m]

/-- The best entries by all their texts. No text is scored when no entry may be listed. -/
def fallback (config : FaqConfig σ) (reranker : Reranker m σ) (query : String)
    (entries : List Entry) : ExceptT Halt m (List (Answer σ)) := do
  if config.fallbackLimit = 0 then return []
  let texts := questionsAnswers entries
  let scores ← Halt.failing (reranker.scoreAll query (texts.map (·.text)))
  let best ← Halt.ordering (bestTexts ((texts.map (·.owner)).zip scores))
  return (best.take config.fallbackLimit).filterMap fun (owner, s) => answerOf? entries owner s

/-- Rank entries against the effective form of a query. -/
def rank (config : FaqConfig σ) (reranker : Reranker m σ) (input : Query)
    (entries : List Entry) : ExceptT Halt m (Ranking σ) := do
  let query := input.effective
  let texts := questions entries
  let relevance ← Halt.failing (reranker.scoreAll query (texts.map (·.text)))
  let chosen ← Halt.ordering (confidentTitles config.outlierMultiplier
    (List.zipWith (scoreTitle query) texts relevance))
  if chosen.isEmpty then
    return ⟨← fallback config reranker query entries, false⟩
  else
    let answers := (Lists.distinctBy (·.owner) chosen).filterMap fun t =>
      answerOf? entries t.owner t.combined
    return ⟨answers, chosen.length == 1⟩

end
end EvidenceRank.Faq
