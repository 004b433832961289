import EvidenceRank.Decimal.Layout
import EvidenceRank.Faq.Entry
import EvidenceRank.Json.Writer
import EvidenceRank.Pipeline

/-!
# Reports

How results are printed: as text to be read, or as an interchange value with the time of printing.

* `preview`: a text on one line, cut to a fixed number of characters (`preview`).
* `rankText`, `faqText`: the text reports (`print_rank_output`, `print_faq_ranking`).
* `stamped`: the report as an interchange value (`JsonReport`).
-/

namespace EvidenceRank.Cli

/-- A text of lines, each with its line break. -/
def unlines (lines : List String) : String := String.join (lines.map (· ++ "\n"))

/-- Fill with blanks behind the text up to a width. -/
def padEnd (width : Nat) (s : String) : String :=
  s ++ String.ofList (List.replicate (width - s.length) ' ')

/-- Fill with blanks in front of the text up to a width. -/
def padStart (width : Nat) (s : String) : String :=
  String.ofList (List.replicate (width - s.length) ' ') ++ s

/-- A score with four digits behind the point, in a column of eight. -/
def scoreText (score : Float) : String :=
  padStart 8 (Decimal.fixed 4 (.ofDouble score))

/-- How many characters of a text are shown. -/
def previewLength : Nat := 80

/-- A text on one line; a long one is cut and ends in dots. -/
def preview (text : String) : String :=
  let flat := text.toList.map fun c => if c == '\n' then ' ' else c
  if flat.length ≤ previewLength then String.ofList flat
  else String.ofList (flat.take previewLength) ++ "..."

/-! ## Rankings -/

/-- A slice by its number, its score and the start of its text. -/
def sliceLine (s : CitedSlice Float) : String :=
  s!"      #{padEnd 4 (toString s.no.toInt)} {scoreText s.score}  {preview s.content}"

/-- A citation with its number. -/
def citationLines (number : Nat) (c : Citation Float) : List String :=
  ["", s!"  [{number}] {c.document.name} ({c.slices.length} slices)"] ++ c.slices.map sliceLine

def hitCountsText (c : HitCounts) : String :=
  s!"{c.allHit} all-hit, {c.onlyDense} dense-only, {c.onlySparse} sparse-only"

/-- The citations of a source, numbered from one. -/
def citationsLines (citations : List (Citation Float)) : List String :=
  if citations.isEmpty then ["  (no citations)"]
  else (((List.range citations.length).map (· + 1)).zip citations).flatMap fun (n, c) =>
    citationLines n c

def sourceLines (r : SourceReport Float) : List String :=
  [s!"SOURCE {r.dataSource}",
    s!"  fused: {r.fusedRows} rows ({hitCountsText r.hitCounts})",
    s!"  kept:  {r.expandedRows} rows, expansion {r.expansion.label}"]
    ++ citationsLines r.citations ++ [""]

/-- The text report of a ranking. Failures are not part of it. -/
def rankText (o : RankOutput Float) : String :=
  if o.reports.isEmpty && o.failures.isEmpty then unlines ["No data sources in request."]
  else unlines (o.reports.flatMap sourceLines)

/-! ## FAQ rankings -/

/-- An answer by the first title of its entry. -/
def answerLine (a : Faq.Answer Float) : String :=
  let title := a.entry.titles.headD ""
  s!"  [{a.index}] {scoreText a.score}  {preview title}"

/-- The text report of a FAQ ranking. -/
def faqText (r : Faq.Ranking Float) : String :=
  if r.answers.isEmpty then unlines ["No FAQ answers."]
  else unlines ((if r.confident then "Confident answer:" else "Candidate answers:")
    :: r.answers.map answerLine)

/-! ## Interchange reports -/

/-- The members of a result behind the time of printing. -/
def stamped (time : String) (members : List (String × Json)) : String :=
  unlines [(Json.obj (("generatedAt", .str time) :: members)).pretty]

end EvidenceRank.Cli
