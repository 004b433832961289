import EvidenceRank.Candidate
import EvidenceRank.Lists.Distinct
import EvidenceRank.Lists.Ranked
import EvidenceRank.Score

/-!
# Citations

Ranked rows become citations, one per document, in the order in which the documents first appear
(`assemble`).

* `retained` drops a row that repeats a place of its document or a text already cited
  (`group_by_document`).
* Each document's slices are cut down to the budget: `trimTail` gives up slices without a
  neighbour from the tail on (`trim_isolated_tail`), and `connect` orders the rest as runs of
  adjacent segments (`connect_consecutive_numbers`).
* The document that the caller is scoped to is cited in rank order, without either step
  (`to_citation`).
-/

namespace EvidenceRank

/-- One slice inside a citation. -/
structure CitedSlice (σ : Type) where
  id : String
  /-- The segment. -/
  no : Int64
  content : String
  score : σ
  embedding : List Float32
  pages : List Int64

/-- Where the content of a citation comes from. -/
inductive CitationSource where
  | library
  | faq
deriving DecidableEq

/-- The slices of one document, grouped for display. -/
structure Citation (σ : Type) where
  objectId : String
  document : Document
  /-- The texts of the slices, one below the other. -/
  content : String
  source : CitationSource
  slices : List (CitedSlice σ)

/-- A citation as a numbered document of a prompt. -/
structure PromptDocument where
  documentId : String
  filename : String
  text : String

/-- The citation as document number `n` of a prompt. -/
def Citation.toPrompt {σ : Type} (c : Citation σ) (n : Nat) : PromptDocument :=
  ⟨toString n, c.document.name, c.content⟩

namespace Citation

variable {σ : Type}

/-! ## Rows that are cited -/

/-- The two rows stand at one place of one document. -/
def samePlace (r s : Row σ) : Bool :=
  r.document.docId == s.document.docId && r.candidate.segment == s.candidate.segment

/-- Go through the rows in order and keep each that repeats neither the place nor the text of one
kept before; `kept` is held from last to first. -/
def retainFrom (kept : List (Row σ)) : List (Row σ) → List (Row σ)
  | [] => []
  | r :: rows =>
    if kept.any fun s => samePlace s r || s.key == r.key then retainFrom kept rows
    else r :: retainFrom (r :: kept) rows

/-- The rows whose texts are cited if the budget allows. -/
def retained (rows : List (Row σ)) : List (Row σ) := retainFrom [] rows

/-! ## Trimming -/

/-- The segments are adjacent. -/
def adjacent (a b : CitedSlice σ) : Bool :=
  a.no.toInt + 1 == b.no.toInt || b.no.toInt + 1 == a.no.toInt

/-- No slice of the list is adjacent to `s`. -/
def isolated (slices : List (CitedSlice σ)) (s : CitedSlice σ) : Bool :=
  !slices.any (adjacent s)

/-- Walk down from place `i`, dropping isolated slices as long as there are more than `max`. -/
def trimFrom (max : Nat) : Nat → List (CitedSlice σ) → List (CitedSlice σ)
  | 0, slices => slices
  | i + 1, slices =>
    if slices.length ≤ max then slices
    else match slices[i]? with
      | none => trimFrom max i slices
      | some s => trimFrom max i (if isolated slices s then slices.eraseIdx i else slices)

/-- Drop isolated slices from the tail until at most `max` are left or the head is reached. -/
def trimTail (max : Nat) (slices : List (CitedSlice σ)) : List (CitedSlice σ) :=
  trimFrom max slices.length slices

/-! ## Connecting -/

/-- A slice with its rank among the slices of its document. -/
abbrev Placed (σ : Type) := Nat × CitedSlice σ

/-- The slice continues a run with the given head and last slice: it has the next number, and
does not outrank the head. -/
def continues (head last next : Placed σ) : Bool :=
  last.2.no.toInt + 1 == next.2.no.toInt && head.1 ≤ next.1

/-- Cut slices in the order of their numbers into runs. `head` is the first slice of the current
run, `run` the whole of it from last to first. -/
def runsFrom (head : Placed σ) (run : List (Placed σ)) : List (Placed σ) → List (List (Placed σ))
  | [] => [run.reverse]
  | s :: slices =>
    if (run.head?.any fun last => continues head last s) then runsFrom head (s :: run) slices
    else run.reverse :: runsFrom s [s] slices

/-- The runs of slices in the order of their numbers. -/
def runs : List (Placed σ) → List (List (Placed σ))
  | [] => []
  | s :: slices => runsFrom s [s] slices

/-- The rank of a run is that of its first slice. -/
def runRank (run : List (Placed σ)) : Nat := (run.head?.map (·.1)).getD 0

/-- The slices as runs of consecutive numbers, best run first, of which at most `max` are kept. -/
def connect (max : Nat) (slices : List (CitedSlice σ)) : List (CitedSlice σ) :=
  let placed := (List.range slices.length).zip slices
  let byNumber := Lists.rankBy (fun a b => a.2.no.toInt < b.2.no.toInt) placed
  let ordered := Lists.rankBy (fun a b => runRank a < runRank b) (runs byNumber)
  (ordered.flatten.take max).map (·.2)

/-! ## Assembly -/

variable [Score σ]

/-- The score of a slice that has none, or none that is a number. -/
def absentScore : σ := -100.0

/-- The slice of a row. -/
def sliceOf (r : Row σ) : CitedSlice σ where
  id := r.candidate.uuid
  no := r.candidate.segment
  content := r.candidate.text
  score := match r.merged with
    | some s => if Score.isNaN s then absentScore else s
    | none => absentScore
  embedding := r.candidate.embedding.getD []
  pages := r.candidate.pages

/-- What is cited of a document's slices in rank order. -/
def arrange (max : Nat) (inScope : Bool) (slices : List (CitedSlice σ)) : List (CitedSlice σ) :=
  if inScope then slices.take max else connect max (trimTail max slices)

/-- The citation of one document, from its first row and its slices in rank order. -/
def ofSlices? (max : Nat) (scope : Option String) (document : Document)
    (slices : List (CitedSlice σ)) : Option (Citation σ) :=
  match arrange max (scope == some document.docId) slices with
  | [] => none
  | cited => some
    { objectId := document.objectId
      document
      content := "\n".intercalate (cited.map (·.content))
      source := .library
      slices := cited }

/-- The citations of rows in rank order, with at most `max` slices each. -/
def assemble (max : Nat) (scope : Option String) (rows : List (Row σ)) : List (Citation σ) :=
  let kept := retained rows
  (Lists.distinctBy (·.document.docId) kept).filterMap fun first =>
    ofSlices? max scope first.document
      ((kept.filter (·.document.docId == first.document.docId)).map sliceOf)

end Citation

/-! ## Reading and writing -/

open Data

variable {δ : Type} [Source δ]

namespace CitedSlice

def read? : δ → Option (CitedSlice Float) :=
  record do
    let id ← required "id" Source.text?
    let no ← required "no" int64?
    let content ← required "content" Source.text?
    let score ← required "score" Source.double?
    let embedding ← withDefault ["embedding"] (list? Source.single?) []
    let pages ← withDefault ["pages"] (list? int64?) []
    return { id, no, content, score, embedding, pages }

def toJson (s : CitedSlice Float) : Json :=
  .obj [("id", .str s.id), ("no", .ofInt s.no.toInt), ("content", .str s.content),
    ("score", .ofDouble s.score), ("embedding", embeddingJson s.embedding),
    ("pages", pagesJson s.pages)]

end CitedSlice

namespace CitationSource

def name : CitationSource → String
  | library => "DOC_LIB"
  | faq => "FAQ"

def ofName? : String → Option CitationSource
  | "DOC_LIB" => some library
  | "FAQ" => some faq
  | _ => none

def read? (v : δ) : Option CitationSource := Source.choice? v >>= ofName?

def toJson (s : CitationSource) : Json := .str s.name

end CitationSource

namespace Citation

def read? : δ → Option (Citation Float) :=
  record do
    let objectId ← required "objectId" Source.text?
    let document ← required "document" Document.read?
    let content ← required "content" Source.text?
    let source ← required "retrieveSourceType" CitationSource.read?
    let slices ← required "slices" (list? CitedSlice.read?)
    return { objectId, document, content, source, slices }

def toJson (c : Citation Float) : Json :=
  .obj [("objectId", .str c.objectId), ("document", c.document.toJson),
    ("content", .str c.content), ("retrieveSourceType", c.source.toJson),
    ("slices", .arr (c.slices.map CitedSlice.toJson))]

end Citation

namespace PromptDocument

def read? : δ → Option PromptDocument :=
  record do
    let documentId ← required "document_id" Source.text?
    let filename ← required "filename" Source.text?
    let text ← required "raw_text" Source.text?
    return { documentId, filename, text }

def toJson (d : PromptDocument) : Json :=
  .obj [("document_id", .str d.documentId), ("filename", .str d.filename),
    ("raw_text", .str d.text)]

end PromptDocument
end EvidenceRank
