import EvidenceRank.Document
import EvidenceRank.Text.Normal

/-!
# Candidates and rows

A `Candidate` is a slice of a document as one retrieval channel returned it (`CandidateSlice`).
Ranking turns candidates into `Row`s, which carry the digest of their text and the scores given to
them (`RankedSlice`, `from_candidate`).

* `Row.key`: rows with one key hold the same text of the same document (`dedup_key`).
* `Row.position`: the place of a row inside its document (`position_key`).
-/

namespace EvidenceRank

/-- A slice that a retrieval channel returned. -/
structure Candidate (σ : Type) where
  /-- Names the retrieval event; a slice hit by both channels carries one name. -/
  uuid : String
  document : Document
  text : String
  /-- The ordinal of the slice inside its document. -/
  segment : Int64
  pages : List Int64
  embedding : Option (List Float32)
  /-- The channel's own score. -/
  score : σ

/-- Which retrieval channels hit a slice. -/
inductive HitType where
  | allHit
  | onlyDense
  | onlySparse
deriving DecidableEq

/-- A row of a ranked table. -/
structure Row (σ : Type) where
  candidate : Candidate σ
  textHash : String
  /-- The score of the dense channel. -/
  dense : Option σ := none
  /-- The score of the sparse channel. -/
  sparse : Option σ := none
  /-- The score of the reranker. -/
  relevance : Option σ := none
  hits : Option HitType := none
  /-- The score that the row is ranked by. -/
  merged : Option σ := none
  /-- The segment that the row was fetched to extend. -/
  anchor : Option Int64 := none

namespace Row

variable {σ : Type}

/-- A candidate that has not been scored yet. -/
def ofCandidate (c : Candidate σ) : Row σ :=
  { candidate := c, textHash := Text.hash c.text }

def document (r : Row σ) : Document := r.candidate.document

def md5 (r : Row σ) : String := r.candidate.document.md5

/-- The content hash of the document, with the digest of the text. -/
def key (r : Row σ) : String × String := (r.md5, r.textHash)

/-- The content hash of the document, with the segment. -/
def position (r : Row σ) : String × Int := (r.md5, r.candidate.segment.toInt)

/-- The same row under another document identity. -/
def withDocument (r : Row σ) (d : Document) : Row σ :=
  { r with candidate := { r.candidate with document := d } }

/-- What a reranker reads of the row. -/
def titled (r : Row σ) : String := Text.titled r.document.name r.candidate.text

end Row

/-- A slice returned by the neighbour service. -/
structure SliceRecord where
  docId : String
  segment : Int64
  text : String
  docName : String
  docMd5 : String
  pages : List Int64
  /-- The requested segment that the slice follows. -/
  anchor : Int64

open Data

variable {δ : Type} [Source δ]

def pagesJson (pages : List Int64) : Json := .arr (pages.map fun p => .ofInt p.toInt)

def embeddingJson (xs : List Float32) : Json := .arr (xs.map .ofSingle)

def scoreJson (x : Option Float) : Json := x.elim .null .ofDouble

namespace Candidate

def fields : Fields δ (Candidate Float) := do
  let uuid ← required "uuid" Source.text?
  let document ← withDefault ["document"] Document.read? {}
  let text ← required "rawText" Source.text?
  let segment ← required "segmentId" int64?
  let pages ← withDefault ["pages"] (list? int64?) []
  let embedding ← optional "embedding" (list? Source.single?)
  let score ← required "score" Source.double?
  return { uuid, document, text, segment, pages, embedding, score }

def read? : δ → Option (Candidate Float) := record fields

def members (c : Candidate Float) : List (String × Json) :=
  [("uuid", .str c.uuid), ("document", c.document.toJson), ("rawText", .str c.text),
    ("segmentId", .ofInt c.segment.toInt), ("pages", pagesJson c.pages)]
    ++ c.embedding.toList.map (("embedding", embeddingJson ·))
    ++ [("score", .ofDouble c.score)]

def toJson (c : Candidate Float) : Json := .obj c.members

end Candidate

namespace HitType

def name : HitType → String
  | allHit => "ALL_HIT"
  | onlyDense => "ONLY_DENSE"
  | onlySparse => "ONLY_SPARSE"

def ofName? : String → Option HitType
  | "ALL_HIT" => some allHit
  | "ONLY_DENSE" => some onlyDense
  | "ONLY_SPARSE" => some onlySparse
  | _ => none

def read? (v : δ) : Option HitType := Source.choice? v >>= ofName?

def toJson (h : HitType) : Json := .str h.name

end HitType

namespace Row

/-- The names of the fields that a row has besides those of its candidate. -/
def ownFields : List String :=
  ["textHash", "cosSimScore", "bm25Score", "rerankerScore", "hitType", "mergeScore",
    "anchorSegmentId"]

/-- A row is an object that holds the candidate's fields next to its own. Every other member is
kept until the candidate is read, so none of them may be sealed. -/
def read? : Json → Option (Row Float)
  | .obj members =>
    if members.all fun m => ownFields.contains m.1 || m.2.isOpen then
      record (do
        let textHash ← required "textHash" Source.text?
        let dense ← optional "cosSimScore" Source.double?
        let sparse ← optional "bm25Score" Source.double?
        let relevance ← optional "rerankerScore" Source.double?
        let hits ← optional "hitType" HitType.read?
        let merged ← optional "mergeScore" Source.double?
        let anchor ← optional "anchorSegmentId" int64?
        let candidate ← Candidate.fields
        return { candidate, textHash, dense, sparse, relevance, hits, merged, anchor })
        (Json.obj members)
    else none
  | _ => none

def toJson (r : Row Float) : Json :=
  .obj (r.candidate.members
    ++ [("textHash", .str r.textHash), ("cosSimScore", scoreJson r.dense),
      ("bm25Score", scoreJson r.sparse), ("rerankerScore", scoreJson r.relevance),
      ("hitType", r.hits.elim .null HitType.toJson), ("mergeScore", scoreJson r.merged)]
    ++ r.anchor.toList.map (("anchorSegmentId", .ofInt ·.toInt)))

end Row

namespace SliceRecord

def read? : δ → Option SliceRecord :=
  record do
    let docId ← required "docId" Source.text?
    let segment ← required "segmentId" int64?
    let text ← required "rawText" Source.text?
    let docName ← withDefault ["docName"] Source.text? ""
    let docMd5 ← withDefault ["docMd5"] Source.text? ""
    let pages ← withDefault ["pages"] (list? int64?) []
    let anchor ← required "anchorSegmentId" int64?
    return { docId, segment, text, docName, docMd5, pages, anchor }

def toJson (r : SliceRecord) : Json :=
  .obj [("docId", .str r.docId), ("segmentId", .ofInt r.segment.toInt), ("rawText", .str r.text),
    ("docName", .str r.docName), ("docMd5", .str r.docMd5), ("pages", pagesJson r.pages),
    ("anchorSegmentId", .ofInt r.anchor.toInt)]

end SliceRecord
end EvidenceRank
