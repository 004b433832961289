import EvidenceRank.Config.Validation
import EvidenceRank.Json.Reader
import EvidenceRank.Service.Http
import EvidenceRank.SliceFetcher

/-!
# The slice-fetch service

The service takes anchors (`build_request`) and answers with one group of neighbours per anchor, in
the order of the anchors (`successors`). The indexes of the configuration are asked one after
another until one has a neighbour behind its anchor; an error ends the walk (`fetch_next_slices`,
`first_non_empty`). The client (`HttpSliceFetchClient`) stands for a slice fetcher
(`HttpSliceFetcher`, `to_slice_record`).
-/

namespace EvidenceRank.Service

/-- A slice that an index returned. -/
structure Neighbor where
  docId : String
  segment : Int64
  text : String
  docName : String
  docMd5 : String
  pages : List Int64
  /-- The segment of the anchor that the slice was fetched for. -/
  anchor : Int64

namespace Neighbor

open Data

variable {δ : Type} [Source δ]

def read? : δ → Option Neighbor :=
  record do
    let docId ← withDefault ["doc_id", "belong_doc_id", "docid"] Source.text? ""
    let segment ← required "segment_id" int64?
    let text ← withDefault ["raw_text"] Source.text? ""
    let docName ← withDefault ["doc_name"] Source.text? ""
    let docMd5 ← withDefault ["doc_md5"] Source.text? ""
    let pages ← withDefault ["pages"] (list? int64?) []
    let anchor ← withDefault ["anchor_segment_id"] int64? 0
    return { docId, segment, text, docName, docMd5, pages, anchor }

def toJson (n : Neighbor) : Json :=
  .obj [("doc_id", .str n.docId), ("segment_id", .ofInt n.segment.toInt),
    ("raw_text", .str n.text), ("doc_name", .str n.docName), ("doc_md5", .str n.docMd5),
    ("pages", pagesJson n.pages), ("anchor_segment_id", .ofInt n.anchor.toInt)]

/-- The record that expansion works with. -/
def toRecord (n : Neighbor) : SliceRecord :=
  ⟨n.docId, n.segment, n.text, n.docName, n.docMd5, n.pages, n.anchor⟩

end Neighbor

/-- The neighbours of each group that stand behind the group's anchor, marked with it. -/
def successors (groups : List (List Neighbor)) (anchors : List Int64) :
    Except AnswerFault (List Neighbor) :=
  if anchors.length < groups.length then
    .error (.tooManyGroups groups.length anchors.length)
  else
    .ok ((groups.zip anchors).flatMap fun (group, anchor) =>
      (group.filter fun n => anchor < n.segment).map fun n => { n with anchor })

/-- The groups of an answer. -/
def readGroups? (text : String) : Option (List (List Neighbor)) := do
  let group := Data.record (Data.withDefault ["items"] (Data.list? Neighbor.read?) [])
  Data.record (Data.required "result" (Data.list? group)) (← Json.read? text)

/-- A client of the slice-fetch service. -/
structure SliceFetchClient (m : Type → Type) where
  config : SliceFetchConfig
  transport : Transport m
  /-- What the parser says about an answer that it refuses. -/
  complaint : String → String

namespace SliceFetchClient

variable {m : Type → Type} [Monad m]

/-- A client, if the configuration allows one. -/
def ofConfig (config : SliceFetchConfig) (transport : Transport m)
    (complaint : String → String) : Except ServiceError (SliceFetchClient m) := do
  config.validate.mapError .invalidConfig
  return ⟨config, transport, complaint⟩

/-- What the service is told about one anchor. -/
def anchorJson (config : SliceFetchConfig) (docId : String) (segment : Int64) : Json :=
  .obj [("docid", .str docId), ("segmentid", .ofInt segment.toInt),
    ("before_step", .ofNat config.beforeStep.toNat), ("after_step", .ofNat config.afterStep.toNat),
    ("key", .str "docid")]

/-- The request for the neighbours of anchors in one index. -/
def request (config : SliceFetchConfig) (index : String) (docIds : List String)
    (segments : List Int64) : Request where
  url := config.url
  headers := []
  body := .obj [("index", .str index),
    ("doc_info", .arr (List.zipWith (anchorJson config) docIds segments))]

/-- The successors of anchors in one index. -/
def successorsIn (client : SliceFetchClient m) (docIds : List String) (segments : List Int64)
    (index : String) : ExceptT ServiceError m (List Neighbor) := do
  let text ← post client.transport .sliceFetch (request client.config index docIds segments)
  match readGroups? text with
  | none => throw (.malformedJson (client.complaint text))
  | some groups =>
    match successors groups segments with
    | .ok found => return found
    | .error fault => throw (.invalidResponse .sliceFetch fault)

/-- The first result of `ask` that is not empty, or nothing. -/
def firstFound (ask : String → ExceptT ServiceError m (List Neighbor)) :
    List String → ExceptT ServiceError m (List Neighbor)
  | [] => return []
  | index :: indexes => do
    let found ← ask index
    if found.isEmpty then firstFound ask indexes else return found

/-- The successors of anchors. The service is not asked about no anchors. -/
def nextSlices (client : SliceFetchClient m) (docIds : List String) (segments : List Int64) :
    ExceptT ServiceError m (List Neighbor) := do
  if docIds.length ≠ segments.length then
    throw (.invalidConfig (.unpairedAnchors docIds.length segments.length))
  if docIds.isEmpty then return []
  firstFound (client.successorsIn docIds segments) client.config.indexes

/-- The client as a slice fetcher. Any error of the service is a failed fetch. -/
def fetcher (client : SliceFetchClient m) (freshId : m String) : SliceFetcher m where
  fetch docIds segments := do
    match ← (client.nextSlices docIds segments).run with
    | .ok found => return .ok (found.map Neighbor.toRecord)
    | .error e => return .error (.sliceFetchFailed e.message)
  freshId

end SliceFetchClient
end EvidenceRank.Service
