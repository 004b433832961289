import EvidenceRank.Config.Validation
import EvidenceRank.Json.Reader
import EvidenceRank.Reranker
import EvidenceRank.Service.Http

/-!
# The rerank service

The service takes a query and a list of documents (`build_request`), and answers with a score per
document in the order of relevance. `scoresInInputOrder` puts the scores back in the order of the
documents, and accepts only answers that score each document once (`scores_in_input_order`). The
client (`HttpRerankClient`) stands for a reranker (`HttpRerankerBackend`).
-/

namespace EvidenceRank.Service

/-- The score of the document with an index. -/
structure RerankResult (α : Type) where
  index : Nat
  score : α

section
variable {α : Type}

/-- Put scores into their slots; a slot is filled once. -/
def fillSlots (slots : List (Option α)) : List (RerankResult α) →
    Except AnswerFault (List (Option α))
  | [] => .ok slots
  | r :: rs =>
    match slots[r.index]? with
    | none => .error (.indexOutOfRange r.index slots.length)
    | some (some _) => .error (.indexRepeated r.index)
    | some none => fillSlots (slots.set r.index (some r.score)) rs

/-- The scores in the order of the documents. `unfilled` would stand in a slot without a score. -/
def scoresInInputOrder (model : String) (unfilled : α) (expected : Nat)
    (results : List (RerankResult α)) : Except ServiceError (List α) :=
  if results.length = expected then
    match fillSlots (List.replicate expected none) results with
    | .ok slots => .ok (slots.map (·.getD unfilled))
    | .error fault => .error (.invalidResponse .rerank fault)
  else .error (.lengthMismatch model expected results.length)

end

/-- The least single, which stands for no score. -/
def leastSingle : Float32 := Float32.ofBits 0xFF7FFFFF

open Data

def RerankResult.read? : Json → Option (RerankResult Float32) :=
  record do
    let index ← required "index" nat?
    let score ← required "relevance_score" Source.single?
    return { index, score }

/-- The results of an answer. -/
def readRerankAnswer? (text : String) : Option (List (RerankResult Float32)) := do
  record (required "results" (list? RerankResult.read?)) (← Json.read? text)

/-- A client of the rerank service. -/
structure RerankClient (m : Type → Type) where
  config : RerankServiceConfig
  transport : Transport m
  /-- What the parser says about an answer that it refuses. -/
  complaint : String → String

namespace RerankClient

variable {m : Type → Type} [Monad m]

/-- A client, if the configuration allows one. -/
def ofConfig (config : RerankServiceConfig) (transport : Transport m)
    (complaint : String → String) : Except ServiceError (RerankClient m) := do
  config.validate.mapError .invalidConfig
  return ⟨config, transport, complaint⟩

/-- The request for the scores of documents. -/
def request (config : RerankServiceConfig) (query : String) (documents : List String) :
    Request where
  url := config.url
  headers := config.accountId.toList.map (("x-account-id", ·))
    ++ config.accountType.toList.map (("x-account-type", ·))
  body := .obj [("model", .str config.model), ("query", .str query),
    ("documents", .arr (documents.map .str))]

/-- The scores of documents in their order. The service is not asked about no documents. -/
def scores (client : RerankClient m) (query : String) (documents : List String) :
    ExceptT ServiceError m (List Float32) := do
  if documents.isEmpty then return []
  let text ← post client.transport .rerank (request client.config query documents)
  match readRerankAnswer? text with
  | none => throw (.malformedJson (client.complaint text))
  | some results =>
    ExceptT.mk (pure (scoresInInputOrder client.config.model leastSingle documents.length results))

/-- The client as a reranker. -/
def reranker (client : RerankClient m) : Reranker m Float where
  model := client.config.model
  score query documents := do
    match ← (client.scores query documents).run with
    | .ok scores => return .ok (scores.map Decimal.widen)
    | .error e => return .error (.ofService e)

end RerankClient
end EvidenceRank.Service
