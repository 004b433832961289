import EvidenceRank.Error

/-!
# Rerankers

A reranker scores texts against a query (`RerankerBackend`). Ranking only asks through `scoreAll`,
which spares the call for an empty batch and refuses an answer with a wrong number of scores
(`score_checked`).
-/

namespace EvidenceRank

/-- A reranker whose calls are actions of `m`. -/
structure Reranker (m : Type → Type) (σ : Type) where
  /-- The name of the model, for reports. -/
  model : String
  /-- Score texts against a query. -/
  score : String → List String → m (Except RankError (List σ))

namespace Reranker

variable {m : Type → Type} [Monad m] {σ : Type}

/-- One score per text, or the reason why there are none. -/
def scoreAll (r : Reranker m σ) (query : String) (texts : List String) :
    ExceptT RankError m (List σ) :=
  if texts.isEmpty then return []
  else do
    let scores ← ExceptT.mk (r.score query texts)
    if scores.length = texts.length then return scores
    else throw (.rerankerFailed r.model (scoreCountMessage texts.length scores.length))

end Reranker
end EvidenceRank
