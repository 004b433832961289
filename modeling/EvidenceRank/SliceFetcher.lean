import EvidenceRank.Candidate
import EvidenceRank.Error

/-!
# Slice fetchers

A slice fetcher returns the slices that follow given slices in their documents (`NextSliceFetcher`).
The `i`-th document and the `i`-th segment form one anchor; that no anchor has a successor is no
error.
-/

namespace EvidenceRank

/-- A slice fetcher whose calls are actions of `m`. -/
structure SliceFetcher (m : Type → Type) where
  /-- The slices that follow the anchors. -/
  fetch : List String → List Int64 → m (Except RankError (List SliceRecord))
  /-- A name for the retrieval event of one fetched slice. -/
  freshId : m String

/-- The fetcher that never finds a successor. -/
def SliceFetcher.silent {m : Type → Type} [Monad m] (freshId : m String) : SliceFetcher m :=
  ⟨fun _ _ => pure (.ok []), freshId⟩

end EvidenceRank
