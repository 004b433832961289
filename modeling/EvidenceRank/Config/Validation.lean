import EvidenceRank.Config.Basic
import EvidenceRank.Text.Blank

/-!
# Valid configurations

A configuration is checked before anything is ranked with it (`validate`): settings that would break
ranking are faults, settings that are merely odd are warnings. Sections are checked in the order in
which they stand, and the first fault counts.
-/

namespace EvidenceRank

/-- A setting that is allowed but hardly meant. -/
inductive ConfigWarning where
  | weightsZero
  | weightsUnused
  | manyTopRows (count : Nat)
  | fallbackDisabled

def ConfigWarning.message : ConfigWarning → String
  | weightsZero => "fusion weights are both 0; merge scores will ignore channel scores"
  | weightsUnused => "fusion weights have no effect with rerankerMethod=only_reranker"
  | manyTopRows count =>
    s!"expansion.rerankTopk={count} is very large; method7 will request that many successors"
  | fallbackDisabled =>
    "faq.fallbackLimit=0 disables the fallback list; only confident answers are returned"

/-- The warning if the condition holds. -/
def warnWhen (condition : Bool) (w : ConfigWarning) : List ConfigWarning :=
  if condition then [w] else []

/-- A finite number that is not negative. -/
def usableFactor (x : Float) : Bool := x.isFinite && !(x < 0.0)

/-- More top rows than this are more than a request is meant to carry. -/
def manyRows : Nat := 200

def FusionConfig.validate (c : FusionConfig Float) : Except ConfigFault (List ConfigWarning) := do
  if !usableFactor c.denseWeight then throw (.badWeight "cosSimWeight" c.denseWeight)
  if !usableFactor c.sparseWeight then throw (.badWeight "bm25Weight" c.sparseWeight)
  return warnWhen (c.denseWeight == 0.0 && c.sparseWeight == 0.0) .weightsZero
    ++ warnWhen (c.method == .relevance
        && (c.denseWeight != (default : FusionConfig Float).denseWeight
          || c.sparseWeight != (default : FusionConfig Float).sparseWeight)) .weightsUnused

def ExpansionConfig.validate (c : ExpansionConfig) : Except ConfigFault (List ConfigWarning) := do
  if c.topRows = 0 then throw .noTopRows
  return warnWhen (manyRows < c.topRows) (.manyTopRows c.topRows)

def CitationConfig.validate (c : CitationConfig) : Except ConfigFault (List ConfigWarning) := do
  if c.maxSlices = 0 then throw .noSlices
  return []

def FaqConfig.validate (c : FaqConfig Float) : Except ConfigFault (List ConfigWarning) := do
  if !usableFactor c.outlierMultiplier then throw (.badMultiplier c.outlierMultiplier)
  return warnWhen (c.fallbackLimit = 0) .fallbackDisabled

/-- Whether a client can be built for the rerank service. -/
def RerankServiceConfig.validate (c : RerankServiceConfig) : Except ServiceFault Unit := do
  if Text.isBlankText c.url then throw (.emptyUrl .rerank)
  if c.timeoutSecs = 0 then throw (.noTimeout .rerank)

/-- Whether a client can be built for the slice-fetch service. -/
def SliceFetchConfig.validate (c : SliceFetchConfig) : Except ServiceFault Unit := do
  if Text.isBlankText c.url then throw (.emptyUrl .sliceFetch)
  if c.indexes.isEmpty then throw .noIndex
  if c.timeoutSecs = 0 then throw (.noTimeout .sliceFetch)

/-- The first fault of the configuration, or its warnings in the order of the sections. -/
def RankingConfig.validate (c : RankingConfig Float) : Except ConfigFault (List ConfigWarning) := do
  let fusion ← c.fusion.validate
  let expansion ← c.expansion.validate
  let citation ← c.citation.validate
  let faq ← c.faq.validate
  c.services.rerank.validate.mapError .rerankService
  c.services.sliceFetch.validate.mapError .sliceFetchService
  return fusion ++ expansion ++ citation ++ faq

end EvidenceRank
