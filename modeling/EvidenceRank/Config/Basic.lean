import EvidenceRank.Data.Source
import EvidenceRank.Error
import EvidenceRank.Score
import EvidenceRank.Text.LowerCase

/-!
# Configuration

The settings of each stage of ranking and of the services it calls (`RankingConfig`,
`ServicesConfig`). Every field may be left out of a configuration and then takes its default.
-/

namespace EvidenceRank

/-- How the score that rows are ranked by is computed. -/
inductive FusionMethod where
  /-- From the weighted channel scores. -/
  | weighted
  /-- From the reranker's score and the weighted channel scores. -/
  | hybrid
  /-- From the reranker's score alone. -/
  | relevance
deriving DecidableEq

/-- How the fused table is cut down and padded with context. -/
inductive ExpansionMethod where
  /-- Keep the top rows. -/
  | truncate
  /-- Keep the top rows, and lower rows that directly follow one of them. -/
  | neighbours
  /-- Keep the top rows and fetch their successors. -/
  | fetch
deriving DecidableEq

structure FusionConfig (σ : Type) where
  denseWeight : σ
  sparseWeight : σ
  method : FusionMethod

structure ExpansionConfig where
  /-- How many fused rows are kept. -/
  topRows : Nat
  method : ExpansionMethod

structure CitationConfig where
  /-- How many slices one citation holds at most. -/
  maxSlices : Nat

structure FaqConfig (σ : Type) where
  /-- How many entries are listed when none is confident. -/
  fallbackLimit : Nat
  /-- How many interquartile ranges an outlier stands above the third quartile. -/
  outlierMultiplier : σ

structure RerankServiceConfig where
  url : String
  model : String
  timeoutSecs : Nat
  accountId : Option String
  accountType : Option String

structure SliceFetchConfig where
  url : String
  /-- Asked in order until one has successors. -/
  indexes : List String
  beforeStep : UInt32
  afterStep : UInt32
  timeoutSecs : Nat

structure ServicesConfig where
  rerank : RerankServiceConfig
  sliceFetch : SliceFetchConfig

structure RankingConfig (σ : Type) where
  fusion : FusionConfig σ
  expansion : ExpansionConfig
  citation : CitationConfig
  faq : FaqConfig σ
  services : ServicesConfig

/-! ## Defaults -/

section
variable {σ : Type} [Score σ]

def FusionConfig.default : FusionConfig σ := ⟨1.3, 1.0, .relevance⟩

def ExpansionConfig.default : ExpansionConfig := ⟨15, .fetch⟩

def CitationConfig.default : CitationConfig := ⟨16⟩

def FaqConfig.default : FaqConfig σ := ⟨5, 0.5⟩

def RerankServiceConfig.default : RerankServiceConfig :=
  ⟨"http://localhost:8343/v1/rerank", "reranker", 30, none, none⟩

def SliceFetchConfig.default : SliceFetchConfig :=
  ⟨"http://localhost:8080/api/v1/slices/neighbors", ["anyshare_bot", "anyshare_slice_vector"],
    0, 1, 30⟩

def ServicesConfig.default : ServicesConfig := ⟨.default, .default⟩

def RankingConfig.default : RankingConfig σ :=
  ⟨.default, .default, .default, .default, .default⟩

end

/-! ## Names of methods -/

namespace FusionMethod

def name : FusionMethod → String
  | weighted => "default"
  | hybrid => "hybrid_reranker"
  | relevance => "only_reranker"

def ofName? : String → Option FusionMethod
  | "default" => some weighted
  | "cos_and_bm25" => some weighted
  | "hybrid_reranker" => some hybrid
  | "only_reranker" => some relevance
  | _ => none

/-- The method of a name in any case. -/
def ofText (text : String) : Except RankError FusionMethod :=
  let name := Text.lowerCase text
  match ofName? name with
  | some method => .ok method
  | none => .error (.invalidConfiguration (.unknownFusionMethod name))

end FusionMethod

namespace ExpansionMethod

def name : ExpansionMethod → String
  | truncate => "method1"
  | neighbours => "method2"
  | fetch => "method7"

def ofName? : String → Option ExpansionMethod
  | "method1" => some truncate
  | "method2" => some neighbours
  | "method7" => some fetch
  | _ => none

/-- The method of a name in any case. -/
def ofText (text : String) : Except RankError ExpansionMethod :=
  let name := Text.lowerCase text
  match ofName? name with
  | some method => .ok method
  | none => .error (.invalidConfiguration (.unknownExpansionMethod name))

end ExpansionMethod

/-! ## Reading and writing -/

open Data

variable {δ : Type} [Source δ]

def FusionMethod.read? (v : δ) : Option FusionMethod := Source.choice? v >>= ofName?

def FusionMethod.toJson (m : FusionMethod) : Json := .str m.name

def ExpansionMethod.read? (v : δ) : Option ExpansionMethod := Source.choice? v >>= ofName?

def ExpansionMethod.toJson (m : ExpansionMethod) : Json := .str m.name

namespace FusionConfig

def read? : δ → Option (FusionConfig Float) :=
  record do
    let denseWeight ← withDefault ["cosSimWeight"] Source.double? default.denseWeight
    let sparseWeight ← withDefault ["bm25Weight"] Source.double? default.sparseWeight
    let method ← withDefault ["rerankerMethod"] FusionMethod.read? .relevance
    return { denseWeight, sparseWeight, method }

def toJson (c : FusionConfig Float) : Json :=
  .obj [("cosSimWeight", .ofDouble c.denseWeight), ("bm25Weight", .ofDouble c.sparseWeight),
    ("rerankerMethod", c.method.toJson)]

end FusionConfig

namespace ExpansionConfig

def read? : δ → Option ExpansionConfig :=
  record do
    let topRows ← withDefault ["rerankTopk"] nat? default.topRows
    let method ← withDefault ["chooseMethod"] ExpansionMethod.read? default.method
    return { topRows, method }

def toJson (c : ExpansionConfig) : Json :=
  .obj [("rerankTopk", .ofNat c.topRows), ("chooseMethod", c.method.toJson)]

end ExpansionConfig

namespace CitationConfig

def read? : δ → Option CitationConfig :=
  record do
    let maxSlices ← withDefault ["maxSlicePerCite"] nat? default.maxSlices
    return { maxSlices }

def toJson (c : CitationConfig) : Json := .obj [("maxSlicePerCite", .ofNat c.maxSlices)]

end CitationConfig

namespace FaqConfig

def read? : δ → Option (FaqConfig Float) :=
  record do
    let fallbackLimit ← withDefault ["fallbackLimit"] nat? (default (σ := Float)).fallbackLimit
    let outlierMultiplier ← withDefault ["outlierMultiplier"] Source.double?
      default.outlierMultiplier
    return { fallbackLimit, outlierMultiplier }

def toJson (c : FaqConfig Float) : Json :=
  .obj [("fallbackLimit", .ofNat c.fallbackLimit),
    ("outlierMultiplier", .ofDouble c.outlierMultiplier)]

end FaqConfig

namespace RerankServiceConfig

def read? : δ → Option RerankServiceConfig :=
  record do
    let url ← withDefault ["url"] Source.text? default.url
    let model ← withDefault ["model"] Source.text? default.model
    let timeoutSecs ← withDefault ["timeoutSecs"] nat? default.timeoutSecs
    let accountId ← optional "accountId" Source.text?
    let accountType ← optional "accountType" Source.text?
    return { url, model, timeoutSecs, accountId, accountType }

def toJson (c : RerankServiceConfig) : Json :=
  .obj [("url", .str c.url), ("model", .str c.model), ("timeoutSecs", .ofNat c.timeoutSecs),
    ("accountId", c.accountId.elim .null .str), ("accountType", c.accountType.elim .null .str)]

end RerankServiceConfig

namespace SliceFetchConfig

def read? : δ → Option SliceFetchConfig :=
  record do
    let url ← withDefault ["url"] Source.text? default.url
    let indexes ← withDefault ["indexes"] (list? Source.text?) default.indexes
    let beforeStep ← withDefault ["beforeStep"] uint32? default.beforeStep
    let afterStep ← withDefault ["afterStep"] uint32? default.afterStep
    let timeoutSecs ← withDefault ["timeoutSecs"] nat? default.timeoutSecs
    return { url, indexes, beforeStep, afterStep, timeoutSecs }

def toJson (c : SliceFetchConfig) : Json :=
  .obj [("url", .str c.url), ("indexes", .arr (c.indexes.map .str)),
    ("beforeStep", .ofNat c.beforeStep.toNat), ("afterStep", .ofNat c.afterStep.toNat),
    ("timeoutSecs", .ofNat c.timeoutSecs)]

end SliceFetchConfig

namespace ServicesConfig

def read? : δ → Option ServicesConfig :=
  record do
    let rerank ← withDefault ["rerank"] RerankServiceConfig.read? default.rerank
    let sliceFetch ← withDefault ["sliceFetch"] SliceFetchConfig.read? default.sliceFetch
    return { rerank, sliceFetch }

def toJson (c : ServicesConfig) : Json :=
  .obj [("rerank", c.rerank.toJson), ("sliceFetch", c.sliceFetch.toJson)]

end ServicesConfig

namespace RankingConfig

def read? : δ → Option (RankingConfig Float) :=
  record do
    let fusion ← withDefault ["fusion"] FusionConfig.read? .default
    let expansion ← withDefault ["expansion"] ExpansionConfig.read? .default
    let citation ← withDefault ["citation"] CitationConfig.read? .default
    let faq ← withDefault ["faq"] FaqConfig.read? .default
    let services ← withDefault ["services"] ServicesConfig.read? .default
    return { fusion, expansion, citation, faq, services }

def toJson (c : RankingConfig Float) : Json :=
  .obj [("fusion", c.fusion.toJson), ("expansion", c.expansion.toJson),
    ("citation", c.citation.toJson), ("faq", c.faq.toJson), ("services", c.services.toJson)]

end RankingConfig
end EvidenceRank
