import EvidenceRank.Citation
import EvidenceRank.Expansion
import EvidenceRank.Fusion
import EvidenceRank.Query

/-!
# Ranking a request

A request holds the hits of several data sources for one query (`run`). Each source is fused,
expanded and assembled into citations on its own (`process_source`); a source that fails is reported
next to the others. A source whose rows cannot be ordered takes the whole run with it.
-/

namespace EvidenceRank

/-- The hits of one query variant in one data source. -/
structure Pools (σ : Type) where
  dense : List (Candidate σ)
  sparse : List (Candidate σ)

namespace Pools

variable {σ : Type}

def empty : Pools σ := ⟨[], []⟩

/-- The hits of another variant go behind. -/
def append (p q : Pools σ) : Pools σ := ⟨p.dense ++ q.dense, p.sparse ++ q.sparse⟩

/-- The hits of several variants, in order. -/
def concat (variants : List (Pools σ)) : Pools σ := variants.foldl append empty

end Pools

structure RankRequest (σ : Type) where
  query : Query
  /-- The query variants' hits for each data source. -/
  dataSources : Dictionary (List (Pools σ))
  /-- The document that the caller is scoped to. -/
  scope : Option String

/-- What came of one data source. -/
structure SourceReport (σ : Type) where
  dataSource : String
  fusedRows : Nat
  hitCounts : HitCounts
  expandedRows : Nat
  expansion : ExpansionOutcome
  citations : List (Citation σ)

/-- A data source that could not be ranked. -/
structure SourceFailure where
  dataSource : String
  error : String

structure RankOutput (σ : Type) where
  reports : List (SourceReport σ)
  failures : List SourceFailure

namespace RankOutput

variable {σ : Type}

def empty : RankOutput σ := ⟨[], []⟩

/-- The citations of all sources. -/
def citations (o : RankOutput σ) : List (Citation σ) := o.reports.flatMap (·.citations)

/-- Put the result of one more source behind the others. -/
def add (o : RankOutput σ) (name : String) : Except RankError (SourceReport σ) → RankOutput σ
  | .ok report => { o with reports := o.reports ++ [report] }
  | .error e => { o with failures := o.failures ++ [⟨name, e.message⟩] }

end RankOutput

/-- Ranking with a configuration and the services it calls. -/
structure Pipeline (m : Type → Type) (σ : Type) where
  config : RankingConfig σ
  reranker : Reranker m σ
  fetcher : SliceFetcher m
  /-- When the channels of each data source come to their ends. -/
  turns : String → Turns

namespace Pipeline

variable {m : Type → Type} [Monad m] {σ : Type} [Score σ]

/-- Fuse, expand and assemble one data source. -/
def processSource (p : Pipeline m σ) (name query : String) (scope : Option String)
    (pools : Pools σ) : ExceptT Halt m (SourceReport σ) := do
  let table ← Fusion.fuse p.config.fusion p.reranker (p.turns name) query pools.dense pools.sparse
  let expansion ← (Expansion.expand p.config.expansion p.fetcher table.rows : m (Expansion σ))
  return {
    dataSource := name
    fusedRows := table.rows.length
    hitCounts := table.hitCounts
    expandedRows := expansion.rows.length
    expansion := expansion.outcome
    citations := Citation.assemble p.config.citation.maxSlices scope expansion.rows }

/-- The results of data sources, one after another. -/
def processAll (p : Pipeline m σ) (query : String) (scope : Option String) :
    List (String × List (Pools σ)) → OptionT m (List (String × Except RankError (SourceReport σ)))
  | [] => return []
  | (name, variants) :: sources => do
    let result ← Halt.reported (p.processSource name query scope (.concat variants))
    return (name, result) :: (← p.processAll query scope sources)

/-- Rank every data source of a request. There is no output if a source is unwound. -/
def run (p : Pipeline m σ) (request : RankRequest σ) : OptionT m (RankOutput σ) := do
  let results ← p.processAll request.query.effective request.scope request.dataSources.entries
  return results.foldl (fun o r => o.add r.1 r.2) .empty

end Pipeline

/-! ## Reading and writing -/

open Data

namespace Pools

def read? {δ : Type} [Source δ] : δ → Option (Pools Float) :=
  record do
    let dense ← withDefault ["dense"] (list? Candidate.read?) []
    let sparse ← withDefault ["sparse"] (list? Candidate.read?) []
    return { dense, sparse }

def toJson (p : Pools Float) : Json :=
  .obj [("dense", .arr (p.dense.map Candidate.toJson)),
    ("sparse", .arr (p.sparse.map Candidate.toJson))]

end Pools

namespace RankRequest

def read? {δ : Type} [Source δ] : δ → Option (RankRequest Float) :=
  record do
    let query ← required "query" Query.read?
    let dataSources ← withDefault ["dataSources"] (dictionary? (list? Pools.read?)) .empty
    let scope ← optional "scopedDocId" Source.text?
    return { query, dataSources, scope }

def toJson (r : RankRequest Float) : Json :=
  .obj ([("query", r.query.toJson),
      ("dataSources",
        .obj (r.dataSources.entries.map fun (k, ps) => (k, .arr (ps.map Pools.toJson))))]
    ++ r.scope.toList.map (("scopedDocId", .str ·)))

end RankRequest

namespace SourceReport

def read? : Json → Option (SourceReport Float) :=
  record do
    let dataSource ← required "dataSource" Source.text?
    let fusedRows ← required "fusedRows" nat?
    let hitCounts ← required "hitCounts" HitCounts.read?
    let expandedRows ← required "expandedRows" nat?
    let expansion ← required "expansion" ExpansionOutcome.read?
    let citations ← required "citations" (list? Citation.read?)
    return { dataSource, fusedRows, hitCounts, expandedRows, expansion, citations }

def toJson (r : SourceReport Float) : Json :=
  .obj [("dataSource", .str r.dataSource), ("fusedRows", .ofNat r.fusedRows),
    ("hitCounts", r.hitCounts.toJson), ("expandedRows", .ofNat r.expandedRows),
    ("expansion", r.expansion.toJson), ("citations", .arr (r.citations.map Citation.toJson))]

end SourceReport

namespace SourceFailure

def read? {δ : Type} [Source δ] : δ → Option SourceFailure :=
  record do
    let dataSource ← required "dataSource" Source.text?
    let error ← required "error" Source.text?
    return { dataSource, error }

def toJson (f : SourceFailure) : Json :=
  .obj [("dataSource", .str f.dataSource), ("error", .str f.error)]

end SourceFailure

namespace RankOutput

def read? : Json → Option (RankOutput Float) :=
  record do
    let reports ← required "reports" (list? SourceReport.read?)
    let failures ← required "failures" (list? SourceFailure.read?)
    return { reports, failures }

def members (o : RankOutput Float) : List (String × Json) :=
  [("reports", .arr (o.reports.map SourceReport.toJson)),
    ("failures", .arr (o.failures.map SourceFailure.toJson))]

def toJson (o : RankOutput Float) : Json := .obj o.members

end RankOutput
end EvidenceRank
