import EvidenceRank.Candidate
import EvidenceRank.Column
import EvidenceRank.Config.Basic
import EvidenceRank.Lists.Distinct
import EvidenceRank.Lists.Runs
import EvidenceRank.Reranker
import EvidenceRank.TryJoin

/-!
# Fusion

Fusion (`fuse`) merges the hits of a dense and a sparse channel into one table, best row first.

1. The channels are prepared side by side (`prepare_channel`, `try_join!`): the slices are given one
   identity per document (`propagate_identity`), repeated texts are dropped (`dedup_rows`), and the
   rest is scored by the reranker.
2. The channels are joined on the slices' uuids (`combine_both`). A row that one channel lacks gets
   that channel's least score; if a whole channel is missing (`combine_dense_only`,
   `combine_sparse_only`), its score is `absentScore`.
3. Channel and reranker scores are rescaled and combined into the score that rows are ranked by
   (`apply_merge`).
4. The table is ordered (`sort_by_merge_score`), and given one identity per document and one row per
   text once more. Scores that are no numbers may leave it without an order; there is no table then.
-/

namespace EvidenceRank

/-! ## Rows of one document, rows of one text -/

namespace Row

variable {σ : Type}

/-- Every row of a document takes the identity that the document's first row has. -/
def shareIdentity (rows : List (Row σ)) : List (Row σ) :=
  rows.map fun r => match rows.find? (·.md5 == r.md5) with
    | some first => r.withDocument first.document
    | none => r

/-- The first row of each text of each document. -/
def distinct (rows : List (Row σ)) : List (Row σ) := Lists.distinctBy key rows

/-- One identity per document and one row per text. -/
def settle (rows : List (Row σ)) : List (Row σ) := distinct (shareIdentity rows)

/-- One row stands ahead of another: by its score, and with a score ahead of one without. -/
def ahead [Score σ] (a b : Row σ) : Bool :=
  match a.merged, b.merged with
  | some x, some y => Score.lt y x
  | some _, none => true
  | none, _ => false

/-- Best row first; rows that score alike keep their order. -/
def ranked [Score σ] (rows : List (Row σ)) : Option (List (Row σ)) :=
  Lists.rankScores (fun r => !r.merged.any Score.isNaN) ahead 4 rows

end Row

/-! ## Tables -/

/-- How many rows each kind of hit has. -/
structure HitCounts where
  allHit : Nat
  onlyDense : Nat
  onlySparse : Nat

/-- A ranked table. -/
structure FusedTable (σ : Type) where
  rows : List (Row σ)
  hitCounts : HitCounts

def HitCounts.ofRows {σ : Type} (rows : List (Row σ)) : HitCounts where
  allHit := rows.countP fun r => r.hits == some .allHit
  onlyDense := rows.countP fun r => r.hits == some .onlyDense
  onlySparse := rows.countP fun r => r.hits == some .onlySparse

namespace FusedTable

variable {σ : Type}

/-- The table of rows in their final order. -/
def ofRows (rows : List (Row σ)) : FusedTable σ := ⟨rows, .ofRows rows⟩

end FusedTable

/-! ## Channels -/

/-- A prepared channel. -/
structure Channel (σ : Type) where
  rows : List (Row σ)
  /-- The summary of the channel's own scores. -/
  stats : ColumnStats σ

section
variable {σ : Type} [Score σ]

/-- Clean the hits of one channel and have them scored. A channel without hits is none, and the
reranker is not asked. -/
def Channel.prepare {m : Type → Type} [Monad m] (reranker : Reranker m σ) (query : String)
    (pool : List (Candidate σ)) : ExceptT RankError m (Option (Channel σ)) := do
  let rows := Row.settle (pool.map Row.ofCandidate)
  match ColumnStats.ofScores? (rows.map (·.candidate.score)) with
  | none => return none
  | some stats =>
    let scores ← reranker.scoreAll query (rows.map Row.titled)
    return some ⟨List.zipWith (fun r s => { r with relevance := some s }) rows scores, stats⟩

namespace Fusion

/-- What the score of a channel is when it has no hits at all. -/
def absentScore : σ := -1.0

/-! ## Columns of a table -/

def denseColumn (rows : List (Row σ)) : List σ := rows.map fun r => r.dense.getD absentScore

def sparseColumn (rows : List (Row σ)) : List σ := rows.map fun r => r.sparse.getD absentScore

def relevanceColumn (rows : List (Row σ)) : List σ :=
  rows.map fun r => r.relevance.getD absentScore

/-- Give each row the score that it is ranked by. -/
def withMerged (rows : List (Row σ)) (scores : List σ) : List (Row σ) :=
  List.zipWith (fun r s => { r with merged := some s }) rows scores

/-! ## Joining channels -/

/-- The rows of the dense channel that the sparse one has too, with both scores. -/
def hitByBoth (dense sparse : Channel σ) : List (Row σ) :=
  dense.rows.filterMap fun r =>
    (sparse.rows.find? (·.candidate.uuid == r.candidate.uuid)).map fun s =>
      { r with
        dense := some r.candidate.score
        sparse := some s.candidate.score
        hits := some .allHit }

/-- The rows that the dense channel alone has. -/
def hitByDense (dense sparse : Channel σ) : List (Row σ) :=
  (dense.rows.filter fun r => !sparse.rows.any (·.candidate.uuid == r.candidate.uuid)).map fun r =>
    { r with
      dense := some r.candidate.score
      sparse := some sparse.stats.min
      hits := some .onlyDense }

/-- The rows of the sparse channel whose uuid is not among `joined`. -/
def hitBySparse (dense sparse : Channel σ) (joined : List (Row σ)) : List (Row σ) :=
  (sparse.rows.filter fun r => !joined.any (·.candidate.uuid == r.candidate.uuid)).map fun r =>
    { r with
      dense := some dense.stats.min
      sparse := some r.candidate.score
      hits := some .onlySparse }

/-- All rows of two channels, those hit by both first. -/
def join (dense sparse : Channel σ) : List (Row σ) :=
  let joined := Row.settle (hitByBoth dense sparse)
  joined ++ hitByDense dense sparse ++ hitBySparse dense sparse joined

/-- The rows of a dense channel that stands alone. -/
def denseAlone (dense : Channel σ) : List (Row σ) :=
  dense.rows.map fun r =>
    { r with
      dense := some r.candidate.score
      sparse := some absentScore
      hits := some .onlyDense }

/-- The rows of a sparse channel that stands alone. -/
def sparseAlone (sparse : Channel σ) : List (Row σ) :=
  sparse.rows.map fun r =>
    { r with
      dense := some absentScore
      sparse := some r.candidate.score
      hits := some .onlySparse }

/-! ## Scores -/

/-- The scores of rows that have both channel scores. -/
def bothScores (config : FusionConfig σ) (rows : List (Row σ)) : List σ :=
  let dense := Column.center (denseColumn rows)
  let sparse := Column.center (sparseColumn rows)
  let wd := config.denseWeight
  let ws := config.sparseWeight
  match config.method with
  | .weighted => List.zipWith (fun d s => wd * d + ws * s) dense sparse
  | .hybrid =>
    List.zipWith (fun r (d, s) => (wd + ws) * r + wd * d + ws * s)
      (Column.center (relevanceColumn rows)) (dense.zip sparse)
  | .relevance => Column.center (relevanceColumn rows)

/-- The scores of rows of a dense channel that stands alone. -/
def denseScores (config : FusionConfig σ) (stats : ColumnStats σ) (rows : List (Row σ)) : List σ :=
  let dense := Column.centerBy stats (denseColumn rows)
  match config.method with
  | .weighted => dense
  | .hybrid => List.zipWith (· + ·) (Column.center (relevanceColumn rows)) dense
  | .relevance => Column.center (relevanceColumn rows)

/-- The scores of rows of a sparse channel that stands alone. -/
def sparseScores (config : FusionConfig σ) (stats : ColumnStats σ) (rows : List (Row σ)) :
    List σ :=
  let sparse := sparseColumn rows
  match config.method with
  | .weighted => Column.standardizeBy stats sparse
  | .hybrid =>
    List.zipWith (· + ·) (Column.center (relevanceColumn rows)) (Column.centerBy stats sparse)
  | .relevance => Column.center (relevanceColumn rows)

/-! ## The fused table -/

/-- The rows of two channels with the scores that they are ranked by. -/
def mergeBoth (config : FusionConfig σ) (dense sparse : Channel σ) : List (Row σ) :=
  let rows := join dense sparse
  withMerged rows (bothScores config rows)

/-- The rows of a dense channel that stands alone, with the scores that they are ranked by. -/
def mergeDense (config : FusionConfig σ) (dense : Channel σ) : List (Row σ) :=
  let rows := denseAlone dense
  withMerged rows (denseScores config dense.stats rows)

/-- The rows of a sparse channel that stands alone, with the scores that they are ranked by. -/
def mergeSparse (config : FusionConfig σ) (sparse : Channel σ) : List (Row σ) :=
  let rows := sparseAlone sparse
  withMerged rows (sparseScores config sparse.stats rows)

/-- The rows of whatever channels there are, before they are ordered. -/
def merge (config : FusionConfig σ) : Option (Channel σ) → Option (Channel σ) → List (Row σ)
  | some dense, some sparse => mergeBoth config dense sparse
  | some dense, none => mergeDense config dense
  | none, some sparse => mergeSparse config sparse
  | none, none => []

/-- The ranked table of the channels. -/
def combine (config : FusionConfig σ) (dense sparse : Option (Channel σ)) :
    Option (FusedTable σ) := do
  let rows ← Row.ranked (merge config dense sparse)
  return .ofRows (Row.settle rows)

/-- Fuse the hits of two channels, which are prepared side by side. -/
def fuse {m : Type → Type} [Monad m] (config : FusionConfig σ) (reranker : Reranker m σ)
    (turns : Turns) (query : String) (dense sparse : List (Candidate σ)) :
    ExceptT Halt m (FusedTable σ) := do
  let (dense, sparse) ← Halt.failing (tryJoin turns
    (Channel.prepare reranker query dense) (Channel.prepare reranker query sparse))
  Halt.ordering (combine config dense sparse)

end Fusion
end

/-! ## Reading and writing -/

open Data

namespace HitCounts

def read? {δ : Type} [Source δ] : δ → Option HitCounts :=
  record do
    let allHit ← required "allHit" nat?
    let onlyDense ← required "onlyDense" nat?
    let onlySparse ← required "onlySparse" nat?
    return { allHit, onlyDense, onlySparse }

def toJson (c : HitCounts) : Json :=
  .obj [("allHit", .ofNat c.allHit), ("onlyDense", .ofNat c.onlyDense),
    ("onlySparse", .ofNat c.onlySparse)]

end HitCounts

namespace FusedTable

def read? : Json → Option (FusedTable Float) :=
  record do
    let rows ← required "rows" (list? Row.read?)
    let hitCounts ← required "hitCounts" HitCounts.read?
    return { rows, hitCounts }

def toJson (t : FusedTable Float) : Json :=
  .obj [("rows", .arr (t.rows.map Row.toJson)), ("hitCounts", t.hitCounts.toJson)]

end FusedTable
end EvidenceRank
