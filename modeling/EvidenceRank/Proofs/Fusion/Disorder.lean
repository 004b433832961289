import EvidenceRank.Lists.Images
import EvidenceRank.Proofs.Fusion.Join
import EvidenceRank.Proofs.Sample

/-!
# Rows without an order

Whether rows have an order is told by the scores that they are ranked by alone, so it can be seen
from a list of scores. By relevance, the rows of a dense channel that stands alone are ranked by the
reranker's scores, centred, and a reranker may answer with some that are no numbers. `unorderable`
are such answers, for as many texts as are too many for insertion: the pool is scored, and there is
no table.

* `ranked_eq_none_iff`: rows have an order exactly if their scores do.
* `fuse_disordered`: by relevance a lone pool has no table where the centred answers have no order.
* `fuse_unorderable`: no pool of 21 slices has one for the answers `unorderable`.
-/

namespace EvidenceRank

variable {σ : Type} [Score σ]

/-- One score to be ranked by stands ahead of another. -/
def Row.scoreAhead (a b : Option σ) : Bool :=
  match a, b with
  | some x, some y => Score.lt y x
  | some _, none => true
  | none, _ => false

/-- The order of scores that rows are ranked by. -/
def Row.rankedScores (scores : List (Option σ)) : Option (List (Option σ)) :=
  Lists.rankScores (fun s => !s.any Score.isNaN) scoreAhead 4 scores

theorem Row.map_ranked (rows : List (Row σ)) :
    rankedScores (rows.map (·.merged)) = (ranked rows).map (List.map (·.merged)) :=
  Lists.rankScores_map (fun _ _ => rfl) (fun _ => rfl) 4 rows

/-- **Rows have an order exactly if their scores do.** -/
theorem Row.ranked_eq_none_iff {rows : List (Row σ)} :
    ranked rows = none ↔ rankedScores (rows.map (·.merged)) = none := by
  rw [map_ranked, Option.map_eq_none_iff]

namespace Fusion

open Channel (OfPool)

/-- What the rows are ranked by. -/
theorem map_merged_merge (config : FusionConfig σ) (d s : Option (Channel σ)) :
    (merge config d s).map (·.merged) = (scoresOf config d s (gathered d s)).map some := by
  rw [merge_eq]
  exact Row.map_zipWith_given (f := Row.merged) (h := some) (fun _ _ => rfl)
    (length_scoresOf config d s)

/-- By relevance, a lone dense channel is ranked by the centred answers. -/
theorem map_merged_relevance {config : FusionConfig σ} (hconfig : config.method = .relevance)
    {D : List (Candidate σ)} (hD : D ≠ []) {scores : List σ}
    (hlen : scores.length = (Channel.cleaned D).length) :
    (merge config (Channel.ofScores? D scores) none).map (·.merged) =
      (Column.center scores).map some := by
  cases hd : Channel.ofScores? D scores with
  | none => exact absurd (OfPool.eq_none_iff ⟨scores, hlen, hd.symm⟩ |>.mp rfl) hD
  | some d =>
    have hcolumn : relevanceColumn (denseAlone d) = scores := by
      obtain ⟨stats, -, rfl⟩ := Option.map_eq_some_iff.mp hd
      rw [relevanceColumn, denseAlone, List.map_map]
      exact (Row.map_zipWith_given (h := (id : σ → σ)) (fun _ _ => rfl) hlen).trans
        (List.map_id scores)
    rw [map_merged_merge]
    show (denseScores config d.stats (denseAlone d)).map some = _
    rw [denseScores, hconfig, hcolumn]

variable {m : Type → Type} [Monad m] [LawfulMonad m]

theorem joinedRows_placed (config : FusionConfig σ) (score : Nat → σ) (turns : Turns)
    (query : String) (D : List (Candidate σ)) :
    joinedRows config (Reranker.placed (m := m) score) turns query D [] = pure (merge config
      (Channel.ofScores? D ((List.range (Candidate.firsts D).length).map score)) none) := by
  unfold joinedRows
  rw [Channel.prepare_nil, Channel.prepare_eq, Reranker.scoreAll_placed, pure_bind,
    tryJoin_pure_left, map_pure, pure_bind, List.length_map, Channel.length_cleaned]

/-- **By relevance, a lone pool is left without a table** where the centred answers have no
order. -/
theorem fuse_disordered {config : FusionConfig σ} (hconfig : config.method = .relevance)
    {score : Nat → σ} {D : List (Candidate σ)} (hD : D ≠ [])
    (hscores : Row.rankedScores ((Column.center
      ((List.range (Candidate.firsts D).length).map score)).map some) = none)
    (turns : Turns) (query : String) :
    (fuse config (Reranker.placed (m := m) score) turns query D []).run =
      pure (.error .disordered) := by
  have hlen : ((List.range (Candidate.firsts D).length).map score).length =
      (Channel.cleaned D).length := by
    rw [List.length_map, List.length_range, Channel.length_cleaned]
  have hnone : tableOf (merge config
      (Channel.ofScores? D ((List.range (Candidate.firsts D).length).map score)) none) = none := by
    rw [tableOf_eq_none, Row.ranked_eq_none_iff, map_merged_relevance hconfig hD hlen]
    exact hscores
  rw [fuse_eq_tableFrom, joinedRows_placed, tableFrom, ExceptT.run_bind, Halt.run_failing,
    ExceptT.run_pure, map_pure, pure_bind]
  show pure (Halt.ordered (tableOf _)) = _
  rw [hnone]
  rfl

/-! ## Answers without an order -/

/-- Answers for 21 texts, one of which is no number. -/
def unorderable (place : Nat) : Float :=
  [0.0, 0.0, 3.0, 1.0, 3.0, 0.0, 1.0, 3.0, 3.0, 1.0, 0.0 / 0.0, 1.0, 1.0, 3.0, 2.0, 0.0, 3.0, 0.0,
    1.0, 2.0, 0.0].getD place 0.0

theorem unorderable_disordered :
    Row.rankedScores ((Column.center ((List.range 21).map unorderable)).map some) = none :=
  Option.isNone_iff_eq_none.mp (by decide +kernel)

/-- **Among 21 slices one answer that is no number may end it all.** -/
theorem fuse_unorderable {config : FusionConfig Float} (hconfig : config.method = .relevance)
    {D : List (Candidate Float)} (hD : (Candidate.firsts D).length = 21) (turns : Turns)
    (query : String) :
    (fuse config (Reranker.placed (m := m) unorderable) turns query D []).run =
      pure (.error .disordered) := by
  refine fuse_disordered hconfig ?_ (hD ▸ unorderable_disordered) turns query
  rintro rfl
  cases hD

/-- 21 slices of as many documents. -/
def slices : List (Candidate Float) :=
  (List.range 21).map fun i => sample (toString i) (toString i) "a" 1.0

theorem firsts_slices : Candidate.firsts slices = slices := by
  refine Lists.distinctBy_eq_self (List.pairwise_map.mpr ?_)
  have hnames : ((List.range 21).map fun i : Nat => toString i).Nodup := by decide +kernel
  exact (List.pairwise_map.mp hnames).imp fun hne heq => hne (congrArg Prod.fst heq)

end Fusion
end EvidenceRank
