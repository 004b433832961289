import EvidenceRank.Lists.Images
import EvidenceRank.Proofs.Fusion.Attribution

/-!
# What fusion ignores

A method that ranks by the reranker alone should not notice the scores of the channels or their
weights, and one that ranks by the channels should not notice the reranker. Both kinds of scores are
read all along the way all the same, by the summaries of the channels, by the scores filled in for a
missing hit and by the rows. So `rescored own given` applies one function to the scores of the
channels and another to those of the reranker, and every step of fusion is shown to commute with it:
what a row is joined, ordered and settled by is not touched.

Results:
* `join_rescored`, `gathered_rescored`, `tableOf_rescored`: the steps that no method changes.
* `merge_rescored_relevance`, `merge_rescored_weighted`: the scores that rows are ranked by do not
  change with those that the method does not read.
* `fuse_ignores`: the relevance method ignores channel scores and weights, the weighted method
  ignores the reranker, and no method reads the weights where a pool is empty.
-/

namespace EvidenceRank

variable {m : Type → Type} [Monad m] {σ : Type} {own given : σ → σ}

/-! ## Other scores -/

/-- The candidate under another score of its channel. -/
def Candidate.rescored (own : σ → σ) (c : Candidate σ) : Candidate σ :=
  { c with score := own c.score }

/-- The row with `own` applied to the scores of the channels and `given` to that of the reranker. -/
def Row.rescored (own given : σ → σ) (r : Row σ) : Row σ :=
  { r with
    candidate := r.candidate.rescored own
    dense := r.dense.map own
    sparse := r.sparse.map own
    relevance := r.relevance.map given }

def ColumnStats.map (own : σ → σ) (s : ColumnStats σ) : ColumnStats σ :=
  ⟨s.count, own s.min, own s.max, own s.mean, own s.std⟩

def Channel.rescored (own given : σ → σ) (c : Channel σ) : Channel σ :=
  ⟨c.rows.map (Row.rescored own given), c.stats.map own⟩

def FusedTable.rescored (own given : σ → σ) (t : FusedTable σ) : FusedTable σ :=
  ⟨t.rows.map (Row.rescored own given), t.hitCounts⟩

namespace Row

theorem identityIn_rescored (rows : List (Row σ)) (r : Row σ) :
    identityIn (rows.map (rescored own given)) (r.rescored own given) = identityIn rows r := by
  unfold identityIn
  rw [List.find?_map, Option.map_map]
  rfl

theorem settle_rescored (rows : List (Row σ)) :
    settle (rows.map (rescored own given)) = (settle rows).map (rescored own given) := by
  have hdistinct : distinct (rows.map (rescored own given)) =
      (distinct rows).map (rescored own given) := Lists.distinctBy_map fun _ _ => rfl
  rw [settle_eq_map, settle_eq_map, hdistinct, List.map_map, List.map_map]
  refine List.map_congr_left fun r _ => ?_
  rw [Function.comp_apply, identityIn_rescored]
  rfl

theorem ranked_rescored [Score σ] (rows : List (Row σ)) :
    ranked (rows.map (rescored own given)) = (ranked rows).map (List.map (rescored own given)) :=
  Lists.rankScores_map (fun _ _ => rfl) (fun _ => rfl) 4 rows

end Row

theorem HitCounts.ofRows_rescored (rows : List (Row σ)) :
    ofRows (rows.map (Row.rescored own given)) = ofRows rows := by
  unfold ofRows
  simp only [List.countP_map]
  rfl

namespace Fusion

/-! ## Joining -/

section Join

variable (d s : Channel σ)

theorem hitByBoth_rescored : hitByBoth (d.rescored own given) (s.rescored own given) =
    (hitByBoth d s).map (Row.rescored own given) := by
  unfold hitByBoth Channel.rescored
  rw [List.filterMap_map, List.map_filterMap]
  congr 1
  funext r
  rw [Function.comp_apply, List.find?_map, Option.map_map, Option.map_map]
  rfl

theorem hitByDense_rescored : hitByDense (d.rescored own given) (s.rescored own given) =
    (hitByDense d s).map (Row.rescored own given) := by
  unfold hitByDense Channel.rescored
  rw [List.filter_map, List.map_map, List.map_map]
  simp only [List.any_map]
  rfl

theorem hitBySparse_rescored (joined : List (Row σ)) :
    hitBySparse (d.rescored own given) (s.rescored own given)
        (joined.map (Row.rescored own given)) =
      (hitBySparse d s joined).map (Row.rescored own given) := by
  unfold hitBySparse Channel.rescored
  rw [List.filter_map, List.map_map, List.map_map]
  simp only [List.any_map]
  rfl

theorem join_rescored : join (d.rescored own given) (s.rescored own given) =
    (join d s).map (Row.rescored own given) := by
  unfold join
  simp only [hitByBoth_rescored, Row.settle_rescored, hitByDense_rescored, hitBySparse_rescored,
    List.map_append]

end Join

variable [Score σ]

/-- **Rows are gathered without a look at their scores**, where that of an absent channel is kept.
-/
theorem gathered_rescored (habsent : own absentScore = absentScore) (d s : Option (Channel σ)) :
    gathered (d.map (Channel.rescored own given)) (s.map (Channel.rescored own given)) =
      (gathered d s).map (Row.rescored own given) := by
  cases d with
  | none =>
    cases s with
    | none => rfl
    | some s =>
      show sparseAlone (s.rescored own given) = (sparseAlone s).map _
      unfold sparseAlone Channel.rescored
      rw [List.map_map, List.map_map]
      refine List.map_congr_left fun r _ => ?_
      simp only [Function.comp_apply, Row.rescored, Option.map_some, habsent]
      rfl
  | some d =>
    cases s with
    | none =>
      show denseAlone (d.rescored own given) = (denseAlone d).map _
      unfold denseAlone Channel.rescored
      rw [List.map_map, List.map_map]
      refine List.map_congr_left fun r _ => ?_
      simp only [Function.comp_apply, Row.rescored, Option.map_some, habsent]
      rfl
    | some s => exact join_rescored d s

/-! ## Ranking -/

omit [Score σ] in
theorem withMerged_rescored (rows : List (Row σ)) (scores : List σ) :
    withMerged (rows.map (Row.rescored own given)) scores =
      (withMerged rows scores).map (Row.rescored own given) := by
  unfold withMerged
  rw [List.zipWith_map_left, List.map_zipWith]
  rfl

theorem tableOf_rescored (joined : List (Row σ)) :
    tableOf (joined.map (Row.rescored own given)) =
      (tableOf joined).map (FusedTable.rescored own given) := by
  unfold tableOf
  rw [Row.ranked_rescored]
  cases Row.ranked joined with
  | none => rfl
  | some rows =>
    show some (FusedTable.ofRows _) = some _
    rw [Row.settle_rescored, FusedTable.ofRows, HitCounts.ofRows_rescored]
    rfl

/-- The relevance method ranks by the reranker's scores, whatever channels there are. -/
theorem scoresOf_relevance {config : FusionConfig σ} (hconfig : config.method = .relevance)
    (d s : Option (Channel σ)) :
    scoresOf config d s (gathered d s) = Column.center (relevanceColumn (gathered d s)) := by
  cases d <;> cases s <;>
    simp only [scoresOf, bothScores, denseScores, sparseScores, hconfig]
  rfl

/-- The weighted method ranks by the scores of the channels. -/
theorem scoresOf_weighted {config : FusionConfig σ} (hconfig : config.method = .weighted)
    (d s : Option (Channel σ)) (rows : List (Row σ)) :
    scoresOf config (d.map (Channel.rescored id given)) (s.map (Channel.rescored id given))
        (rows.map (Row.rescored id given)) = scoresOf config d s rows := by
  have hdense : denseColumn (rows.map (Row.rescored id given)) = denseColumn rows := by
    simp [denseColumn, Row.rescored, Function.comp_def]
  have hsparse : sparseColumn (rows.map (Row.rescored id given)) = sparseColumn rows := by
    simp [sparseColumn, Row.rescored, Function.comp_def]
  cases d <;> cases s <;>
    simp only [scoresOf, Option.map_none, Option.map_some, bothScores, denseScores, sparseScores,
      hconfig, hdense, hsparse]
  · rfl
  · rfl

/-- **The relevance method reads neither the weights nor the scores of the channels.** -/
theorem merge_rescored_relevance {config config' : FusionConfig σ}
    (hconfig : config.method = .relevance) (hconfig' : config'.method = .relevance)
    (habsent : own absentScore = absentScore) (d s : Option (Channel σ)) :
    merge config' (d.map (Channel.rescored own id)) (s.map (Channel.rescored own id)) =
      (merge config d s).map (Row.rescored own id) := by
  have hcolumn : relevanceColumn ((gathered d s).map (Row.rescored own id)) =
      relevanceColumn (gathered d s) := by
    simp [relevanceColumn, Row.rescored, Function.comp_def]
  rw [merge_eq, merge_eq, scoresOf_relevance hconfig, scoresOf_relevance hconfig',
    gathered_rescored habsent, hcolumn, withMerged_rescored]

/-- **The weighted method does not read the scores of the reranker.** -/
theorem merge_rescored_weighted {config : FusionConfig σ} (hconfig : config.method = .weighted)
    (d s : Option (Channel σ)) :
    merge config (d.map (Channel.rescored id given)) (s.map (Channel.rescored id given)) =
      (merge config d s).map (Row.rescored id given) := by
  rw [merge_eq, merge_eq, gathered_rescored rfl, scoresOf_weighted hconfig, withMerged_rescored]

/-- A channel that stands alone is ranked without the weights. -/
theorem merge_alone {config config' : FusionConfig σ} (hmethod : config.method = config'.method)
    {d s : Option (Channel σ)} (halone : d = none ∨ s = none) :
    merge config d s = merge config' d s := by
  have hscores (rows : List (Row σ)) : scoresOf config d s rows = scoresOf config' d s rows := by
    rcases halone with rfl | rfl
    · cases s with
      | none => rfl
      | some s => simp only [scoresOf, sparseScores, hmethod]
    · cases d with
      | none => rfl
      | some d => simp only [scoresOf, denseScores, hmethod]
  rw [merge_eq, merge_eq, hscores]

end Fusion

/-! ## Prepared pools -/

section Prepared

variable [Score σ]

/-- The candidate without the score of its channel. -/
def Candidate.unscored (c : Candidate σ) : Candidate σ := c.rescored fun _ => Fusion.absentScore

/-- The table without the scores of the channels. -/
def FusedTable.unscored (t : FusedTable σ) : FusedTable σ :=
  t.rescored (fun _ => Fusion.absentScore) id

/-- The table without the scores of the reranker. -/
def FusedTable.unreranked (t : FusedTable σ) : FusedTable σ :=
  t.rescored id fun _ => Fusion.absentScore

/-- Of a column without its values there is nothing to summarise but its length. -/
theorem ColumnStats.map_ofScores?_const (z : σ) {column column' : List σ}
    (h : column.length = column'.length) : (ofScores? column).map (ColumnStats.map fun _ => z) =
      (ofScores? column').map (ColumnStats.map fun _ => z) := by
  unfold ofScores? ColumnStats.map
  cases column with
  | nil =>
    obtain rfl := List.length_eq_zero_iff.mp h.symm
    rfl
  | cons x column =>
    cases column' with
    | nil => cases h
    | cons y column' =>
      rw [if_neg (by simp), if_neg (by simp), Option.map_some, Option.map_some, h]

namespace Channel

theorem cleaned_unscored (pool : List (Candidate σ)) : cleaned (pool.map Candidate.unscored) =
    (cleaned pool).map (Row.rescored (fun _ => Fusion.absentScore) id) := by
  unfold cleaned
  rw [← Row.settle_rescored, List.map_map, List.map_map]
  rfl

theorem titled_unscored (pool : List (Candidate σ)) :
    (cleaned (pool.map Candidate.unscored)).map Row.titled = (cleaned pool).map Row.titled := by
  rw [cleaned_unscored, List.map_map]
  rfl

/-- Rows with their scores, as a channel holds them. -/
def scoredRows (rows : List (Row σ)) (scores : List σ) : List (Row σ) :=
  List.zipWith (fun r s => { r with relevance := some s }) rows scores

theorem ofScores?_rescored (pool : List (Candidate σ)) (scores : List σ) :
    (ofScores? pool scores).map (rescored own given) =
      ((ColumnStats.ofScores? ((cleaned pool).map (·.candidate.score))).map
        (ColumnStats.map own)).map
          (⟨(scoredRows (cleaned pool) scores).map (Row.rescored own given), ·⟩) := by
  unfold ofScores?
  rw [Option.map_map, Option.map_map]
  rfl

/-- The channel of a pool, but for the scores of the channel, is told by the pool without them. -/
theorem ofScores?_unscored (pool : List (Candidate σ)) (scores : List σ) :
    (ofScores? (pool.map Candidate.unscored) scores).map
        (rescored (fun _ => Fusion.absentScore) id) =
      (ofScores? pool scores).map (rescored (fun _ => Fusion.absentScore) id) := by
  have hrows : (scoredRows (cleaned (pool.map Candidate.unscored)) scores).map
      (Row.rescored (fun _ => Fusion.absentScore) id) =
        (scoredRows (cleaned pool) scores).map (Row.rescored (fun _ => Fusion.absentScore) id) := by
    rw [cleaned_unscored, scoredRows, scoredRows, List.zipWith_map_left, List.map_zipWith,
      List.map_zipWith]
    congr 1
    funext r s
    simp [Row.rescored, Candidate.rescored, Function.comp_def]
  rw [ofScores?_rescored, ofScores?_rescored, hrows]
  refine congrArg (Option.map _) (ColumnStats.map_ofScores?_const _ ?_)
  rw [cleaned_unscored, List.length_map, List.length_map, List.length_map]

/-- Channels of one pool are the same but for the scores of the reranker. -/
theorem OfPool.rescored_eq {pool : List (Candidate σ)} {channel channel' : Option (Channel σ)}
    (h : OfPool pool channel) (h' : OfPool pool channel') (z : σ) :
    channel.map (rescored id fun _ => z) = channel'.map (rescored id fun _ => z) := by
  have hrows {scores : List σ} (hlen : scores.length = (cleaned pool).length) :
      (scoredRows (cleaned pool) scores).map (Row.rescored id fun _ => z) =
        (cleaned pool).map fun r => { r with relevance := some z } := by
    have hblank (r : Row σ) (s : σ) : Row.rescored id (fun _ => z) { r with relevance := some s } =
        { r with relevance := some z } := by
      simp [Row.rescored, Candidate.rescored]
    rw [← Row.map_zipWith_update (g := fun r s => { r with relevance := some s })
      (fun _ _ => rfl) _ _ hlen, scoredRows, List.map_zipWith, List.map_zipWith]
    simp only [hblank]
  obtain ⟨scores, hlen, rfl⟩ := h
  obtain ⟨scores', hlen', rfl⟩ := h'
  rw [ofScores?_rescored, ofScores?_rescored, hrows hlen, hrows hlen']

end Channel
end Prepared

/-! ## Fused tables -/

namespace Fusion

open Channel (OfPool)

variable [Score σ] [LawfulMonad m]

/-- By relevance, a table is told by the channels without their own scores, and by no weight. -/
theorem unscored_combine {config config' : FusionConfig σ} (hconfig : config.method = .relevance)
    (hconfig' : config'.method = .relevance) (d s : Option (Channel σ)) :
    (combine config d s).map FusedTable.unscored =
      tableOf (merge config' (d.map (Channel.rescored (fun _ => absentScore) id))
        (s.map (Channel.rescored (fun _ => absentScore) id))) := by
  rw [merge_rescored_relevance hconfig hconfig' rfl, tableOf_rescored]
  rfl

/-- By weights, a table is told by the channels without the scores of the reranker. -/
theorem unreranked_combine {config : FusionConfig σ} (hconfig : config.method = .weighted)
    (d s : Option (Channel σ)) :
    (combine config d s).map FusedTable.unreranked =
      tableOf (merge config (d.map (Channel.rescored id fun _ => absentScore))
        (s.map (Channel.rescored id fun _ => absentScore))) := by
  rw [merge_rescored_weighted hconfig, tableOf_rescored]
  rfl

/-- The channel of a pool, but for the scores of the channel, is prepared from the pool without
them. -/
theorem prepare_unscored (reranker : Reranker m σ) (query : String) (pool : List (Candidate σ)) :
    Option.map (Channel.rescored (fun _ => absentScore) id) <$>
        Channel.prepare reranker query (pool.map Candidate.unscored) =
      Option.map (Channel.rescored (fun _ => absentScore) id) <$>
        Channel.prepare reranker query pool := by
  rw [Channel.prepare_eq, Channel.prepare_eq, Channel.titled_unscored, map_bind, map_bind]
  refine bind_congr fun scores => ?_
  rw [map_pure, map_pure, Channel.ofScores?_unscored]

/-- By relevance, fusion is told by the channels without their own scores, and by no weight. -/
theorem unscored_fuse {config config' : FusionConfig σ} (hconfig : config.method = .relevance)
    (hconfig' : config'.method = .relevance) (reranker : Reranker m σ) (turns : Turns)
    (query : String) (D S : List (Candidate σ)) :
    FusedTable.unscored <$> fuse config reranker turns query D S =
      tableFrom ((fun (d, s) => merge config' d s) <$> tryJoin turns
        (Option.map (Channel.rescored (fun _ => absentScore) id) <$>
          Channel.prepare reranker query D)
        (Option.map (Channel.rescored (fun _ => absentScore) id) <$>
          Channel.prepare reranker query S)) := by
  unfold fuse tableFrom
  rw [tryJoin_map, map_bind, Halt.failing_map, Halt.failing_map, bind_map_left, bind_map_left]
  refine bind_congr fun (d, s) => ?_
  rw [Halt.map_ordering, unscored_combine hconfig hconfig']
  rfl

/-- Without channel scores the pools give the same table, but for these scores. -/
theorem fuse_unscored {config config' : FusionConfig σ} (hconfig : config.method = .relevance)
    (hconfig' : config'.method = .relevance) (reranker : Reranker m σ) (turns : Turns)
    (query : String) (D S : List (Candidate σ)) :
    FusedTable.unscored <$> fuse config' reranker turns query (D.map Candidate.unscored)
        (S.map Candidate.unscored) =
      FusedTable.unscored <$> fuse config reranker turns query D S := by
  rw [unscored_fuse hconfig' hconfig', unscored_fuse hconfig hconfig', prepare_unscored,
    prepare_unscored]

/-- Channels of one pair of pools give one table by weights, but for the scores of the reranker. -/
theorem unreranked_eq {config : FusionConfig σ} (hconfig : config.method = .weighted)
    {D S : List (Candidate σ)} {d d' s s' : Option (Channel σ)} (hd : OfPool D d)
    (hd' : OfPool D d') (hs : OfPool S s) (hs' : OfPool S s') :
    (combine config d s).map FusedTable.unreranked =
      (combine config d' s').map FusedTable.unreranked := by
  rw [unreranked_combine hconfig, unreranked_combine hconfig, hd.rescored_eq hd',
    hs.rescored_eq hs']

/-- With one pool alone the weights are not read. -/
theorem fuse_alone {config config' : FusionConfig σ} (hmethod : config.method = config'.method)
    {D S : List (Candidate σ)} (halone : D = [] ∨ S = []) (reranker : Reranker m σ) (turns : Turns)
    (query : String) :
    fuse config reranker turns query D S = fuse config' reranker turns query D S := by
  rw [fuse_eq_tableFrom, fuse_eq_tableFrom]
  refine congrArg tableFrom ?_
  unfold joinedRows
  rcases halone with rfl | rfl
  · simp only [Channel.prepare_nil, tryJoin_pure_left, bind_map_left, merge_alone hmethod
      (Or.inl rfl)]
  · simp only [Channel.prepare_nil, tryJoin_pure_right, bind_map_left, merge_alone hmethod
      (Or.inr rfl)]

/-- **Each method ignores what it does not rank by**: the relevance method the scores of the
channels and the weights, the weighted method the reranker, and each of them the weights where a
pool is empty. -/
theorem fuse_ignores (reranker : Reranker m σ) (turns : Turns) (query : String)
    (D S : List (Candidate σ)) :
    (∀ (config config' : FusionConfig σ) (D' S' : List (Candidate σ)),
      config.method = .relevance → config'.method = .relevance →
      D.map Candidate.unscored = D'.map Candidate.unscored →
      S.map Candidate.unscored = S'.map Candidate.unscored →
      FusedTable.unscored <$> fuse config reranker turns query D S =
        FusedTable.unscored <$> fuse config' reranker turns query D' S') ∧
    (∀ config : FusionConfig σ, config.method = .weighted → ∃ outcome : Option (FusedTable σ),
      ∀ {n : Type → Type} [Monad n] [LawfulMonad n] (reranker : Reranker n σ) (turns : Turns)
        (query : String),
        (Ensures (fuse config reranker turns query D S).run fun result =>
          ∀ t, result = .ok t → some t.unreranked = outcome) ∧
        (reranker.Answers → Ensures (fuse config reranker turns query D S).run fun result =>
          FusedTable.unreranked <$> result = Halt.ordered outcome)) ∧
    ∀ config config' : FusionConfig σ, config.method = config'.method → D = [] ∨ S = [] →
      fuse config reranker turns query D S = fuse config' reranker turns query D S := by
  refine ⟨fun config config' D' S' hconfig hconfig' hD hS => ?relevance,
    fun config hconfig => ?weighted,
    fun config config' hmethod halone => fuse_alone hmethod halone reranker turns query⟩
  case relevance =>
    rw [← fuse_unscored hconfig hconfig, hD, hS, fuse_unscored hconfig' hconfig]
  case weighted =>
    let blank (pool : List (Candidate σ)) := Channel.ofScores? pool
      ((Channel.cleaned pool).map fun _ => absentScore)
    have hblank (pool) : OfPool pool (blank pool) := ⟨_, List.length_map _, rfl⟩
    refine ⟨(combine config (blank D) (blank S)).map FusedTable.unreranked,
      fun reranker turns query => ⟨?_, fun hr => ?_⟩⟩
    · refine (fuse_ensures config reranker turns query D S).imp fun result h t ht => ?_
      obtain ⟨d, s, hd, hs, htable⟩ := h t ht
      rw [← unreranked_eq hconfig hd (hblank D) hs (hblank S)]
      exact congrArg (Option.map FusedTable.unreranked) htable.symm
    · refine (fuse_answers hr config turns query D S).imp fun result h => ?_
      obtain ⟨d, s, hd, hs, rfl⟩ := h
      rw [← Halt.ordered_map, ← unreranked_eq hconfig hd (hblank D) hs (hblank S)]
      rfl

/-- Two pools that differ in the scores of their channels, under two pairs of weights; two rerankers
that score differently; and a pool that stands alone. -/
theorem fuse_ignores_scores :
    let D := [sample "u" "A" "a" 1.0, sample "v" "B" "b" 1.0]
    let D' := D.map (Candidate.rescored fun _ => 7.0)
    let S := [sample "v" "B" "b" 1.0]
    let reranker : Reranker Id Float := Reranker.flat 1.0
    FusedTable.unscored <$> fuse ⟨0.5, 0.5, .relevance⟩ reranker .atOnce "q" D S =
        FusedTable.unscored <$> fuse ⟨0.9, 0.1, .relevance⟩ reranker .atOnce "q" D' S ∧
      (∃ t t' : FusedTable Float,
        (fuse ⟨0.5, 0.5, .weighted⟩ reranker .atOnce "q" D S).run = pure (.ok t) ∧
        (fuse ⟨0.5, 0.5, .weighted⟩ (Reranker.flat (m := Id) 2.0) .secondEnds "q" D S).run =
          pure (.ok t') ∧
        t.unreranked = t'.unreranked) ∧
      fuse ⟨0.5, 0.5, .hybrid⟩ reranker .atOnce "q" D [] =
        fuse ⟨0.9, 0.1, .hybrid⟩ reranker .atOnce "q" D [] := by
  intro D D' S reranker
  obtain ⟨hrelevance, hweighted, -⟩ := fuse_ignores reranker .atOnce "q" D S
  obtain ⟨-, -, halone⟩ := fuse_ignores reranker .atOnce "q" D []
  have hD : D.map Candidate.unscored = D'.map Candidate.unscored := by
    rw [List.map_map]
    rfl
  refine ⟨hrelevance ⟨0.5, 0.5, .relevance⟩ ⟨0.9, 0.1, .relevance⟩ D' S rfl rfl hD rfl, ?_,
    halone ⟨0.5, 0.5, .hybrid⟩ ⟨0.9, 0.1, .hybrid⟩ rfl (Or.inr rfl)⟩
  obtain ⟨outcome, h⟩ := hweighted ⟨0.5, 0.5, .weighted⟩ rfl
  have hsome (score : Float) (turns : Turns) : ∃ t : FusedTable Float,
      (fuse ⟨0.5, 0.5, .weighted⟩ (Reranker.flat (m := Id) score) turns "q" D S).run =
        pure (.ok t) ∧ some t.unreranked = outcome := by
    have hanswers := Reranker.flat_answers (m := Id) score
    obtain ⟨-, -, t, -, -, -, ht⟩ := Ensures.id_iff.mp
      (fuse_answers_few hanswers ⟨0.5, 0.5, .weighted⟩ turns "q" (D := D) (S := S) (by decide))
    have houtcome := Ensures.id_iff.mp ((h (n := Id) (Reranker.flat score) turns "q").2 hanswers)
    rw [ht] at houtcome
    exact ⟨t, ht, (Halt.ordered_eq_ok_iff.mp houtcome.symm).symm⟩
  obtain ⟨t, ht, houtcome⟩ := hsome 1.0 .atOnce
  obtain ⟨t', ht', houtcome'⟩ := hsome 2.0 .secondEnds
  exact ⟨t, t', ht, ht', Option.some.inj (houtcome.trans houtcome'.symm)⟩

end Fusion
end EvidenceRank
