import EvidenceRank.Proofs.Row
import EvidenceRank.Proofs.TryJoin

/-!
# Prepared channels

What preparing a channel does apart from asking the reranker: `Channel.cleaned` are the rows that
are asked about, and `Channel.ofScores?` is the channel once they are scored. `prepare_eq` puts the
call first, so everything that follows is about plain values.

Results:
* `map_cleaned`: the rows of a channel are the candidates that come first with their key.
* `OfPool`: a channel as fusion makes it from a pool; `OfPool.map_rows`, `OfPool.pairwise_key`,
  `OfPool.uniform` say what its rows are.
* `fuse_eq_tableFrom`: a fused table is that of its joined rows (`joinedRows`, `tableOf`).
* `joinedRows_ensures`, `joinedRows_answers`: joined rows are `merge` of the channels of the pools,
  and there are some whenever the reranker answers. Only their order may then be missing
  (`fuse_ensures`, `fuse_answers`).
-/

namespace EvidenceRank

variable {m : Type → Type} [Monad m] {σ β : Type} [Score σ]

namespace Channel

/-- The rows of a channel before they are scored. -/
def cleaned (pool : List (Candidate σ)) : List (Row σ) := Row.settle (pool.map Row.ofCandidate)

/-- The channel of a pool whose rows have been scored, if it has any. -/
def ofScores? (pool : List (Candidate σ)) (scores : List σ) : Option (Channel σ) :=
  (ColumnStats.ofScores? ((cleaned pool).map (·.candidate.score))).map fun stats =>
    ⟨List.zipWith (fun r s => { r with relevance := some s }) (cleaned pool) scores, stats⟩

/-! ## Rows of a channel -/

omit [Score σ] in
theorem map_cleaned {f : Row σ → β} (hf : ∀ r d, d.md5 = r.md5 → f (r.withDocument d) = f r)
    (pool : List (Candidate σ)) :
    (cleaned pool).map f = (Candidate.firsts pool).map fun c => f (Row.ofCandidate c) := by
  unfold cleaned
  rw [Row.map_settle hf, Row.distinct_ofCandidate, List.map_map]
  rfl

omit [Score σ] in
theorem length_cleaned (pool : List (Candidate σ)) :
    (cleaned pool).length = (Candidate.firsts pool).length := by
  have h := congrArg List.length (map_cleaned (f := Row.textHash) (fun _ _ _ => rfl) pool)
  rwa [List.length_map, List.length_map] at h

omit [Score σ] in
theorem cleaned_eq_nil {pool : List (Candidate σ)} : cleaned pool = [] ↔ pool = [] := by
  rw [← List.length_eq_zero_iff, length_cleaned, List.length_eq_zero_iff]
  exact Lists.distinctBy_eq_nil

theorem ofScores?_eq_none {column : List σ} :
    ColumnStats.ofScores? column = none ↔ column = [] := by
  unfold ColumnStats.ofScores?
  cases column <;> simp

/-- The channel is that of a pool, with some score for each of its rows. -/
def OfPool (pool : List (Candidate σ)) (channel : Option (Channel σ)) : Prop :=
  ∃ scores, scores.length = (cleaned pool).length ∧ channel = ofScores? pool scores

namespace OfPool

variable {pool : List (Candidate σ)} {c : Channel σ}

/-- A pool has a channel exactly if it has a candidate. -/
theorem eq_none_iff {channel : Option (Channel σ)} (h : OfPool pool channel) :
    channel = none ↔ pool = [] := by
  obtain ⟨scores, -, rfl⟩ := h
  unfold ofScores?
  rw [Option.map_eq_none_iff, ofScores?_eq_none, List.map_eq_nil_iff, cleaned_eq_nil]

/-- Scoring keeps the rows but for their relevance. -/
theorem exists_rows (h : OfPool pool (some c)) : ∃ scores : List σ,
    scores.length = (cleaned pool).length ∧
      c.rows = List.zipWith (fun r s => { r with relevance := some s }) (cleaned pool) scores := by
  obtain ⟨scores, hlen, hc⟩ := h
  obtain ⟨stats, -, rfl⟩ := Option.map_eq_some_iff.mp hc.symm
  exact ⟨scores, hlen, rfl⟩

theorem map_rows_cleaned (h : OfPool pool (some c)) {f : Row σ → β}
    (hf : ∀ r s, f { r with relevance := s } = f r) : c.rows.map f = (cleaned pool).map f := by
  obtain ⟨scores, hlen, hrows⟩ := h.exists_rows
  rw [hrows]
  exact Row.map_zipWith_update (fun r s => hf r (some s)) _ _ hlen

/-- **The rows of a channel are the candidates that come first**, as far as neither the identity
nor the relevance is read. -/
theorem map_rows (h : OfPool pool (some c)) {f : Row σ → β}
    (hrelevance : ∀ r s, f { r with relevance := s } = f r)
    (hdocument : ∀ r d, d.md5 = r.md5 → f (r.withDocument d) = f r) :
    c.rows.map f = (Candidate.firsts pool).map fun c => f (Row.ofCandidate c) :=
  (h.map_rows_cleaned hrelevance).trans (map_cleaned hdocument pool)

theorem map_key (h : OfPool pool (some c)) :
    c.rows.map Row.key = (Candidate.firsts pool).map Candidate.key :=
  h.map_rows (fun _ _ => rfl) fun _ _ hd => Row.withDocument_key hd

/-- A channel has no more rows than its pool has candidates. -/
theorem length_le (h : OfPool pool (some c)) : c.rows.length ≤ pool.length := by
  have hlen := congrArg List.length h.map_key
  rw [List.length_map, List.length_map] at hlen
  rw [hlen]
  exact (Lists.distinctBy_sublist Candidate.key pool).length_le

theorem pairwise_key (h : OfPool pool (some c)) :
    c.rows.Pairwise fun r s => r.key ≠ s.key := by
  have hp : ((Candidate.firsts pool).map Candidate.key).Pairwise (· ≠ ·) :=
    List.pairwise_map.mpr (Lists.distinctBy_pairwise Candidate.key pool)
  rw [← h.map_key] at hp
  exact List.pairwise_map.mp hp

/-- The rows stand in the order in which their keys come in the pool. -/
theorem pairwise_idxOf (h : OfPool pool (some c)) : c.rows.Pairwise fun r s =>
    (pool.map Candidate.key).idxOf r.key < (pool.map Candidate.key).idxOf s.key := by
  have hp : ((Candidate.firsts pool).map Candidate.key).Pairwise fun k l =>
      (pool.map Candidate.key).idxOf k < (pool.map Candidate.key).idxOf l :=
    List.pairwise_map.mpr (Lists.distinctBy_pairwise_idxOf Candidate.key pool)
  rw [← h.map_key, List.pairwise_map] at hp
  exact hp

theorem uniform (h : OfPool pool (some c)) : Row.Uniform c.rows := by
  have from_cleaned : ∀ r ∈ c.rows, ∃ r' ∈ cleaned pool, r'.document = r.document := by
    intro r hr
    have hmem : r.document ∈ c.rows.map Row.document := List.mem_map.mpr ⟨r, hr, rfl⟩
    rw [h.map_rows_cleaned fun _ _ => rfl] at hmem
    exact List.mem_map.mp hmem
  intro r hr s hs hmd5
  obtain ⟨r', hr', hrd⟩ := from_cleaned r hr
  obtain ⟨s', hs', hsd⟩ := from_cleaned s hs
  rw [← hrd, ← hsd]
  refine Row.settle_uniform _ r' hr' s' hs' ?_
  show r'.document.md5 = s'.document.md5
  rw [hrd, hsd]
  exact hmd5

/-- **Each row is that of a candidate that comes first with its key.** -/
theorem exists_from (h : OfPool pool (some c)) {r : Row σ} (hr : r ∈ c.rows) :
    ∃ d ∈ Candidate.firsts pool, r.From d := by
  let f : Row σ → (String × String) × Candidate σ :=
    fun r => (r.key, { r.candidate with document := {} })
  have hmem : f r ∈ c.rows.map f := List.mem_map.mpr ⟨r, hr, rfl⟩
  rw [h.map_rows (fun _ _ => rfl) fun _ _ hd => Prod.ext (Row.withDocument_key hd) rfl] at hmem
  obtain ⟨d, hd, heq⟩ := List.mem_map.mp hmem
  have hrest := congrArg (fun p => { p.2 with document := r.document }) heq
  exact ⟨d, hd, hrest.symm, (congrArg Prod.fst heq).symm⟩

theorem exists_candidate (h : OfPool pool (some c)) {r : Row σ} (hr : r ∈ c.rows) :
    ∃ d ∈ Candidate.firsts pool, d.key = r.key ∧ d.uuid = r.candidate.uuid := by
  obtain ⟨d, hd, hrd⟩ := h.exists_from hr
  exact ⟨d, hd, hrd.key.symm, hrd.uuid.symm⟩

theorem exists_row (h : OfPool pool (some c)) {d : Candidate σ} (hd : d ∈ Candidate.firsts pool) :
    ∃ r ∈ c.rows, r.key = d.key ∧ r.candidate.uuid = d.uuid := by
  have hmem : (d.key, d.uuid) ∈ (Candidate.firsts pool).map fun d =>
      ((Row.ofCandidate d).key, (Row.ofCandidate d).candidate.uuid) :=
    List.mem_map.mpr ⟨d, hd, rfl⟩
  rw [← h.map_rows (f := fun r => (r.key, r.candidate.uuid)) (fun _ _ => rfl)
    fun r d hd => by rw [Row.withDocument_key hd]; rfl] at hmem
  obtain ⟨r, hr, heq⟩ := List.mem_map.mp hmem
  exact ⟨r, hr, congrArg Prod.fst heq, congrArg Prod.snd heq⟩

/-- The first row of a uuid has the score of the first candidate of that uuid. -/
theorem find?_uuid (h : OfPool pool (some c)) (uuid : String) :
    (c.rows.find? (·.candidate.uuid == uuid)).map (·.candidate.score) =
      ((Candidate.firsts pool).find? (·.uuid == uuid)).map (·.score) := by
  have hmap : c.rows.map (fun r => (r.candidate.uuid, r.candidate.score)) =
      (Candidate.firsts pool).map fun d => (d.uuid, d.score) :=
    h.map_rows (fun _ _ => rfl) fun _ _ _ => rfl
  have hfind := congrArg (fun xs => (xs.find? (·.1 == uuid)).map Prod.snd) hmap
  simpa only [List.find?_map, Option.map_map, Function.comp_def] using hfind

/-- The summary of a channel is that of its rows. -/
theorem ofScores?_rows (h : OfPool pool (some c)) :
    ColumnStats.ofScores? (c.rows.map (·.candidate.score)) = some c.stats := by
  rw [h.map_rows_cleaned fun _ _ => rfl]
  obtain ⟨scores, -, hc⟩ := h
  obtain ⟨stats, hstats, rfl⟩ := Option.map_eq_some_iff.mp hc.symm
  exact hstats

/-- The channel's minimum is over the candidates that come first. -/
theorem stats_min (h : OfPool pool (some c)) :
    c.stats.min = Score.least ((Candidate.firsts pool).map (·.score)) := by
  have hstats := h.ofScores?_rows
  rw [h.map_rows (fun _ _ => rfl) fun _ _ _ => rfl] at hstats
  unfold ColumnStats.ofScores? at hstats
  split at hstats
  · cases hstats
  · rw [← Option.some.inj hstats]
    rfl

end OfPool

/-! ## Preparing -/

/-- The reranker is not asked about nothing. -/
theorem prepare_nil (reranker : Reranker m σ) (query : String) :
    prepare reranker query [] = pure none := rfl

variable [LawfulMonad m]

/-- Preparing a channel is one checked call, and the rest is computed from its scores. -/
theorem prepare_eq (reranker : Reranker m σ) (query : String) (pool : List (Candidate σ)) :
    prepare reranker query pool = do
      let scores ← reranker.scoreAll query ((cleaned pool).map Row.titled)
      return ofScores? pool scores := by
  have hrows : Row.settle (pool.map Row.ofCandidate) = cleaned pool := rfl
  unfold prepare ofScores?
  simp only [hrows]
  cases h : ColumnStats.ofScores? ((cleaned pool).map (·.candidate.score)) with
  | none =>
    have hnil : cleaned pool = [] := by
      rw [ofScores?_eq_none] at h
      exact List.map_eq_nil_iff.mp h
    rw [hnil, List.map_nil, Reranker.scoreAll_nil, pure_bind]
    rfl
  | some stats => rfl

theorem prepare_flat (score : σ) (query : String) (pool : List (Candidate σ)) :
    prepare (Reranker.flat (m := m) score) query pool =
      pure (ofScores? pool ((cleaned pool).map fun _ => score)) := by
  rw [prepare_eq, Reranker.scoreAll_flat, pure_bind, List.map_map]
  rfl

/-- A prepared channel is that of its pool. -/
theorem prepare_ensures (reranker : Reranker m σ) (query : String) (pool : List (Candidate σ)) :
    Ensures (prepare reranker query pool).run fun result =>
      ∀ channel, result = .ok channel → OfPool pool channel := by
  rw [prepare_eq]
  refine Ensures.bindExcept (reranker.scoreAll_ensures query _) (fun scores hs => ?_)
    fun e _ channel hc => by cases hc
  refine Ensures.pure fun channel hc => ?_
  rw [← Except.ok.inj hc]
  exact ⟨scores, (hs scores rfl).trans (List.length_map _), rfl⟩

theorem prepare_answers {reranker : Reranker m σ} (hr : reranker.Answers) (query : String)
    (pool : List (Candidate σ)) :
    Ensures (prepare reranker query pool).run fun result =>
      ∃ channel, result = .ok channel ∧ OfPool pool channel := by
  rw [prepare_eq]
  refine Ensures.bindExcept (hr.scoreAll query _) (fun scores hs => ?_) fun e he => ?_
  · obtain ⟨scores', heq, hlen⟩ := hs
    rw [← Except.ok.inj heq] at hlen
    exact Ensures.pure ⟨_, rfl, scores, hlen.trans (List.length_map _), rfl⟩
  · obtain ⟨scores, heq, -⟩ := he
    cases heq

end Channel

/-! ## Fused tables -/

namespace Fusion

open Channel (OfPool)

/-- The rows that a fused table is made of, before they are ordered. -/
def joinedRows (config : FusionConfig σ) (reranker : Reranker m σ) (turns : Turns) (query : String)
    (dense sparse : List (Candidate σ)) : ExceptT RankError m (List (Row σ)) := do
  let (d, s) ← tryJoin turns
    (Channel.prepare reranker query dense) (Channel.prepare reranker query sparse)
  return merge config d s

/-- The table of joined rows, if they can be ordered. -/
def tableOf (joined : List (Row σ)) : Option (FusedTable σ) := do
  let rows ← Row.ranked joined
  return .ofRows (Row.settle rows)

/-- A table is made of the joined rows in their order. -/
theorem tableOf_eq_some {joined : List (Row σ)} {table : FusedTable σ}
    (h : tableOf joined = some table) :
    ∃ rows, Row.ranked joined = some rows ∧ table = .ofRows (Row.settle rows) := by
  obtain ⟨rows, hrows, htable⟩ := Option.bind_eq_some_iff.mp h
  exact ⟨rows, hrows, (Option.some.inj htable).symm⟩

/-- There is no table exactly if the joined rows have no order. -/
theorem tableOf_eq_none {joined : List (Row σ)} :
    tableOf joined = none ↔ Row.ranked joined = none := by
  unfold tableOf
  cases Row.ranked joined <;> simp

/-- Fusion in two steps: joining rows, which may fail, and making the table, which may not be
done. -/
def tableFrom (joined : ExceptT RankError m (List (Row σ))) : ExceptT Halt m (FusedTable σ) := do
  let rows ← Halt.failing joined
  Halt.ordering (tableOf rows)

/-- What comes of rows that are joined, or not. -/
def tabled : Except RankError (List (Row σ)) → Except Halt (FusedTable σ)
  | .ok joined => Halt.ordered (tableOf joined)
  | .error e => .error (.failed e)

/-- It all ends without a report exactly if rows are joined that have no order. -/
theorem tabled_eq_disordered_iff {result : Except RankError (List (Row σ))} :
    tabled result = .error .disordered ↔
      ∃ joined, result = .ok joined ∧ Row.ranked joined = none := by
  cases result with
  | error e => simp [tabled]
  | ok joined => simp [tabled, Halt.ordered_eq_disordered_iff, tableOf_eq_none]

variable [LawfulMonad m]

theorem run_tableFrom (joined : ExceptT RankError m (List (Row σ))) :
    (tableFrom joined).run = tabled <$> joined.run := by
  unfold tableFrom
  rw [ExceptT.run_bind, Halt.run_failing, bind_map_left, map_eq_pure_bind]
  refine bind_congr fun result => ?_
  cases result <;> rfl

/-- **A fused table is that of its joined rows.** -/
theorem fuse_eq_tableFrom (config : FusionConfig σ) (reranker : Reranker m σ) (turns : Turns)
    (query : String) (dense sparse : List (Candidate σ)) :
    fuse config reranker turns query dense sparse =
      tableFrom (joinedRows config reranker turns query dense sparse) := by
  unfold fuse tableFrom joinedRows
  refine ExceptT.ext ?_
  simp only [ExceptT.run_bind, Halt.run_failing, bind_map_left, map_bind, bind_assoc]
  refine bind_congr fun result => ?_
  cases result with
  | error e => simp
  | ok channels => simp; rfl

/-- What comes of preparing two pools. -/
theorem prepared_ensures (reranker : Reranker m σ) (turns : Turns) (query : String)
    (dense sparse : List (Candidate σ)) :
    Ensures (tryJoin turns (Channel.prepare reranker query dense)
        (Channel.prepare reranker query sparse)).run fun result =>
      ∀ d s, result = .ok (d, s) → OfPool dense d ∧ OfPool sparse s := by
  refine (Ensures.tryJoin (Channel.prepare_ensures reranker query dense)
    (Channel.prepare_ensures reranker query sparse) turns).imp fun result h d s hr => ?_
  subst hr
  cases h with
  | both hd hs => exact ⟨hd d rfl, hs s rfl⟩

/-- **Joined rows are those of the channels of the pools.** -/
theorem joinedRows_ensures (config : FusionConfig σ) (reranker : Reranker m σ) (turns : Turns)
    (query : String) (dense sparse : List (Candidate σ)) :
    Ensures (joinedRows config reranker turns query dense sparse).run fun result =>
      ∀ joined, result = .ok joined → ∃ d s, OfPool dense d ∧ OfPool sparse s ∧
        joined = merge config d s := by
  unfold joinedRows
  refine (prepared_ensures reranker turns query dense sparse).bindExcept (fun (d, s) h => ?_)
    fun e _ joined hj => by cases hj
  obtain ⟨hd, hs⟩ := h d s rfl
  exact Ensures.pure fun joined hj => ⟨d, s, hd, hs, (Except.ok.inj hj).symm⟩

/-- **There are joined rows whenever the reranker answers.** -/
theorem joinedRows_answers {reranker : Reranker m σ} (hr : reranker.Answers)
    (config : FusionConfig σ) (turns : Turns) (query : String) (dense sparse : List (Candidate σ)) :
    Ensures (joinedRows config reranker turns query dense sparse).run fun result =>
      ∃ d s, OfPool dense d ∧ OfPool sparse s ∧ result = .ok (merge config d s) := by
  unfold joinedRows
  refine (Ensures.tryJoin (Channel.prepare_answers hr query dense)
    (Channel.prepare_answers hr query sparse) turns).bindExcept (fun (d, s) h => ?_) fun e h => ?_
  · cases h with
    | both hd hs =>
      obtain ⟨d', hd', hd⟩ := hd
      obtain ⟨s', hs', hs⟩ := hs
      rw [← Except.ok.inj hd'] at hd
      rw [← Except.ok.inj hs'] at hs
      exact Ensures.pure ⟨d, s, hd, hs, rfl⟩
  · cases h with
    | first he => obtain ⟨_, he, -⟩ := he; cases he
    | second he => obtain ⟨_, he, -⟩ := he; cases he

/-- **A fused table is one of joined rows of the pools.** -/
theorem fuse_ensures (config : FusionConfig σ) (reranker : Reranker m σ) (turns : Turns)
    (query : String) (dense sparse : List (Candidate σ)) :
    Ensures (fuse config reranker turns query dense sparse).run fun result =>
      ∀ table, result = .ok table → ∃ d s, OfPool dense d ∧ OfPool sparse s ∧
        tableOf (merge config d s) = some table := by
  rw [fuse_eq_tableFrom]
  refine (joinedRows_ensures config reranker turns query dense sparse).ordered
    (fun joined hj table ht => ?_) fun e _ table ht => by cases ht
  obtain ⟨d, s, hd, hs, rfl⟩ := hj joined rfl
  exact ⟨d, s, hd, hs, Halt.ordered_eq_ok_iff.mp ht⟩

/-- A reranker that answers leaves fusion with nothing to go wrong but the order. -/
theorem fuse_answers {reranker : Reranker m σ} (hr : reranker.Answers) (config : FusionConfig σ)
    (turns : Turns) (query : String) (dense sparse : List (Candidate σ)) :
    Ensures (fuse config reranker turns query dense sparse).run fun result =>
      ∃ d s, OfPool dense d ∧ OfPool sparse s ∧
        result = Halt.ordered (tableOf (merge config d s)) := by
  rw [fuse_eq_tableFrom]
  refine (joinedRows_answers hr config turns query dense sparse).ordered (fun joined hj => ?_)
    fun e ⟨_, _, _, _, he⟩ => by cases he
  obtain ⟨d, s, hd, hs, heq⟩ := hj
  rw [Except.ok.inj heq]
  exact ⟨d, s, hd, hs, rfl⟩

end Fusion
end EvidenceRank
