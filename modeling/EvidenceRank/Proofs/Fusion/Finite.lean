import EvidenceRank.Proofs.Column.Finite
import EvidenceRank.Proofs.Fusion.Table

/-!
# Which merged scores are finite

The score that a row is ranked by is made of rescaled columns. A rescaled value is small or infinite
or no number (`Column.centerOf_finite_iff`), and what small values are combined to with the default
weights is small again, so a score is finite exactly if all that it is made of is: `Bounded` says
this of one value and is carried through products and sums.

Results:
* `finite_scoresOf`: which scores of gathered rows are finite, for each set of channels and method.
* `fuse_finite_iff`: with the default weights the score of a row is finite exactly if the columns
  that it is made of can be centred at that row. `wide_centered_infinite` is a column of numbers
  that cannot be.
-/

namespace EvidenceRank.Fusion

open Score Decimal

/-! ## Small values -/

/-- A value is finite exactly if `P` holds, and does not exceed `2 ^ k` then. -/
structure Bounded (k : Nat) (P : Prop) (x : Float) : Prop where
  iff : isFinite x = true ↔ P
  abs_le : isFinite x = true → |val x| ≤ 2 ^ k

theorem pow_lt_range {k : Nat} (hk : k < 1024) : (2 : ℚ) ^ k < 2 ^ 1024 :=
  pow_lt_pow_right₀ one_lt_two hk

namespace Bounded

variable {j k : Nat} {P Q : Prop} {w x y : Float}

theorem congr (h : Bounded k P x) (hPQ : P ↔ Q) : Bounded k Q x := ⟨h.iff.trans hPQ, h.abs_le⟩

theorem mono (h : Bounded j P x) (hjk : j ≤ k) : Bounded k P x :=
  ⟨h.iff, fun hx => (h.abs_le hx).trans (pow_le_pow_right₀ one_le_two hjk)⟩

/-- A product with a weight. -/
theorem mul (h : Bounded k P x) (hw : Bounded j True w) (hjk : j + k < 1024) :
    Bounded (j + k) P (w * x) := by
  have hfinite : isFinite w = true := hw.iff.mpr trivial
  have hvalue : isFinite x = true → |val w * val x| ≤ 2 ^ (j + k) := by
    intro hx
    rw [abs_mul, pow_add]
    exact mul_le_mul (hw.abs_le hfinite) (h.abs_le hx) (abs_nonneg _) (by positivity)
  constructor
  · rw [← h.iff]
    refine ⟨fun hproduct => (isFinite_operands_mul hproduct).2, fun hx => ?_⟩
    exact isFinite_mul hfinite hx (representable_pow _) (pow_lt_range hjk) (hvalue hx)
  · intro hproduct
    exact (rounds_mul hproduct).abs_value_le (representable_pow _)
      (hvalue (isFinite_operands_mul hproduct).2)

theorem add (h : Bounded k P x) (h' : Bounded k Q y) (hk : k + 1 < 1024) :
    Bounded (k + 1) (P ∧ Q) (x + y) := by
  have hvalue : isFinite x = true → isFinite y = true → |val x + val y| ≤ 2 ^ (k + 1) := by
    intro hx hy
    rw [pow_succ, mul_two]
    exact (abs_add_le _ _).trans (add_le_add (h.abs_le hx) (h'.abs_le hy))
  constructor
  · rw [← h.iff, ← h'.iff]
    refine ⟨isFinite_operands_add, fun ⟨hx, hy⟩ => ?_⟩
    exact isFinite_add hx hy (representable_pow _) (pow_lt_range hk) (hvalue hx hy)
  · intro hsum
    obtain ⟨hx, hy⟩ := isFinite_operands_add hsum
    exact (rounds_add hsum).abs_value_le (representable_pow _) (hvalue hx hy)

end Bounded

/-! ## Default weights -/

/-- The weights are the default ones. -/
structure WeighsByDefault (config : FusionConfig Float) : Prop where
  dense : config.denseWeight = FusionConfig.default.denseWeight
  sparse : config.sparseWeight = FusionConfig.default.sparseWeight

namespace WeighsByDefault

variable {config : FusionConfig Float}

theorem dense_bounded (h : WeighsByDefault config) : Bounded 1 True config.denseWeight := by
  rw [h.dense]
  have hweight : unpacked 1.3 = .finite .positive 5854679515581645 (-52) (by decide) := rfl
  refine ⟨iff_of_true rfl trivial, fun _ => ?_⟩
  change |val 1.3| ≤ 2 ^ 1
  rw [val, hweight, value, factor, scaled]
  norm_num [abs_of_pos]

theorem sparse_bounded (h : WeighsByDefault config) : Bounded 1 True config.sparseWeight := by
  rw [h.sparse]
  have hweight : unpacked 1.0 = .finite .positive (2 ^ 52) (-52) (by decide) := rfl
  refine ⟨iff_of_true rfl trivial, fun _ => ?_⟩
  change |val 1.0| ≤ 2 ^ 1
  rw [val, hweight, value, factor, scaled]
  norm_num [abs_of_pos]

end WeighsByDefault

/-! ## One score for each row -/

/-- The scores of rows, where `P` relates each row to its score. -/
def Each {α : Type} (rows : List (Row Float)) (P : Row Float → α → Prop) (scores : List α) :
    Prop :=
  ∃ score : Row Float → α, scores = rows.map score ∧ ∀ r ∈ rows, P r (score r)

namespace Each

variable {α β γ : Type} {rows : List (Row Float)}

theorem zipWith {P : Row Float → α → Prop} {Q : Row Float → β → Prop} {R : Row Float → γ → Prop}
    {xs : List α} {ys : List β} (h : Each rows P xs) (h' : Each rows Q ys) {f : α → β → γ}
    (hf : ∀ {r x y}, P r x → Q r y → R r (f x y)) : Each rows R (List.zipWith f xs ys) := by
  obtain ⟨score, rfl, hscore⟩ := h
  obtain ⟨score', rfl, hscore'⟩ := h'
  refine ⟨fun r => f (score r) (score' r), ?_, fun r hr => hf (hscore r hr) (hscore' r hr)⟩
  rw [List.zipWith_map, List.zipWith_self]

theorem imp {P Q : Row Float → α → Prop} {xs : List α} (h : Each rows P xs)
    (hPQ : ∀ {r x}, P r x → Q r x) : Each rows Q xs := by
  obtain ⟨score, hscores, hscore⟩ := h
  exact ⟨score, hscores, fun r hr => hPQ (hscore r hr)⟩

end Each

/-- The column of `of` can be centred at a row. -/
def CentersAt (rows : List (Row Float)) (of : Row Float → Float) (r : Row Float) : Prop :=
  Column.Rescalable (rows.map of) (of r)

theorem each_centerBy (rows : List (Row Float)) (of : Row Float → Float) :
    Each rows (fun r => Bounded 1 (CentersAt rows of r))
      (Column.centerBy (Column.summary (rows.map of)) (rows.map of)) := by
  refine ⟨fun r => Column.centerOf (rows.map of) (of r), ?_, fun r hr => ?_⟩
  · rw [Column.centerBy_summary, List.map_map]
    rfl
  · have hmem : of r ∈ rows.map of := List.mem_map.mpr ⟨r, hr, rfl⟩
    refine ⟨Column.centerOf_finite_iff hmem, fun hfinite => ?_⟩
    rw [pow_one]
    exact Column.abs_centerOf_le hmem ((Column.centerOf_finite_iff hmem).mp hfinite)

theorem each_center (rows : List (Row Float)) (of : Row Float → Float) :
    Each rows (fun r => Bounded 1 (CentersAt rows of r)) (Column.center (rows.map of)) := by
  have h := each_centerBy rows of
  rwa [Column.centerBy_summary, ← Column.center_eq_map] at h

theorem each_standardizeBy (rows : List (Row Float)) (of : Row Float → Float) :
    Each rows (fun _ x => isFinite x = true)
      (Column.standardizeBy (Column.summary (rows.map of)) (rows.map of)) := by
  refine ⟨fun r => Column.standardOf (rows.map of) (of r), ?_, fun r hr => ?_⟩
  · rw [Column.standardizeBy_summary, List.map_map]
    rfl
  · exact Column.standardOf_finite (List.mem_map.mpr ⟨r, hr, rfl⟩)

/-! ## The columns that a score is made of -/

def denseOf (r : Row Float) : Float := r.dense.getD absentScore

def sparseOf (r : Row Float) : Float := r.sparse.getD absentScore

def relevanceOf (r : Row Float) : Float := r.relevance.getD absentScore

/-- The columns that the score of a row is made of can be centred at that row. The column of a
sparse channel that stands alone is taken in deviations where the reranker's scores are left out. -/
def Sound (config : FusionConfig Float) (D S : List (Candidate Float)) (rows : List (Row Float))
    (r : Row Float) : Prop :=
  match config.method with
  | .weighted => D ≠ [] → CentersAt rows denseOf r ∧ (S ≠ [] → CentersAt rows sparseOf r)
  | .hybrid => CentersAt rows relevanceOf r ∧ (D ≠ [] → CentersAt rows denseOf r) ∧
      (S ≠ [] → CentersAt rows sparseOf r)
  | .relevance => CentersAt rows relevanceOf r

/-- The score of a row is finite exactly if the row is sound. -/
def FiniteIff (sound : Row Float → Prop) (r : Row Float) (x : Float) : Prop :=
  isFinite x = true ↔ sound r

variable {config : FusionConfig Float} {D S : List (Candidate Float)} {rows : List (Row Float)}

theorem finite_bothScores (h : WeighsByDefault config) (hD : D ≠ []) (hS : S ≠ []) :
    Each rows (FiniteIff (Sound config D S rows)) (bothScores config rows) := by
  have hdense := each_center rows denseOf
  have hsparse := each_center rows sparseOf
  have hrelevance := each_center rows relevanceOf
  unfold bothScores Sound
  cases config.method with
  | weighted =>
    refine hdense.zipWith hsparse fun {r x y} hx hy => ?_
    have hsum := (hx.mul h.dense_bounded (by decide)).add (hy.mul h.sparse_bounded (by decide))
      (by decide)
    refine hsum.iff.trans ⟨fun hboth _ => ⟨hboth.1, fun _ => hboth.2⟩, fun hsound => ?_⟩
    exact ⟨(hsound hD).1, (hsound hD).2 hS⟩
  | hybrid =>
    refine hrelevance.zipWith (hdense.zipWith hsparse (R := fun r p =>
      Bounded 1 (CentersAt rows denseOf r) p.1 ∧ Bounded 1 (CentersAt rows sparseOf r) p.2)
      fun hx hy => ⟨hx, hy⟩) fun {r x p} hx hp => ?_
    have hweights := (h.dense_bounded.add h.sparse_bounded (by decide)).congr (and_self_iff)
    have hfirst := (hx.mul hweights (by decide)).add
      ((hp.1.mul h.dense_bounded (by decide)).mono (by decide)) (by decide)
    have hsum := hfirst.add ((hp.2.mul h.sparse_bounded (by decide)).mono (by decide)) (by decide)
    refine hsum.iff.trans ⟨fun hall => ⟨hall.1.1, fun _ => hall.1.2, fun _ => hall.2⟩, ?_⟩
    exact fun hsound => ⟨⟨hsound.1, hsound.2.1 hD⟩, hsound.2.2 hS⟩
  | relevance => exact hrelevance.imp fun hx => hx.iff

/-- The summary of a channel is that of the column of its rows. -/
theorem stats_eq_summary {pool : List (Candidate Float)} {c : Channel Float}
    (h : Channel.OfPool pool (some c)) :
    c.stats = Column.summary (c.rows.map (·.candidate.score)) := by
  have hne : c.rows.map (·.candidate.score) ≠ [] := fun hnil => by
    have hnone := Channel.ofScores?_eq_none.mpr hnil
    rw [h.ofScores?_rows] at hnone
    cases hnone
  exact Option.some.inj (h.ofScores?_rows.symm.trans (Column.ofScores?_eq_some hne))

theorem finite_denseScores {d : Channel Float} (hd : Channel.OfPool D (some d)) (hS : S = []) :
    Each (denseAlone d) (FiniteIff (Sound config D S (denseAlone d)))
      (denseScores config d.stats (denseAlone d)) := by
  have hD : D ≠ [] := fun h => nomatch hd.eq_none_iff.mpr h
  have hstats : d.stats = Column.summary ((denseAlone d).map denseOf) := by
    rw [stats_eq_summary hd, denseAlone, List.map_map]
    rfl
  have hdense := each_centerBy (denseAlone d) denseOf
  have hrelevance := each_center (denseAlone d) relevanceOf
  unfold denseScores Sound
  rw [hstats]
  cases config.method with
  | weighted =>
    refine hdense.imp fun {r x} hx => hx.iff.trans ?_
    exact ⟨fun hdense _ => ⟨hdense, fun hne => absurd hS hne⟩, fun hsound => (hsound hD).1⟩
  | hybrid =>
    refine hrelevance.zipWith hdense fun {r x y} hx hy => ?_
    refine (hx.add hy (by decide)).iff.trans ?_
    exact ⟨fun hboth => ⟨hboth.1, fun _ => hboth.2, fun hne => absurd hS hne⟩,
      fun hsound => ⟨hsound.1, hsound.2.1 hD⟩⟩
  | relevance => exact hrelevance.imp fun hx => hx.iff

theorem finite_sparseScores {s : Channel Float} (hs : Channel.OfPool S (some s)) (hD : D = []) :
    Each (sparseAlone s) (FiniteIff (Sound config D S (sparseAlone s)))
      (sparseScores config s.stats (sparseAlone s)) := by
  have hS : S ≠ [] := fun h => nomatch hs.eq_none_iff.mpr h
  have hstats : s.stats = Column.summary ((sparseAlone s).map sparseOf) := by
    rw [stats_eq_summary hs, sparseAlone, List.map_map]
    rfl
  have hsparse := each_centerBy (sparseAlone s) sparseOf
  have hrelevance := each_center (sparseAlone s) relevanceOf
  unfold sparseScores Sound
  rw [hstats]
  cases config.method with
  | weighted =>
    refine (each_standardizeBy (sparseAlone s) sparseOf).imp fun {r x} hx => ?_
    exact iff_of_true hx fun hne => absurd hD hne
  | hybrid =>
    refine hrelevance.zipWith hsparse fun {r x y} hx hy => ?_
    refine (hx.add hy (by decide)).iff.trans ?_
    exact ⟨fun hboth => ⟨hboth.1, fun hne => absurd hD hne, fun _ => hboth.2⟩,
      fun hsound => ⟨hsound.1, hsound.2.2 hS⟩⟩
  | relevance => exact hrelevance.imp fun hx => hx.iff

/-- **Whatever channels there are, the scores are finite at the sound rows.** -/
theorem finite_scoresOf (h : WeighsByDefault config) {d s : Option (Channel Float)}
    (hd : Channel.OfPool D d) (hs : Channel.OfPool S s) :
    Each (gathered d s) (FiniteIff (Sound config D S (gathered d s)))
      (scoresOf config d s (gathered d s)) := by
  cases d with
  | none =>
    have hD := hd.eq_none_iff.mp rfl
    cases s with
    | none => exact ⟨fun _ => absentScore, rfl, fun _ hr => nomatch hr⟩
    | some s => exact finite_sparseScores hs hD
  | some d =>
    have hD : D ≠ [] := fun h => nomatch hd.eq_none_iff.mpr h
    cases s with
    | none => exact finite_denseScores hd (hs.eq_none_iff.mp rfl)
    | some s => exact finite_bothScores h hD fun h => nomatch hs.eq_none_iff.mpr h

/-! ## Joined rows and their table -/

/-- A row of joined rows has a score, and it is finite exactly if the row is sound. -/
def FinitelyScored (config : FusionConfig Float) (D S : List (Candidate Float))
    (joined : List (Row Float)) (r : Row Float) : Prop :=
  ∃ x, r.merged = some x ∧ (isFinite x = true ↔ Sound config D S joined r)

/-- What a row is scored by is not what the score is written over. -/
theorem sound_merge (config : FusionConfig Float) (d s : Option (Channel Float)) (r : Row Float) :
    Sound config D S (merge config d s) r ↔ Sound config D S (gathered d s) r := by
  unfold Sound CentersAt
  rw [map_merge (f := denseOf) fun _ _ => rfl, map_merge (f := sparseOf) fun _ _ => rfl,
    map_merge (f := relevanceOf) fun _ _ => rfl]

theorem merge_finite (h : WeighsByDefault config) {d s : Option (Channel Float)}
    (hd : Channel.OfPool D d) (hs : Channel.OfPool S s) {r : Row Float}
    (hr : r ∈ merge config d s) : FinitelyScored config D S (merge config d s) r := by
  obtain ⟨score, hscores, hscore⟩ := finite_scoresOf h hd hs
  have hmem := hr
  rw [merge_eq_map hscores] at hmem
  obtain ⟨g, hg, rfl⟩ := List.mem_map.mp hmem
  exact ⟨_, rfl, (hscore g hg).trans (sound_merge config d s g).symm⟩

variable {m : Type → Type} [Monad m] [LawfulMonad m]

/-- **Which rescaled values and which scores are finite.** Deviations always are. A centred value
is finite exactly if it is that of a number and the sum of the ends of its column is finite. With
the default weights the score of a row is finite exactly if the row is sound. -/
theorem fuse_finite_iff {config : FusionConfig Float} (h : WeighsByDefault config)
    (reranker : Reranker m Float) (turns : Turns) (query : String)
    (D S : List (Candidate Float)) :
    (∀ column : List Float, column ≠ [] →
      ∃ stats, ColumnStats.ofScores? column = some stats ∧ ∀ x ∈ column,
        (∀ y, stats.zeroScore x = .ok y → isFinite y = true) ∧
        ∀ y, stats.minMaxCentered x = .ok y → (isFinite y = true ↔ Column.Centrable column x)) ∧
    fuse config reranker turns query D S =
        tableFrom (joinedRows config reranker turns query D S) ∧
      Ensures (joinedRows config reranker turns query D S).run fun result =>
        ∀ joined, result = .ok joined → ∀ table, tableOf joined = some table →
          ∀ r ∈ table.rows, FinitelyScored config D S joined r := by
  refine ⟨fun column => Column.normalised_finite, fuse_eq_tableFrom config reranker turns query D S,
    ?_⟩
  refine (joinedRows_ensures config reranker turns query D S).imp
    fun result hr joined hj table ht r hmem => ?_
  obtain ⟨d, s, hd, hs, rfl⟩ := hr joined hj
  obtain ⟨j, hj, heq, -⟩ := exists_joined ht hmem
  obtain ⟨x, hx, hfinite⟩ := merge_finite h hd hs hj
  rw [heq]
  exact ⟨x, hx, hfinite⟩

/-- Two scores in range whose sum is not. -/
def wide : List Float := [1e308, 1.7e308]

theorem wide_usable : ColumnStats.usable (Score.greatest wide - Score.least wide) = true := by
  decide +kernel

theorem wide_sum_infinite : isFinite (Score.least wide + Score.greatest wide) = false := by
  decide +kernel

theorem not_centrable_wide (x : Float) : ¬ Column.Centrable wide x :=
  fun h => absurd h.2 (Bool.eq_false_iff.mp wide_sum_infinite)

/-- The normaliser centres a value of the column to one that is not finite. -/
theorem wide_centered_infinite :
    ∃ stats x y, ColumnStats.ofScores? wide = some stats ∧ x ∈ wide ∧
      stats.minMaxCentered x = .ok y ∧ isFinite y = false := by
  have hne : wide ≠ [] := List.cons_ne_nil _ _
  have hmem : 1e308 ∈ wide := List.mem_cons_self
  refine ⟨Column.summary wide, 1e308, (Column.summary wide).centered 1e308,
    Column.ofScores?_eq_some hne, hmem, Column.minMaxCentered_of_usable wide_usable _, ?_⟩
  rw [Bool.eq_false_iff, Ne, Column.centered_finite_iff hmem wide_usable]
  exact not_centrable_wide 1e308

/-- No row of a dense channel with these scores is given a finite score. -/
theorem wide_scores_infinite :
    ∃ joined table, (joinedRows { FusionConfig.default with method := .weighted }
        (Reranker.flat 1.0) .atOnce "q" [sample "u" "u" "u" 1e308, sample "v" "v" "v" 1.7e308]
        []).run = (pure (.ok joined) : Id _) ∧ tableOf joined = some table ∧
      ∀ r ∈ table.rows, ∃ x, r.merged = some x ∧ isFinite x = false := by
  let config : FusionConfig Float := { FusionConfig.default with method := .weighted }
  let pool : List (Candidate Float) := [sample "u" "u" "u" 1e308, sample "v" "v" "v" 1.7e308]
  let joined := merge config (Channel.ofScores? pool [1.0, 1.0]) none
  have hrun : (joinedRows config (Reranker.flat 1.0) .atOnce "q" pool []).run =
      (pure (.ok joined) : Id _) := rfl
  have hfew : joined.length ≤ Lists.insertionLength := by decide
  obtain ⟨table, ht⟩ := exists_tableOf_few hfew
  have hweights : WeighsByDefault config := ⟨rfl, rfl⟩
  have h := Ensures.id_iff.mp (fuse_finite_iff (m := Id) hweights (Reranker.flat 1.0) .atOnce "q"
    pool []).2.2 joined hrun table ht
  refine ⟨joined, table, hrun, ht, fun r hr => ?_⟩
  obtain ⟨x, hx, hfinite⟩ := h r hr
  refine ⟨x, hx, Bool.eq_false_iff.mpr fun hx => ?_⟩
  have hcenters : Column.Rescalable wide (denseOf r) := (hfinite.mp hx (List.cons_ne_nil _ _)).1
  exact absurd (hcenters wide_usable) (not_centrable_wide _)

end EvidenceRank.Fusion
