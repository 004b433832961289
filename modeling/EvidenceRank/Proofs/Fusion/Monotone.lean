import EvidenceRank.Proofs.Column.Shape
import EvidenceRank.Proofs.Fusion.Table

/-!
# Fusion is monotone

In exact arithmetic a row with at least the evidence of another one, by the score of every channel
that there is and by the reranker's, is given at least its score. Rescaling is monotone whatever
the column (`exists_monotone_centerBy`, `exists_monotone_standardizeBy`): it divides by a positive
spread, or sends every value to one constant. `Follows` says of a list of scores that they grow
with the evidence of their rows, and each way of combining columns keeps it.

Result:
* `fuse_monotone`: more evidence never costs a row its place, but among rows of equal score.
-/

namespace EvidenceRank

open Exact

/-! ## Columns -/

namespace Column

/-- A normaliser that accepts every value or refuses every value rescales monotonely. -/
theorem exists_monotone_rescale {σ : Type} [Preorder σ] {f : σ → Except (Degenerate σ) σ}
    {accepts : Bool} {g : σ → σ} {d : Degenerate σ}
    (hf : ∀ x, f x = if accepts then .ok (g x) else .error d)
    (hg : accepts = true → Monotone g) (fallback : σ) :
    ∃ h, Monotone h ∧ ∀ column, rescale fallback f column = column.map h := by
  cases accepts with
  | true => exact ⟨g, hg rfl, fun column => List.map_congr_left fun x _ => by rw [hf x]; rfl⟩
  | false =>
    exact ⟨fun _ => fallback, monotone_const,
      fun column => List.map_congr_left fun x _ => by rw [hf x]; rfl⟩

variable {K : Type} [Field K] [LinearOrder K] [IsStrictOrderedRing K] {root : K → K}

theorem standardized_monotone {stats : ColumnStats (Exact root)}
    (h : ColumnStats.usable stats.std = true) : Monotone stats.standardized := by
  intro x y hxy
  have hxy' : x.value - stats.mean.value ≤ y.value - stats.mean.value :=
    sub_le_sub_right (le_iff_value.mp hxy) _
  exact le_iff_value.mpr (div_le_div_of_nonneg_right hxy' (usable_iff.mp h).le)

theorem centered_monotone {stats : ColumnStats (Exact root)}
    (h : ColumnStats.usable (stats.max - stats.min) = true) : Monotone stats.centered := by
  have hlt : stats.min < stats.max := lt_iff_value.mpr (sub_pos.mp (usable_iff.mp h))
  exact (centered_strictMono hlt).monotone

theorem exists_monotone_centerBy (stats : ColumnStats (Exact root)) :
    ∃ g, Monotone g ∧ ∀ column, centerBy stats column = column.map g :=
  exists_monotone_rescale stats.minMaxCentered_eq centered_monotone flatCentered

theorem exists_monotone_standardizeBy (stats : ColumnStats (Exact root)) :
    ∃ g, Monotone g ∧ ∀ column, standardizeBy stats column = column.map g :=
  exists_monotone_rescale stats.zeroScore_eq
    (fun h => standardized_monotone (Bool.and_eq_true_iff.mp h).1) flatDeviation

theorem exists_monotone_center (column : List (Exact root)) :
    ∃ g, Monotone g ∧ center column = column.map g := by
  by_cases hne : column = []
  · subst hne
    exact ⟨id, monotone_id, rfl⟩
  · obtain ⟨g, hg, hcenter⟩ := exists_monotone_centerBy (summary column)
    refine ⟨g, hg, ?_⟩
    rw [center, ofScores?_eq_some hne]
    exact hcenter column

end Column

namespace Fusion

variable {K : Type} [Field K] [LinearOrder K] [IsStrictOrderedRing K] {root : K → K}

/-! ## Scores that follow the evidence -/

/-- The scores of rows, where a row is given no less than any other that it is better than. -/
def Follows {σ β : Type} [Preorder β] (better : Row σ → Row σ → Prop) (rows : List (Row σ))
    (scores : List β) : Prop :=
  ∃ score : Row σ → β, scores = rows.map score ∧ ∀ a b, better a b → score b ≤ score a

namespace Follows

variable {σ α β γ : Type} [Preorder α] [Preorder β] [Preorder γ]
variable {better : Row σ → Row σ → Prop} {rows : List (Row σ)}

/-- Two columns that follow the evidence are combined into one that does. -/
theorem zipWith {scores : List α} {scores' : List β} (h : Follows better rows scores)
    (h' : Follows better rows scores') {f : α → β → γ}
    (hf : ∀ {x x' y y'}, x ≤ x' → y ≤ y' → f x y ≤ f x' y') :
    Follows better rows (List.zipWith f scores scores') := by
  obtain ⟨score, rfl, hscore⟩ := h
  obtain ⟨score', rfl, hscore'⟩ := h'
  refine ⟨fun r => f (score r) (score' r), ?_, fun a b hab => hf (hscore a b hab) (hscore' a b hab)⟩
  rw [List.zipWith_map, List.zipWith_self]

theorem map {scores : List α} (h : Follows better rows scores) {g : α → β} (hg : Monotone g) :
    Follows better rows (scores.map g) := by
  obtain ⟨score, rfl, hscore⟩ := h
  exact ⟨fun r => g (score r), List.map_map, fun a b hab => hg (hscore a b hab)⟩

theorem zip {scores : List α} {scores' : List β} (h : Follows better rows scores)
    (h' : Follows better rows scores') : Follows better rows (scores.zip scores') :=
  h.zipWith h' fun hx hy => ⟨hx, hy⟩

end Follows

variable {better : Row (Exact root) → Row (Exact root) → Prop} {rows : List (Row (Exact root))}

/-- A column that follows the evidence still does so once it is centred. -/
theorem Follows.center {column : List (Exact root)} (h : Follows better rows column) :
    Follows better rows (Column.center column) := by
  obtain ⟨g, hg, hcenter⟩ := Column.exists_monotone_center column
  rw [hcenter]
  exact h.map hg

theorem Follows.centerBy {column : List (Exact root)} (h : Follows better rows column)
    (stats : ColumnStats (Exact root)) : Follows better rows (Column.centerBy stats column) := by
  obtain ⟨g, hg, hcenter⟩ := Column.exists_monotone_centerBy stats
  rw [hcenter]
  exact h.map hg

theorem Follows.standardizeBy {column : List (Exact root)} (h : Follows better rows column)
    (stats : ColumnStats (Exact root)) :
    Follows better rows (Column.standardizeBy stats column) := by
  obtain ⟨g, hg, hstandardize⟩ := Column.exists_monotone_standardizeBy stats
  rw [hstandardize]
  exact h.map hg

theorem add_le_add' {a b c d : Exact root} (hab : a ≤ b) (hcd : c ≤ d) : a + c ≤ b + d :=
  le_iff_value.mpr (add_le_add (le_iff_value.mp hab) (le_iff_value.mp hcd))

theorem mul_le_mul_left' {w a b : Exact root} (hw : 0 ≤ w.value) (hab : a ≤ b) : w * a ≤ w * b :=
  le_iff_value.mpr (mul_le_mul_of_nonneg_left (le_iff_value.mp hab) hw)

/-! ## Evidence -/

/-- A row has at least the evidence of another one: by the reranker's score, and by the score of
each channel whose pool is not empty. -/
structure Outdoes (D S : List (Candidate (Exact root))) (a b : Row (Exact root)) : Prop where
  dense : D ≠ [] → b.dense.getD absentScore ≤ a.dense.getD absentScore
  sparse : S ≠ [] → b.sparse.getD absentScore ≤ a.sparse.getD absentScore
  relevance : b.relevance.getD absentScore ≤ a.relevance.getD absentScore

variable {D S : List (Candidate (Exact root))} {config : FusionConfig (Exact root)}

omit [IsStrictOrderedRing K] in
theorem follows_relevance (D S : List (Candidate (Exact root))) (rows : List (Row (Exact root))) :
    Follows (Outdoes D S) rows (relevanceColumn rows) :=
  ⟨_, rfl, fun _ _ h => h.relevance⟩

omit [IsStrictOrderedRing K] in
theorem follows_dense (hD : D ≠ []) (S : List (Candidate (Exact root)))
    (rows : List (Row (Exact root))) : Follows (Outdoes D S) rows (denseColumn rows) :=
  ⟨_, rfl, fun _ _ h => h.dense hD⟩

omit [IsStrictOrderedRing K] in
theorem follows_sparse (D : List (Candidate (Exact root))) (hS : S ≠ [])
    (rows : List (Row (Exact root))) : Follows (Outdoes D S) rows (sparseColumn rows) :=
  ⟨_, rfl, fun _ _ h => h.sparse hS⟩

/-! ## The three ways to combine columns -/

theorem follows_bothScores (hwd : 0 ≤ config.denseWeight.value)
    (hws : 0 ≤ config.sparseWeight.value) (hD : D ≠ []) (hS : S ≠ []) :
    Follows (Outdoes D S) rows (bothScores config rows) := by
  have hdense := (follows_dense hD S rows).center
  have hsparse := (follows_sparse D hS rows).center
  have hrelevance := (follows_relevance D S rows).center
  unfold bothScores
  cases config.method with
  | weighted =>
    exact hdense.zipWith hsparse fun hx hy =>
      add_le_add' (mul_le_mul_left' hwd hx) (mul_le_mul_left' hws hy)
  | hybrid =>
    refine hrelevance.zipWith (hdense.zip hsparse) fun hx hy => ?_
    have hweights : 0 ≤ (config.denseWeight + config.sparseWeight).value := add_nonneg hwd hws
    exact add_le_add' (add_le_add' (mul_le_mul_left' hweights hx) (mul_le_mul_left' hwd hy.1))
      (mul_le_mul_left' hws hy.2)
  | relevance => exact hrelevance

theorem follows_denseScores (stats : ColumnStats (Exact root)) (hD : D ≠ []) :
    Follows (Outdoes D S) rows (denseScores config stats rows) := by
  have hdense := (follows_dense hD S rows).centerBy stats
  have hrelevance := (follows_relevance D S rows).center
  unfold denseScores
  cases config.method with
  | weighted => exact hdense
  | hybrid => exact hrelevance.zipWith hdense add_le_add'
  | relevance => exact hrelevance

theorem follows_sparseScores (stats : ColumnStats (Exact root)) (hS : S ≠ []) :
    Follows (Outdoes D S) rows (sparseScores config stats rows) := by
  have hsparse := follows_sparse D hS rows
  have hrelevance := (follows_relevance D S rows).center
  unfold sparseScores
  cases config.method with
  | weighted => exact hsparse.standardizeBy stats
  | hybrid => exact hrelevance.zipWith (hsparse.centerBy stats) add_le_add'
  | relevance => exact hrelevance

/-- **Whatever channels there are, the scores follow the evidence.** -/
theorem follows_scoresOf (hwd : 0 ≤ config.denseWeight.value) (hws : 0 ≤ config.sparseWeight.value)
    {d s : Option (Channel (Exact root))} (hd : Channel.OfPool D d) (hs : Channel.OfPool S s) :
    Follows (Outdoes D S) (gathered d s) (scoresOf config d s (gathered d s)) := by
  cases d with
  | none =>
    cases s with
    | none => exact ⟨fun _ => absentScore, rfl, fun _ _ _ => le_rfl⟩
    | some s => exact follows_sparseScores s.stats fun h => nomatch hs.eq_none_iff.mpr h
  | some d =>
    have hD : D ≠ [] := fun h => nomatch hd.eq_none_iff.mpr h
    cases s with
    | none => exact follows_denseScores d.stats hD
    | some s => exact follows_bothScores hwd hws hD fun h => nomatch hs.eq_none_iff.mpr h

/-! ## Joined rows and their table -/

/-- **A row with at least the evidence of another has at least its score.** -/
theorem merge_monotone (hwd : 0 ≤ config.denseWeight.value) (hws : 0 ≤ config.sparseWeight.value)
    {d s : Option (Channel (Exact root))} (hd : Channel.OfPool D d) (hs : Channel.OfPool S s)
    {a b : Row (Exact root)} (ha : a ∈ merge config d s) (hb : b ∈ merge config d s)
    (hab : Outdoes D S a b) : a.AtLeast b := by
  obtain ⟨score, hscores, hscore⟩ := follows_scoresOf hwd hws hd hs
  rw [merge_eq_map hscores] at ha hb
  obtain ⟨g, -, rfl⟩ := List.mem_map.mp ha
  obtain ⟨g', -, rfl⟩ := List.mem_map.mp hb
  -- what a row is scored by is not what the score is written over
  have hg : Outdoes D S g g' := ⟨hab.dense, hab.sparse, hab.relevance⟩
  exact ⟨_, _, rfl, rfl, le_eq_true_iff.mpr (hscore g g' hg)⟩

omit [IsStrictOrderedRing K] in
theorem numbered (rows : List (Row (Exact root))) : Row.Numbered rows := fun _ _ _ _ => rfl

omit [IsStrictOrderedRing K] in
theorem tied_of_atLeast {a b : Row (Exact root)} (hab : a.AtLeast b) (hba : b.AtLeast a) :
    a.Tied b := by
  obtain ⟨x, y, hx, hy, hle⟩ := hab
  obtain ⟨y', x', hy', hx', hle'⟩ := hba
  obtain rfl := Option.some.inj (hx.symm.trans hx')
  obtain rfl := Option.some.inj (hy.symm.trans hy')
  have heq : x = y := le_antisymm (le_eq_true_iff.mp hle') (le_eq_true_iff.mp hle)
  exact ⟨x, y, hx, hy, same_eq_true_iff.mpr heq⟩

/-- A row stands ahead of one with at least its evidence only if both score the same. -/
theorem ranked_monotone (hwd : 0 ≤ config.denseWeight.value) (hws : 0 ≤ config.sparseWeight.value)
    {d s : Option (Channel (Exact root))} (hd : Channel.OfPool D d) (hs : Channel.OfPool S s)
    {rows : List (Row (Exact root))} (hrows : Row.ranked (merge config d s) = some rows) :
    rows.Pairwise fun b a => Outdoes D S a b → b.Tied a := by
  have hmem : ∀ {r}, r ∈ rows ↔ r ∈ merge config d s := (Row.ranked_perm hrows).mem_iff
  have hlead := Row.ranked_pairwise (numbered (merge config d s))
    (List.pairwise_of_forall fun _ _ => trivial : List.Pairwise (fun _ _ => True) _) hrows
  refine hlead.imp_of_mem fun {b a} hb ha hba hab => ?_
  have hatLeast : b.AtLeast a := Row.atLeast_of_leads (numbered _) (hmem.mp hb) (hmem.mp ha)
    (fun r hr => merged_of_mem_merge hr) hba
  exact tied_of_atLeast hatLeast (merge_monotone hwd hws hd hs (hmem.mp ha) (hmem.mp hb) hab)

variable {m : Type → Type} [Monad m] [LawfulMonad m]

/-- **Fusion is monotone in the evidence**: a row with at least the evidence of another has at least
its score, and stands behind it only if both score the same. -/
theorem fuse_monotone (config : FusionConfig (Exact root)) (hwd : 0 ≤ config.denseWeight.value)
    (hws : 0 ≤ config.sparseWeight.value) (reranker : Reranker m (Exact root)) (turns : Turns)
    (query : String) (D S : List (Candidate (Exact root))) :
    fuse config reranker turns query D S =
        tableFrom (joinedRows config reranker turns query D S) ∧
      Ensures (joinedRows config reranker turns query D S).run fun result =>
        ∀ joined, result = .ok joined → ∃ ranked table,
          Row.ranked joined = some ranked ∧ tableOf joined = some table ∧
          (∀ a ∈ joined, ∀ b ∈ joined, Outdoes D S a b → a.AtLeast b) ∧
          ranked.Pairwise (fun b a => Outdoes D S a b → b.Tied a) ∧
          table.rows.Pairwise fun b a => Outdoes D S a b → b.Tied a := by
  refine ⟨fuse_eq_tableFrom config reranker turns query D S, ?_⟩
  refine (joinedRows_ensures config reranker turns query D S).imp fun result hr joined hj => ?_
  obtain ⟨d, s, hd, hs, rfl⟩ := hr joined hj
  obtain ⟨table, htable⟩ := exists_tableOf (numbered (merge config d s))
  obtain ⟨ranked, hrows, rfl⟩ := tableOf_eq_some htable
  have hranked := ranked_monotone hwd hws hd hs hrows
  refine ⟨ranked, _, hrows, htable,
    fun a ha b hb hab => merge_monotone hwd hws hd hs ha hb hab, hranked, ?_⟩
  -- sharing identities changes neither the evidence nor the score of a row
  refine Row.settle_pairwise hranked fun h _ _ hab => ?_
  exact h ⟨hab.dense, hab.sparse, hab.relevance⟩

/-- Two slices, the first of which scores more. -/
def firstPreferred : List (Candidate (Exact (id : ℚ → ℚ))) :=
  [sample "u" "u" "u" ⟨2⟩, sample "v" "v" "v" ⟨1⟩]

/-- Next to this dense pool the two slices are joined in their order, the first with at least the
evidence and at least the score of the second. -/
def FirstLeads (D : List (Candidate (Exact (id : ℚ → ℚ)))) : Prop :=
  ∃ a b, Outdoes D firstPreferred a b ∧ a.AtLeast b ∧
    (joinedRows ⟨1.3, 1.0, .weighted⟩ (Reranker.flat ⟨1⟩) .atOnce "q" D firstPreferred).run =
      (pure (.ok [a, b]) : Id _)

/-- The preferred slice leads where both channels are there, with their weights, and where the
sparse one stands alone. -/
theorem fuse_monotone_channels : FirstLeads firstPreferred ∧ FirstLeads [] := by
  have hdense : (0 : ℚ) ≤ (1.3 : ℚ) := by norm_num
  have hsparse : (0 : ℚ) ≤ (1.0 : ℚ) := by norm_num
  have hscores : (⟨1⟩ : Exact (id : ℚ → ℚ)) ≤ ⟨2⟩ := by
    rw [le_iff_value]
    norm_num
  have hrelevance : (⟨1⟩ : Exact (id : ℚ → ℚ)) ≤ ⟨1⟩ := le_rfl
  have hleads : ∀ {D a b}, (joinedRows ⟨1.3, 1.0, .weighted⟩ (Reranker.flat ⟨1⟩) .atOnce "q" D
      firstPreferred).run = (pure (.ok [a, b]) : Id _) → Outdoes D firstPreferred a b →
      FirstLeads D := by
    intro D a b hrun houtdoes
    obtain ⟨-, -, -, -, hatLeast, -⟩ := Ensures.id_iff.mp (fuse_monotone (m := Id)
      ⟨1.3, 1.0, .weighted⟩ hdense hsparse (Reranker.flat ⟨1⟩) .atOnce "q" D firstPreferred).2
      [a, b] hrun
    have hb : b ∈ [a, b] := List.mem_cons_of_mem _ List.mem_cons_self
    exact ⟨a, b, houtdoes, hatLeast a List.mem_cons_self b hb houtdoes, hrun⟩
  constructor
  · exact hleads rfl ⟨fun _ => hscores, fun _ => hscores, hrelevance⟩
  · exact hleads rfl ⟨fun hne => absurd rfl hne, fun _ => hscores, hrelevance⟩

end Fusion
end EvidenceRank
