import EvidenceRank.Faq.Outlier

/-!
# Outliers are positions

Outliers are named by where they stand in the list that was tested. Below the number of scores
from which quartiles are taken there is at most one, found by a running maximum; from that number
on they are the positions that pass the test, and both quartiles can be read off. These are found
unless the scores cannot be ordered.

* `mem_numbered`: the elements of a list with their positions.
* `outliers_pairwise`: the positions come in ascending order, so none comes twice.
* `get?_of_mem_outliers`: each is the position of a score.
* `outliers_eq_none`: which lists may have no outliers because they have no order.
* `quartile?_isSome`: the places of a quartile lie in the list.
-/

namespace EvidenceRank.Faq

/-- The elements of a list with their positions. -/
theorem mem_numbered {α : Type} {xs : List α} {i : Nat} {x : α} :
    (i, x) ∈ (List.range xs.length).zip xs ↔ xs[i]? = some x := by
  rw [List.mem_iff_getElem?]
  constructor
  · rintro ⟨j, hj⟩
    obtain ⟨hnumber, hx⟩ := List.getElem?_zip_eq_some.mp hj
    obtain ⟨hj, hji⟩ := List.getElem?_eq_some_iff.mp hnumber
    have hij : j = i := by rwa [List.getElem_range] at hji
    rwa [← hij]
  · intro hx
    obtain ⟨hi, -⟩ := List.getElem?_eq_some_iff.mp hx
    exact ⟨i, List.getElem?_zip_eq_some.mpr ⟨List.getElem?_range hi, hx⟩⟩

/-- The positions ascend. -/
theorem numbered_pairwise {α : Type} (xs : List α) :
    ((List.range xs.length).zip xs).Pairwise fun a b => a.1 < b.1 := by
  have h : (((List.range xs.length).zip xs).map (·.1)).Pairwise (· < ·) := by
    rw [List.map_fst_zip (Nat.le_of_eq List.length_range)]
    exact List.pairwise_lt_range
  exact List.pairwise_map.mp h

variable {σ : Type} [Score σ]

/-! ## The best of few -/

/-- A running choice that keeps its best or takes the next ends with one that was seen. -/
theorem foldl_choice {α : Type} {f : Option α → α → Option α}
    (hf : ∀ best x, f best x = best ∨ f best x = some x) {seen : List α} {best : Option α} {x : α}
    (h : seen.foldl f best = some x) : best = some x ∨ x ∈ seen := by
  induction seen generalizing best with
  | nil => exact Or.inl h
  | cons y seen ih =>
    rcases ih h with hbest | hmem
    · rcases hf best y with hkept | htaken
      · exact Or.inl (hkept.symm.trans hbest)
      · rw [htaken] at hbest
        exact Or.inr (Option.some.inj hbest ▸ List.mem_cons_self)
    · exact Or.inr (List.mem_cons_of_mem y hmem)

/-- The running maximum is one of the scores that were seen. -/
theorem firstBest_get {scores : List σ} {i : Nat} {s : σ} (h : firstBest scores = some (i, s)) :
    scores[i]? = some s := by
  unfold firstBest at h
  refine (foldl_choice ?_ h).elim (fun hnone => absurd hnone (by simp)) mem_numbered.mp
  intro best p
  cases best with
  | none => exact Or.inr rfl
  | some b =>
    by_cases hlt : Score.lt b.2 p.2 = true
    · exact Or.inr (if_pos hlt)
    · exact Or.inl (if_neg hlt)

/-! ## Positions -/

omit [Score σ] in
theorem positions_sublist (p : σ → Bool) (scores : List σ) :
    (positions p scores).Sublist (List.range scores.length) := by
  have h := (List.filter_sublist (p := fun s => p s.2)
    (l := (List.range scores.length).zip scores)).map (·.1)
  rwa [List.map_fst_zip (Nat.le_of_eq List.length_range)] at h

omit [Score σ] in
theorem mem_positions {p : σ → Bool} {scores : List σ} {i : Nat} :
    i ∈ positions p scores ↔ ∃ s, scores[i]? = some s ∧ p s = true := by
  rw [positions, List.mem_map]
  constructor
  · rintro ⟨⟨j, s⟩, hs, rfl⟩
    obtain ⟨hnumbered, hp⟩ := List.mem_filter.mp hs
    exact ⟨s, mem_numbered.mp hnumbered, hp⟩
  · rintro ⟨s, hs, hp⟩
    exact ⟨(i, s), List.mem_filter.mpr ⟨mem_numbered.mpr hs, hp⟩, rfl⟩

omit [Score σ] in
theorem length_positions (p : σ → Bool) (xs : List σ) : (positions p xs).length = xs.countP p := by
  calc (positions p xs).length
      = ((List.range xs.length).zip xs).countP fun s => p s.2 := by
        rw [positions, List.length_map, List.countP_eq_length_filter]
    _ = (((List.range xs.length).zip xs).map (·.2)).countP p := List.countP_map.symm
    _ = xs.countP p := by rw [List.map_snd_zip (Nat.le_of_eq List.length_range.symm)]

/-- Both quartiles of a list with scores can be read off. -/
theorem quartile?_isSome {ascending : List σ} (h : ascending ≠ []) {k : Nat} (hk : k ≤ 4) :
    (quartile? ascending k).isSome = true := by
  have hpos : 0 < ascending.length := List.length_pos_iff.mpr h
  have hquarters : k * (ascending.length - 1) ≤ 4 * (ascending.length - 1) :=
    Nat.mul_le_mul_right _ hk
  have hlow : k * (ascending.length - 1) / 4 < ascending.length := by omega
  have hhigh : (k * (ascending.length - 1) + 3) / 4 < ascending.length := by omega
  simp only [quartile?, List.getElem?_eq_getElem hlow, List.getElem?_eq_getElem hhigh]
  rfl

/-! ## Outliers -/

theorem bestOfFew_sublist (scores : List σ) :
    (bestOfFew scores).Sublist (List.range scores.length) := by
  unfold bestOfFew
  cases hbest : firstBest scores with
  | none => exact List.nil_sublist _
  | some best =>
    obtain ⟨i, s⟩ := best
    obtain ⟨hi, -⟩ := List.getElem?_eq_some_iff.mp (firstBest_get hbest)
    by_cases hs : Score.le fewThreshold s = true
    · simp only [hs, if_true]
      exact List.singleton_sublist.mpr (List.mem_range.mpr hi)
    · simp only [hs]
      exact List.nil_sublist _

theorem beyondQuartiles_sublist (multiplier : σ) (scores ascending : List σ) :
    (beyondQuartiles multiplier scores ascending).Sublist (List.range scores.length) := by
  unfold beyondQuartiles
  split
  · exact positions_sublist _ _
  · exact List.nil_sublist _

/-- Few scores always have outliers. -/
theorem outliers_few (multiplier : σ) {scores : List σ}
    (h : scores.length < enoughForQuartiles) :
    outliers multiplier scores = some (bestOfFew scores) := if_pos h

/-- Enough scores have outliers if they have an order. -/
theorem outliers_enough (multiplier : σ) {scores : List σ}
    (h : enoughForQuartiles ≤ scores.length) :
    outliers multiplier scores = (Lists.rankScores (!Score.isNaN ·) Score.lt 8 scores).map
      (beyondQuartiles multiplier scores) := by
  rw [outliers, if_neg (Nat.not_lt.mpr h)]
  exact bind_pure_comp _ _

section
variable {multiplier : σ} {scores : List σ} {places : List Nat}

/-- The outliers are positions, in their order. -/
theorem outliers_sublist (h : outliers multiplier scores = some places) :
    places.Sublist (List.range scores.length) := by
  rcases Nat.lt_or_ge scores.length enoughForQuartiles with hfew | henough
  · rw [outliers_few multiplier hfew] at h
    exact Option.some.inj h ▸ bestOfFew_sublist scores
  · rw [outliers_enough multiplier henough] at h
    obtain ⟨ascending, -, rfl⟩ := Option.map_eq_some_iff.mp h
    exact beyondQuartiles_sublist multiplier scores ascending

/-- **The outliers come in ascending order**, so none comes twice. -/
theorem outliers_pairwise (h : outliers multiplier scores = some places) :
    places.Pairwise (· < ·) :=
  List.pairwise_lt_range.sublist (outliers_sublist h)

/-- **An outlier is the position of a score.** -/
theorem get?_of_mem_outliers (h : outliers multiplier scores = some places) {i : Nat}
    (hi : i ∈ places) : ∃ s, scores[i]? = some s := by
  have hrange := List.mem_range.mp ((outliers_sublist h).mem hi)
  exact ⟨scores[i], List.getElem?_eq_getElem hrange⟩

/-- **Only a long list with a score that is no number has no outliers at all.** -/
theorem outliers_eq_none (h : outliers multiplier scores = none) :
    Lists.insertionLength < scores.length ∧ ∃ s ∈ scores, Score.isNaN s = true := by
  rcases Nat.lt_or_ge scores.length enoughForQuartiles with hfew | henough
  · rw [outliers_few multiplier hfew] at h
    cases h
  · rw [outliers_enough multiplier henough, Option.map_eq_none_iff] at h
    refine (Lists.rankScores_eq_none h).imp_right fun ⟨s, hs, hnan⟩ => ⟨s, hs, ?_⟩
    simpa using hnan

theorem exists_outliers (multiplier : σ) (hnum : ∀ s ∈ scores, Score.isNaN s = false) :
    ∃ places, outliers multiplier scores = some places := by
  refine Option.ne_none_iff_exists'.mp fun hnone => ?_
  obtain ⟨-, s, hs, hnan⟩ := outliers_eq_none hnone
  exact Bool.false_ne_true ((hnum s hs).symm.trans hnan)

/-- The quartiles that outliers are tested against are found: ordering loses no score. -/
theorem quartile?_ordered (h : enoughForQuartiles ≤ scores.length) {ascending : List σ}
    (hordered : Lists.rankScores (!Score.isNaN ·) Score.lt 8 scores = some ascending) {k : Nat}
    (hk : k ≤ 4) : (quartile? ascending k).isSome = true := by
  have hlength := (Lists.rankScores_perm (!Score.isNaN ·) Score.lt 8 hordered).length_eq
  refine quartile?_isSome (fun hnil => ?_) hk
  rw [hnil, List.length_nil] at hlength
  exact absurd h (by rw [← hlength]; decide)

end
end EvidenceRank.Faq
