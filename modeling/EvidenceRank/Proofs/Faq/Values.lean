import EvidenceRank.Proofs.Faq.Outlier
import EvidenceRank.Proofs.Score.Alike
import Mathlib

/-!
# Outliers are found by their values

Where a score stands in the list has no part in whether it stands out, as long as every score is a
number. From five scores on, the list is only read through its quartiles, which any order of the
scores has alike (`quartile?_alike`), and a score passes or fails against them by itself
(`standsOut`). Of fewer scores the running maximum is the first one that nothing exceeds
(`firstBest_spec`).

Results:
* `standsOut_of_le`: what is not below a score that stands out stands out.
* `outliers_permuted`: a permutation of the scores permutes the outliers.
* `outliers_by_value`: what the outliers of numbers are, for few scores and for enough.
-/

namespace EvidenceRank.Faq

open Score (LawfulOrder Congruent Alike)

variable {σ : Type} [Score σ]

/-! ## The test of enough scores -/

/-- A score stands out of scores with these quartiles. -/
def standsOut (multiplier q1 q3 s : σ) : Bool :=
  if Score.lt 0.0 (q3 - q1) then Score.le (q3 + multiplier * (q3 - q1)) s
  else Score.lt (q3 + multiplier * (q3 - q1)) s

/-- Numbers in ascending order. -/
def ascending (scores : List σ) : List σ := Lists.rankBy Score.lt scores

section
variable {scores : List σ} (hnum : ∀ s ∈ scores, Score.isNaN s = false)
include hnum

theorem rankScores_ascending :
    Lists.rankScores (!Score.isNaN ·) Score.lt 8 scores = some (ascending scores) :=
  Lists.rankScores_of_numbers (fun s hs => by rw [hnum s hs]; rfl) _ _

/-- Enough scores have quartiles, and the outliers are those that stand out against them. -/
theorem exists_quartiles (multiplier : σ) (h : enoughForQuartiles ≤ scores.length) :
    ∃ q1 q3, quartile? (ascending scores) 1 = some q1 ∧ quartile? (ascending scores) 3 = some q3 ∧
      outliers multiplier scores = some (positions (standsOut multiplier q1 q3) scores) := by
  have hordered := rankScores_ascending hnum
  obtain ⟨q1, h1⟩ := Option.isSome_iff_exists.mp
    (quartile?_ordered h hordered (show 1 ≤ 4 by decide))
  obtain ⟨q3, h3⟩ := Option.isSome_iff_exists.mp
    (quartile?_ordered h hordered (show 3 ≤ 4 by decide))
  refine ⟨q1, q3, h1, h3, ?_⟩
  rw [outliers_enough multiplier h, hordered, Option.map_some, beyondQuartiles]
  simp only [h1, h3]
  rfl

end

/-- A quartile is read off two places of the ascending scores. -/
theorem quartile?_eq_some {column : List σ} {k : Nat} {q : σ} (h : quartile? column k = some q) :
    ∃ low high, column[k * (column.length - 1) / 4]? = some low ∧
      column[(k * (column.length - 1) + 3) / 4]? = some high ∧
      q = low + (high - low) * (Score.ofCount (k * (column.length - 1) % 4) / 4.0) := by
  simp only [quartile?, Option.bind_eq_bind, Option.bind_eq_some_iff] at h
  obtain ⟨low, hlow, high, hhigh, hq⟩ := h
  exact ⟨low, high, hlow, hhigh, (Option.some.inj hq).symm⟩

section Order

variable [LawfulOrder σ]

/-- **What is not below a score that stands out stands out.** -/
theorem standsOut_of_le {multiplier q1 q3 s t : σ} (hs : standsOut multiplier q1 q3 s = true)
    (hst : Score.le s t = true) : standsOut multiplier q1 q3 t = true := by
  unfold standsOut at hs ⊢
  by_cases hrange : Score.lt 0.0 (q3 - q1) = true
  · rw [if_pos hrange] at hs ⊢
    exact Score.le_trans hs hst
  · rw [if_neg hrange] at hs ⊢
    exact Score.lt_of_lt_of_le hs hst

/-- The same scores in another order are alike, place by place, once they are in ascending order. -/
theorem ascending_alike {scores scores' : List σ} (hnum : ∀ s ∈ scores, Score.isNaN s = false)
    (hp : scores.Perm scores') {k : Nat} {s s' : σ} (hs : (ascending scores)[k]? = some s)
    (hs' : (ascending scores')[k]? = some s') : Alike s s' := by
  have hnum' : ∀ s ∈ scores', Score.isNaN s = false := fun s hs => hnum s (hp.mem_iff.mpr hs)
  have hmem : s ∈ scores := (Lists.rankBy_perm _ _).mem_iff.mp (List.mem_of_getElem? hs)
  have hmem' : s' ∈ scores' := (Lists.rankBy_perm _ _).mem_iff.mp (List.mem_of_getElem? hs')
  obtain ⟨hlt, hlt'⟩ := Lists.rankBy_alike (Score.lt_weaklyOrders hnum) hp hs hs'
  exact Score.alike_of_not_lt (hnum s hmem) (hnum' s' hmem') hlt hlt'

variable [Congruent σ]

/-- The same scores in another order have quartiles that are alike. -/
theorem quartile?_alike {scores scores' : List σ} (hnum : ∀ s ∈ scores, Score.isNaN s = false)
    (hp : scores.Perm scores') {k : Nat} {q q' : σ}
    (hq : quartile? (ascending scores) k = some q)
    (hq' : quartile? (ascending scores') k = some q') : Alike q q' := by
  have hlength : (ascending scores').length = (ascending scores).length :=
    ((Lists.rankBy_perm _ _).trans (hp.symm.trans (Lists.rankBy_perm _ _).symm)).length_eq
  obtain ⟨low, high, hlow, hhigh, rfl⟩ := quartile?_eq_some hq
  obtain ⟨low', high', hlow', hhigh', rfl⟩ := quartile?_eq_some hq'
  rw [hlength] at hlow' hhigh' ⊢
  have hl : Alike low low' := ascending_alike hnum hp hlow hlow'
  have hh : Alike high high' := ascending_alike hnum hp hhigh hhigh'
  exact Congruent.add hl (Congruent.mul (Congruent.sub hh hl) (.refl _))

/-- Quartiles that are alike let the same scores stand out. -/
theorem standsOut_congr {q1 q1' q3 q3' : σ} (h1 : Alike q1 q1') (h3 : Alike q3 q3')
    (multiplier s : σ) : standsOut multiplier q1 q3 s = standsOut multiplier q1' q3' s := by
  have hrange : Alike (q3 - q1) (q3' - q1') := Congruent.sub h3 h1
  have hbound : Alike (q3 + multiplier * (q3 - q1)) (q3' + multiplier * (q3' - q1')) :=
    Congruent.add h3 (Congruent.mul (.refl _) hrange)
  unfold standsOut
  rw [Score.lt_congr (.refl 0.0) hrange, Score.le_congr hbound (.refl s),
    Score.lt_congr hbound (.refl s)]

/-- **A permutation of the scores permutes the outliers**: what stands out at a place is what stood
out at the place that it came from. -/
theorem outliers_permuted {multiplier : σ} {scores : List σ} {places : List Nat}
    (hnum : ∀ s ∈ scores, Score.isNaN s = false) (henough : enoughForQuartiles ≤ scores.length)
    (h : outliers multiplier scores = some places) (π : Equiv.Perm (Fin scores.length)) :
    ∃ places', outliers multiplier (List.ofFn fun k => scores[π k]) = some places' ∧
      ∀ i : Fin scores.length, (i : Nat) ∈ places' ↔ (π i : Nat) ∈ places := by
  have hp : (List.ofFn fun k => scores[π k]).Perm scores := by
    have h := Equiv.Perm.ofFn_comp_perm π scores.get
    rwa [List.ofFn_get] at h
  obtain ⟨q1, q3, h1, h3, hout⟩ := exists_quartiles hnum multiplier henough
  obtain rfl := Option.some.inj (hout.symm.trans h)
  obtain ⟨q1', q3', h1', h3', hout'⟩ := exists_quartiles
    (fun s hs => hnum s (hp.mem_iff.mp hs)) multiplier (henough.trans_eq hp.length_eq.symm)
  refine ⟨_, hout', fun i => ?_⟩
  have hsame := standsOut_congr (quartile?_alike hnum hp.symm h1 h1')
    (quartile?_alike hnum hp.symm h3 h3') multiplier scores[π i]
  have hplace : (List.ofFn fun k => scores[π k])[(i : Nat)]? = some scores[π i] := by simp
  have hsource : scores[(π i : Nat)]? = some scores[π i] := List.getElem?_eq_getElem (π i).isLt
  rw [mem_positions, mem_positions, hplace, hsource]
  simp only [Option.some.injEq, exists_eq_left', hsame]

end Order

/-! ## The best of few scores -/

/-- The best score so far stands in front of what has been seen behind it, which does not exceed
it, and behind what it exceeds. -/
def HoldsFirst (seen : List (Nat × σ)) : Option (Nat × σ) → Prop
  | none => seen = []
  | some b => ∃ front back, seen = front ++ b :: back ∧
      (∀ p ∈ front, Score.lt p.2 b.2 = true) ∧ ∀ p ∈ back, Score.lt b.2 p.2 = false

/-- The better of the best score so far and the next one. -/
def better (best : Option (Nat × σ)) (p : Nat × σ) : Option (Nat × σ) :=
  match best with
  | none => some p
  | some b => if Score.lt b.2 p.2 then some p else some b

variable [LawfulOrder σ]

/-- **One more score** takes the place of the best one or is put behind it. -/
theorem HoldsFirst.step {seen : List (Nat × σ)} {best : Option (Nat × σ)} {p : Nat × σ}
    (hnum : ∀ q ∈ seen, Score.isNaN q.2 = false) (h : HoldsFirst seen best) :
    HoldsFirst (seen ++ [p]) (better best p) := by
  cases best with
  | none =>
    obtain rfl : seen = [] := h
    exact ⟨[], [], rfl, fun _ hq => absurd hq List.not_mem_nil,
      fun _ hq => absurd hq List.not_mem_nil⟩
  | some b =>
    obtain ⟨front, back, rfl, hfront, hback⟩ := h
    by_cases hlt : Score.lt b.2 p.2 = true
    · have hlower : ∀ q ∈ front ++ b :: back, Score.lt q.2 p.2 = true := by
        intro q hq
        -- a score that is not above the best one is below what the best one is below
        have hnot : Score.lt b.2 q.2 = false := by
          rcases List.mem_append.mp hq with hq | hq
          · exact LawfulOrder.lt_asymm (hfront q hq)
          · rcases List.mem_cons.mp hq with rfl | hq
            · exact Score.lt_self _
            · exact hback q hq
        exact Score.lt_of_not_lt_of_lt (hnum q hq) hnot hlt
      rw [better, if_pos hlt]
      exact ⟨front ++ b :: back, [], rfl, hlower, fun _ hq => absurd hq List.not_mem_nil⟩
    · rw [better, if_neg hlt]
      refine ⟨front, back ++ [p], by simp, hfront, fun q hq => ?_⟩
      rcases List.mem_append.mp hq with hq | hq
      · exact hback q hq
      · obtain rfl := List.mem_singleton.mp hq
        exact Bool.eq_false_of_not_eq_true hlt

/-- **The rest of the scores**, by induction on them. -/
theorem HoldsFirst.foldl : ∀ (rest : List (Nat × σ)) {seen : List (Nat × σ)}
    {best : Option (Nat × σ)}, (∀ q ∈ seen ++ rest, Score.isNaN q.2 = false) →
    HoldsFirst seen best → HoldsFirst (seen ++ rest) (rest.foldl better best)
  | [], seen, best, _, h => by rwa [List.append_nil]
  | p :: rest, seen, best, hnum, h => by
    rw [List.append_cons] at hnum ⊢
    exact HoldsFirst.foldl rest hnum
      (h.step fun q hq => hnum q (List.mem_append_left _ (List.mem_append_left _ hq)))

theorem firstBest_holdsFirst {scores : List σ} (hnum : ∀ s ∈ scores, Score.isNaN s = false) :
    HoldsFirst ((List.range scores.length).zip scores) (firstBest scores) := by
  have hnumbered : ∀ q ∈ [] ++ (List.range scores.length).zip scores, Score.isNaN q.2 = false :=
    fun q hq => hnum q.2 (List.of_mem_zip hq).2
  exact HoldsFirst.foldl _ hnumbered rfl

/-- **The running maximum is the first score that nothing exceeds.** -/
theorem firstBest_spec {scores : List σ} (hnum : ∀ s ∈ scores, Score.isNaN s = false) {i : Nat}
    {s : σ} (h : firstBest scores = some (i, s)) :
    (∀ t ∈ scores, Score.lt s t = false) ∧
      ∀ j t, j < i → scores[j]? = some t → Score.lt t s = true := by
  have hheld := firstBest_holdsFirst hnum
  rw [h] at hheld
  obtain ⟨front, back, hsplit, hfront, hback⟩ := hheld
  have hascend := numbered_pairwise scores
  rw [hsplit, List.pairwise_append, List.pairwise_cons] at hascend
  obtain ⟨-, ⟨hbehind, -⟩, -⟩ := hascend
  have hplace : ∀ {j t}, scores[j]? = some t →
      (j, t) ∈ front ∨ (j, t) = (i, s) ∨ (j, t) ∈ back := by
    intro j t ht
    have hmem := mem_numbered.mpr ht
    rw [hsplit] at hmem
    exact (List.mem_append.mp hmem).imp_right List.mem_cons.mp
  constructor
  · intro t ht
    obtain ⟨j, hj⟩ := List.mem_iff_getElem?.mp ht
    rcases hplace hj with hmem | heq | hmem
    · exact LawfulOrder.lt_asymm (hfront _ hmem)
    · obtain ⟨-, rfl⟩ := Prod.mk.inj heq
      exact Score.lt_self t
    · exact hback _ hmem
  · intro j t hlt ht
    rcases hplace ht with hmem | heq | hmem
    · exact hfront _ hmem
    · exact absurd (Prod.mk.inj heq).1 (Nat.ne_of_lt hlt)
    · exact absurd (hbehind _ hmem) (Nat.lt_asymm hlt)

/-- Where there are scores there is a running maximum. -/
theorem exists_firstBest {scores : List σ} (hnum : ∀ s ∈ scores, Score.isNaN s = false)
    (h : scores ≠ []) : ∃ i s, firstBest scores = some (i, s) := by
  have hheld := firstBest_holdsFirst hnum
  cases hbest : firstBest scores with
  | some b => exact ⟨b.1, b.2, rfl⟩
  | none =>
    rw [hbest] at hheld
    have hlength := congrArg List.length (show _ = [] from hheld)
    rw [List.length_zip, List.length_range, Nat.min_self] at hlength
    exact absurd (List.length_eq_zero_iff.mp hlength) h

omit [LawfulOrder σ] in
/-- Of few scores the running maximum stands out, if it is high enough. -/
theorem mem_bestOfFew {scores : List σ} {i : Nat} : i ∈ bestOfFew scores ↔
    ∃ s, firstBest scores = some (i, s) ∧ Score.le fewThreshold s = true := by
  unfold bestOfFew
  cases hbest : firstBest scores with
  | none => simp
  | some b =>
    obtain ⟨j, s⟩ := b
    constructor
    · intro hi
      by_cases hs : Score.le fewThreshold s = true
      · simp only [hs, if_true, List.mem_singleton] at hi
        exact ⟨s, by rw [hi], hs⟩
      · simp [hs] at hi
    · rintro ⟨s', h, hs⟩
      obtain ⟨rfl, rfl⟩ := Prod.mk.inj (Option.some.inj h)
      simp [hs]

omit [LawfulOrder σ] in
theorem length_bestOfFew (scores : List σ) : (bestOfFew scores).length ≤ 1 := by
  unfold bestOfFew
  cases firstBest scores with
  | none => exact Nat.zero_le 1
  | some b =>
    by_cases hs : Score.le fewThreshold b.2 = true
    · simp [hs]
    · simp [hs]

/-! ## Outliers of numbers -/

/-- What the outliers of a list of numbers are. -/
structure ByValue (multiplier : σ) (scores : List σ) (places : List Nat) : Prop where
  ascending : places.Pairwise (· < ·)
  inRange : ∀ i ∈ places, i < scores.length
  /-- Of enough scores, whatever is not below one that stands out stands out. -/
  upward : 5 ≤ scores.length → ∀ {i j : Nat} {s t : σ}, i ∈ places →
    scores[i]? = some s → scores[j]? = some t → Score.le s t = true → j ∈ places
  /-- Of enough scores in another order, the same ones stand out. -/
  permuted : 5 ≤ scores.length → ∀ π : Equiv.Perm (Fin scores.length),
    ∃ places', outliers multiplier (List.ofFn fun k => scores[π k]) = some places' ∧
      ∀ i : Fin scores.length, (i : Nat) ∈ places' ↔ (π i : Nat) ∈ places
  /-- Of few scores at most one stands out. -/
  single : scores.length < 5 → places.length ≤ 1
  /-- Of few scores only the first maximum stands out. -/
  maximal : scores.length < 5 → ∀ {i : Nat} {s : σ}, i ∈ places →
    scores[i]? = some s → (∀ t ∈ scores, Score.lt s t = false) ∧
      ∀ j t, j < i → scores[j]? = some t → Score.lt t s = true
  /-- Of few scores one stands out if and only if one is high enough. -/
  reached : scores.length < 5 → (places ≠ [] ↔ ∃ s ∈ scores, Score.le 3.0 s = true)

theorem byValue_of_outliers [Congruent σ] {multiplier : σ} {scores : List σ} {places : List Nat}
    (hnum : ∀ s ∈ scores, Score.isNaN s = false) (h : outliers multiplier scores = some places) :
    ByValue multiplier scores places := by
  have few : scores.length < 5 → places = bestOfFew scores := fun hfew =>
    Option.some.inj (h.symm.trans (outliers_few multiplier hfew))
  constructor
  case ascending => exact outliers_pairwise h
  case inRange => exact fun i hi => List.mem_range.mp ((outliers_sublist h).mem hi)
  case upward =>
    intro henough i j s t hi hs ht hst
    obtain ⟨q1, q3, -, -, hout⟩ := exists_quartiles hnum multiplier henough
    obtain rfl := Option.some.inj (hout.symm.trans h)
    rw [mem_positions] at hi ⊢
    obtain ⟨s', hs', hstands⟩ := hi
    obtain rfl : s = s' := Option.some.inj (hs.symm.trans hs')
    exact ⟨t, ht, standsOut_of_le hstands hst⟩
  case permuted => exact fun henough π => outliers_permuted hnum henough h π
  case single => exact fun hfew => few hfew ▸ length_bestOfFew scores
  case maximal =>
    intro hfew i s hi hs
    obtain ⟨s', hbest, -⟩ := mem_bestOfFew.mp (few hfew ▸ hi)
    obtain rfl : s = s' := Option.some.inj (hs.symm.trans (firstBest_get hbest))
    exact firstBest_spec hnum hbest
  case reached =>
    intro hfew
    rw [few hfew]
    constructor
    · intro hne
      obtain ⟨i, hi⟩ := List.exists_mem_of_ne_nil _ hne
      obtain ⟨s, hbest, hs⟩ := mem_bestOfFew.mp hi
      exact ⟨s, List.mem_of_getElem? (firstBest_get hbest), hs⟩
    · rintro ⟨t, ht, hle⟩
      obtain ⟨i, s, hbest⟩ := exists_firstBest hnum (List.ne_nil_of_mem ht)
      have hs : s ∈ scores := List.mem_of_getElem? (firstBest_get hbest)
      have hts : Score.le t s = true :=
        LawfulOrder.le_iff.mpr ⟨hnum t ht, hnum s hs, (firstBest_spec hnum hbest).1 t ht⟩
      exact List.ne_nil_of_mem (mem_bestOfFew.mpr ⟨s, hbest, Score.le_trans hle hts⟩)

/-- **Outliers are found by their values.** -/
theorem outliers_by_value [Congruent σ] (multiplier : σ) (scores : List σ)
    (hnum : ∀ s ∈ scores, Score.isNaN s = false) :
    ∃ places, outliers multiplier scores = some places ∧ ByValue multiplier scores places := by
  obtain ⟨places, hplaces⟩ := exists_outliers multiplier hnum
  exact ⟨places, hplaces, byValue_of_outliers hnum hplaces⟩

/-- The two high scores of eight, wherever they stand. -/
theorem high_scores_by_value :
    outliers (1.5 : Float) [0.5, 0.25, 0.25, 0.5, 9.0, 0.5, 0.25, 9.5] = some [4, 7] ∧
      ByValue (1.5 : Float) [0.5, 0.25, 0.25, 0.5, 9.0, 0.5, 0.25, 9.5] [4, 7] := by
  have hout : outliers (1.5 : Float) [0.5, 0.25, 0.25, 0.5, 9.0, 0.5, 0.25, 9.5] = some [4, 7] := by
    decide +kernel
  obtain ⟨places, hplaces, hvalue⟩ := outliers_by_value (1.5 : Float)
    [0.5, 0.25, 0.25, 0.5, 9.0, 0.5, 0.25, 9.5] (by decide +kernel)
  obtain rfl := Option.some.inj (hout.symm.trans hplaces)
  exact ⟨hout, hvalue⟩

end EvidenceRank.Faq
