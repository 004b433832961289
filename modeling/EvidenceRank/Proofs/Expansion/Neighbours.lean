import EvidenceRank.Proofs.Expansion.Added
import Mathlib.Data.List.Enum

/-!
# Which lower rows are kept

A row behind the top rows stays exactly if a top row stands right in front of it in its document.
Segments are compared as integers, so that nothing follows the largest one, and a row that stays in
this way brings no other one with it. As nothing else decides, more top rows never cost a row.

Results:
* `Stays.mono`: what stays with some top rows stays with more of them.
* `keepNeighbours_stays`: position by position, which rows are left.
-/

namespace EvidenceRank.Expansion

variable {σ : Type} {top more : Nat} {rows : List (Row σ)} {x : Row σ × Nat}

/-! ## Positions -/

/-- The row `x.1` at the position `x.2` stays: the position is one of the first `top`, or a row at
one of these has the same content hash and the segment in front of that of `x.1`. -/
def Stays (top : Nat) (rows : List (Row σ)) (x : Row σ × Nat) : Prop :=
  x.2 < top ∨ ∃ s ∈ rows.take top,
    s.md5 = x.1.md5 ∧ s.candidate.segment.toInt + 1 = x.1.candidate.segment.toInt

instance (top : Nat) (rows : List (Row σ)) : DecidablePred (Stays top rows) := fun _ =>
  inferInstanceAs (Decidable (_ ∨ ∃ s ∈ rows.take top, _))

/-- **More top rows never cost a row.** -/
theorem Stays.mono (h : top ≤ more) (hx : Stays top rows x) : Stays more rows x := by
  rcases hx with hx | ⟨s, hs, hfollows⟩
  · exact Or.inl (Nat.lt_of_lt_of_le hx h)
  · exact Or.inr ⟨s, (List.take_sublist_take_left h).mem hs, hfollows⟩

theorem decide_stays_of_le (h : top ≤ x.2) :
    decide (Stays top rows x) = (rows.take top).any (follows x.1) := by
  rw [Bool.eq_iff_iff, decide_eq_true_iff, List.any_eq_true]
  unfold Stays
  simp only [Nat.not_lt.mpr h, false_or, follows_iff]

theorem map_fst_filter_zipIdx {α : Type} (p : α → Bool) (xs : List α) (n : Nat) :
    ((xs.zipIdx n).filter fun x => p x.1).map Prod.fst = xs.filter p := by
  conv_rhs => rw [← List.zipIdx_map_fst n xs, List.filter_map]
  rfl

/-! ## The top rows and the lower rows -/

/-- All top rows stay. -/
theorem filter_stays_take (top : Nat) (rows : List (Row σ)) :
    ((rows.take top).zipIdx.filter (Stays top rows)).map Prod.fst = rows.take top := by
  have hall : (rows.take top).zipIdx.filter (Stays top rows) = (rows.take top).zipIdx := by
    refine List.filter_eq_self.mpr fun x hx => decide_eq_true (Or.inl ?_)
    have hlt := List.snd_lt_of_mem_zipIdx hx
    rw [List.length_take] at hlt
    omega
  rw [hall, List.zipIdx_map_fst]

/-- Of the lower rows those stay that follow a top row. -/
theorem filter_stays_drop (top : Nat) (rows : List (Row σ)) :
    (((rows.drop top).zipIdx top).filter (Stays top rows)).map Prod.fst =
      (rows.drop top).filter fun r => (rows.take top).any (follows r) := by
  rw [← map_fst_filter_zipIdx (fun r => (rows.take top).any (follows r)) (rows.drop top) top]
  refine congrArg (List.map Prod.fst) (List.filter_congr fun x hx => ?_)
  exact decide_stays_of_le (List.le_snd_of_mem_zipIdx hx)

theorem zipIdx_take_append_drop (top : Nat) (rows : List (Row σ)) :
    rows.zipIdx = (rows.take top).zipIdx ++ (rows.drop top).zipIdx top := by
  by_cases h : top ≤ rows.length
  · conv_lhs => rw [← List.take_append_drop top rows]
    rw [List.zipIdx_append, List.length_take, Nat.zero_add, Nat.min_eq_left h]
  · -- there are no lower rows
    have h := Nat.le_of_not_le h
    rw [List.take_of_length_le h, List.drop_of_length_le h, List.zipIdx_nil, List.append_nil]

/-! ## All rows -/

/-- **Which rows are left**, in their order: the first `top`, and of the others those that directly
follow one of them; so with more top rows none of them is lost. -/
theorem keepNeighbours_stays (top : Nat) (rows : List (Row σ)) :
    (keepNeighbours top rows).rows = (rows.zipIdx.filter (Stays top rows)).map Prod.fst ∧
      ∀ more, top ≤ more →
        (keepNeighbours top rows).rows.Sublist (keepNeighbours more rows).rows := by
  have hstays (top : Nat) : (keepNeighbours top rows).rows =
      (rows.zipIdx.filter (Stays top rows)).map Prod.fst := by
    rw [zipIdx_take_append_drop top rows, List.filter_append, List.map_append, filter_stays_take,
      filter_stays_drop]
    rfl
  refine ⟨hstays top, fun more h => ?_⟩
  rw [hstays, hstays]
  refine List.Sublist.map _ (List.monotone_filter_right _ fun x hx => ?_)
  exact decide_eq_true (Stays.mono h (of_decide_eq_true hx))

/-- The row behind the top row stays, but not the one behind that; nor does a row with the smallest
segment follow one with the largest. -/
example : (keepNeighbours 2 [sampleRow "A" "A" "a" 1, sampleRow "A" "A" "b" Int64.maxValue,
    sampleRow "A" "A" "c" 2, sampleRow "A" "A" "d" 3, sampleRow "A" "A" "e" Int64.minValue,
    sampleRow "B" "B" "f" 2]).rows =
      [sampleRow "A" "A" "a" 1, sampleRow "A" "A" "b" Int64.maxValue,
        sampleRow "A" "A" "c" 2] := rfl

end EvidenceRank.Expansion
