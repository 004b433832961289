import EvidenceRank.Lists.Dropped
import EvidenceRank.Proofs.Citation.Arrangement
import Mathlib.Data.List.Induction

/-!
# Trimming

Trimming walks through the slices from the tail, tests each against the slices that are left by
then, and drops it if none of them is adjacent. The test might as well be made against all slices
from the start: adjacency is mutual, so a slice that is dropped was a neighbour of none that stays
(`isolated_middle`), and no slice loses its last neighbour on the way.

Results:
* `trimTail_eq`: what goes are the last isolated slices, as many as are over the budget, the head
  not excepted.
* `trimTail_cases`: so trimming gets down to the budget, or no isolated slice is left.
* `trimTail_sublist`: a larger budget leaves more.
* `head?_trimTail_of_not`, `trimTail_of_headGoes`: the head goes exactly if it is isolated and the
  slices that are not use up the budget, and then so do all isolated slices.
* `trimFrom_walks`: on the way every place that is looked at is one of the slices left by then.
* `isolated_trimTail`: a slice that stays has a neighbour as long as it had one.
* `trimTail_trims`: what trimming makes of slices, all in one.
-/

namespace EvidenceRank.Citation

variable {σ : Type} {max : Nat}

/-! ## Neighbours -/

theorem adjacent_comm (a b : CitedSlice σ) : adjacent a b = adjacent b a := by
  unfold adjacent
  rw [Bool.or_comm]

theorem isolated_iff {slices : List (CitedSlice σ)} {s : CitedSlice σ} :
    isolated slices s = true ↔ ∀ t ∈ slices, adjacent s t = false := by
  unfold isolated
  simp only [Bool.not_eq_true', List.any_eq_false, Bool.not_eq_true]

/-- A slice without neighbours is none that another could miss. -/
theorem isolated_middle {xs ys : List (CitedSlice σ)} {x s : CitedSlice σ}
    (hx : isolated (xs ++ x :: ys) x = true) (hs : s ∈ xs) :
    isolated (xs ++ ys) s = isolated (xs ++ x :: ys) s := by
  have hfar : adjacent s x = false := by
    rw [adjacent_comm]
    exact isolated_iff.mp hx s (List.mem_append_left _ hs)
  unfold isolated
  rw [List.any_append, List.any_append, List.any_cons, hfar, Bool.false_or]

/-! ## The walk from the tail -/

/-- **One step of the walk** at the place behind `xs`. -/
theorem trimFrom_concat (xs ys : List (CitedSlice σ)) (x : CitedSlice σ)
    (h : max < (xs ++ x :: ys).length) : trimFrom max (xs.length + 1) (xs ++ x :: ys) =
      trimFrom max xs.length
        (if isolated (xs ++ x :: ys) x then xs ++ ys else xs ++ x :: ys) := by
  have hat : (xs ++ x :: ys)[xs.length]? = some x := by
    rw [List.getElem?_append_right (Nat.le_refl _), Nat.sub_self, List.getElem?_cons_zero]
  have herase : (xs ++ x :: ys).eraseIdx xs.length = xs ++ ys := by
    rw [List.eraseIdx_append_of_length_le (Nat.le_refl _), Nat.sub_self, List.eraseIdx_cons_zero]
  rw [trimFrom, if_neg (Nat.not_le_of_lt h), hat, herase]

/-- **The whole walk**: in front of slices `ys` that stay, it drops the last isolated ones of `xs`,
as many as there are too many. -/
theorem trimFrom_eq {p : CitedSlice σ → Bool} (xs ys : List (CitedSlice σ))
    (hp : ∀ s ∈ xs, isolated (xs ++ ys) s = p s) : trimFrom max xs.length (xs ++ ys) =
      Lists.dropLastBy p (xs.length + ys.length - max) xs ++ ys := by
  induction xs using List.reverseRecOn generalizing ys with
  | nil => rfl
  | append_singleton xs x ih =>
    have hx : isolated (xs ++ x :: ys) x = p x := by
      have h := hp x (List.mem_append_right xs List.mem_cons_self)
      rwa [List.append_assoc, List.singleton_append] at h
    have hxs : ∀ s ∈ xs, isolated (xs ++ x :: ys) s = p s := by
      intro s hs
      have h := hp s (List.mem_append_left [x] hs)
      rwa [List.append_assoc, List.singleton_append] at h
    rw [List.append_assoc, List.singleton_append, List.length_append, List.length_singleton]
    by_cases hmore : max < (xs ++ x :: ys).length
    · rw [trimFrom_concat xs ys x hmore, hx]
      rw [List.length_append, List.length_cons] at hmore
      by_cases hpx : p x = true
      · -- `x` goes, and what is left in front of it is isolated as before
        have hleft : ∀ s ∈ xs, isolated (xs ++ ys) s = p s := by
          intro s hs
          rw [isolated_middle (hx.trans hpx) hs, hxs s hs]
        obtain ⟨k, hk⟩ : ∃ k, xs.length + 1 + ys.length - max = k + 1 :=
          ⟨xs.length + ys.length - max, by omega⟩
        rw [if_pos hpx, ih ys hleft, hk, Lists.dropLastBy_concat hpx]
        congr 2
        omega
      · rw [if_neg hpx, ih (x :: ys) hxs, List.length_cons,
          Lists.dropLastBy_concat_of_not (Bool.eq_false_iff.mpr hpx), List.append_assoc,
          List.singleton_append]
        congr 2
        omega
    · rw [trimFrom_of_le (Nat.le_of_not_lt hmore)]
      rw [List.length_append, List.length_cons] at hmore
      have hnone : xs.length + 1 + ys.length - max = 0 := by omega
      rw [hnone, Lists.dropLastBy_zero, List.append_assoc, List.singleton_append]

/-- **What trimming drops**: the last isolated slices, as many as are over the budget. -/
theorem trimTail_eq (max : Nat) (slices : List (CitedSlice σ)) : trimTail max slices =
    Lists.dropLastBy (isolated slices) (slices.length - max) slices := by
  have hsame : ∀ s ∈ slices, isolated (slices ++ []) s = isolated slices s := by
    intro s _
    rw [List.append_nil]
  have h : trimFrom max slices.length (slices ++ []) = _ := trimFrom_eq slices [] hsame
  rw [List.append_nil, List.append_nil, List.length_nil, Nat.add_zero] at h
  exact h

/-! ## What is left -/

/-- **Trimming gets down to the budget, or gives up every isolated slice.** -/
theorem trimTail_cases (max : Nat) (slices : List (CitedSlice σ)) :
    (trimTail max slices).length ≤ max ∨
      trimTail max slices = slices.filter (!isolated slices ·) := by
  rw [trimTail_eq]
  by_cases hmany : slices.countP (isolated slices) ≤ slices.length - max
  · exact Or.inr (Lists.dropLastBy_eq_filter hmany)
  · have hlen := Lists.length_dropLastBy_add (isolated slices) (slices.length - max) slices
    exact Or.inl (by omega)

/-- A larger budget leaves more. -/
theorem trimTail_sublist {more : Nat} (h : max ≤ more) (slices : List (CitedSlice σ)) :
    (trimTail max slices).Sublist (trimTail more slices) := by
  rw [trimTail_eq, trimTail_eq]
  exact Lists.dropLastBy_sublist (Nat.sub_le_sub_left h _) slices

/-- The slices that have a neighbour stay. -/
theorem filter_sublist_trimTail (max : Nat) (slices : List (CitedSlice σ)) :
    (slices.filter (!isolated slices ·)).Sublist (trimTail max slices) := by
  rw [trimTail_eq]
  exact Lists.filter_sublist_dropLastBy _ _ slices

/-- Where trimming for a larger budget gives up every isolated slice, so does trimming for a smaller
one. -/
theorem trimTail_eq_of_filter {more : Nat} {slices : List (CitedSlice σ)} (h : max ≤ more)
    (hall : trimTail more slices = slices.filter (!isolated slices ·)) :
    trimTail max slices = trimTail more slices := by
  refine (trimTail_sublist h slices).eq_of_length_le ?_
  rw [hall]
  exact (filter_sublist_trimTail max slices).length_le

/-! ## The head -/

/-- Trimming gives up the first slice: it has no neighbour, and those that have one use up the
budget. -/
def HeadGoes (max : Nat) (slices : List (CitedSlice σ)) : Prop :=
  (∃ head ∈ slices.head?, isolated slices head = true) ∧
    max ≤ slices.countP (!isolated slices ·)

/-- The head stays if it may. -/
theorem head?_trimTail_of_not {slices : List (CitedSlice σ)} (h : ¬ HeadGoes max slices) :
    (trimTail max slices).head? = slices.head? := by
  cases slices with
  | nil => rfl
  | cons s rest =>
    rw [trimTail_eq]
    have hstays : ¬ (isolated (s :: rest) s = true ∧
        rest.countP (isolated (s :: rest)) < (s :: rest).length - max) := by
      rintro ⟨hs, hcount⟩
      refine h ⟨⟨s, rfl, hs⟩, ?_⟩
      have hsplit := Lists.length_eq_countP_add (isolated (s :: rest)) rest
      have hhead : (s :: rest).countP (!isolated (s :: rest) ·) =
          rest.countP (!isolated (s :: rest) ·) := List.countP_cons_of_neg (by simp [hs])
      rw [List.length_cons] at hcount
      omega
    rw [Lists.dropLastBy_cons s rest hstays]
    rfl

/-- If the head goes, every isolated slice goes. -/
theorem trimTail_of_headGoes {slices : List (CitedSlice σ)} (h : HeadGoes max slices) :
    trimTail max slices = slices.filter (!isolated slices ·) := by
  rw [trimTail_eq]
  refine Lists.dropLastBy_eq_filter ?_
  have hsplit := Lists.length_eq_countP_add (isolated slices) slices
  have hmax := h.2
  omega

/-! ## The walk and its outcome -/

/-- The walk down from place `i` leaves the slices `left`. A step looks at the slice at its place,
which is one of those that are left by then. -/
inductive Walks (max : Nat) : Nat → List (CitedSlice σ) → List (CitedSlice σ) → Prop
  | atHead {slices : List (CitedSlice σ)} : Walks max 0 slices slices
  | withinBudget {i : Nat} {slices : List (CitedSlice σ)} (h : slices.length ≤ max) :
    Walks max i slices slices
  | drop {i : Nat} {slices left : List (CitedSlice σ)} (hmore : max < slices.length)
    (hi : i < slices.length) (hs : isolated slices slices[i] = true)
    (h : Walks max i (slices.eraseIdx i) left) : Walks max (i + 1) slices left
  | keep {i : Nat} {slices left : List (CitedSlice σ)} (hmore : max < slices.length)
    (hi : i < slices.length) (hs : isolated slices slices[i] = false)
    (h : Walks max i slices left) : Walks max (i + 1) slices left

/-- **No step of the walk looks past the slices that are left.** -/
theorem trimFrom_walks {i : Nat} {slices : List (CitedSlice σ)} (hi : i ≤ slices.length) :
    Walks max i slices (trimFrom max i slices) := by
  induction i generalizing slices with
  | zero => exact .atHead
  | succ i ih =>
    by_cases hfits : slices.length ≤ max
    · rw [trimFrom_of_le hfits]
      exact .withinBudget hfits
    · rw [trimFrom, if_neg hfits, List.getElem?_eq_getElem hi]
      dsimp only
      by_cases hs : isolated slices slices[i] = true
      · rw [if_pos hs]
        have herase : (slices.eraseIdx i).length = slices.length - 1 :=
          List.length_eraseIdx_of_lt hi
        exact .drop (Nat.lt_of_not_le hfits) hi hs (ih (by omega))
      · rw [if_neg hs]
        exact .keep (Nat.lt_of_not_le hfits) hi (Bool.eq_false_iff.mpr hs)
          (ih (Nat.le_of_succ_le hi))

/-- **No slice loses its neighbours.** -/
theorem isolated_trimTail {slices : List (CitedSlice σ)} {s : CitedSlice σ} (hs : s ∈ slices) :
    isolated (trimTail max slices) s = isolated slices s := by
  rw [Bool.eq_iff_iff, isolated_iff, isolated_iff]
  constructor
  · intro hleft t ht
    by_contra hadj
    rw [Bool.not_eq_false] at hadj
    -- a neighbour has a neighbour itself, so it stays
    have hlinked : isolated slices t = false := by
      rw [← Bool.not_eq_true, isolated_iff]
      intro hnone
      rw [adjacent_comm, hnone s hs] at hadj
      cases hadj
    have hstays : t ∈ trimTail max slices :=
      (filter_sublist_trimTail max slices).mem (List.mem_filter.mpr ⟨ht, by simp [hlinked]⟩)
    rw [hleft t hstays] at hadj
    cases hadj
  · intro hall t ht
    exact hall t ((trimFrom_sublist max slices.length slices).mem ht)

/-- No slice has the number before that of `s`, or the one behind it. -/
def Lone (slices : List (CitedSlice σ)) (s : CitedSlice σ) : Prop :=
  ∀ t ∈ slices, t.no.toInt ≠ s.no.toInt - 1 ∧ t.no.toInt ≠ s.no.toInt + 1

theorem isolated_iff_lone {slices : List (CitedSlice σ)} {s : CitedSlice σ} :
    isolated slices s = true ↔ Lone slices s := by
  rw [isolated_iff]
  refine forall₂_congr fun t _ => ?_
  unfold adjacent
  rw [Bool.or_eq_false_iff, beq_eq_false_iff_ne, beq_eq_false_iff_ne]
  omega

/-- What trimming down to `max` slices makes of slices. -/
structure Trims (max : Nat) (slices left : List (CitedSlice σ)) : Prop where
  /-- The walk from the tail ends with them, and no step looks past the slices left by then. -/
  walks : Walks max slices.length slices left
  /-- What is isolated is said by the numbers. -/
  lone : ∀ s, isolated slices s = true ↔ Lone slices s
  /-- The last isolated slices go, as many as are over the budget, or all of them. -/
  dropped : ∃ front back, slices = front ++ back ∧
    left = front ++ back.filter (!isolated slices ·) ∧
      back.countP (isolated slices) =
        min (slices.length - max) (slices.countP (isolated slices))
  /-- Adjacent slices stay, each as often as it was there. -/
  runs : (slices.filter (!isolated slices ·)).Sublist left
  /-- A slice is as isolated among those that stay as it was. -/
  neighbours : ∀ s ∈ slices, Lone left s ↔ Lone slices s
  budget : min max slices.length ≤ left.length
  above : max < left.length → ∀ s ∈ left, ¬ Lone left s

/-- **Trimming gives up the last isolated slices, and nothing else**, as long as there are more
slices than the budget allows. -/
theorem trimTail_trims (max : Nat) (slices : List (CitedSlice σ)) :
    Trims max slices (trimTail max slices) where
  walks := trimFrom_walks (Nat.le_refl _)
  lone _ := isolated_iff_lone
  dropped := by
    rw [trimTail_eq]
    exact Lists.exists_split_dropLastBy _ _ slices
  runs := filter_sublist_trimTail max slices
  neighbours s hs := by rw [← isolated_iff_lone, ← isolated_iff_lone, isolated_trimTail hs]
  budget := by
    have h := min_length_trimTail max slices
    omega
  above := by
    intro hover s hs hlone
    have hall := (trimTail_cases max slices).resolve_left (Nat.not_le_of_lt hover)
    rw [hall] at hs
    obtain ⟨hmem, hlinked⟩ := List.mem_filter.mp hs
    rw [← isolated_iff_lone, isolated_trimTail hmem] at hlone
    rw [hlone] at hlinked
    cases hlinked

end EvidenceRank.Citation
