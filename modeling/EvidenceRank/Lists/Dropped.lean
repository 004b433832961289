/-!
# Dropping the last of a kind

`dropLastBy p k xs` leaves out the last `k` of the elements of `xs` that satisfy `p`, or all of
them if there are no more.

* `dropLastBy_concat`, `dropLastBy_concat_of_not`: what becomes of one more element at the end.
* `dropLastBy_cons`: the first element goes only if there are too few of its kind behind it.
* `dropLastBy_eq_filter`: where `k` is large enough, none of the kind is left.
* `length_dropLastBy_add`: how many are left out.
* `exists_split_dropLastBy`: all of the kind behind some place are left out, and nothing ahead of
  it.
* `dropLastBy_sublist`, `filter_sublist_dropLastBy`: the larger `k`, the less is left, but all of
  other kinds.
-/

namespace EvidenceRank.Lists

variable {α : Type} {p : α → Bool} {k : Nat}

/-- The list without the last `k` of the elements that satisfy `p`. -/
def dropLastBy (p : α → Bool) (k : Nat) : List α → List α
  | [] => []
  | x :: xs => if p x && xs.countP p < k then dropLastBy p k xs else x :: dropLastBy p k xs

/-- An element is of the kind, or it is not. -/
theorem length_eq_countP_add (p : α → Bool) (xs : List α) :
    xs.length = xs.countP p + xs.countP (!p ·) := by
  rw [List.length_eq_countP_add_countP p]
  congr 1
  exact List.countP_congr fun x _ => by simp

theorem dropLastBy_cons (x : α) (xs : List α) (h : ¬ (p x = true ∧ xs.countP p < k)) :
    dropLastBy p k (x :: xs) = x :: dropLastBy p k xs := by
  rw [dropLastBy, if_neg]
  rwa [Bool.and_eq_true, decide_eq_true_eq]

theorem dropLastBy_cons_of (x : α) (xs : List α) (hx : p x = true) (h : xs.countP p < k) :
    dropLastBy p k (x :: xs) = dropLastBy p k xs := by
  rw [dropLastBy, if_pos]
  rw [Bool.and_eq_true, decide_eq_true_eq]
  exact ⟨hx, h⟩

@[simp] theorem dropLastBy_zero (xs : List α) : dropLastBy p 0 xs = xs := by
  induction xs with
  | nil => rfl
  | cons x xs ih => rw [dropLastBy_cons x xs fun h => Nat.not_lt_zero _ h.2, ih]

/-- Where there are no more than `k` of the kind, none is left. -/
theorem dropLastBy_eq_filter {xs : List α} (h : xs.countP p ≤ k) :
    dropLastBy p k xs = xs.filter (!p ·) := by
  induction xs with
  | nil => rfl
  | cons x xs ih =>
    rw [List.countP_cons] at h
    by_cases hx : p x = true
    · rw [if_pos hx] at h
      rw [dropLastBy_cons_of x xs hx (by omega), ih (by omega),
        List.filter_cons_of_neg (by simp [hx])]
    · rw [if_neg hx] at h
      rw [dropLastBy_cons x xs fun hp => hx hp.1, ih (by omega),
        List.filter_cons_of_pos (by simp [hx])]

/-- As many are left out as there are, up to `k`. -/
theorem length_dropLastBy_add (p : α → Bool) (k : Nat) (xs : List α) :
    (dropLastBy p k xs).length + min k (xs.countP p) = xs.length := by
  induction xs with
  | nil => simp [dropLastBy]
  | cons x xs ih =>
    by_cases hx : p x = true ∧ xs.countP p < k
    · rw [dropLastBy_cons_of x xs hx.1 hx.2, List.countP_cons_of_pos hx.1, List.length_cons]
      omega
    · rw [dropLastBy_cons x xs hx, List.length_cons, List.length_cons]
      by_cases hp : p x = true
      · have hle : k ≤ xs.countP p := Nat.le_of_not_lt fun hlt => hx ⟨hp, hlt⟩
        rw [List.countP_cons_of_pos hp]
        omega
      · rw [List.countP_cons_of_neg hp]
        omega

/-- **What is left out is the last of the kind**: behind some place all of it, as many as there are
up to `k`, and nothing ahead of that. -/
theorem exists_split_dropLastBy (p : α → Bool) (k : Nat) (xs : List α) :
    ∃ front back, xs = front ++ back ∧ dropLastBy p k xs = front ++ back.filter (!p ·) ∧
      back.countP p = min k (xs.countP p) := by
  induction xs with
  | nil => exact ⟨[], [], rfl, rfl, (Nat.min_zero k).symm⟩
  | cons x xs ih =>
    by_cases hx : p x = true ∧ xs.countP p < k
    · -- if the first goes, so does every other one of the kind
      have hcount : (x :: xs).countP p = xs.countP p + 1 := List.countP_cons_of_pos hx.1
      have hall : (x :: xs).countP p ≤ k := hcount ▸ hx.2
      exact ⟨[], x :: xs, rfl, dropLastBy_eq_filter hall, (Nat.min_eq_right hall).symm⟩
    · obtain ⟨front, back, rfl, hleft, hcount⟩ := ih
      refine ⟨x :: front, back, rfl, ?_, ?_⟩
      · rw [dropLastBy_cons x _ hx, hleft, List.cons_append]
      · rw [hcount]
        by_cases hp : p x = true
        · have hle : k ≤ (front ++ back).countP p := Nat.le_of_not_lt fun hlt => hx ⟨hp, hlt⟩
          rw [List.countP_cons_of_pos hp]
          omega
        · rw [List.countP_cons_of_neg hp]

/-- Who drops more is left with less. -/
theorem dropLastBy_sublist {k' : Nat} (h : k ≤ k') (xs : List α) :
    (dropLastBy p k' xs).Sublist (dropLastBy p k xs) := by
  induction xs with
  | nil => exact List.Sublist.refl _
  | cons x xs ih =>
    by_cases hx : p x = true ∧ xs.countP p < k
    · rw [dropLastBy_cons_of x xs hx.1 hx.2,
        dropLastBy_cons_of x xs hx.1 (Nat.lt_of_lt_of_le hx.2 h)]
      exact ih
    · rw [dropLastBy_cons x xs hx]
      by_cases hx' : p x = true ∧ xs.countP p < k'
      · rw [dropLastBy_cons_of x xs hx'.1 hx'.2]
        exact ih.cons x
      · rw [dropLastBy_cons x xs hx']
        exact ih.cons_cons x

/-- What is not of the kind is left. -/
theorem filter_sublist_dropLastBy (p : α → Bool) (k : Nat) (xs : List α) :
    (xs.filter (!p ·)).Sublist (dropLastBy p k xs) := by
  have hall : dropLastBy p (k + xs.countP p) xs = xs.filter (!p ·) :=
    dropLastBy_eq_filter (Nat.le_add_left _ k)
  rw [← hall]
  exact dropLastBy_sublist (Nat.le_add_right k _) xs

/-- An element of the kind at the end is the first to go. -/
theorem dropLastBy_concat {x : α} (hx : p x = true) (xs : List α) :
    dropLastBy p (k + 1) (xs ++ [x]) = dropLastBy p k xs := by
  have hcount : ∀ ys : List α, (ys ++ [x]).countP p = ys.countP p + 1 := by
    intro ys
    rw [List.countP_append, List.countP_singleton, if_pos hx]
  induction xs with
  | nil => exact dropLastBy_cons_of x [] hx (Nat.succ_pos k)
  | cons y ys ih =>
    rw [List.cons_append]
    by_cases hy : p y = true ∧ ys.countP p < k
    · rw [dropLastBy_cons_of y ys hy.1 hy.2,
        dropLastBy_cons_of y _ hy.1 (by rw [hcount]; omega), ih]
    · have hy' : ¬ (p y = true ∧ (ys ++ [x]).countP p < k + 1) := by
        rw [hcount]
        exact fun h => hy ⟨h.1, Nat.lt_of_succ_lt_succ h.2⟩
      rw [dropLastBy_cons y ys hy, dropLastBy_cons y _ hy', ih]

/-- An element of another kind at the end stays there. -/
theorem dropLastBy_concat_of_not {x : α} (hx : p x = false) (xs : List α) :
    dropLastBy p k (xs ++ [x]) = dropLastBy p k xs ++ [x] := by
  have hx' : ¬ p x = true := by
    rw [hx]
    exact Bool.false_ne_true
  have hcount : ∀ ys : List α, (ys ++ [x]).countP p = ys.countP p := by
    intro ys
    rw [List.countP_append, List.countP_singleton, if_neg hx', Nat.add_zero]
  induction xs with
  | nil => exact dropLastBy_cons x [] fun h => hx' h.1
  | cons y ys ih =>
    rw [List.cons_append]
    by_cases hy : p y = true ∧ ys.countP p < k
    · have hy' : (ys ++ [x]).countP p < k := by
        rw [hcount]
        exact hy.2
      rw [dropLastBy_cons_of y ys hy.1 hy.2, dropLastBy_cons_of y _ hy.1 hy', ih]
    · rw [dropLastBy_cons y ys hy, dropLastBy_cons y _ (by rw [hcount]; exact hy), ih]
      rfl

end EvidenceRank.Lists
