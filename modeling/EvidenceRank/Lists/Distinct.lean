/-!
# First occurrences

`distinctBy key xs` keeps the first element of each key and drops the later ones.

* `distinctBy_sublist`: the result is a subsequence of the input.
* `distinctBy_pairwise`: no key is left twice.
* `exists_distinctBy_of_mem`: no key is lost, and what stands for it comes first.
* `eq_of_mem_distinctBy`: what is left is told apart by its keys.
* `find?_of_mem_distinctBy`: what is left is the first of its key.
* `filter_key_of_mem`: where no key is repeated, an element is the only one of its key.
* `distinctBy_map`: a map that respects the keys can be applied before or after.
* `distinctBy_pairwise_idxOf`: what is left stands in the order of first occurrence of the keys.
* `map_distinctBy`: the keys that are left are those of the input without their repeats.
* `find?_distinctBy`: a search by keys finds the same before and after.
* `distinctBy_append`: behind other elements, those with a key of one of them are dropped.
-/

namespace EvidenceRank.Lists

variable {α κ : Type} [BEq κ]

/-- The first element of each key, in order. -/
def distinctBy (key : α → κ) : List α → List α
  | [] => []
  | x :: xs => x :: (distinctBy key xs).filter fun y => !(key y == key x)

@[simp] theorem distinctBy_nil (key : α → κ) : distinctBy key [] = [] := rfl

theorem distinctBy_sublist (key : α → κ) (xs : List α) : (distinctBy key xs).Sublist xs := by
  induction xs with
  | nil => exact List.Sublist.refl _
  | cons x xs ih => exact (List.filter_sublist.trans ih).cons_cons x

theorem mem_of_mem_distinctBy {key : α → κ} {xs : List α} {x : α} (h : x ∈ distinctBy key xs) :
    x ∈ xs :=
  (distinctBy_sublist key xs).mem h

theorem distinctBy_eq_nil {key : α → κ} {xs : List α} : distinctBy key xs = [] ↔ xs = [] := by
  cases xs with
  | nil => rw [distinctBy_nil]
  | cons x xs => simp [distinctBy]

theorem head?_distinctBy (key : α → κ) (xs : List α) : (distinctBy key xs).head? = xs.head? := by
  cases xs <;> rfl

/-- A map that keeps the keys can be applied before or after. -/
theorem distinctBy_map {β : Type} {key : α → κ} {key' : β → κ} {f : α → β} {xs : List α}
    (h : ∀ x ∈ xs, key' (f x) = key x) :
    distinctBy key' (xs.map f) = (distinctBy key xs).map f := by
  induction xs with
  | nil => rfl
  | cons x xs ih =>
    rw [List.map_cons, distinctBy, distinctBy, List.map_cons,
      ih fun y hy => h y (List.mem_cons_of_mem x hy), List.filter_map, h x List.mem_cons_self]
    congr 2
    refine List.filter_congr fun y hy => ?_
    have hy' := List.mem_cons_of_mem x (mem_of_mem_distinctBy hy)
    rw [Function.comp_apply, h y hy']

/-- Where no element is related to a later one, related elements are the same. -/
theorem eq_of_pairwise_not {R : α → α → Prop} (hsymm : ∀ {x y}, R x y → R y x) {xs : List α}
    (h : xs.Pairwise fun x y => ¬ R x y) {x y : α} (hx : x ∈ xs) (hy : y ∈ xs) (hxy : R x y) :
    x = y :=
  List.Pairwise.forall_of_forall_of_flip (R := fun x y => R x y → x = y) (fun _ _ _ => rfl)
    (h.imp fun hne hR => absurd hR hne) (h.imp fun hne hR => absurd (hsymm hR) hne) hx hy hxy

/-! ## Keys that can be told apart -/

variable [LawfulBEq κ] {key : α → κ}

theorem distinctBy_pairwise (key : α → κ) (xs : List α) :
    (distinctBy key xs).Pairwise fun x y => key x ≠ key y := by
  induction xs with
  | nil => exact List.Pairwise.nil
  | cons x xs ih =>
    rw [distinctBy, List.pairwise_cons]
    refine ⟨fun y hy heq => ?_, ih.filter _⟩
    have hne := (List.mem_filter.mp hy).2
    rw [heq] at hne
    simp at hne

/-- What is left is told apart by its keys. -/
theorem eq_of_mem_distinctBy {xs : List α} {x y : α} (hx : x ∈ distinctBy key xs)
    (hy : y ∈ distinctBy key xs) (h : key x = key y) : x = y :=
  eq_of_pairwise_not (R := fun x y => key x = key y) Eq.symm (distinctBy_pairwise key xs) hx hy h

/-- What is left is the first of its key. -/
theorem find?_of_mem_distinctBy {xs : List α} {x : α} (h : x ∈ distinctBy key xs) :
    xs.find? (fun y => key y == key x) = some x := by
  induction xs with
  | nil => exact absurd h List.not_mem_nil
  | cons a xs ih =>
    rcases List.mem_cons.mp h with rfl | h
    · exact List.find?_cons_of_pos (beq_self_eq_true _)
    · obtain ⟨hx, hne⟩ := List.mem_filter.mp h
      rw [List.find?_cons_of_neg, ih hx]
      intro heq
      rw [beq_iff_eq.mp heq, beq_self_eq_true] at hne
      exact absurd hne (by decide)

/-- Each element has one of its key in the result, which is the element itself or stands ahead
of it. -/
theorem exists_distinctBy_of_mem (key : α → κ) {R : α → α → Prop} {xs : List α}
    (h : xs.Pairwise R) {x : α} (hx : x ∈ xs) :
    ∃ y ∈ distinctBy key xs, key y = key x ∧ (y = x ∨ R y x) := by
  induction xs with
  | nil => exact absurd hx List.not_mem_nil
  | cons a xs ih =>
    rw [List.pairwise_cons] at h
    rcases List.mem_cons.mp hx with rfl | hx
    · exact ⟨x, List.mem_cons_self, rfl, Or.inl rfl⟩
    · by_cases hk : key a = key x
      · exact ⟨a, List.mem_cons_self, hk, Or.inr (h.1 x hx)⟩
      · obtain ⟨y, hy, hyx, hlead⟩ := ih h.2 hx
        refine ⟨y, List.mem_cons_of_mem a (List.mem_filter.mpr ⟨hy, ?_⟩), hyx, hlead⟩
        rw [hyx]
        simpa using fun e => hk e.symm

theorem mem_map_distinctBy {xs : List α} {k : κ} :
    k ∈ (distinctBy key xs).map key ↔ k ∈ xs.map key := by
  constructor
  · intro h
    exact ((distinctBy_sublist key xs).map key).mem h
  · intro h
    obtain ⟨x, hx, rfl⟩ := List.mem_map.mp h
    have htrue : xs.Pairwise fun _ _ => True := List.pairwise_of_forall fun _ _ => trivial
    obtain ⟨y, hy, hyx, -⟩ := exists_distinctBy_of_mem key htrue hx
    exact List.mem_map.mpr ⟨y, hy, hyx⟩

/-- A list without a repeated key is left as it is. -/
theorem distinctBy_eq_self {xs : List α} (h : xs.Pairwise fun x y => key x ≠ key y) :
    distinctBy key xs = xs := by
  induction xs with
  | nil => rfl
  | cons x xs ih =>
    rw [List.pairwise_cons] at h
    rw [distinctBy, ih h.2]
    congr 1
    refine List.filter_eq_self.mpr fun y hy => ?_
    simpa using fun e => h.1 y hy e.symm

/-- Where no key is repeated, an element is the only one of its key. -/
theorem filter_key_of_mem {xs : List α} (h : xs.Pairwise fun x y => key x ≠ key y) {x : α}
    (hx : x ∈ xs) : xs.filter (fun y => key y == key x) = [x] := by
  induction xs with
  | nil => exact absurd hx List.not_mem_nil
  | cons y xs ih =>
    obtain ⟨hy, hxs⟩ := List.pairwise_cons.mp h
    rcases List.mem_cons.mp hx with rfl | hx
    · have hnone : xs.filter (fun y => key y == key x) = [] :=
        List.filter_eq_nil_iff.mpr fun z hz hzx => hy z hz (beq_iff_eq.mp hzx).symm
      rw [List.filter_cons, if_pos (beq_self_eq_true _), hnone]
    · rw [List.filter_cons_of_neg (by simpa using hy x hx), ih hxs hx]

/-- What is left stands in the order in which the keys first occur. -/
theorem distinctBy_pairwise_idxOf (key : α → κ) (xs : List α) :
    (distinctBy key xs).Pairwise fun x y =>
      (xs.map key).idxOf (key x) < (xs.map key).idxOf (key y) := by
  induction xs with
  | nil => exact List.Pairwise.nil
  | cons a xs ih =>
    have later : ∀ y ∈ (distinctBy key xs).filter fun y => !(key y == key a),
        ((a :: xs).map key).idxOf (key y) = (xs.map key).idxOf (key y) + 1 := by
      intro y hy
      have hne := (List.mem_filter.mp hy).2
      have : (key a == key y) = false := by
        simp only [Bool.not_eq_true', beq_eq_false_iff_ne, ne_eq] at hne ⊢
        exact fun e => hne e.symm
      rw [List.map_cons, List.idxOf_cons, this, cond_false]
    rw [distinctBy, List.pairwise_cons]
    refine ⟨fun y hy => ?_, (ih.filter _).imp_of_mem fun {x y} hx hy hlt => ?_⟩
    · rw [later y hy, List.map_cons, List.idxOf_cons_self]
      exact Nat.succ_pos _
    · rw [later x hx, later y hy]
      exact Nat.succ_lt_succ hlt

/-- Elements can be dropped by their keys before or after. -/
theorem distinctBy_filter (p : κ → Bool) (xs : List α) :
    distinctBy key (xs.filter fun x => p (key x)) =
      (distinctBy key xs).filter fun x => p (key x) := by
  induction xs with
  | nil => rfl
  | cons x xs ih =>
    rw [List.filter_cons, distinctBy, List.filter_cons]
    split
    · rw [distinctBy, ih, List.filter_filter, List.filter_filter]
      simp only [Bool.and_comm]
    · rename_i hp
      rw [ih, List.filter_filter]
      refine List.filter_congr fun y _ => ?_
      by_cases hy : key y = key x
      · simp [hy, hp]
      · simp [hy]

/-- The first element whose key passes a test is left. -/
theorem find?_distinctBy (key : α → κ) (p : κ → Bool) (xs : List α) :
    (distinctBy key xs).find? (fun x => p (key x)) = xs.find? fun x => p (key x) := by
  rw [← List.head?_filter, ← List.head?_filter, ← distinctBy_filter, head?_distinctBy]

omit [LawfulBEq κ] in
/-- Behind other elements, those with a key of one of them are dropped. -/
theorem distinctBy_append (xs ys : List α) : distinctBy key (xs ++ ys) =
    distinctBy key xs ++ (distinctBy key ys).filter fun y => !(xs.map key).elem (key y) := by
  induction xs with
  | nil => exact (List.filter_eq_self.mpr fun _ _ => rfl).symm
  | cons x xs ih =>
    rw [List.cons_append, distinctBy, ih, List.filter_append, List.filter_filter, distinctBy,
      List.cons_append]
    congr 2
    refine List.filter_congr fun y _ => ?_
    rw [List.map_cons, List.elem_cons]
    cases key y == key x <;> rfl

/-- Elements whose keys are all there leave no trace behind the others. -/
theorem distinctBy_append_of_subset {xs ys : List α} (h : ∀ y ∈ ys, key y ∈ xs.map key) :
    distinctBy key (xs ++ ys) = distinctBy key xs := by
  have hnone : ((distinctBy key ys).filter fun y => !(xs.map key).elem (key y)) = [] := by
    rw [List.filter_eq_nil_iff]
    intro y hy
    simpa using h y (mem_of_mem_distinctBy hy)
  rw [distinctBy_append, hnone, List.append_nil]

theorem distinctBy_id : ∀ ks : List κ, distinctBy id ks = ks.eraseDups
  | [] => rfl
  | k :: ks => by
    have hlen := List.length_filter_le (fun y => !(y == k)) ks
    rw [distinctBy, List.eraseDups_cons, ← distinctBy_id (ks.filter fun y => !(y == k))]
    exact congrArg (k :: ·) (distinctBy_filter (fun y => !(y == k)) ks).symm
termination_by ks => ks.length
decreasing_by exact Nat.lt_succ_of_le hlen

/-- The keys left are the keys without their repeats. -/
theorem map_distinctBy (key : α → κ) (xs : List α) :
    (distinctBy key xs).map key = (xs.map key).eraseDups := by
  have hmap : distinctBy id (xs.map key) = (distinctBy key xs).map key :=
    distinctBy_map fun _ _ => rfl
  rw [← distinctBy_id, hmap]

end EvidenceRank.Lists
