/-!
# Stable ordering

`rankBy before xs` sorts by insertion (`sort_by` on short lists): each element goes behind all those
already placed that it does not precede, so elements that precede neither way keep their order. The
comparison need not be transitive; on one that is not, the order of insertion decides.

* `rankBy_perm`: the result is a permutation of the input.
* `rankBy_map`: a map that the comparison does not notice can be applied before or after.
* `rankBy_pairwise`: where the comparison is a weak order, the result is ordered by it, and
  elements that precede neither way stand as they did.
* `rankBy_ascending`: by numbers that are all different, the result is in ascending order.
* `eq_or_of_find?`: the first element with a property leads all that have it.
* `rankBy_alike`: the same elements in another order are ranked alike, place by place.
-/

namespace EvidenceRank.Lists

variable {α : Type}

/-- Insert `x` into a list held from last to first. -/
def insertLast (before : α → α → Bool) (x : α) : List α → List α
  | [] => [x]
  | y :: ys => if before x y then y :: insertLast before x ys else x :: y :: ys

/-- Stable order in which `x` stands ahead of `y` when `before x y`. -/
def rankBy (before : α → α → Bool) (xs : List α) : List α :=
  (xs.foldl (fun placed x => insertLast before x placed) []).reverse

theorem insertLast_perm (before : α → α → Bool) (x : α) (ys : List α) :
    (insertLast before x ys).Perm (x :: ys) := by
  fun_induction insertLast before x ys with
  | case1 => rfl
  | case2 y ys h ih => exact (ih.cons y).trans (List.Perm.swap x y ys)
  | case3 => rfl

theorem foldl_insertLast_perm (before : α → α → Bool) (xs placed : List α) :
    (xs.foldl (fun placed x => insertLast before x placed) placed).Perm (xs ++ placed) := by
  induction xs generalizing placed with
  | nil => rfl
  | cons x xs ih =>
    refine (ih _).trans (((insertLast_perm before x placed).append_left xs).trans ?_)
    exact List.perm_middle

theorem rankBy_perm (before : α → α → Bool) (xs : List α) : (rankBy before xs).Perm xs := by
  refine (List.reverse_perm _).trans ?_
  simpa using foldl_insertLast_perm before xs []

/-! ## Images -/

theorem insertLast_map {β : Type} {f : α → β} {before : α → α → Bool} {before' : β → β → Bool}
    (h : ∀ x y, before' (f x) (f y) = before x y) (x : α) (ys : List α) :
    insertLast before' (f x) (ys.map f) = (insertLast before x ys).map f := by
  induction ys with
  | nil => rfl
  | cons y ys ih =>
    rw [List.map_cons, insertLast, insertLast, h]
    split
    · rw [ih, List.map_cons]
    · rfl

theorem foldl_insertLast_map {β : Type} {f : α → β} {before : α → α → Bool}
    {before' : β → β → Bool} (h : ∀ x y, before' (f x) (f y) = before x y)
    (xs placed : List α) :
    (xs.map f).foldl (fun placed x => insertLast before' x placed) (placed.map f) =
      (xs.foldl (fun placed x => insertLast before x placed) placed).map f := by
  induction xs generalizing placed with
  | nil => rfl
  | cons x xs ih =>
    rw [List.map_cons, List.foldl_cons, List.foldl_cons, insertLast_map h]
    exact ih _

/-- A map that the comparison does not notice can be applied before or after. -/
theorem rankBy_map {β : Type} {f : α → β} {before : α → α → Bool} {before' : β → β → Bool}
    (h : ∀ x y, before' (f x) (f y) = before x y) (xs : List α) :
    rankBy before' (xs.map f) = (rankBy before xs).map f := by
  rw [rankBy, rankBy, List.map_reverse]
  exact congrArg List.reverse (foldl_insertLast_map h xs [])

/-! ## Weak orders -/

/-- Among the elements of `xs` the comparison is a strict weak order: no two precede each other,
and what precedes an element precedes or follows any third one as that element does. -/
structure WeaklyOrders (before : α → α → Bool) (xs : List α) : Prop where
  asymm : ∀ x ∈ xs, ∀ y ∈ xs, before x y = true → before y x = false
  cotrans : ∀ x ∈ xs, ∀ y ∈ xs, ∀ z ∈ xs,
    before x z = true → before x y = true ∨ before y z = true

theorem WeaklyOrders.of_subset {before : α → α → Bool} {xs ys : List α}
    (h : WeaklyOrders before xs) (hs : ∀ y ∈ ys, y ∈ xs) : WeaklyOrders before ys where
  asymm x hx y hy := h.asymm x (hs x hx) y (hs y hy)
  cotrans x hx y hy z hz := h.cotrans x (hs x hx) y (hs y hy) z (hs z hz)

/-- `x` may stand ahead of `y`: it precedes it, or neither precedes the other and `P x y`. -/
def Leads (before : α → α → Bool) (P : α → α → Prop) (x y : α) : Prop :=
  before x y = true ∨ before y x = false ∧ P x y

/-- An element that comes later than all those placed is inserted in order. -/
theorem insertLast_pairwise {before : α → α → Bool} {P : α → α → Prop} {x : α} {ys : List α}
    (h : WeaklyOrders before (x :: ys)) (hys : ys.Pairwise fun b a => Leads before P a b)
    (hx : ∀ y ∈ ys, P y x) :
    (insertLast before x ys).Pairwise fun b a => Leads before P a b := by
  induction ys with
  | nil => exact List.pairwise_singleton _ _
  | cons y ys ih =>
    rw [List.pairwise_cons] at hys
    have hxm : x ∈ x :: y :: ys := List.mem_cons_self
    have hym : y ∈ x :: y :: ys := List.mem_cons_of_mem x List.mem_cons_self
    rw [insertLast]
    split
    · rename_i hxy
      have hsub : ∀ z ∈ x :: ys, z ∈ x :: y :: ys := by
        intro z hz
        rcases List.mem_cons.mp hz with rfl | hz
        · exact hxm
        · exact List.mem_cons_of_mem x (List.mem_cons_of_mem y hz)
      rw [List.pairwise_cons]
      refine ⟨fun z hz => ?_,
        ih (h.of_subset hsub) hys.2 fun z hz => hx z (List.mem_cons_of_mem y hz)⟩
      rcases List.mem_cons.mp ((insertLast_perm before x ys).mem_iff.mp hz) with rfl | hz
      · exact Or.inl hxy
      · exact hys.1 z hz
    · rename_i hxy
      rw [Bool.not_eq_true] at hxy
      rw [List.pairwise_cons, List.pairwise_cons]
      refine ⟨fun z hz => Or.inr ⟨?_, hx z hz⟩, hys⟩
      rcases List.mem_cons.mp hz with rfl | hz
      · exact hxy
      · -- `x` precedes `z` would put `x` ahead of `y`, or `y` ahead of `z`
        have hzm : z ∈ x :: y :: ys := List.mem_cons_of_mem x (List.mem_cons_of_mem y hz)
        cases hxz : before x z with
        | false => rfl
        | true =>
          rcases h.cotrans x hxm y hym z hzm hxz with hc | hc
          · exact absurd hc (by rw [hxy]; exact Bool.false_ne_true)
          · rcases hys.1 z hz with hzy | ⟨hyz, -⟩
            · rw [h.asymm y hym z hzm hc] at hzy
              exact absurd hzy Bool.false_ne_true
            · exact absurd hc (by rw [hyz]; exact Bool.false_ne_true)

theorem foldl_insertLast_pairwise {before : α → α → Bool} {P : α → α → Prop} {xs placed : List α}
    (h : WeaklyOrders before (xs ++ placed)) (hxs : xs.Pairwise P)
    (hplaced : placed.Pairwise fun b a => Leads before P a b)
    (hlater : ∀ x ∈ xs, ∀ y ∈ placed, P y x) :
    (xs.foldl (fun placed x => insertLast before x placed) placed).Pairwise
      fun b a => Leads before P a b := by
  induction xs generalizing placed with
  | nil => exact hplaced
  | cons x xs ih =>
    rw [List.pairwise_cons] at hxs
    have mem_insert : ∀ {z}, z ∈ insertLast before x placed → z = x ∨ z ∈ placed := fun hz =>
      List.mem_cons.mp ((insertLast_perm before x placed).mem_iff.mp hz)
    refine ih (h.of_subset fun z hz => ?_) hxs.2 (insertLast_pairwise (h.of_subset fun z hz => ?_)
      hplaced (hlater x List.mem_cons_self)) fun z hz y hy => ?_
    · rcases List.mem_append.mp hz with hz | hz
      · exact List.mem_append_left _ (List.mem_cons_of_mem x hz)
      · rcases mem_insert hz with rfl | hz
        · exact List.mem_append_left _ List.mem_cons_self
        · exact List.mem_append_right _ hz
    · rcases List.mem_cons.mp hz with rfl | hz
      · exact List.mem_append_left _ List.mem_cons_self
      · exact List.mem_append_right _ hz
    · rcases mem_insert hy with rfl | hy
      · exact hxs.1 z hz
      · exact hlater z (List.mem_cons_of_mem x hz) y hy

/-- **The order is stable**: the result is ordered by the comparison, and elements that precede
neither way keep the order `P` that they came in. -/
theorem rankBy_pairwise {before : α → α → Bool} {P : α → α → Prop} {xs : List α}
    (h : WeaklyOrders before xs) (hxs : xs.Pairwise P) :
    (rankBy before xs).Pairwise (Leads before P) := by
  rw [rankBy, List.pairwise_reverse]
  refine foldl_insertLast_pairwise (h.of_subset fun z hz => ?_) hxs List.Pairwise.nil
    fun _ _ y hy => absurd hy List.not_mem_nil
  rwa [List.append_nil] at hz

/-- No element of a ranked list precedes one that stands ahead of it. -/
theorem rankBy_ordered {before : α → α → Bool} {xs : List α} (h : WeaklyOrders before xs) :
    (rankBy before xs).Pairwise fun x y => before y x = false := by
  have hmem : ∀ {x}, x ∈ rankBy before xs → x ∈ xs := (rankBy_perm before xs).mem_iff.mp
  have htrue : xs.Pairwise fun _ _ => True := List.pairwise_of_forall fun _ _ => trivial
  refine (rankBy_pairwise h htrue).imp_of_mem fun {x y} hx hy hlead => ?_
  rcases hlead with hxy | ⟨hyx, -⟩
  · exact h.asymm x (hmem hx) y (hmem hy) hxy
  · exact hyx

/-- Of two orders of the same elements, what one has at a place does not precede what the other has
there: too few elements would stand behind it. -/
theorem not_before_of_perm {before : α → α → Bool} {xs ys : List α} (h : WeaklyOrders before xs)
    (hp : xs.Perm ys) (hxs : xs.Pairwise fun x y => before y x = false)
    (hys : ys.Pairwise fun x y => before y x = false) {k : Nat} {x y : α} (hx : xs[k]? = some x)
    (hy : ys[k]? = some y) : before x y = false := by
  cases hxy : before x y with
  | false => rfl
  | true =>
    obtain ⟨hk, rfl⟩ := List.getElem?_eq_some_iff.mp hx
    obtain ⟨hk', rfl⟩ := List.getElem?_eq_some_iff.mp hy
    have hxm : xs[k] ∈ xs := List.getElem_mem hk
    -- all of `ys` from the place on stands behind `x`
    have hback : ∀ z ∈ ys.drop k, before xs[k] z = true := by
      intro z hz
      have hzm : z ∈ xs := hp.mem_iff.mpr (List.mem_of_mem_drop hz)
      have hym : ys[k] ∈ xs := hp.mem_iff.mpr (List.getElem_mem hk')
      rw [List.drop_eq_getElem_cons hk'] at hz
      rcases List.mem_cons.mp hz with rfl | hz
      · exact hxy
      · have hdrop := hys.sublist (List.drop_sublist k ys)
        rw [List.drop_eq_getElem_cons hk', List.pairwise_cons] at hdrop
        have hzy := hdrop.1 z hz
        rcases h.cotrans _ hxm z hzm _ hym hxy with hxz | hzy'
        · exact hxz
        · exact absurd (hzy.symm.trans hzy') Bool.false_ne_true
    -- none of `xs` up to the place does
    have hfront : ∀ z ∈ xs.take (k + 1), ¬ before xs[k] z = true := by
      intro z hz hxz
      rw [List.take_succ_eq_append_getElem hk] at hz
      rcases List.mem_append.mp hz with hz | hz
      · have hsplit := hxs
        rw [← List.take_append_drop k xs, List.pairwise_append] at hsplit
        have hxd : xs[k] ∈ xs.drop k := by
          rw [List.drop_eq_getElem_cons hk]
          exact List.mem_cons_self
        exact absurd (hxz.symm.trans (hsplit.2.2 z hz _ hxd)) (by decide)
      · obtain rfl := List.mem_singleton.mp hz
        exact absurd (hxz.symm.trans (h.asymm _ hxm _ hxm hxz)) (by decide)
    have hall := List.countP_eq_length.mpr hback
    have hnone := List.countP_eq_zero.mpr hfront
    have hxscount := congrArg (List.countP (before xs[k])) (List.take_append_drop (k + 1) xs)
    have hyscount := congrArg (List.countP (before xs[k])) (List.take_append_drop k ys)
    rw [List.countP_append] at hxscount hyscount
    have hle := List.countP_le_length (p := before xs[k]) (l := xs.drop (k + 1))
    have hsame := hp.countP_eq (before xs[k])
    have hlength := hp.length_eq
    rw [List.length_drop] at hall hle
    omega

/-- **The same elements in another order are ranked alike**, place by place. -/
theorem rankBy_alike {before : α → α → Bool} {xs ys : List α} (h : WeaklyOrders before xs)
    (hp : xs.Perm ys) {k : Nat} {x y : α} (hx : (rankBy before xs)[k]? = some x)
    (hy : (rankBy before ys)[k]? = some y) : before x y = false ∧ before y x = false := by
  have hys : WeaklyOrders before ys := h.of_subset fun y hy => hp.mem_iff.mpr hy
  have hperm : (rankBy before xs).Perm (rankBy before ys) :=
    (rankBy_perm before xs).trans (hp.trans (rankBy_perm before ys).symm)
  have hxranked : WeaklyOrders before (rankBy before xs) :=
    h.of_subset fun z hz => (rankBy_perm before xs).mem_iff.mp hz
  have hyranked : WeaklyOrders before (rankBy before ys) :=
    hys.of_subset fun z hz => (rankBy_perm before ys).mem_iff.mp hz
  exact ⟨not_before_of_perm hxranked hperm (rankBy_ordered h) (rankBy_ordered hys) hx hy,
    not_before_of_perm hyranked hperm.symm (rankBy_ordered hys) (rankBy_ordered h) hy hx⟩

/-- The first element with a property stands ahead of all others that have it. -/
theorem eq_or_of_find? {R : α → α → Prop} {p : α → Bool} {xs : List α} {x : α}
    (h : xs.Pairwise R) (hx : xs.find? p = some x) {y : α} (hy : y ∈ xs) (hp : p y = true) :
    y = x ∨ R x y := by
  obtain ⟨-, front, back, rfl, hfront⟩ := List.find?_eq_some_iff_append.mp hx
  rcases List.mem_append.mp hy with hy | hy
  · have hnot := hfront y hy
    rw [hp] at hnot
    exact absurd hnot (by decide)
  · rcases List.mem_cons.mp hy with rfl | hy
    · exact Or.inl rfl
    · exact Or.inr ((List.pairwise_cons.mp (List.pairwise_append.mp h).2.1).1 y hy)

/-! ## Numbers -/

theorem WeaklyOrders.of_num (num : α → Int) (xs : List α) :
    WeaklyOrders (fun x y => num x < num y) xs where
  asymm x _ y _ h := by
    rw [decide_eq_true_eq] at h
    exact decide_eq_false (by omega)
  cotrans x _ y _ z _ h := by
    rw [decide_eq_true_eq] at h
    rw [decide_eq_true_eq, decide_eq_true_eq]
    omega

theorem rankBy_ascending {num : α → Int} {xs : List α}
    (h : xs.Pairwise fun x y => num x ≠ num y) :
    (rankBy (fun x y => num x < num y) xs).Pairwise fun x y => num x < num y := by
  refine (rankBy_pairwise (WeaklyOrders.of_num num xs) h).imp fun {x y} hlead => ?_
  rcases hlead with hlt | ⟨hlt, hne⟩
  · exact of_decide_eq_true hlt
  · have hle := of_decide_eq_false hlt
    omega

end EvidenceRank.Lists
