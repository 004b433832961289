import EvidenceRank.Lists.Distinct
import Mathlib.Data.List.Forall2
import Mathlib.Data.List.Induction

/-!
# Places of first occurrences

`FirstAt key xs i x` says where in a list a key comes first, and `KeepsFirsts key xs left` that
`left` are the elements at all such places. Where equal elements stand at several places, this tells
which of them is left, which the elements alone do not.

* `eq_of_places`: what is taken from the places of a list is told by the places.
* `firstAt_concat`: a further element is the first of its key, or no place is added.
* `exists_firstAt_of_find?`: what a search for a key finds stands at such a place.
* `keepsFirsts_iff`: the elements that are kept are those that `distinctBy` leaves.
-/

namespace EvidenceRank.Lists

variable {α κ : Type} {key : α → κ} {xs left left' : List α} {x y : α} {i : Nat}

/-- `x` stands at place `i`, and nothing ahead of it has its key. -/
def FirstAt (key : α → κ) (xs : List α) (i : Nat) (x : α) : Prop :=
  xs[i]? = some x ∧ ∀ y ∈ xs.take i, key y ≠ key x

/-- `left` are the elements at all places where a key comes first, in the order of the places. -/
def KeepsFirsts (key : α → κ) (xs left : List α) : Prop :=
  ∃ places : List Nat, places.Pairwise (· < ·) ∧ (∀ i, i ∈ places ↔ ∃ x, FirstAt key xs i x) ∧
    List.Forall₂ (FirstAt key xs) places left

/-! ## Elements and their places -/

/-- Elements that are taken from the same places, in one order, are the same. -/
theorem eq_of_places {ι : Type} {before : ι → ι → Prop} {At : ι → α → Prop}
    (hasymm : ∀ i j, before i j → ¬ before j i) (hunique : Relator.RightUnique At)
    {places places' : List ι} (hplaces : places.Pairwise before)
    (hplaces' : places'.Pairwise before) (hmem : ∀ i, i ∈ places ↔ i ∈ places')
    (hleft : List.Forall₂ At places left) (hleft' : List.Forall₂ At places' left') :
    left = left' := by
  have hnodup {is : List ι} (his : is.Pairwise before) : is.Nodup :=
    his.imp fun hij heq => by
      subst heq
      exact hasymm _ _ hij hij
  have hperm : places.Perm places' :=
    (List.perm_ext_iff_of_nodup (hnodup hplaces) (hnodup hplaces')).mpr hmem
  have hsame : places = places' :=
    hperm.eq_of_pairwise (fun i j _ _ hij hji => absurd hji (hasymm i j hij)) hplaces hplaces'
  rw [← hsame] at hleft'
  exact List.right_unique_forall₂' hunique hleft hleft'

theorem FirstAt.lt_length (h : FirstAt key xs i x) : i < xs.length :=
  (List.getElem?_eq_some_iff.mp h.1).1

theorem FirstAt.unique (h : FirstAt key xs i x) (h' : FirstAt key xs i y) : x = y :=
  Option.some.inj (h.1.symm.trans h'.1)

/-- **One more element** is the first of its key, or no place is added. -/
theorem firstAt_concat : FirstAt key (xs ++ [x]) i y ↔
    FirstAt key xs i y ∨ i = xs.length ∧ y = x ∧ key x ∉ xs.map key := by
  unfold FirstAt
  rcases Nat.lt_trichotomy i xs.length with hi | rfl | hi
  · rw [List.getElem?_append_left hi, List.take_append_of_le_length (Nat.le_of_lt hi)]
    simp [Nat.ne_of_lt hi]
  · have hnone : xs[xs.length]? = none := List.getElem?_eq_none (Nat.le_refl _)
    have hlast : (xs ++ [x])[xs.length]? = some x := List.getElem?_concat_length
    rw [hnone, hlast, List.take_append_of_le_length (Nat.le_refl _), List.take_length]
    constructor
    · rintro ⟨heq, hnew⟩
      obtain rfl := Option.some.inj heq
      exact Or.inr ⟨rfl, rfl, by simpa using hnew⟩
    · rintro (⟨heq, -⟩ | ⟨-, rfl, hnew⟩)
      · cases heq
      · exact ⟨rfl, by simpa using hnew⟩
  · have hlen : (xs ++ [x]).length ≤ i := by
      rw [List.length_append, List.length_singleton]
      exact hi
    rw [List.getElem?_eq_none hlen, List.getElem?_eq_none (Nat.le_of_lt hi)]
    simp [Nat.ne_of_gt hi]

/-- What a search for a key finds comes first with it. -/
theorem exists_firstAt_of_find? [BEq κ] [LawfulBEq κ] {k : κ}
    (h : xs.find? (fun y => key y == k) = some x) : ∃ i, FirstAt key xs i x ∧ key x = k := by
  obtain ⟨hx, front, back, rfl, hfront⟩ := List.find?_eq_some_iff_append.mp h
  obtain rfl := beq_iff_eq.mp hx
  refine ⟨front.length, ⟨by simp, fun y hy => ?_⟩, rfl⟩
  rw [List.take_left] at hy
  simpa using hfront y hy

/-! ## All places -/

theorem KeepsFirsts.unique (h : KeepsFirsts key xs left) (h' : KeepsFirsts key xs left') :
    left = left' := by
  obtain ⟨places, hascending, hmem, hitems⟩ := h
  obtain ⟨places', hascending', hmem', hitems'⟩ := h'
  have hunique : Relator.RightUnique (FirstAt key xs) := fun _ _ _ hx hy => hx.unique hy
  exact eq_of_places (fun _ _ => Nat.lt_asymm) hunique hascending hascending'
    (fun i => (hmem i).trans (hmem' i).symm) hitems hitems'

/-- Behind elements of the same key a further one is dropped. -/
theorem KeepsFirsts.concat_old (h : KeepsFirsts key xs left) (hold : key x ∈ xs.map key) :
    KeepsFirsts key (xs ++ [x]) left := by
  obtain ⟨places, hascending, hmem, hitems⟩ := h
  have hsame : ∀ {i y}, FirstAt key (xs ++ [x]) i y ↔ FirstAt key xs i y := by
    intro i y
    rw [firstAt_concat, or_iff_left fun h => h.2.2 hold]
  refine ⟨places, hascending, fun i => ?_, hitems.imp fun i y h => hsame.mpr h⟩
  rw [hmem i]
  exact exists_congr fun y => hsame.symm

/-- The first element of its key is kept. -/
theorem KeepsFirsts.concat_new (h : KeepsFirsts key xs left) (hnew : key x ∉ xs.map key) :
    KeepsFirsts key (xs ++ [x]) (left ++ [x]) := by
  obtain ⟨places, hascending, hmem, hitems⟩ := h
  have hlast : FirstAt key (xs ++ [x]) xs.length x := firstAt_concat.mpr (Or.inr ⟨rfl, rfl, hnew⟩)
  refine ⟨places ++ [xs.length], ?ascending, fun i => ?mem, ?items⟩
  case ascending =>
    refine List.pairwise_append.mpr ⟨hascending, List.pairwise_singleton _ _, fun i hi j hj => ?_⟩
    obtain ⟨y, hy⟩ := (hmem i).mp hi
    rw [List.mem_singleton.mp hj]
    exact hy.lt_length
  case mem =>
    rw [List.mem_append, hmem i, List.mem_singleton]
    constructor
    · rintro (⟨y, hy⟩ | rfl)
      · exact ⟨y, firstAt_concat.mpr (Or.inl hy)⟩
      · exact ⟨x, hlast⟩
    · rintro ⟨y, hy⟩
      exact (firstAt_concat.mp hy).imp (⟨y, ·⟩) (·.1)
  case items =>
    exact List.rel_append (hitems.imp fun i y h => firstAt_concat.mpr (Or.inl h))
      (.cons hlast .nil)

variable [BEq κ] [LawfulBEq κ]

theorem distinctBy_keepsFirsts (key : α → κ) (xs : List α) :
    KeepsFirsts key xs (distinctBy key xs) := by
  induction xs using List.reverseRecOn with
  | nil => exact ⟨[], .nil, fun i => by simp [FirstAt], .nil⟩
  | append_singleton xs x ih =>
    have hlast : distinctBy key [x] = [x] := rfl
    rw [distinctBy_append, hlast]
    by_cases hx : key x ∈ xs.map key
    · rw [List.filter_cons_of_neg (by simpa using hx), List.filter_nil, List.append_nil]
      exact ih.concat_old hx
    · rw [List.filter_cons_of_pos (by simpa using hx), List.filter_nil]
      exact ih.concat_new hx

/-- **What is kept are the elements at the places of first occurrence, and all of them.** -/
theorem keepsFirsts_iff : KeepsFirsts key xs left ↔ left = distinctBy key xs := by
  constructor
  · intro h
    exact h.unique (distinctBy_keepsFirsts key xs)
  · rintro rfl
    exact distinctBy_keepsFirsts key xs

end EvidenceRank.Lists
