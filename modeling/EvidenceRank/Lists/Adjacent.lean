import Mathlib.Data.List.Basic

/-!
# Adjacent elements

`[a, b] <:+: xs` says that `b` stands right behind `a` in `xs`, and `[a, b].Sublist xs` that it
stands somewhere behind it.

* `pair_sublist_or`, `mem_of_pair_sublist`: of two elements one stands behind the other, and what
  it stands behind is in front of it.
* `exists_front_of_infix`, `eq_of_infix`: where nothing stands twice, an element has one element
  right in front of it and one right behind it.
* `infix_of_consecutive`, `le_or_le_of_infix`: in the order of their numbers, consecutive elements
  are adjacent, and no element lies between adjacent ones.
* `infix_flatten`: elements that are adjacent in a list of pieces are so in one piece, or two
  adjacent pieces meet between them.
* `heads_sublist_flatten`: the first elements of pieces keep their order when they are put together.
* `infix_take`, `sublist_of_mem`: what stands behind an element still does so when the list is cut
  off or thinned out.
-/

namespace EvidenceRank.Lists

variable {α : Type} {a b : α} {xs ys : List α}

/-! ## One behind the other -/

theorem pair_sublist_or (ha : a ∈ xs) (hb : b ∈ xs) (hne : a ≠ b) :
    [a, b].Sublist xs ∨ [b, a].Sublist xs := by
  obtain ⟨front, back, rfl⟩ := List.append_of_mem ha
  rcases List.mem_append.mp hb with hb | hb
  · exact Or.inr ((List.singleton_sublist.mpr hb).append
      (List.singleton_sublist.mpr List.mem_cons_self))
  · have hback : b ∈ back := (List.mem_cons.mp hb).resolve_left hne.symm
    exact Or.inl (((List.singleton_sublist.mpr hback).cons_cons a).trans
      (List.sublist_append_right front _))

theorem mem_of_pair_sublist {front back : List α} (hnodup : (front ++ b :: back).Nodup)
    (h : [a, b].Sublist (front ++ b :: back)) : a ∈ front := by
  obtain ⟨init, rest, heq, hinit, hrest⟩ := List.sublist_append_iff.mp h
  rcases List.cons_eq_append_iff.mp heq with ⟨rfl, rfl⟩ | ⟨init, rfl, -⟩
  · -- then `b` stands behind itself
    have hback : b ∈ back := List.singleton_sublist.mp (by simpa using hrest.tail)
    exact absurd hback (List.nodup_cons.mp (List.nodup_append.mp hnodup).2.1).1
  · exact hinit.mem List.mem_cons_self

/-- Where nothing stands twice, an element is at one place. -/
theorem append_cons_inj {front front' back back' : List α} (hnodup : (front ++ a :: back).Nodup)
    (h : front ++ a :: back = front' ++ a :: back') : front = front' ∧ back = back' := by
  obtain ⟨-, hback, hfront⟩ := List.nodup_append.mp hnodup
  have hnot : a ∉ front := fun ha => hfront a ha a List.mem_cons_self rfl
  obtain ⟨hf, -, hb⟩ := (List.append_cons_inj_of_notMem hnot (List.nodup_cons.mp hback).1).mp h
  exact ⟨hf, hb⟩

/-- What stands right in front of an element is the last of all that is in front of it. -/
theorem exists_front_of_infix {front back : List α} (hnodup : (front ++ b :: back).Nodup)
    (h : [a, b] <:+: front ++ b :: back) : ∃ init, front = init ++ [a] := by
  obtain ⟨init, rest, heq⟩ := h
  have hsplit : front ++ b :: back = (init ++ [a]) ++ b :: rest := by
    rw [← heq]
    simp
  exact ⟨init, (append_cons_inj hnodup hsplit).1⟩

/-- One element stands right behind another. -/
theorem eq_of_infix {c : α} (hnodup : xs.Nodup) (hb : [a, b] <:+: xs) (hc : [a, c] <:+: xs) :
    b = c := by
  obtain ⟨front, back, rfl⟩ := hb
  obtain ⟨front', back', heq⟩ := hc
  have hsplit : front ++ a :: (b :: back) = front' ++ a :: (c :: back') := by
    simpa using heq.symm
  rw [List.append_assoc] at hnodup
  exact (List.cons.inj (append_cons_inj hnodup hsplit).2).1

/-! ## Right behind each other -/

theorem infix_of_consecutive {num : α → Int} (h : xs.Pairwise fun x y => num x < num y)
    (ha : a ∈ xs) (hb : b ∈ xs) (hab : num a + 1 = num b) : [a, b] <:+: xs := by
  obtain ⟨front, back, rfl⟩ := List.append_of_mem ha
  rw [List.pairwise_append, List.pairwise_cons] at h
  obtain ⟨-, ⟨hback, hsorted⟩, hfront⟩ := h
  rcases List.mem_append.mp hb with hb | hb
  · have hlt := hfront b hb a List.mem_cons_self
    omega
  rcases List.mem_cons.mp hb with rfl | hb
  · omega
  cases back with
  | nil => exact absurd hb List.not_mem_nil
  | cons next back =>
    rcases List.mem_cons.mp hb with rfl | hb
    · exact ⟨front, back, by simp⟩
    · -- the number of `next` would lie between those of `a` and `b`
      have hnext := hback next List.mem_cons_self
      have hlt := List.rel_of_pairwise_cons hsorted hb
      omega

/-- In the order of their numbers, no element lies between two adjacent ones. -/
theorem le_or_le_of_infix {num : α → Int} (h : xs.Pairwise fun x y => num x < num y)
    (hab : [a, b] <:+: xs) {c : α} (hc : c ∈ xs) : num c ≤ num a ∨ num b ≤ num c := by
  obtain ⟨front, back, rfl⟩ := hab
  rw [List.append_assoc, List.pairwise_append] at h
  obtain ⟨-, hsorted, hfront⟩ := h
  rw [List.append_assoc] at hc
  rcases List.mem_append.mp hc with hc | hc
  · exact Or.inl (Int.le_of_lt (hfront c hc a List.mem_cons_self))
  · rcases List.mem_cons.mp hc with rfl | hc
    · exact Or.inl (Int.le_refl _)
    rcases List.mem_cons.mp hc with rfl | hc
    · exact Or.inr (Int.le_refl _)
    · exact Or.inr (Int.le_of_lt ((List.pairwise_cons.mp (List.pairwise_cons.mp hsorted).2).1 c hc))

theorem infix_flatten {pieces : List (List α)} (hne : ∀ p ∈ pieces, p ≠ [])
    (h : [a, b] <:+: pieces.flatten) : (∃ p ∈ pieces, [a, b] <:+: p) ∨
      ∃ p q, [p, q] <:+: pieces ∧ p.getLast? = some a ∧ q.head? = some b := by
  induction pieces with
  | nil =>
    have hlen := h.length_le
    exact absurd hlen (by simp)
  | cons p pieces ih =>
    have further : [a, b] <:+: pieces.flatten → (∃ q ∈ p :: pieces, [a, b] <:+: q) ∨
        ∃ q q', [q, q'] <:+: p :: pieces ∧ q.getLast? = some a ∧ q'.head? = some b := by
      intro h
      rcases ih (fun q hq => hne q (List.mem_cons_of_mem p hq)) h with ⟨q, hq, h⟩ | ⟨q, q', h, hl⟩
      · exact Or.inl ⟨q, List.mem_cons_of_mem p hq, h⟩
      · exact Or.inr ⟨q, q', List.infix_cons h, hl⟩
    rw [List.flatten_cons, List.infix_append_iff] at h
    rcases h with h | h | ⟨front, back, heq, hfront, hback⟩
    · exact Or.inl ⟨p, List.mem_cons_self, h⟩
    · exact further h
    rcases List.cons_eq_append_iff.mp heq with ⟨rfl, rfl⟩ | ⟨front, rfl, hb⟩
    · exact further hback.isInfix
    rcases List.cons_eq_append_iff.mp hb with ⟨rfl, rfl⟩ | ⟨front, rfl, hnil⟩
    · -- `p` ends with `a`, and the next piece, which is not empty, starts with `b`
      obtain ⟨init, rfl⟩ := hfront
      obtain ⟨rest, hrest⟩ := hback
      cases pieces with
      | nil => exact absurd hrest (by simp)
      | cons q pieces =>
        obtain ⟨c, q', rfl⟩ := List.exists_cons_of_ne_nil (hne q (by simp))
        obtain rfl : b = c := (List.cons.inj hrest).1
        exact Or.inr ⟨_, _, ⟨[], pieces, rfl⟩, by simp, rfl⟩
    · obtain ⟨rfl, rfl⟩ := List.append_eq_nil_iff.mp hnil.symm
      exact Or.inl ⟨p, List.mem_cons_self, hfront.isInfix⟩

/-- The first elements of pieces keep their order when the pieces are put together. -/
theorem heads_sublist_flatten (pieces : List (List α)) :
    (pieces.filterMap List.head?).Sublist pieces.flatten := by
  induction pieces with
  | nil => exact List.Sublist.refl []
  | cons p pieces ih =>
    rw [List.flatten_cons]
    cases p with
    | nil => exact ih
    | cons x p => exact (ih.trans (List.sublist_append_right p _)).cons_cons x

/-! ## Parts of a list -/

theorem infix_take (hnodup : xs.Nodup) (h : [a, b] <:+: xs) {n : Nat} (hb : b ∈ xs.take n) :
    [a, b] <:+: xs.take n := by
  obtain ⟨front, back, rfl⟩ := h
  by_cases hn : (front ++ [a, b]).length ≤ n
  · rw [List.take_append, List.take_of_length_le hn]
    exact ⟨front, _, rfl⟩
  · -- then what is taken ends before `b`
    have hsplit : front ++ [a, b] ++ back = (front ++ [a]) ++ b :: back := by simp
    have hle : n ≤ (front ++ [a]).length := by
      rw [List.length_append] at hn ⊢
      simp only [List.length_cons, List.length_nil] at hn ⊢
      omega
    rw [hsplit, List.take_append_of_le_length hle] at hb
    rw [hsplit] at hnodup
    exact absurd rfl ((List.nodup_append.mp hnodup).2.2 b (List.mem_of_mem_take hb) b
      List.mem_cons_self)

/-- Where nothing stands twice, two elements do not stand behind each other. -/
theorem not_sublist_swap (hnodup : xs.Nodup) (h : [a, b].Sublist xs) : ¬ [b, a].Sublist xs := by
  intro hswap
  obtain ⟨front, back, rfl, hfront, hback⟩ : ∃ front back, xs = front ++ back ∧
      [a].Sublist front ∧ [b].Sublist back := List.append_sublist_iff.mp h
  obtain ⟨-, -, hapart⟩ := List.nodup_append.mp hnodup
  have ha := List.singleton_sublist.mp hfront
  have hb := List.singleton_sublist.mp hback
  obtain ⟨l, r, heq, hl, hr⟩ := List.sublist_append_iff.mp hswap
  rcases List.cons_eq_append_iff.mp heq with ⟨rfl, rfl⟩ | ⟨l, rfl, -⟩
  · exact hapart a ha a (hr.mem (by simp)) rfl
  · exact hapart b (hl.mem List.mem_cons_self) b hb rfl

theorem sublist_of_mem (hnodup : xs.Nodup) (hsub : ys.Sublist xs) (h : [a, b].Sublist xs)
    (ha : a ∈ ys) (hb : b ∈ ys) : [a, b].Sublist ys := by
  obtain ⟨front, back, rfl⟩ := List.append_of_mem ha
  have behind : ∀ {c d : α}, c ∈ front → d ∈ a :: back → [c, d].Sublist (front ++ a :: back) :=
    fun hc hd => (List.singleton_sublist.mpr hc).append (List.singleton_sublist.mpr hd)
  rcases List.mem_append.mp hb with hb | hb
  · exact absurd ((behind hb List.mem_cons_self).trans hsub) (not_sublist_swap hnodup h)
  rcases List.mem_cons.mp hb with rfl | hb
  · exact absurd h (not_sublist_swap hnodup h)
  · exact ((List.singleton_sublist.mpr hb).cons_cons a).trans (List.sublist_append_right front _)

end EvidenceRank.Lists
