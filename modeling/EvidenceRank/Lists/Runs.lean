import EvidenceRank.Lists.Ranked

/-!
# Ordering by runs

The order of a list (`sort_by`) does not depend on how it is found as long as its elements can be
compared. Where some cannot, as with scores that are no numbers, the way of comparing decides.
`byRuns` is that way for long lists: the list is cut into runs, short runs are ordered from both
halves to the middle, long ones around pivots, and neighbouring runs are merged as a balanced tree
asks.

A merge of two halves meets in the middle only if the comparison does not contradict itself. Where
it does, the ordering gives up (`mergeHalves`), and with it whatever asked for the order: there is
no list that it ends with. Everything from there on up to `rankScores` has an order or none.

* `rankScores`: insertion for short lists and for lists of comparable elements, `byRuns` otherwise.
* `byRuns_perm`, `rankScores_perm`: an order is a permutation of the input.
* `rankScores_eq_none`: which lists may have none.
-/

namespace EvidenceRank.Lists

variable {α : Type}

/-! ## Merging -/

/-- Merge two runs: from the front if the first is not the longer one, else from the back. -/
def mergeRuns (before : α → α → Bool) (xs ys : List α) : List α :=
  if xs.length ≤ ys.length then xs.merge ys fun x y => !before y x
  else (xs.reverse.merge ys.reverse fun x y => before y x).reverse

theorem mergeRuns_perm (before : α → α → Bool) (xs ys : List α) :
    (mergeRuns before xs ys).Perm (xs ++ ys) := by
  simp only [mergeRuns]
  split
  · exact List.merge_perm_append _
  · exact (List.reverse_perm _).trans
      ((List.merge_perm_append _).trans ((List.reverse_perm _).append (List.reverse_perm _)))

/-- The first `n` elements of a merge, and how many of them come from either list. -/
def mergeFront (first : α → α → Bool) : Nat → List α → List α → List α × Nat × Nat
  | n + 1, x :: xs, y :: ys =>
    if first x y then
      let (zs, i, j) := mergeFront first n xs (y :: ys)
      (x :: zs, i + 1, j)
    else
      let (zs, i, j) := mergeFront first n (x :: xs) ys
      (y :: zs, i, j + 1)
  | _, _, _ => ([], 0, 0)

theorem mergeFront_perm (first : α → α → Bool) (n : Nat) (xs ys : List α) :
    let r := mergeFront first n xs ys
    r.1.Perm (xs.take r.2.1 ++ ys.take r.2.2) := by
  fun_induction mergeFront first n xs ys with
  | case1 n x xs y ys h zs i j e ih =>
    simp only [e] at ih
    simpa using ih
  | case2 n x xs y ys h zs i j e ih =>
    simp only [e] at ih
    simpa using (ih.cons y).trans List.perm_middle.symm
  | case3 => simp

/-- Merge two halves from both ends to the middle; the second is at most one element longer. If
the comparison contradicts itself so that the ends do not meet, there is no merge. -/
def mergeHalves (before : α → α → Bool) (xs ys : List α) : Option (List α) :=
  let (front, i, j) := mergeFront (fun x y => !before y x) xs.length xs ys
  let (back, k, l) := mergeFront (fun x y => before y x) xs.length xs.reverse ys.reverse
  if i + k ≤ xs.length ∧ j + l ≤ ys.length then
    some (front ++ ((xs.drop i).take (xs.length - k - i) ++ (ys.drop j).take (ys.length - l - j))
      ++ back.reverse)
  else none

/-- What stands between a front and a back that do not overlap is the rest. -/
theorem take_between_perm (xs : List α) {i k : Nat} (h : i + k ≤ xs.length) :
    (xs.take i ++ ((xs.drop i).take (xs.length - k - i) ++ xs.reverse.take k)).Perm xs := by
  have back : (xs.reverse.take k).Perm (xs.drop (xs.length - k)) := by
    rw [List.take_reverse]
    exact List.reverse_perm _
  have rest : (xs.drop i).take (xs.length - k - i) ++ xs.drop (xs.length - k) = xs.drop i := by
    have : xs.drop (xs.length - k) = (xs.drop i).drop (xs.length - k - i) := by
      rw [List.drop_drop]
      congr 1
      omega
    rw [this, List.take_append_drop]
  refine ((back.append_left _).append_left _).trans ?_
  rw [rest, List.take_append_drop]

theorem gather_perm (a b c d e f : List α) :
    ((a ++ b) ++ (c ++ d) ++ (e ++ f)).Perm ((a ++ (c ++ e)) ++ (b ++ (d ++ f))) := by
  simp only [List.append_assoc]
  refine List.Perm.append_left a ((List.perm_append_comm_assoc b c _).trans ?_)
  refine List.Perm.append_left c (((List.perm_append_comm_assoc d e f).append_left b).trans ?_)
  exact List.perm_append_comm_assoc b e _

theorem mergeHalves_perm {before : α → α → Bool} {xs ys zs : List α}
    (h : mergeHalves before xs ys = some zs) : zs.Perm (xs ++ ys) := by
  have front := mergeFront_perm (fun x y => !before y x) xs.length xs ys
  have back := mergeFront_perm (fun x y => before y x) xs.length xs.reverse ys.reverse
  simp only [mergeHalves] at h
  generalize mergeFront (fun x y => !before y x) xs.length xs ys = f at front h
  generalize mergeFront (fun x y => before y x) xs.length xs.reverse ys.reverse = b at back h
  split at h
  next hmeet =>
    obtain rfl := Option.some.inj h
    have hx := take_between_perm xs hmeet.1
    have hy := take_between_perm ys hmeet.2
    exact (((front.append_right _).append ((List.reverse_perm _).trans back)).trans
      (gather_perm _ _ _ _ _ _)).trans (hx.append hy)
  next => cases h

/-! ## Short runs -/

/-- Order four elements with five comparisons. -/
def orderFour (before : α → α → Bool) : List α → List α
  | [a, b, c, d] =>
    let (a, b) := if before b a then (b, a) else (a, b)
    let (c, d) := if before d c then (d, c) else (c, d)
    let (least, left, right, greatest) := match before c a, before d b with
      | false, false => (a, b, c, d)
      | false, true => (a, c, d, b)
      | true, false => (c, a, b, d)
      | true, true => (c, a, d, b)
    if before right left then [least, right, left, greatest] else [least, left, right, greatest]
  | xs => xs

theorem orderFour_perm (before : α → α → Bool) (xs : List α) :
    (orderFour before xs).Perm xs := by
  classical
  unfold orderFour
  split
  next a b c d =>
    refine List.perm_iff_count.2 fun x => ?_
    cases before b a <;> cases before d c <;> simp only [Bool.false_eq_true, if_true, if_false]
    all_goals (split <;> split)
    all_goals (simp only [List.count_cons, List.count_nil] <;> omega)
  next => rfl

/-- Order the first elements of a half: eight, four or one. -/
def orderFirst (before : α → α → Bool) (n : Nat) (xs : List α) : Option (List α) :=
  if n = 8 then
    mergeHalves before (orderFour before (xs.take 4)) (orderFour before (xs.drop 4))
  else if n = 4 then some (orderFour before xs)
  else some xs

/-- An order, where there is one, is a permutation. -/
def Permutes (order : List α → Option (List α)) : Prop :=
  ∀ {xs ys : List α}, order xs = some ys → ys.Perm xs

theorem orderFirst_perm (before : α → α → Bool) (n : Nat) : Permutes (orderFirst before n) := by
  intro xs ys h
  rw [orderFirst] at h
  split at h
  · refine (mergeHalves_perm h).trans
      (((orderFour_perm before _).append (orderFour_perm before _)).trans ?_)
    rw [List.take_append_drop]
  · split at h
    · exact Option.some.inj h ▸ orderFour_perm before xs
    · exact .of_eq (Option.some.inj h).symm

/-- Order a half: its first `n` elements together, the others by insertion. -/
def orderHalf (before : α → α → Bool) (n : Nat) (xs : List α) : Option (List α) := do
  let first ← orderFirst before n (xs.take n)
  return ((xs.drop n).foldl (fun placed x => insertLast before x placed) first.reverse).reverse

theorem orderHalf_perm (before : α → α → Bool) (n : Nat) : Permutes (orderHalf before n) := by
  intro xs ys h
  obtain ⟨first, hfirst, hys⟩ := Option.bind_eq_some_iff.mp h
  obtain rfl := Option.some.inj hys
  refine (List.reverse_perm _).trans ((foldl_insertLast_perm before _ _).trans ?_)
  refine (((List.reverse_perm _).trans (orderFirst_perm before n hfirst)).append_left _).trans ?_
  refine List.perm_append_comm.trans ?_
  rw [List.take_append_drop]

/-- Order a run of at most `shortRun` elements: both halves, then their merge. `lead` bounds how
many elements of a half are ordered together. -/
def orderShort (before : α → α → Bool) (lead : Nat) (xs : List α) : Option (List α) :=
  let half := xs.length / 2
  let n := if 16 ≤ xs.length && 8 ≤ lead then 8 else if 8 ≤ xs.length then 4 else 1
  if xs.length < 2 then some xs
  else do
    let left ← orderHalf before n (xs.take half)
    let right ← orderHalf before n (xs.drop half)
    mergeHalves before left right

theorem orderShort_perm (before : α → α → Bool) (lead : Nat) :
    Permutes (orderShort before lead) := by
  intro xs ys h
  simp only [orderShort] at h
  split at h
  · exact .of_eq (Option.some.inj h).symm
  · obtain ⟨left, hleft, h⟩ := Option.bind_eq_some_iff.mp h
    obtain ⟨right, hright, hmerge⟩ := Option.bind_eq_some_iff.mp h
    refine (mergeHalves_perm hmerge).trans
      (((orderHalf_perm before _ hleft).append (orderHalf_perm before _ hright)).trans ?_)
    rw [List.take_append_drop]

/-- The length up to which a run is short. -/
def shortRun : Nat := 32

/-! ## Balanced merging -/

/-- A run, and whether it is in order. -/
structure Run (α : Type) where
  items : List α
  ordered : Bool

/-- The length of the run that the list starts with, and whether it descends. -/
def leadingRun (before : α → α → Bool) : List α → Nat × Bool
  | x :: y :: rest =>
    let descending := before y x
    let steps := ((y :: rest).zip rest).takeWhile fun (a, b) => before b a == descending
    (steps.length + 2, descending)
  | xs => (xs.length, false)

/-- How long a leading run has to be to be kept as it is. -/
def keptRun (n : Nat) : Nat :=
  if n ≤ 4096 then min (n - n / 2) 64
  else
    let shift := (1 + n.log2) / 2
    (Nat.pow 2 shift + n / Nat.pow 2 shift) / 2

/-- Cut the next run off a list: a long leading run, or else a short one that `settle` orders if
`eager`, and a longer one that is left unordered if not. -/
def nextRun (before : α → α → Bool) (settle : List α → Option (List α)) (eager : Bool)
    (kept : Nat) (xs : List α) : Option (Run α) :=
  let (n, descending) := leadingRun before xs
  if kept ≤ n && kept ≤ xs.length then
    some ⟨if descending then (xs.take n).reverse else xs.take n, true⟩
  else if eager then (settle (xs.take shortRun)).map (⟨·, true⟩)
  else some ⟨xs.take kept, false⟩

theorem nextRun_perm {before : α → α → Bool} {settle : List α → Option (List α)}
    (hsettle : Permutes settle) {eager : Bool} {kept : Nat} {xs : List α} {run : Run α}
    (h : nextRun before settle eager kept xs = some run) :
    (run.items ++ xs.drop run.items.length).Perm xs := by
  have cut : ∀ {zs : List α} {n : Nat}, zs.Perm (xs.take n) →
      (zs ++ xs.drop zs.length).Perm xs := by
    intro zs n hz
    have : xs.drop zs.length = xs.drop n := by
      rw [hz.length_eq, List.length_take]
      rcases Nat.le_total n xs.length with hn | hn
      · rw [Nat.min_eq_left hn]
      · rw [Nat.min_eq_right hn, List.drop_length, List.drop_eq_nil_of_le hn]
    rw [this]
    refine (hz.append_right _).trans ?_
    rw [List.take_append_drop]
  simp only [nextRun] at h
  split at h
  · obtain rfl := Option.some.inj h
    dsimp only
    split
    · exact cut (List.reverse_perm _)
    · exact cut (List.Perm.refl _)
  · split at h
    · obtain ⟨settled, hsettled, rfl⟩ := Option.map_eq_some_iff.mp h
      exact cut (hsettle hsettled)
    · obtain rfl := Option.some.inj h
      exact cut (List.Perm.refl _)

/-- The elements of a run in order. -/
def Run.settled (settle : List α → Option (List α)) (r : Run α) : Option (List α) :=
  if r.ordered then some r.items else settle r.items

theorem Run.settled_perm {settle : List α → Option (List α)} (hsettle : Permutes settle)
    {r : Run α} {xs : List α} (h : r.settled settle = some xs) : xs.Perm r.items := by
  rw [Run.settled] at h
  split at h
  · exact .of_eq (Option.some.inj h).symm
  · exact hsettle h

/-- Join two neighbouring runs. Two unordered ones stay so. -/
def Run.join (before : α → α → Bool) (settle : List α → Option (List α)) (r s : Run α) :
    Option (Run α) :=
  if r.ordered || s.ordered then do
    let xs ← r.settled settle
    let ys ← s.settled settle
    return ⟨mergeRuns before xs ys, true⟩
  else some ⟨r.items ++ s.items, false⟩

theorem Run.join_perm {before : α → α → Bool} {settle : List α → Option (List α)}
    (hsettle : Permutes settle) {r s joined : Run α} (h : r.join before settle s = some joined) :
    joined.items.Perm (r.items ++ s.items) := by
  rw [Run.join] at h
  split at h
  · obtain ⟨xs, hxs, h⟩ := Option.bind_eq_some_iff.mp h
    obtain ⟨ys, hys, h⟩ := Option.bind_eq_some_iff.mp h
    obtain rfl := Option.some.inj h
    exact (mergeRuns_perm before _ _).trans
      ((settled_perm hsettle hxs).append (settled_perm hsettle hys))
  · obtain rfl := Option.some.inj h
    rfl

/-- The depth of the node between the runs from `left` to `mid` and from `mid` to `right` in a
balanced tree over `n` elements. -/
def nodeDepth (n left mid right : Nat) : Nat :=
  let scale := (Nat.pow 2 62 + n - 1) / n
  let v := (scale * (left + mid)) ^^^ (scale * (mid + right))
  if v = 0 then 64 else 63 - v.log2

/-- Join the last run with those before it, nearest first, whose nodes are at least so deep. -/
def collapse (before : α → α → Bool) (settle : List α → Option (List α)) (depth : Nat) :
    List (Run α × Nat) → Run α → Option (List (Run α × Nat) × Run α)
  | (r, d) :: stack, last =>
    if depth ≤ d then do
      let joined ← r.join before settle last
      collapse before settle depth stack joined
    else some ((r, d) :: stack, last)
  | [], last => some ([], last)

/-- The elements of the runs before the last one and of the last one, in order. -/
def stackItems (stack : List (Run α × Nat)) (last : Run α) : List α :=
  stack.reverse.flatMap (·.1.items) ++ last.items

theorem collapse_perm {before : α → α → Bool} {settle : List α → Option (List α)}
    (hsettle : Permutes settle) {depth : Nat} {stack left : List (Run α × Nat)} {last r : Run α}
    (h : collapse before settle depth stack last = some (left, r)) :
    (stackItems left r).Perm (stackItems stack last) := by
  induction stack generalizing last with
  | nil =>
    obtain ⟨rfl, rfl⟩ := Prod.mk.inj (Option.some.inj h)
    rfl
  | cons e stack ih =>
    rw [collapse] at h
    split at h
    · obtain ⟨joined, hjoined, h⟩ := Option.bind_eq_some_iff.mp h
      refine (ih h).trans ?_
      simp only [stackItems, List.reverse_cons, List.flatMap_append, List.flatMap_cons,
        List.flatMap_nil, List.append_nil, List.append_assoc]
      exact (Run.join_perm hsettle hjoined).append_left _
    · obtain ⟨rfl, rfl⟩ := Prod.mk.inj (Option.some.inj h)
      rfl

/-- Cut a list of `n` elements, of which `xs` are left, into runs and join them. `stack` holds the
runs before the `last` one, nearest first, each with the depth of the node behind it. -/
def joinRuns (before : α → α → Bool) (settle : List α → Option (List α)) (eager : Bool)
    (n : Nat) : Nat → List (Run α × Nat) → Run α → List α → Option (Run α)
  | 0, stack, last, xs =>
    some ⟨stackItems stack last ++ xs, false⟩
  | fuel + 1, stack, last, xs =>
    if xs.isEmpty then (collapse before settle 0 stack last).map (·.2)
    else do
      let run ← nextRun before settle eager (keptRun n) xs
      let rest := xs.drop run.items.length
      let mid := n - xs.length
      let depth := nodeDepth n (mid - last.items.length) mid (n - rest.length)
      let (stack, last) ← collapse before settle depth stack last
      joinRuns before settle eager n fuel ((last, depth) :: stack) run rest

theorem collapse_zero_fst {before : α → α → Bool} {settle : List α → Option (List α)}
    {stack left : List (Run α × Nat)} {last r : Run α}
    (h : collapse before settle 0 stack last = some (left, r)) : left = [] := by
  induction stack generalizing last with
  | nil => exact (Prod.mk.inj (Option.some.inj h)).1.symm
  | cons e stack ih =>
    rw [collapse, if_pos (Nat.zero_le e.2)] at h
    obtain ⟨joined, -, h⟩ := Option.bind_eq_some_iff.mp h
    exact ih h

theorem joinRuns_perm {before : α → α → Bool} {settle : List α → Option (List α)}
    (hsettle : Permutes settle) {eager : Bool} {n fuel : Nat} {stack : List (Run α × Nat)}
    {last joined : Run α} {xs : List α}
    (h : joinRuns before settle eager n fuel stack last xs = some joined) :
    joined.items.Perm (stackItems stack last ++ xs) := by
  induction fuel generalizing stack last xs with
  | zero =>
    obtain rfl := Option.some.inj h
    rfl
  | succ fuel ih =>
    simp only [joinRuns] at h
    split at h
    next hx =>
      obtain ⟨⟨left, r⟩, hcollapse, rfl⟩ := Option.map_eq_some_iff.mp h
      have hc := collapse_perm hsettle hcollapse
      obtain rfl := collapse_zero_fst hcollapse
      simpa [List.isEmpty_iff.1 hx, stackItems] using hc
    next hx =>
      obtain ⟨run, hrun, h⟩ := Option.bind_eq_some_iff.mp h
      obtain ⟨⟨left, r⟩, hcollapse, h⟩ := Option.bind_eq_some_iff.mp h
      refine (ih h).trans ?_
      have hc := collapse_perm hsettle hcollapse
      have hr := nextRun_perm hsettle hrun
      simp only [stackItems, List.reverse_cons, List.flatMap_append, List.flatMap_cons,
        List.flatMap_nil, List.append_nil, List.append_assoc] at hc hr ⊢
      exact (List.append_assoc _ _ _ ▸ hr.append_left _).trans
        (by simpa [List.append_assoc] using hc.append_right xs)

/-- Order a list by joining its runs. -/
def orderRuns (before : α → α → Bool) (settle : List α → Option (List α)) (eager : Bool)
    (xs : List α) : Option (List α) := do
  let n := xs.length
  let first ← nextRun before settle eager (keptRun n) xs
  let joined ← joinRuns before settle eager n n [] first (xs.drop first.items.length)
  joined.settled settle

theorem orderRuns_perm (before : α → α → Bool) {settle : List α → Option (List α)}
    (hsettle : Permutes settle) (eager : Bool) : Permutes (orderRuns before settle eager) := by
  intro xs ys h
  obtain ⟨first, hfirst, h⟩ := Option.bind_eq_some_iff.mp h
  obtain ⟨joined, hjoined, h⟩ := Option.bind_eq_some_iff.mp h
  refine (Run.settled_perm hsettle h).trans ((joinRuns_perm hsettle hjoined).trans ?_)
  simpa [stackItems] using nextRun_perm hsettle hfirst

/-! ## Pivots -/

/-- The one of three positions whose element stands between the others. -/
def middleOf (before : Nat → Nat → Bool) (a b c : Nat) : Nat :=
  if before a b == before a c then
    if before b c == before a b then b else c
  else a

/-- The middle of three positions, each taken in the same way from `n` elements behind it. -/
def middleRec (before : Nat → Nat → Bool) (n a b c : Nat) : Nat :=
  if 8 ≤ n then
    let m := n / 8
    middleOf before (middleRec before m a (a + m * 4) (a + m * 7))
      (middleRec before m b (b + m * 4) (b + m * 7)) (middleRec before m c (c + m * 4) (c + m * 7))
  else middleOf before a b c
termination_by n
decreasing_by all_goals exact Nat.div_lt_self (by omega) (by omega)

/-- The position of the pivot. -/
def pivotAt (before : α → α → Bool) (xs : List α) : Nat :=
  let items := xs.toArray
  let ahead (i j : Nat) : Bool := match items[i]?, items[j]? with
    | some x, some y => before x y
    | _, _ => false
  let n := xs.length / 8
  if xs.length < 64 then middleOf ahead 0 (n * 4) (n * 7) else middleRec ahead n 0 (n * 4) (n * 7)

/-- Those elements that go left, then the others. The element at position `p` goes left if
`pivotLeft`. -/
def splitAround (goesLeft : α → Bool) (pivotLeft : Bool) (p : Nat) (xs : List α) :
    List α × List α :=
  let marked := xs.zipIdx.map fun (x, i) => (x, if i == p then pivotLeft else goesLeft x)
  ((marked.filter (·.2)).map (·.1), (marked.filter (!·.2)).map (·.1))

theorem splitAround_perm (goesLeft : α → Bool) (pivotLeft : Bool) (p : Nat) (xs : List α) :
    let r := splitAround goesLeft pivotLeft p xs
    (r.1 ++ r.2).Perm xs := by
  simp only [splitAround, ← List.map_append]
  refine ((List.filter_append_perm _ _).map _).trans ?_
  rw [List.map_map]
  exact .of_eq (List.zipIdx_map_fst 0 xs)

/-- Order a list around pivots, at most `limit` deep. `bound` is the last pivot that all elements
stand behind. -/
def orderByPivots (before : α → α → Bool) (lead : Nat) :
    Nat → Option α → List α → Option (List α)
  | limit, bound, xs =>
    if xs.length ≤ shortRun then orderShort before lead xs
    else match limit with
      | 0 => orderRuns before (orderShort before lead) true xs
      | limit + 1 =>
        let p := pivotAt before xs
        match xs[p]? with
        | none => some xs
        | some pivot =>
          let (left, right) := splitAround (before · pivot) false p xs
          if left.isEmpty || bound.any fun b => !before b pivot then do
            let (same, right) := splitAround (fun x => !before pivot x) true p xs
            let behind ← orderByPivots before lead limit none right
            return same ++ behind
          else do
            let front ← orderByPivots before lead limit bound left
            let behind ← orderByPivots before lead limit (some pivot) right
            return front ++ behind

theorem orderByPivots_perm (before : α → α → Bool) (lead limit : Nat) (bound : Option α) :
    Permutes (orderByPivots before lead limit bound) := by
  intro xs ys h
  induction limit generalizing bound xs ys with
  | zero =>
    rw [orderByPivots] at h
    split at h
    · exact orderShort_perm before lead h
    · exact orderRuns_perm before (orderShort_perm before lead) true h
  | succ limit ih =>
    rw [orderByPivots] at h
    split at h
    · exact orderShort_perm before lead h
    · simp only at h
      split at h
      · exact .of_eq (Option.some.inj h).symm
      · split at h
        · obtain ⟨behind, hbehind, h⟩ := Option.bind_eq_some_iff.mp h
          obtain rfl := Option.some.inj h
          exact ((ih _ hbehind).append_left _).trans (splitAround_perm _ _ _ xs)
        · obtain ⟨front, hfront, h⟩ := Option.bind_eq_some_iff.mp h
          obtain ⟨behind, hbehind, h⟩ := Option.bind_eq_some_iff.mp h
          obtain rfl := Option.some.inj h
          exact ((ih _ hfront).append (ih _ hbehind)).trans (splitAround_perm _ _ _ xs)

/-- Order a list around pivots. -/
def orderAround (before : α → α → Bool) (lead : Nat) (xs : List α) : Option (List α) :=
  orderByPivots before lead (2 * xs.length.log2) none xs

theorem orderAround_perm (before : α → α → Bool) (lead : Nat) :
    Permutes (orderAround before lead) :=
  fun h => orderByPivots_perm before lead _ _ h

/-- Order a list by its runs. `lead` bounds how many elements are ordered together at first: four,
or eight if they are small. -/
def byRuns (before : α → α → Bool) (lead : Nat) (xs : List α) : Option (List α) :=
  if xs.length ≤ 2 * shortRun then orderRuns before (orderShort before lead) true xs
  else orderRuns before (orderAround before lead) false xs

theorem byRuns_perm (before : α → α → Bool) (lead : Nat) : Permutes (byRuns before lead) := by
  intro xs ys h
  rw [byRuns] at h
  split at h
  · exact orderRuns_perm before (orderShort_perm before lead) true h
  · exact orderRuns_perm before (orderAround_perm before lead) false h

/-- The length up to which a list is ordered by insertion. -/
def insertionLength : Nat := 20

/-- Stable order by scores of which some may be no numbers. -/
def rankScores (isNumber : α → Bool) (before : α → α → Bool) (lead : Nat) (xs : List α) :
    Option (List α) :=
  if xs.length ≤ insertionLength || xs.all isNumber then some (rankBy before xs)
  else byRuns before lead xs

theorem rankScores_perm (isNumber : α → Bool) (before : α → α → Bool) (lead : Nat) :
    Permutes (rankScores isNumber before lead) := by
  intro xs ys h
  rw [rankScores] at h
  split at h
  · exact Option.some.inj h ▸ rankBy_perm before xs
  · exact byRuns_perm before lead h

theorem rankScores_of_numbers {isNumber : α → Bool} {xs : List α} (h : ∀ x ∈ xs, isNumber x)
    (before : α → α → Bool) (lead : Nat) :
    rankScores isNumber before lead xs = some (rankBy before xs) := by
  simp [rankScores, List.all_eq_true.2 h]

/-- **An ordering gives up only on a long list with an element that cannot be compared.** -/
theorem rankScores_eq_none {isNumber : α → Bool} {before : α → α → Bool} {lead : Nat}
    {xs : List α} (h : rankScores isNumber before lead xs = none) :
    insertionLength < xs.length ∧ ∃ x ∈ xs, isNumber x = false := by
  rw [rankScores] at h
  split at h
  · cases h
  · rename_i hlong
    rw [Bool.or_eq_true, decide_eq_true_eq, not_or, Nat.not_le, Bool.not_eq_true,
      List.all_eq_false] at hlong
    exact hlong.imp_right fun ⟨x, hx, hnot⟩ => ⟨x, hx, (Bool.not_eq_true _).mp hnot⟩

end EvidenceRank.Lists
