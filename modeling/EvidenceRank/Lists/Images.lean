import EvidenceRank.Lists.Runs

/-!
# Ordering images

What an ordering does is told by its comparisons: where a map `f` keeps them, a list can be mapped
before it is ordered or after. No law is asked of the comparison, so this holds as well where some
elements cannot be compared and the way of comparing decides.

Each step of `byRuns` has its lemma, in the order of the steps; a decision of the algorithm is the
same for a list and for its image (`leadingRun_map`, `pivotAt_map`), and whatever it builds is
mapped.

* `byRuns_map`, `rankScores_map`: the order of the images is the image of the order, and there is
  none where there is none of the list.
-/

namespace EvidenceRank.Lists

variable {α β : Type} {f : α → β} {before : α → α → Bool} {before' : β → β → Bool}

/-- Steps that may give up keep images if each of them does. -/
theorem bind_map {γ δ γ' δ' : Type} {g : γ → γ'} {k : δ → δ'} {x : Option γ} {x' : Option γ'}
    {next : γ → Option δ} {next' : γ' → Option δ'} (hx : x' = x.map g)
    (hnext : ∀ a, next' (g a) = (next a).map k) : x' >>= next' = (x >>= next).map k := by
  rw [hx]
  cases x with
  | none => rfl
  | some a => exact hnext a

section
variable (h : ∀ x y, before' (f x) (f y) = before x y)
include h

/-! ## Merging -/

theorem mergeRuns_map (xs ys : List α) :
    mergeRuns before' (xs.map f) (ys.map f) = (mergeRuns before xs ys).map f := by
  unfold mergeRuns
  rw [List.length_map, List.length_map]
  split
  · exact (List.map_merge fun x _ y _ => congrArg (!·) (h y x).symm).symm
  · have hmerge : (xs.reverse.merge ys.reverse fun x y => before y x).map f =
        (xs.reverse.map f).merge (ys.reverse.map f) fun x y => before' y x :=
      List.map_merge fun x _ y _ => (h y x).symm
    rw [List.map_reverse, hmerge, List.map_reverse, List.map_reverse]

omit h in
theorem mergeFront_map {first : α → α → Bool} {first' : β → β → Bool}
    (hfirst : ∀ x y, first' (f x) (f y) = first x y) (n : Nat) (xs ys : List α) :
    mergeFront first' n (xs.map f) (ys.map f) =
      ((mergeFront first n xs ys).1.map f, (mergeFront first n xs ys).2) := by
  fun_induction mergeFront first n xs ys with
  | case1 n x xs y ys hxy zs i j e ih =>
    rw [e, List.map_cons] at ih
    rw [List.map_cons, List.map_cons, mergeFront, hfirst, if_pos hxy, ih]
    rfl
  | case2 n x xs y ys hxy zs i j e ih =>
    rw [e, List.map_cons] at ih
    rw [List.map_cons, List.map_cons, mergeFront, hfirst, if_neg hxy, ih]
    rfl
  | case3 n xs ys hne =>
    rw [mergeFront]
    · rfl
    · intro n' y ys' x xs' hn hxs hys
      obtain ⟨a, as, rfl, -, -⟩ := List.map_eq_cons_iff.mp hxs
      obtain ⟨b, bs, rfl, -, -⟩ := List.map_eq_cons_iff.mp hys
      exact hne _ _ _ _ _ hn rfl rfl

theorem mergeHalves_map (xs ys : List α) :
    mergeHalves before' (xs.map f) (ys.map f) = (mergeHalves before xs ys).map (List.map f) := by
  unfold mergeHalves
  rw [List.length_map, List.length_map, ← List.map_reverse, ← List.map_reverse,
    mergeFront_map fun x y => congrArg (!·) (h y x), mergeFront_map fun x y => h y x]
  simp only
  split
  · simp only [Option.map_some, List.map_append, List.map_take, List.map_drop, List.map_reverse]
  · rfl

/-! ## Short runs -/

theorem orderFour_map (xs : List α) :
    orderFour before' (xs.map f) = (orderFour before xs).map f := by
  match xs with
  | [a, b, c, d] =>
    simp only [List.map_cons, List.map_nil, orderFour, h]
    cases before b a <;> cases before d c <;> simp only [Bool.false_eq_true, if_true, if_false, h]
    all_goals (split <;> simp only [h] <;> split <;> rfl)
  | [] | [_] | [_, _] | [_, _, _] | _ :: _ :: _ :: _ :: _ :: _ => rfl

theorem orderFirst_map (n : Nat) (xs : List α) :
    orderFirst before' n (xs.map f) = (orderFirst before n xs).map (List.map f) := by
  unfold orderFirst
  split
  · rw [← List.map_take, ← List.map_drop, orderFour_map h, orderFour_map h, mergeHalves_map h]
  · split
    · exact congrArg some (orderFour_map h xs)
    · rfl

theorem orderHalf_map (n : Nat) (xs : List α) :
    orderHalf before' n (xs.map f) = (orderHalf before n xs).map (List.map f) := by
  unfold orderHalf
  rw [← List.map_take, ← List.map_drop, orderFirst_map h]
  cases orderFirst before n (xs.take n) with
  | none => rfl
  | some first =>
    refine congrArg some ?_
    rw [← List.map_reverse, foldl_insertLast_map h, List.map_reverse]

theorem orderShort_map (lead : Nat) (xs : List α) :
    orderShort before' lead (xs.map f) = (orderShort before lead xs).map (List.map f) := by
  unfold orderShort
  rw [List.length_map]
  simp only
  split
  · rfl
  · rw [← List.map_take, ← List.map_drop]
    refine bind_map (orderHalf_map h _ _) fun left => ?_
    exact bind_map (orderHalf_map h _ _) fun right => mergeHalves_map h left right

/-! ## Runs -/

/-- The image of a run. -/
def Run.map (f : α → β) (r : Run α) : Run β := ⟨r.items.map f, r.ordered⟩

theorem leadingRun_map (xs : List α) : leadingRun before' (xs.map f) = leadingRun before xs := by
  match xs with
  | [] => rfl
  | [x] => rfl
  | x :: y :: rest =>
    have hpairs : (f y :: rest.map f).zip (rest.map f) =
        ((y :: rest).zip rest).map (Prod.map f f) := by
      rw [← List.map_cons, List.zip_map]
    rw [List.map_cons, List.map_cons, leadingRun, leadingRun, hpairs, List.takeWhile_map,
      List.length_map, h]
    refine congrArg (fun step => ((((y :: rest).zip rest).takeWhile step).length + 2, before y x))
      (funext fun p => ?_)
    exact congrArg (· == before y x) (h p.2 p.1)

section Settled
variable {settle : List α → Option (List α)} {settle' : List β → Option (List β)}
  (hsettle : ∀ xs, settle' (xs.map f) = (settle xs).map (List.map f))
include hsettle

theorem nextRun_map (eager : Bool) (kept : Nat) (xs : List α) :
    nextRun before' settle' eager kept (xs.map f) =
      (nextRun before settle eager kept xs).map (Run.map f) := by
  unfold nextRun
  simp only [leadingRun_map h, List.length_map, ← List.map_take, hsettle]
  split
  · split
    · exact congrArg (fun items => some (Run.mk items true)) List.map_reverse.symm
    · rfl
  · split
    · rw [Option.map_map, Option.map_map]
      rfl
    · rfl

omit h in
theorem settled_map (r : Run α) :
    (r.map f).settled settle' = (r.settled settle).map (List.map f) := by
  unfold Run.settled Run.map
  split
  · rfl
  · exact hsettle r.items

theorem join_map (r s : Run α) :
    (r.map f).join before' settle' (s.map f) = (r.join before settle s).map (Run.map f) := by
  have hordered : ((r.map f).ordered || (s.map f).ordered) = (r.ordered || s.ordered) := rfl
  unfold Run.join
  rw [hordered]
  split
  · refine bind_map (settled_map hsettle r) fun xs => bind_map (settled_map hsettle s) fun ys => ?_
    exact congrArg (fun items => some (Run.mk items true)) (mergeRuns_map h xs ys)
  · exact congrArg (fun items => some (Run.mk items false)) List.map_append.symm

theorem collapse_map (depth : Nat) (stack : List (Run α × Nat)) (last : Run α) :
    collapse before' settle' depth (stack.map (Prod.map (Run.map f) id)) (last.map f) =
      (collapse before settle depth stack last).map
        (Prod.map (List.map (Prod.map (Run.map f) id)) (Run.map f)) := by
  induction stack generalizing last with
  | nil => rfl
  | cons e stack ih =>
    rw [List.map_cons, collapse]
    show (if depth ≤ e.2 then (e.1.map f).join before' settle' _ >>=
      collapse before' settle' depth _ else _) = _
    rw [collapse]
    split
    · exact bind_map (join_map h hsettle e.1 last) fun joined => ih joined
    · rfl

omit h hsettle in
theorem stackItems_map (stack : List (Run α × Nat)) (last : Run α) :
    stackItems (stack.map (Prod.map (Run.map f) id)) (last.map f) =
      (stackItems stack last).map f := by
  unfold stackItems
  rw [List.map_append, ← List.map_reverse, List.flatMap_map, List.map_flatMap]
  rfl

theorem joinRuns_map (eager : Bool) (n fuel : Nat) (stack : List (Run α × Nat)) (last : Run α)
    (xs : List α) :
    joinRuns before' settle' eager n fuel (stack.map (Prod.map (Run.map f) id)) (last.map f)
        (xs.map f) =
      (joinRuns before settle eager n fuel stack last xs).map (Run.map f) := by
  have hlength : ∀ r : Run α, (r.map f).items.length = r.items.length := fun r => List.length_map f
  induction fuel generalizing stack last xs with
  | zero =>
    rw [joinRuns, joinRuns, stackItems_map, ← List.map_append]
    rfl
  | succ fuel ih =>
    rw [joinRuns, joinRuns, List.isEmpty_map]
    split
    · rw [collapse_map h hsettle, Option.map_map, Option.map_map]
      rfl
    · refine bind_map (nextRun_map h hsettle eager _ xs) fun run => ?_
      simp only [hlength, ← List.map_drop, List.length_map]
      exact bind_map (collapse_map h hsettle _ stack last) fun p => ih ((p.2, _) :: p.1) run _

theorem orderRuns_map (eager : Bool) (xs : List α) :
    orderRuns before' settle' eager (xs.map f) =
      (orderRuns before settle eager xs).map (List.map f) := by
  have hlength : ∀ r : Run α, (r.map f).items.length = r.items.length := fun r => List.length_map f
  unfold orderRuns
  simp only [List.length_map]
  refine bind_map (nextRun_map h hsettle eager _ xs) fun first => ?_
  rw [hlength, ← List.map_drop]
  exact bind_map (joinRuns_map h hsettle eager xs.length xs.length [] first _)
    fun joined => settled_map hsettle joined

end Settled

/-! ## Pivots -/

theorem pivotAt_map (xs : List α) : pivotAt before' (xs.map f) = pivotAt before xs := by
  unfold pivotAt
  rw [List.length_map]
  refine congrArg (fun ahead => if xs.length < 64 then
      middleOf ahead 0 (xs.length / 8 * 4) (xs.length / 8 * 7)
    else middleRec ahead (xs.length / 8) 0 (xs.length / 8 * 4) (xs.length / 8 * 7))
    (funext fun i => funext fun j => ?_)
  rw [List.getElem?_toArray, List.getElem?_toArray, List.getElem?_map, List.getElem?_map,
    List.getElem?_toArray, List.getElem?_toArray]
  cases xs[i]? with
  | none => rfl
  | some x =>
    cases xs[j]? with
    | none => rfl
    | some y => exact h x y

omit h in
theorem splitAround_map {goesLeft : α → Bool} (goesLeft' : β → Bool)
    (hleft : ∀ x, goesLeft' (f x) = goesLeft x) (pivotLeft : Bool) (p : Nat) (xs : List α) :
    splitAround goesLeft' pivotLeft p (xs.map f) =
      Prod.map (List.map f) (List.map f) (splitAround goesLeft pivotLeft p xs) := by
  unfold splitAround
  simp only [List.zipIdx_map, List.map_map, List.filter_map, Function.comp_def, Prod.map,
    hleft, id]

theorem orderByPivots_map (lead limit : Nat) (bound : Option α) (xs : List α) :
    orderByPivots before' lead limit (bound.map f) (xs.map f) =
      (orderByPivots before lead limit bound xs).map (List.map f) := by
  induction limit generalizing bound xs with
  | zero =>
    rw [orderByPivots, orderByPivots, List.length_map]
    split
    · exact orderShort_map h lead xs
    · exact orderRuns_map h (orderShort_map h lead) true xs
  | succ limit ih =>
    rw [orderByPivots, orderByPivots, List.length_map]
    split
    · exact orderShort_map h lead xs
    · simp only [pivotAt_map h, List.getElem?_map]
      cases xs[pivotAt before xs]? with
      | none => rfl
      | some pivot =>
        have hbound : ((bound.map f).any fun b => !before' b (f pivot)) =
            bound.any fun b => !before b pivot := by
          cases bound with
          | none => rfl
          | some b => exact congrArg (!·) (h b pivot)
        have hbelow := splitAround_map (before' · (f pivot)) (fun x => h x pivot) false
          (pivotAt before xs) xs
        have hsame := splitAround_map (fun y => !before' (f pivot) y)
          (fun x => congrArg (!·) (h pivot x)) true (pivotAt before xs) xs
        simp only [Option.map_some, hbelow, hsame, hbound, Prod.map_fst, Prod.map_snd,
          List.isEmpty_map]
        split
        · refine bind_map (ih none _) fun behind => ?_
          exact congrArg some List.map_append.symm
        · refine bind_map (ih bound _) fun front => bind_map (ih (some pivot) _) fun behind => ?_
          exact congrArg some List.map_append.symm

theorem orderAround_map (lead : Nat) (xs : List α) :
    orderAround before' lead (xs.map f) = (orderAround before lead xs).map (List.map f) := by
  unfold orderAround
  rw [List.length_map]
  exact orderByPivots_map h lead _ none xs

/-! ## Orders -/

/-- **The order of the images is the image of the order**, also by runs. -/
theorem byRuns_map (lead : Nat) (xs : List α) :
    byRuns before' lead (xs.map f) = (byRuns before lead xs).map (List.map f) := by
  unfold byRuns
  rw [List.length_map]
  split
  · exact orderRuns_map h (orderShort_map h lead) true xs
  · exact orderRuns_map h (orderAround_map h lead) false xs

theorem rankScores_map {isNumber : α → Bool} {isNumber' : β → Bool}
    (hnumber : ∀ x, isNumber' (f x) = isNumber x) (lead : Nat) (xs : List α) :
    rankScores isNumber' before' lead (xs.map f) =
      (rankScores isNumber before lead xs).map (List.map f) := by
  have hall : (xs.map f).all isNumber' = xs.all isNumber := by
    rw [List.all_map]
    exact congrArg xs.all (funext hnumber)
  unfold rankScores
  rw [List.length_map, hall]
  split
  · exact congrArg some (rankBy_map h xs)
  · exact byRuns_map h lead xs

end

end EvidenceRank.Lists
