import EvidenceRank.Citation

/-!
# Arranged slices

What becomes of the slices of one document. Trimming drops some of them, connecting cuts what is
left into runs, and taking as many as the budget allows cuts the tail off; no step invents or
repeats a slice, and trimming stops before it falls below the budget.

Results:
* `flatten_runs`: runs are the slices that they were cut from.
* `windows_perm`: the runs of slices with their ranks hold each of them once.
* `connected_perm`, `connect_eq_take`: connecting is a permutation, of which the budget is taken.
* `length_arrange`: the budget is used up, or every slice is there.
* `arrange_perm`: the slices are those that are cited, with some others.
-/

namespace EvidenceRank.Citation

variable {σ α β : Type}

/-! ## Runs -/

theorem flatten_runsFrom (head : Placed σ) (run slices : List (Placed σ)) :
    (runsFrom head run slices).flatten = run.reverse ++ slices := by
  induction slices generalizing head run with
  | nil => rw [runsFrom, List.flatten_singleton, List.append_nil]
  | cons s slices ih =>
    rw [runsFrom]
    split
    · rw [ih, List.reverse_cons, List.append_assoc, List.singleton_append]
    · rw [List.flatten_cons, ih]
      rfl

theorem flatten_runs (slices : List (Placed σ)) : (runs slices).flatten = slices := by
  cases slices with
  | nil => rfl
  | cons s slices =>
    rw [runs, flatten_runsFrom]
    rfl

/-! ## Connecting -/

/-- The slices with their ranks. -/
def placed (slices : List (CitedSlice σ)) : List (Placed σ) :=
  (List.range slices.length).zip slices

/-- The slices with their ranks in the order of their numbers. -/
def byNumber (slices : List (CitedSlice σ)) : List (Placed σ) :=
  Lists.rankBy (fun a b => a.2.no.toInt < b.2.no.toInt) (placed slices)

/-- The runs of the slices, best run first. -/
def windows (slices : List (CitedSlice σ)) : List (List (Placed σ)) :=
  Lists.rankBy (fun a b => runRank a < runRank b) (runs (byNumber slices))

theorem connect_eq (max : Nat) (slices : List (CitedSlice σ)) :
    connect max slices = ((windows slices).flatten.take max).map (·.2) := rfl

theorem map_placed (slices : List (CitedSlice σ)) : (placed slices).map (·.2) = slices :=
  List.map_snd_zip (Nat.le_of_eq List.length_range.symm)

theorem windows_perm (slices : List (CitedSlice σ)) :
    (windows slices).flatten.Perm (placed slices) := by
  refine (Lists.rankBy_perm _ _).flatten.trans ?_
  rw [flatten_runs]
  exact Lists.rankBy_perm _ _

/-- The slices in windows, before the budget cuts them off. -/
def connected (slices : List (CitedSlice σ)) : List (CitedSlice σ) :=
  (windows slices).flatten.map (·.2)

theorem connected_perm (slices : List (CitedSlice σ)) : (connected slices).Perm slices := by
  have h := (windows_perm slices).map (·.2)
  rwa [map_placed] at h

/-- **Connecting loses no slice but for the budget.** -/
theorem connect_eq_take (max : Nat) (slices : List (CitedSlice σ)) :
    connect max slices = (connected slices).take max := by
  rw [connect_eq]
  exact List.map_take

/-! ## Trimming -/

theorem trimFrom_sublist (max i : Nat) (slices : List (CitedSlice σ)) :
    (trimFrom max i slices).Sublist slices := by
  induction i generalizing slices with
  | zero => exact List.Sublist.refl _
  | succ i ih =>
    rw [trimFrom]
    split
    · exact List.Sublist.refl _
    · cases slices[i]? with
      | none => exact ih slices
      | some s =>
        by_cases h : isolated slices s = true
        · simp only [h, if_true]
          exact (ih _).trans (List.eraseIdx_sublist slices i)
        · simp only [h]
          exact ih slices

/-- Trimming never goes below the budget. -/
theorem le_length_trimFrom (max i : Nat) (slices : List (CitedSlice σ))
    (h : max ≤ slices.length) : max ≤ (trimFrom max i slices).length := by
  induction i generalizing slices with
  | zero => exact h
  | succ i ih =>
    rw [trimFrom]
    split
    · exact h
    · rename_i hmore
      cases slices[i]? with
      | none => exact ih slices h
      | some s =>
        by_cases hs : isolated slices s = true
        · simp only [hs, if_true]
          refine ih _ ?_
          rw [List.length_eraseIdx]
          split <;> omega
        · simp only [hs]
          exact ih slices h

theorem trimFrom_of_le {max i : Nat} {slices : List (CitedSlice σ)} (h : slices.length ≤ max) :
    trimFrom max i slices = slices := by
  cases i with
  | zero => rfl
  | succ i => rw [trimFrom, if_pos h]

theorem min_length_trimTail (max : Nat) (slices : List (CitedSlice σ)) :
    min max (trimTail max slices).length = min max slices.length := by
  unfold trimTail
  by_cases h : slices.length ≤ max
  · rw [trimFrom_of_le h]
  · have hle := le_length_trimFrom max slices.length slices (by omega)
    omega

/-! ## Arranging -/

/-- **A citation uses up the budget, or holds every slice.** -/
theorem length_arrange (max : Nat) (inScope : Bool) (slices : List (CitedSlice σ)) :
    (arrange max inScope slices).length = min max slices.length := by
  unfold arrange
  split
  · exact List.length_take
  · rw [connect_eq_take, List.length_take, (connected_perm _).length_eq, min_length_trimTail]

/-- What is arranged is some of the slices, each as often as it was there. -/
theorem arrange_perm (max : Nat) (inScope : Bool) (slices : List (CitedSlice σ)) :
    ∃ rest, slices.Perm (arrange max inScope slices ++ rest) := by
  unfold arrange
  split
  · exact ⟨slices.drop max, by rw [List.take_append_drop]⟩
  · obtain ⟨trimmed, htrim⟩ :=
      (trimFrom_sublist max slices.length slices).exists_perm_append
    refine ⟨(connected (trimTail max slices)).drop max ++ trimmed, htrim.trans ?_⟩
    rw [connect_eq_take, ← List.append_assoc, List.take_append_drop]
    exact (connected_perm _).symm.append_right trimmed

/-- A permutation of images is the image of a permutation. -/
theorem exists_of_map_perm {f : α → β} {xs : List α} {ys : List β} (h : (xs.map f).Perm ys) :
    ∃ zs : List α, xs.Perm zs ∧ zs.map f = ys := by
  generalize hl : xs.map f = l at h
  induction h generalizing xs with
  | nil =>
    rw [List.map_eq_nil_iff] at hl
    exact ⟨[], by rw [hl], rfl⟩
  | cons y _ ih =>
    obtain ⟨x, xs, rfl, rfl, rfl⟩ := List.map_eq_cons_iff.mp hl
    obtain ⟨zs, hperm, hzs⟩ := ih rfl
    exact ⟨x :: zs, hperm.cons x, by rw [List.map_cons, hzs]⟩
  | swap y z l =>
    obtain ⟨x, xs, rfl, rfl, hxs⟩ := List.map_eq_cons_iff.mp hl
    obtain ⟨x', xs, rfl, rfl, rfl⟩ := List.map_eq_cons_iff.mp hxs
    exact ⟨x' :: x :: xs, List.Perm.swap x' x xs, rfl⟩
  | trans _ _ ih ih' =>
    obtain ⟨zs, hperm, hzs⟩ := ih hl
    obtain ⟨ws, hperm', hws⟩ := ih' hzs
    exact ⟨ws, hperm.trans hperm', hws⟩

/-- The slices that are cited of some rows are those of some of the rows. -/
theorem exists_rows_of_arrange {f : Row σ → CitedSlice σ} (max : Nat) (inScope : Bool)
    (rows : List (Row σ)) : ∃ cited rest : List (Row σ),
      rows.Perm (cited ++ rest) ∧ cited.map f = arrange max inScope (rows.map f) := by
  obtain ⟨left, hperm⟩ := arrange_perm max inScope (rows.map f)
  obtain ⟨zs, hrows, hzs⟩ := exists_of_map_perm hperm
  obtain ⟨cited, rest, rfl, hcited, -⟩ := List.map_eq_append_iff.mp hzs
  exact ⟨cited, rest, hrows, hcited⟩

end EvidenceRank.Citation
