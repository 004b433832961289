import EvidenceRank.Proofs.Citation.Shape

/-!
# What citing does not read

Citing reads the documents of rows, their segments and their texts. A change of rows that leaves
these alone (`Unread`) changes the slices that are cited and nothing else, so citing the changed
rows is changing the slices of what is cited.

Results:
* `arrange_map`: arranging reads the numbers of slices alone.
* `assemble_map`: a change of what is not read can be made before or after citing.
-/

namespace EvidenceRank.Citation

variable {σ : Type}

/-! ## Numbers alone -/

variable {u : CitedSlice σ → CitedSlice σ} (hno : ∀ s, (u s).no = s.no)
include hno

theorem isolated_map (slices : List (CitedSlice σ)) (s : CitedSlice σ) :
    isolated (slices.map u) (u s) = isolated slices s := by
  unfold isolated
  rw [List.any_map]
  refine congrArg (fun f => !slices.any f) (funext fun t => ?_)
  show adjacent (u s) (u t) = adjacent s t
  unfold adjacent
  rw [hno, hno]

theorem trimFrom_map (max i : Nat) (slices : List (CitedSlice σ)) :
    trimFrom max i (slices.map u) = (trimFrom max i slices).map u := by
  induction i generalizing slices with
  | zero => rfl
  | succ i ih =>
    rw [trimFrom, trimFrom, List.length_map, List.getElem?_map]
    split
    · rfl
    · cases slices[i]? with
      | none => exact ih slices
      | some s =>
        simp only [Option.map_some, isolated_map hno]
        split
        · rw [← ih]
          simp only [List.eraseIdx_eq_take_drop_succ, List.map_append, List.map_take, List.map_drop]
        · exact ih slices

theorem continues_map (head last next : Placed σ) :
    continues (head.map id u) (last.map id u) (next.map id u) = continues head last next := by
  unfold continues
  simp only [Prod.map_fst, Prod.map_snd, hno, id_eq]

theorem runsFrom_map (head : Placed σ) (run slices : List (Placed σ)) :
    runsFrom (head.map id u) (run.map (Prod.map id u)) (slices.map (Prod.map id u)) =
      (runsFrom head run slices).map (List.map (Prod.map id u)) := by
  induction slices generalizing head run with
  | nil => simp [runsFrom]
  | cons s slices ih =>
    have hany : ((run.map (Prod.map id u)).head?.any fun last =>
        continues (head.map id u) last (s.map id u)) =
          run.head?.any fun last => continues head last s := by
      rw [List.head?_map, Option.any_map]
      exact congrArg (fun f => run.head?.any f) (funext fun last => continues_map hno head last s)
    rw [List.map_cons, runsFrom, runsFrom, hany]
    split
    · exact ih head (s :: run)
    · rw [List.map_cons, List.map_reverse]
      exact congrArg (List.cons _) (ih s [s])

theorem runs_map (slices : List (Placed σ)) :
    runs (slices.map (Prod.map id u)) = (runs slices).map (List.map (Prod.map id u)) := by
  cases slices with
  | nil => rfl
  | cons s slices => exact runsFrom_map hno s [s] slices

omit hno in
theorem runRank_map (run : List (Placed σ)) : runRank (run.map (Prod.map id u)) = runRank run := by
  unfold runRank
  rw [List.head?_map, Option.map_map]
  rfl

theorem windows_map (slices : List (CitedSlice σ)) :
    windows (slices.map u) = (windows slices).map (List.map (Prod.map id u)) := by
  have hplaced : placed (slices.map u) = (placed slices).map (Prod.map id u) := by
    unfold placed
    rw [List.length_map, List.zip_map_right]
  have hbyNumber : byNumber (slices.map u) = (byNumber slices).map (Prod.map id u) := by
    unfold byNumber
    rw [hplaced]
    exact Lists.rankBy_map (fun a b => by simp only [Prod.map_snd, hno]) _
  unfold windows
  rw [hbyNumber, runs_map hno]
  exact Lists.rankBy_map (fun r s => by simp only [runRank_map]) _

theorem connect_map (max : Nat) (slices : List (CitedSlice σ)) :
    connect max (slices.map u) = (connect max slices).map u := by
  rw [connect_eq, connect_eq, windows_map hno, ← List.map_flatten, ← List.map_take, List.map_map,
    List.map_map]
  rfl

/-- **Arranging reads the numbers alone.** -/
theorem arrange_map (max : Nat) (inScope : Bool) (slices : List (CitedSlice σ)) :
    arrange max inScope (slices.map u) = (arrange max inScope slices).map u := by
  unfold arrange
  split
  · exact List.map_take.symm
  · unfold trimTail
    rw [List.length_map, trimFrom_map hno, connect_map hno]

/-! ## Citing -/

omit hno

/-- The change `f` of rows leaves what citing reads alone, and makes the change `u` of their
slices. -/
structure Unread [Score σ] (f : Row σ → Row σ) (u : CitedSlice σ → CitedSlice σ) : Prop where
  document : ∀ r, (f r).document = r.document
  segment : ∀ r, (f r).candidate.segment = r.candidate.segment
  key : ∀ r, (f r).key = r.key
  slice : ∀ r, sliceOf (f r) = u (sliceOf r)
  content : ∀ s, (u s).content = s.content
  no : ∀ s, (u s).no = s.no

variable [Score σ] {f : Row σ → Row σ}

namespace Unread

variable (h : Unread f u)
include h

theorem retainFrom_map (kept rows : List (Row σ)) :
    retainFrom (kept.map f) (rows.map f) = (retainFrom kept rows).map f := by
  induction rows generalizing kept with
  | nil => rfl
  | cons r rows ih =>
    have hany : ((kept.map f).any fun s => samePlace s (f r) || s.key == (f r).key) =
        kept.any fun s => samePlace s r || s.key == r.key := by
      rw [List.any_map]
      refine congrArg kept.any (funext fun s => ?_)
      simp only [Function.comp_apply, samePlace, h.document, h.segment, h.key]
    rw [List.map_cons, retainFrom, retainFrom, hany]
    split
    · exact ih kept
    · rw [List.map_cons]
      exact congrArg (List.cons _) (ih (r :: kept))

theorem retained_map (rows : List (Row σ)) : retained (rows.map f) = (retained rows).map f :=
  h.retainFrom_map [] rows

theorem retainedOf_map (rows : List (Row σ)) (docId : String) :
    (retainedOf (rows.map f) docId).map sliceOf = ((retainedOf rows docId).map sliceOf).map u := by
  unfold retainedOf
  rw [h.retained_map, List.filter_map, List.map_map, List.map_map]
  have hfilter : ((fun r : Row σ => r.document.docId == docId) ∘ f) =
      fun r : Row σ => r.document.docId == docId :=
    funext fun r => by rw [Function.comp_apply, h.document]
  rw [hfilter]
  exact List.map_congr_left fun r _ => h.slice r

theorem citationOf?_map (max : Nat) (scope : Option String) (rows : List (Row σ)) (first : Row σ) :
    citationOf? max scope (rows.map f) (f first) =
      (citationOf? max scope rows first).map fun c => { c with slices := c.slices.map u } := by
  unfold citationOf? ofSlices?
  rw [h.document, h.retainedOf_map, arrange_map h.no]
  cases arrange max (scope == some first.document.docId)
      ((retainedOf rows first.document.docId).map sliceOf) with
  | nil => rfl
  | cons s slices =>
    have hcontent : ((s :: slices).map u).map (·.content) = (s :: slices).map (·.content) := by
      rw [List.map_map]
      exact List.map_congr_left fun t _ => h.content t
    rw [Option.map_some, ← hcontent]
    rfl

/-- **A change of what is not read can be made before or after citing.** -/
theorem assemble_map (max : Nat) (scope : Option String) (rows : List (Row σ)) :
    assemble max scope (rows.map f) =
      (assemble max scope rows).map fun c => { c with slices := c.slices.map u } := by
  have hdistinct : Lists.distinctBy (·.document.docId) ((retained rows).map f) =
      (Lists.distinctBy (·.document.docId) (retained rows)).map f :=
    Lists.distinctBy_map fun r _ => by rw [h.document]
  rw [assemble_eq, assemble_eq, h.retained_map, hdistinct, List.filterMap_map, List.map_filterMap]
  refine congrArg (List.filterMap · _) (funext fun first => ?_)
  exact h.citationOf?_map max scope rows first

end Unread
end EvidenceRank.Citation
