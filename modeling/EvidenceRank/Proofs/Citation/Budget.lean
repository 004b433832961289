import EvidenceRank.Proofs.Citation.Lead

/-!
# Larger budgets

Under a larger budget, trimming stops earlier and leaves more, and the slices that it leaves may be
connected in another order. Still no slice is lost that a smaller budget cites. Trimming for the
larger budget either gets down to it, and then all that is left is cited; or it gives up every slice
without a neighbour, and then so does trimming for the smaller one, so that both budgets cut off one
and the same order.

Results:
* `mem_arrange_of_le`: what is arranged of a document's slices under a larger budget.
* `assemble_widens`: the citations of rows under two budgets, one by one.
-/

namespace EvidenceRank.Citation

variable {σ : Type} {max more : Nat}

/-! ## The slices of one document -/

theorem mem_connect_of_length_le {slices : List (CitedSlice σ)} {s : CitedSlice σ}
    (h : slices.length ≤ max) (hs : s ∈ slices) : s ∈ connect max slices := by
  have hperm := connected_perm slices
  rw [connect_eq_take, List.take_of_length_le (hperm.length_eq.trans_le h)]
  exact hperm.mem_iff.mpr hs

theorem mem_connect_of_le {slices : List (CitedSlice σ)} {s : CitedSlice σ} (h : max ≤ more)
    (hs : s ∈ connect max slices) : s ∈ connect more slices := by
  rw [connect_eq_take] at hs ⊢
  exact (List.take_sublist_take_left h).mem hs

/-- **A larger budget loses no slice of a document.** -/
theorem mem_arrange_of_le (h : max ≤ more) (inScope : Bool) {slices : List (CitedSlice σ)}
    {s : CitedSlice σ} (hs : s ∈ arrange max inScope slices) : s ∈ arrange more inScope slices := by
  unfold arrange at hs ⊢
  cases inScope with
  | true => exact (List.take_sublist_take_left h).mem hs
  | false =>
    rcases trimTail_cases more slices with hfits | hall
    · -- the larger budget has room for all that its trimming leaves
      exact mem_connect_of_length_le hfits ((trimTail_sublist h slices).mem (mem_of_mem_connect hs))
    · rw [if_neg Bool.false_ne_true, trimTail_eq_of_filter h hall] at hs
      exact mem_connect_of_le h hs

/-! ## All citations -/

/-- The citation `d` is of the same document as `c`, and has every slice that `c` has. -/
structure Widens (c d : Citation σ) : Prop where
  document : c.document = d.document
  slices : ∀ s ∈ c.slices, s ∈ d.slices

theorem exists_widens {cs ds : List (Citation σ)} (h : List.Forall₂ Widens cs ds) {c : Citation σ}
    (hc : c ∈ cs) : ∃ d ∈ ds, Widens c d := by
  induction h with
  | nil => exact absurd hc List.not_mem_nil
  | cons hhead _ ih =>
    rcases List.mem_cons.mp hc with rfl | hc
    · exact ⟨_, List.mem_cons_self, hhead⟩
    · obtain ⟨d, hd, hwidens⟩ := ih hc
      exact ⟨d, List.mem_cons_of_mem _ hd, hwidens⟩

variable [Score σ] {scope : Option String} {rows : List (Row σ)}

theorem widens_of_citationOf? (h : max ≤ more) {first : Row σ} {c d : Citation σ}
    (hc : citationOf? max scope rows first = some c)
    (hd : citationOf? more scope rows first = some d) : Widens c d := by
  obtain ⟨hcdoc, -, hcslices, -⟩ := of_citationOf? hc
  obtain ⟨hddoc, -, hdslices, -⟩ := of_citationOf? hd
  refine ⟨hcdoc.trans hddoc.symm, fun s hs => ?_⟩
  rw [hcslices, hcdoc] at hs
  rw [hdslices, hddoc]
  exact mem_arrange_of_le h _ hs

/-- **A larger budget never loses a slice**: the same documents are cited in the same order, each
with every slice that it had. -/
theorem assemble_widens (hmax : 1 ≤ max) (h : max ≤ more) (scope : Option String)
    (rows : List (Row σ)) :
    List.Forall₂ Widens (assemble max scope rows) (assemble more scope rows) := by
  refine assemble_forall₂ hmax (hmax.trans h) fun first c d hc hd => ?_
  exact widens_of_citationOf? h hc hd

/-- With room for one slice the best row goes and "b" is cited alone, with room for three the best
row stays; "b" is still cited. -/
theorem second_row_kept : 1 ≤ 1 ∧ 1 ≤ 3 ∧
    (∃ c ∈ assemble 1 none lone, c.slices = [sliceOf (sampleRow "A" "m" "b" 1)]) ∧
    ∃ d ∈ assemble 3 none lone, d.document.docId = "A" ∧
      sliceOf (sampleRow "A" "m" "b" 1) ∈ d.slices := by
  obtain ⟨c, hc, hA⟩ := exists_citation_lone
  have hslices : c.slices = [sliceOf (sampleRow "A" "m" "b" 1)] := by
    rw [slices_of_mem_assemble hc, hA, arranged_lone]
  refine ⟨Nat.le_refl 1, by decide, ⟨c, hc, hslices⟩, ?_⟩
  obtain ⟨d, hd, hwidens⟩ :=
    exists_widens (assemble_widens (Nat.le_refl 1) (by decide : 1 ≤ 3) none lone) hc
  refine ⟨d, hd, (congrArg Document.docId hwidens.document).symm.trans hA, ?_⟩
  refine hwidens.slices _ ?_
  rw [hslices]
  exact List.mem_singleton_self _

end EvidenceRank.Citation
