import EvidenceRank.Proofs.Citation.Lead

/-!
# Citations in scope

The scope is read once, where the slices of a document are arranged. With a budget of one slice or
more every document with a retained row has a citation, in scope or not, so scoping neither adds nor
drops nor moves a citation; it exchanges the slices of one.

Results:
* `citationOf?_unscoped`: a document out of scope is cited as without a scope.
* `arranged_scoped`: the document in scope is cited in rank order.
* `assemble_scoped`: the citations without a scope and with one, one by one.
-/

namespace EvidenceRank.Citation

variable {σ : Type} [Score σ] {max : Nat} {docId : String} {rows : List (Row σ)}

/-- The citation `d` is of the same document as `c`, and is `c` itself unless that document is the
one in scope. -/
structure ScopesTo (docId : String) (c d : Citation σ) : Prop where
  document : c.document = d.document
  others : c.document.docId ≠ docId → c = d

/-- A document out of scope is cited as without a scope. -/
theorem citationOf?_unscoped {first : Row σ} (h : first.document.docId ≠ docId) :
    citationOf? max (some docId) rows first = citationOf? max none rows first := by
  have hscope : (some docId == some first.document.docId) = false :=
    beq_false_of_ne fun heq => h (Option.some.inj heq).symm
  unfold citationOf? ofSlices?
  rw [hscope]
  rfl

/-- **The document in scope is cited in rank order.** -/
theorem arranged_scoped (max : Nat) (docId : String) (rows : List (Row σ)) :
    arranged max (some docId) rows docId = ((retainedOf rows docId).take max).map sliceOf := by
  unfold arranged arrange
  rw [if_pos (beq_self_eq_true (some docId)), List.map_take]

theorem scopesTo_of_citationOf? {first : Row σ} {c d : Citation σ}
    (hc : citationOf? max none rows first = some c)
    (hd : citationOf? max (some docId) rows first = some d) : ScopesTo docId c d := by
  have hdoc : c.document = first.document := (of_citationOf? hc).1
  refine ⟨hdoc.trans (of_citationOf? hd).1.symm, fun hne => ?_⟩
  rw [hdoc] at hne
  rw [citationOf?_unscoped hne, hc] at hd
  exact Option.some.inj hd

/-- **Scoping touches one citation only**: the same documents are cited in the same order, all but
the one in scope as before. That one, if it has retained rows, is cited with the first of them, as
many as the budget allows, in their order. -/
theorem assemble_scoped (hmax : 1 ≤ max) (docId : String) (rows : List (Row σ)) :
    List.Forall₂ (ScopesTo docId) (assemble max none rows) (assemble max (some docId) rows) ∧
      (retainedOf rows docId ≠ [] →
        ∃ c ∈ assemble max (some docId) rows, c.document.docId = docId) ∧
      ∀ c ∈ assemble max (some docId) rows, c.document.docId = docId →
        c.slices = ((retainedOf rows docId).take max).map sliceOf ∧
          c.content = "\n".intercalate
            (((retainedOf rows docId).take max).map (·.candidate.text)) := by
  refine ⟨assemble_forall₂ hmax hmax fun _ _ _ => scopesTo_of_citationOf?, ?_, ?_⟩
  · intro hne
    obtain ⟨r, hr⟩ := List.exists_mem_of_ne_nil _ hne
    obtain ⟨hretained, rfl⟩ := mem_retainedOf.mp hr
    exact exists_mem_assemble hmax hretained
  · rintro c hc rfl
    obtain ⟨-, -, hslices, hcontent⟩ := exists_of_mem_assemble hc
    rw [arranged_scoped] at hslices
    refine ⟨hslices, ?_⟩
    rw [hcontent, hslices, List.map_map]
    rfl

/-- In scope, the best row is cited that trimming gives up otherwise. -/
theorem lone_head_kept : 1 ≤ 1 ∧
    (∃ c ∈ assemble 1 none lone, c.slices = [sliceOf (sampleRow "A" "m" "b" 1)]) ∧
    ∃ c ∈ assemble 1 (some "A") lone, c.document.docId = "A" ∧
      c.slices = [sliceOf (sampleRow "A" "m" "a" 10)] := by
  obtain ⟨c, hc, hA⟩ := exists_citation_lone
  have hplain : c.slices = [sliceOf (sampleRow "A" "m" "b" 1)] := by
    rw [slices_of_mem_assemble hc, hA, arranged_lone]
  obtain ⟨-, hsome, hcited⟩ := assemble_scoped (Nat.le_refl 1) "A" lone
  rw [retainedOf_lone] at hsome hcited
  obtain ⟨d, hd, hdA⟩ := hsome (List.cons_ne_nil _ _)
  exact ⟨Nat.le_refl 1, ⟨c, hc, hplain⟩, d, hd, hdA, (hcited d hd hdA).1⟩

end EvidenceRank.Citation
