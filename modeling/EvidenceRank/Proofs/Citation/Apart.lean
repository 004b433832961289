import EvidenceRank.Proofs.Citation.Coverage

/-!
# Documents apart

Retaining looks across documents in one place: a row is dropped for a text that another document has
cited. A document is `Apart` where its texts are its own. Then its rows are kept or dropped as if
there were no others, whatever stands between them, and so is its citation what it would be without
them.

Results:
* `retainFrom_rowsOf`: going through all rows keeps those of the document that going through its own
  rows keeps. The rows kept before differ between the two runs; of those of the document they hold
  the same.
* `citationOf?_apart`: so the citation of the document is the same in both runs.
* `assemble_apart`: all citations, those of the document against those of its rows alone.
-/

namespace EvidenceRank.Citation

variable {σ : Type} {docId : String} {rows : List (Row σ)}

/-- The rows of a document. -/
def rowsOf (docId : String) (rows : List (Row σ)) : List (Row σ) :=
  rows.filter (·.document.docId == docId)

/-- No row of another document has the key of a row of the document. -/
def Apart (docId : String) (rows : List (Row σ)) : Prop :=
  ∀ r ∈ rows, ∀ s ∈ rows, r.document.docId = docId → s.document.docId ≠ docId → s.key ≠ r.key

theorem Apart.of_subset {others : List (Row σ)} (h : Apart docId rows) (hsub : others ⊆ rows) :
    Apart docId others :=
  fun r hr s hs => h r (hsub hr) s (hsub hs)

/-! ## Rows of a document -/

theorem mem_rowsOf {r : Row σ} : r ∈ rowsOf docId rows ↔ r ∈ rows ∧ r.document.docId = docId := by
  unfold rowsOf
  rw [List.mem_filter, beq_iff_eq]

theorem rowsOf_cons_of {r : Row σ} (h : r.document.docId = docId) :
    rowsOf docId (r :: rows) = r :: rowsOf docId rows :=
  List.filter_cons_of_pos (beq_iff_eq.mpr h)

theorem rowsOf_cons_of_ne {r : Row σ} (h : r.document.docId ≠ docId) :
    rowsOf docId (r :: rows) = rowsOf docId rows :=
  List.filter_cons_of_neg fun heq => h (beq_iff_eq.mp heq)

/-- A row of a document that is apart repeats none of another document. -/
theorem exists_repeats_rowsOf {kept : List (Row σ)} {r : Row σ} (hr : r.document.docId = docId)
    (h : ∀ s ∈ kept, s.document.docId ≠ docId → s.key ≠ r.key) :
    (∃ s ∈ rowsOf docId kept, Repeats s r) ↔ ∃ s ∈ kept, Repeats s r := by
  constructor
  · rintro ⟨s, hs, hrep⟩
    exact ⟨s, (mem_rowsOf.mp hs).1, hrep⟩
  · rintro ⟨s, hs, hrep⟩
    refine ⟨s, mem_rowsOf.mpr ⟨hs, ?_⟩, hrep⟩
    by_contra hne
    rcases hrep with ⟨hdoc, -⟩ | hkey
    · exact hne (hdoc.trans hr)
    · exact h s hs hne hkey

/-- **Going through all rows keeps those of the document that its own rows keep.** -/
theorem retainFrom_rowsOf (kept rows : List (Row σ)) (h : Apart docId (kept ++ rows)) :
    rowsOf docId (retainFrom kept rows) =
      retainFrom (rowsOf docId kept) (rowsOf docId rows) := by
  induction rows generalizing kept with
  | nil => rfl
  | cons r rows ih =>
    have hkeep : Apart docId (r :: kept ++ rows) := h.of_subset List.perm_middle.symm.subset
    have hskip : Apart docId (kept ++ rows) := hkeep.of_subset (List.subset_cons_self r _)
    by_cases hr : r.document.docId = docId
    · have hrep : (∃ s ∈ rowsOf docId kept, Repeats s r) ↔ ∃ s ∈ kept, Repeats s r := by
        refine exists_repeats_rowsOf hr fun s hs => ?_
        exact h r (List.mem_append_right kept List.mem_cons_self) s (List.mem_append_left _ hs) hr
      rw [rowsOf_cons_of hr]
      by_cases hex : ∃ s ∈ kept, Repeats s r
      · rw [retainFrom_cons_of_repeats hex, retainFrom_cons_of_repeats (hrep.mpr hex),
          ih kept hskip]
      · rw [retainFrom_cons_of_not hex, retainFrom_cons_of_not (mt hrep.mp hex), rowsOf_cons_of hr,
          ih (r :: kept) hkeep, rowsOf_cons_of hr]
    · -- a row of another document is not seen in the run on the document's rows, kept or not
      rw [rowsOf_cons_of_ne hr]
      by_cases hex : ∃ s ∈ kept, Repeats s r
      · rw [retainFrom_cons_of_repeats hex, ih kept hskip]
      · rw [retainFrom_cons_of_not hex, rowsOf_cons_of_ne hr, ih (r :: kept) hkeep,
          rowsOf_cons_of_ne hr]

/-- What is retained of a document that is apart is what is retained of its rows. -/
theorem retainedOf_apart (h : Apart docId rows) :
    retainedOf rows docId = retained (rowsOf docId rows) :=
  retainFrom_rowsOf [] rows h

theorem docId_of_mem_retained_rowsOf {r : Row σ} (h : r ∈ retained (rowsOf docId rows)) :
    r.document.docId = docId :=
  (mem_rowsOf.mp (mem_of_mem_retained h)).2

/-! ## Citations of a document -/

variable [Score σ] {max : Nat} {scope : Option String}

/-- **The citation of a document that is apart is that of its rows alone.** -/
theorem citationOf?_apart (h : Apart docId rows) {first : Row σ}
    (hfirst : first.document.docId = docId) :
    citationOf? max scope rows first = citationOf? max scope (rowsOf docId rows) first := by
  have hown : retainedOf (rowsOf docId rows) docId = retained (rowsOf docId rows) :=
    List.filter_eq_self.mpr fun r hr => beq_iff_eq.mpr (docId_of_mem_retained_rowsOf hr)
  unfold citationOf?
  rw [hfirst, hown, retainedOf_apart h]

/-- A row names the document of its citation. -/
theorem filter_citationOf? (first : Row σ) :
    (citationOf? max scope rows first).filter (·.document.docId == docId) =
      if first.document.docId == docId then citationOf? max scope rows first else none := by
  cases hc : citationOf? max scope rows first with
  | none => simp
  | some c => rw [← (of_citationOf? hc).1, Option.filter_some]

/-- **The citations of a document that is apart are those of its rows alone.** -/
theorem filter_assemble_apart (h : Apart docId rows) (max : Nat) (scope : Option String) :
    (assemble max scope rows).filter (·.document.docId == docId) =
      assemble max scope (rowsOf docId rows) := by
  have hown : Lists.distinctBy (·.document.docId) (retained (rowsOf docId rows)) =
      (Lists.distinctBy (·.document.docId) (retained rows)).filter (·.document.docId == docId) := by
    rw [← retainedOf_apart h]
    exact Lists.distinctBy_filter (· == docId) (retained rows)
  rw [assemble_eq, assemble_eq, hown, List.filter_filterMap, List.filterMap_filter]
  refine List.filterMap_congr fun first _ => ?_
  rw [filter_citationOf?]
  split
  · rename_i hfirst
    exact citationOf?_apart h (beq_iff_eq.mp hfirst)
  · rfl

/-- The rows of one document have one citation at most. -/
theorem exists_assemble_rowsOf (max : Nat) (scope : Option String) (docId : String)
    (rows : List (Row σ)) :
    ∃ citation : Option (Citation σ), assemble max scope (rowsOf docId rows) = citation.toList := by
  have hdoc : ∀ c ∈ assemble max scope (rowsOf docId rows), c.document.docId = docId := by
    intro c hc
    obtain ⟨⟨first, hfirst, heq⟩, -⟩ := exists_of_mem_assemble hc
    exact (congrArg Document.docId heq).symm.trans (docId_of_mem_retained_rowsOf hfirst)
  have hpairwise := assemble_pairwise max scope (rowsOf docId rows)
  generalize assemble max scope (rowsOf docId rows) = cs at hdoc hpairwise ⊢
  rcases cs with _ | ⟨c, _ | ⟨d, rest⟩⟩
  · exact ⟨none, rfl⟩
  · exact ⟨some c, rfl⟩
  · have hc : c.document.docId = docId := hdoc c List.mem_cons_self
    have hd : d.document.docId = docId := hdoc d (List.mem_cons_of_mem c List.mem_cons_self)
    have hne := (List.pairwise_cons.mp hpairwise).1 d List.mem_cons_self
    exact absurd (hc.trans hd.symm) hne

/-- **A document's citation does not depend on documents that have none of its texts**: among all
rows and among its own rows alone, it has the same citation, or none. -/
theorem assemble_apart (h : Apart docId rows) (max : Nat) (scope : Option String) :
    ∃ citation : Option (Citation σ),
      (assemble max scope rows).filter (·.document.docId == docId) = citation.toList ∧
        assemble max scope (rowsOf docId rows) = citation.toList := by
  obtain ⟨citation, hcitation⟩ := exists_assemble_rowsOf max scope docId rows
  exact ⟨citation, (filter_assemble_apart h max scope).trans hcitation, hcitation⟩

/-- A row between two rows of "A", of another document with the same content hash, leaves the
citation of "A" as it is. -/
theorem apart_of_row_between :
    let rows := [sampleRow "A" "m" "a" 1, sampleRow "B" "m" "c" 2, sampleRow "A" "m" "b" 2]
    Apart "A" rows ∧ ∃ c, (assemble 2 none rows).filter (·.document.docId == "A") = [c] ∧
      assemble 2 none [sampleRow "A" "m" "a" 1, sampleRow "A" "m" "b" 2] = [c] := by
  intro rows
  have hother : Text.hash "c" ≠ Text.hash "a" ∧ Text.hash "c" ≠ Text.hash "b" := by
    have h := hash_nodup
    simp only [List.nodup_cons, List.mem_cons, List.not_mem_nil, or_false, not_or] at h
    exact ⟨fun heq => h.1.2 heq.symm, fun heq => h.2.1 heq.symm⟩
  have hapart : Apart "A" rows := by
    simp [Apart, rows, sampleRow, sample, Row.ofCandidate, Row.document, Row.key, Row.md5, hother]
  have hrows : rowsOf "A" rows = [sampleRow "A" "m" "a" 1, sampleRow "A" "m" "b" 2] := rfl
  obtain ⟨citation, hall, hown⟩ := assemble_apart hapart 2 none
  rw [hrows] at hown
  have hcited : sampleRow "A" "m" "a" 1 ∈
      retained [sampleRow "A" "m" "a" 1, sampleRow "A" "m" "b" 2] := List.mem_cons_self
  obtain ⟨c, hc, -⟩ : ∃ c ∈ assemble 2 none [sampleRow "A" "m" "a" 1, sampleRow "A" "m" "b" 2], _ :=
    exists_mem_assemble (by decide) hcited
  cases citation with
  | none => rw [hown] at hc; exact absurd hc List.not_mem_nil
  | some d => exact ⟨hapart, d, hall, hown⟩

end EvidenceRank.Citation
