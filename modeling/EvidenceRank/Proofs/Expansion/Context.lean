import EvidenceRank.Proofs.Citation.Coverage
import EvidenceRank.Proofs.Citation.Windows
import EvidenceRank.Proofs.Expansion.Origin

/-!
# Added context reads on

Expansion puts the rows that follow the top rows at the far end of the ranking. When their slices
are assembled they come back to what they follow: the slice of an added row stands right behind that
of the top row with the segment before it, whatever else is cited of the document.

What this rests on is only that the top row ranks ahead. `CitedAt` names a row by its place among
the rows, so that of two equal rows the one is meant that is cited.

Results:
* `pair_retained`: rows that are cited are retained in their order.
* `readsOn_of_citedAt`: rows with consecutive segments, of which the first ranks ahead, are cited
  one behind the other.
* `expand_reads_on`: a top row and an added row are such rows.
-/

namespace EvidenceRank

variable {σ : Type} [Score σ]

namespace Citation

/-! ## Cited rows -/

/-- The slice of the row `r`, which is at place `i`, is in the citation: no row ahead of it has
taken its place or its text. -/
structure CitedAt (rows : List (Row σ)) (c : Citation σ) (i : Nat) (r : Row σ) : Prop where
  row : rows[i]? = some r
  fresh : ∀ s ∈ retained (rows.take i), ¬ Repeats s r
  document : r.document.docId = c.document.docId
  slice : sliceOf r ∈ c.slices

/-- The slice `x` stands right behind `a` in the citation, and its text right below that of `a`. -/
def ReadsOn (c : Citation σ) (a x : CitedSlice σ) : Prop :=
  ∃ before after, c.slices = before ++ a :: x :: after ∧
    c.content = "\n".intercalate
      (before.map (·.content) ++ a.content :: x.content :: after.map (·.content))

variable {rows : List (Row σ)} {i j : Nat} {a x r : Row σ}

omit [Score σ] in
theorem eq_take_append (hrow : rows[i]? = some r) :
    rows = rows.take i ++ r :: rows.drop (i + 1) := by
  obtain ⟨hi, rfl⟩ := List.getElem?_eq_some_iff.mp hrow
  rw [← List.drop_eq_getElem_cons hi, List.take_append_drop]

omit [Score σ] in
/-- A row that repeats none retained before it is retained. -/
theorem exists_retained_of_fresh (hrow : rows[i]? = some r)
    (hfresh : ∀ s ∈ retained (rows.take i), ¬ Repeats s r) :
    ∃ later, retained rows = retained (rows.take i) ++ r :: later := by
  have hsplit := eq_take_append hrow
  have hretained := retained_append (rows.take i) (r :: rows.drop (i + 1))
  rw [← hsplit, retainFrom_cons_of_not fun ⟨s, hs, hrep⟩ =>
    hfresh s (List.mem_reverse.mp hs) hrep] at hretained
  exact ⟨_, hretained⟩

/-- **Cited rows are retained in their order.** -/
theorem pair_retained {c : Citation σ} (ha : CitedAt rows c i a) (hx : CitedAt rows c j x)
    (hij : i < j) : [a, x].Sublist (retained rows) := by
  obtain ⟨later, hretained⟩ := exists_retained_of_fresh hx.row hx.fresh
  have hmem : a ∈ retained (rows.take j) := by
    have hrow : (rows.take j)[i]? = some a := by rw [List.getElem?_take_of_lt hij, ha.row]
    have hfresh : ∀ s ∈ retained ((rows.take j).take i), ¬ Repeats s a := by
      rw [List.take_take, Nat.min_eq_left (Nat.le_of_lt hij)]
      exact ha.fresh
    obtain ⟨between, heq⟩ := exists_retained_of_fresh hrow hfresh
    rw [heq]
    exact List.mem_append_right _ List.mem_cons_self
  rw [hretained]
  exact (List.singleton_sublist.mpr hmem).append (List.singleton_sublist.mpr List.mem_cons_self)

variable {max : Nat} {scope : Option String}

/-- **Rows with consecutive segments are cited one behind the other**, if the first ranks ahead and
the caller is not scoped to their document. -/
theorem readsOn_of_citedAt {c : Citation σ} (hc : c ∈ assemble max scope rows)
    (hscope : scope ≠ some c.document.docId) (ha : CitedAt rows c i a) (hx : CitedAt rows c j x)
    (hij : i < j) (hnext : a.candidate.segment.toInt + 1 = x.candidate.segment.toInt) :
    ReadsOn c (sliceOf a) (sliceOf x) := by
  obtain ⟨-, -, hslices, hcontent⟩ := exists_of_mem_assemble hc
  let owned := (retainedOf rows c.document.docId).map sliceOf
  have harranged : c.slices = arrange max false owned := by
    rw [hslices, arranged, beq_eq_false_iff_ne.mpr hscope]
  have hno : owned.Pairwise fun s t => s.no ≠ t.no :=
    List.pairwise_map.mpr ((retainedOf_pairwise rows _).imp fun h => h.2)
  have hpair : [sliceOf a, sliceOf x].Sublist owned := by
    have hboth := (pair_retained ha hx hij).filter fun r : Row σ =>
      r.document.docId == c.document.docId
    rw [List.filter_eq_self.mpr (by simp [ha.document, hx.document])] at hboth
    exact hboth.map sliceOf
  obtain ⟨before, after, heq⟩ := arrange_infix hno hpair hnext (harranged ▸ ha.slice)
    (harranged ▸ hx.slice)
  refine ⟨before, after, ?_, ?_⟩
  · rw [harranged, ← heq]
    simp
  · rw [hcontent, harranged, ← heq]
    simp

end Citation

namespace Expansion

open Citation (CitedAt ReadsOn assemble sliceOf)

variable {m : Type → Type} [Monad m] [LawfulMonad m]

/-- **Added context reads on from its anchor.** Whenever a citation of a document that is not the
scoped one has the slices of a top row and of an added row that holds the next segment, the latter
stands right behind the former. -/
theorem expand_reads_on (config : ExpansionConfig) (fetcher : SliceFetcher m)
    (rows : List (Row σ)) :
    Ensures (expand config fetcher rows) fun e =>
      ∃ added, e.rows = rows.take config.topRows ++ added ∧
        ∀ max scope, ∀ c ∈ assemble max scope e.rows, scope ≠ some c.document.docId →
          ∀ i j a x, i < (rows.take config.topRows).length →
            (rows.take config.topRows).length ≤ j → CitedAt e.rows c i a → CitedAt e.rows c j x →
            a.candidate.segment.toInt + 1 = x.candidate.segment.toInt →
            ReadsOn c (sliceOf a) (sliceOf x) := by
  rw [← fst_expand_recorded config fetcher rows []]
  refine (expand_origin config fetcher rows).map fun y hy => ?_
  obtain ⟨added, hrows, -⟩ := hy
  refine ⟨added, hrows, fun max scope c hc hscope i j a x hi hj ha hx hnext => ?_⟩
  exact Citation.readsOn_of_citedAt hc hscope ha hx (Nat.lt_of_lt_of_le hi hj) hnext

/-- Three rows of one document, of which the last follows the first. -/
def followed : List (Row Float) :=
  [sampleRow "A" "A" "a" 1, sampleRow "A" "A" "c" 5, sampleRow "A" "A" "b" 2]

theorem retained_followed : Citation.retained followed = followed := by
  have hne := hash_nodup
  simp only [List.nodup_cons, List.mem_cons, not_or] at hne
  simp [followed, Citation.retained, Citation.retainFrom, Citation.samePlace, sampleRow, sample,
    Row.ofCandidate, Row.document, Row.key, Row.md5, hne, Ne.symm hne.2.1.1]

theorem citedAt_followed {c : Citation Float} (hc : c ∈ assemble 3 none followed)
    (hdoc : c.document.docId = "A") {i : Nat} {r : Row Float} (hrow : followed[i]? = some r) :
    CitedAt followed c i r := by
  have hmem : r ∈ followed := List.mem_of_getElem? hrow
  have hall : ∀ s ∈ followed, s.document.docId = "A" := by
    simp [followed, sampleRow, sample, Row.ofCandidate, Row.document]
  have hid : r.document.docId = c.document.docId := (hall r hmem).trans hdoc.symm
  have hroom : (Citation.retainedOf followed c.document.docId).length ≤ 3 := by
    unfold Citation.retainedOf
    rw [retained_followed]
    exact List.length_filter_le _ _
  refine ⟨hrow, fun s hs => ?_, hid, ?_⟩
  · have hpairwise := Citation.retained_pairwise followed
    rw [retained_followed, Citation.eq_take_append hrow] at hpairwise
    exact (List.pairwise_append.mp hpairwise).2.2 s (Citation.mem_of_mem_retained hs) r
      List.mem_cons_self
  · rw [Citation.slices_of_mem_assemble hc]
    refine Citation.mem_arranged_of_le hroom (Citation.mem_retainedOf.mpr ⟨?_, hid⟩)
    rw [retained_followed]
    exact hmem

/-- The lower row is cited behind the best row, which it follows, and not at the end. -/
theorem lower_row_reads_on : ∃ e,
    expand ⟨2, .neighbours⟩ (SliceFetcher.silent (m := Id) (pure "")) followed = pure e ∧
    ∃ c ∈ assemble 3 none e.rows,
      ReadsOn c (sliceOf (sampleRow "A" "A" "a" 1)) (sliceOf (sampleRow "A" "A" "b" 2)) := by
  refine ⟨_, rfl, ?_⟩
  have hensures := expand_reads_on ⟨2, .neighbours⟩ (SliceFetcher.silent (m := Id) (pure ""))
    followed
  obtain ⟨added, -, hreads⟩ := Ensures.id_iff.mp hensures
  have hretained : sampleRow "A" "A" "a" 1 ∈ Citation.retained followed :=
    retained_followed.symm ▸ List.mem_cons_self
  obtain ⟨c, hc, hdoc⟩ : ∃ c ∈ assemble 3 none followed, c.document.docId = "A" :=
    Citation.exists_mem_assemble (by decide) hretained
  have hcited {i : Nat} {r : Row Float} := citedAt_followed hc hdoc (i := i) (r := r)
  refine ⟨c, hc, hreads 3 none c hc nofun 0 2 _ _ ?_ ?_ (hcited rfl) (hcited rfl) ?_⟩
  · decide
  · decide
  · decide

end Expansion
end EvidenceRank
