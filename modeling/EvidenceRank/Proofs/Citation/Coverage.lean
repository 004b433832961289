import EvidenceRank.Proofs.Citation.Shape
import Mathlib.Algebra.Order.BigOperators.Group.List
import Mathlib.Algebra.Order.Ring.Nat

/-!
# Rows that are not cited

A row is `Accounted` for when its text is cited, when the citation of its document is full, or when
an earlier row has its place. Texts are marked as cited while rows are retained, before the slices
of a document are cut down to the budget, so a row may be dropped for a text that is cited nowhere:
`Lost` says when.

Results:
* `exists_of_mem_assemble`, `exists_row_of_slice`: what a citation and its slices are made of.
* `sum_length_slices_le`: there are no more slices than retained rows.
* `cited_iff`: a retained row is cited exactly if arranging the slices of its document keeps its
  slice.
* `accounted_iff`: the rows that are not accounted for are exactly the lost ones.
* `assemble_accounted`: with what follows for rows whose content has one document.
-/

namespace EvidenceRank.Citation

variable {σ : Type} [Score σ] {max : Nat} {scope : Option String} {rows : List (Row σ)}

/-! ## Citations of documents -/

/-- What is cited of a document. -/
def arranged (max : Nat) (scope : Option String) (rows : List (Row σ)) (docId : String) :
    List (CitedSlice σ) :=
  arrange max (scope == some docId) ((retainedOf rows docId).map sliceOf)

/-- The citation of the document of a row has a slice, and is arranged from the slices of the
document. -/
theorem of_citationOf? {first : Row σ} {c : Citation σ}
    (h : citationOf? max scope rows first = some c) : c.document = first.document ∧
      c.slices ≠ [] ∧ c.slices = arranged max scope rows c.document.docId ∧
      c.content = "\n".intercalate (c.slices.map (·.content)) := by
  unfold citationOf? ofSlices? at h
  cases ha : arrange max (scope == some first.document.docId)
      ((retainedOf rows first.document.docId).map sliceOf) with
  | nil => rw [ha] at h; exact absurd h (by simp)
  | cons s slices =>
    rw [ha] at h
    obtain rfl := Option.some.inj h
    exact ⟨rfl, List.cons_ne_nil s slices, ha.symm, rfl⟩

/-- A citation is that of the document of a retained row. -/
theorem exists_of_mem_assemble {c : Citation σ} (h : c ∈ assemble max scope rows) :
    (∃ first ∈ retained rows, first.document = c.document) ∧ c.slices ≠ [] ∧
      c.slices = arranged max scope rows c.document.docId ∧
      c.content = "\n".intercalate (c.slices.map (·.content)) := by
  rw [assemble_eq] at h
  obtain ⟨first, hfirst, hc⟩ := List.mem_filterMap.mp h
  obtain ⟨hdoc, hcitation⟩ := of_citationOf? hc
  exact ⟨⟨first, Lists.mem_of_mem_distinctBy hfirst, hdoc.symm⟩, hcitation⟩

theorem slices_of_mem_assemble {c : Citation σ} (h : c ∈ assemble max scope rows) :
    c.slices = arranged max scope rows c.document.docId :=
  (exists_of_mem_assemble h).2.2.1

theorem exists_mem_assemble (hmax : 1 ≤ max) {r : Row σ} (hr : r ∈ retained rows) :
    ∃ c ∈ assemble max scope rows, c.document.docId = r.document.docId := by
  have hp := retained_pairwise rows
  obtain ⟨first, hfirst, hdoc, -⟩ :=
    Lists.exists_distinctBy_of_mem (fun r : Row σ => r.document.docId) hp hr
  obtain ⟨c, -, hc, hcdoc, -⟩ := exists_cites hmax scope (Lists.mem_of_mem_distinctBy hfirst)
  refine ⟨c, ?_, by rw [hcdoc, hdoc]⟩
  rw [assemble_eq]
  exact List.mem_filterMap.mpr ⟨first, hfirst, hc⟩

theorem length_arranged (max : Nat) (scope : Option String) (rows : List (Row σ))
    (docId : String) :
    (arranged max scope rows docId).length = min max (retainedOf rows docId).length := by
  unfold arranged
  rw [length_arrange, List.length_map]

/-- No document has two citations. -/
theorem assemble_pairwise (max : Nat) (scope : Option String) (rows : List (Row σ)) :
    (assemble max scope rows).Pairwise fun c d => c.document.docId ≠ d.document.docId := by
  rw [assemble_eq, List.pairwise_filterMap]
  refine (Lists.distinctBy_pairwise _ _).imp fun hne c hc d hd => ?_
  rw [(of_citationOf? hc).1, (of_citationOf? hd).1]
  exact hne

/-- The elements of different keys are no more than there are. -/
theorem sum_length_filter_le {α κ : Type} [BEq κ] [LawfulBEq κ] (key : α → κ) {ks : List κ}
    (h : ks.Pairwise (· ≠ ·)) (xs : List α) :
    (ks.map fun k => (xs.filter fun x => key x == k).length).sum ≤ xs.length := by
  induction ks generalizing xs with
  | nil => exact Nat.zero_le _
  | cons k ks ih =>
    obtain ⟨hk, hks⟩ := List.pairwise_cons.mp h
    let others := xs.filter fun x => !(key x == k)
    have hothers : ∀ k' ∈ ks, (xs.filter fun x => key x == k').length =
        (others.filter fun x => key x == k').length := by
      intro k' hk'
      rw [List.filter_filter]
      refine congrArg List.length (List.filter_congr fun x _ => ?_)
      by_cases hx : key x = k'
      · simpa [hx] using (hk k' hk').symm
      · rw [beq_false_of_ne hx, Bool.false_and]
    have hsplit : xs.length = (xs.filter fun x => key x == k).length + others.length := by
      rw [← List.countP_eq_length_filter, ← List.countP_eq_length_filter]
      simpa using List.length_eq_countP_add_countP (l := xs) (fun x => key x == k)
    rw [List.map_cons, List.sum_cons, List.map_congr_left hothers, hsplit]
    exact Nat.add_le_add_left (ih hks others) _

/-- **No row is cited twice**: there are no more slices than retained rows. -/
theorem sum_length_slices_le (max : Nat) (scope : Option String) (rows : List (Row σ)) :
    ((assemble max scope rows).map (·.slices.length)).sum ≤ (retained rows).length := by
  have hids : ((assemble max scope rows).map (·.document.docId)).Pairwise (· ≠ ·) :=
    List.pairwise_map.mpr (assemble_pairwise max scope rows)
  refine Nat.le_trans ?_
    (sum_length_filter_le (fun r : Row σ => r.document.docId) hids (retained rows))
  rw [List.map_map]
  refine List.sum_le_sum fun c hc => ?_
  rw [slices_of_mem_assemble hc, length_arranged]
  exact Nat.min_le_right _ _

/-- A slice of a citation is that of a retained row of its document. -/
theorem exists_row_of_slice {c : Citation σ} (hc : c ∈ assemble max scope rows) {s : CitedSlice σ}
    (hs : s ∈ c.slices) : ∃ r ∈ retainedOf rows c.document.docId, s = sliceOf r := by
  rw [slices_of_mem_assemble hc] at hs
  obtain ⟨rest, hperm⟩ := arrange_perm max (scope == some c.document.docId)
    ((retainedOf rows c.document.docId).map sliceOf)
  obtain ⟨r, hr, rfl⟩ := List.mem_map.mp (hperm.mem_iff.mpr (List.mem_append_left rest hs))
  exact ⟨r, hr, rfl⟩

/-- Where the budget allows all slices, all are cited. -/
theorem mem_arranged_of_le {docId : String} (h : (retainedOf rows docId).length ≤ max) {r : Row σ}
    (hr : r ∈ retainedOf rows docId) : sliceOf r ∈ arranged max scope rows docId := by
  obtain ⟨rest, hperm⟩ := arrange_perm max (scope == some docId)
    ((retainedOf rows docId).map sliceOf)
  have hrest : rest = [] := by
    have hlen := hperm.length_eq
    rw [List.length_append, length_arrange, List.length_map] at hlen
    rw [← List.length_eq_zero_iff]
    omega
  rw [hrest, List.append_nil] at hperm
  exact hperm.mem_iff.mp (List.mem_map.mpr ⟨r, hr, rfl⟩)

/-! ## Rows that are cited -/

/-- The slice of the retained row `s` is in the citation of its document. No other retained row of
the document has its segment, so the slice comes from this row. -/
def Cited (max : Nat) (scope : Option String) (rows : List (Row σ)) (s : Row σ) : Prop :=
  s ∈ retained rows ∧ ∃ c ∈ assemble max scope rows,
    c.document.docId = s.document.docId ∧ sliceOf s ∈ c.slices

theorem cited_iff (hmax : 1 ≤ max) {s : Row σ} (hs : s ∈ retained rows) :
    Cited max scope rows s ↔ sliceOf s ∈ arranged max scope rows s.document.docId := by
  constructor
  · rintro ⟨-, c, hc, hdoc, hmem⟩
    rwa [slices_of_mem_assemble hc, hdoc] at hmem
  · intro hmem
    obtain ⟨c, hc, hdoc⟩ := exists_mem_assemble hmax hs
    refine ⟨hs, c, hc, hdoc, ?_⟩
    rwa [slices_of_mem_assemble hc, hdoc]

theorem cited_of_room (hmax : 1 ≤ max) {s : Row σ} (hs : s ∈ retained rows)
    (hroom : (retainedOf rows s.document.docId).length ≤ max) : Cited max scope rows s :=
  (cited_iff hmax hs).mpr (mem_arranged_of_le hroom (mem_retainedOf.mpr ⟨hs, rfl⟩))

/-- A citation is full exactly if its document has as many retained rows as the budget allows. -/
theorem full_iff (hmax : 1 ≤ max) {docId : String} :
    (∃ c ∈ assemble max scope rows, c.document.docId = docId ∧ c.slices.length = max) ↔
      max ≤ (retainedOf rows docId).length := by
  constructor
  · rintro ⟨c, hc, rfl, hlen⟩
    rw [slices_of_mem_assemble hc, length_arranged] at hlen
    omega
  · intro h
    have hpos : 0 < (retainedOf rows docId).length := by omega
    obtain ⟨r, hr⟩ := List.exists_mem_of_length_pos hpos
    obtain ⟨hretained, rfl⟩ := mem_retainedOf.mp hr
    obtain ⟨c, hc, hdoc⟩ := exists_mem_assemble hmax hretained
    refine ⟨c, hc, hdoc, ?_⟩
    rw [slices_of_mem_assemble hc, length_arranged, hdoc]
    omega

/-! ## Rows that are accounted for -/

/-- The text of the row `r`, which stands between `earlier` and `later`, is cited; or the citation
of its document is full; or an earlier row has its place. -/
inductive Accounted (max : Nat) (scope : Option String) (earlier : List (Row σ)) (r : Row σ)
    (later : List (Row σ)) : Prop
  | cited (h : ∃ s, s.key = r.key ∧ Cited max scope (earlier ++ r :: later) s)
  | full (h : ∃ c ∈ assemble max scope (earlier ++ r :: later),
      c.document.docId = r.document.docId ∧ c.slices.length = max)
  | placed (h : ∃ s ∈ earlier, SamePlace s r)

/-- The row is dropped for its text, which a row of another document brought up first, and whose
slice was left out when that document was cut down to the budget. -/
structure Lost (max : Nat) (scope : Option String) (earlier : List (Row σ)) (r : Row σ)
    (later : List (Row σ)) : Prop where
  unplaced : ∀ s ∈ earlier, ¬ SamePlace s r
  room : (retainedOf (earlier ++ r :: later) r.document.docId).length < max
  taken : ∃ s ∈ retained earlier, s.key = r.key ∧ s.document.docId ≠ r.document.docId ∧
    max < (retainedOf (earlier ++ r :: later) s.document.docId).length ∧
    sliceOf s ∉ arranged max scope (earlier ++ r :: later) s.document.docId

variable {earlier later : List (Row σ)} {r : Row σ}

theorem Lost.not_accounted (hmax : 1 ≤ max) (h : Lost max scope earlier r later) :
    ¬ Accounted max scope earlier r later := by
  intro hacc
  cases hacc with
  | cited hcited =>
    obtain ⟨t, htr, ht⟩ := hcited
    obtain ⟨s, hs, hsr, -, -, hout⟩ := h.taken
    have hs' : s ∈ retained (earlier ++ r :: later) := mem_retained_append hs
    obtain rfl := eq_of_key_eq hs' ht.1 (hsr.trans htr.symm)
    exact hout ((cited_iff hmax hs').mp ht)
  | full hfull =>
    have hle := (full_iff hmax).mp hfull
    have hroom := h.room
    omega
  | placed hplaced =>
    obtain ⟨s, hs, hsame⟩ := hplaced
    exact h.unplaced s hs hsame

theorem accounted_of_not_lost (hmax : 1 ≤ max) (h : ¬ Lost max scope earlier r later) :
    Accounted max scope earlier r later := by
  by_cases hplaced : ∃ s ∈ earlier, SamePlace s r
  · exact Accounted.placed hplaced
  by_cases hfull : max ≤ (retainedOf (earlier ++ r :: later) r.document.docId).length
  · exact Accounted.full ((full_iff hmax).mpr hfull)
  by_cases hrep : ∃ s ∈ retained earlier, Repeats s r
  · obtain ⟨s, hs, hplace | hkey⟩ := hrep
    · exact absurd ⟨s, mem_of_mem_retained hs, hplace⟩ hplaced
    have hs' : s ∈ retained (earlier ++ r :: later) := mem_retained_append hs
    by_cases hcited : Cited max scope (earlier ++ r :: later) s
    · exact Accounted.cited ⟨s, hkey, hcited⟩
    -- the row that has the text is not cited, so its document is full, and not the one of `r`
    have hmore : max < (retainedOf (earlier ++ r :: later) s.document.docId).length := by
      apply Nat.lt_of_not_le
      exact fun hle => hcited (cited_of_room hmax hs' hle)
    refine absurd ⟨fun s hs hsame => hplaced ⟨s, hs, hsame⟩, Nat.lt_of_not_le hfull, s, hs, hkey,
      fun hdoc => ?_, hmore, fun hmem => hcited ((cited_iff hmax hs').mpr hmem)⟩ h
    rw [hdoc] at hmore
    omega
  · have hr : r ∈ retained (earlier ++ r :: later) := by
      have hsnoc : r ∈ retained (earlier ++ [r]) := by
        rw [retained_snoc_of_not hrep]
        exact List.mem_append_right _ (List.mem_singleton_self r)
      rw [← List.singleton_append, ← List.append_assoc]
      exact mem_retained_append hsnoc
    exact Accounted.cited ⟨r, rfl, cited_of_room hmax hr (by omega)⟩

/-- **The rows that are not accounted for are exactly the lost ones.** -/
theorem accounted_iff (hmax : 1 ≤ max) :
    Accounted max scope earlier r later ↔ ¬ Lost max scope earlier r later :=
  ⟨fun hacc hlost => hlost.not_accounted hmax hacc, accounted_of_not_lost hmax⟩

/-- **Whether a row is accounted for**: exactly if it is not lost. A text is cited exactly if the
retained row that has it is, and no row is lost whose content is that of one document. -/
theorem assemble_accounted (hmax : 1 ≤ max) (scope : Option String) (earlier : List (Row σ))
    (r : Row σ) (later : List (Row σ)) :
    (Accounted max scope earlier r later ↔ ¬ Lost max scope earlier r later) ∧
      (∀ s ∈ retained earlier, s.key = r.key →
        ((∃ t, t.key = r.key ∧ Cited max scope (earlier ++ r :: later) t) ↔
          Cited max scope (earlier ++ r :: later) s)) ∧
      ((∀ s ∈ earlier, s.md5 = r.md5 → s.document.docId = r.document.docId) →
        Accounted max scope earlier r later) := by
  refine ⟨accounted_iff hmax, fun s hs hkey => ⟨?_, fun h => ⟨s, hkey, h⟩⟩, fun hdoc => ?_⟩
  · rintro ⟨t, htr, ht⟩
    obtain rfl := eq_of_key_eq (mem_retained_append hs) ht.1 (hkey.trans htr.symm)
    exact ht
  · refine accounted_of_not_lost hmax fun hlost => ?_
    obtain ⟨s, hs, hkey, hne, -⟩ := hlost.taken
    exact hne (hdoc s (mem_of_mem_retained hs) (congrArg Prod.fst hkey))

theorem length_retainedOf_repeating (docId : String) :
    (retainedOf (ownRows ++ [repeatingRow]) docId).length ≤ 2 := by
  unfold retainedOf
  rw [retained_repeating]
  exact List.length_filter_le _ _

/-- With room for both slices of the one document, the text of the other is cited there. -/
theorem text_cited_elsewhere :
    1 ≤ 2 ∧ Accounted 2 none ownRows repeatingRow [] := by
  have hmax : 1 ≤ 2 := by decide
  refine ⟨hmax, (assemble_accounted hmax none _ _ _).1.mpr fun hlost => ?_⟩
  obtain ⟨s, -, -, -, hmore, -⟩ := hlost.taken
  exact absurd hmore (Nat.not_lt_of_le (length_retainedOf_repeating s.document.docId))

/-- With room for one, the text "b" is cited nowhere: the budget leaves it out of the one citation,
and the row that would cite it again is dropped. -/
theorem text_dropped_uncited :
    1 ≤ 1 ∧ ¬ Accounted 1 none ownRows repeatingRow [] := by
  refine ⟨Nat.le_refl 1, Lost.not_accounted (Nat.le_refl 1) ⟨?_, ?_, sampleRow "A" "m" "b" 5, ?_⟩⟩
  · simp [SamePlace, ownRows, repeatingRow, sampleRow, sample, Row.ofCandidate, Row.document]
  · unfold retainedOf
    rw [retained_repeating]
    exact Nat.zero_lt_one
  · have hmem : sampleRow "A" "m" "b" 5 ∈ retained ownRows := by
      rw [retained_ownRows]
      exact List.mem_cons_of_mem _ List.mem_cons_self
    refine ⟨hmem, rfl, by decide, ?_, ?_⟩
    · unfold retainedOf
      rw [retained_repeating]
      exact Nat.one_lt_two
    · unfold arranged retainedOf
      rw [retained_repeating]
      show sliceOf (sampleRow "A" "m" "b" 5) ∉ [sliceOf (sampleRow "A" "m" "a" 1)]
      intro hmem
      have hseg := congrArg CitedSlice.no (List.mem_singleton.mp hmem)
      exact absurd hseg (by decide)

end EvidenceRank.Citation
