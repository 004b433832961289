import EvidenceRank.Proofs.Citation.Coverage
import EvidenceRank.Proofs.Citation.Trimming
import EvidenceRank.Proofs.Citation.Windows

/-!
# The slice that leads a citation

A citation starts with the best of the slices that trimming leaves: it is the first of its run, as
a slice of the run that outranked it would have been cut off, and no run outranks its own.

Trimming leaves the best slice of the document, with one exception. A slice without a neighbour
may go wherever it stands, so the best one goes too when it has none, and when those that have one
are as many as the budget allows. Then no slice without a neighbour is left.

Results:
* `head?_connect`: runs stand in the order of their ranks, so connecting leaves the first slice
  first.
* `FirstOf.of_retains`: the first retained row of a document is its first row that repeats no text.
* `trimTail_of_goes`: what trimming leaves where the best slice goes.
* `assemble_led`: which row leads the citation of a document.
* `lone_head_dropped`: a best row that does not.
-/

namespace EvidenceRank.Citation

variable {σ : Type}

/-! ## Connecting -/

/-- The slice with rank 0 is the first. -/
theorem eq_of_mem_placed {s : CitedSlice σ} {rest : List (CitedSlice σ)} {p : Placed σ}
    (hp : p ∈ placed (s :: rest)) (hrank : p.1 = 0) : p = (0, s) := by
  have hplaced : placed (s :: rest) = (0, s) :: (placed (s :: rest)).tail := by
    unfold placed
    rw [List.length_cons, List.range_succ_eq_map]
    rfl
  have hpair := placed_pairwise (s :: rest)
  rw [hplaced] at hp hpair
  rcases List.mem_cons.mp hp with rfl | hlater
  · rfl
  · have hlt := (List.pairwise_cons.mp hpair).1 p hlater
    omega

/-- **Connecting leaves the first slice first.** -/
theorem head?_connect {max : Nat} (hmax : 1 ≤ max) (slices : List (CitedSlice σ)) :
    (connect max slices).head? = slices.head? := by
  cases slices with
  | nil =>
    show (([] : List (Placed σ)).take max |>.map (·.2)).head? = none
    rw [List.take_nil]
    rfl
  | cons s rest =>
    have hbest : (0, s) ∈ placed (s :: rest) := by
      unfold placed
      rw [List.length_cons, List.range_succ_eq_map]
      exact List.mem_cons_self
    -- some run holds the first slice, so the best run has rank 0
    obtain ⟨r, hr, hsr⟩ := List.mem_flatten.mp (mem_flatten_windows.mpr hbest)
    have hzero : runRank r = 0 := by
      obtain ⟨head, tail, rfl⟩ := List.exists_cons_of_ne_nil (isRun_of_mem_windows hr).ne_nil
      exact Nat.le_zero.mp ((isRun_of_mem_windows hr).headed head rfl _ hsr)
    cases hwindows : windows (s :: rest) with
    | nil =>
      rw [hwindows] at hr
      exact absurd hr List.not_mem_nil
    | cons w ws =>
      have hw : w ∈ windows (s :: rest) := by
        rw [hwindows]
        exact List.mem_cons_self
      have hle : runRank w ≤ runRank r := by
        have hpair := windows_pairwise (s :: rest)
        rw [hwindows] at hr hpair
        rcases List.mem_cons.mp hr with rfl | hr
        · exact Nat.le_refl _
        · exact (List.pairwise_cons.mp hpair).1 r hr
      -- and only the first slice has that rank, so it heads the best run
      obtain ⟨head, tail, rfl⟩ := List.exists_cons_of_ne_nil (isRun_of_mem_windows hw).ne_nil
      have hhead : head = (0, s) := by
        have hplaced : head ∈ placed (s :: rest) := mem_placed_of_mem hw List.mem_cons_self
        exact eq_of_mem_placed hplaced (Nat.le_zero.mp (hle.trans (Nat.le_of_eq hzero)))
      obtain ⟨k, rfl⟩ := Nat.exists_eq_add_of_le' hmax
      rw [connect_eq, hwindows, hhead]
      rfl

/-! ## The first row of a document -/

/-- `first` is the first row of the document that repeats no text retained before. -/
def FirstOf (rows : List (Row σ)) (docId : String) (first : Row σ) : Prop :=
  ∃ earlier later, rows = earlier ++ first :: later ∧ first.document.docId = docId ∧
    (∀ t ∈ retained earlier, t.key ≠ first.key) ∧
    ∀ before s after, earlier = before ++ s :: after → s.document.docId = docId →
      ∃ t ∈ retained before, t.key = s.key

theorem FirstOf.append {rows : List (Row σ)} {docId : String} {first : Row σ}
    (h : FirstOf rows docId first) (r : Row σ) : FirstOf (rows ++ [r]) docId first := by
  obtain ⟨earlier, later, rfl, hrest⟩ := h
  exact ⟨earlier, later ++ [r], by rw [List.append_assoc, List.cons_append], hrest⟩

/-- A document of which no row is retained has only rows with texts of other documents. -/
theorem key_retained_of_nil {rows before after : List (Row σ)} {s : Row σ} {docId : String}
    (h : retainedOf rows docId = []) (hrows : rows = before ++ s :: after)
    (hs : s.document.docId = docId) : ∃ t ∈ retained before, t.key = s.key := by
  have hnone : ∀ t ∈ retained rows, t.document.docId ≠ docId := by
    intro t ht hdoc
    have hmem : t ∈ retainedOf rows docId := mem_retainedOf.mpr ⟨ht, hdoc⟩
    rw [h] at hmem
    exact absurd hmem List.not_mem_nil
  have hsplit : rows = (before ++ [s]) ++ after := by
    rw [hrows, List.append_assoc, List.singleton_append]
  by_cases hrep : ∃ t ∈ retained before, Repeats t s
  · obtain ⟨t, ht, hplace | hkey⟩ := hrep
    · have hmem : t ∈ retained rows := by
        rw [hrows]
        exact mem_retained_append ht
      exact absurd (hplace.1.trans hs) (hnone t hmem)
    · exact ⟨t, ht, hkey⟩
  · have hmem : s ∈ retained rows := by
      rw [hsplit]
      refine mem_retained_append ?_
      rw [retained_snoc_of_not hrep]
      exact List.mem_append_right _ List.mem_cons_self
    exact absurd hs (hnone s hmem)

/-- **The first retained row of a document is its first row that repeats no text.** -/
theorem FirstOf.of_retains {rows kept : List (Row σ)} (h : Retains rows kept) {docId : String}
    {first : Row σ} (hfirst : (kept.filter (·.document.docId == docId)).head? = some first) :
    FirstOf rows docId first := by
  induction h with
  | nil => exact absurd hfirst (by simp)
  | @keep rows kept r h hr ih =>
    rw [List.filter_append, List.head?_append] at hfirst
    cases hkept : (kept.filter (·.document.docId == docId)).head? with
    | some s =>
      rw [hkept] at hfirst
      obtain rfl := Option.some.inj hfirst
      exact (ih hkept).append r
    | none =>
      rw [hkept, Option.none_or] at hfirst
      have hmem := List.mem_of_head? hfirst
      obtain ⟨hr', hdoc⟩ := List.mem_filter.mp hmem
      obtain rfl := List.mem_singleton.mp hr'
      have hnil : retainedOf rows docId = [] := by
        unfold retainedOf
        rw [← h.unique]
        exact List.head?_eq_none_iff.mp hkept
      rw [h.unique] at hr
      exact ⟨rows, [], rfl, beq_iff_eq.mp hdoc, fun t ht hkey => hr t ht (Or.inr hkey),
        fun before s after hrows hs => key_retained_of_nil hnil hrows hs⟩
  | drop _ _ ih => exact (ih hfirst).append _

/-! ## The leading row -/

/-- One of the rows has the segment right in front of that of `r`, or right behind it. -/
def HasNeighbour (rows : List (Row σ)) (r : Row σ) : Prop :=
  ∃ s ∈ rows, r.candidate.segment.toInt + 1 = s.candidate.segment.toInt ∨
    s.candidate.segment.toInt + 1 = r.candidate.segment.toInt

instance (rows : List (Row σ)) : DecidablePred (HasNeighbour rows) := fun _ =>
  inferInstanceAs (Decidable (∃ s ∈ rows, _))

/-- The citation of a document goes without its first retained row: the row has no neighbour in
the document, and the rows that have one use up the budget. -/
structure GoesWithout (max : Nat) (scope : Option String) (rows : List (Row σ)) (docId : String)
    (first : Row σ) : Prop where
  unscoped : scope ≠ some docId
  lone : ¬ HasNeighbour (retainedOf rows docId) first
  crowded : max ≤ (retainedOf rows docId).countP (HasNeighbour (retainedOf rows docId) ·)

variable [Score σ]

theorem isolated_sliceOf (rows : List (Row σ)) (r : Row σ) :
    isolated (rows.map sliceOf) (sliceOf r) = !decide (HasNeighbour rows r) := by
  rw [Bool.eq_iff_iff, isolated_iff, Bool.not_eq_true', decide_eq_false_iff_not]
  unfold HasNeighbour
  rw [List.forall_mem_map]
  constructor
  · rintro h ⟨s, hs, hnext⟩
    have hfar := h s hs
    unfold adjacent at hfar
    rw [Bool.or_eq_false_iff, beq_eq_false_iff_ne, beq_eq_false_iff_ne] at hfar
    rcases hnext with hnext | hnext
    · exact hfar.1 hnext
    · exact hfar.2 hnext
  · intro h s hs
    unfold adjacent
    rw [Bool.or_eq_false_iff, beq_eq_false_iff_ne, beq_eq_false_iff_ne]
    exact ⟨fun hnext => h ⟨s, hs, Or.inl hnext⟩, fun hnext => h ⟨s, hs, Or.inr hnext⟩⟩

variable {max : Nat} {scope : Option String} {rows : List (Row σ)} {docId : String}
  {first : Row σ} {others : List (Row σ)}

theorem head?_map_sliceOf (h : retainedOf rows docId = first :: others) :
    ((retainedOf rows docId).map sliceOf).head? = some (sliceOf first) := by
  rw [h]
  rfl

/-- Trimming the slices of a document gives up the first in just this case. -/
theorem headGoes_iff (h : retainedOf rows docId = first :: others) :
    HeadGoes max ((retainedOf rows docId).map sliceOf) ↔
      ¬ HasNeighbour (retainedOf rows docId) first ∧
        max ≤ (retainedOf rows docId).countP (HasNeighbour (retainedOf rows docId) ·) := by
  unfold HeadGoes
  rw [head?_map_sliceOf h, List.countP_map]
  simp only [Option.mem_some, exists_eq_left', isolated_sliceOf, Function.comp_def, Bool.not_not,
    Bool.not_eq_true', decide_eq_false_iff_not]

theorem arranged_unscoped (h : scope ≠ some docId) : arranged max scope rows docId =
    connect max (trimTail max ((retainedOf rows docId).map sliceOf)) := by
  unfold arranged arrange
  rw [if_neg (by rwa [beq_iff_eq])]

/-- What is arranged for a document that is not the scoped one starts with what trimming leaves
first. -/
theorem head?_arranged_unscoped (hmax : 1 ≤ max) (h : scope ≠ some docId) :
    (arranged max scope rows docId).head? =
      (trimTail max ((retainedOf rows docId).map sliceOf)).head? := by
  rw [arranged_unscoped h, head?_connect hmax]

theorem head?_arranged (hmax : 1 ≤ max) (h : retainedOf rows docId = first :: others)
    (hgoes : ¬ GoesWithout max scope rows docId first) :
    (arranged max scope rows docId).head? = some (sliceOf first) := by
  by_cases hscope : scope = some docId
  · unfold arranged arrange
    obtain ⟨k, rfl⟩ := Nat.exists_eq_add_of_le' hmax
    rw [hscope, if_pos (beq_self_eq_true _), h]
    rfl
  · rw [head?_arranged_unscoped hmax hscope, head?_trimTail_of_not, head?_map_sliceOf h]
    intro hgo
    obtain ⟨hlone, hcrowded⟩ := (headGoes_iff h).mp hgo
    exact hgoes ⟨hscope, hlone, hcrowded⟩

/-- **Where the first row goes, so do all rows without a neighbour.** -/
theorem trimTail_of_goes (h : retainedOf rows docId = first :: others)
    (hgoes : GoesWithout max scope rows docId first) :
    trimTail max ((retainedOf rows docId).map sliceOf) =
      ((retainedOf rows docId).filter (HasNeighbour (retainedOf rows docId) ·)).map sliceOf := by
  rw [trimTail_of_headGoes ((headGoes_iff h).mpr ⟨hgoes.lone, hgoes.crowded⟩), List.filter_map]
  simp only [Function.comp_def, isolated_sliceOf, Bool.not_not]

omit [Score σ] in
/-- Where the first row goes, there is one with a neighbour. -/
theorem exists_of_goes (hmax : 1 ≤ max) (hgoes : GoesWithout max scope rows docId first) :
    ∃ r, (retainedOf rows docId).find? (HasNeighbour (retainedOf rows docId) ·) = some r := by
  refine Option.isSome_iff_exists.mp ?_
  rw [List.find?_isSome]
  exact List.countP_pos_iff.mp (Nat.lt_of_lt_of_le hmax hgoes.crowded)

/-- **Which row leads a citation**: the first retained row of the document, unless the citation
goes without it; then trimming leaves just the rows that have a neighbour, and the first of them
leads. Connecting what trimming leaves keeps its first slice. -/
theorem assemble_led {max : Nat} (hmax : 1 ≤ max) (scope : Option String) (rows : List (Row σ))
    {c : Citation σ} (hc : c ∈ assemble max scope rows) :
    ∃ first, (retainedOf rows c.document.docId).head? = some first ∧
      FirstOf rows c.document.docId first ∧
      (¬ GoesWithout max scope rows c.document.docId first →
        c.slices.head? = some (sliceOf first)) ∧
      (GoesWithout max scope rows c.document.docId first →
        trimTail max ((retainedOf rows c.document.docId).map sliceOf) =
          ((retainedOf rows c.document.docId).filter
            (HasNeighbour (retainedOf rows c.document.docId) ·)).map sliceOf ∧
        ∃ r, (retainedOf rows c.document.docId).find?
            (HasNeighbour (retainedOf rows c.document.docId) ·) = some r ∧
          c.slices.head? = some (sliceOf r)) ∧
      (scope ≠ some c.document.docId →
        c.slices = connect max (trimTail max ((retainedOf rows c.document.docId).map sliceOf)) ∧
        c.slices.head? =
          (trimTail max ((retainedOf rows c.document.docId).map sliceOf)).head?) := by
  obtain ⟨⟨r, hr, hdoc⟩, -, hslices, -⟩ := exists_of_mem_assemble hc
  have hmem : r ∈ retainedOf rows c.document.docId :=
    mem_retainedOf.mpr ⟨hr, congrArg Document.docId hdoc⟩
  obtain ⟨first, others, howned⟩ := List.exists_cons_of_ne_nil (List.ne_nil_of_mem hmem)
  have hfirst : (retainedOf rows c.document.docId).head? = some first := by
    rw [howned]
    rfl
  refine ⟨first, hfirst, FirstOf.of_retains (retained_retains rows) hfirst, fun hgoes => ?_,
    fun hgoes => ?_, fun hscope => ?_⟩
  · rw [hslices, head?_arranged hmax howned hgoes]
  · have htrimmed := trimTail_of_goes howned hgoes
    obtain ⟨r, hr⟩ := exists_of_goes hmax hgoes
    refine ⟨htrimmed, r, hr, ?_⟩
    rw [hslices, head?_arranged_unscoped hmax hgoes.unscoped, htrimmed, List.head?_map,
      List.head?_filter, hr]
    rfl
  · rw [hslices]
    exact ⟨arranged_unscoped hscope, head?_arranged_unscoped hmax hscope⟩

/-! ## A best row without a neighbour -/

/-- The best row stands alone, the two behind it are adjacent. -/
def lone : List (Row Float) :=
  [sampleRow "A" "m" "a" 10, sampleRow "A" "m" "b" 1, sampleRow "A" "m" "c" 2]

theorem retainedOf_lone : retainedOf lone "A" = lone := by
  have hne := hash_nodup
  have hall : retained lone = lone := by
    simp only [List.nodup_cons, List.mem_cons, List.not_mem_nil, or_false, not_or] at hne
    simp [lone, retained, retainFrom, samePlace, sampleRow, sample, Row.ofCandidate, Row.document,
      Row.key, Row.md5, hne]
  unfold retainedOf
  rw [hall]
  rfl

theorem arranged_lone : arranged 1 none lone "A" = [sliceOf (sampleRow "A" "m" "b" 1)] := by
  unfold arranged
  rw [retainedOf_lone]
  rfl

theorem exists_citation_lone : ∃ c ∈ assemble 1 none lone, c.document.docId = "A" := by
  have hmem : sampleRow "A" "m" "a" 10 ∈ retainedOf lone "A" := by
    rw [retainedOf_lone]
    exact List.mem_cons_self
  exact exists_mem_assemble (Nat.le_refl 1) (mem_retainedOf.mp hmem).1

theorem goesWithout_lone : GoesWithout 1 none lone "A" (sampleRow "A" "m" "a" 10) := by
  constructor
  case unscoped => exact fun h => nomatch h
  case lone =>
    rw [retainedOf_lone]
    decide
  case crowded =>
    rw [retainedOf_lone]
    decide

/-- With room for one slice trimming leaves the two adjacent rows, and the second row leads. -/
theorem second_row_leads :
    1 ≤ 1 ∧ trimTail 1 (lone.map sliceOf) =
        [sampleRow "A" "m" "b" 1, sampleRow "A" "m" "c" 2].map sliceOf ∧
      ∃ c ∈ assemble 1 none lone,
        c.slices.head? = some (sliceOf (sampleRow "A" "m" "b" 1)) := by
  obtain ⟨c, hc, hA⟩ := exists_citation_lone
  obtain ⟨first, hfirst, -, -, hgoes, -⟩ := assemble_led (Nat.le_refl 1) none lone hc
  rw [hA] at hgoes hfirst
  rw [retainedOf_lone] at hfirst hgoes
  obtain rfl := Option.some.inj hfirst
  obtain ⟨htrimmed, r, hr, hhead⟩ := hgoes goesWithout_lone
  have hsecond : lone.find? (HasNeighbour lone ·) = some (sampleRow "A" "m" "b" 1) := rfl
  rw [hsecond] at hr
  obtain rfl := Option.some.inj hr
  exact ⟨Nat.le_refl 1, htrimmed, c, hc, hhead⟩

/-- The first row of the document, which repeats no text, does not lead its citation. -/
theorem lone_head_dropped : 1 ≤ 1 ∧ ¬ ∀ c ∈ assemble 1 none lone, ∀ first,
    FirstOf lone c.document.docId first → c.slices.head? = some (sliceOf first) := by
  refine ⟨Nat.le_refl 1, fun hall => ?_⟩
  have hfirst : FirstOf lone "A" (sampleRow "A" "m" "a" 10) := by
    refine FirstOf.of_retains (retained_retains lone) ?_
    show (retainedOf lone "A").head? = _
    rw [retainedOf_lone]
    rfl
  obtain ⟨c, hc, hA⟩ := exists_citation_lone
  have hhead := hall c hc (sampleRow "A" "m" "a" 10) (hA ▸ hfirst)
  rw [slices_of_mem_assemble hc, hA, arranged_lone] at hhead
  have hno := congrArg CitedSlice.no (Option.some.inj hhead)
  exact absurd hno (by decide)

end EvidenceRank.Citation
