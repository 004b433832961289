import EvidenceRank.Proofs.Citation.Arrangement
import EvidenceRank.Proofs.Citation.Retained
import Mathlib.Data.List.Forall2

/-!
# The shape of citations

With a budget of one slice or more, every document with a retained row has a citation. `Cites` says
what a citation holds in terms of the retained rows that its slices come from.

Results:
* `exists_cites`: the citation of one document.
* `assemble_forall₂`: citations of the same rows under other budgets and scopes, one by one.
* `assemble_shape`: one citation per document, in the order of their first retained rows, and all
  slices together come from different retained rows.
-/

namespace EvidenceRank.Citation

variable {σ : Type}

/-! ## Retained rows of one document -/

/-- The retained rows of a document. -/
def retainedOf (rows : List (Row σ)) (docId : String) : List (Row σ) :=
  (retained rows).filter (·.document.docId == docId)

variable {rows : List (Row σ)} {docId : String}

theorem mem_retainedOf {r : Row σ} :
    r ∈ retainedOf rows docId ↔ r ∈ retained rows ∧ r.document.docId = docId := by
  unfold retainedOf
  rw [List.mem_filter, beq_iff_eq]

/-- They differ in their keys and in their segments. -/
theorem retainedOf_pairwise (rows : List (Row σ)) (docId : String) :
    (retainedOf rows docId).Pairwise fun r s =>
      r.key ≠ s.key ∧ r.candidate.segment ≠ s.candidate.segment := by
  refine ((retained_pairwise rows).filter _).imp_of_mem fun {r s} hr hs hrep => ?_
  have hdoc : r.document.docId = s.document.docId := by
    rw [(mem_retainedOf.mp hr).2, (mem_retainedOf.mp hs).2]
  exact ⟨fun hkey => hrep (Or.inr hkey), fun hseg => hrep (Or.inl ⟨hdoc, hseg⟩)⟩

/-! ## What a citation holds -/

variable [Score σ]

/-- The citation of the document of a row. -/
def citationOf? (max : Nat) (scope : Option String) (rows : List (Row σ)) (first : Row σ) :
    Option (Citation σ) :=
  ofSlices? max scope first.document ((retainedOf rows first.document.docId).map sliceOf)

theorem assemble_eq (max : Nat) (scope : Option String) (rows : List (Row σ)) :
    assemble max scope rows = (Lists.distinctBy (·.document.docId) (retained rows)).filterMap
      (citationOf? max scope rows) :=
  rfl

/-- The slices of the citation are those of `cited`, which are retained rows of its document, as
many as the budget allows. -/
structure Cites (max : Nat) (rows : List (Row σ)) (c : Citation σ) (cited : List (Row σ)) :
    Prop where
  slices : c.slices = cited.map sliceOf
  owned : ∀ r ∈ cited, r ∈ retained rows ∧ r.document.docId = c.document.docId
  count : c.slices.length = min max ((retained rows).countP (·.document.docId == c.document.docId))
  keys : (cited.map Row.key).Nodup
  segments : (c.slices.map (·.no)).Nodup
  content : c.content = "\n".intercalate (c.slices.map (·.content))

/-- **A document with a retained row has a citation.** -/
theorem exists_cites {max : Nat} (hmax : 1 ≤ max) (scope : Option String) {first : Row σ}
    (hfirst : first ∈ retained rows) : ∃ c cited, citationOf? max scope rows first = some c ∧
      c.document = first.document ∧ Cites max rows c cited := by
  let owned := retainedOf rows first.document.docId
  let inScope := scope == some first.document.docId
  obtain ⟨cited, rest, hperm, hcited⟩ := exists_rows_of_arrange (f := sliceOf) max inScope owned
  have hlen : (arrange max inScope (owned.map sliceOf)).length = min max owned.length := by
    rw [length_arrange, List.length_map]
  have hdiffer : cited.Pairwise fun r s =>
      r.key ≠ s.key ∧ r.candidate.segment ≠ s.candidate.segment := by
    have h := hperm.pairwise (retainedOf_pairwise rows _) fun h => ⟨h.1.symm, h.2.symm⟩
    exact (List.pairwise_append.mp h).1
  have hne : arrange max inScope (owned.map sliceOf) ≠ [] := by
    have hpos : 0 < owned.length := List.length_pos_of_mem (mem_retainedOf.mpr ⟨hfirst, rfl⟩)
    rw [← List.length_pos_iff, hlen]
    omega
  unfold citationOf? ofSlices?
  cases h : arrange max inScope (owned.map sliceOf) with
  | nil => exact absurd h hne
  | cons s slices =>
    refine ⟨_, cited, rfl, rfl, ?_⟩
    rw [h] at hcited hlen
    constructor
    case slices => exact hcited.symm
    case owned =>
      intro r hr
      exact mem_retainedOf.mp (hperm.mem_iff.mpr (List.mem_append_left rest hr))
    case count => rw [hlen, List.countP_eq_length_filter]; rfl
    case keys => exact List.pairwise_map.mpr (hdiffer.imp And.left)
    case segments =>
      show ((s :: slices).map (·.no)).Nodup
      rw [← hcited, List.map_map]
      exact List.pairwise_map.mpr (hdiffer.imp And.right)
    case content => rfl

/-! ## All citations -/

/-- Citations of the same rows correspond, whatever the budgets and scopes, and so does what can be
said of the two citations of every document. -/
theorem assemble_forall₂ {max more : Nat} (hmax : 1 ≤ max) (hmore : 1 ≤ more)
    {scope scope' : Option String} {R : Citation σ → Citation σ → Prop}
    (hR : ∀ first c d, citationOf? max scope rows first = some c →
      citationOf? more scope' rows first = some d → R c d) :
    List.Forall₂ R (assemble max scope rows) (assemble more scope' rows) := by
  have hall : ∀ firsts : List (Row σ), (∀ first ∈ firsts, first ∈ retained rows) →
      List.Forall₂ R (firsts.filterMap (citationOf? max scope rows))
        (firsts.filterMap (citationOf? more scope' rows)) := by
    intro firsts hfirsts
    induction firsts with
    | nil => exact List.Forall₂.nil
    | cons first firsts ih =>
      have hmem : first ∈ retained rows := hfirsts first List.mem_cons_self
      obtain ⟨c, -, hc, -⟩ := exists_cites hmax scope hmem
      obtain ⟨d, -, hd, -⟩ := exists_cites hmore scope' hmem
      rw [List.filterMap_cons_some hc, List.filterMap_cons_some hd]
      exact List.Forall₂.cons (hR first c d hc hd)
        (ih fun f hf => hfirsts f (List.mem_cons_of_mem first hf))
  rw [assemble_eq, assemble_eq]
  exact hall _ fun first hfirst => Lists.mem_of_mem_distinctBy hfirst

/-- The citations of the documents of some retained rows, each with the rows that it cites. -/
theorem exists_parts {max : Nat} (hmax : 1 ≤ max) (scope : Option String) {firsts : List (Row σ)}
    (h : ∀ first ∈ firsts, first ∈ retained rows) : ∃ parts : List (Citation σ × List (Row σ)),
      parts.map Prod.fst = firsts.filterMap (citationOf? max scope rows) ∧
      parts.map (·.1.document) = firsts.map Row.document ∧
      ∀ p ∈ parts, Cites max rows p.1 p.2 := by
  induction firsts with
  | nil => exact ⟨[], rfl, rfl, fun p hp => absurd hp List.not_mem_nil⟩
  | cons first firsts ih =>
    obtain ⟨parts, hfst, hdoc, hcites⟩ := ih fun f hf => h f (List.mem_cons_of_mem first hf)
    obtain ⟨c, cited, hc, hcdoc, hcited⟩ := exists_cites hmax scope (h first List.mem_cons_self)
    refine ⟨(c, cited) :: parts, ?_, ?_, fun p hp => ?_⟩
    · rw [List.map_cons, List.filterMap_cons_some hc, hfst]
    · rw [List.map_cons, List.map_cons, hdoc, hcdoc]
    · rcases List.mem_cons.mp hp with rfl | hp
      · exact hcited
      · exact hcites p hp

/-- **One citation per document, and no text twice.** -/
theorem assemble_shape {max : Nat} (hmax : 1 ≤ max) (scope : Option String)
    (rows : List (Row σ)) :
    Retains rows (retained rows) ∧
      (assemble max scope rows).map (·.document.docId) =
        ((retained rows).map (·.document.docId)).eraseDups ∧
      ∃ parts : List (Citation σ × List (Row σ)), parts.map Prod.fst = assemble max scope rows ∧
        (∀ p ∈ parts, Cites max rows p.1 p.2) ∧
        ((parts.flatMap Prod.snd).map Row.key).Nodup := by
  obtain ⟨parts, hfst, hdoc, hcites⟩ := exists_parts hmax scope fun first
    (hf : first ∈ Lists.distinctBy (·.document.docId) (retained rows)) =>
      Lists.mem_of_mem_distinctBy hf
  rw [← assemble_eq] at hfst
  have hids : parts.map (·.1.document.docId) =
      (Lists.distinctBy (·.document.docId) (retained rows)).map (·.document.docId) := by
    have h := congrArg (List.map Document.docId) hdoc
    rwa [List.map_map, List.map_map] at h
  have hapart : parts.Pairwise fun p q => p.1.document.docId ≠ q.1.document.docId := by
    have h : (parts.map (·.1.document.docId)).Pairwise (· ≠ ·) := by
      rw [hids, List.pairwise_map]
      exact Lists.distinctBy_pairwise _ _
    exact List.pairwise_map.mp h
  refine ⟨retained_retains rows, ?_, parts, hfst, hcites, ?_⟩
  · rw [← hfst, List.map_map, ← Lists.map_distinctBy]
    exact hids
  · -- rows of two citations are of different documents, so they are different retained rows
    refine List.pairwise_map.mpr (List.pairwise_flatMap.mpr ⟨fun p hp => ?_, ?_⟩)
    · exact List.pairwise_map.mp (hcites p hp).keys
    · refine hapart.imp_of_mem fun {p q} hp hq hne r hr s hs hkey => hne ?_
      obtain ⟨hrmem, hrdoc⟩ := (hcites p hp).owned r hr
      obtain ⟨hsmem, hsdoc⟩ := (hcites q hq).owned s hs
      rw [← hrdoc, ← hsdoc, eq_of_key_eq hrmem hsmem hkey]

/-- A document of which the only row repeats a text has no citation. -/
theorem assemble_shape_plain :
    1 ≤ 1 ∧ (assemble 1 none (ownRows ++ [repeatingRow])).map (·.document.docId) = ["A"] := by
  obtain ⟨-, hids, -⟩ := assemble_shape (Nat.le_refl 1) none (ownRows ++ [repeatingRow])
  rw [retained_repeating] at hids
  exact ⟨Nat.le_refl 1, hids⟩

end EvidenceRank.Citation
