import EvidenceRank.Proofs.Expansion.Identity
import Mathlib.Data.List.Induction

/-!
# Which records are accepted

Records are gone through in order. The row of a record goes behind the others if it repeats neither
a text nor a place, of a top row or of a row accepted before; otherwise the record is rejected and
leaves no trace, so that it may as well be missing.

What the row of a record looks like (`MadeOf`) and which records are accepted (`Accepts`) is said
apart from the functions that make and append rows.

Results:
* `madeOf_iff`: a record makes one row.
* `Accepts.rows`, `exists_accepts`: the rows of accepted records, and no others, are appended.
* `appendSuccessors_skip`: a rejected record leaves no trace.
* `appendSuccessors_greedy`: what is appended to any rows.
-/

namespace EvidenceRank.Expansion

variable {σ : Type} [Score σ] {top added : List (Row σ)} {named : List (String × SliceRecord)}
  {x : String × SliceRecord} {r : Row σ}

/-! ## The row of a record -/

/-- `r` is the row that the record `x.2` makes behind the rows `top`, under the id `x.1`: what the
record says of the slice, in the document of the last row with its address, without scores. -/
structure MadeOf (top : List (Row σ)) (x : String × SliceRecord) (r : Row σ) : Prop where
  uuid : r.candidate.uuid = x.1
  text : r.candidate.text = x.2.text
  textHash : r.textHash = Text.hash x.2.text
  segment : r.candidate.segment = x.2.segment
  pages : r.candidate.pages = x.2.pages
  anchor : r.anchor = some x.2.anchor
  embedding : r.candidate.embedding = none
  score : r.candidate.score = 0.0
  dense : r.dense = none
  sparse : r.sparse = none
  relevance : r.relevance = none
  hits : r.hits = none
  merged : r.merged = none
  known : ∀ s, LastAt top x.2.docId s → r.document = s.document
  /-- If no row has the address, the identity is the one that the record tells of. -/
  unknown : (∀ s ∈ top, s.document.docId ≠ x.2.docId) → r.document = claimed x.2

theorem MadeOf.document (h : MadeOf top x r) : r.document = documentOf top x.2 := by
  rcases exists_lastAt_or top x.2.docId with ⟨s, hs⟩ | hnone
  · rw [h.known s hs, documentOf_of_lastAt hs]
  · rw [h.unknown hnone, documentOf_of_unknown hnone]

theorem madeOf_successorRow (top : List (Row σ)) (x : String × SliceRecord) :
    MadeOf top x (successorRow top x.1 x.2) where
  uuid := rfl
  text := rfl
  textHash := rfl
  segment := rfl
  pages := rfl
  anchor := rfl
  embedding := rfl
  score := rfl
  dense := rfl
  sparse := rfl
  relevance := rfl
  hits := rfl
  merged := rfl
  known _ hs := documentOf_of_lastAt hs
  unknown hnone := documentOf_of_unknown hnone

/-- **A record makes one row.** -/
theorem madeOf_iff : MadeOf top x r ↔ r = successorRow top x.1 x.2 := by
  constructor
  · intro h
    have hdoc := h.document
    obtain ⟨⟨uuid, document, text, segment, pages, embedding, score⟩, textHash, dense, sparse,
      relevance, hits, merged, anchor⟩ := r
    obtain ⟨rfl, rfl, rfl, rfl, rfl, rfl, rfl, rfl, rfl, rfl, rfl, rfl, rfl, -, -⟩ := h
    change document = _ at hdoc
    rw [hdoc]
    rfl
  · rintro rfl
    exact madeOf_successorRow top x

/-! ## Appending one more record -/

theorem rows_appendSuccessors_append (top : List (Row σ))
    (named others : List (String × SliceRecord)) : (appendSuccessors top (named ++ others)).rows =
      appendNew (appendSuccessors top named).rows
        (others.map fun x => successorRow top x.1 x.2) := by
  rw [rows_appendSuccessors, rows_appendSuccessors, List.map_append, appendNew_append]

theorem rows_snoc_of_repeats
    (h : repeats (appendSuccessors top named).rows (successorRow top x.1 x.2) = true) :
    (appendSuccessors top (named ++ [x])).rows = (appendSuccessors top named).rows := by
  rw [rows_appendSuccessors_append, List.map_singleton, appendNew_cons, if_pos h]
  rfl

theorem rows_snoc_of_not_repeats
    (h : repeats (appendSuccessors top named).rows (successorRow top x.1 x.2) = false) :
    (appendSuccessors top (named ++ [x])).rows =
      (appendSuccessors top named).rows ++ [successorRow top x.1 x.2] := by
  rw [rows_appendSuccessors_append, List.map_singleton, appendNew_cons, h,
    if_neg Bool.false_ne_true]
  rfl

/-! ## Accepted records -/

/-- Going through the records in order, `added` are the rows of the accepted ones. -/
inductive Accepts (top : List (Row σ)) : List (String × SliceRecord) → List (Row σ) → Prop
  | nil : Accepts top [] []
  | accept {named : List (String × SliceRecord)} {added : List (Row σ)}
      {x : String × SliceRecord} {r : Row σ} (h : Accepts top named added) (hr : MadeOf top x r)
      (hnew : ∀ s ∈ top ++ added, s.key ≠ r.key ∧ s.position ≠ r.position) :
      Accepts top (named ++ [x]) (added ++ [r])
  | reject {named : List (String × SliceRecord)} {added : List (Row σ)}
      {x : String × SliceRecord} {r : Row σ} (h : Accepts top named added) (hr : MadeOf top x r)
      (hold : ∃ s ∈ top ++ added, s.key = r.key ∨ s.position = r.position) :
      Accepts top (named ++ [x]) added

theorem Accepts.rows (h : Accepts top named added) :
    (appendSuccessors top named).rows = top ++ added := by
  induction h with
  | nil => exact (List.append_nil top).symm
  | accept _ hr hnew ih =>
    obtain rfl := madeOf_iff.mp hr
    rw [rows_snoc_of_not_repeats (by rw [ih]; exact not_repeats_iff.mpr hnew), ih,
      List.append_assoc]
  | reject _ hr hold ih =>
    obtain rfl := madeOf_iff.mp hr
    rw [rows_snoc_of_repeats (by rw [ih]; exact repeats_iff.mpr hold), ih]

theorem exists_accepts (top : List (Row σ)) (named : List (String × SliceRecord)) :
    ∃ added, Accepts top named added := by
  induction named using List.reverseRecOn with
  | nil => exact ⟨[], .nil⟩
  | append_singleton named x ih =>
    obtain ⟨added, h⟩ := ih
    cases hrep : repeats (top ++ added) (successorRow top x.1 x.2) with
    | true => exact ⟨_, h.reject (madeOf_successorRow top x) (repeats_iff.mp hrep)⟩
    | false => exact ⟨_, h.accept (madeOf_successorRow top x) (not_repeats_iff.mp hrep)⟩

theorem Accepts.unique {other : List (Row σ)} (h : Accepts top named added)
    (hother : Accepts top named other) : other = added :=
  List.append_cancel_left (hother.rows.symm.trans h.rows)

/-! ## Rejected records -/

/-- The rows that are appended decide on the outcome. -/
theorem appendSuccessors_congr {others : List (String × SliceRecord)}
    (h : (appendSuccessors top named).rows = (appendSuccessors top others).rows) :
    appendSuccessors top named = appendSuccessors top others := by
  rw [rows_appendSuccessors, rows_appendSuccessors] at h
  unfold appendSuccessors
  simp only
  rw [h]

/-- **A rejected record leaves no trace.** -/
theorem appendSuccessors_skip {before after : List (String × SliceRecord)} (hr : MadeOf top x r)
    (h : ∃ s ∈ (appendSuccessors top before).rows, s.key = r.key ∨ s.position = r.position) :
    appendSuccessors top (before ++ x :: after) = appendSuccessors top (before ++ after) := by
  obtain rfl := madeOf_iff.mp hr
  refine appendSuccessors_congr ?_
  rw [rows_appendSuccessors_append, rows_appendSuccessors_append, List.map_cons, appendNew_cons,
    if_pos (repeats_iff.mpr h)]

/-! ## Any records -/

/-- **Records are accepted greedily and completely.** Behind the top rows stand the rows of the
accepted records, which are determined; there are as many as the outcome tells of; and whatever is
rejected may as well be missing. -/
theorem appendSuccessors_greedy (top : List (Row σ)) (named : List (String × SliceRecord)) :
    ∃ added, (appendSuccessors top named).rows = top ++ added ∧
      (∀ other, Accepts top named other ↔ other = added) ∧
      (appendSuccessors top named).outcome.added = added.length ∧
      ∀ before x after r, named = before ++ x :: after → MadeOf top x r →
        (∃ s ∈ (appendSuccessors top before).rows, s.key = r.key ∨ s.position = r.position) →
        appendSuccessors top (before ++ after) = appendSuccessors top named := by
  obtain ⟨added, h⟩ := exists_accepts top named
  refine ⟨added, h.rows, fun other => ⟨h.unique, fun heq => heq ▸ h⟩,
    added_appendSuccessors h.rows, ?_⟩
  rintro before x after r rfl hr hold
  exact (appendSuccessors_skip hr hold).symm

end EvidenceRank.Expansion
