import EvidenceRank.Citation
import EvidenceRank.Proofs.Expansion.Added

/-!
# The top rows are safe

Whatever expansion does, and whatever the fetcher answers or fails with, the top rows come first as
they were. `KeepsTop` says so of the result of an expansion and the calls that it made, and
`Fruitless` says when the top rows stand alone, with the outcome that this has.

Results:
* `keepsTop_keepNeighbours`, `keepsTop_appendSuccessors`: what keeping lower rows and appending rows
  of records does to the top rows.
* `Fits`: where nothing comes of it, the result is the top rows alone, and fetching leaves them
  alone only there.
* `expand_keepsTop`: for every method, with every fetcher; the citations of an expansion of which
  nothing comes are those of the top rows.
-/

namespace EvidenceRank

/-- How many rows the outcome tells of. -/
def ExpansionOutcome.added : ExpansionOutcome → Nat
  | expanded added => added
  | notRequested | noSuccessors | skipped _ => 0

namespace Expansion

open SliceFetcher (Call)

variable {σ : Type}

@[simp] theorem outcomeOf_added (n : Nat) : (outcomeOf n).added = n := by
  unfold outcomeOf
  split
  · rename_i h
    exact h.symm
  · rfl

/-! ## Usable records -/

/-- The record brings up a text and a place that no kept row has. -/
def Usable (kept : List (Row σ)) (record : SliceRecord) : Prop :=
  ∀ s ∈ kept, s.key ≠ ((documentOf kept record).md5, Text.hash record.text) ∧
    s.position ≠ ((documentOf kept record).md5, record.segment.toInt)

section
variable [Score σ]

theorem repeats_successorRow {kept : List (Row σ)} {id : String} {record : SliceRecord} :
    repeats kept (successorRow kept id record) = true ↔ ¬ Usable kept record := by
  rw [← Bool.not_eq_false, not_repeats_iff]
  rfl

/-- Records of which none is usable leave the top rows alone, and any others do not. -/
theorem rows_appendSuccessors_eq_iff {kept : List (Row σ)}
    {named : List (String × SliceRecord)} :
    (appendSuccessors kept named).rows = kept ↔
      ∀ record ∈ named.map Prod.snd, ¬ Usable kept record := by
  rw [rows_appendSuccessors, appendNew_eq_self_iff, List.forall_mem_map, List.forall_mem_map]
  exact forall_congr' fun x => imp_congr_right fun _ => repeats_successorRow

end

/-! ## What expansion keeps to -/

/-- What the fetcher is asked: the documents and the segments of the top rows, position by position,
in one call, and only to fetch for some. -/
def asked (config : ExpansionConfig) (rows : List (Row σ)) : List (List String × List Int64) :=
  if config.method = .fetch ∧ rows.take config.topRows ≠ [] then
    [((rows.take config.topRows).map (·.document.docId),
      (rows.take config.topRows).map (·.candidate.segment))]
  else []

/-- The top rows come first in the result, and the outcome and the calls are accounted for. -/
structure KeepsTop (config : ExpansionConfig) (rows : List (Row σ)) (e : Expansion σ)
    (calls : List Call) : Prop where
  /-- The top rows come first, unchanged and in order. -/
  first : e.rows.take (min config.topRows rows.length) = rows.take config.topRows
  /-- As many rows stand behind them as the outcome tells of. -/
  counted : e.rows.length = min config.topRows rows.length + e.outcome.added
  called : calls.map (fun c => (c.docIds, c.segments)) = asked config rows

/-- Nothing comes of the expansion, which has this outcome: it is not requested, the fetcher fails,
or it returns no usable record. -/
inductive Fruitless (config : ExpansionConfig) (rows : List (Row σ)) (calls : List Call) :
    ExpansionOutcome → Prop
  | notRequested (hmethod : config.method = .truncate) : Fruitless config rows calls .notRequested
  | skipped {c : Call} {err : RankError} (hc : c ∈ calls) (hfailed : c.answer = .error err) :
    Fruitless config rows calls (.skipped err.message)
  | noSuccessors (hmethod : config.method = .fetch)
    (hnone : ∀ c ∈ calls, ∃ records, c.answer = .ok records ∧
      ∀ record ∈ records, ¬ Usable (rows.take config.topRows) record) :
    Fruitless config rows calls .noSuccessors

variable {config : ExpansionConfig} {rows : List (Row σ)} {calls : List Call}

theorem KeepsTop.of_append {e : Expansion σ} {added : List (Row σ)}
    (hrows : e.rows = rows.take config.topRows ++ added) (hadded : e.outcome.added = added.length)
    (hcalls : calls.map (fun c => (c.docIds, c.segments)) = asked config rows) :
    KeepsTop config rows e calls where
  first := by
    rw [hrows, ← List.length_take, List.take_left]
  counted := by
    rw [hrows, hadded, List.length_append, List.length_take]
  called := hcalls

theorem keepsTop_alone {outcome : ExpansionOutcome} (h : outcome.added = 0)
    (hcalls : calls.map (fun c => (c.docIds, c.segments)) = asked config rows) :
    KeepsTop config rows ⟨rows.take config.topRows, outcome⟩ calls :=
  KeepsTop.of_append (List.append_nil _).symm h hcalls

theorem asked_of_ne (hmethod : config.method ≠ .fetch) : asked config rows = [] := by
  unfold asked
  exact if_neg fun h => hmethod h.1

theorem asked_fetch (hmethod : config.method = .fetch) (hkept : rows.take config.topRows ≠ [])
    (answer : Except RankError (List SliceRecord)) :
    [callFor (rows.take config.topRows) answer].map (fun c => (c.docIds, c.segments)) =
      asked config rows := by
  unfold asked
  rw [if_pos ⟨hmethod, hkept⟩]
  rfl

theorem keepsTop_keepNeighbours (hmethod : config.method = .neighbours) :
    KeepsTop config rows (keepNeighbours config.topRows rows) [] := by
  refine KeepsTop.of_append rfl (outcomeOf_added _) (asked_of_ne ?_).symm
  rw [hmethod]
  decide

section Fetched
variable [Score σ] {answer : Except RankError (List SliceRecord)}

/-- The outcome tells of as many rows as were appended. -/
theorem added_appendSuccessors {kept added : List (Row σ)} {named : List (String × SliceRecord)}
    (h : (appendSuccessors kept named).rows = kept ++ added) :
    (appendSuccessors kept named).outcome.added = added.length := by
  rw [rows_appendSuccessors] at h
  unfold appendSuccessors
  rw [outcomeOf_added]
  simp only
  rw [h, List.length_append, Nat.add_sub_cancel_left]

theorem keepsTop_appendSuccessors (hmethod : config.method = .fetch)
    (hkept : rows.take config.topRows ≠ []) (named : List (String × SliceRecord)) :
    KeepsTop config rows (appendSuccessors (rows.take config.topRows) named)
      [callFor (rows.take config.topRows) answer] := by
  obtain ⟨added, hadded, -⟩ := exists_appendNew (rows.take config.topRows)
    (named.map fun x => successorRow (rows.take config.topRows) x.1 x.2)
  exact KeepsTop.of_append hadded (added_appendSuccessors hadded)
    (asked_fetch hmethod hkept answer)

theorem appendSuccessors_eq (kept : List (Row σ)) {named : List (String × SliceRecord)}
    (h : ∀ record ∈ named.map Prod.snd, ¬ Usable kept record) :
    appendSuccessors kept named = ⟨kept, .noSuccessors⟩ := by
  have hrows := rows_appendSuccessors_eq_iff.mpr h
  rw [rows_appendSuccessors] at hrows
  unfold appendSuccessors
  simp only
  rw [hrows, Nat.sub_self]
  rfl

end Fetched

/-! ## Fruitless expansions -/

/-- Where nothing comes of an expansion its result is the top rows with the outcome that fits, and
where fetching leaves the top rows alone nothing comes of it. -/
structure Fits (config : ExpansionConfig) (rows : List (Row σ)) (e : Expansion σ)
    (calls : List Call) : Prop where
  alone : ∀ outcome, Fruitless config rows calls outcome → e = ⟨rows.take config.topRows, outcome⟩
  fruitless : config.method = .fetch → e.rows = rows.take config.topRows →
    ∃ outcome, Fruitless config rows calls outcome

theorem fits_truncate (hmethod : config.method = .truncate) :
    Fits config rows (truncate config.topRows rows) [] where
  alone outcome hf := by
    cases hf with
    | notRequested => rfl
    | skipped hc => exact absurd hc List.not_mem_nil
    | noSuccessors h => rw [hmethod] at h; cases h
  fruitless _ _ := ⟨_, .notRequested hmethod⟩

theorem fits_keepNeighbours (hmethod : config.method = .neighbours) :
    Fits config rows (keepNeighbours config.topRows rows) [] where
  alone outcome hf := by
    cases hf with
    | notRequested h => rw [hmethod] at h; cases h
    | skipped hc => exact absurd hc List.not_mem_nil
    | noSuccessors h => rw [hmethod] at h; cases h
  fruitless h := by rw [hmethod] at h; cases h

/-- Without top rows the fetcher is not asked. -/
theorem fits_nothing (hmethod : config.method = .fetch) :
    Fits config rows ⟨rows.take config.topRows, .noSuccessors⟩ [] where
  alone outcome hf := by
    cases hf with
    | notRequested h => rw [hmethod] at h; cases h
    | skipped hc => exact absurd hc List.not_mem_nil
    | noSuccessors => rfl
  fruitless _ _ := ⟨_, .noSuccessors hmethod fun _ hc => absurd hc List.not_mem_nil⟩

theorem fits_failed (hmethod : config.method = .fetch) (err : RankError) :
    Fits config rows ⟨rows.take config.topRows, .skipped err.message⟩
      [callFor (rows.take config.topRows) (.error err)] where
  alone outcome hf := by
    cases hf with
    | notRequested h => rw [hmethod] at h; cases h
    | skipped hc h =>
      obtain rfl := List.mem_singleton.mp hc
      obtain rfl := Except.error.inj h
      rfl
    | noSuccessors _ h =>
      obtain ⟨records, hok, -⟩ := h _ List.mem_cons_self
      cases hok
  fruitless _ _ := ⟨_, .skipped List.mem_cons_self rfl⟩

theorem fits_appendSuccessors [Score σ] (hmethod : config.method = .fetch)
    (named : List (String × SliceRecord)) :
    Fits config rows (appendSuccessors (rows.take config.topRows) named)
      [callFor (rows.take config.topRows) (.ok (named.map Prod.snd))] where
  alone outcome hf := by
    cases hf with
    | notRequested h => rw [hmethod] at h; cases h
    | skipped hc h =>
      obtain rfl := List.mem_singleton.mp hc
      cases h
    | noSuccessors _ h =>
      obtain ⟨records, hok, hnone⟩ := h _ List.mem_cons_self
      obtain rfl := Except.ok.inj hok
      exact appendSuccessors_eq _ hnone
  fruitless _ hrows := by
    refine ⟨_, .noSuccessors hmethod fun c hc => ?_⟩
    obtain rfl := List.mem_singleton.mp hc
    exact ⟨_, rfl, rows_appendSuccessors_eq_iff.mp hrows⟩

/-! ## Every method -/

variable [Score σ] {m : Type → Type} [Monad m] [LawfulMonad m]

theorem keepsTop_ofAnswer (hmethod : config.method = .fetch)
    (hkept : rows.take config.topRows ≠ []) (fetcher : SliceFetcher m)
    (answer : Except RankError (List SliceRecord)) :
    Ensures (ofAnswer fetcher (rows.take config.topRows) answer) fun e =>
      KeepsTop config rows e [callFor (rows.take config.topRows) answer] ∧
        Fits config rows e [callFor (rows.take config.topRows) answer] := by
  refine (ofAnswer_ensures fetcher _ answer).imp fun e he => ?_
  cases answer with
  | error err =>
    obtain rfl := he
    exact ⟨keepsTop_alone rfl (asked_fetch hmethod hkept _), fits_failed hmethod err⟩
  | ok records =>
    obtain ⟨named, rfl, rfl⟩ := he
    exact ⟨keepsTop_appendSuccessors hmethod hkept named, fits_appendSuccessors hmethod named⟩

/-- Every expansion keeps the top rows, and has the outcome that fits. -/
theorem expand_ensures (config : ExpansionConfig) (fetcher : SliceFetcher m)
    (rows : List (Row σ)) :
    Ensures ((expand config fetcher.recorded rows).run []) fun x =>
      KeepsTop config rows x.1 x.2 ∧ Fits config rows x.1 x.2 := by
  rw [expand_recorded]
  cases hmethod : config.method with
  | truncate =>
    refine Ensures.pure ⟨keepsTop_alone rfl (asked_of_ne ?_).symm, fits_truncate hmethod⟩
    rw [hmethod]
    decide
  | neighbours =>
    exact Ensures.pure ⟨keepsTop_keepNeighbours hmethod, fits_keepNeighbours hmethod⟩
  | fetch =>
    simp only
    by_cases hempty : (rows.take config.topRows).isEmpty = true
    · rw [if_pos hempty]
      refine Ensures.pure ⟨keepsTop_alone rfl ?_, fits_nothing hmethod⟩
      exact (if_neg fun h => h.2 (List.isEmpty_iff.mp hempty)).symm
    · rw [if_neg hempty]
      refine (Ensures.trivial _).bind fun answer _ => ?_
      have hkept := mt List.isEmpty_iff.mpr hempty
      refine (keepsTop_ofAnswer hmethod hkept fetcher answer).bind fun e he => Ensures.pure ?_
      rwa [List.nil_append]

/-- **Expansion never harms the top rows.** Whatever the method and the fetcher, they come first;
and where nothing comes of it, they stand alone, so that the citations are those of an expansion
that only truncates. -/
theorem expand_keepsTop (config : ExpansionConfig) (fetcher : SliceFetcher m)
    (rows : List (Row σ)) :
    Prod.fst <$> (expand config fetcher.recorded rows).run [] = expand config fetcher rows ∧
      Ensures ((expand config fetcher.recorded rows).run []) fun (e, calls) =>
        KeepsTop config rows e calls ∧ Fits config rows e calls ∧
        ∀ outcome, Fruitless config rows calls outcome →
          Ensures (expand { config with method := .truncate } fetcher rows) fun plain =>
            ∀ max scope, Citation.assemble max scope e.rows =
              Citation.assemble max scope plain.rows := by
  refine ⟨fst_expand_recorded config fetcher rows [], ?_⟩
  refine (expand_ensures config fetcher rows).imp fun x ⟨hkeeps, hfits⟩ => ?_
  refine ⟨hkeeps, hfits, fun outcome hf => Ensures.pure fun max scope => ?_⟩
  rw [hfits.alone outcome hf]
  rfl

/-- The fetcher that fails every call. -/
def failing (err : RankError) : SliceFetcher m := ⟨fun _ _ => pure (.error err), pure ""⟩

/-- An answer that is cut off before it begins. -/
def cutOff : RankError := .malformedJson "EOF while parsing a value at line 1 column 0"

/-- When fetching fails, the one top row is cited as if it had not been tried. -/
theorem expand_keepsTop_failed : ∃ e calls,
    (expand ⟨1, .fetch⟩ (failing (m := Id) cutOff).recorded
      [sampleRow "A" "A" "a" 1, sampleRow "B" "B" "b" 1]).run [] = pure (e, calls) ∧
    calls = [⟨["A"], [1], .error cutOff⟩] ∧
    e = ⟨[sampleRow "A" "A" "a" 1],
      .skipped "JSON error: EOF while parsing a value at line 1 column 0"⟩ ∧
    ∀ max scope, Citation.assemble max scope e.rows =
      Citation.assemble max scope [sampleRow "A" "A" "a" 1] := by
  have hcalls : ∃ e, (expand ⟨1, .fetch⟩ (failing (m := Id) cutOff).recorded
      [sampleRow "A" "A" "a" 1, sampleRow "B" "B" "b" 1]).run [] =
        pure (e, [⟨["A"], [1], .error cutOff⟩]) := ⟨_, rfl⟩
  obtain ⟨e, he⟩ := hcalls
  obtain ⟨-, hensures⟩ := expand_keepsTop ⟨1, .fetch⟩ (failing (m := Id) cutOff)
    [sampleRow "A" "A" "a" 1, sampleRow "B" "B" "b" 1]
  rw [he] at hensures
  obtain ⟨-, hfits, hcite⟩ := Ensures.id_iff.mp hensures
  have hfailed : (⟨["A"], [1], .error cutOff⟩ : Call).answer = .error cutOff := rfl
  have hf : Fruitless ⟨1, .fetch⟩ [sampleRow "A" "A" "a" 1, sampleRow "B" "B" "b" 1]
      [⟨["A"], [1], .error cutOff⟩] (.skipped cutOff.message) :=
    .skipped List.mem_cons_self hfailed
  exact ⟨e, _, he, rfl, hfits.alone _ hf, Ensures.id_iff.mp (hcite _ hf)⟩

end Expansion
end EvidenceRank
