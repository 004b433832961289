import EvidenceRank.Proofs.Citation.Naming
import EvidenceRank.Proofs.Expansion.Calls

/-!
# Ids of fetched rows

The row of a record is given an id that no step of expansion reads. With a fetcher whose answers are
fixed, expansion is thus the same for all ids but for the ids themselves, and so is what is cited.

Results:
* `appendSuccessors_unnamed`: rows are appended for their records, whatever ids they are given.
* `expand_unnamed`: all results of an expansion are one, without the ids.
-/

namespace EvidenceRank

variable {σ : Type}

/-- The row without its id. -/
def Row.unnamed (r : Row σ) : Row σ := { r with candidate := { r.candidate with uuid := "" } }

/-- The slice without its id. -/
def CitedSlice.unnamed (s : CitedSlice σ) : CitedSlice σ := { s with id := "" }

/-- The expansion without the ids of rows. -/
def Expansion.unnamed (e : Expansion σ) : Expansion σ := { e with rows := e.rows.map Row.unnamed }

namespace Expansion

variable [Score σ]

/-- Citing does not read the ids. -/
theorem unnamed_unread : Citation.Unread (σ := σ) Row.unnamed CitedSlice.unnamed where
  document _ := rfl
  segment _ := rfl
  key _ := rfl
  slice _ := rfl
  content _ := rfl
  no _ := rfl

omit [Score σ] in
theorem repeats_unnamed (rows : List (Row σ)) (r : Row σ) :
    repeats (rows.map Row.unnamed) r.unnamed = repeats rows r := by
  unfold repeats
  rw [List.any_map]
  rfl

omit [Score σ] in
theorem appendNew_unnamed (kept rows : List (Row σ)) :
    appendNew (kept.map Row.unnamed) (rows.map Row.unnamed) =
      (appendNew kept rows).map Row.unnamed := by
  induction rows generalizing kept with
  | nil => rfl
  | cons r rows ih =>
    have hstep : (if repeats (kept.map Row.unnamed) r.unnamed then kept.map Row.unnamed
        else kept.map Row.unnamed ++ [r.unnamed]) =
          (if repeats kept r then kept else kept ++ [r]).map Row.unnamed := by
      rw [repeats_unnamed]
      split
      · rfl
      · rw [List.map_append, List.map_singleton]
    unfold appendNew at ih ⊢
    rw [List.map_cons, List.foldl_cons, List.foldl_cons, hstep]
    exact ih _

/-- **Rows are appended for their records**, whatever ids they are given. -/
theorem appendSuccessors_unnamed (kept : List (Row σ)) {named named' : List (String × SliceRecord)}
    (h : named.map Prod.snd = named'.map Prod.snd) :
    (appendSuccessors kept named).unnamed = (appendSuccessors kept named').unnamed := by
  have hrows (named : List (String × SliceRecord)) :
      (appendSuccessors kept named).rows.map Row.unnamed = appendNew (kept.map Row.unnamed)
        ((named.map Prod.snd).map fun record => (successorRow kept "" record).unnamed) := by
    unfold appendSuccessors
    simp only
    rw [← appendNew_unnamed, List.map_map, List.map_map]
    rfl
  have heq : (appendSuccessors kept named).rows.map Row.unnamed =
      (appendSuccessors kept named').rows.map Row.unnamed := by
    rw [hrows, hrows, h]
  have hlen : (appendSuccessors kept named).rows.length =
      (appendSuccessors kept named').rows.length := by
    have hlen := congrArg List.length heq
    rwa [List.length_map, List.length_map] at hlen
  unfold unnamed
  rw [heq]
  exact congrArg (fun n => (⟨_, outcomeOf (n - kept.length)⟩ : Expansion σ)) hlen

variable {m : Type → Type} [Monad m] [LawfulMonad m]

/-- **With fixed answers there is one result**, without the ids. -/
theorem expand_unnamed (config : ExpansionConfig) {fetcher : SliceFetcher m}
    {answer : List String → List Int64 → Except RankError (List SliceRecord)}
    (hfetch : ∀ docIds segments, fetcher.fetch docIds segments = pure (answer docIds segments))
    (rows : List (Row σ)) :
    ∃ fixed, Ensures (expand config fetcher rows) fun e => e.unnamed = fixed := by
  unfold expand
  cases config.method with
  | truncate => exact ⟨_, Ensures.pure rfl⟩
  | neighbours => exact ⟨_, Ensures.pure rfl⟩
  | fetch =>
    simp only
    rw [fetchSuccessors_eq]
    split
    · exact ⟨_, Ensures.pure rfl⟩
    · rw [hfetch, pure_bind]
      have hensures := ofAnswer_ensures fetcher (rows.take config.topRows)
        (answer ((rows.take config.topRows).map (·.document.docId))
          ((rows.take config.topRows).map (·.candidate.segment)))
      generalize answer _ _ = records at hensures ⊢
      cases records with
      | error err => exact ⟨_, hensures.imp fun e he => congrArg unnamed he⟩
      | ok records =>
        refine ⟨(appendSuccessors (rows.take config.topRows) (records.map ("", ·))).unnamed,
          hensures.imp fun e he => ?_⟩
        obtain ⟨named, hnamed, rfl⟩ := he
        refine appendSuccessors_unnamed _ (hnamed.trans ?_)
        rw [List.map_map]
        exact (List.map_id records).symm

end Expansion
end EvidenceRank
