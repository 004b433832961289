import EvidenceRank.Expansion
import EvidenceRank.Proofs.Reranker

/-!
# Calls of a slice fetcher

`SliceFetcher.recorded` is a fetcher that also writes down what it is asked and what it answers, so
that a statement about the calls of an expansion is one about the list that is left when it is run
with the recorded fetcher.

Results:
* `fetchSuccessors_eq`: fetching is at most one call, and `ofAnswer` says what is made of its answer
  without another one.
* `expand_recorded`: which calls an expansion makes, in any monad and with any answers.
* `fst_expand_recorded`: writing the calls down does not change what is expanded.
* `ofAnswer_ensures`: what is made of a failure, and of records.
-/

namespace EvidenceRank

variable {m : Type → Type} [Monad m]

/-! ## Recorded fetchers -/

namespace SliceFetcher

/-- One call of a fetcher, with its answer. -/
structure Call where
  docIds : List String
  segments : List Int64
  answer : Except RankError (List SliceRecord)

/-- The same fetcher, which also writes down its calls, the last one behind the others. -/
def recorded (fetcher : SliceFetcher m) : SliceFetcher (StateT (List Call) m) where
  fetch docIds segments := do
    let answer ← StateT.lift (fetcher.fetch docIds segments)
    modify (· ++ [⟨docIds, segments, answer⟩])
    return answer
  freshId := StateT.lift fetcher.freshId

variable [LawfulMonad m]

theorem run_recorded_fetch (fetcher : SliceFetcher m) (docIds : List String)
    (segments : List Int64) (calls : List Call) :
    (fetcher.recorded.fetch docIds segments).run calls = do
      let answer ← fetcher.fetch docIds segments
      return (answer, calls ++ [⟨docIds, segments, answer⟩]) := by
  simp [recorded]

theorem run_recorded_freshId (fetcher : SliceFetcher m) (calls : List Call) :
    fetcher.recorded.freshId.run calls = (·, calls) <$> fetcher.freshId := by
  simp [recorded]

/-- The fetcher that answers every call with the same records. -/
def answering (records : List SliceRecord) : SliceFetcher m :=
  ⟨fun _ _ => pure (.ok records), pure ""⟩

end SliceFetcher

namespace Expansion

open SliceFetcher (Call)

variable {σ : Type} [Score σ]

/-! ## One call and what is made of it -/

/-- The records, each with the id of its row. -/
def withIds (fetcher : SliceFetcher m) (records : List SliceRecord) :
    m (List (String × SliceRecord)) :=
  records.mapM fun record => do return (← fetcher.freshId, record)

/-- What is made of the top rows with the fetcher's answer. -/
def ofAnswer (fetcher : SliceFetcher m) (kept : List (Row σ)) :
    Except RankError (List SliceRecord) → m (Expansion σ)
  | .error e => return ⟨kept, .skipped e.message⟩
  | .ok records => do
    let named ← withIds fetcher records
    return appendSuccessors kept named

/-- **Fetching is one call**, or none if there are no top rows. -/
theorem fetchSuccessors_eq (fetcher : SliceFetcher m) (top : Nat) (rows : List (Row σ)) :
    fetchSuccessors fetcher top rows =
      if (rows.take top).isEmpty then return ⟨rows.take top, .noSuccessors⟩
      else fetcher.fetch ((rows.take top).map (·.document.docId))
          ((rows.take top).map (·.candidate.segment)) >>= ofAnswer fetcher (rows.take top) := by
  unfold fetchSuccessors
  simp only
  split
  · rfl
  · refine congrArg _ (funext fun answer => ?_)
    cases answer <;> rfl

variable [LawfulMonad m]

theorem withIds_ensures (fetcher : SliceFetcher m) (records : List SliceRecord) :
    Ensures (withIds fetcher records) fun named => named.map Prod.snd = records := by
  unfold withIds
  induction records with
  | nil => exact Ensures.pure rfl
  | cons record records ih =>
    rw [List.mapM_cons]
    refine Ensures.bind (p := fun named => named.2 = record) ?_ fun named hnamed => ?_
    · exact (Ensures.trivial _).bind fun _ _ => Ensures.pure rfl
    · refine ih.bind fun rest hrest => Ensures.pure ?_
      rw [List.map_cons, hnamed, hrest]

theorem run_recorded_withIds (fetcher : SliceFetcher m) (records : List SliceRecord)
    (calls : List Call) : (withIds fetcher.recorded records).run calls =
      (·, calls) <$> withIds fetcher records := by
  unfold withIds
  induction records with
  | nil => simp
  | cons record records ih =>
    simp only [List.mapM_cons, StateT.run_bind, StateT.run_pure, bind_assoc, pure_bind,
      SliceFetcher.run_recorded_freshId, bind_map_left, map_bind, map_pure, ih]

/-- What is made of an answer needs no call. -/
theorem run_recorded_ofAnswer (fetcher : SliceFetcher m) (kept : List (Row σ))
    (answer : Except RankError (List SliceRecord)) (calls : List Call) :
    (ofAnswer fetcher.recorded kept answer).run calls =
      (·, calls) <$> ofAnswer fetcher kept answer := by
  cases answer with
  | error e => simp [ofAnswer]
  | ok records => simp [ofAnswer, run_recorded_withIds]

theorem ofAnswer_ensures (fetcher : SliceFetcher m) (kept : List (Row σ))
    (answer : Except RankError (List SliceRecord)) :
    Ensures (ofAnswer fetcher kept answer) fun e =>
      match answer with
      | .error err => e = ⟨kept, .skipped err.message⟩
      | .ok records => ∃ named, named.map Prod.snd = records ∧ e = appendSuccessors kept named := by
  cases answer with
  | error err => exact Ensures.pure rfl
  | ok records =>
    exact (withIds_ensures fetcher records).bind fun named h => Ensures.pure ⟨named, h, rfl⟩

/-- With a fetcher that has its answer ready, fetching is appending the rows of the records. -/
theorem expand_answering (records : List SliceRecord) (top : Nat) (rows : List (Row σ))
    (h : rows.take top ≠ []) :
    expand ⟨top, .fetch⟩ (SliceFetcher.answering (m := m) records) rows =
      pure (appendSuccessors (rows.take top) (records.map ("", ·))) := by
  have hids : withIds (SliceFetcher.answering (m := m) records) records =
      pure (records.map ("", ·)) := by
    unfold withIds SliceFetcher.answering
    simp
  unfold expand
  simp only
  rw [fetchSuccessors_eq, if_neg (mt List.isEmpty_iff.mp h)]
  unfold SliceFetcher.answering at hids ⊢
  rw [pure_bind]
  unfold ofAnswer
  simp only [hids, pure_bind]

/-! ## The calls of an expansion -/

/-- The call that asks for the successors of `kept`. -/
def callFor (kept : List (Row σ)) (answer : Except RankError (List SliceRecord)) : Call where
  docIds := kept.map (·.document.docId)
  segments := kept.map (·.candidate.segment)
  answer := answer

/-- **The calls of an expansion**: none but for fetching, which makes one if there are top rows. -/
theorem expand_recorded (config : ExpansionConfig) (fetcher : SliceFetcher m)
    (rows : List (Row σ)) (calls : List Call) :
    (expand config fetcher.recorded rows).run calls = match config.method with
      | .truncate => return (truncate config.topRows rows, calls)
      | .neighbours => return (keepNeighbours config.topRows rows, calls)
      | .fetch =>
        let kept := rows.take config.topRows
        if kept.isEmpty then return (⟨kept, .noSuccessors⟩, calls)
        else do
          let answer ← fetcher.fetch (kept.map (·.document.docId)) (kept.map (·.candidate.segment))
          let e ← ofAnswer fetcher kept answer
          return (e, calls ++ [callFor kept answer]) := by
  unfold expand
  cases config.method with
  | truncate => rfl
  | neighbours => rfl
  | fetch =>
    simp only
    rw [fetchSuccessors_eq]
    split
    · rfl
    · simp only [StateT.run_bind, SliceFetcher.run_recorded_fetch, run_recorded_ofAnswer,
        bind_assoc, pure_bind, map_eq_pure_bind]
      rfl

/-- Writing the calls down does not change what is expanded. -/
theorem fst_expand_recorded (config : ExpansionConfig) (fetcher : SliceFetcher m)
    (rows : List (Row σ)) (calls : List Call) :
    Prod.fst <$> (expand config fetcher.recorded rows).run calls = expand config fetcher rows := by
  rw [expand_recorded]
  unfold expand
  cases config.method with
  | truncate => exact map_pure _ _
  | neighbours => exact map_pure _ _
  | fetch =>
    simp only
    rw [fetchSuccessors_eq]
    split
    · exact map_pure _ _
    · simp

end Expansion
end EvidenceRank
