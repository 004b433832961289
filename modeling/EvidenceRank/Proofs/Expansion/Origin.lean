import EvidenceRank.Proofs.Expansion.Top

/-!
# Where added rows come from

A row behind the top rows is either a lower row of the table that follows a top row, or the row of a
record that the fetcher answered with. `Origin` has a case for each, and says of a fetched row which
record it is made of, so that whatever is said of added rows can be shown case by case.

Results:
* `expand_origin`: what an expansion puts behind the top rows, for every method and every fetcher.
-/

namespace EvidenceRank.Expansion

open SliceFetcher (Call)

variable {σ : Type}

/-! ## Origins -/

/-- The record is in the answer to one of the calls. -/
def Answered (calls : List Call) (record : SliceRecord) : Prop :=
  ∃ c ∈ calls, ∃ records, c.answer = .ok records ∧ record ∈ records

variable [Score σ]

/-- Where a row that stands behind the top rows comes from. -/
inductive Origin (config : ExpansionConfig) (rows : List (Row σ)) (calls : List Call) (r : Row σ) :
    Prop
  /-- A lower row of the table, which follows a top row. -/
  | lower (hmethod : config.method = .neighbours) (hlower : r ∈ rows.drop config.topRows)
    (hfollows : ∃ s ∈ rows.take config.topRows, follows r s = true) : Origin config rows calls r
  /-- The row of a record. -/
  | fetched {id : String} {record : SliceRecord} (hmethod : config.method = .fetch)
    (hrecord : Answered calls record)
    (hrow : r = successorRow (rows.take config.topRows) id record) : Origin config rows calls r

/-- The top rows come first, as many rows stand behind them as the outcome tells of, and each of
these has an origin. -/
def Padded (config : ExpansionConfig) (rows : List (Row σ)) (e : Expansion σ)
    (calls : List Call) : Prop :=
  ∃ added, e.rows = rows.take config.topRows ++ added ∧ e.outcome.added = added.length ∧
    ∀ r ∈ added, Origin config rows calls r

variable {config : ExpansionConfig} {rows : List (Row σ)} {calls : List Call}

theorem Padded.length {e : Expansion σ} (h : Padded config rows e calls) :
    e.rows.length = min config.topRows rows.length + e.outcome.added := by
  obtain ⟨added, hrows, hadded, -⟩ := h
  rw [hrows, hadded, List.length_append, List.length_take]

theorem padded_alone {outcome : ExpansionOutcome} (h : outcome.added = 0) :
    Padded config rows ⟨rows.take config.topRows, outcome⟩ calls :=
  ⟨[], (List.append_nil _).symm, h, fun _ hr => absurd hr List.not_mem_nil⟩

theorem padded_keepNeighbours (hmethod : config.method = .neighbours) :
    Padded config rows (keepNeighbours config.topRows rows) calls := by
  refine ⟨_, rfl, outcomeOf_added _, fun r hr => ?_⟩
  obtain ⟨hlower, hfollows⟩ := List.mem_filter.mp hr
  exact .lower hmethod hlower (List.any_eq_true.mp hfollows)

theorem padded_appendSuccessors (hmethod : config.method = .fetch)
    {named : List (String × SliceRecord)} (hnamed : ∀ x ∈ named, Answered calls x.2) :
    Padded config rows (appendSuccessors (rows.take config.topRows) named) calls := by
  obtain ⟨added, heq, hsub⟩ := exists_appendNew (rows.take config.topRows)
    (named.map fun x => successorRow (rows.take config.topRows) x.1 x.2)
  refine ⟨added, heq, added_appendSuccessors heq, fun r hr => ?_⟩
  obtain ⟨x, hx, rfl⟩ := List.mem_map.mp (hsub.mem hr)
  exact .fetched hmethod (hnamed x hx) rfl

/-! ## Every method -/

variable {m : Type → Type} [Monad m] [LawfulMonad m]

/-- **Every row behind the top rows has an origin.** -/
theorem expand_origin (config : ExpansionConfig) (fetcher : SliceFetcher m)
    (rows : List (Row σ)) :
    Ensures ((expand config fetcher.recorded rows).run []) fun x =>
      Padded config rows x.1 x.2 := by
  rw [expand_recorded]
  cases hmethod : config.method with
  | truncate => exact Ensures.pure (padded_alone rfl)
  | neighbours => exact Ensures.pure (padded_keepNeighbours hmethod)
  | fetch =>
    simp only
    split
    · exact Ensures.pure (padded_alone rfl)
    · refine (Ensures.trivial _).bind fun answer _ => ?_
      refine (ofAnswer_ensures fetcher _ answer).bind fun e he => Ensures.pure ?_
      cases answer with
      | error err =>
        obtain rfl := he
        exact padded_alone rfl
      | ok records =>
        obtain ⟨named, rfl, rfl⟩ := he
        refine padded_appendSuccessors hmethod fun x hx => ?_
        exact ⟨_, List.mem_cons_self, _, rfl, List.mem_map.mpr ⟨x, hx, rfl⟩⟩

end EvidenceRank.Expansion
