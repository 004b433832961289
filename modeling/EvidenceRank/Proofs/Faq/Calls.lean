import EvidenceRank.Proofs.Faq.Ranking
import EvidenceRank.Proofs.Fusion.Calls

/-!
# Calls of the reranker in FAQ ranking

A ranking asks about all titles, and about titles and answers together if nothing is chosen and
something may be listed. Neither call is made about no texts. `Asked` says what comes of asking
about texts and by which call, `Listing` what comes of listing the best texts, and `Ranked` what
comes of a ranking: the path that it takes is told by the answer to the first call. Either call may
be answered by scores that have no order, which ends the ranking.

Results:
* `Reranker.scoreAll_asked`: asking about texts is at most one call.
* `rank_ranked`: a ranking is at most two calls, and what comes of it is told by their answers.
-/

namespace EvidenceRank

variable {m : Type → Type} [Monad m] {σ : Type}

namespace Reranker

/-- What comes of asking about texts, and the call that is made for it. -/
inductive Asked (model query : String) (texts : List String) :
    Except RankError (List σ) → Option (Call σ) → Prop
  /-- The reranker is not asked about nothing. -/
  | spared (htexts : texts = []) : Asked model query texts (.ok []) none
  | checked {c : Call σ} (htexts : texts ≠ []) (hquery : c.query = query) (hc : c.texts = texts) :
    Asked model query texts (c.checked model) (some c)

/-- There is a score for each text that was asked about. -/
theorem Asked.length_eq {model query : String} {texts : List String} {scores : List σ}
    {call : Option (Call σ)} (h : Asked model query texts (.ok scores) call) :
    scores.length = texts.length := by
  generalize hanswer : (Except.ok scores : Except RankError (List σ)) = answer at h
  cases h with
  | spared htexts =>
    obtain rfl := Except.ok.inj hanswer
    rw [htexts]
    rfl
  | checked htexts hquery hc => exact hc ▸ (Call.of_checked_ok hanswer.symm).2.2

variable [LawfulMonad m]

/-- **Asking about texts is one call**, or none if there are no texts. -/
theorem scoreAll_asked (r : Reranker m σ) (query : String) (texts : List String)
    (calls : List (Call σ)) :
    Ensures ((r.recorded.scoreAll query texts).run.run calls) fun x =>
      ∃ call : Option (Call σ), x.2 = calls ++ call.toList ∧
        Asked r.model query texts x.1 call := by
  by_cases htexts : texts = []
  · subst htexts
    rw [scoreAll_nil, ExceptT.run_pure, StateT.run_pure]
    exact Ensures.pure ⟨none, (List.append_nil calls).symm, .spared rfl⟩
  · rw [r.run_scoreAll_recorded query htexts]
    exact (Ensures.trivial _).map fun answer _ => ⟨some _, rfl, .checked htexts rfl rfl⟩

end Reranker

namespace Faq

open Reranker (Call Asked)

variable [Score σ]

/-! ## Listing the best texts -/

/-- What comes of listing the best texts, and the call that is made for it. -/
inductive Listing (limit : Nat) (model query : String) (entries : List Entry) :
    Except Halt (List (Answer σ)) → Option (Call σ) → Prop
  /-- The reranker is not asked if nothing may be listed. -/
  | spared (hlimit : limit = 0) : Listing limit model query entries (.ok []) none
  | failed {e : RankError} {call : Option (Call σ)} (hlimit : limit ≠ 0)
    (hasked : Asked model query ((questionsAnswers entries).map (·.text)) (.error e) call) :
    Listing limit model query entries (.error (.failed e)) call
  | scored {scores : List σ} {call : Option (Call σ)} (hlimit : limit ≠ 0)
    (hasked : Asked model query ((questionsAnswers entries).map (·.text)) (.ok scores) call) :
    Listing limit model query entries (Halt.ordered (listed limit entries scores)) call

variable [LawfulMonad m]

theorem fallback_listing (config : FaqConfig σ) (reranker : Reranker m σ) (query : String)
    (entries : List Entry) (calls : List (Call σ)) :
    Ensures ((fallback config reranker.recorded query entries).run.run calls) fun x =>
      ∃ call : Option (Call σ), x.2 = calls ++ call.toList ∧
        Listing config.fallbackLimit reranker.model query entries x.1 call := by
  rw [fallback_eq]
  split
  · rename_i hlimit
    exact Ensures.pure ⟨none, (List.append_nil calls).symm, .spared hlimit⟩
  · rename_i hlimit
    rw [ExceptT.run_bind, StateT.run_bind, Halt.run_failing, StateT.run_map, bind_map_left]
    refine (reranker.scoreAll_asked query _ calls).bind ?_
    rintro ⟨result, calls'⟩ ⟨call, rfl, hasked⟩
    cases result with
    | error e => exact Ensures.pure ⟨call, rfl, .failed hlimit hasked⟩
    | ok scores => exact Ensures.pure ⟨call, rfl, .scored hlimit hasked⟩

theorem fallback_records (config : FaqConfig σ) (reranker : Reranker m σ) (query : String)
    (entries : List Entry) :
    Records (fallback config reranker.recorded query entries)
      (fallback config reranker query entries) := by
  rw [fallback_eq, fallback_eq]
  split
  · exact .pure []
  · exact .bind (.failing (reranker.scoreAll_records query _)) fun scores => .ordering _

/-! ## Rankings -/

/-- What comes of a ranking, and the calls that are made for it. -/
inductive Ranked (config : FaqConfig σ) (model query : String) (entries : List Entry) :
    Except Halt (Ranking σ) → Option (Call σ) → Option (Call σ) → Prop
  | failed {e : RankError} {first : Option (Call σ)}
    (hfirst : Asked model query ((questions entries).map (·.text)) (.error e) first) :
    Ranked config model query entries (.error (.failed e)) first none
  /-- The sums of the entries have no order. -/
  | disordered {relevance : List σ} {first : Option (Call σ)}
    (hfirst : Asked model query ((questions entries).map (·.text)) (.ok relevance) first)
    (hpath : pathOf config.outlierMultiplier (scoredTitles query entries relevance) = none) :
    Ranked config model query entries (.error .disordered) first none
  | chosen {relevance : List σ} {first : Option (Call σ)} {chosen : List (ScoredTitle σ)}
    (hfirst : Asked model query ((questions entries).map (·.text)) (.ok relevance) first)
    (hchosen : confidentTitles config.outlierMultiplier (scoredTitles query entries relevance) =
      some chosen)
    (hsome : chosen ≠ []) :
    Ranked config model query entries (.ok (choice entries chosen)) first none
  | listed {relevance : List σ} {first second : Option (Call σ)}
    {result : Except Halt (List (Answer σ))}
    (hfirst : Asked model query ((questions entries).map (·.text)) (.ok relevance) first)
    (hpath : pathOf config.outlierMultiplier (scoredTitles query entries relevance) =
      some .fallback)
    (hsecond : Listing config.fallbackLimit model query entries result second) :
    Ranked config model query entries (result.map (⟨·, false⟩)) first second

theorem rank_records (config : FaqConfig σ) (reranker : Reranker m σ) (input : Query)
    (entries : List Entry) :
    Records (rank config reranker.recorded input entries)
      (rank config reranker input entries) := by
  rw [rank_eq, rank_eq]
  refine .bind (.failing (reranker.scoreAll_records _ _)) fun relevance =>
    .bind (.ordering _) fun chosen => ?_
  rw [conclude, conclude]
  split
  · rw [← bind_pure_comp, ← bind_pure_comp]
    exact .bind (fallback_records config reranker _ entries) fun answers => .pure _
  · exact .pure _

/-- Where the first call is answered, the ranking goes on with the titles that are chosen. -/
theorem run_rank_chosen (config : FaqConfig σ) (reranker : Reranker m σ) (input : Query)
    {entries : List Entry} {texts : List String} {relevance : List σ}
    {chosen : List (ScoredTitle σ)} (htexts : (questions entries).map (·.text) = texts)
    (hsome : texts ≠ []) (hanswer : reranker.score input.effective texts = pure (.ok relevance))
    (hlength : relevance.length = texts.length)
    (hchosen : confidentTitles config.outlierMultiplier
      (scoredTitles input.effective entries relevance) = some chosen) :
    (rank config reranker.recorded input entries).run.run [] =
      (conclude config reranker.recorded input.effective entries chosen).run.run
        [⟨input.effective, texts, .ok relevance⟩] := by
  have hchecked : Call.checked reranker.model ⟨input.effective, texts, .ok relevance⟩ =
      .ok relevance := by
    simp only [Call.checked, Call.error?, hlength, if_true]
  rw [rank_eq, htexts, ExceptT.run_bind, StateT.run_bind, Halt.run_failing, StateT.run_map,
    Reranker.run_scoreAll_recorded _ _ hsome, hanswer, map_pure, map_pure, pure_bind, hchecked]
  simp only [Halt.mapError_ok]
  rw [ExceptT.run_bind, Halt.run_ordering, hchosen, StateT.run_bind, StateT.run_pure, pure_bind]
  rfl

/-- **A ranking is at most two calls**, and what comes of it is told by their answers. -/
theorem rank_ranked (config : FaqConfig σ) (reranker : Reranker m σ) (input : Query)
    (entries : List Entry) :
    Ensures ((rank config reranker.recorded input entries).run.run []) fun x =>
      ∃ first second : Option (Call σ), x.2 = first.toList ++ second.toList ∧
        Ranked config reranker.model input.effective entries x.1 first second := by
  rw [rank_eq, ExceptT.run_bind, StateT.run_bind, Halt.run_failing, StateT.run_map, bind_map_left]
  refine (reranker.scoreAll_asked _ _ []).bind ?_
  rintro ⟨result, calls⟩ ⟨first, rfl, hfirst⟩
  cases result with
  | error e => exact Ensures.pure ⟨first, none, (List.append_nil _).symm, .failed hfirst⟩
  | ok relevance =>
    simp only [Halt.mapError_ok]
    rw [ExceptT.run_bind, Halt.run_ordering, StateT.run_bind, StateT.run_pure, pure_bind]
    cases hchosen : confidentTitles config.outlierMultiplier
        (scoredTitles input.effective entries relevance) with
    | none =>
      exact Ensures.pure ⟨first, none, (List.append_nil _).symm,
        .disordered hfirst (confidentTitles_eq_none.mp hchosen)⟩
    | some chosen =>
      simp only [Halt.ordered]
      rw [conclude]
      split
      case isFalse hsome =>
        exact Ensures.pure ⟨first, none, (List.append_nil _).symm,
          .chosen hfirst hchosen (mt List.isEmpty_iff.mpr hsome)⟩
      case isTrue hnone =>
        have hpath := (eq_nil_iff_fallback hchosen).mp (List.isEmpty_iff.mp hnone)
        rw [ExceptT.run_map, StateT.run_map]
        refine (fallback_listing config reranker _ entries _).map ?_
        rintro ⟨result, calls⟩ ⟨second, rfl, hsecond⟩
        exact ⟨first, second, rfl, .listed hfirst hpath hsecond⟩

end Faq
end EvidenceRank
