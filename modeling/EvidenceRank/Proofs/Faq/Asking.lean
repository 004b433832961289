import EvidenceRank.Proofs.Faq.Listing

/-!
# What a FAQ ranking asks

A ranking asks about all titles first, and about all titles and answers if the titles decide
nothing. Each call is spared where there is nothing to ask about, so whether it is made is told by
the entries, by the limit and by the answer to the first call (`Undecided`), and what it asks about
by the entries alone. What a call tells has to be put in order, and where there is no order the
ranking ends without a failed call (`Unordered`).

* A fragment of text tells its content. An image tells its details in the order of their kinds, but
  for those that are `Idle`: short ones, and captions that repeat a title (`Fragment.Tells`).
* An entry tells its titles and then what its fragments tell, in their order (`Entry.texts`).

Results:
* `Asked.made_iff`, `Asked.error_iff`: whether a call is made, and how it fails.
* `map_text_tagged`: what is asked about are the texts of the entries, one entry after the other.
* `listing_made_iff`, `listing_error_iff`: the same for the call that listing makes.
* `Unordered.many`: what has no order is long and has a score that is no number.
* `rank_asks`: the calls of a ranking, that it reports an error exactly if one of them fails, and
  that it ends otherwise exactly where an order is missing.
-/

namespace EvidenceRank

/-! ## Calls -/

namespace Reranker

variable {σ : Type} {model query : String} {texts : List String}
  {answer : Except RankError (List σ)} {call : Option (Call σ)}

/-- The call, if one is made, asks about the texts. -/
def AsksAbout (query : String) (texts : List String) (call : Option (Call σ)) : Prop :=
  ∀ c ∈ call, c.query = query ∧ c.texts = texts

/-- The scores that come of a call. Where none is made there is nothing to score. -/
def scoresOf (model : String) (call : Option (Call σ)) : Except RankError (List σ) :=
  call.elim (.ok []) (·.checked model)

theorem Call.checked_eq_error_iff {c : Call σ} {e : RankError} :
    c.checked model = .error e ↔ c.error? model = some e := by
  refine ⟨Call.error?_of_checked, fun h => ?_⟩
  unfold Call.checked
  rw [h]

namespace Asked

theorem made_iff (h : Asked model query texts answer call) : call.isSome = true ↔ texts ≠ [] := by
  cases h with
  | spared htexts => simp [htexts]
  | checked htexts => simp [htexts]

theorem about (h : Asked model query texts answer call) : AsksAbout query texts call := by
  cases h with
  | spared htexts => exact fun c hc => by cases hc
  | checked htexts hquery hc =>
    intro c' hc'
    obtain rfl := Option.some.inj hc'
    exact ⟨hquery, hc⟩

theorem scoresOf_eq (h : Asked model query texts answer call) : scoresOf model call = answer := by
  cases h <;> rfl

theorem error_iff (h : Asked model query texts answer call) (e : RankError) :
    answer = .error e ↔ call.toList.findSome? (·.error? model) = some e := by
  cases h with
  | spared htexts => simp
  | checked htexts hquery hc => simp [Call.checked_eq_error_iff]

theorem findSome?_eq_none {scores : List σ} (h : Asked model query texts (.ok scores) call) :
    call.toList.findSome? (·.error? model) = none :=
  Option.eq_none_iff_forall_ne_some.mpr fun e he => by cases (h.error_iff e).mpr he

end Asked
end Reranker

namespace Faq

open Reranker (Call Asked AsksAbout scoresOf)

/-! ## What entries tell -/

/-- A detail of an image that is not asked about: it has two characters at most, or is a caption
that repeats a title of the entry. -/
def Idle (titles : List String) (kind detail : String) : Prop :=
  (Text.trim detail).toList.length ≤ 2 ∨
    kind = "image" ∧ ∃ t ∈ titles, Text.trim t = Text.trim detail

theorem idleDetail_iff {titles : List String} {kind detail : String} :
    idleDetail titles kind detail = true ↔ Idle titles kind detail := by
  unfold idleDetail Idle shortDetail
  simp only [Bool.or_eq_true, decide_eq_true_eq, Bool.and_eq_true, beq_iff_eq, List.any_eq_true]

/-- What a fragment tells in an entry with the titles. -/
inductive Fragment.Tells (titles : List String) (f : Fragment) : List String → Prop
  | text (hkind : f.kind = .text) : Tells titles f [f.content]
  /-- The details that are not idle, in the order of their kinds. -/
  | image {kept : List (String × String)} (hkind : f.kind = .image)
    (hsub : kept.Sublist f.details.entries)
    (hkept : ∀ d ∈ f.details.entries, d ∈ kept ↔ ¬ Idle titles d.1 d.2) :
    Tells titles f (kept.map (·.2))
  | other (hkind : f.kind = .other) : Tells titles f []

theorem Fragment.texts_tells (titles : List String) (f : Fragment) :
    f.Tells titles (f.texts titles) := by
  unfold Fragment.texts
  cases hkind : f.kind with
  | text => exact .text hkind
  | other => exact .other hkind
  | image =>
    refine .image hkind List.filter_sublist fun d hd => ?_
    rw [List.mem_filter, Bool.not_eq_true', ← Bool.not_eq_true, idleDetail_iff]
    exact and_iff_right hd

/-- **What is asked about are the texts of the entries**, one entry after the other. -/
theorem map_text_tagged (texts : Entry → List String) (entries : List Entry) :
    (tagged texts entries).map (·.text) = entries.flatMap texts := by
  have hnumbered : ((List.range entries.length).zip entries).map (·.2) = entries :=
    List.map_snd_zip (Nat.le_of_eq List.length_range.symm)
  calc (tagged texts entries).map (·.text)
      = ((List.range entries.length).zip entries).flatMap fun p => texts p.2 := by
        rw [tagged, List.map_flatMap]
        refine List.flatMap_congr fun p _ => ?_
        rw [List.map_map]
        exact List.map_id _
    _ = entries.flatMap texts := by rw [← List.flatMap_map, hnumbered]

theorem flatMap_ne_nil {texts : Entry → List String} {entries : List Entry} :
    entries.flatMap texts ≠ [] ↔ ∃ e ∈ entries, texts e ≠ [] := by
  simp only [ne_eq, List.flatMap_eq_nil_iff, not_forall, exists_prop]

/-! ## Listing the best texts -/

variable {σ : Type} [Score σ] {limit : Nat} {model query : String} {entries : List Entry}

section Listing

variable {result : Except Halt (List (Answer σ))} {call : Option (Call σ)}

theorem listing_made_iff (h : Listing limit model query entries result call) :
    call.isSome = true ↔ limit ≠ 0 ∧ ∃ e ∈ entries, e.texts ≠ [] := by
  rw [← @flatMap_ne_nil Entry.texts, ← map_text_tagged]
  cases h with
  | spared hlimit => simp [hlimit]
  | failed hlimit hasked => rw [hasked.made_iff]; exact (and_iff_right hlimit).symm
  | scored hlimit hasked => rw [hasked.made_iff]; exact (and_iff_right hlimit).symm

theorem listing_about (h : Listing limit model query entries result call) :
    AsksAbout query (entries.flatMap Entry.texts) call := by
  rw [← map_text_tagged]
  cases h with
  | spared hlimit => exact fun c hc => by cases hc
  | failed hlimit hasked => exact hasked.about
  | scored hlimit hasked => exact hasked.about

theorem listing_error_iff (h : Listing limit model query entries result call) (e : RankError) :
    result = .error (.failed e) ↔ call.toList.findSome? (·.error? model) = some e := by
  cases h with
  | spared hlimit => simp
  | failed hlimit hasked => rw [← hasked.error_iff]; simp
  | scored hlimit hasked =>
    rw [hasked.findSome?_eq_none]
    exact iff_of_false (Halt.ordered_ne_failed _ e) (Option.some_ne_none e).symm

/-- Where no text is scored there are best ones, if only none. -/
theorem bestTexts_unscored {scores : List σ} (h : scoresOf model (none : Option (Call σ)) =
    .ok scores) : bestTexts (owned entries scores) ≠ none := by
  obtain rfl := Except.ok.inj h
  intro hnone
  have hlong := (bestTexts_eq_none hnone).1
  rw [owned, List.zip_nil_right] at hlong
  exact Nat.not_lt_zero _ hlong

/-- Listing ends without an error exactly if the texts that were scored have no best ones. -/
theorem listing_disordered_iff (h : Listing limit model query entries result call) :
    result = .error .disordered ↔
      ∃ scores, scoresOf model call = .ok scores ∧ bestTexts (owned entries scores) = none := by
  cases h with
  | spared hlimit =>
    refine iff_of_false (by simp) ?_
    rintro ⟨scores, hscores, hnone⟩
    exact bestTexts_unscored hscores hnone
  | failed hlimit hasked =>
    refine iff_of_false (by simp) ?_
    rintro ⟨scores, hscores, -⟩
    rw [hasked.scoresOf_eq] at hscores
    cases hscores
  | @scored scores _ hlimit hasked =>
    rw [Halt.ordered_eq_disordered_iff, listed_eq_none, hasked.scoresOf_eq]
    exact ⟨fun h => ⟨scores, rfl, h⟩, fun ⟨_, hscores, h⟩ => Except.ok.inj hscores ▸ h⟩

end Listing

/-! ## Rankings -/

/-- No title is exact and no entry stands out. -/
structure Undecided (multiplier : σ) (titles : List (ScoredTitle σ)) : Prop where
  inexact : ∀ t ∈ titles, Score.same t.overlap exactScore = false
  unsure : outliers multiplier (sums titles) = some []

theorem any_exact_eq_false {titles : List (ScoredTitle σ)} :
    (titles.any fun t => Score.same t.overlap exactScore) = false ↔
      ∀ t ∈ titles, Score.same t.overlap exactScore = false := by
  simp only [List.any_eq_false, Bool.not_eq_true]

theorem pathOf_eq_fallback {multiplier : σ} {titles : List (ScoredTitle σ)} :
    pathOf multiplier titles = some .fallback ↔ Undecided multiplier titles := by
  cases hexact : titles.any fun t => Score.same t.overlap exactScore with
  | true =>
    rw [pathOf, if_pos hexact]
    refine iff_of_false (by simp) fun h => ?_
    rw [any_exact_eq_false.mpr h.inexact] at hexact
    cases hexact
  | false =>
    rw [pathOf_of_inexact hexact]
    refine ⟨fun h => ⟨any_exact_eq_false.mp hexact, ?_⟩, fun h => by rw [h.unsure]; rfl⟩
    obtain ⟨places, hplaces, hpath⟩ := Option.map_eq_some_iff.mp h
    split at hpath
    · rename_i hempty
      rw [hplaces, List.isEmpty_iff.mp hempty]
    · cases hpath

theorem pathOf_eq_none {multiplier : σ} {titles : List (ScoredTitle σ)} :
    pathOf multiplier titles = none ↔
      (∀ t ∈ titles, Score.same t.overlap exactScore = false) ∧
        outliers multiplier (sums titles) = none := by
  rw [← any_exact_eq_false]
  cases hexact : titles.any fun t => Score.same t.overlap exactScore with
  | true =>
    rw [pathOf, if_pos hexact]
    simp
  | false => rw [pathOf_of_inexact hexact, Option.map_eq_none_iff, and_iff_right rfl]

/-- Some scores that a ranking puts in order have none. -/
inductive Unordered (config : FaqConfig σ) (model query : String) (entries : List Entry)
    (first second : Option (Call σ)) : Prop
  /-- No title is exact, and the sums of the entries have no order. -/
  | sums {relevance : List σ} (hfirst : scoresOf model first = .ok relevance)
    (hinexact : ∀ t ∈ scoredTitles query entries relevance,
      Score.same t.overlap exactScore = false)
    (hnone : outliers config.outlierMultiplier
      (sums (scoredTitles query entries relevance)) = none)
  /-- All texts were scored, and have no order. -/
  | texts {scores : List σ} (hsecond : scoresOf model second = .ok scores)
    (hnone : bestTexts (owned entries scores) = none)

/-- More scores than are ordered by insertion, one of which is no number. -/
def Troubled (scores : List σ) : Prop :=
  20 < scores.length ∧ ∃ s ∈ scores, Score.isNaN s = true

/-- **What has no order is long and has a score that is no number.** -/
theorem Unordered.many {config : FaqConfig σ} {first second : Option (Call σ)}
    (h : Unordered config model query entries first second) :
    (∃ relevance, scoresOf model first = .ok relevance ∧
      Troubled (Faq.sums (scoredTitles query entries relevance))) ∨
    ∃ scores, scoresOf model second = .ok scores ∧ Troubled scores := by
  cases h with
  | @sums relevance hfirst hinexact hnone =>
    exact Or.inl ⟨relevance, hfirst, outliers_eq_none hnone⟩
  | @texts scores hsecond hnone =>
    obtain ⟨hlong, p, hp, hnan⟩ := bestTexts_eq_none hnone
    rw [owned, List.length_zip] at hlong
    exact Or.inr ⟨scores, hsecond, hlong.trans_le (Nat.min_le_right _ _), p.2,
      (List.of_mem_zip hp).2, hnan⟩

/-- The calls of a ranking, and what comes of it. -/
structure Asks (config : FaqConfig σ) (model query : String) (entries : List Entry)
    (result : Except Halt (Ranking σ)) (first second : Option (Call σ)) : Prop where
  /-- The first call is made exactly if some entry has a title. -/
  first_made : first.isSome = true ↔ ∃ e ∈ entries, e.titles ≠ []
  first_about : AsksAbout query (entries.flatMap (·.titles)) first
  /-- The second one is made exactly if the first, if made, succeeded, its scores decide nothing,
  something may be listed and something can be. -/
  second_made : second.isSome = true ↔
    (∃ relevance, scoresOf model first = .ok relevance ∧
      Undecided config.outlierMultiplier (scoredTitles query entries relevance)) ∧
    config.fallbackLimit ≠ 0 ∧ ∃ e ∈ entries, e.texts ≠ []
  second_about : AsksAbout query (entries.flatMap fun e =>
    e.titles ++ e.fragments.flatMap (·.texts e.titles)) second
  told : ∀ e ∈ entries, ∀ f ∈ e.fragments, f.Tells e.titles (f.texts e.titles)
  /-- An error is reported exactly if a call fails or has a wrong number of scores, and is its. -/
  failed_iff : ∀ e, result = .error (.failed e) ↔
    (first.toList ++ second.toList).findSome? (·.error? model) = some e
  /-- The ranking ends without an error or a result exactly if it misses an order. -/
  disordered_iff : result = .error .disordered ↔
    Unordered config model query entries first second
  /-- And that takes more than twenty scores, one of which is no number. -/
  troubled : result = .error .disordered →
    (∃ relevance, scoresOf model first = .ok relevance ∧
      Troubled (sums (scoredTitles query entries relevance))) ∨
    ∃ scores, scoresOf model second = .ok scores ∧ Troubled scores

variable {config : FaqConfig σ} {result : Except Halt (Ranking σ)}
  {first second : Option (Call σ)}

/-- Where no second call is made, only the sums can be without an order. -/
theorem unordered_none_iff {relevance : List σ}
    (hfirst : Asked model query ((questions entries).map (·.text)) (.ok relevance) first) :
    Unordered config model query entries first none ↔
      pathOf config.outlierMultiplier (scoredTitles query entries relevance) = none := by
  rw [pathOf_eq_none]
  constructor
  · rintro (⟨hscores, hinexact, hnone⟩ | ⟨hscores, hnone⟩)
    · rw [hfirst.scoresOf_eq] at hscores
      obtain rfl := Except.ok.inj hscores
      exact ⟨hinexact, hnone⟩
    · exact absurd hnone (bestTexts_unscored hscores)
  · rintro ⟨hinexact, hnone⟩
    exact .sums hfirst.scoresOf_eq hinexact hnone

/-- The first call leaves the ranking undecided exactly if its scores send it to the fallback. -/
theorem undecided_iff {relevance : List σ}
    (hfirst : Asked model query ((questions entries).map (·.text)) (.ok relevance) first) :
    (∃ relevance, scoresOf model first = .ok relevance ∧
        Undecided config.outlierMultiplier (scoredTitles query entries relevance)) ↔
      pathOf config.outlierMultiplier (scoredTitles query entries relevance) = some .fallback := by
  rw [pathOf_eq_fallback]
  constructor
  · rintro ⟨relevance', hscores, hundecided⟩
    rw [hfirst.scoresOf_eq] at hscores
    exact Except.ok.inj hscores ▸ hundecided
  · exact fun hundecided => ⟨relevance, hfirst.scoresOf_eq, hundecided⟩

namespace Ranked

theorem exists_asked (h : Ranked config model query entries result first second) :
    ∃ answer : Except RankError (List σ),
      Asked model query ((questions entries).map (·.text)) answer first := by
  cases h with
  | failed hfirst => exact ⟨_, hfirst⟩
  | disordered hfirst => exact ⟨_, hfirst⟩
  | chosen hfirst => exact ⟨_, hfirst⟩
  | listed hfirst => exact ⟨_, hfirst⟩

theorem second_about (h : Ranked config model query entries result first second) :
    AsksAbout query (entries.flatMap Entry.texts) second := by
  cases h with
  | failed => exact fun c hc => by cases hc
  | disordered => exact fun c hc => by cases hc
  | chosen => exact fun c hc => by cases hc
  | listed _ _ hsecond => exact listing_about hsecond

/-- The second call is spared wherever the first one settles what comes of the ranking. -/
theorem second_made_iff (h : Ranked config model query entries result first second) :
    second.isSome = true ↔
      (∃ relevance, scoresOf model first = .ok relevance ∧
        Undecided config.outlierMultiplier (scoredTitles query entries relevance)) ∧
      config.fallbackLimit ≠ 0 ∧ ∃ e ∈ entries, e.texts ≠ [] := by
  cases h with
  | failed hfirst =>
    refine iff_of_false Bool.false_ne_true ?_
    rintro ⟨⟨relevance, hscores, -⟩, -⟩
    rw [hfirst.scoresOf_eq] at hscores
    cases hscores
  | disordered hfirst hpath =>
    rw [undecided_iff hfirst, hpath]
    simp
  | chosen hfirst hchosen hsome =>
    rw [undecided_iff hfirst, ← eq_nil_iff_fallback hchosen]
    exact iff_of_false Bool.false_ne_true fun h => hsome h.1
  | listed hfirst hpath hsecond =>
    rw [listing_made_iff hsecond, undecided_iff hfirst, and_iff_right hpath]

/-- An error is reported exactly if a call fails, and is the one of the first that does. -/
theorem failed_iff (h : Ranked config model query entries result first second) (e : RankError) :
    result = .error (.failed e) ↔
      (first.toList ++ second.toList).findSome? (·.error? model) = some e := by
  rw [List.findSome?_append]
  cases h with
  | @failed error _ hfirst =>
    have hfailed : (.error (.failed error) : Except Halt (Ranking σ)) = .error (.failed e) ↔
        (.error error : Except RankError (List σ)) = .error e := by simp
    rw [hfailed, hfirst.error_iff]
    simp
  | disordered hfirst hpath =>
    rw [hfirst.findSome?_eq_none]
    simp
  | chosen hfirst hchosen hsome =>
    rw [hfirst.findSome?_eq_none]
    simp
  | @listed _ _ _ answers hfirst hpath hsecond =>
    rw [hfirst.findSome?_eq_none, Option.none_or, ← listing_error_iff hsecond]
    cases answers <;> simp [Except.map]

/-- A ranking ends without an error or a result exactly where it misses an order. -/
theorem disordered_iff (h : Ranked config model query entries result first second) :
    result = .error .disordered ↔ Unordered config model query entries first second := by
  cases h with
  | failed hfirst =>
    refine iff_of_false (by simp) ?_
    rintro (⟨hscores, -, -⟩ | ⟨hscores, hnone⟩)
    · rw [hfirst.scoresOf_eq] at hscores
      cases hscores
    · exact bestTexts_unscored hscores hnone
  | disordered hfirst hpath => exact iff_of_true rfl ((unordered_none_iff hfirst).mpr hpath)
  | chosen hfirst hchosen hsome =>
    refine iff_of_false (by simp) fun h => ?_
    rw [confidentTitles_eq_none.mpr ((unordered_none_iff hfirst).mp h)] at hchosen
    cases hchosen
  | @listed relevance _ _ answers hfirst hpath hsecond =>
    have hresult : (answers.map (⟨·, false⟩) : Except Halt (Ranking σ)) = .error .disordered ↔
        answers = .error .disordered := by cases answers <;> simp [Except.map]
    rw [hresult, listing_disordered_iff hsecond]
    constructor
    · rintro ⟨scores, hscores, hnone⟩
      exact .texts hscores hnone
    · rintro (⟨hscores, hinexact, hnone⟩ | ⟨hscores, hnone⟩)
      · rw [hfirst.scoresOf_eq] at hscores
        obtain rfl := Except.ok.inj hscores
        cases (pathOf_eq_none.mpr ⟨hinexact, hnone⟩).symm.trans hpath
      · exact ⟨_, hscores, hnone⟩

theorem asks (h : Ranked config model query entries result first second) :
    Asks config model query entries result first second := by
  obtain ⟨answer, hfirst⟩ := h.exists_asked
  constructor
  case first_made =>
    rw [hfirst.made_iff, questions, map_text_tagged]
    exact flatMap_ne_nil
  case first_about =>
    rw [← map_text_tagged]
    exact hfirst.about
  case second_made => exact h.second_made_iff
  case second_about => exact h.second_about
  case told => exact fun e _ f _ => f.texts_tells e.titles
  case failed_iff => exact h.failed_iff
  case disordered_iff => exact h.disordered_iff
  case troubled => exact fun hresult => (h.disordered_iff.mp hresult).many

end Ranked

variable {m : Type → Type} [Monad m] [LawfulMonad m]

/-- **A ranking asks about all titles**, and about all titles and answers if these decide nothing.
It reports an error exactly if a call fails, and beside that may end where an order is missing. -/
theorem rank_asks (config : FaqConfig σ) (reranker : Reranker m σ) (input : Query)
    (entries : List Entry) :
    Records (rank config reranker.recorded input entries) (rank config reranker input entries) ∧
      Ensures ((rank config reranker.recorded input entries).run.run []) fun x =>
        ∃ first second : Option (Call σ), x.2 = first.toList ++ second.toList ∧
          Asks config reranker.model input.effective entries x.1 first second := by
  refine ⟨rank_records config reranker input entries,
    (rank_ranked config reranker input entries).imp ?_⟩
  rintro ⟨result, calls⟩ ⟨first, second, hcalls, hranked⟩
  exact ⟨first, second, hcalls, hranked.asks⟩

/-- Of the details of an image, a caption that repeats the title and one of two characters are not
asked about. One score for the two texts that are left is refused. -/
theorem image_details_asked :
    let details : Dictionary String := .ofList [("alt", "a view"), ("image", " t "), ("ocr", "ab")]
    let entries : List Entry := [⟨["t"], [⟨.image, "", details⟩]⟩]
    let reranker : Reranker Id Float := Fusion.answering [0.5]
    let x := ((rank ⟨2, 1.5⟩ reranker.recorded (.ofText "q") entries).run.run []).run
    x.1 = .error (.failed (.rerankerFailed "scripted" "expected 2 scores, got 1")) ∧
      ∃ c d, x.2 = [c, d] ∧ c.texts = ["t"] ∧ d.texts = ["t", "a view"] ∧
        Asks ⟨2, 1.5⟩ "scripted" "q" entries x.1 (some c) (some d) := by
  intro details entries reranker x
  have hquestions : (questions entries).map (·.text) = ["t"] := rfl
  have htexts : (questionsAnswers entries).map (·.text) = ["t", "a view"] := by decide +kernel
  have hundecided : Undecided 1.5 (scoredTitles "q" entries [(0.5 : Float)]) :=
    ⟨by decide +kernel, Option.some.inj (by decide +kernel)⟩
  have hfallback : ((fallback ⟨2, 1.5⟩ reranker.recorded "q" entries).run.run
      [⟨"q", ["t"], .ok [0.5]⟩]).run =
        (.error (.failed (.rerankerFailed "scripted" "expected 2 scores, got 1")),
          [⟨"q", ["t"], .ok [0.5]⟩, ⟨"q", ["t", "a view"], .ok [0.5]⟩]) := by
    rw [fallback_eq, htexts]
    rfl
  have hrank := run_rank_chosen ⟨2, 1.5⟩ reranker (.ofText "q") hquestions
    (List.cons_ne_nil _ _) rfl rfl (confidentTitles_eq_nil.mpr (pathOf_eq_fallback.mpr hundecided))
  have hrun : x = (.error (.failed (.rerankerFailed "scripted" "expected 2 scores, got 1")),
      [⟨"q", ["t"], .ok [0.5]⟩, ⟨"q", ["t", "a view"], .ok [0.5]⟩]) := by
    refine (congrArg Id.run hrank).trans ?_
    rw [conclude, if_pos List.isEmpty_nil, ExceptT.run_map, StateT.run_map]
    exact congrArg (fun x => (x.1.map (Ranking.mk · false), x.2)) hfallback
  obtain ⟨first, second, hcalls, hasks⟩ := Ensures.id_iff.mp
    (rank_asks (m := Id) ⟨2, 1.5⟩ reranker (.ofText "q") entries).2
  change x.2 = _ at hcalls
  change Asks _ _ _ _ x.1 _ _ at hasks
  rw [hrun] at hcalls hasks ⊢
  cases first with
  | none => cases second <;> simp at hcalls
  | some c =>
    cases second with
    | none => simp at hcalls
    | some d =>
      simp only [Option.toList_some, List.cons_append, List.nil_append] at hcalls
      refine ⟨rfl, c, d, hcalls, ?_, ?_, hasks⟩
      · rw [← (List.cons.inj hcalls).1]
      · rw [← (List.cons.inj (List.cons.inj hcalls).2).1]

/-! ## Texts without an order -/

/-- Where no entry has a title, the best texts are listed at once. -/
theorem rank_untitled (config : FaqConfig σ) (reranker : Reranker m σ) (input : Query)
    (h : ∀ e ∈ entries, e.titles = []) :
    rank config reranker input entries =
      (⟨·, false⟩) <$> fallback config reranker input.effective entries := by
  have hquestions : questions entries = [] :=
    List.map_eq_nil_iff.mp ((map_text_tagged _ entries).trans (List.flatMap_eq_nil_iff.mpr h))
  have hscored : ∀ relevance : List σ, scoredTitles input.effective entries relevance = [] :=
    fun relevance => by rw [scoredTitles, hquestions]; rfl
  have hasked : Halt.failing (reranker.scoreAll input.effective []) = pure [] := by
    rw [Reranker.scoreAll_nil]
    exact ExceptT.ext (map_pure _ _)
  have hchosen : (Halt.ordering (confidentTitles config.outlierMultiplier []) :
      ExceptT Halt m (List (ScoredTitle σ))) = pure [] := rfl
  rw [rank_eq, hquestions, List.map_nil, hasked, pure_bind, hscored, hchosen, pure_bind, conclude,
    if_pos List.isEmpty_nil]

/-- Entries with one text each. -/
def texted (texts : List String) : List Entry :=
  texts.map fun text => ⟨[], [⟨.text, text, .empty⟩]⟩

theorem map_text_texted (texts : List String) :
    (questionsAnswers (texted texts)).map (·.text) = texts := by
  refine (map_text_tagged Entry.texts (texted texts)).trans ?_
  rw [texted, List.flatMap_map]
  exact List.flatMap_singleton' texts

theorem bestTexts_unorderable :
    bestTexts (owned (texted ((List.range 21).map toString))
      ((List.range 21).map Fusion.unorderable)) = none :=
  Option.isNone_iff_eq_none.mp (by decide +kernel)

/-- The one call that a ranking makes succeeds with a score for each of the 21 texts, and yet the
ranking has no result. -/
theorem halted_after_call :
    ∃ c : Call Float, c.error? "placed" = none ∧
      ((rank ⟨3, 1.5⟩ (Reranker.placed (m := Id) Fusion.unorderable).recorded (.ofText "q")
        (texted ((List.range 21).map toString))).run.run []).run =
          (.error .disordered, [c]) := by
  refine ⟨⟨"q", (List.range 21).map toString, .ok ((List.range 21).map Fusion.unorderable)⟩, rfl,
    ?_⟩
  have hfallback : ((fallback ⟨3, 1.5⟩ (Reranker.placed (m := Id) Fusion.unorderable).recorded "q"
      (texted ((List.range 21).map toString))).run.run []).run = (.error .disordered,
        [⟨"q", (List.range 21).map toString, .ok ((List.range 21).map Fusion.unorderable)⟩]) := by
    rw [fallback_eq, if_neg (by decide), map_text_texted, ExceptT.run_bind, StateT.run_bind,
      Halt.run_failing, StateT.run_map, Reranker.run_scoreAll_recorded _ _ (by decide)]
    change (Halt.ordered (listed 3 _ ((List.range 21).map Fusion.unorderable)), _) = _
    rw [listed_eq_none.mpr bestTexts_unorderable]
    rfl
  rw [rank_untitled _ _ _ (by decide), ExceptT.run_map, StateT.run_map]
  exact congrArg (fun x => (x.1.map (Ranking.mk · false), x.2)) hfallback

end Faq
end EvidenceRank
