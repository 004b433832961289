import EvidenceRank.Faq.Ranking
import EvidenceRank.Proofs.Faq.Outlier
import EvidenceRank.Proofs.Reranker

/-!
# FAQ rankings are well formed

A position stands for a title, for one of the entries that have titles, for a text, or for an
entry. Ranking goes from titles to the sums of their entries, from a sum that stands out back to a
title, and from there to an entry. Entries without titles make these positions differ.

* `titled_of_mem`: a scored title belongs to an entry that has titles.
* `titleAt?_of_mem_outliers`: a sum that stands out has an entry, and that entry a first title.
* `confidentTitles_cases`: what is chosen along each path.
* `confidentTitles_pairwise`: no entry is chosen twice, so there are as many answers as titles.
* `listed_stands`, `fallback_ensures`: what is listed when nothing is chosen.
* `rank_well_formed`: the answers and the flag of a ranking, and the lookups behind them, for any
  reranker.
-/

namespace EvidenceRank.Faq

/-! ## Owners -/

/-- A tagged text is one that is picked from the entry at the position it carries. -/
theorem mem_tagged {texts : Entry → List String} {entries : List Entry} {t : Tagged} :
    t ∈ tagged texts entries ↔ ∃ e, entries[t.owner]? = some e ∧ t.text ∈ texts e := by
  rw [tagged, List.mem_flatMap]
  constructor
  · rintro ⟨⟨i, e⟩, hnumbered, ht⟩
    obtain ⟨text, htext, rfl⟩ := List.mem_map.mp ht
    exact ⟨e, mem_numbered.mp hnumbered, htext⟩
  · rintro ⟨e, he, ht⟩
    exact ⟨(t.owner, e), mem_numbered.mpr he, List.mem_map.mpr ⟨t.text, ht, rfl⟩⟩

/-- The texts of an entry stand together, in the order of the entries. -/
theorem tagged_pairwise (texts : Entry → List String) (entries : List Entry) :
    (tagged texts entries).Pairwise fun t u => t.owner ≤ u.owner := by
  rw [tagged, List.pairwise_flatMap]
  constructor
  · rintro ⟨i, e⟩ -
    exact List.pairwise_map.mpr (List.pairwise_of_forall fun _ _ => Nat.le_refl i)
  · refine (numbered_pairwise entries).imp fun {a b} hlt t ht u hu => ?_
    obtain ⟨-, -, rfl⟩ := List.mem_map.mp ht
    obtain ⟨-, -, rfl⟩ := List.mem_map.mp hu
    exact Nat.le_of_lt hlt

section
variable {σ : Type} [Score σ]

/-- The query itself is an exact title. -/
theorem overlapScore_self (query : String) : overlapScore query query = (exactScore : σ) := by
  rw [overlapScore, if_pos (beq_self_eq_true _)]

/-- The titles of the entries with their scores. -/
def scoredTitles (query : String) (entries : List Entry) (relevance : List σ) :
    List (ScoredTitle σ) :=
  List.zipWith (scoreTitle query) (questions entries) relevance

theorem length_scoredTitles {query : String} {entries : List Entry} {relevance : List σ}
    (h : relevance.length = (questions entries).length) :
    (scoredTitles query entries relevance).length = (questions entries).length := by
  rw [scoredTitles, List.length_zipWith, h, Nat.min_self]

/-- A scored title belongs to an entry that has titles. -/
theorem titled_of_mem {query : String} {entries : List Entry} {relevance : List σ}
    {t : ScoredTitle σ} (h : t ∈ scoredTitles query entries relevance) :
    ∃ e, entries[t.owner]? = some e ∧ e.titles ≠ [] := by
  rw [scoredTitles, ← List.map_uncurry_zip_eq_zipWith] at h
  obtain ⟨⟨q, r⟩, hqr, rfl⟩ := List.mem_map.mp h
  obtain ⟨e, he, htitle⟩ := mem_tagged.mp (List.of_mem_zip hqr).1
  exact ⟨e, he, List.ne_nil_of_mem htitle⟩

/-! ## Sums of entries -/

/-- The sums of the entries that have titles. -/
def sums (titles : List (ScoredTitle σ)) : List σ := (entryScores titles).map (·.2)

/-- The first title of the entry that a position among the sums stands for. -/
def titleAt? (titles : List (ScoredTitle σ)) (i : Nat) : Option (ScoredTitle σ) := do
  let (owner, _) ← (entryScores titles)[i]?
  titles.find? (·.owner == owner)

theorem map_fst_entryScores (titles : List (ScoredTitle σ)) :
    (entryScores titles).map (·.1) = Lists.distinctBy id (titles.map (·.owner)) := by
  rw [entryScores, List.map_map]
  exact List.map_id _

/-- No entry is summed twice. -/
theorem entryScores_pairwise (titles : List (ScoredTitle σ)) :
    (entryScores titles).Pairwise fun a b => a.1 ≠ b.1 := by
  have h := Lists.distinctBy_pairwise id (titles.map (·.owner))
  rw [← map_fst_entryScores] at h
  exact List.pairwise_map.mp h

/-- An entry with a sum has a title. -/
theorem find?_of_mem_entryScores {titles : List (ScoredTitle σ)} {a : Nat × σ}
    (h : a ∈ entryScores titles) :
    ∃ t, titles.find? (·.owner == a.1) = some t ∧ t ∈ titles ∧ t.owner = a.1 := by
  have howner : a.1 ∈ Lists.distinctBy id (titles.map (·.owner)) := by
    rw [← map_fst_entryScores]
    exact List.mem_map.mpr ⟨a, h, rfl⟩
  obtain ⟨t₀, ht₀, hta⟩ := List.mem_map.mp (Lists.mem_of_mem_distinctBy howner)
  have hfound : (titles.find? (·.owner == a.1)).isSome = true :=
    List.find?_isSome.mpr ⟨t₀, ht₀, beq_iff_eq.mpr hta⟩
  obtain ⟨t, ht⟩ := Option.isSome_iff_exists.mp hfound
  have hkey := List.find?_some ht
  exact ⟨t, ht, List.mem_of_find?_eq_some ht, beq_iff_eq.mp hkey⟩

/-- A sum that stands out has an entry, and that entry a first title. -/
theorem titleAt?_of_mem_outliers {multiplier : σ} {titles : List (ScoredTitle σ)}
    {places : List Nat} (h : outliers multiplier (sums titles) = some places) {i : Nat}
    (hi : i ∈ places) :
    ∃ a t, (entryScores titles)[i]? = some a ∧ titleAt? titles i = some t ∧ t ∈ titles ∧
      t.owner = a.1 := by
  obtain ⟨s, hs⟩ := get?_of_mem_outliers h hi
  rw [sums, List.getElem?_map] at hs
  obtain ⟨a, ha, -⟩ := Option.map_eq_some_iff.mp hs
  obtain ⟨t, hfind, ht, howner⟩ := find?_of_mem_entryScores (List.mem_of_getElem? ha)
  refine ⟨a, t, ha, ?_, ht, howner⟩
  rw [titleAt?, ha]
  exact hfind

/-! ## Paths -/

/-- How the answers of a ranking are found. -/
inductive Path where
  /-- A title equals the query. -/
  | exact
  /-- The sums of some entries stand out. -/
  | outlier
  /-- Neither, and the best texts are listed. -/
  | fallback
deriving DecidableEq

/-- The path that a ranking takes on scored titles, unless it needs an order that there is not. -/
def pathOf (multiplier : σ) (titles : List (ScoredTitle σ)) : Option Path :=
  if (titles.any fun t => Score.same t.overlap exactScore) then some .exact
  else (outliers multiplier (sums titles)).map fun places =>
    if places.isEmpty then .fallback else .outlier

theorem pathOf_of_inexact {multiplier : σ} {titles : List (ScoredTitle σ)}
    (h : (titles.any fun t => Score.same t.overlap exactScore) = false) :
    pathOf multiplier titles = (outliers multiplier (sums titles)).map fun places =>
      if places.isEmpty then .fallback else .outlier := by
  rw [pathOf, h, if_neg Bool.false_ne_true]

/-- Without an exact title, what is chosen goes by the sums. -/
theorem confidentTitles_of_inexact {multiplier : σ} {titles : List (ScoredTitle σ)}
    (h : titles.find? (fun t => Score.same t.overlap exactScore) = none) :
    confidentTitles multiplier titles =
      (outliers multiplier (sums titles)).map (List.filterMap (titleAt? titles)) := by
  rw [confidentTitles, h]
  exact bind_pure_comp _ _

/-- Nothing is chosen, not even nothing, exactly where there is no path. -/
theorem confidentTitles_eq_none {multiplier : σ} {titles : List (ScoredTitle σ)} :
    confidentTitles multiplier titles = none ↔ pathOf multiplier titles = none := by
  cases hfind : titles.find? fun t => Score.same t.overlap exactScore with
  | some t =>
    have hsame := List.find?_some hfind
    have hany : (titles.any fun t => Score.same t.overlap exactScore) = true :=
      List.any_eq_true.mpr ⟨t, List.mem_of_find?_eq_some hfind, hsame⟩
    rw [confidentTitles, hfind, pathOf, if_pos hany]
    exact iff_of_false (Option.some_ne_none _) (Option.some_ne_none _)
  | none =>
    have hany := List.any_eq_false.mpr (List.find?_eq_none.mp hfind)
    rw [confidentTitles_of_inexact hfind, pathOf_of_inexact hany, Option.map_eq_none_iff,
      Option.map_eq_none_iff]

section
variable {multiplier : σ} {titles chosen : List (ScoredTitle σ)}

/-- What is chosen along each path: one title that equals the query, the first title of each entry
that stands out, or nothing. -/
theorem confidentTitles_cases (h : confidentTitles multiplier titles = some chosen) :
    (pathOf multiplier titles = some .exact ∧
      ∃ t ∈ titles, Score.same t.overlap exactScore = true ∧ chosen = [t]) ∨
    (pathOf multiplier titles = some .outlier ∧
      ∃ places, outliers multiplier (sums titles) = some places ∧ places ≠ [] ∧
        chosen = places.filterMap (titleAt? titles)) ∨
    (pathOf multiplier titles = some .fallback ∧ chosen = []) := by
  cases hfind : titles.find? fun t => Score.same t.overlap exactScore with
  | some t =>
    have hsame := List.find?_some hfind
    have hmem := List.mem_of_find?_eq_some hfind
    rw [confidentTitles, hfind] at h
    exact Or.inl ⟨if_pos (List.any_eq_true.mpr ⟨t, hmem, hsame⟩), t, hmem, hsame,
      (Option.some.inj h).symm⟩
  | none =>
    rw [confidentTitles_of_inexact hfind] at h
    obtain ⟨places, hplaces, rfl⟩ := Option.map_eq_some_iff.mp h
    rw [pathOf_of_inexact (List.any_eq_false.mpr (List.find?_eq_none.mp hfind)), hplaces]
    cases places with
    | nil => exact Or.inr (Or.inr ⟨rfl, rfl⟩)
    | cons i places => exact Or.inr (Or.inl ⟨rfl, _, rfl, List.cons_ne_nil i places, rfl⟩)

theorem mem_of_mem_confidentTitles (h : confidentTitles multiplier titles = some chosen)
    {t : ScoredTitle σ} (ht : t ∈ chosen) : t ∈ titles := by
  rcases confidentTitles_cases h with
    ⟨-, t', ht', -, rfl⟩ | ⟨-, places, hplaces, -, rfl⟩ | ⟨-, rfl⟩
  · exact List.mem_singleton.mp ht ▸ ht'
  · obtain ⟨i, hi, hti⟩ := List.mem_filterMap.mp ht
    obtain ⟨a, t', -, hti', ht', -⟩ := titleAt?_of_mem_outliers hplaces hi
    rw [hti] at hti'
    exact Option.some.inj hti' ▸ ht'
  · exact absurd ht List.not_mem_nil

/-- Nothing is chosen exactly when the best texts are listed. -/
theorem eq_nil_iff_fallback (h : confidentTitles multiplier titles = some chosen) :
    chosen = [] ↔ pathOf multiplier titles = some .fallback := by
  rcases confidentTitles_cases h with
    ⟨hpath, t, -, -, rfl⟩ | ⟨hpath, places, hplaces, hne, rfl⟩ | ⟨hpath, rfl⟩
  · rw [hpath]
    exact iff_of_false (List.cons_ne_nil t []) (by decide)
  · rw [hpath]
    refine iff_of_false (fun hnil => ?_) (by decide)
    obtain ⟨i, hi⟩ := List.exists_mem_of_ne_nil _ hne
    obtain ⟨-, t, -, ht, -⟩ := titleAt?_of_mem_outliers hplaces hi
    rw [List.filterMap_eq_nil_iff.mp hnil i hi] at ht
    cases ht
  · rw [hpath]
    exact iff_of_true rfl rfl

theorem confidentTitles_eq_nil :
    confidentTitles multiplier titles = some [] ↔ pathOf multiplier titles = some .fallback := by
  refine ⟨fun h => (eq_nil_iff_fallback h).mp rfl, fun h => ?_⟩
  obtain ⟨chosen, hchosen⟩ := Option.ne_none_iff_exists'.mp fun hnone => by
    rw [confidentTitles_eq_none.mp hnone] at h
    cases h
  rw [hchosen, (eq_nil_iff_fallback hchosen).mpr h]

/-- No entry is chosen twice: the sums that stand out are at different positions, and no entry is
summed twice. -/
theorem confidentTitles_pairwise (h : confidentTitles multiplier titles = some chosen) :
    chosen.Pairwise fun x y => x.owner ≠ y.owner := by
  rcases confidentTitles_cases h with ⟨-, t, -, -, rfl⟩ | ⟨-, places, hplaces, -, rfl⟩ | ⟨-, rfl⟩
  · exact List.pairwise_singleton _ _
  · rw [List.pairwise_filterMap]
    refine (outliers_pairwise hplaces).imp_of_mem ?_
    intro i j hi hj hlt x hx y hy howner
    -- different positions are different sums, and the owners of their titles are what they sum
    obtain ⟨a, x', ha, hx', -, hxa⟩ := titleAt?_of_mem_outliers hplaces hi
    obtain ⟨b, y', hb, hy', -, hyb⟩ := titleAt?_of_mem_outliers hplaces hj
    obtain rfl : x' = x := Option.some.inj (hx'.symm.trans hx)
    obtain rfl : y' = y := Option.some.inj (hy'.symm.trans hy)
    obtain ⟨hi', rfl⟩ := List.getElem?_eq_some_iff.mp ha
    obtain ⟨hj', rfl⟩ := List.getElem?_eq_some_iff.mp hb
    have hne := List.pairwise_iff_getElem.mp (entryScores_pairwise titles) i j hi' hj' hlt
    exact hne (hxa.symm.trans (howner.trans hyb))
  · exact List.Pairwise.nil

end

/-! ## Answers -/

/-- Answers that stand for entries by their positions, each for another one. -/
structure Stands (entries : List Entry) (answers : List (Answer σ)) : Prop where
  distinct : (answers.map (·.index)).Nodup
  entry_at : ∀ a ∈ answers, entries[a.index]? = some a.entry

variable {α : Type} {entries : List Entry} (owner : α → Nat) (score : α → σ) {xs : List α}

omit [Score σ] in
/-- The answers for positions that have entries: none is lost. -/
theorem map_index_answers (h : ∀ x ∈ xs, ∃ e, entries[owner x]? = some e) :
    (xs.filterMap fun x => answerOf? entries (owner x) (score x)).map (·.index) =
      xs.map owner := by
  induction xs with
  | nil => rfl
  | cons x xs ih =>
    obtain ⟨e, he⟩ := h x List.mem_cons_self
    have hx : answerOf? entries (owner x) (score x) = some ⟨owner x, e, score x⟩ := by
      rw [answerOf?, he]
      rfl
    rw [List.filterMap_cons, hx, List.map_cons, List.map_cons,
      ih fun y hy => h y (List.mem_cons_of_mem x hy)]

omit [Score σ] in
theorem stands_answers (h : ∀ x ∈ xs, ∃ e, entries[owner x]? = some e)
    (hdistinct : xs.Pairwise fun x y => owner x ≠ owner y) :
    Stands entries (xs.filterMap fun x => answerOf? entries (owner x) (score x)) where
  distinct := by
    rw [map_index_answers owner score h]
    exact List.pairwise_map.mpr hdistinct
  entry_at := by
    intro a ha
    obtain ⟨x, -, hx⟩ := List.mem_filterMap.mp ha
    obtain ⟨e, he, rfl⟩ := Option.map_eq_some_iff.mp hx
    exact he

/-! ## The listed texts -/

/-- The scores with the positions of the entries that they belong to. -/
def owned (entries : List Entry) (scores : List σ) : List (Nat × σ) :=
  ((questionsAnswers entries).map (·.owner)).zip scores

section
variable {scored best : List (Nat × σ)}

/-- The best texts are the first ones of their entries in an order of all. -/
theorem bestTexts_eq_some_iff : bestTexts scored = some best ↔
    ∃ ranked, Lists.rankScores (fun s => !Score.isNaN s.2) (fun a b => Score.lt b.2 a.2) 8 scored =
      some ranked ∧ Lists.distinctBy (·.1) ranked = best := by
  rw [bestTexts, Option.bind_eq_bind, Option.bind_eq_some_iff]
  simp only [Option.pure_def, Option.some.injEq]

theorem bestTexts_pairwise (h : bestTexts scored = some best) :
    best.Pairwise fun x y => x.1 ≠ y.1 := by
  obtain ⟨ranked, -, rfl⟩ := bestTexts_eq_some_iff.mp h
  exact Lists.distinctBy_pairwise _ _

theorem mem_of_mem_bestTexts (h : bestTexts scored = some best) {p : Nat × σ} (hp : p ∈ best) :
    p ∈ scored := by
  obtain ⟨ranked, hranked, rfl⟩ := bestTexts_eq_some_iff.mp h
  exact (Lists.rankScores_perm _ _ _ hranked).mem_iff.mp (Lists.mem_of_mem_distinctBy hp)

/-- **Only of many texts with a score that is no number there may be no best ones.** -/
theorem bestTexts_eq_none (h : bestTexts scored = none) :
    Lists.insertionLength < scored.length ∧ ∃ p ∈ scored, Score.isNaN p.2 = true := by
  rw [bestTexts] at h
  cases hranked : Lists.rankScores (fun s : Nat × σ => !Score.isNaN s.2)
      (fun a b => Score.lt b.2 a.2) 8 scored with
  | some ranked =>
    rw [hranked] at h
    cases h
  | none =>
    refine (Lists.rankScores_eq_none hranked).imp_right fun ⟨p, hp, hnan⟩ => ⟨p, hp, ?_⟩
    simpa using hnan

end

/-- A listed text belongs to an entry. -/
theorem entry_of_mem_bestTexts {entries : List Entry} {scores : List σ} {best : List (Nat × σ)}
    (h : bestTexts (owned entries scores) = some best) {p : Nat × σ} (hp : p ∈ best) :
    ∃ e, entries[p.1]? = some e := by
  obtain ⟨t, ht, howner⟩ := List.mem_map.mp (List.of_mem_zip (mem_of_mem_bestTexts h hp)).1
  obtain ⟨e, he, -⟩ := mem_tagged.mp ht
  exact ⟨e, howner ▸ he⟩

/-- The answers that the first `limit` texts are. -/
def answersOf (limit : Nat) (entries : List Entry) (best : List (Nat × σ)) : List (Answer σ) :=
  (best.take limit).filterMap fun (owner, s) => answerOf? entries owner s

/-- The entries that are listed for the scores of their texts. -/
def listed (limit : Nat) (entries : List Entry) (scores : List σ) : Option (List (Answer σ)) :=
  (bestTexts (owned entries scores)).map (answersOf limit entries)

theorem listed_eq_none {limit : Nat} {entries : List Entry} {scores : List σ} :
    listed limit entries scores = none ↔ bestTexts (owned entries scores) = none :=
  Option.map_eq_none_iff

theorem listed_stands {limit : Nat} {entries : List Entry} {scores : List σ}
    {answers : List (Answer σ)} (h : listed limit entries scores = some answers) :
    Stands entries answers ∧ answers.length ≤ limit := by
  obtain ⟨best, hbest, rfl⟩ := Option.map_eq_some_iff.mp h
  have hentry : ∀ p ∈ best.take limit, ∃ e, entries[p.1]? = some e :=
    fun p hp => entry_of_mem_bestTexts hbest (List.mem_of_mem_take hp)
  have hdistinct := (bestTexts_pairwise hbest).sublist (List.take_sublist limit best)
  refine ⟨stands_answers Prod.fst Prod.snd hentry hdistinct, ?_⟩
  exact Nat.le_trans (List.length_filterMap_le _ _) (List.length_take_le _ _)

variable {m : Type → Type} [Monad m] [LawfulMonad m]

/-- Listing is asking about all texts and putting them in order. -/
theorem fallback_eq (config : FaqConfig σ) (reranker : Reranker m σ) (query : String)
    (entries : List Entry) : fallback config reranker query entries =
      if config.fallbackLimit = 0 then pure []
      else Halt.failing (reranker.scoreAll query ((questionsAnswers entries).map (·.text))) >>=
        fun scores => Halt.ordering (listed config.fallbackLimit entries scores) := by
  rw [fallback]
  split
  · rfl
  · refine congrArg (_ >>= ·) (funext fun scores => ?_)
    rw [listed, ← Halt.map_ordering]
    exact bind_pure_comp _ _

/-- What is listed when nothing is chosen. -/
theorem fallback_ensures (config : FaqConfig σ) (reranker : Reranker m σ) (query : String)
    (entries : List Entry) :
    Ensures (fallback config reranker query entries).run fun result =>
      ∀ answers, result = .ok answers →
        Stands entries answers ∧ answers.length ≤ config.fallbackLimit := by
  rw [fallback_eq]
  split
  · refine Ensures.pure fun answers h => ?_
    obtain rfl := Except.ok.inj h
    exact ⟨⟨List.nodup_nil, fun a ha => absurd ha List.not_mem_nil⟩, Nat.zero_le _⟩
  · refine (Ensures.trivial _).ordered (fun scores _ answers h => ?_) fun e _ answers h => by
      cases h
    exact listed_stands (Halt.ordered_eq_ok_iff.mp h)

/-! ## Rankings -/

/-- The ranking that is made of chosen titles. -/
def choice (entries : List Entry) (chosen : List (ScoredTitle σ)) : Ranking σ :=
  ⟨(Lists.distinctBy (·.owner) chosen).filterMap fun t => answerOf? entries t.owner t.combined,
    chosen.length == 1⟩

/-- What is made of the titles that are chosen. -/
def conclude (config : FaqConfig σ) (reranker : Reranker m σ) (query : String)
    (entries : List Entry) (chosen : List (ScoredTitle σ)) : ExceptT Halt m (Ranking σ) :=
  if chosen.isEmpty then (⟨·, false⟩) <$> fallback config reranker query entries
  else pure (choice entries chosen)

/-- A ranking along with the scored titles that it was made from. -/
def rankTraced (config : FaqConfig σ) (reranker : Reranker m σ) (input : Query)
    (entries : List Entry) : ExceptT Halt m (List (ScoredTitle σ) × Ranking σ) := do
  let relevance ←
    Halt.failing (reranker.scoreAll input.effective ((questions entries).map (·.text)))
  let titles := scoredTitles input.effective entries relevance
  let chosen ← Halt.ordering (confidentTitles config.outlierMultiplier titles)
  return (titles, ← conclude config reranker input.effective entries chosen)

/-- A ranking asks about all titles, chooses some and concludes. -/
theorem rank_eq (config : FaqConfig σ) (reranker : Reranker m σ) (input : Query)
    (entries : List Entry) : rank config reranker input entries =
      Halt.failing (reranker.scoreAll input.effective ((questions entries).map (·.text))) >>=
        fun relevance => Halt.ordering (confidentTitles config.outlierMultiplier
          (scoredTitles input.effective entries relevance)) >>=
            conclude config reranker input.effective entries := by
  refine congrArg (_ >>= ·) (funext fun relevance => congrArg (_ >>= ·) (funext fun chosen => ?_))
  rw [conclude]
  split
  · exact bind_pure_comp _ _
  · rfl

/-- Tracing changes no ranking. -/
theorem snd_rankTraced (config : FaqConfig σ) (reranker : Reranker m σ) (input : Query)
    (entries : List Entry) :
    Prod.snd <$> rankTraced config reranker input entries =
      rank config reranker input entries := by
  rw [rank_eq, rankTraced, map_bind]
  refine congrArg (_ >>= ·) (funext fun relevance => ?_)
  simp only [map_bind, map_pure, bind_pure]

/-- What a caller may rely on in a ranking of `entries` that was made from scored titles along a
path. -/
structure WellFormed (config : FaqConfig σ) (entries : List Entry)
    (titles : List (ScoredTitle σ)) (path : Path) (ranking : Ranking σ) : Prop
    extends Stands entries ranking.answers where
  taken : pathOf config.outlierMultiplier titles = some path
  /-- The flag stands for exactly one answer that was not merely listed. -/
  confident_iff : ranking.confident = true ↔ path ≠ .fallback ∧ ranking.answers.length = 1
  /-- The answers are the entries of the chosen titles, in their order. -/
  chosen : path ≠ .fallback → ∃ chosen,
    confidentTitles config.outlierMultiplier titles = some chosen ∧
      ranking.answers.map (·.index) = chosen.map (·.owner)
  titled : path ≠ .fallback → ∀ a ∈ ranking.answers, a.entry.titles ≠ []
  limited : path = .fallback → ranking.answers.length ≤ config.fallbackLimit

/-- Every lookup by position finds something. -/
structure InRange (multiplier : σ) (entries : List Entry) (titles : List (ScoredTitle σ)) :
    Prop where
  /-- Every title has its scores. -/
  scored : titles.length = (questions entries).length
  /-- The sums, in order, have the quartiles that they are tested against. -/
  quartile : enoughForQuartiles ≤ (sums titles).length → ∀ ascending,
    Lists.rankScores (!Score.isNaN ·) Score.lt 8 (sums titles) = some ascending →
      ∀ k ≤ 4, (quartile? ascending k).isSome = true
  /-- What stands out is the sum of an entry, which has a title. -/
  aggregate : ∀ places, outliers multiplier (sums titles) = some places → ∀ i ∈ places, ∃ a t,
    (entryScores titles)[i]? = some a ∧ titles.find? (·.owner == a.1) = some t
  /-- What is chosen belongs to an entry. -/
  chosen : ∀ chosen, confidentTitles multiplier titles = some chosen →
    ∀ t ∈ chosen, ∃ e, entries[t.owner]? = some e
  /-- What is listed belongs to an entry, whatever the scores. -/
  listed : ∀ (scores : List σ) best, bestTexts (owned entries scores) = some best →
    ∀ p ∈ best, ∃ e, entries[p.1]? = some e

theorem inRange (multiplier : σ) {query : String} {entries : List Entry} {relevance : List σ}
    (h : relevance.length = (questions entries).length) :
    InRange multiplier entries (scoredTitles query entries relevance) where
  scored := length_scoredTitles h
  quartile henough ascending hordered k hk := quartile?_ordered henough hordered hk
  aggregate := by
    intro places hplaces i hi
    obtain ⟨a, t, ha, -⟩ := titleAt?_of_mem_outliers hplaces hi
    obtain ⟨t', ht', -⟩ := find?_of_mem_entryScores (List.mem_of_getElem? ha)
    exact ⟨a, t', ha, ht'⟩
  chosen := by
    intro chosen hchosen t ht
    obtain ⟨e, he, -⟩ := titled_of_mem (mem_of_mem_confidentTitles hchosen ht)
    exact ⟨e, he⟩
  listed scores best hbest p hp := entry_of_mem_bestTexts hbest hp

/-- The ranking that is listed where nothing is chosen. -/
theorem wellFormed_listed (config : FaqConfig σ) {entries : List Entry}
    {titles : List (ScoredTitle σ)} {answers : List (Answer σ)}
    (htaken : pathOf config.outlierMultiplier titles = some .fallback)
    (hstands : Stands entries answers) (hlimit : answers.length ≤ config.fallbackLimit) :
    WellFormed config entries titles .fallback ⟨answers, false⟩ :=
  { hstands with
    taken := htaken
    confident_iff := iff_of_false Bool.false_ne_true fun h => h.1 rfl
    chosen := fun h => absurd rfl h
    titled := fun h => absurd rfl h
    limited := fun _ => hlimit }

/-- The ranking that is made of chosen titles. -/
theorem wellFormed_choice (config : FaqConfig σ) {entries : List Entry}
    {titles chosen : List (ScoredTitle σ)} {path : Path}
    (htitled : ∀ t ∈ titles, ∃ e, entries[t.owner]? = some e ∧ e.titles ≠ [])
    (htaken : pathOf config.outlierMultiplier titles = some path) (hpath : path ≠ .fallback)
    (hchosen : confidentTitles config.outlierMultiplier titles = some chosen) :
    WellFormed config entries titles path (choice entries chosen) := by
  have hdistinct := confidentTitles_pairwise hchosen
  -- the flag counts titles and the answers are made of entries: no title is lost in between
  rw [choice, Lists.distinctBy_eq_self hdistinct]
  have hentries : ∀ t ∈ chosen, ∃ e, entries[t.owner]? = some e ∧ e.titles ≠ [] :=
    fun t ht => htitled t (mem_of_mem_confidentTitles hchosen ht)
  have hentry : ∀ t ∈ chosen, ∃ e, entries[t.owner]? = some e :=
    fun t ht => (hentries t ht).imp fun _ he => he.1
  have hstands := stands_answers ScoredTitle.owner ScoredTitle.combined hentry hdistinct
  have hindex := map_index_answers ScoredTitle.owner ScoredTitle.combined hentry
  have hlength := congrArg List.length hindex
  rw [List.length_map, List.length_map] at hlength
  refine { hstands with
    taken := htaken
    confident_iff := ?_
    chosen := fun _ => ⟨chosen, hchosen, hindex⟩
    titled := fun _ a ha => ?_
    limited := fun h => absurd h hpath }
  · rw [beq_iff_eq, hlength]
    exact ⟨fun h => ⟨hpath, h⟩, fun h => h.2⟩
  · have hi := List.mem_map_of_mem (f := (·.index)) ha
    rw [hindex] at hi
    obtain ⟨t, ht, howner⟩ := List.mem_map.mp hi
    obtain ⟨e, he, htitles⟩ := hentries t ht
    have hae := hstands.entry_at a ha
    rw [← howner, he] at hae
    exact Option.some.inj hae ▸ htitles

theorem conclude_ensures (config : FaqConfig σ) (reranker : Reranker m σ) (query : String)
    {entries : List Entry} {titles chosen : List (ScoredTitle σ)}
    (htitled : ∀ t ∈ titles, ∃ e, entries[t.owner]? = some e ∧ e.titles ≠ [])
    (hchosen : confidentTitles config.outlierMultiplier titles = some chosen) :
    Ensures (conclude config reranker query entries chosen).run fun result =>
      ∀ ranking, result = .ok ranking → ∃ path, WellFormed config entries titles path ranking := by
  rw [conclude]
  split
  case isTrue hnone =>
    have htaken := (eq_nil_iff_fallback hchosen).mp (List.isEmpty_iff.mp hnone)
    refine (fallback_ensures config reranker query entries).mapExcept (fun answers h => ?_)
      fun e _ ranking h => by cases h
    obtain ⟨hstands, hlimit⟩ := h answers rfl
    rintro ranking ⟨⟩
    exact ⟨.fallback, wellFormed_listed config htaken hstands hlimit⟩
  case isFalse hsome =>
    obtain ⟨path, htaken⟩ := Option.ne_none_iff_exists'.mp fun hnone => by
      rw [confidentTitles_eq_none.mpr hnone] at hchosen
      cases hchosen
    have hpath : path ≠ .fallback := by
      rintro rfl
      exact hsome (List.isEmpty_iff.mpr ((eq_nil_iff_fallback hchosen).mpr htaken))
    refine Ensures.pure fun ranking h => ?_
    obtain rfl := Except.ok.inj h
    exact ⟨path, wellFormed_choice config htitled htaken hpath hchosen⟩

/-- **A ranking is well formed, and no lookup behind it misses.** -/
theorem rank_well_formed (config : FaqConfig σ) (reranker : Reranker m σ) (input : Query)
    (entries : List Entry) :
    Prod.snd <$> rankTraced config reranker input entries =
        rank config reranker input entries ∧
      Ensures (rankTraced config reranker input entries).run fun result =>
        ∀ titles ranking, result = .ok (titles, ranking) →
          (∃ path, WellFormed config entries titles path ranking) ∧
            InRange config.outlierMultiplier entries titles := by
  refine ⟨snd_rankTraced config reranker input entries, ?_⟩
  rw [rankTraced]
  have hasked := Ensures.failing (reranker.scoreAll_ensures input.effective
    ((questions entries).map (·.text)))
  refine hasked.bindExcept (fun relevance hrelevance => ?_) fun e _ titles ranking h => by cases h
  have hlength := hrelevance relevance rfl
  rw [List.length_map] at hlength
  refine (Ensures.ordering _).bindExcept (fun chosen hchosen => ?_) fun e _ titles ranking h => by
    cases h
  refine (conclude_ensures config reranker input.effective (fun t ht => titled_of_mem ht)
    (hchosen chosen rfl)).mapExcept (fun ranking hwell => ?_) fun e _ titles ranking h => by cases h
  intro titles ranking' h
  obtain ⟨rfl, rfl⟩ := Prod.mk.inj (Except.ok.inj h)
  exact ⟨hwell ranking rfl, inRange config.outlierMultiplier hlength⟩

/-- An entry whose title is the query is the confident answer, behind one without titles. -/
theorem second_entry_confident :
    ∃ titles path ranking,
      (rankTraced (m := Id) ⟨3, (1.5 : Float)⟩ (.flat 0.0) (.ofText "hours")
        [⟨[], []⟩, ⟨["hours"], []⟩]).run.run = .ok (titles, ranking) ∧
      ranking.answers.map (·.index) = [1] ∧ ranking.confident = true ∧
      WellFormed ⟨3, 1.5⟩ [⟨[], []⟩, ⟨["hours"], []⟩] titles path ranking ∧
      InRange 1.5 [⟨[], []⟩, ⟨["hours"], []⟩] titles := by
  let t : ScoredTitle Float := scoreTitle "hours" ⟨1, "hours"⟩ 0.0
  have hoverlap : t.overlap = exactScore := overlapScore_self "hours"
  have hsame : Score.same t.overlap exactScore = true := by
    rw [hoverlap]
    decide +kernel
  have hchosen : confidentTitles 1.5 [t] = some [t] := by
    have hfind : [t].find? (fun t => Score.same t.overlap exactScore) = some t :=
      List.find?_cons_of_pos hsame
    rw [confidentTitles, hfind]
  have hrun : rankTraced (m := Id) ⟨3, (1.5 : Float)⟩ (.flat 0.0) (.ofText "hours")
      [⟨[], []⟩, ⟨["hours"], []⟩] = pure ([t], ⟨[⟨1, ⟨["hours"], []⟩, t.combined⟩], true⟩) := by
    have hquestions : questions [⟨[], []⟩, ⟨["hours"], []⟩] = [⟨1, "hours"⟩] := rfl
    have hscores : Halt.failing ((Reranker.flat (m := Id) (0.0 : Float)).scoreAll "hours"
        ["hours"]) = pure [0.0] := rfl
    have hconclude : (Halt.ordering (confidentTitles 1.5 [t]) : ExceptT Halt Id _) =
        pure [t] := by
      rw [hchosen]
      rfl
    rw [rankTraced, hquestions]
    change Halt.failing ((Reranker.flat (m := Id) (0.0 : Float)).scoreAll "hours" ["hours"]) >>=
      _ = _
    rw [hscores, pure_bind]
    change (Halt.ordering (confidentTitles 1.5 [t]) : ExceptT Halt Id _) >>= _ = _
    rw [hconclude]
    rfl
  have hrun := congrArg (·.run.run) hrun
  obtain ⟨⟨path, hwell⟩, hrange⟩ := Ensures.id_iff.mp (rank_well_formed (m := Id)
    ⟨3, (1.5 : Float)⟩ (.flat 0.0) (.ofText "hours") [⟨[], []⟩, ⟨["hours"], []⟩]).2 _ _ hrun
  exact ⟨_, path, _, hrun, rfl, rfl, hwell, hrange⟩

end
end EvidenceRank.Faq
