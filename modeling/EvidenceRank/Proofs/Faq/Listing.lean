import EvidenceRank.Proofs.Faq.Calls
import EvidenceRank.Proofs.Score.Alike

/-!
# The best entries are listed

Listing puts all texts of all entries in the order of their scores and keeps the first text of each
entry, up to the limit. The order is stable and the texts of an entry stand together, so what is
kept of an entry is its best score (`bestTexts_maximal`), entries with the same best score stay in
their order (`bestTexts_ordered`), and an entry is only left out behind all that are kept.

Results:
* `mem_texts`: the texts of an entry are its titles, its text answers and the details of its images
  that say something new.
* `listed_topList`: what is listed for scores that are numbers.
* `rank_lists`: what a ranking comes to when nothing is chosen.
-/

namespace EvidenceRank.Faq

open Reranker (Call Asked)
open Score (LawfulOrder)

/-! ## The texts of an entry -/

/-- A title, a text answer, or a detail of an image that says something new. -/
inductive TextOf (e : Entry) : String → Prop
  | title {t : String} (ht : t ∈ e.titles) : TextOf e t
  | answer {f : Fragment} (hf : f ∈ e.fragments) (hkind : f.kind = .text) : TextOf e f.content
  | detail {f : Fragment} {kind d : String} (hf : f ∈ e.fragments) (hkind : f.kind = .image)
    (hd : (kind, d) ∈ f.details.entries) (hnew : idleDetail e.titles kind d = false) : TextOf e d

/-- The titles and answers of an entry. -/
def Entry.texts (e : Entry) : List String := e.titles ++ e.fragments.flatMap (·.texts e.titles)

theorem mem_texts {e : Entry} {text : String} : text ∈ e.texts ↔ TextOf e text := by
  rw [Entry.texts, List.mem_append, List.mem_flatMap]
  constructor
  · rintro (htitle | ⟨f, hf, hanswer⟩)
    · exact .title htitle
    · unfold Fragment.texts at hanswer
      cases hkind : f.kind with
      | text =>
        simp only [hkind, List.mem_singleton] at hanswer
        exact hanswer ▸ .answer hf hkind
      | image =>
        simp only [hkind] at hanswer
        obtain ⟨⟨kind, d⟩, hd, rfl⟩ := List.mem_map.mp hanswer
        obtain ⟨hd, hnew⟩ := List.mem_filter.mp hd
        exact .detail hf hkind hd (by simpa using hnew)
      | other =>
        simp only [hkind] at hanswer
        exact absurd hanswer List.not_mem_nil
  · intro h
    cases h with
    | title ht => exact Or.inl ht
    | @answer f hf hkind =>
      refine Or.inr ⟨f, hf, ?_⟩
      simp only [Fragment.texts, hkind, List.mem_singleton]
    | @detail f kind _ hf hkind hd hnew =>
      refine Or.inr ⟨f, hf, ?_⟩
      simp only [Fragment.texts, hkind]
      exact List.mem_map.mpr ⟨(kind, text), List.mem_filter.mpr ⟨hd, by simp [hnew]⟩, rfl⟩

/-! ## Scores of texts -/

variable {σ : Type} {entries : List Entry} {scores : List σ}

/-- The score is that of a text of the entry at the position. -/
def ScoredAt (entries : List Entry) (scores : List σ) (i : Nat) (text : String) (s : σ) : Prop :=
  ∃ j : Nat, (questionsAnswers entries)[j]? = some ⟨i, text⟩ ∧ scores[j]? = some s

theorem mem_owned {i : Nat} {s : σ} :
    (i, s) ∈ owned entries scores ↔ ∃ text, ScoredAt entries scores i text s := by
  rw [owned, List.mem_iff_getElem?]
  constructor
  · rintro ⟨j, hj⟩
    obtain ⟨howner, hs⟩ := List.getElem?_zip_eq_some.mp hj
    rw [List.getElem?_map] at howner
    obtain ⟨t, ht, rfl⟩ := Option.map_eq_some_iff.mp howner
    exact ⟨t.text, j, ht, hs⟩
  · rintro ⟨text, j, ht, hs⟩
    refine ⟨j, List.getElem?_zip_eq_some.mpr ⟨?_, hs⟩⟩
    rw [List.getElem?_map, ht]
    rfl

/-- **Exactly the texts of the entries are scored.** -/
theorem exists_scoredAt (hlength : scores.length = (questionsAnswers entries).length) {i : Nat}
    {text : String} : (∃ s, ScoredAt entries scores i text s) ↔
      ∃ e, entries[i]? = some e ∧ TextOf e text := by
  constructor
  · rintro ⟨s, j, ht, -⟩
    obtain ⟨e, he, htext⟩ := mem_tagged.mp (List.mem_of_getElem? ht)
    exact ⟨e, he, mem_texts.mp htext⟩
  · rintro ⟨e, he, htext⟩
    have hmem : (⟨i, text⟩ : Tagged) ∈ questionsAnswers entries :=
      mem_tagged.mpr ⟨e, he, mem_texts.mpr htext⟩
    obtain ⟨j, hj⟩ := List.mem_iff_getElem?.mp hmem
    obtain ⟨hlt, -⟩ := List.getElem?_eq_some_iff.mp hj
    exact ⟨scores[j], j, hj, List.getElem?_eq_getElem (hlength ▸ hlt)⟩

theorem owned_pairwise (hlength : scores.length = (questionsAnswers entries).length) :
    (owned entries scores).Pairwise fun x y => x.1 ≤ y.1 := by
  have howners : (owned entries scores).map (·.1) = (questionsAnswers entries).map (·.owner) :=
    List.map_fst_zip (by rw [List.length_map, hlength])
  have h := List.pairwise_map.mpr (tagged_pairwise Entry.texts entries)
  exact List.pairwise_map.mp (howners ▸ h)

/-! ## The best texts -/

variable [Score σ]

section Best

variable {scored best : List (Nat × σ)}

theorem mem_map_bestTexts (h : bestTexts scored = some best) {i : Nat} :
    i ∈ best.map (·.1) ↔ ∃ s, (i, s) ∈ scored := by
  obtain ⟨ranked, hranked, rfl⟩ := bestTexts_eq_some_iff.mp h
  have hmem : ∀ p, p ∈ ranked ↔ p ∈ scored := fun p =>
    (Lists.rankScores_perm _ _ _ hranked).mem_iff
  rw [Lists.mem_map_distinctBy, List.mem_map]
  constructor
  · rintro ⟨⟨j, s⟩, hs, rfl⟩
    exact ⟨s, (hmem _).mp hs⟩
  · rintro ⟨s, hs⟩
    exact ⟨(i, s), (hmem _).mpr hs, rfl⟩

/-- Numbers have an order. -/
theorem exists_bestTexts (hnum : ∀ p ∈ scored, Score.isNaN p.2 = false) :
    ∃ best, bestTexts scored = some best := by
  refine Option.ne_none_iff_exists'.mp fun hnone => ?_
  obtain ⟨-, p, hp, hnan⟩ := bestTexts_eq_none hnone
  exact Bool.false_ne_true ((hnum p hp).symm.trans hnan)

variable [LawfulOrder σ]

/-- What stands in front has no lower score, and with the same score no later position. -/
theorem ranked_pairwise (hnum : ∀ p ∈ scored, Score.isNaN p.2 = false)
    (hscored : scored.Pairwise fun x y => x.1 ≤ y.1) {ranked : List (Nat × σ)}
    (h : Lists.rankScores (fun s => !Score.isNaN s.2) (fun a b => Score.lt b.2 a.2) 8 scored =
      some ranked) :
    ranked.Pairwise fun x y =>
      Score.lt x.2 y.2 = false ∧ (Score.lt y.2 x.2 = true ∨ x.1 ≤ y.1) := by
  have hweak : Lists.WeaklyOrders (fun a b : Nat × σ => Score.lt b.2 a.2) scored :=
    { asymm := fun _ _ _ _ hlt => LawfulOrder.lt_asymm hlt
      cotrans := fun _ _ y hy _ _ hlt => (LawfulOrder.lt_cotrans (hnum y hy) hlt).symm }
  rw [Lists.rankScores_of_numbers fun p hp => by rw [hnum p hp]; rfl] at h
  obtain rfl := Option.some.inj h
  refine (Lists.rankBy_pairwise hweak hscored).imp fun {x y} hlead => ?_
  rcases hlead with hlt | ⟨hnot, hle⟩
  · exact ⟨LawfulOrder.lt_asymm hlt, Or.inl hlt⟩
  · exact ⟨hnot, Or.inr hle⟩

/-- **The entries stand in the order of their best scores**, and of their positions. -/
theorem bestTexts_ordered (hnum : ∀ p ∈ scored, Score.isNaN p.2 = false)
    (hscored : scored.Pairwise fun x y => x.1 ≤ y.1) (h : bestTexts scored = some best) :
    best.Pairwise fun x y =>
      Score.lt x.2 y.2 = false ∧ (Score.lt y.2 x.2 = true ∨ x.1 < y.1) := by
  have hdistinct := bestTexts_pairwise h
  obtain ⟨ranked, hranked, rfl⟩ := bestTexts_eq_some_iff.mp h
  have hordered := (ranked_pairwise hnum hscored hranked).sublist
    (Lists.distinctBy_sublist (·.1) _)
  refine (hdistinct.and hordered).imp fun {x y} ⟨hne, hnot, hlead⟩ => ?_
  exact ⟨hnot, hlead.imp_right fun hle => Nat.lt_of_le_of_ne hle hne⟩

/-- **Each entry with a score stands in the list**, with one that none of its scores exceeds. -/
theorem exists_bestText (hnum : ∀ p ∈ scored, Score.isNaN p.2 = false)
    (hscored : scored.Pairwise fun x y => x.1 ≤ y.1) (h : bestTexts scored = some best)
    {p : Nat × σ} (hp : p ∈ scored) :
    ∃ x ∈ best, x.1 = p.1 ∧ Score.lt x.2 p.2 = false := by
  obtain ⟨ranked, hranked, rfl⟩ := bestTexts_eq_some_iff.mp h
  have hmem := (Lists.rankScores_perm _ _ _ hranked).mem_iff.mpr hp
  obtain ⟨x, hx, hkey, hlead⟩ :=
    Lists.exists_distinctBy_of_mem (·.1) (ranked_pairwise hnum hscored hranked) hmem
  refine ⟨x, hx, hkey, ?_⟩
  rcases hlead with rfl | ⟨hnot, -⟩
  · exact Score.lt_self x.2
  · exact hnot

theorem bestTexts_maximal (hnum : ∀ p ∈ scored, Score.isNaN p.2 = false)
    (hscored : scored.Pairwise fun x y => x.1 ≤ y.1) (h : bestTexts scored = some best)
    {x p : Nat × σ} (hx : x ∈ best) (hp : p ∈ scored) (hkey : p.1 = x.1) :
    Score.lt x.2 p.2 = false := by
  obtain ⟨y, hy, hyp, hnot⟩ := exists_bestText hnum hscored h hp
  obtain ⟨ranked, -, rfl⟩ := bestTexts_eq_some_iff.mp h
  obtain rfl : y = x := Lists.eq_of_mem_distinctBy hy hx (hyp.trans hkey)
  exact hnot

end Best

/-! ## The listed entries -/

/-- As many entries have a best text as have texts. -/
theorem length_bestTexts (hlength : scores.length = (questionsAnswers entries).length)
    {best : List (Nat × σ)} (h : bestTexts (owned entries scores) = some best) :
    best.length = entries.countP fun e => !e.texts.isEmpty := by
  have hbest : (best.map (·.1)).Nodup := List.pairwise_map.mpr (bestTexts_pairwise h)
  have htexted : (positions (fun e : Entry => !e.texts.isEmpty) entries).Nodup :=
    List.nodup_range.sublist (positions_sublist _ entries)
  have hmem : ∀ i, i ∈ best.map (·.1) ↔
      i ∈ positions (fun e : Entry => !e.texts.isEmpty) entries := by
    intro i
    simp only [mem_map_bestTexts h, mem_owned, mem_positions]
    constructor
    · rintro ⟨s, text, hs⟩
      obtain ⟨e, he, htext⟩ := (exists_scoredAt hlength).mp ⟨s, hs⟩
      have hne := List.ne_nil_of_mem (mem_texts.mpr htext)
      exact ⟨e, he, by simpa using hne⟩
    · rintro ⟨e, he, hne⟩
      obtain ⟨text, htext⟩ := List.exists_mem_of_ne_nil e.texts (by simpa using hne)
      obtain ⟨s, hs⟩ := (exists_scoredAt hlength).mpr ⟨e, he, mem_texts.mp htext⟩
      exact ⟨s, text, hs⟩
  rw [← length_positions, ← ((List.perm_ext_iff_of_nodup hbest htexted).mpr hmem).length_eq,
    List.length_map]

/-- The answer is not below a score of the entry at a position, and stands first if the score is the
same. -/
def Ahead (a : Answer σ) (i : Nat) (s : σ) : Prop :=
  Score.lt a.score s = false ∧ (Score.lt s a.score = true ∨ a.index < i)

/-- The answers are the best entries by the scores of their texts, up to the limit. -/
structure TopList (limit : Nat) (entries : List Entry) (scores : List σ)
    (answers : List (Answer σ)) : Prop where
  entry_at : ∀ a ∈ answers, entries[a.index]? = some a.entry
  /-- The texts with a score are those of the entries. -/
  texts : ∀ i text, (∃ s, ScoredAt entries scores i text s) ↔
    ∃ e, entries[i]? = some e ∧ TextOf e text
  /-- An answer has the score of a text of its entry. -/
  scored : ∀ a ∈ answers, ∃ text, ScoredAt entries scores a.index text a.score
  /-- No text of its entry has a higher one. -/
  maximal : ∀ a ∈ answers, ∀ text s, ScoredAt entries scores a.index text s →
    Score.lt a.score s = false
  ordered : answers.Pairwise fun a b => Ahead a b.index b.score
  /-- Any other entry stands behind all answers with each of its texts. -/
  omitted : ∀ i text s, ScoredAt entries scores i text s → (∀ a ∈ answers, a.index ≠ i) →
    ∀ a ∈ answers, Ahead a i s
  length_eq : answers.length = min limit (entries.countP fun e => !e.texts.isEmpty)

omit [Score σ] in
/-- An answer is one of the first texts, under its entry. -/
theorem of_mem_answersOf {limit : Nat} {best : List (Nat × σ)} {a : Answer σ}
    (ha : a ∈ answersOf limit entries best) :
    (a.index, a.score) ∈ best.take limit ∧ entries[a.index]? = some a.entry := by
  obtain ⟨p, hp, hpa⟩ := List.mem_filterMap.mp ha
  obtain ⟨e, he, rfl⟩ := Option.map_eq_some_iff.mp hpa
  exact ⟨hp, he⟩

/-- Each of the first texts has its answer. -/
theorem map_index_answersOf (limit : Nat) {best : List (Nat × σ)}
    (hbest : bestTexts (owned entries scores) = some best) :
    (answersOf limit entries best).map (·.index) = (best.take limit).map Prod.fst :=
  map_index_answers Prod.fst Prod.snd fun _ hp =>
    entry_of_mem_bestTexts hbest (List.mem_of_mem_take hp)

variable [LawfulOrder σ]

/-- An entry that has no answer is left out with its best text. -/
theorem exists_dropped {limit : Nat} {best : List (Nat × σ)}
    (hnum : ∀ p ∈ owned entries scores, Score.isNaN p.2 = false)
    (hlength : scores.length = (questionsAnswers entries).length)
    (hbest : bestTexts (owned entries scores) = some best) {p : Nat × σ}
    (hp : p ∈ owned entries scores) (hnone : ∀ a ∈ answersOf limit entries best, a.index ≠ p.1) :
    ∃ x ∈ best.drop limit, x.1 = p.1 ∧ Score.lt x.2 p.2 = false := by
  obtain ⟨x, hx, hxp, hnot⟩ := exists_bestText hnum (owned_pairwise hlength) hbest hp
  rw [← List.take_append_drop limit best] at hx
  refine ⟨x, (List.mem_append.mp hx).resolve_left fun htake => ?_, hxp, hnot⟩
  have hmem := List.mem_map_of_mem (f := Prod.fst) htake
  rw [← map_index_answersOf limit hbest] at hmem
  obtain ⟨b, hb, hbx⟩ := List.mem_map.mp hmem
  exact hnone b hb (hbx.trans hxp)

/-- **What is listed are the best entries.** -/
theorem listed_topList (limit : Nat)
    (hlength : scores.length = (questionsAnswers entries).length)
    (hnum : ∀ s ∈ scores, Score.isNaN s = false) :
    ∃ answers, listed limit entries scores = some answers ∧
      TopList limit entries scores answers := by
  have hnumbers : ∀ p ∈ owned entries scores, Score.isNaN p.2 = false := fun p hp =>
    hnum p.2 (List.of_mem_zip hp).2
  have hascending := owned_pairwise hlength
  obtain ⟨best, hbest⟩ := exists_bestTexts hnumbers
  have hmem : ∀ a ∈ answersOf limit entries best, (a.index, a.score) ∈ best := fun a ha =>
    List.mem_of_mem_take (of_mem_answersOf ha).1
  have hsplit := bestTexts_ordered hnumbers hascending hbest
  rw [← List.take_append_drop limit best, List.pairwise_append] at hsplit
  obtain ⟨htaken, -, hdropped⟩ := hsplit
  refine ⟨answersOf limit entries best, by rw [listed, hbest]; rfl, ?_⟩
  constructor
  case entry_at => exact fun a ha => (of_mem_answersOf ha).2
  case texts => exact fun i text => exists_scoredAt hlength
  case scored => exact fun a ha => mem_owned.mp (mem_of_mem_bestTexts hbest (hmem a ha))
  case maximal =>
    exact fun a ha text s hs => bestTexts_maximal hnumbers hascending hbest (hmem a ha)
      (mem_owned.mpr ⟨text, hs⟩) rfl
  case ordered =>
    rw [answersOf, List.pairwise_filterMap]
    refine htaken.imp fun {p q} hpq a ha b hb => ?_
    obtain ⟨-, -, rfl⟩ := Option.map_eq_some_iff.mp ha
    obtain ⟨-, -, rfl⟩ := Option.map_eq_some_iff.mp hb
    exact hpq
  case omitted =>
    intro i text s hs hnone a ha
    have howned : (i, s) ∈ owned entries scores := mem_owned.mpr ⟨text, hs⟩
    obtain ⟨x, hx, hxi, hnot⟩ := exists_dropped hnumbers hlength hbest howned hnone
    have hxnum : Score.isNaN x.2 = false :=
      hnumbers x (mem_of_mem_bestTexts hbest (List.mem_of_mem_drop hx))
    have hsnum : Score.isNaN s = false := hnumbers _ howned
    obtain ⟨hax, hlead⟩ := hdropped _ (of_mem_answersOf ha).1 x hx
    -- the best text of the entry stands between the answer and any other
    refine ⟨Score.not_lt_trans hxnum hax hnot, hlead.imp (fun hlt => ?_) fun hlt => ?_⟩
    · exact Score.lt_of_not_lt_of_lt hsnum hnot hlt
    · exact Nat.lt_of_lt_of_eq hlt hxi
  case length_eq =>
    have hcount := congrArg List.length (map_index_answersOf limit hbest)
    rw [List.length_map, List.length_map, List.length_take, length_bestTexts hlength hbest]
      at hcount
    exact hcount

/-! ## Rankings -/

/-- What a ranking comes to when nothing is chosen. -/
structure ListsBest (limit : Nat) (model query : String) (entries : List Entry)
    (result : Except Halt (Ranking σ)) (second : Option (Call σ)) : Prop where
  nothing : limit = 0 → result = .ok ⟨[], false⟩ ∧ second = none
  /-- The texts of the entries are asked about, and what is listed goes by the answer. -/
  best : limit ≠ 0 → ∃ answer,
    Asked model query ((questionsAnswers entries).map (·.text)) answer second ∧
      (∀ e, answer = .error e → result = .error (.failed e)) ∧
      ∀ scores, answer = .ok scores → (∀ s ∈ scores, Score.isNaN s = false) →
        ∃ answers, result = .ok ⟨answers, false⟩ ∧ TopList limit entries scores answers

variable {m : Type → Type} [Monad m] [LawfulMonad m]

/-- **A ranking in which nothing is chosen lists the best entries.** If none may be listed, the
reranker is not asked again. -/
theorem rank_lists (config : FaqConfig σ) (reranker : Reranker m σ) (input : Query)
    (entries : List Entry) :
    Records (rank config reranker.recorded input entries) (rank config reranker input entries) ∧
      Ensures ((rank config reranker.recorded input entries).run.run []) fun x =>
        ∃ (first second : Option (Call σ)) (answer : Except RankError (List σ)),
          x.2 = first.toList ++ second.toList ∧
          Asked reranker.model input.effective ((questions entries).map (·.text)) answer first ∧
          ∀ relevance, answer = .ok relevance →
            pathOf config.outlierMultiplier (scoredTitles input.effective entries relevance) =
              some .fallback →
            ListsBest config.fallbackLimit reranker.model input.effective entries x.1 second := by
  refine ⟨rank_records config reranker input entries,
    (rank_ranked config reranker input entries).imp ?_⟩
  rintro ⟨result, calls⟩ ⟨first, second, hcalls, hranked⟩
  cases hranked with
  | failed hfirst =>
    exact ⟨first, none, _, hcalls, hfirst, fun relevance h => by cases h⟩
  | disordered hfirst hpath =>
    refine ⟨first, none, _, hcalls, hfirst, fun relevance h hfallback => ?_⟩
    obtain rfl := Except.ok.inj h
    cases hpath.symm.trans hfallback
  | chosen hfirst hchosen hsome =>
    refine ⟨first, none, _, hcalls, hfirst, fun relevance h hfallback => ?_⟩
    obtain rfl := Except.ok.inj h
    exact absurd ((eq_nil_iff_fallback hchosen).mpr hfallback) hsome
  | listed hfirst hpath hsecond =>
    refine ⟨first, second, _, hcalls, hfirst, fun relevance _ _ => ?_⟩
    cases hsecond with
    | spared hlimit => exact ⟨fun _ => ⟨rfl, rfl⟩, fun hne => absurd hlimit hne⟩
    | @failed e _ hlimit hasked =>
      refine ⟨fun h => absurd h hlimit, fun _ => ⟨_, hasked, fun e' h => ?_, fun scores h => ?_⟩⟩
      · obtain rfl := Except.error.inj h
        rfl
      · cases h
    | scored hlimit hasked =>
      refine ⟨fun h => absurd h hlimit,
        fun _ => ⟨_, hasked, fun e h => ?_, fun scores h hnum => ?_⟩⟩
      · cases h
      · obtain rfl := Except.ok.inj h
        have hlength := hasked.length_eq
        rw [List.length_map] at hlength
        obtain ⟨answers, hlisted, htop⟩ := listed_topList config.fallbackLimit hlength hnum
        exact ⟨answers, by rw [hlisted]; rfl, htop⟩

/-- Of three entries without titles the two with the higher score are listed. -/
theorem two_of_three_listed :
    let entries : List Entry :=
      ["a", "b", "c"].map fun text => ⟨[], [⟨.text, text, .empty⟩]⟩
    let x := ((rank ⟨2, 1.5⟩ (Fusion.answering (m := Id) [0.5, 0.75, (0.75 : Float)]).recorded
      (.ofText "q") entries).run.run []).run
    ∃ answers, x.1 = .ok ⟨answers, false⟩ ∧ answers.map (·.index) = [1, 2] ∧
      TopList 2 entries [0.5, 0.75, 0.75] answers := by
  intro entries x
  obtain ⟨first, second, answer, hcalls, hfirst, hlists⟩ := Ensures.id_iff.mp
    (rank_lists (m := Id) ⟨2, 1.5⟩ (Fusion.answering [0.5, 0.75, (0.75 : Float)]) (.ofText "q")
      entries).2
  have hresult : x.1 =
      (Halt.ordered (listed 2 entries [0.5, 0.75, (0.75 : Float)])).map (⟨·, false⟩) := rfl
  have hindex : (listed 2 entries [0.5, 0.75, (0.75 : Float)]).map (·.map (·.index)) =
      some [1, 2] := by decide +kernel
  have hcall : x.2 = [⟨"q", ["a", "b", "c"], .ok [0.5, 0.75, 0.75]⟩] := rfl
  cases hfirst with
  | checked htexts hquery hc => exact absurd rfl htexts
  | spared htexts =>
    obtain ⟨answer, hasked, -, hbest⟩ := (hlists [] rfl rfl).best (by decide)
    cases hasked with
    | spared htexts => exact absurd htexts (by decide)
    | @checked c htexts hquery hc =>
      obtain rfl : _ = c := (List.cons.inj (hcall.symm.trans hcalls)).1
      obtain ⟨answers, hanswers, htop⟩ := hbest _ rfl (by decide +kernel)
      refine ⟨answers, hanswers, ?_, htop⟩
      rw [hresult] at hanswers
      cases hlisted : listed 2 entries [0.5, 0.75, (0.75 : Float)] with
      | none => rw [hlisted] at hanswers; cases hanswers
      | some answers' =>
        rw [hlisted] at hanswers hindex
        obtain rfl := (Ranking.mk.inj (Except.ok.inj hanswers)).1
        exact Option.some.inj hindex

end EvidenceRank.Faq
