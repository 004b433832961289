import EvidenceRank.Proofs.Fusion.Attribution
import EvidenceRank.Proofs.Recorded

/-!
# Calls of the reranker in fusion

Fusion asks the reranker about each pool that has candidates, in one call, and takes the scores by
their positions. `Candidate.questions` says what is asked about a pool without its rows, `Prepared`
what comes of preparing a pool and by which call, and `Accounted` what comes of both pools.

The pools are prepared side by side. A dense call that fails at once spares the sparse one; if the
reranker takes its time, both are made, and of two that fail the one that ends first is reported.

A scored row keeps its relevance through the join, the order and the last settling, so that a row of
the table still has the score that the answer had at the position of its text.

Results:
* `map_titled_cleaned`: the texts that are asked about are told by the pool.
* `prepare_prepared`: preparing a pool is at most one call.
* `tryJoin_prepared`: preparing two pools side by side is at most one call for each.
* `exists_channel_row`: a row of the table has the relevance of a row of a channel.
* `fuse_accounted`: which calls fusion makes, when and how it fails, and where the scores of its
  rows come from.
-/

namespace EvidenceRank

variable {m : Type → Type} [Monad m] {σ : Type}

/-! ## Questions -/

namespace Candidate

/-- What is asked about a candidate of a pool: its text, under the name that the first candidate of
its document has. -/
def question (pool : List (Candidate σ)) (c : Candidate σ) : String :=
  let first := pool.find? (·.document.md5 == c.document.md5)
  Text.titled ((first.map (·.document.name)).getD c.document.name) c.text

/-- What is asked about a pool: a question for each candidate that comes first with its key. -/
def questions (pool : List (Candidate σ)) : List String := (firsts pool).map (question pool)

end Candidate

namespace Channel

/-- The cleaned rows are those of the candidates that come first, each under the identity of the
first row of its document. -/
theorem cleaned_eq_map (pool : List (Candidate σ)) : cleaned pool =
    (Candidate.firsts pool).map fun c => (Row.ofCandidate c).withDocument
      (Row.identityIn (pool.map Row.ofCandidate) (Row.ofCandidate c)) := by
  unfold cleaned
  rw [Row.settle_eq_map, Row.distinct_ofCandidate, List.map_map]
  rfl

/-- **The texts that are asked about are told by the pool.** -/
theorem map_titled_cleaned (pool : List (Candidate σ)) :
    (cleaned pool).map Row.titled = Candidate.questions pool := by
  unfold Candidate.questions
  rw [cleaned_eq_map, List.map_map]
  refine List.map_congr_left fun c _ => congrArg (Text.titled · c.text) ?_
  show (Row.identityIn (pool.map Row.ofCandidate) (Row.ofCandidate c)).name = _
  unfold Row.identityIn
  rw [List.find?_map, Option.map_map]
  show (((pool.find? (·.document.md5 == c.document.md5)).map (·.document)).getD c.document).name = _
  cases pool.find? (·.document.md5 == c.document.md5) with
  | none => rfl
  | some first => rfl

/-- **Scores are taken by position**: each row of a channel has the score at the place that its
candidate has among those that come first. -/
theorem exists_scored [Score σ] {pool : List (Candidate σ)} {scores : List σ} {channel : Channel σ}
    (h : ofScores? pool scores = some channel) {r : Row σ} (hr : r ∈ channel.rows) :
    ∃ (i : Nat) (c : Candidate σ) (s : σ), (Candidate.firsts pool)[i]? = some c ∧ r.From c ∧
      scores[i]? = some s ∧ r.relevance = some s := by
  obtain ⟨stats, -, rfl⟩ := Option.map_eq_some_iff.mp h
  obtain ⟨i, hi⟩ := List.mem_iff_getElem?.mp hr
  obtain ⟨g, s, hg, hs, rfl⟩ := List.getElem?_zipWith_eq_some.mp hi
  rw [cleaned_eq_map, List.getElem?_map] at hg
  obtain ⟨c, hc, rfl⟩ := Option.map_eq_some_iff.mp hg
  exact ⟨i, c, s, hc, ⟨rfl, Row.withDocument_key (Row.identityIn_md5 _ _)⟩, hs, rfl⟩

end Channel

/-! ## Recorded rerankers -/

namespace Reranker

/-- One call of a reranker, with its answer. -/
structure Call (σ : Type) where
  query : String
  texts : List String
  answer : Except RankError (List σ)

/-- The same reranker, which also writes down its calls, the last one behind the others. -/
def recorded (r : Reranker m σ) : Reranker (StateT (List (Call σ)) m) σ :=
  ⟨r.model, fun query texts => noted (⟨query, texts, ·⟩) (r.score query texts)⟩

namespace Call

/-- Why the answer cannot be used: the call failed, or the number of scores is wrong. -/
def error? (model : String) (c : Call σ) : Option RankError :=
  match c.answer with
  | .error e => some e
  | .ok scores =>
    if scores.length = c.texts.length then none
    else some (.rerankerFailed model (scoreCountMessage c.texts.length scores.length))

/-- The scores of the answer if it can be used, and the reason if not. -/
def checked (model : String) (c : Call σ) : Except RankError (List σ) :=
  match c.error? model with
  | some e => .error e
  | none => c.answer

/-- The call asks about the pool. -/
structure About (query : String) (pool : List (Candidate σ)) (c : Call σ) : Prop where
  query : c.query = query
  texts : c.texts = Candidate.questions pool

theorem error?_of_checked {model : String} {c : Call σ} {e : RankError}
    (h : c.checked model = .error e) : c.error? model = some e := by
  unfold checked at h
  cases herror : c.error? model with
  | some e' =>
    rw [herror] at h
    rw [Except.error.inj h]
  | none =>
    rw [herror] at h
    unfold error? at herror
    simp only at h
    rw [h] at herror
    cases herror

/-- Scores that can be used are as many as the texts. -/
theorem of_checked_ok {model : String} {c : Call σ} {scores : List σ}
    (h : c.checked model = .ok scores) :
    c.error? model = none ∧ c.answer = .ok scores ∧ scores.length = c.texts.length := by
  unfold checked at h
  cases herror : c.error? model with
  | some e =>
    rw [herror] at h
    cases h
  | none =>
    rw [herror] at h
    simp only at h
    refine ⟨rfl, h, ?_⟩
    unfold error? at herror
    rw [h] at herror
    by_cases hlen : scores.length = c.texts.length
    · exact hlen
    · simp only [if_neg hlen] at herror
      cases herror

end Call

variable [LawfulMonad m] (r : Reranker m σ) (query : String)

/-- **A checked call is one call**, and what comes of it is told by its answer. -/
theorem run_scoreAll_recorded {texts : List String} (h : texts ≠ []) (calls : List (Call σ)) :
    (r.recorded.scoreAll query texts).run.run calls = (fun answer =>
        (Call.checked r.model ⟨query, texts, answer⟩, calls ++ [⟨query, texts, answer⟩])) <$>
      r.score query texts := by
  unfold scoreAll recorded
  rw [if_neg (mt List.isEmpty_iff.mp h), ExceptT.run_bind, StateT.run_bind, ExceptT.run_mk,
    run_noted, bind_map_left, map_eq_pure_bind]
  refine bind_congr fun answer => ?_
  cases answer with
  | error e => rfl
  | ok scores =>
    unfold Call.checked Call.error?
    by_cases hlen : scores.length = texts.length
    · simp [hlen]
    · simp [hlen]

theorem scoreAll_records (texts : List String) :
    Records (r.recorded.scoreAll query texts) (r.scoreAll query texts) := by
  unfold scoreAll
  split
  · exact .pure []
  · refine .bind (.noted _ _) fun scores => ?_
    split
    · exact .pure scores
    · exact .failed _

end Reranker

/-! ## Preparing a pool -/

open Reranker (Call)

variable [Score σ]

namespace Channel

/-- What comes of preparing a pool, and the call that is made for it. -/
inductive Prepared (model query : String) (pool : List (Candidate σ)) :
    Except RankError (Option (Channel σ)) → Option (Call σ) → Prop
  /-- The reranker is not asked about nothing. -/
  | spared (hpool : pool = []) : Prepared model query pool (.ok none) none
  | failed {c : Call σ} {e : RankError} (hpool : pool ≠ []) (hc : c.About query pool)
    (he : c.error? model = some e) : Prepared model query pool (.error e) (some c)
  | scored {c : Call σ} {scores : List σ} (hpool : pool ≠ []) (hc : c.About query pool)
    (hscores : c.checked model = .ok scores) :
    Prepared model query pool (.ok (ofScores? pool scores)) (some c)

variable [LawfulMonad m] (r : Reranker m σ) (query : String) (pool : List (Candidate σ))

/-- **Preparing a pool is one call**, or none if it has no candidates. -/
theorem prepare_prepared (calls : List (Call σ)) :
    Ensures ((prepare r.recorded query pool).run.run calls) fun x =>
      ∃ call : Option (Call σ), x.2 = calls ++ call.toList ∧
        Prepared r.model query pool x.1 call := by
  by_cases hpool : pool = []
  · subst hpool
    rw [prepare_nil, ExceptT.run_pure, StateT.run_pure]
    exact Ensures.pure ⟨none, (List.append_nil calls).symm, .spared rfl⟩
  · have htexts : (cleaned pool).map Row.titled ≠ [] :=
      mt List.map_eq_nil_iff.mp (mt cleaned_eq_nil.mp hpool)
    rw [prepare_eq, ExceptT.run_bind, StateT.run_bind, r.run_scoreAll_recorded query htexts,
      bind_map_left]
    refine (Ensures.trivial _).bind fun answer _ => ?_
    have habout : Call.About query pool
        ⟨query, (cleaned pool).map Row.titled, answer⟩ := ⟨rfl, map_titled_cleaned pool⟩
    cases hchecked : Call.checked r.model ⟨query, (cleaned pool).map Row.titled, answer⟩ with
    | error e =>
      exact Ensures.pure ⟨some _, rfl, .failed hpool habout (Call.error?_of_checked hchecked)⟩
    | ok scores => exact Ensures.pure ⟨some _, rfl, .scored hpool habout hchecked⟩

theorem prepare_records : Records (prepare r.recorded query pool) (prepare r query pool) := by
  rw [prepare_eq, prepare_eq]
  exact .bind (r.scoreAll_records query _) fun scores => .pure _

/-- What comes of preparing two pools side by side, and the calls that are made for them. -/
inductive PreparedBoth (model query : String) (turns : Turns) (D S : List (Candidate σ)) :
    Except RankError (Option (Channel σ) × Option (Channel σ)) → Option (Call σ) →
      Option (Call σ) → Prop
  /-- The first has failed before the second is begun. -/
  | refused {e : RankError} {dense : Option (Call σ)} (hturns : turns = .atOnce)
    (hd : Prepared model query D (.error e) dense) :
    PreparedBoth model query turns D S (.error e) dense none
  | begun {x y : Except RankError (Option (Channel σ))} {dense sparse : Option (Call σ)}
    (hbegun : turns = .atOnce → ∃ d, x = .ok d) (hd : Prepared model query D x dense)
    (hs : Prepared model query S y sparse) :
    PreparedBoth model query turns D S (turns.outcome x y) dense sparse

/-- **Preparing two pools side by side is one call for each**, or none if it has no candidates or if
the first has failed at once. -/
theorem tryJoin_prepared (turns : Turns) (D S : List (Candidate σ)) :
    Ensures ((tryJoin turns (prepare r.recorded query D) (prepare r.recorded query S)).run.run [])
      fun x => ∃ dense sparse : Option (Call σ), x.2 = dense.toList ++ sparse.toList ∧
        PreparedBoth r.model query turns D S x.1 dense sparse := by
  by_cases hturns : turns = .atOnce
  · rw [hturns, run_tryJoin_atOnce, StateT.run_bind]
    refine (prepare_prepared r query D []).bind fun ⟨x, calls⟩ hd => ?_
    obtain ⟨dense, rfl, hd⟩ := hd
    cases x with
    | error e => exact Ensures.pure ⟨dense, none, (List.append_nil _).symm, .refused rfl hd⟩
    | ok d =>
      simp only [StateT.run_bind]
      refine (prepare_prepared r query S _).bind fun ⟨y, calls⟩ hs => ?_
      obtain ⟨sparse, rfl, hs⟩ := hs
      cases y <;> exact Ensures.pure ⟨dense, sparse, rfl, .begun (fun _ => ⟨d, rfl⟩) hd hs⟩
  · rw [run_tryJoin_besides _ _ hturns, StateT.run_bind]
    refine (prepare_prepared r query D []).bind fun ⟨x, calls⟩ hd => ?_
    obtain ⟨dense, rfl, hd⟩ := hd
    rw [StateT.run_bind]
    refine (prepare_prepared r query S _).bind fun ⟨y, calls⟩ hs => ?_
    obtain ⟨sparse, rfl, hs⟩ := hs
    exact Ensures.pure ⟨dense, sparse, rfl, .begun (fun h => absurd h hturns) hd hs⟩

end Channel

namespace Fusion

open Channel (OfPool Prepared PreparedBoth)

variable {D S : List (Candidate σ)}

/-! ## Rows of the table -/

/-- `r` is the row `g`, but for the identity of its document, the scores of the channels, the kind
of its hit and the score that it is ranked by. -/
structure StemsFrom (r g : Row σ) : Prop where
  candidate : r.candidate = { g.candidate with document := r.document }
  key : r.key = g.key
  relevance : r.relevance = g.relevance

omit [Score σ] in
theorem StemsFrom.from {r g : Row σ} {c : Candidate σ} (h : StemsFrom r g) (hg : g.From c) :
    r.From c where
  candidate := by rw [h.candidate, hg.candidate]
  key := h.key.trans hg.key

/-- Each gathered row is one of a channel, and the kind of its hit says of which. -/
theorem exists_marks {d s : Option (Channel σ)} (hd : OfPool D d) {x : Row σ}
    (hx : x ∈ gathered d s) :
    (∃ c ∈ d, ∃ g ∈ c.rows, Marks .allHit g x ∨ Marks .onlyDense g x) ∨
      ∃ c ∈ s, ∃ g ∈ c.rows, Marks .onlySparse g x := by
  cases d with
  | none =>
    cases s with
    | none => exact absurd hx List.not_mem_nil
    | some s =>
      obtain ⟨g, hg, rfl⟩ := List.mem_map.mp hx
      exact Or.inr ⟨s, rfl, g, hg, rfl, rfl, rfl, rfl⟩
  | some d =>
    cases s with
    | none =>
      obtain ⟨g, hg, rfl⟩ := List.mem_map.mp hx
      exact Or.inl ⟨d, rfl, g, hg, Or.inr ⟨rfl, rfl, rfl, rfl⟩⟩
    | some s =>
      rcases exists_of_mem_join hd hx with ⟨g, hg, hgx⟩ | ⟨g, hg, hgx⟩ | ⟨g, hg, hgx, -⟩
      · exact Or.inl ⟨d, rfl, g, hg, Or.inl hgx⟩
      · exact Or.inl ⟨d, rfl, g, hg, Or.inr hgx⟩
      · exact Or.inr ⟨s, rfl, g, hg, hgx⟩

/-- **A row of the table stems from a row of a channel**, of the dense one if that has hit it. -/
theorem exists_channel_row {config : FusionConfig σ} {d s : Option (Channel σ)} (hd : OfPool D d)
    {table : FusedTable σ} (ht : tableOf (merge config d s) = some table) {r : Row σ}
    (hr : r ∈ table.rows) :
    (ByDense r ∧ ∃ c ∈ d, ∃ g ∈ c.rows, StemsFrom r g) ∨
      (r.hits = some .onlySparse ∧ ∃ c ∈ s, ∃ g ∈ c.rows, StemsFrom r g) := by
  obtain ⟨j, hj, heq, hkey⟩ := exists_joined ht hr
  obtain ⟨x, hx, y, rfl⟩ := exists_of_mem_merge hj
  have stems {kind : HitType} {g : Row σ} (hg : Marks kind g x) :
      r.hits = some kind ∧ StemsFrom r g := by
    refine ⟨?_, ?_, ?_, ?_⟩
    · rw [heq]
      exact hg.hits
    · rw [heq, ← hg.candidate]
      rfl
    · rw [← hkey]
      exact hg.key
    · rw [heq]
      exact hg.relevance
  rcases exists_marks hd hx with ⟨c, hc, g, hg, hgx | hgx⟩ | ⟨c, hc, g, hg, hgx⟩
  · exact Or.inl ⟨Or.inl (stems hgx).1, c, hc, g, hg, (stems hgx).2⟩
  · exact Or.inl ⟨Or.inr (stems hgx).1, c, hc, g, hg, (stems hgx).2⟩
  · exact Or.inr ⟨(stems hgx).1, c, hc, g, hg, (stems hgx).2⟩

/-! ## Both pools -/

/-- The relevance of the row is the score that the call was answered with at the position of the
row's own text, which is that of a candidate that comes first with its key. -/
def ScoredBy (pool : List (Candidate σ)) (call : Call σ) (r : Row σ) : Prop :=
  ∃ (i : Nat) (c : Candidate σ) (scores : List σ) (s : σ),
    (Candidate.firsts pool)[i]? = some c ∧ r.From c ∧
      call.texts[i]? = some (Candidate.question pool c) ∧ call.answer = .ok scores ∧
      scores[i]? = some s ∧ r.relevance = some s

section Prepared

variable {model query : String} {pool : List (Candidate σ)} {call : Option (Call σ)}

theorem asked_of_prepared {result : Except RankError (Option (Channel σ))}
    (h : Prepared model query pool result call) : call.map (fun c => (c.query, c.texts)) =
      if pool = [] then none else some (query, Candidate.questions pool) := by
  cases h with
  | spared hpool => rw [if_pos hpool]; rfl
  | failed hpool hc he => rw [if_neg hpool, Option.map_some, hc.query, hc.texts]
  | scored hpool hc hscores => rw [if_neg hpool, Option.map_some, hc.query, hc.texts]

/-- Preparing fails exactly if a call does. -/
theorem findSome?_of_prepared {result : Except RankError (Option (Channel σ))}
    (h : Prepared model query pool result call) :
    (∃ channel, result = .ok channel ∧ call.toList.findSome? (·.error? model) = none) ∨
      ∃ e, result = .error e ∧ call.toList.findSome? (·.error? model) = some e := by
  cases h with
  | spared hpool => exact Or.inl ⟨none, rfl, rfl⟩
  | @failed c e hpool hc he => exact Or.inr ⟨e, rfl, by simp [he]⟩
  | scored hpool hc hscores => exact Or.inl ⟨_, rfl, by simp [(Call.of_checked_ok hscores).1]⟩

theorem ofPool_of_prepared {channel : Option (Channel σ)}
    (h : Prepared model query pool (.ok channel) call) : OfPool pool channel := by
  cases h with
  | spared hpool =>
    subst hpool
    exact ⟨[], rfl, rfl⟩
  | scored hpool hc hscores =>
    obtain ⟨-, -, hlen⟩ := Call.of_checked_ok hscores
    rw [hc.texts, ← Channel.map_titled_cleaned, List.length_map] at hlen
    exact ⟨_, hlen, rfl⟩

/-- A row that stems from one of a prepared channel has its score of the call. -/
theorem scoredBy_of_prepared {channel : Option (Channel σ)}
    (h : Prepared model query pool (.ok channel) call) {r : Row σ}
    (hr : ∃ c ∈ channel, ∃ g ∈ c.rows, StemsFrom r g) : ∃ c ∈ call, ScoredBy pool c r := by
  obtain ⟨channel, hchannel, g, hg, hrg⟩ := hr
  cases h with
  | spared hpool => cases hchannel
  | @scored call scores hpool hc hscores =>
    obtain ⟨i, c, s, hfirst, hgc, hs, hrelevance⟩ := Channel.exists_scored hchannel hg
    refine ⟨call, rfl, i, c, scores, s, hfirst, hrg.from hgc, ?_, (Call.of_checked_ok hscores).2.1,
      hs, hrg.relevance.trans hrelevance⟩
    rw [hc.texts, Candidate.questions, List.getElem?_map, hfirst]
    rfl

end Prepared

/-- The calls in the order in which they end. -/
def ended (turns : Turns) (dense sparse : Option (Call σ)) : List (Call σ) :=
  match turns with
  | .secondEnds => sparse.toList ++ dense.toList
  | .atOnce | .firstEnds => dense.toList ++ sparse.toList

/-- What fusion makes of channels that have been prepared, or not. -/
def fused (config : FusionConfig σ) :
    Except RankError (Option (Channel σ) × Option (Channel σ)) → Except Halt (FusedTable σ)
  | .ok (d, s) => Halt.ordered (combine config d s)
  | .error e => .error (.failed e)

/-- The calls that fusion makes for its pools, if any, and what comes of them. -/
structure Accounted (model query : String) (turns : Turns) (D S : List (Candidate σ))
    (result : Except Halt (FusedTable σ)) (dense sparse : Option (Call σ)) : Prop where
  /-- The reranker is asked about the dense pool exactly if it has candidates. -/
  dense_asked : dense.map (fun c => (c.query, c.texts)) =
    if D = [] then none else some (query, Candidate.questions D)
  /-- It is asked about the sparse pool exactly if that has candidates and no dense call has failed
  at once. -/
  sparse_asked : sparse.map (fun c => (c.query, c.texts)) =
    if S = [] ∨ turns = .atOnce ∧ ∃ c ∈ dense, c.error? model ≠ none then none
    else some (query, Candidate.questions S)
  /-- Fusion reports an error exactly if a call fails, and it is that of the first to end so. -/
  failed_iff : ∀ e, result = .error (.failed e) ↔
    (ended turns dense sparse).findSome? (·.error? model) = some e
  /-- If none does there are joined rows, and what is left is their order. -/
  answered : (ended turns dense sparse).findSome? (·.error? model) = none →
    ∃ joined, joined.length ≤ D.length + S.length ∧ result = Halt.ordered (tableOf joined)
  /-- A row that the dense channel has hit has its score of the dense call, any other one of the
  sparse call. -/
  scored : ∀ table, result = .ok table → ∀ r ∈ table.rows,
    (ByDense r ∧ ∃ c ∈ dense, ScoredBy D c r) ∨
      (r.hits = some .onlySparse ∧ ∃ c ∈ sparse, ScoredBy S c r)

section Calls

variable {model query : String} {turns : Turns} {dense sparse : Option (Call σ)}

omit [Score σ] in
/-- A call that has failed is there to be seen. -/
theorem exists_error_iff {call : Option (Call σ)} :
    (∃ c ∈ call, c.error? model ≠ none) ↔ call.toList.findSome? (·.error? model) ≠ none := by
  cases call <;> simp

/-- A dense call that fails at once is the only one. -/
theorem accounted_of_refused {e : RankError} (hd : Prepared model query D (.error e) dense) :
    Accounted model query .atOnce D S (.error (.failed e)) dense none := by
  obtain ⟨_, h, -⟩ | ⟨e', he, hfound⟩ := findSome?_of_prepared hd
  · cases h
  obtain rfl := Except.error.inj he
  have hended : (ended .atOnce dense none).findSome? (·.error? model) = some e := by
    rw [ended, Option.toList_none, List.append_nil, hfound]
  refine ⟨asked_of_prepared hd, ?_, fun e' => ?_, fun hnone => ?_, fun table h => by cases h⟩
  · rw [Option.map_none, if_pos (Or.inr ⟨rfl, exists_error_iff.mpr (by simp [hfound])⟩)]
  · rw [hended]
    simp
  · rw [hended] at hnone
    cases hnone

/-- Of two pools that are prepared side by side the first failure counts. -/
theorem outcome_of_prepared (turns : Turns) {x y : Except RankError (Option (Channel σ))}
    (hd : Prepared model query D x dense) (hs : Prepared model query S y sparse) :
    (∃ d s, x = .ok d ∧ y = .ok s ∧ turns.outcome x y = .ok (d, s) ∧
        (ended turns dense sparse).findSome? (·.error? model) = none) ∨
      ∃ e, turns.outcome x y = .error e ∧
        (ended turns dense sparse).findSome? (·.error? model) = some e := by
  rcases findSome?_of_prepared hd with ⟨d, rfl, hdense⟩ | ⟨e, rfl, hdense⟩ <;>
    rcases findSome?_of_prepared hs with ⟨s, rfl, hsparse⟩ | ⟨e', rfl, hsparse⟩
  · refine Or.inl ⟨d, s, rfl, rfl, ?_, ?_⟩ <;> cases turns <;>
      simp [Turns.outcome, ended, List.findSome?_append, hdense, hsparse] <;> rfl
  · refine Or.inr ⟨e', ?_, ?_⟩ <;> cases turns <;>
      simp [Turns.outcome, ended, List.findSome?_append, hdense, hsparse] <;> rfl
  · refine Or.inr ⟨e, ?_, ?_⟩ <;> cases turns <;>
      simp [Turns.outcome, ended, List.findSome?_append, hdense, hsparse] <;> rfl
  · cases turns with
    | secondEnds => exact Or.inr ⟨e', rfl, by simp [ended, List.findSome?_append, hsparse]⟩
    | atOnce | firstEnds => exact Or.inr ⟨e, rfl, by simp [ended, List.findSome?_append, hdense]⟩

/-- Past the dense pool, what comes of fusion is what comes of both. -/
theorem accounted_of_begun (config : FusionConfig σ)
    {x y : Except RankError (Option (Channel σ))} (hbegun : turns = .atOnce → ∃ d, x = .ok d)
    (hd : Prepared model query D x dense) (hs : Prepared model query S y sparse) :
    Accounted model query turns D S (fused config (turns.outcome x y)) dense sparse where
  dense_asked := asked_of_prepared hd
  sparse_asked := by
    have hdense : ¬ (turns = .atOnce ∧ ∃ c ∈ dense, c.error? model ≠ none) := by
      rintro ⟨hturns, herror⟩
      obtain ⟨d, rfl⟩ := hbegun hturns
      obtain ⟨_, -, hnone⟩ | ⟨_, he, -⟩ := findSome?_of_prepared hd
      · exact exists_error_iff.mp herror hnone
      · cases he
    simp only [asked_of_prepared hs, hdense, or_false]
  failed_iff := by
    intro e
    rcases outcome_of_prepared turns hd hs with
      ⟨d, s, -, -, hboth, hnone⟩ | ⟨e', herror, hsome⟩
    · rw [hboth, hnone]
      exact iff_of_false (Halt.ordered_ne_failed _ e) (by simp)
    · rw [herror, hsome]
      simp [fused]
  answered := by
    intro hended
    rcases outcome_of_prepared turns hd hs with
      ⟨d, s, rfl, rfl, hboth, -⟩ | ⟨e', -, hsome⟩
    · rw [hboth]
      exact ⟨merge config d s, length_merge_le (ofPool_of_prepared hd) (ofPool_of_prepared hs), rfl⟩
    · rw [hended] at hsome
      cases hsome
  scored := by
    intro table htable r hr
    rcases outcome_of_prepared turns hd hs with
      ⟨d, s, rfl, rfl, hboth, -⟩ | ⟨e', herror, -⟩
    · rw [hboth] at htable
      have ht : tableOf (merge config d s) = some table := Halt.ordered_eq_ok_iff.mp htable
      rcases exists_channel_row (ofPool_of_prepared hd) ht hr with ⟨hhit, hrow⟩ | ⟨hhit, hrow⟩
      · exact Or.inl ⟨hhit, scoredBy_of_prepared hd hrow⟩
      · exact Or.inr ⟨hhit, scoredBy_of_prepared hs hrow⟩
    · rw [herror] at htable
      cases htable

end Calls

variable [LawfulMonad m]

theorem run_fuse (config : FusionConfig σ) (reranker : Reranker m σ) (turns : Turns)
    (query : String) (D S : List (Candidate σ)) :
    (fuse config reranker turns query D S).run = fused config <$> (tryJoin turns
      (Channel.prepare reranker query D) (Channel.prepare reranker query S)).run := by
  unfold fuse
  rw [ExceptT.run_bind, Halt.run_failing, bind_map_left, map_eq_pure_bind]
  refine bind_congr fun result => ?_
  cases result <;> rfl

theorem fuse_records (config : FusionConfig σ) (reranker : Reranker m σ) (turns : Turns)
    (query : String) (D S : List (Candidate σ)) :
    Records (fuse config reranker.recorded turns query D S)
      (fuse config reranker turns query D S) :=
  .bind (.failing (.tryJoin (Channel.prepare_records reranker query D)
    (Channel.prepare_records reranker query S) turns)) fun _ => .ordering _

/-- **Fusion asks about each pool that has candidates, in one call, and takes the scores by their
positions.** Writing the calls down changes nothing else. -/
theorem fuse_accounted (config : FusionConfig σ) (reranker : Reranker m σ) (turns : Turns)
    (query : String) (D S : List (Candidate σ)) :
    Records (fuse config reranker.recorded turns query D S)
        (fuse config reranker turns query D S) ∧
      Ensures ((fuse config reranker.recorded turns query D S).run.run []) fun x =>
        ∃ dense sparse : Option (Call σ), x.2 = dense.toList ++ sparse.toList ∧
          Accounted reranker.model query turns D S x.1 dense sparse := by
  refine ⟨fuse_records config reranker turns query D S, ?_⟩
  rw [run_fuse, StateT.run_map]
  refine (Channel.tryJoin_prepared reranker query turns D S).map fun ⟨result, calls⟩ h => ?_
  obtain ⟨dense, sparse, rfl, h⟩ := h
  refine ⟨dense, sparse, rfl, ?_⟩
  cases h with
  | refused hturns hd => exact hturns ▸ accounted_of_refused hd
  | begun hbegun hd hs => exact accounted_of_begun config hbegun hd hs

/-- The reranker that answers every call with the same scores. -/
def answering (scores : List σ) : Reranker m σ := ⟨"scripted", fun _ _ => pure (.ok scores)⟩

/-- The run of fusion with two pools of one slice each, and a reranker without scores. -/
def refusedRun (turns : Turns) : Except Halt (FusedTable Float) × List (Call Float) :=
  ((fuse .default (answering (m := Id) []).recorded turns "q" [sample "u" "A" "a" 1.0]
    [sample "v" "B" "b" 1.0]).run.run []).run

/-- An answer without scores for one text is refused. If it comes at once the sparse pool is not
asked about. -/
theorem dense_answer_refused :
    (refusedRun .atOnce).1 =
        .error (.failed (.rerankerFailed "scripted" "expected 1 scores, got 0")) ∧
      ∃ c, (refusedRun .atOnce).2 = [c] ∧
        c.texts = Candidate.questions [sample "u" "A" "a" (1.0 : Float)] ∧
        Accounted "scripted" "q" .atOnce [sample "u" "A" "a" 1.0] [sample "v" "B" "b" 1.0]
          (refusedRun .atOnce).1 (some c) none := by
  obtain ⟨dense, sparse, hcalls, h⟩ := Ensures.id_iff.mp (fuse_accounted (m := Id) .default
    (answering []) .atOnce "q" [sample "u" "A" "a" 1.0] [sample "v" "B" "b" 1.0]).2
  have hone : (refusedRun .atOnce).2.length = 1 := rfl
  obtain ⟨c, rfl, hquestion⟩ := Option.map_eq_some_iff.mp h.dense_asked
  have hsparse : sparse = none := by
    rw [refusedRun, hcalls] at hone
    cases sparse with
    | none => rfl
    | some c' => cases hone
  subst hsparse
  exact ⟨rfl, c, hcalls, congrArg Prod.snd hquestion, h⟩

/-- If the answer is waited for, the sparse pool is asked about although the dense call fails; and a
call for 21 slices that is answered with a score for each may end in neither a table nor an
error. -/
theorem sparse_asked_besides :
    ((refusedRun .firstEnds).1 =
          .error (.failed (.rerankerFailed "scripted" "expected 1 scores, got 0")) ∧
        (refusedRun .firstEnds).2.map Reranker.Call.texts =
          [Candidate.questions [sample "u" "A" "a" (1.0 : Float)],
            Candidate.questions [sample "v" "B" "b" (1.0 : Float)]]) ∧
      (Reranker.placed (m := Id) unorderable).Answers ∧
      (fuse { FusionConfig.default with method := .relevance } (Reranker.placed unorderable)
        .atOnce "q" slices []).run = (pure (.error .disordered) : Id _) :=
  ⟨⟨rfl, rfl⟩, Reranker.placed_answers _,
    fuse_unorderable rfl (congrArg List.length firsts_slices) .atOnce "q"⟩

end Fusion
end EvidenceRank
