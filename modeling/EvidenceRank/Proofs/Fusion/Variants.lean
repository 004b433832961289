import EvidenceRank.Pipeline
import EvidenceRank.Proofs.Fusion.Attribution

/-!
# Hits of several query variants

The hits of the variants of a query are fused as one dense and one sparse pool. Each pool keeps its
first copy of a text, with the uuid of the variant that it comes from, and the copies of the two
pools meet only by their uuids. So a text that both channels have can still be told to be a hit of
one of them, when the first variant to hit it in one channel is not the first in the other.

Results:
* `HitTogether.uuid_eq`: the copies have one uuid where the first variant to hit the text does so
  in both channels.
* `Traced.copies`: a row of the text has the scores of both copies if the sparse copy is the first
  of the dense one's uuid, and otherwise some score that is of neither copy.
* `fuse_concat_copies`: so it is for every row of a fused table.
-/

namespace EvidenceRank

variable {σ : Type}

namespace Pools

/-- A text that both channels have in the variant has one uuid there. -/
def Agrees (p : Pools σ) : Prop :=
  ∀ c ∈ p.dense, ∀ s ∈ p.sparse, c.key = s.key → c.uuid = s.uuid

theorem foldl_append (variants : List (Pools σ)) (p : Pools σ) : variants.foldl append p =
    ⟨p.dense ++ variants.flatMap dense, p.sparse ++ variants.flatMap sparse⟩ := by
  induction variants generalizing p with
  | nil => simp
  | cons q variants ih => simp [ih, append]

theorem concat_dense (variants : List (Pools σ)) :
    (concat variants).dense = variants.flatMap dense :=
  congrArg dense (foldl_append variants empty)

theorem concat_sparse (variants : List (Pools σ)) :
    (concat variants).sparse = variants.flatMap sparse :=
  congrArg sparse (foldl_append variants empty)

/-- The first variant that hits the text at all hits it in both channels. -/
def HitTogether (variants : List (Pools σ)) (k : String × String) : Prop :=
  ∃ before p after, variants = before ++ p :: after ∧
    (∀ q ∈ before, k ∉ q.dense.map Candidate.key ∧ k ∉ q.sparse.map Candidate.key) ∧
    k ∈ p.dense.map Candidate.key ∧ k ∈ p.sparse.map Candidate.key

/-- The first copy of a text is from the first variant that has the text. -/
theorem mem_of_mem_firsts {f : Pools σ → List (Candidate σ)} {before after : List (Pools σ)}
    {p : Pools σ} {c : Candidate σ} (hbefore : ∀ q ∈ before, c.key ∉ (f q).map Candidate.key)
    (hp : c.key ∈ (f p).map Candidate.key)
    (hc : c ∈ Candidate.firsts ((before ++ p :: after).flatMap f)) : c ∈ f p := by
  have hfind := Lists.find?_of_mem_distinctBy hc
  have hnone : (before.flatMap f).find? (fun d => d.key == c.key) = none := by
    rw [List.find?_eq_none]
    intro d hd hkey
    obtain ⟨q, hq, hdq⟩ := List.mem_flatMap.mp hd
    exact hbefore q hq (List.mem_map.mpr ⟨d, hdq, beq_iff_eq.mp hkey⟩)
  rw [List.flatMap_append, List.flatMap_cons, List.find?_append, hnone, Option.none_or,
    List.find?_append] at hfind
  cases hd : (f p).find? (fun d => d.key == c.key) with
  | none =>
    obtain ⟨d, hdp, hkey⟩ := List.mem_map.mp hp
    exact absurd (List.find?_eq_none.mp hd d hdp) (by simp [hkey])
  | some d =>
    rw [hd, Option.some_or] at hfind
    obtain rfl := Option.some.inj hfind
    exact List.mem_of_find?_eq_some hd

/-- **Copies of one variant have one uuid.** -/
theorem HitTogether.uuid_eq {variants : List (Pools σ)} {c s : Candidate σ}
    (h : HitTogether variants c.key) (hagree : ∀ p ∈ variants, p.Agrees)
    (hc : c ∈ Candidate.firsts (concat variants).dense)
    (hs : s ∈ Candidate.firsts (concat variants).sparse) (hkey : s.key = c.key) :
    c.uuid = s.uuid := by
  obtain ⟨before, p, after, rfl, hbefore, hdense, hsparse⟩ := h
  rw [concat_dense] at hc
  rw [concat_sparse] at hs
  have hcp : c ∈ p.dense := mem_of_mem_firsts (fun q hq => (hbefore q hq).1) hdense hc
  rw [← hkey] at hbefore hsparse
  have hsp : s ∈ p.sparse := mem_of_mem_firsts (fun q hq => (hbefore q hq).2) hsparse hs
  exact hagree p (List.mem_append_right before List.mem_cons_self) c hcp s hsp hkey.symm

end Pools

namespace Fusion

variable {D S : List (Candidate σ)} {c s : Candidate σ} {r : Row σ}

/-! ## Copies of one text -/

/-- The candidates are the copies of the row's text that come first in the pools. -/
structure Copies (D S : List (Candidate σ)) (r : Row σ) (c s : Candidate σ) : Prop where
  dense : c ∈ Candidate.firsts D
  dense_key : c.key = r.key
  sparse : s ∈ Candidate.firsts S
  sparse_key : s.key = r.key

/-- The sparse copy is the first sparse candidate that has the dense copy's uuid. -/
def Meet (S : List (Candidate σ)) (c s : Candidate σ) : Prop :=
  (Candidate.firsts S).find? (·.uuid == c.uuid) = some s

theorem Meet.uuid_eq (h : Meet S c s) : s.uuid = c.uuid := by
  have hfound := List.find?_some h
  exact beq_iff_eq.mp hfound

theorem exists_copies (hD : r.key ∈ D.map Candidate.key) (hS : r.key ∈ S.map Candidate.key) :
    ∃ c s, Copies D S r c s := by
  obtain ⟨c, hc, hck⟩ := List.mem_map.mp (Lists.mem_map_distinctBy.mpr hD)
  obtain ⟨s, hs, hsk⟩ := List.mem_map.mp (Lists.mem_map_distinctBy.mpr hS)
  exact ⟨c, s, hc, hck, hs, hsk⟩

/-- Copies of one uuid meet where no other sparse text has it. -/
theorem Copies.meet (h : Copies D S r c s) (huuid : c.uuid = s.uuid)
    (hnames : ∀ t ∈ S, t.uuid = c.uuid → t.key = r.key) : Meet S c s := by
  unfold Meet
  cases hfind : (Candidate.firsts S).find? (·.uuid == c.uuid) with
  | none => exact absurd (List.find?_eq_none.mp hfind s h.sparse) (by simp [huuid])
  | some t =>
    have ht := List.mem_of_find?_eq_some hfind
    have hkey := hnames t (Lists.mem_of_mem_distinctBy ht) (Meet.uuid_eq hfind)
    rw [Lists.eq_of_mem_distinctBy ht h.sparse (hkey.trans h.sparse_key.symm)]

/-- The row is a hit of both channels and has the scores of the copies. -/
structure HitByCopies (r : Row σ) (c s : Candidate σ) : Prop where
  hits : r.hits = some .allHit
  dense : r.dense = some c.score
  sparse : r.sparse = some s.score

variable [Score σ]

/-- One score of the row is of neither copy: it is that of another text, or the least score of a
channel that is said not to have the row. -/
inductive HitByOther (D S : List (Candidate σ)) (r : Row σ) : Prop where
  | otherText {t : Candidate σ} (ht : t ∈ Candidate.firsts S) (hkey : t.key ≠ r.key)
    (hits : r.hits = some .allHit) (hsparse : r.sparse = some t.score)
  | notSparse {x : σ} (hits : r.hits = some .onlyDense) (hsparse : r.sparse = some x)
    (least : Score.Minimum (Candidate.scores S) x)
  | notDense {x : σ} (hits : r.hits = some .onlySparse) (hdense : r.dense = some x)
    (least : Score.Minimum (Candidate.scores D) x)

/-- **Where its copies meet a row has the scores of both, and otherwise one that is of neither.** -/
theorem Traced.copies [Score.LawfulOrder σ] (h : Traced D S r) (hcopies : Copies D S r c s) :
    (Meet S c s → HitByCopies r c s) ∧ (¬ Meet S c s → HitByOther D S r) := by
  cases h with
  | allHit hc' hrow hs' hits hdense hsparse =>
    obtain rfl := Lists.eq_of_mem_distinctBy hc' hcopies.dense
      (hrow.key.symm.trans hcopies.dense_key.symm)
    refine ⟨fun hmeet => ?_, fun hmiss => ?_⟩
    · rw [Option.some.inj (hs'.symm.trans hmeet)] at hsparse
      exact ⟨hits, hdense, hsparse⟩
    · -- the first sparse candidate of the uuid is of another text, or it would be the copy
      have ht := List.mem_of_find?_eq_some hs'
      refine .otherText ht (fun hkey => hmiss ?_) hits hsparse
      rwa [Lists.eq_of_mem_distinctBy ht hcopies.sparse (hkey.trans hcopies.sparse_key.symm)]
        at hs'
  | onlyDense hc' hrow hlacks hits hdense hsparse =>
    obtain rfl := Lists.eq_of_mem_distinctBy hc' hcopies.dense
      (hrow.key.symm.trans hcopies.dense_key.symm)
    have hne : S ≠ [] := List.ne_nil_of_mem (Lists.mem_of_mem_distinctBy hcopies.sparse)
    refine ⟨fun hmeet => absurd ?_ hlacks, fun _ => .notSparse hits hsparse (filler_minimum hne)⟩
    exact hmeet.uuid_eq ▸ Candidate.mem_uuids hcopies.sparse
  | onlySparse hs' hrow hlacks hits hdense hsparse =>
    obtain rfl := Lists.eq_of_mem_distinctBy hs' hcopies.sparse
      (hrow.key.symm.trans hcopies.sparse_key.symm)
    have hne : D ≠ [] := List.ne_nil_of_mem (Lists.mem_of_mem_distinctBy hcopies.dense)
    refine ⟨fun hmeet => absurd ?_ hlacks, fun _ => .notDense hits hdense (filler_minimum hne)⟩
    exact hmeet.uuid_eq ▸ Candidate.mem_uuids hcopies.dense

/-! ## Fused variants -/

variable [Score.LawfulOrder σ] {m : Type → Type} [Monad m] [LawfulMonad m]

/-- **A text that both channels have is told to be a hit of both where its copies meet**, with the
scores of the copies. They do where the first variant that hits the text hits it in both channels,
under a uuid that names no other sparse text. Where they do not, some score is of neither. -/
theorem fuse_concat_copies (config : FusionConfig σ) (reranker : Reranker m σ) (turns : Turns)
    (query : String) {variants : List (Pools σ)} (hagree : ∀ p ∈ variants, p.Agrees) :
    let pools := Pools.concat variants
    Ensures (fuse config reranker turns query pools.dense pools.sparse).run fun result =>
      ∀ table, result = .ok table → ∀ r ∈ table.rows, r.key ∈ pools.dense.map Candidate.key →
        r.key ∈ pools.sparse.map Candidate.key → ∃ c s, Copies pools.dense pools.sparse r c s ∧
          (Meet pools.sparse c s → HitByCopies r c s) ∧
          (¬ Meet pools.sparse c s → HitByOther pools.dense pools.sparse r) ∧
          (Pools.HitTogether variants r.key →
            (∀ t ∈ pools.sparse, t.uuid = c.uuid → t.key = r.key) → Meet pools.sparse c s) := by
  intro pools
  refine (fuse_traced config reranker turns query _ _).imp fun result h table ht r hr hD hS => ?_
  obtain ⟨-, htraced⟩ := h table ht
  obtain ⟨c, s, hcopies⟩ := exists_copies hD hS
  obtain ⟨hmeet, hmiss⟩ := (htraced r hr).copies hcopies
  refine ⟨c, s, hcopies, hmeet, hmiss, fun htogether hnames => hcopies.meet ?_ hnames⟩
  rw [← hcopies.dense_key] at htogether
  exact htogether.uuid_eq hagree hcopies.dense hcopies.sparse
    (hcopies.sparse_key.trans hcopies.dense_key.symm)

/-- Of two copies of a text the first one is left. -/
theorem firsts_copies :
    Candidate.firsts [sample "u" "A" "a" 1.0, sample "v" "A" "a" 1.0] =
      [sample "u" "A" "a" 1.0] := by
  simp [Candidate.firsts, Lists.distinctBy, sample, Candidate.key]

/-- Two variants that hit one text in both channels, each under a uuid of its own. -/
def hitTwice : List (Pools Float) :=
  [⟨[sample "u" "A" "a" 1.0], [sample "u" "A" "a" 1.0]⟩,
    ⟨[sample "v" "A" "a" 1.0], [sample "v" "A" "a" 1.0]⟩]

/-- The copies of the first variant meet. -/
theorem fuse_concat_copies_twice : (∀ p ∈ hitTwice, p.Agrees) ∧
    ∃ table, (fuse .default (Reranker.flat 1.0) .atOnce "q" (Pools.concat hitTwice).dense
        (Pools.concat hitTwice).sparse).run = (pure (.ok table) : Id _) ∧
      ∃ r ∈ table.rows, r.key = (sample "u" "A" "a" 1.0).key ∧
        HitByCopies r (sample "u" "A" "a" 1.0) (sample "u" "A" "a" 1.0) := by
  let copies := [sample "u" "A" "a" 1.0, sample "v" "A" "a" 1.0]
  have hdense : (Pools.concat hitTwice).dense = copies := rfl
  have hsparse : (Pools.concat hitTwice).sparse = copies := rfl
  have hagree : ∀ p ∈ hitTwice, p.Agrees := by simp [hitTwice, Pools.Agrees]
  have hkeys : ∀ t ∈ copies, t.key = (sample "u" "A" "a" 1.0).key := by
    simp [copies, sample, Candidate.key]
  have hmem : (sample "u" "A" "a" 1.0).key ∈ copies.map Candidate.key := List.mem_cons_self
  have hfew : copies.length + copies.length ≤ Lists.insertionLength := by decide
  obtain ⟨dense, sparse, table, hd, hs, ht, hok⟩ := Ensures.id_iff.mp
    (fuse_answers_few (Reranker.flat_answers (m := Id) 1.0) .default .atOnce "q" hfew)
  obtain ⟨r, hr, hkey⟩ := exists_row_of_dense hd hs ht hmem
  rw [← hkey] at hmem
  obtain ⟨c, s, hcopies, hmeet, -, hfirst⟩ := Ensures.id_iff.mp
    (fuse_concat_copies .default (Reranker.flat (m := Id) 1.0) .atOnce "q" hagree) _ hok r hr hmem
    hmem
  -- the copies that come first are those of the first variant
  have hc := hcopies.dense
  have hs' := hcopies.sparse
  rw [hdense, firsts_copies, List.mem_singleton] at hc
  rw [hsparse, firsts_copies, List.mem_singleton] at hs'
  subst hc hs'
  have htogether : Pools.HitTogether hitTwice r.key := by
    have hfirst : r.key ∈ [sample "u" "A" "a" 1.0].map Candidate.key := hkey ▸ List.mem_cons_self
    exact ⟨[], _, _, rfl, fun q hq => absurd hq List.not_mem_nil, hfirst, hfirst⟩
  have hnames : ∀ t ∈ copies, t.uuid = (sample "u" "A" "a" 1.0).uuid → t.key = r.key :=
    fun t ht _ => (hkeys t ht).trans hkey.symm
  exact ⟨hagree, _, hok, r, hr, hkey, hmeet (hfirst htogether hnames)⟩

/-- The first variant hits a text in the dense channel only, and the second one in both. -/
def hitApart : List (Pools Float) :=
  [⟨[sample "u" "A" "a" 1.0], []⟩, ⟨[sample "v" "A" "a" 1.0], [sample "v" "A" "a" 1.0]⟩]

/-- The dense copy of the first variant displaces the one that the sparse copy would meet, so the
text is told to be a hit of one channel only. -/
theorem second_variant_missed : (∀ p ∈ hitApart, p.Agrees) ∧
    ∃ table, (fuse .default (Reranker.flat 1.0) .atOnce "q" (Pools.concat hitApart).dense
        (Pools.concat hitApart).sparse).run = (pure (.ok table) : Id _) ∧
      ∃ r ∈ table.rows, r.key ∈ (Pools.concat hitApart).dense.map Candidate.key ∧
        r.key ∈ (Pools.concat hitApart).sparse.map Candidate.key ∧ r.hits ≠ some .allHit := by
  have hdense : (Pools.concat hitApart).dense =
      [sample "u" "A" "a" 1.0, sample "v" "A" "a" 1.0] := rfl
  have hmem : (sample "u" "A" "a" 1.0).key ∈ (Pools.concat hitApart).dense.map Candidate.key :=
    List.mem_cons_self
  have hmem' : (sample "u" "A" "a" 1.0).key ∈ (Pools.concat hitApart).sparse.map Candidate.key :=
    List.mem_singleton_self _
  have hfew : (Pools.concat hitApart).dense.length + (Pools.concat hitApart).sparse.length ≤
      Lists.insertionLength := by decide
  obtain ⟨d, s, table, hd, hs, ht, hok⟩ := Ensures.id_iff.mp
    (fuse_answers_few (Reranker.flat_answers (m := Id) 1.0) .default .atOnce "q" hfew)
  obtain ⟨r, hr, hkey⟩ := exists_row_of_dense hd hs ht hmem
  rw [← hkey] at hmem hmem'
  refine ⟨by simp [hitApart, Pools.Agrees], _, hok, r, hr, hmem, hmem', fun hits => ?_⟩
  obtain ⟨hu, hv⟩ := (tableOf_traced hd hs ht hr).kind_iff.1.mp hits
  have huuids : Candidate.uuids [sample "u" "A" "a" 1.0, sample "v" "A" "a" 1.0] = ["u"] :=
    congrArg (List.map Candidate.uuid) firsts_copies
  rw [hdense, huuids, List.mem_singleton] at hu
  have hv : r.candidate.uuid ∈ ["v"] := hv
  rw [hu] at hv
  exact absurd hv (by decide)

end Fusion
end EvidenceRank
