import EvidenceRank.Proofs.Fusion.Table
import EvidenceRank.Proofs.Score.Least

/-!
# Which channels a row came from

A fused row is a candidate that comes first with its key in one of the pools. `Traced` has a case
for each kind of hit and says which candidates a row of the kind has its scores from. It is shown of
the gathered rows; the score that they are ranked by, their order and the identity of their
documents are nothing that it reads, so it holds of every row of the table, and with it whatever
follows from a row alone.

Results:
* `gathered_traced`, `tableOf_traced`: the rows that are gathered are traced, and those of the
  table.
* `fuse_attributed`: the kind of a row says in which of the pools its uuid is, its channel scores
  are those of its candidates or stand for a channel that lacks it, and the counts are exact.
-/

namespace EvidenceRank

variable {σ : Type}

/-- The uuids of the candidates that come first with their key. -/
def Candidate.uuids (pool : List (Candidate σ)) : List String := (firsts pool).map (·.uuid)

/-- The scores of the candidates that come first with their key. -/
def Candidate.scores (pool : List (Candidate σ)) : List σ := (firsts pool).map (·.score)

theorem Candidate.mem_uuids {pool : List (Candidate σ)} {c : Candidate σ} (h : c ∈ firsts pool) :
    c.uuid ∈ uuids pool :=
  List.mem_map.mpr ⟨c, h, rfl⟩

theorem Candidate.head_mem_uuids (c : Candidate σ) (pool : List (Candidate σ)) :
    c.uuid ∈ uuids (c :: pool) :=
  mem_uuids List.mem_cons_self

/-- How many hits of a kind are counted. -/
def HitCounts.count (counts : HitCounts) : HitType → Nat
  | .allHit => counts.allHit
  | .onlyDense => counts.onlyDense
  | .onlySparse => counts.onlySparse

theorem HitCounts.count_ofRows (rows : List (Row σ)) (kind : HitType) :
    (ofRows rows).count kind = (rows.filter (·.hits == some kind)).length := by
  rw [← List.countP_eq_length_filter]
  cases kind <;> rfl

/-- Where every row has a kind, the counts add up to all of them. -/
theorem HitCounts.total_ofRows {rows : List (Row σ)} (h : ∀ r ∈ rows, ∃ kind, r.hits = some kind) :
    (ofRows rows).allHit + (ofRows rows).onlyDense + (ofRows rows).onlySparse = rows.length := by
  unfold ofRows
  induction rows with
  | nil => rfl
  | cons r rows ih =>
    rw [List.forall_mem_cons] at h
    obtain ⟨⟨kind, hkind⟩, hrows⟩ := h
    have hrest := ih hrows
    simp only [List.countP_cons, List.length_cons, hkind] at hrest ⊢
    cases kind <;> simp <;> omega

namespace Fusion

open Channel (OfPool)

variable [Score σ] {D S : List (Candidate σ)} {r : Row σ}

/-! ## Traced rows -/

/-- The score that stands for a channel on the rows that it lacks. -/
def filler (pool : List (Candidate σ)) : σ :=
  if pool.isEmpty then absentScore else Score.least (Candidate.scores pool)

/-- Which candidates a row has its scores from. -/
inductive Traced (D S : List (Candidate σ)) (r : Row σ) : Prop where
  | allHit {c s : Candidate σ} (hc : c ∈ Candidate.firsts D) (hrow : r.From c)
    (hs : (Candidate.firsts S).find? (·.uuid == c.uuid) = some s) (hits : r.hits = some .allHit)
    (hdense : r.dense = some c.score) (hsparse : r.sparse = some s.score)
  | onlyDense {c : Candidate σ} (hc : c ∈ Candidate.firsts D) (hrow : r.From c)
    (hlacks : c.uuid ∉ Candidate.uuids S) (hits : r.hits = some .onlyDense)
    (hdense : r.dense = some c.score) (hsparse : r.sparse = some (filler S))
  | onlySparse {c : Candidate σ} (hc : c ∈ Candidate.firsts S) (hrow : r.From c)
    (hlacks : c.uuid ∉ Candidate.uuids D) (hits : r.hits = some .onlySparse)
    (hdense : r.dense = some (filler D)) (hsparse : r.sparse = some c.score)

/-- What a row is traced by is its candidate, its kind and the scores of the channels. -/
theorem Traced.congr {r' : Row σ} (h : Traced D S r) (hfrom : ∀ c, r.From c → r'.From c)
    (hhits : r'.hits = r.hits) (hd : r'.dense = r.dense) (hs : r'.sparse = r.sparse) :
    Traced D S r' := by
  cases h with
  | allHit hc hrow hfind hits hdense hsparse =>
    exact .allHit hc (hfrom _ hrow) hfind (hhits.trans hits) (hd.trans hdense) (hs.trans hsparse)
  | onlyDense hc hrow hlacks hits hdense hsparse =>
    exact .onlyDense hc (hfrom _ hrow) hlacks (hhits.trans hits) (hd.trans hdense)
      (hs.trans hsparse)
  | onlySparse hc hrow hlacks hits hdense hsparse =>
    exact .onlySparse hc (hfrom _ hrow) hlacks (hhits.trans hits) (hd.trans hdense)
      (hs.trans hsparse)

/-! ## Rows of channels -/

section Rows

variable {dense sparse : Channel σ}

theorem filler_eq (h : OfPool D (some dense)) : filler D = dense.stats.min := by
  have hne : D ≠ [] := fun hnil => absurd (h.eq_none_iff.mpr hnil) (by simp)
  unfold filler Candidate.scores
  rw [h.stats_min, if_neg (mt List.isEmpty_iff.mp hne)]

theorem mem_uuids_iff (h : OfPool D (some dense)) {uuid : String} :
    uuid ∈ Candidate.uuids D ↔ ∃ r ∈ dense.rows, r.candidate.uuid = uuid := by
  unfold Candidate.uuids
  rw [← List.mem_map, h.map_rows (fun _ _ => rfl) fun _ _ _ => rfl]
  rfl

theorem hitByBoth_traced (hd : OfPool D (some dense)) (hs : OfPool S (some sparse))
    (h : r ∈ hitByBoth dense sparse) : Traced D S r := by
  unfold hitByBoth at h
  obtain ⟨g, hg, hr⟩ := List.mem_filterMap.mp h
  obtain ⟨s, hfind, rfl⟩ := Option.map_eq_some_iff.mp hr
  obtain ⟨c, hc, hgc⟩ := hd.exists_from hg
  have hscore := hs.find?_uuid g.candidate.uuid
  rw [hfind] at hscore
  obtain ⟨s', hfind', hs'⟩ := Option.map_eq_some_iff.mp hscore.symm
  rw [hgc.uuid] at hfind'
  exact .allHit hc ⟨hgc.candidate, hgc.key⟩ hfind' rfl (congrArg some hgc.score)
    (congrArg some hs'.symm)

theorem hitByDense_traced (hd : OfPool D (some dense)) (hs : OfPool S (some sparse))
    (h : r ∈ hitByDense dense sparse) : Traced D S r := by
  unfold hitByDense at h
  obtain ⟨g, hg, rfl⟩ := List.mem_map.mp h
  obtain ⟨hg, hany⟩ := List.mem_filter.mp hg
  obtain ⟨c, hc, hgc⟩ := hd.exists_from hg
  have hlacks : c.uuid ∉ Candidate.uuids S := by
    rw [mem_uuids_iff hs, ← hgc.uuid]
    simpa using hany
  exact .onlyDense hc ⟨hgc.candidate, hgc.key⟩ hlacks rfl (congrArg some hgc.score)
    (congrArg some (filler_eq hs).symm)

theorem hitBySparse_traced (hd : OfPool D (some dense)) (hs : OfPool S (some sparse))
    (h : r ∈ hitBySparse dense sparse dense.rows) : Traced D S r := by
  unfold hitBySparse at h
  obtain ⟨g, hg, rfl⟩ := List.mem_map.mp h
  obtain ⟨hg, hany⟩ := List.mem_filter.mp hg
  obtain ⟨c, hc, hgc⟩ := hs.exists_from hg
  have hlacks : c.uuid ∉ Candidate.uuids D := by
    rw [mem_uuids_iff hd, ← hgc.uuid]
    simpa using hany
  exact .onlySparse hc ⟨hgc.candidate, hgc.key⟩ hlacks rfl (congrArg some (filler_eq hd).symm)
    (congrArg some hgc.score)

theorem denseAlone_traced (hd : OfPool D (some dense)) (h : r ∈ denseAlone dense) :
    Traced D [] r := by
  obtain ⟨g, hg, rfl⟩ := List.mem_map.mp h
  obtain ⟨c, hc, hgc⟩ := hd.exists_from hg
  exact .onlyDense hc ⟨hgc.candidate, hgc.key⟩ List.not_mem_nil rfl (congrArg some hgc.score) rfl

theorem sparseAlone_traced (hs : OfPool S (some sparse)) (h : r ∈ sparseAlone sparse) :
    Traced [] S r := by
  obtain ⟨g, hg, rfl⟩ := List.mem_map.mp h
  obtain ⟨c, hc, hgc⟩ := hs.exists_from hg
  exact .onlySparse hc ⟨hgc.candidate, hgc.key⟩ List.not_mem_nil rfl rfl (congrArg some hgc.score)

end Rows

/-- **The gathered rows are traced.** -/
theorem gathered_traced {dense sparse : Option (Channel σ)} (hd : OfPool D dense)
    (hs : OfPool S sparse) (h : r ∈ gathered dense sparse) : Traced D S r := by
  cases dense with
  | none =>
    obtain rfl := hd.eq_none_iff.mp rfl
    cases sparse with
    | none => exact absurd h List.not_mem_nil
    | some s => exact sparseAlone_traced hs h
  | some d =>
    cases sparse with
    | none =>
      obtain rfl := hs.eq_none_iff.mp rfl
      exact denseAlone_traced hd h
    | some s =>
      rw [gathered, join_eq hd.pairwise_key hd.uniform, List.mem_append, List.mem_append] at h
      rcases h with (h | h) | h
      · exact hitByBoth_traced hd hs h
      · exact hitByDense_traced hd hs h
      · exact hitBySparse_traced hd hs h

/-- **Scoring, ordering and settling keep rows traced.** -/
theorem tableOf_traced {config : FusionConfig σ} {dense sparse : Option (Channel σ)}
    (hd : OfPool D dense) (hs : OfPool S sparse) {table : FusedTable σ}
    (ht : tableOf (merge config dense sparse) = some table) (h : r ∈ table.rows) :
    Traced D S r := by
  obtain ⟨j, hj, heq, hkey⟩ := exists_joined ht h
  have hmd5 : r.document.md5 = j.md5 := (congrArg Prod.fst hkey).symm
  obtain ⟨g, hg, x, rfl⟩ := exists_of_mem_merge hj
  rw [heq]
  refine (gathered_traced hd hs hg).congr (fun c hgc => ?_) rfl rfl rfl
  exact Row.From.withDocument ⟨hgc.candidate, hgc.key⟩ hmd5

/-! ## What is read off a traced row -/

/-- The kind of the row is the kind of its uuid. -/
theorem Traced.kind (h : Traced D S r) :
    (r.hits = some .allHit ∧ r.candidate.uuid ∈ Candidate.uuids D ∧
      r.candidate.uuid ∈ Candidate.uuids S) ∨
    (r.hits = some .onlyDense ∧ r.candidate.uuid ∈ Candidate.uuids D ∧
      r.candidate.uuid ∉ Candidate.uuids S) ∨
    (r.hits = some .onlySparse ∧ r.candidate.uuid ∉ Candidate.uuids D ∧
      r.candidate.uuid ∈ Candidate.uuids S) := by
  cases h with
  | @allHit c s hc hrow hs hits =>
    have hfound := List.find?_some hs
    have huuid : s.uuid = c.uuid := beq_iff_eq.mp hfound
    rw [hrow.uuid]
    exact Or.inl ⟨hits, Candidate.mem_uuids hc,
      huuid ▸ Candidate.mem_uuids (List.mem_of_find?_eq_some hs)⟩
  | onlyDense hc hrow hlacks hits =>
    rw [hrow.uuid]
    exact Or.inr (Or.inl ⟨hits, Candidate.mem_uuids hc, hlacks⟩)
  | onlySparse hc hrow hlacks hits =>
    rw [hrow.uuid]
    exact Or.inr (Or.inr ⟨hits, hlacks, Candidate.mem_uuids hc⟩)

/-- A row comes from a candidate of the pools. -/
theorem Traced.exists_from (h : Traced D S r) : ∃ c ∈ D ++ S, r.From c := by
  cases h with
  | allHit hc hrow => exact ⟨_, List.mem_append_left S (Lists.mem_of_mem_distinctBy hc), hrow⟩
  | onlyDense hc hrow => exact ⟨_, List.mem_append_left S (Lists.mem_of_mem_distinctBy hc), hrow⟩
  | onlySparse hc hrow => exact ⟨_, List.mem_append_right D (Lists.mem_of_mem_distinctBy hc), hrow⟩

theorem Traced.exists_kind (h : Traced D S r) : ∃ kind, r.hits = some kind := by
  rcases h.kind with ⟨hits, -⟩ | ⟨hits, -⟩ | ⟨hits, -⟩
  all_goals exact ⟨_, hits⟩

theorem Traced.kind_iff (h : Traced D S r) :
    (r.hits = some .allHit ↔ r.candidate.uuid ∈ Candidate.uuids D ∧
      r.candidate.uuid ∈ Candidate.uuids S) ∧
    (r.hits = some .onlyDense ↔ r.candidate.uuid ∈ Candidate.uuids D ∧
      r.candidate.uuid ∉ Candidate.uuids S) ∧
    (r.hits = some .onlySparse ↔ r.candidate.uuid ∉ Candidate.uuids D ∧
      r.candidate.uuid ∈ Candidate.uuids S) := by
  rcases h.kind with ⟨hits, hD, hS⟩ | ⟨hits, hD, hS⟩ | ⟨hits, hD, hS⟩
  all_goals simp [hits, hD, hS]

/-- Both channel scores of the row are what its kind says. -/
structure Scored (D S : List (Candidate σ)) (r : Row σ) : Prop where
  /-- A hit of the dense channel is a candidate of its pool, and has its score. -/
  dense : ByDense r → ∃ c ∈ Candidate.firsts D, r.From c ∧ r.dense = some c.score
  /-- A hit of both has the score of the first sparse candidate of its uuid. -/
  both : r.hits = some .allHit →
    ∃ s, (Candidate.firsts S).find? (·.uuid == r.candidate.uuid) = some s ∧ r.sparse = some s.score
  /-- A hit of the sparse channel alone is a candidate of its pool, and has its score. -/
  sparse : r.hits = some .onlySparse → ∃ c ∈ Candidate.firsts S, r.From c ∧ r.sparse = some c.score
  /-- A channel that lacks the row stands in with the least score that it has. -/
  lacksSparse : S ≠ [] → r.hits = some .onlyDense →
    ∃ x, r.sparse = some x ∧ Score.Minimum (Candidate.scores S) x
  lacksDense : D ≠ [] → r.hits = some .onlySparse →
    ∃ x, r.dense = some x ∧ Score.Minimum (Candidate.scores D) x
  /-- A channel without hits stands in with -1, and every row is of the other one. -/
  noSparse : S = [] → r.hits = some .onlyDense ∧ r.sparse = some (-1.0)
  noDense : D = [] → r.hits = some .onlySparse ∧ r.dense = some (-1.0)

theorem filler_minimum [Score.LawfulOrder σ] (h : D ≠ []) :
    Score.Minimum (Candidate.scores D) (filler D) := by
  unfold filler
  rw [if_neg (mt List.isEmpty_iff.mp h)]
  exact Score.least_minimum _

theorem Traced.scored [Score.LawfulOrder σ] (h : Traced D S r) : Scored D S r := by
  cases h with
  | allHit hc hrow hs hits hdense hsparse =>
    constructor
    case dense => exact fun _ => ⟨_, hc, hrow, hdense⟩
    case both => exact fun _ => ⟨_, hrow.uuid ▸ hs, hsparse⟩
    case noSparse =>
      rintro rfl
      cases hs
    case noDense =>
      rintro rfl
      cases hc
    all_goals simp [hits]
  | onlyDense hc hrow hlacks hits hdense hsparse =>
    constructor
    case dense => exact fun _ => ⟨_, hc, hrow, hdense⟩
    case lacksSparse => exact fun hne _ => ⟨_, hsparse, filler_minimum hne⟩
    case noSparse =>
      rintro rfl
      exact ⟨hits, hsparse⟩
    case noDense =>
      rintro rfl
      cases hc
    all_goals simp [hits]
  | onlySparse hc hrow hlacks hits hdense hsparse =>
    constructor
    case sparse => exact fun _ => ⟨_, hc, hrow, hsparse⟩
    case lacksDense => exact fun hne _ => ⟨_, hdense, filler_minimum hne⟩
    case noSparse =>
      rintro rfl
      cases hc
    case noDense =>
      rintro rfl
      exact ⟨hits, hdense⟩
    all_goals simp [hits, ByDense]

/-! ## Tables -/

/-- The rows of the table tell which channels they came from. -/
structure Attributed (D S : List (Candidate σ)) (table : FusedTable σ) : Prop where
  allHit_iff : ∀ r ∈ table.rows, r.hits = some .allHit ↔
    r.candidate.uuid ∈ Candidate.uuids D ∧ r.candidate.uuid ∈ Candidate.uuids S
  onlyDense_iff : ∀ r ∈ table.rows, r.hits = some .onlyDense ↔
    r.candidate.uuid ∈ Candidate.uuids D ∧ r.candidate.uuid ∉ Candidate.uuids S
  onlySparse_iff : ∀ r ∈ table.rows, r.hits = some .onlySparse ↔
    r.candidate.uuid ∉ Candidate.uuids D ∧ r.candidate.uuid ∈ Candidate.uuids S
  scored : ∀ r ∈ table.rows, Scored D S r
  counted : ∀ kind,
    table.hitCounts.count kind = (table.rows.filter (·.hits == some kind)).length
  total : table.hitCounts.allHit + table.hitCounts.onlyDense + table.hitCounts.onlySparse =
    table.rows.length

theorem attributed_of_traced [Score.LawfulOrder σ] {rows : List (Row σ)}
    (h : ∀ r ∈ rows, Traced D S r) : Attributed D S (.ofRows rows) where
  allHit_iff r hr := (h r hr).kind_iff.1
  onlyDense_iff r hr := (h r hr).kind_iff.2.1
  onlySparse_iff r hr := (h r hr).kind_iff.2.2
  scored r hr := (h r hr).scored
  counted := HitCounts.count_ofRows _
  total := HitCounts.total_ofRows fun r hr => (h r hr).exists_kind

variable {m : Type → Type} [Monad m] [LawfulMonad m]

/-- **Every row of a fused table is traced.** -/
theorem fuse_traced (config : FusionConfig σ) (reranker : Reranker m σ) (turns : Turns)
    (query : String) (D S : List (Candidate σ)) :
    Ensures (fuse config reranker turns query D S).run fun result =>
      ∀ table, result = .ok table → table = .ofRows table.rows ∧
        ∀ r ∈ table.rows, Traced D S r := by
  refine (fuse_ensures config reranker turns query D S).imp fun result h table ht => ?_
  obtain ⟨d, s, hd, hs, htable⟩ := h table ht
  refine ⟨?_, fun r hr => tableOf_traced hd hs htable hr⟩
  obtain ⟨rows, -, rfl⟩ := tableOf_eq_some htable
  rfl

/-- **Rows tell which channels they came from**, and the counts are exact. -/
theorem fuse_attributed [Score.LawfulOrder σ] (config : FusionConfig σ) (reranker : Reranker m σ)
    (turns : Turns) (query : String) (D S : List (Candidate σ)) :
    Ensures (fuse config reranker turns query D S).run fun result =>
      ∀ table, result = .ok table → Attributed D S table := by
  refine (fuse_traced config reranker turns query D S).imp fun result h table ht => ?_
  obtain ⟨heq, htraced⟩ := h table ht
  rw [heq]
  exact attributed_of_traced htraced

/-- Two texts under one uuid, of which the sparse channel has neither, are hit by both channels. -/
theorem fuse_attributed_shared_uuid :
    ∃ table, (fuse .default (Reranker.flat 1.0) .atOnce "q"
        [sample "u" "A" "a" 1.0, sample "u" "A" "b" 1.0]
        [sample "u" "B" "b" 1.0, sample "v" "C" "c" 1.0]).run = (pure (.ok table) : Id _) ∧
      Attributed [sample "u" "A" "a" 1.0, sample "u" "A" "b" 1.0]
        [sample "u" "B" "b" 1.0, sample "v" "C" "c" 1.0] table ∧
      ∀ r ∈ table.rows, r.candidate.uuid = "u" → r.hits = some .allHit := by
  let D : List (Candidate Float) := [sample "u" "A" "a" 1.0, sample "u" "A" "b" 1.0]
  let S : List (Candidate Float) := [sample "u" "B" "b" 1.0, sample "v" "C" "c" 1.0]
  have hfew : D.length + S.length ≤ Lists.insertionLength := by decide
  obtain ⟨-, -, table, -, -, -, hok⟩ := Ensures.id_iff.mp
    (fuse_answers_few (Reranker.flat_answers (m := Id) 1.0) .default .atOnce "q" hfew)
  have h : Attributed D S table := Ensures.id_iff.mp (fuse_attributed .default _ .atOnce "q" D S)
    table hok
  refine ⟨table, hok, h, fun r hr huuid => (h.allHit_iff r hr).mpr ?_⟩
  rw [huuid]
  exact ⟨Candidate.head_mem_uuids _ _, Candidate.head_mem_uuids _ _⟩

end Fusion
end EvidenceRank
