import EvidenceRank.Proofs.Fusion.Channel

/-!
# Joined rows

`gathered` are the rows of the channels that there are, joined if there are two, before they are
given the score that they are ranked by; `merge` only fills that score in (`merge_eq`).

For channels of pools the settling in the middle of `join` changes nothing (`settle_hitByBoth`), so
a sparse row is left out exactly if its uuid is that of a dense row (`join_eq`).

Results:
* `mem_key_gathered`: the keys of the joined rows, in terms of the pools.
* `gathered_sourced`: which of the pools the key of a joined row is from.
* `gathered_pairwise`: the joined rows stand in the order of `JoinedBefore`: rows of both channels,
  rows of the dense one, rows of the sparse one, and each kind in the order of its pool.
-/

namespace EvidenceRank.Fusion

open Channel (OfPool)

variable {σ β : Type}

/-! ## Rows of two channels -/

/-- `x` is the row `r` with channel scores and the kind of its hit filled in. -/
structure Marks (kind : HitType) (r x : Row σ) : Prop where
  candidate : x.candidate = r.candidate
  textHash : x.textHash = r.textHash
  relevance : x.relevance = r.relevance
  hits : x.hits = some kind

theorem Marks.key {kind : HitType} {r x : Row σ} (h : Marks kind r x) : x.key = r.key := by
  unfold Row.key Row.md5
  rw [h.candidate, h.textHash]

theorem Marks.document {kind : HitType} {r x : Row σ} (h : Marks kind r x) :
    x.document = r.document := by
  unfold Row.document
  rw [h.candidate]

section Two

variable {dense sparse : Channel σ}

theorem exists_of_mem_hitByBoth {x : Row σ} (h : x ∈ hitByBoth dense sparse) :
    ∃ r ∈ dense.rows, Marks .allHit r x ∧
      ∃ s ∈ sparse.rows, s.candidate.uuid = r.candidate.uuid := by
  unfold hitByBoth at h
  obtain ⟨r, hr, hx⟩ := List.mem_filterMap.mp h
  obtain ⟨s, hs, rfl⟩ := Option.map_eq_some_iff.mp hx
  have huuid := List.find?_some hs
  exact ⟨r, hr, ⟨rfl, rfl, rfl, rfl⟩, s, List.mem_of_find?_eq_some hs, beq_iff_eq.mp huuid⟩

theorem exists_hitByBoth {r s : Row σ} (hr : r ∈ dense.rows) (hs : s ∈ sparse.rows)
    (h : s.candidate.uuid = r.candidate.uuid) :
    ∃ x ∈ hitByBoth dense sparse, Marks .allHit r x := by
  unfold hitByBoth
  cases hf : sparse.rows.find? (·.candidate.uuid == r.candidate.uuid) with
  | none => exact absurd (List.find?_eq_none.mp hf s hs) (by simp [h])
  | some first =>
    let x : Row σ :=
      { r with
        dense := some r.candidate.score
        sparse := some first.candidate.score
        hits := some .allHit }
    exact ⟨x, List.mem_filterMap.mpr ⟨r, hr, by rw [hf]; rfl⟩, ⟨rfl, rfl, rfl, rfl⟩⟩

theorem exists_of_mem_hitByDense {x : Row σ} (h : x ∈ hitByDense dense sparse) :
    ∃ r ∈ dense.rows, Marks .onlyDense r x := by
  unfold hitByDense at h
  obtain ⟨r, hr, rfl⟩ := List.mem_map.mp h
  exact ⟨r, (List.mem_filter.mp hr).1, ⟨rfl, rfl, rfl, rfl⟩⟩

theorem exists_hitByDense {r : Row σ} (hr : r ∈ dense.rows)
    (h : ∀ s ∈ sparse.rows, s.candidate.uuid ≠ r.candidate.uuid) :
    ∃ x ∈ hitByDense dense sparse, Marks .onlyDense r x := by
  unfold hitByDense
  refine ⟨_, List.mem_map.mpr ⟨r, List.mem_filter.mpr ⟨hr, ?_⟩, rfl⟩, ⟨rfl, rfl, rfl, rfl⟩⟩
  simpa using h

theorem exists_of_mem_hitBySparse {joined : List (Row σ)} {x : Row σ}
    (h : x ∈ hitBySparse dense sparse joined) : ∃ r ∈ sparse.rows, Marks .onlySparse r x ∧
      ∀ j ∈ joined, j.candidate.uuid ≠ r.candidate.uuid := by
  unfold hitBySparse at h
  obtain ⟨r, hr, rfl⟩ := List.mem_map.mp h
  obtain ⟨hr, hj⟩ := List.mem_filter.mp hr
  exact ⟨r, hr, ⟨rfl, rfl, rfl, rfl⟩, by simpa using hj⟩

theorem exists_hitBySparse (dense : Channel σ) {joined : List (Row σ)} {r : Row σ}
    (hr : r ∈ sparse.rows)
    (h : ∀ j ∈ joined, j.candidate.uuid ≠ r.candidate.uuid) :
    ∃ x ∈ hitBySparse dense sparse joined, Marks .onlySparse r x := by
  unfold hitBySparse
  refine ⟨_, List.mem_map.mpr ⟨r, List.mem_filter.mpr ⟨hr, ?_⟩, rfl⟩, ⟨rfl, rfl, rfl, rfl⟩⟩
  simpa using h

/-- What holds of the dense rows pairwise holds of those that both channels have. -/
theorem hitByBoth_pairwise {R S : Row σ → Row σ → Prop} (h : dense.rows.Pairwise R)
    (hS : ∀ {r s x y}, R r s → Marks .allHit r x → Marks .allHit s y → S x y) :
    (hitByBoth dense sparse).Pairwise S := by
  unfold hitByBoth
  refine h.filterMap _ fun r s hrs x hx y hy => ?_
  obtain ⟨_, -, rfl⟩ := Option.map_eq_some_iff.mp hx
  obtain ⟨_, -, rfl⟩ := Option.map_eq_some_iff.mp hy
  exact hS hrs ⟨rfl, rfl, rfl, rfl⟩ ⟨rfl, rfl, rfl, rfl⟩

theorem hitByDense_pairwise {R S : Row σ → Row σ → Prop} (h : dense.rows.Pairwise R)
    (hS : ∀ {r s x y}, R r s → Marks .onlyDense r x → Marks .onlyDense s y → S x y) :
    (hitByDense dense sparse).Pairwise S := by
  unfold hitByDense
  refine List.pairwise_map.mpr ((h.filter _).imp fun {r s} hrs => ?_)
  exact hS hrs ⟨rfl, rfl, rfl, rfl⟩ ⟨rfl, rfl, rfl, rfl⟩

theorem hitBySparse_pairwise {R S : Row σ → Row σ → Prop} (joined : List (Row σ))
    (h : sparse.rows.Pairwise R)
    (hS : ∀ {r s x y}, R r s → Marks .onlySparse r x → Marks .onlySparse s y → S x y) :
    (hitBySparse dense sparse joined).Pairwise S := by
  unfold hitBySparse
  refine List.pairwise_map.mpr ((h.filter _).imp fun {r s} hrs => ?_)
  exact hS hrs ⟨rfl, rfl, rfl, rfl⟩ ⟨rfl, rfl, rfl, rfl⟩

theorem hitByBoth_pairwise_key (hkeys : dense.rows.Pairwise fun r s => r.key ≠ s.key) :
    (hitByBoth dense sparse).Pairwise fun r s => r.key ≠ s.key :=
  hitByBoth_pairwise hkeys fun hrs hx hy => by
    rw [hx.key, hy.key]
    exact hrs

theorem hitByBoth_uniform (hu : Row.Uniform dense.rows) :
    Row.Uniform (hitByBoth dense sparse) := by
  intro x hx y hy hmd5
  obtain ⟨r, hr, hrx, -⟩ := exists_of_mem_hitByBoth hx
  obtain ⟨s, hs, hsy, -⟩ := exists_of_mem_hitByBoth hy
  rw [hrx.document, hsy.document]
  refine hu r hr s hs ?_
  unfold Row.md5 at hmd5 ⊢
  rw [← hrx.candidate, ← hsy.candidate]
  exact hmd5

/-- **The settling in the middle of a join changes nothing**: a channel's rows are settled, and so
are those of them that the other channel has too. -/
theorem settle_hitByBoth (hkeys : dense.rows.Pairwise fun r s => r.key ≠ s.key)
    (hu : Row.Uniform dense.rows) :
    Row.settle (hitByBoth dense sparse) = hitByBoth dense sparse :=
  Row.settle_eq_self (hitByBoth_pairwise_key hkeys) (hitByBoth_uniform hu)

/-- A sparse row is left out exactly if its uuid is that of a dense row. -/
theorem join_eq (hkeys : dense.rows.Pairwise fun r s => r.key ≠ s.key)
    (hu : Row.Uniform dense.rows) : join dense sparse =
      hitByBoth dense sparse ++ hitByDense dense sparse ++ hitBySparse dense sparse dense.rows := by
  unfold join
  simp only [settle_hitByBoth hkeys hu]
  congr 1
  unfold hitBySparse
  congr 1
  refine List.filter_congr fun r hr => congrArg (!·) ?_
  rw [Bool.eq_iff_iff, List.any_eq_true, List.any_eq_true]
  constructor
  · rintro ⟨x, hx, huuid⟩
    obtain ⟨d, hd, hdx, -⟩ := exists_of_mem_hitByBoth hx
    rw [hdx.candidate] at huuid
    exact ⟨d, hd, huuid⟩
  · rintro ⟨d, hd, huuid⟩
    obtain ⟨x, hx, hdx⟩ := exists_hitByBoth hd hr (beq_iff_eq.mp huuid).symm
    rw [← hdx.candidate] at huuid
    exact ⟨x, hx, huuid⟩

end Two

variable [Score σ]

/-! ## Scores, one for each row -/

theorem length_center (column : List σ) : (Column.center column).length = column.length := by
  unfold Column.center
  cases h : ColumnStats.ofScores? column with
  | none => rw [Channel.ofScores?_eq_none.mp h]
  | some stats => exact List.length_map _

theorem length_bothScores (config : FusionConfig σ) (rows : List (Row σ)) :
    (bothScores config rows).length = rows.length := by
  unfold bothScores
  cases config.method <;>
    simp only [List.length_zipWith, List.length_zip, length_center, denseColumn, sparseColumn,
      relevanceColumn, List.length_map, Nat.min_self]

theorem length_denseScores (config : FusionConfig σ) (stats : ColumnStats σ)
    (rows : List (Row σ)) : (denseScores config stats rows).length = rows.length := by
  unfold denseScores
  cases config.method <;>
    simp only [List.length_zipWith, length_center, Column.centerBy, Column.rescale, denseColumn,
      relevanceColumn, List.length_map, Nat.min_self]

theorem length_sparseScores (config : FusionConfig σ) (stats : ColumnStats σ)
    (rows : List (Row σ)) : (sparseScores config stats rows).length = rows.length := by
  unfold sparseScores
  cases config.method <;>
    simp only [List.length_zipWith, length_center, Column.centerBy, Column.standardizeBy,
      Column.rescale, sparseColumn, relevanceColumn, List.length_map, Nat.min_self]

/-! ## Rows before they are given a score -/

/-- The rows of whatever channels there are, before they are given a score. -/
def gathered : Option (Channel σ) → Option (Channel σ) → List (Row σ)
  | some dense, some sparse => join dense sparse
  | some dense, none => denseAlone dense
  | none, some sparse => sparseAlone sparse
  | none, none => []

omit [Score σ] in
theorem length_hits (dense sparse : Channel σ) :
    (hitByBoth dense sparse).length + (hitByDense dense sparse).length = dense.rows.length := by
  have hboth (r : Row σ) : ((sparse.rows.find? (·.candidate.uuid == r.candidate.uuid)).map fun s =>
      { r with
        dense := some r.candidate.score
        sparse := some s.candidate.score
        hits := some .allHit }).isSome =
      sparse.rows.any (·.candidate.uuid == r.candidate.uuid) := by
    rw [Option.isSome_map, List.isSome_find?]
  unfold hitByBoth hitByDense
  rw [List.length_filterMap_eq_countP, List.length_map, ← List.countP_eq_length_filter]
  simp only [hboth, List.length_eq_countP_add_countP fun r : Row σ =>
    sparse.rows.any (·.candidate.uuid == r.candidate.uuid), Bool.not_eq_true, Bool.decide_eq_false]

omit [Score σ] in
/-- Joining makes no more rows than there are. -/
theorem length_join_le (dense sparse : Channel σ) :
    (join dense sparse).length ≤ dense.rows.length + sparse.rows.length := by
  have hsettled := Row.length_settle_le (hitByBoth dense sparse)
  have hsparse : (hitBySparse dense sparse (Row.settle (hitByBoth dense sparse))).length ≤
      sparse.rows.length := by
    unfold hitBySparse
    rw [List.length_map]
    exact List.length_filter_le _ _
  have hdense := length_hits dense sparse
  simp only [join, List.length_append]
  omega

/-- The scores that gathered rows are ranked by. -/
def scoresOf (config : FusionConfig σ) :
    Option (Channel σ) → Option (Channel σ) → List (Row σ) → List σ
  | some _, some _, rows => bothScores config rows
  | some dense, none, rows => denseScores config dense.stats rows
  | none, some sparse, rows => sparseScores config sparse.stats rows
  | none, none, _ => []

theorem length_scoresOf (config : FusionConfig σ) (dense sparse : Option (Channel σ)) :
    (scoresOf config dense sparse (gathered dense sparse)).length =
      (gathered dense sparse).length := by
  cases dense with
  | none =>
    cases sparse with
    | none => rfl
    | some s => exact length_sparseScores config s.stats (sparseAlone s)
  | some d =>
    cases sparse with
    | none => exact length_denseScores config d.stats (denseAlone d)
    | some s => exact length_bothScores config (join d s)

/-- **Merging fills in one score for each gathered row.** -/
theorem merge_eq (config : FusionConfig σ) (dense sparse : Option (Channel σ)) :
    merge config dense sparse =
      withMerged (gathered dense sparse)
        (scoresOf config dense sparse (gathered dense sparse)) := by
  cases dense <;> cases sparse <;> rfl

theorem merge_eq_map {config : FusionConfig σ} {dense sparse : Option (Channel σ)}
    {score : Row σ → σ}
    (h : scoresOf config dense sparse (gathered dense sparse) = (gathered dense sparse).map score) :
    merge config dense sparse =
      (gathered dense sparse).map fun r => { r with merged := some (score r) } := by
  rw [merge_eq, h, withMerged, List.zipWith_map_right, List.zipWith_self]

/-- What the score does not change is the same before and after merging. -/
theorem map_merge {f : Row σ → β} (hf : ∀ r s, f { r with merged := s } = f r)
    (config : FusionConfig σ) (dense sparse : Option (Channel σ)) :
    (merge config dense sparse).map f = (gathered dense sparse).map f := by
  rw [merge_eq]
  exact Row.map_zipWith_update (fun r s => hf r (some s)) _ _ (length_scoresOf config dense sparse)

/-- Each merged row is a gathered one with a score. -/
theorem exists_of_mem_merge {config : FusionConfig σ} {dense sparse : Option (Channel σ)}
    {r : Row σ} (h : r ∈ merge config dense sparse) :
    ∃ g ∈ gathered dense sparse, ∃ x, r = { g with merged := some x } := by
  rw [merge_eq, withMerged, ← List.map_uncurry_zip_eq_zipWith] at h
  obtain ⟨⟨g, x⟩, hg, rfl⟩ := List.mem_map.mp h
  exact ⟨g, (List.of_mem_zip hg).1, x, rfl⟩

theorem merged_of_mem_merge {config : FusionConfig σ} {dense sparse : Option (Channel σ)}
    {r : Row σ} (h : r ∈ merge config dense sparse) : ∃ x, r.merged = some x := by
  obtain ⟨g, -, x, rfl⟩ := exists_of_mem_merge h
  exact ⟨x, rfl⟩

/-! ## Channels of pools -/

variable {D S : List (Candidate σ)} {dense sparse : Option (Channel σ)}

theorem mem_key_ofPool {c : Channel σ} (h : OfPool D (some c)) {k : String × String} :
    k ∈ c.rows.map Row.key ↔ k ∈ D.map Candidate.key := by
  rw [h.map_key]
  exact Lists.mem_map_distinctBy

/-- No more rows are gathered than the pools have candidates. -/
theorem length_gathered_le (hd : OfPool D dense) (hs : OfPool S sparse) :
    (gathered dense sparse).length ≤ D.length + S.length := by
  cases dense with
  | none =>
    cases sparse with
    | none => exact Nat.zero_le _
    | some s =>
      rw [gathered, sparseAlone, List.length_map]
      exact Nat.le_trans hs.length_le (Nat.le_add_left _ _)
  | some d =>
    cases sparse with
    | none =>
      rw [gathered, denseAlone, List.length_map]
      exact Nat.le_trans hd.length_le (Nat.le_add_right _ _)
    | some s => exact Nat.le_trans (length_join_le d s) (Nat.add_le_add hd.length_le hs.length_le)

/-- Each joined row is a row of one of the channels. -/
theorem exists_of_mem_join {d s : Channel σ} (hd : OfPool D (some d)) {x : Row σ}
    (hx : x ∈ join d s) : (∃ r ∈ d.rows, Marks .allHit r x) ∨ (∃ r ∈ d.rows, Marks .onlyDense r x) ∨
      ∃ r ∈ s.rows, Marks .onlySparse r x ∧ ∀ j ∈ d.rows, j.candidate.uuid ≠ r.candidate.uuid := by
  rw [join_eq hd.pairwise_key hd.uniform, List.append_assoc] at hx
  rcases List.mem_append.mp hx with hx | hx
  · obtain ⟨r, hr, hrx, -⟩ := exists_of_mem_hitByBoth hx
    exact Or.inl ⟨r, hr, hrx⟩
  · rcases List.mem_append.mp hx with hx | hx
    · exact Or.inr (Or.inl (exists_of_mem_hitByDense hx))
    · exact Or.inr (Or.inr (exists_of_mem_hitBySparse hx))

/-- The keys of joined rows are those of the dense rows, and of the sparse rows whose uuid no dense
row has. -/
theorem mem_key_join {d s : Channel σ} (hd : OfPool D (some d)) {k : String × String} :
    (∃ x ∈ join d s, x.key = k) ↔ (∃ r ∈ d.rows, r.key = k) ∨
      ∃ r ∈ s.rows, r.key = k ∧ ∀ j ∈ d.rows, j.candidate.uuid ≠ r.candidate.uuid := by
  constructor
  · rintro ⟨x, hx, rfl⟩
    rcases exists_of_mem_join hd hx with ⟨r, hr, hrx⟩ | ⟨r, hr, hrx⟩ | ⟨r, hr, hrx, hne⟩
    · exact Or.inl ⟨r, hr, hrx.key.symm⟩
    · exact Or.inl ⟨r, hr, hrx.key.symm⟩
    · exact Or.inr ⟨r, hr, hrx.key.symm, hne⟩
  · rw [join_eq hd.pairwise_key hd.uniform]
    rintro (⟨r, hr, rfl⟩ | ⟨r, hr, rfl, hne⟩)
    · by_cases h : ∃ s' ∈ s.rows, s'.candidate.uuid = r.candidate.uuid
      · obtain ⟨s', hs', huuid⟩ := h
        obtain ⟨x, hx, hrx⟩ := exists_hitByBoth hr hs' huuid
        exact ⟨x, List.mem_append_left _ (List.mem_append_left _ hx), hrx.key⟩
      · have hne : ∀ s' ∈ s.rows, s'.candidate.uuid ≠ r.candidate.uuid :=
          fun s' hs' e => h ⟨s', hs', e⟩
        obtain ⟨x, hx, hrx⟩ := exists_hitByDense hr hne
        exact ⟨x, List.mem_append_left _ (List.mem_append_right _ hx), hrx.key⟩
    · obtain ⟨x, hx, hrx⟩ := exists_hitBySparse d hr hne
      exact ⟨x, List.mem_append_right _ hx, hrx.key⟩

/-- **The keys of the gathered rows**: all of the dense pool, and those of the sparse candidates
that come first with their key and whose uuid is not that of a dense candidate that does. -/
theorem mem_key_gathered (hd : OfPool D dense) (hs : OfPool S sparse) {k : String × String} :
    k ∈ (gathered dense sparse).map Row.key ↔ k ∈ D.map Candidate.key ∨
      ∃ c ∈ Candidate.firsts S, c.key = k ∧ ∀ c' ∈ Candidate.firsts D, c'.uuid ≠ c.uuid := by
  have firsts_nil : Candidate.firsts ([] : List (Candidate σ)) = [] := rfl
  cases dense with
  | none =>
    obtain rfl := hd.eq_none_iff.mp rfl
    cases sparse with
    | none =>
      obtain rfl := hs.eq_none_iff.mp rfl
      simp [gathered, firsts_nil]
    | some s =>
      have hkeys : (sparseAlone s).map Row.key = s.rows.map Row.key := by
        unfold sparseAlone
        exact List.map_map
      rw [gathered, hkeys, hs.map_key, firsts_nil, List.mem_map]
      simp
  | some d =>
    cases sparse with
    | none =>
      obtain rfl := hs.eq_none_iff.mp rfl
      have hkeys : (denseAlone d).map Row.key = d.rows.map Row.key := by
        unfold denseAlone
        exact List.map_map
      rw [gathered, hkeys, mem_key_ofPool hd, firsts_nil]
      simp
    | some s =>
      rw [gathered, List.mem_map, mem_key_join hd, ← List.mem_map, mem_key_ofPool hd]
      refine or_congr_right ⟨?_, ?_⟩
      · rintro ⟨r, hr, rfl, hne⟩
        obtain ⟨c, hc, hkey, huuid⟩ := hs.exists_candidate hr
        refine ⟨c, hc, hkey, fun c' hc' heq => ?_⟩
        obtain ⟨j, hj, -, hj'⟩ := hd.exists_row hc'
        exact hne j hj (by rw [hj', heq, huuid])
      · rintro ⟨c, hc, rfl, hne⟩
        obtain ⟨r, hr, hkey, huuid⟩ := hs.exists_row hc
        refine ⟨r, hr, hkey, fun j hj heq => ?_⟩
        obtain ⟨c', hc', -, hj'⟩ := hd.exists_candidate hj
        exact hne c' hc' (by rw [hj', heq, huuid])

/-! ## Where joined rows come from -/

/-- The row is a hit of the dense channel, alone or with the sparse one. -/
def ByDense (r : Row σ) : Prop := r.hits = some .allHit ∨ r.hits = some .onlyDense

/-- A hit of the dense channel has a key of the dense pool, and any other row is a hit of the sparse
channel alone and has a key of the sparse pool. -/
def Sourced (D S : List (Candidate σ)) (r : Row σ) : Prop :=
  ByDense r ∧ r.key ∈ D.map Candidate.key ∨
    r.hits = some .onlySparse ∧ r.key ∈ S.map Candidate.key

omit [Score σ] in
theorem Sourced.congr {a b : Row σ} (h : Sourced D S a) (hhits : b.hits = a.hits)
    (hkey : b.key = a.key) : Sourced D S b := by
  unfold Sourced ByDense at h ⊢
  rw [hhits, hkey]
  exact h

theorem Marks.mem_key {c : Channel σ} {kind : HitType} {r x : Row σ} (h : Marks kind r x)
    (hc : OfPool D (some c)) (hr : r ∈ c.rows) : x.key ∈ D.map Candidate.key := by
  rw [h.key]
  exact (mem_key_ofPool hc).mp (List.mem_map.mpr ⟨r, hr, rfl⟩)

theorem gathered_sourced (hd : OfPool D dense) (hs : OfPool S sparse) {x : Row σ}
    (hx : x ∈ gathered dense sparse) : Sourced D S x := by
  unfold Sourced ByDense
  cases dense with
  | none =>
    cases sparse with
    | none => exact absurd hx List.not_mem_nil
    | some s =>
      obtain ⟨r, hr, rfl⟩ := List.mem_map.mp hx
      exact Or.inr ⟨rfl, (mem_key_ofPool hs).mp (List.mem_map.mpr ⟨r, hr, rfl⟩)⟩
  | some d =>
    cases sparse with
    | none =>
      obtain ⟨r, hr, rfl⟩ := List.mem_map.mp hx
      exact Or.inl ⟨Or.inr rfl, (mem_key_ofPool hd).mp (List.mem_map.mpr ⟨r, hr, rfl⟩)⟩
    | some s =>
      rcases exists_of_mem_join hd hx with ⟨r, hr, hrx⟩ | ⟨r, hr, hrx⟩ | ⟨r, hr, hrx, -⟩
      · exact Or.inl ⟨Or.inl hrx.hits, hrx.mem_key hd hr⟩
      · exact Or.inl ⟨Or.inr hrx.hits, hrx.mem_key hd hr⟩
      · exact Or.inr ⟨hrx.hits, hrx.mem_key hs hr⟩

/-! ## The order of joined rows -/

/-- Where a row comes among the joined rows: by the kind of its hit, then by where its key comes in
the pool that the row was taken from. -/
def place (D S : List (Candidate σ)) (r : Row σ) : Nat × Nat :=
  match r.hits with
  | some .allHit => (0, (D.map Candidate.key).idxOf r.key)
  | some .onlyDense => (1, (D.map Candidate.key).idxOf r.key)
  | some .onlySparse => (2, (S.map Candidate.key).idxOf r.key)
  | none => (3, 0)

/-- Rows of both channels come first, then those of the dense one, then those of the sparse one,
and rows of one kind as in their pool. -/
def JoinedBefore (D S : List (Candidate σ)) (a b : Row σ) : Prop :=
  (place D S a).1 < (place D S b).1 ∨
    (place D S a).1 = (place D S b).1 ∧ (place D S a).2 < (place D S b).2

omit [Score σ] in
theorem place_congr {a b : Row σ} (hhits : a.hits = b.hits) (hkey : a.key = b.key) :
    place D S a = place D S b := by
  unfold place
  rw [hhits, hkey]

omit [Score σ] in
theorem JoinedBefore.congr {a b a' b' : Row σ} (h : JoinedBefore D S a b)
    (ha : place D S a' = place D S a) (hb : place D S b' = place D S b) :
    JoinedBefore D S a' b' := by
  unfold JoinedBefore at h ⊢
  rw [ha, hb]
  exact h

omit [Score σ] in
theorem byDense_iff {r : Row σ} : ByDense r ↔ (place D S r).1 ≤ 1 := by
  unfold ByDense place
  cases h : r.hits with
  | none => simp
  | some kind => cases kind <;> simp

omit [Score σ] in
theorem Marks.place_allHit {r x : Row σ} (h : Marks .allHit r x) :
    place D S x = (0, (D.map Candidate.key).idxOf r.key) := by
  unfold place
  rw [h.hits, h.key]

omit [Score σ] in
theorem Marks.place_onlyDense {r x : Row σ} (h : Marks .onlyDense r x) :
    place D S x = (1, (D.map Candidate.key).idxOf r.key) := by
  unfold place
  rw [h.hits, h.key]

omit [Score σ] in
theorem Marks.place_onlySparse {r x : Row σ} (h : Marks .onlySparse r x) :
    place D S x = (2, (S.map Candidate.key).idxOf r.key) := by
  unfold place
  rw [h.hits, h.key]

theorem join_pairwise {d s : Channel σ} (hd : OfPool D (some d)) (hs : OfPool S (some s)) :
    (join d s).Pairwise (JoinedBefore D S) := by
  rw [join_eq hd.pairwise_key hd.uniform, List.pairwise_append, List.pairwise_append]
  unfold JoinedBefore
  refine ⟨⟨?_, ?_, fun x hx y hy => Or.inl ?_⟩, ?_, fun x hx y hy => Or.inl ?_⟩
  · refine hitByBoth_pairwise hd.pairwise_idxOf fun hlt hx hy => Or.inr ?_
    rw [hx.place_allHit, hy.place_allHit]
    exact ⟨rfl, hlt⟩
  · refine hitByDense_pairwise hd.pairwise_idxOf fun hlt hx hy => Or.inr ?_
    rw [hx.place_onlyDense, hy.place_onlyDense]
    exact ⟨rfl, hlt⟩
  · obtain ⟨_, -, hx, -⟩ := exists_of_mem_hitByBoth hx
    obtain ⟨_, -, hy⟩ := exists_of_mem_hitByDense hy
    rw [hx.place_allHit, hy.place_onlyDense]
    exact Nat.zero_lt_one
  · refine hitBySparse_pairwise _ hs.pairwise_idxOf fun hlt hx hy => Or.inr ?_
    rw [hx.place_onlySparse, hy.place_onlySparse]
    exact ⟨rfl, hlt⟩
  · obtain ⟨_, -, hy, -⟩ := exists_of_mem_hitBySparse hy
    rw [hy.place_onlySparse]
    rcases List.mem_append.mp hx with hx | hx
    · obtain ⟨_, -, hx, -⟩ := exists_of_mem_hitByBoth hx
      rw [hx.place_allHit]
      exact Nat.zero_lt_two
    · obtain ⟨_, -, hx⟩ := exists_of_mem_hitByDense hx
      rw [hx.place_onlyDense]
      exact Nat.one_lt_two

/-- **The gathered rows stand in the order of their places.** -/
theorem gathered_pairwise (hd : OfPool D dense) (hs : OfPool S sparse) :
    (gathered dense sparse).Pairwise (JoinedBefore D S) := by
  cases dense with
  | none =>
    cases sparse with
    | none => exact List.Pairwise.nil
    | some s => exact List.pairwise_map.mpr (hs.pairwise_idxOf.imp fun hlt => Or.inr ⟨rfl, hlt⟩)
  | some d =>
    cases sparse with
    | none => exact List.pairwise_map.mpr (hd.pairwise_idxOf.imp fun hlt => Or.inr ⟨rfl, hlt⟩)
    | some s => exact join_pairwise hd hs

end EvidenceRank.Fusion
