import EvidenceRank.Proofs.Fusion.Disorder
import EvidenceRank.Proofs.Score.Order

/-!
# The fused table

What fusion makes of the rows that it joins. Ordering permutes them, sharing identities keeps their
keys, and dropping repeats keeps the first row of each key, so no key is lost, and what is kept for
a key is its best row.

There is no table where the rows have no order. That takes a score that is no number and more rows
than are ordered by insertion, and with both it does happen (`unorderable`).

Results:
* `fuse_keys`: with a reranker that answers there is a table, unless the joined rows have no order;
  no key is in it twice, and its keys are those of the dense pool with those of the sparse
  candidates that no dense one stands for.
* `fuse_bestFirst`: where every score is a number, there is a table and it is `BestFirst`: in
  descending order, ties in the order of the join, and each key held by the best of its joined rows.
-/

namespace EvidenceRank

variable {σ : Type} [Score σ]

namespace Row

/-! ## Comparing rows -/

/-- Every score that a row is ranked by is a number. -/
def Numbered (rows : List (Row σ)) : Prop :=
  ∀ r ∈ rows, ∀ x, r.merged = some x → Score.isNaN x = false

/-- Both rows have a score, and `a` scores at least as much as `b`. -/
def AtLeast (a b : Row σ) : Prop :=
  ∃ x y, a.merged = some x ∧ b.merged = some y ∧ Score.le y x = true

/-- Both rows have a score, and it is the same. -/
def Tied (a b : Row σ) : Prop :=
  ∃ x y, a.merged = some x ∧ b.merged = some y ∧ Score.same x y = true

theorem numbered_iff {rows : List (Row σ)} :
    Numbered rows ↔ rows.all (fun r => !r.merged.any Score.isNaN) = true := by
  unfold Numbered
  rw [List.all_eq_true]
  refine forall_congr' fun r => imp_congr_right fun _ => ?_
  cases r.merged <;> simp

theorem ranked_perm : Lists.Permutes (ranked (σ := σ)) := Lists.rankScores_perm _ _ _

/-- Rows have no order only if there are many and some score is no number. -/
theorem of_ranked_eq_none {rows : List (Row σ)} (h : ranked rows = none) :
    Lists.insertionLength < rows.length ∧ ¬ Numbered rows := by
  obtain ⟨hlong, r, hr, hnumber⟩ := Lists.rankScores_eq_none h
  refine ⟨hlong, fun hnum => ?_⟩
  rw [List.all_eq_true.mp (numbered_iff.mp hnum) r hr] at hnumber
  cases hnumber

/-- Rows that score numbers do have an order. -/
theorem ranked_of_numbered {rows : List (Row σ)} (h : Numbered rows) :
    ranked rows = some (Lists.rankBy ahead rows) :=
  Lists.rankScores_of_numbers (List.all_eq_true.mp (numbered_iff.mp h)) _ _

variable [Score.LawfulOrder σ] {rows : List (Row σ)}

/-- Rows that score numbers are weakly ordered. -/
theorem ahead_weaklyOrders (h : Numbered rows) : Lists.WeaklyOrders ahead rows where
  asymm a _ b _ hab := by
    unfold ahead at hab ⊢
    cases ha : a.merged with
    | none => rw [ha] at hab; exact absurd hab Bool.false_ne_true
    | some x =>
      cases hb : b.merged with
      | none => rfl
      | some y =>
        rw [ha, hb] at hab
        exact Score.LawfulOrder.lt_asymm hab
  cotrans a _ b hb c _ hac := by
    unfold ahead at hac ⊢
    cases ha : a.merged with
    | none => rw [ha] at hac; exact absurd hac Bool.false_ne_true
    | some x =>
      cases hbm : b.merged with
      | none => exact Or.inl rfl
      | some y =>
        cases hc : c.merged with
        | none => exact Or.inr rfl
        | some z =>
          rw [ha, hc] at hac
          exact (Score.LawfulOrder.lt_cotrans (h b hb y hbm) hac).symm

/-- **Ranking is stable**: rows that score alike keep the order `P`. -/
theorem ranked_pairwise (h : Numbered rows) {P : Row σ → Row σ → Prop} (hP : rows.Pairwise P)
    {inOrder : List (Row σ)} (horder : ranked rows = some inOrder) :
    inOrder.Pairwise (Lists.Leads ahead P) := by
  rw [ranked_of_numbered h] at horder
  rw [← Option.some.inj horder]
  exact Lists.rankBy_pairwise (ahead_weaklyOrders h) hP

/-- A row that may stand ahead of another scores at least as much. -/
theorem atLeast_of_leads {P : Row σ → Row σ → Prop} (h : Numbered rows) {a b : Row σ}
    (ha : a ∈ rows) (hb : b ∈ rows) (hscored : ∀ r ∈ rows, ∃ x, r.merged = some x)
    (hlead : Lists.Leads ahead P a b) : a.AtLeast b := by
  obtain ⟨x, hx⟩ := hscored a ha
  obtain ⟨y, hy⟩ := hscored b hb
  have hbelow : Score.lt x y = false := by
    unfold Lists.Leads ahead at hlead
    rw [hx, hy] at hlead
    rcases hlead with hlt | ⟨hlt, -⟩
    · exact Score.LawfulOrder.lt_asymm hlt
    · exact hlt
  exact ⟨x, y, hx, hy, Score.LawfulOrder.le_iff.mpr ⟨h b hb y hy, h a ha x hx, hbelow⟩⟩

/-- A row scores at least as much as itself. -/
theorem atLeast_self (h : Numbered rows) {a : Row σ} (ha : a ∈ rows)
    (hscored : ∀ r ∈ rows, ∃ x, r.merged = some x) : a.AtLeast a :=
  atLeast_of_leads (P := fun _ _ => True) h ha ha hscored
    ((Bool.eq_false_or_eq_true _).imp id fun hself => ⟨hself, trivial⟩)

/-- Of rows that tie the one ahead stands there by `P`. -/
theorem Tied.of_leads {P : Row σ → Row σ → Prop} {a b : Row σ} (h : a.Tied b)
    (hlead : Lists.Leads ahead P a b) : P a b := by
  obtain ⟨x, y, hx, hy, hsame⟩ := h
  obtain ⟨-, -, -, hnot⟩ := Score.LawfulOrder.same_iff.mp hsame
  rcases hlead with hlt | ⟨-, hP⟩
  · unfold ahead at hlt
    rw [hx, hy] at hlt
    exact absurd (hlt.symm.trans hnot) Bool.true_eq_false.mp
  · exact hP

end Row

namespace Fusion

variable {m : Type → Type} [Monad m] {D S : List (Candidate σ)} {joined : List (Row σ)}
  {table : FusedTable σ}

/-- Rows that score numbers do have a table. -/
theorem exists_tableOf (h : Row.Numbered joined) : ∃ table, tableOf joined = some table := by
  rw [tableOf, Row.ranked_of_numbered h]
  exact ⟨_, rfl⟩

/-- Few rows have a table, whatever they score. -/
theorem exists_tableOf_few (h : joined.length ≤ Lists.insertionLength) :
    ∃ table, tableOf joined = some table := by
  cases ht : tableOf joined with
  | none => exact absurd (Row.of_ranked_eq_none (tableOf_eq_none.mp ht)).1 (Nat.not_lt.mpr h)
  | some table => exact ⟨table, rfl⟩

theorem length_merge_le {config : FusionConfig σ} {d s : Option (Channel σ)}
    (hd : Channel.OfPool D d) (hs : Channel.OfPool S s) :
    (merge config d s).length ≤ D.length + S.length := by
  have h := congrArg List.length (map_merge (f := Row.key) (fun _ _ => rfl) config d s)
  rw [List.length_map, List.length_map] at h
  exact h ▸ length_gathered_le hd hs

/-- **Pools with few candidates have a table** with a reranker that answers. -/
theorem fuse_answers_few [LawfulMonad m] {reranker : Reranker m σ} (hr : reranker.Answers)
    (config : FusionConfig σ) (turns : Turns) (query : String)
    (hfew : D.length + S.length ≤ Lists.insertionLength) :
    Ensures (fuse config reranker turns query D S).run fun result =>
      ∃ d s table, Channel.OfPool D d ∧ Channel.OfPool S s ∧
        tableOf (merge config d s) = some table ∧ result = .ok table := by
  refine (fuse_answers hr config turns query D S).imp fun result h => ?_
  obtain ⟨d, s, hd, hs, rfl⟩ := h
  obtain ⟨table, ht⟩ := exists_tableOf_few (Nat.le_trans (length_merge_le hd hs) hfew)
  exact ⟨d, s, table, hd, hs, ht, congrArg Halt.ordered ht⟩

/-! ## Keys -/

theorem mem_key_tableOf (ht : tableOf joined = some table) {k : String × String} :
    k ∈ table.rows.map Row.key ↔ k ∈ joined.map Row.key := by
  obtain ⟨rows, hrows, rfl⟩ := tableOf_eq_some ht
  unfold FusedTable.ofRows
  rw [Row.mem_map_key_settle]
  exact ((Row.ranked_perm hrows).map Row.key).mem_iff

theorem mem_key_merge {config : FusionConfig σ} {d s : Option (Channel σ)} {k : String × String} :
    k ∈ (merge config d s).map Row.key ↔ k ∈ (gathered d s).map Row.key := by
  rw [map_merge fun _ _ => rfl]

/-- Every key of the dense pool has a row. -/
theorem exists_row_of_dense {config : FusionConfig σ} {d s : Option (Channel σ)}
    (hd : Channel.OfPool D d) (hs : Channel.OfPool S s)
    (ht : tableOf (merge config d s) = some table) {k : String × String}
    (hk : k ∈ D.map Candidate.key) : ∃ r ∈ table.rows, r.key = k := by
  have hgathered := (mem_key_gathered hd hs).mpr (Or.inl hk)
  exact List.mem_map.mp ((mem_key_tableOf ht).mpr (mem_key_merge.mpr hgathered))

omit [Score σ] in
/-- Where a uuid names one key, no sparse candidate is left out but for one of its key. -/
theorem mem_keys_of_uuids_agree
    (h : ∀ c ∈ D ++ S, ∀ c' ∈ D ++ S, c.uuid = c'.uuid → c.key = c'.key) {k : String × String} :
    (k ∈ D.map Candidate.key ∨ ∃ c ∈ Candidate.firsts S, c.key = k ∧
      ∀ c' ∈ Candidate.firsts D, c'.uuid ≠ c.uuid) ↔ k ∈ (D ++ S).map Candidate.key := by
  rw [List.map_append, List.mem_append]
  constructor
  · rintro (hk | ⟨c, hc, rfl, -⟩)
    · exact Or.inl hk
    · exact Or.inr (List.mem_map.mpr ⟨c, Lists.mem_of_mem_distinctBy hc, rfl⟩)
  · rintro (hk | hk)
    · exact Or.inl hk
    · rw [← Lists.mem_map_distinctBy] at hk
      obtain ⟨c, hc, rfl⟩ := List.mem_map.mp hk
      by_cases hne : ∀ c' ∈ Candidate.firsts D, c'.uuid ≠ c.uuid
      · exact Or.inr ⟨c, hc, rfl, hne⟩
      · obtain ⟨c', hc', heq⟩ : ∃ c' ∈ Candidate.firsts D, c'.uuid = c.uuid := by
          simpa using hne
        have hcS := List.mem_append_right D (Lists.mem_of_mem_distinctBy hc)
        have hcD := Lists.mem_of_mem_distinctBy hc'
        refine Or.inl (List.mem_map.mpr ⟨c', hcD, ?_⟩)
        exact h c' (List.mem_append_left S hcD) c hcS heq

/-- **Fusion neither repeats, invents nor loses a slice**, as long as its rows have an order. -/
theorem fuse_keys [LawfulMonad m] {reranker : Reranker m σ} (hr : reranker.Answers)
    (config : FusionConfig σ) (turns : Turns) (query : String) (D S : List (Candidate σ)) :
    fuse config reranker turns query D S =
        tableFrom (joinedRows config reranker turns query D S) ∧
      Ensures (joinedRows config reranker turns query D S).run fun result =>
        ∃ joined, result = .ok joined ∧ joined.length ≤ D.length + S.length ∧
          (tableOf joined = none → Lists.insertionLength < joined.length ∧ ¬ Row.Numbered joined) ∧
          ∀ table, tableOf joined = some table → (table.rows.map Row.key).Nodup ∧
            (∀ k, k ∈ table.rows.map Row.key ↔ k ∈ D.map Candidate.key ∨
              ∃ c ∈ Candidate.firsts S, c.key = k ∧
                ∀ c' ∈ Candidate.firsts D, c'.uuid ≠ c.uuid) ∧
            ((∀ c ∈ D ++ S, ∀ c' ∈ D ++ S, c.uuid = c'.uuid → c.key = c'.key) →
              ∀ k, k ∈ table.rows.map Row.key ↔ k ∈ (D ++ S).map Candidate.key) := by
  refine ⟨fuse_eq_tableFrom config reranker turns query D S, ?_⟩
  refine (joinedRows_answers hr config turns query D S).imp fun result hj => ?_
  obtain ⟨d, s, hd, hs, rfl⟩ := hj
  refine ⟨_, rfl, length_merge_le hd hs,
    fun hnone => Row.of_ranked_eq_none (tableOf_eq_none.mp hnone), fun table ht => ?_⟩
  have hmem : ∀ k, k ∈ table.rows.map Row.key ↔ k ∈ D.map Candidate.key ∨
      ∃ c ∈ Candidate.firsts S, c.key = k ∧ ∀ c' ∈ Candidate.firsts D, c'.uuid ≠ c.uuid := by
    intro k
    rw [mem_key_tableOf ht, mem_key_merge]
    exact mem_key_gathered hd hs
  obtain ⟨rows, -, rfl⟩ := tableOf_eq_some ht
  refine ⟨?_, hmem, fun h k => (hmem k).trans (mem_keys_of_uuids_agree h)⟩
  exact List.pairwise_map.mpr (Row.settle_pairwise_key rows)

/-- A sparse candidate with the uuid of a dense one is left out, even with a key of its own. -/
theorem fuse_keys_shared_uuid :
    ∃ joined table, (joinedRows .default (Reranker.flat 1.0) .atOnce "q" [sample "u" "A" "a" 1.0]
        [sample "u" "B" "b" 1.0, sample "v" "C" "c" 1.0]).run = (pure (.ok joined) : Id _) ∧
      tableOf joined = some table ∧ (table.rows.map Row.key).Nodup ∧
      ∀ k, k ∈ table.rows.map Row.key ↔
        k = (sample "u" "A" "a" 1.0).key ∨ k = (sample "v" "C" "c" 1.0).key := by
  obtain ⟨joined, hok, hlen, hnone, hsome⟩ := Ensures.id_iff.mp (fuse_keys
    (Reranker.flat_answers (m := Id) 1.0) .default .atOnce "q" [sample "u" "A" "a" 1.0]
    [sample "u" "B" "b" 1.0, sample "v" "C" "c" 1.0]).2
  cases ht : tableOf joined with
  | none => exact absurd (Nat.lt_of_lt_of_le (hnone ht).1 hlen) (by decide)
  | some table =>
    obtain ⟨hnodup, hkeys, -⟩ := hsome table ht
    have hS : Candidate.firsts [sample "u" "B" "b" 1.0, sample "v" "C" "c" 1.0] =
        [sample "u" "B" "b" 1.0, sample "v" "C" "c" 1.0] := by
      refine Lists.distinctBy_eq_self ?_
      simp [Candidate.key, sample]
    have hD : Candidate.firsts [sample "u" "A" "a" 1.0] = [sample "u" "A" "a" 1.0] := rfl
    refine ⟨joined, table, hok, ht, hnodup, fun k => ?_⟩
    rw [hkeys, hS, hD]
    simp [sample, eq_comm]

/-- A reranker that answers with one score per text leaves 21 slices without a table. -/
theorem fuse_keys_unorderable :
    (Reranker.placed (m := Id) unorderable).Answers ∧
      (fuse { FusionConfig.default with method := .relevance } (Reranker.placed unorderable)
        .atOnce "q" slices []).run = (pure (.error .disordered) : Id _) :=
  ⟨Reranker.placed_answers _, fuse_unorderable rfl (congrArg List.length firsts_slices) .atOnce "q"⟩

/-- Each row of a table is a joined one of its key, but for the identity of its document. -/
theorem exists_joined (ht : tableOf joined = some table) {r : Row σ} (hr : r ∈ table.rows) :
    ∃ j ∈ joined, r = j.withDocument r.document ∧ j.key = r.key := by
  obtain ⟨rows, hrows, rfl⟩ := tableOf_eq_some ht
  have htrue : rows.Pairwise fun _ _ => True := List.pairwise_of_forall fun _ _ => trivial
  obtain ⟨j, hj, heq, hkey, -⟩ := Row.settle_first htrue hr
  exact ⟨j, (Row.ranked_perm hrows).mem_iff.mp hj, heq, hkey⟩

/-! ## Order -/

/-- The table is the best-first table of the joined rows. -/
structure BestFirst (D S : List (Candidate σ)) (joined rows : List (Row σ)) : Prop where
  sourced : ∀ r ∈ rows, Sourced D S r
  scored : ∀ r ∈ rows, ∃ x, r.merged = some x
  descending : rows.Pairwise Row.AtLeast
  /-- Rows that tie keep the order of the joined rows. -/
  ties : rows.Pairwise fun a b => a.Tied b → JoinedBefore D S a b
  covered : ∀ s ∈ joined, ∃ r ∈ rows, r.key = s.key
  unique : rows.Pairwise fun a b => a.key ≠ b.key
  /-- A row is a joined one but for the identity of its document, no joined row of its key scores
  more, and those that score the same come later. -/
  best : ∀ r ∈ rows, ∃ j ∈ joined, r = j.withDocument r.document ∧ j.key = r.key ∧
    ∀ s ∈ joined, s.key = r.key →
      r.AtLeast s ∧ (s = j ∨ (r.Tied s → JoinedBefore D S r s))
  dense_survives : ∀ r ∈ rows, ∀ s ∈ joined, s.key = r.key → r.Tied s → ByDense s → ByDense r

/-- Giving the joined rows a score does not move them. -/
theorem merge_pairwise {config : FusionConfig σ} {d s : Option (Channel σ)}
    (hd : Channel.OfPool D d) (hs : Channel.OfPool S s) :
    (merge config d s).Pairwise (JoinedBefore D S) := by
  have h : ((gathered d s).map (place D S)).Pairwise fun p q =>
      p.1 < q.1 ∨ p.1 = q.1 ∧ p.2 < q.2 := List.pairwise_map.mpr (gathered_pairwise hd hs)
  rw [← map_merge (f := place D S) (fun _ _ => rfl) config, List.pairwise_map] at h
  exact h

theorem merge_sourced {config : FusionConfig σ} {d s : Option (Channel σ)}
    (hd : Channel.OfPool D d) (hs : Channel.OfPool S s) {x : Row σ} (hx : x ∈ merge config d s) :
    Sourced D S x := by
  have hmem : (x.hits, x.key) ∈ (merge config d s).map fun r => (r.hits, r.key) :=
    List.mem_map.mpr ⟨x, hx, rfl⟩
  rw [map_merge fun _ _ => rfl] at hmem
  obtain ⟨y, hy, heq⟩ := List.mem_map.mp hmem
  obtain ⟨hhits, hkey⟩ := Prod.mk.inj heq
  exact (gathered_sourced hd hs hy).congr hhits.symm hkey.symm

variable [Score.LawfulOrder σ]

/-- **The row that is left for a key is the best of its joined rows**, and the first of those that
tie with it. -/
theorem exists_best (hnum : Row.Numbered joined)
    (hscored : ∀ r ∈ joined, ∃ x, r.merged = some x) (hplaced : joined.Pairwise (JoinedBefore D S))
    (ht : tableOf joined = some table) {r : Row σ} (hr : r ∈ table.rows) :
    ∃ j ∈ joined, r = j.withDocument r.document ∧ j.key = r.key ∧
      ∀ s ∈ joined, s.key = r.key →
        r.AtLeast s ∧ (s = j ∨ (r.Tied s → JoinedBefore D S r s)) := by
  obtain ⟨rows, hrows, rfl⟩ := tableOf_eq_some ht
  have hmem : ∀ {r}, r ∈ rows ↔ r ∈ joined := (Row.ranked_perm hrows).mem_iff
  obtain ⟨j, hj, heq, hkey, hfirst⟩ :=
    Row.settle_first (Row.ranked_pairwise hnum hplaced hrows) hr
  refine ⟨j, hmem.mp hj, heq, hkey, fun s hs hsr => ?_⟩
  rw [heq]
  rcases hfirst s (hmem.mpr hs) hsr with rfl | hjs
  · have hatLeast : s.AtLeast s := Row.atLeast_self hnum hs hscored
    exact ⟨hatLeast, Or.inl rfl⟩
  · have hatLeast : j.AtLeast s := Row.atLeast_of_leads hnum (hmem.mp hj) hs hscored hjs
    refine ⟨hatLeast, Or.inr fun htie => ?_⟩
    have hbefore : JoinedBefore D S j s := Row.Tied.of_leads htie hjs
    refine hbefore.congr (place_congr rfl ?_) rfl
    rw [← heq, hkey]

/-- What ordering and settling make of rows that score numbers and stand by their places. -/
theorem tableOf_bestFirst (hnum : Row.Numbered joined)
    (hscored : ∀ r ∈ joined, ∃ x, r.merged = some x) (hsourced : ∀ r ∈ joined, Sourced D S r)
    (hplaced : joined.Pairwise (JoinedBefore D S)) (ht : tableOf joined = some table) :
    BestFirst D S joined table.rows := by
  have hbest := fun r (hr : r ∈ table.rows) => exists_best hnum hscored hplaced ht hr
  have hkeys := fun k => mem_key_tableOf (k := k) ht
  obtain ⟨rows, hrows, rfl⟩ := tableOf_eq_some ht
  have hlead := Row.ranked_pairwise hnum hplaced hrows
  constructor
  case sourced =>
    intro r hr
    obtain ⟨j, hj, heq, hkey, -⟩ := hbest r hr
    exact (hsourced j hj).congr (heq ▸ rfl) hkey.symm
  case scored =>
    intro r hr
    obtain ⟨j, hj, heq, -⟩ := hbest r hr
    obtain ⟨x, hx⟩ := hscored j hj
    rw [heq]
    exact ⟨x, hx⟩
  case descending =>
    have hmem : ∀ {r}, r ∈ rows ↔ r ∈ joined := (Row.ranked_perm hrows).mem_iff
    have hleast : rows.Pairwise Row.AtLeast := hlead.imp_of_mem fun ha hb hab =>
      Row.atLeast_of_leads hnum (hmem.mp ha) (hmem.mp hb) hscored hab
    exact Row.settle_pairwise hleast fun h _ _ => h
  case ties =>
    have htied : rows.Pairwise fun a b => a.Tied b → JoinedBefore D S a b :=
      hlead.imp fun hab htie => htie.of_leads hab
    refine Row.settle_pairwise htied fun hab hd he htie => (hab htie).congr ?_ ?_
    · exact place_congr rfl (Row.withDocument_key hd)
    · exact place_congr rfl (Row.withDocument_key he)
  case covered =>
    intro s hs
    have hkey := (hkeys s.key).mpr (List.mem_map.mpr ⟨s, hs, rfl⟩)
    exact List.mem_map.mp hkey
  case unique => exact Row.settle_pairwise_key _
  case best => exact hbest
  case dense_survives =>
    intro r hr s hs hkey htie hdense
    obtain ⟨j, hj, heq, -, hall⟩ := hbest r hr
    rcases (hall s hs hkey).2 with rfl | hbefore
    · rw [heq]
      exact hdense
    · have hle := (byDense_iff (D := D) (S := S)).mp hdense
      have hlt := hbefore htie
      unfold JoinedBefore at hlt
      exact (byDense_iff (D := D) (S := S)).mpr (by omega)

/-- **The fused table is the best-first table of the joined rows.** -/
theorem fuse_bestFirst [LawfulMonad m] (config : FusionConfig σ) (reranker : Reranker m σ)
    (turns : Turns) (query : String) (D S : List (Candidate σ)) :
    fuse config reranker turns query D S =
        tableFrom (joinedRows config reranker turns query D S) ∧
      Ensures (joinedRows config reranker turns query D S).run fun result =>
        ∀ joined, result = .ok joined → Row.Numbered joined →
          ∃ table, tableOf joined = some table ∧ BestFirst D S joined table.rows := by
  refine ⟨fuse_eq_tableFrom config reranker turns query D S, ?_⟩
  refine (joinedRows_ensures config reranker turns query D S).imp fun result hr joined hj hnum => ?_
  obtain ⟨d, s, hd, hs, rfl⟩ := hr joined hj
  obtain ⟨table, ht⟩ := exists_tableOf hnum
  exact ⟨table, ht, tableOf_bestFirst hnum (fun r hr => merged_of_mem_merge hr)
    (fun r hr => merge_sourced hd hs hr) (merge_pairwise hd hs) ht⟩

/-- On a tie of a dense and a sparse row of one key, the dense row is left. -/
theorem fuse_bestFirst_tie :
    ∃ joined table, (joinedRows .default (Reranker.flat 1.0) .atOnce "q" [sample "u" "A" "a" 1.0]
        [sample "v" "A" "a" 1.0]).run = (pure (.ok joined) : Id _) ∧
      Row.Numbered joined ∧ joined.map Row.hits = [some .onlyDense, some .onlySparse] ∧
      tableOf joined = some table ∧
      BestFirst [sample "u" "A" "a" 1.0] [sample "v" "A" "a" 1.0] joined table.rows ∧
      ∀ r ∈ table.rows, ByDense r := by
  let joined : List (Row Float) := merge .default
    (Channel.ofScores? [sample "u" "A" "a" 1.0] [1.0])
    (Channel.ofScores? [sample "v" "A" "a" 1.0] [1.0])
  have hnum : Row.Numbered joined := Row.numbered_iff.mpr (by decide +kernel)
  obtain ⟨table, ht, hbest⟩ := Ensures.id_iff.mp (fuse_bestFirst (m := Id) .default
    (Reranker.flat 1.0) .atOnce "q" [sample "u" "A" "a" 1.0] [sample "v" "A" "a" 1.0]).2 joined rfl
    hnum
  refine ⟨joined, table, rfl, hnum, rfl, ht, hbest, fun r hr => ?_⟩
  obtain ⟨j, hj, heq, hkey, -⟩ := hbest.best r hr
  have hdense := hbest.dense_survives r hr _ List.mem_cons_self
  rw [← hkey, heq] at hdense
  rw [heq]
  rcases List.mem_cons.mp hj with rfl | hj
  · exact Or.inr rfl
  · obtain rfl := List.mem_singleton.mp hj
    exact hdense rfl ⟨_, _, rfl, rfl, rfl⟩ (Or.inr rfl)

end Fusion
end EvidenceRank
