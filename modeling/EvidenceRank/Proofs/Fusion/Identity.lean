import EvidenceRank.Proofs.Fusion.Calls

/-!
# The identity of a document

The channels may name, place and size a document differently, and so may the candidates of one
pool. A channel gives its rows of a document the identity of the pool's first candidate of it, as a
whole; the table gives all rows of the document the identity of the one that is ranked best. The row
that it comes from may itself be dropped later, as a repeat of another text.

Results:
* `OfPool.identityIn?`: the identity of the rows of a channel.
* `tableOf_identified`, `fuse_identified`: the rows of one document have one identity, it is that of
  the best ranked joined row of the document, and nothing else of a row is changed for it.
-/

namespace EvidenceRank

variable {σ : Type}

/-- The identity that a pool gives to a document: all of that of its first candidate of it. -/
def Candidate.identityIn? (pool : List (Candidate σ)) (md5 : String) : Option Document :=
  (pool.find? (·.document.md5 == md5)).map (·.document)

variable [Score σ]

namespace Channel.OfPool

/-- **A row of a channel has the identity that the pool gives to its document.** -/
theorem identityIn? {pool : List (Candidate σ)} {c : Channel σ} (h : OfPool pool (some c))
    {r : Row σ} (hr : r ∈ c.rows) : Candidate.identityIn? pool r.md5 = some r.document := by
  have hmem : r.document ∈ c.rows.map Row.document := List.mem_map.mpr ⟨r, hr, rfl⟩
  rw [h.map_rows_cleaned fun _ _ => rfl] at hmem
  obtain ⟨s, hs, hsr⟩ := List.mem_map.mp hmem
  have hmd5 : s.md5 = r.md5 := congrArg Document.md5 hsr
  obtain ⟨first, hfirst, hid⟩ := Row.exists_first_of_settle hs
  rw [List.find?_map, Option.map_eq_some_iff] at hfirst
  obtain ⟨first, hfirst, rfl⟩ := hfirst
  have hfound : pool.find? (·.document.md5 == r.md5) = some first := hmd5 ▸ hfirst
  rw [Candidate.identityIn?, hfound, ← hsr, hid]
  rfl

end Channel.OfPool

namespace Fusion

open Channel (OfPool)

variable {D S : List (Candidate σ)} {joined : List (Row σ)}

/-! ## Joined rows -/

/-- The row has the identity that its own pool gives to its document. -/
def NamedByPool (D S : List (Candidate σ)) (r : Row σ) : Prop :=
  (ByDense r ∧ Candidate.identityIn? D r.md5 = some r.document) ∨
    (r.hits = some .onlySparse ∧ Candidate.identityIn? S r.md5 = some r.document)

/-- Joining and scoring leave each row the identity that it has in its channel. -/
theorem merge_namedByPool {config : FusionConfig σ} {d s : Option (Channel σ)} (hd : OfPool D d)
    (hs : OfPool S s) {r : Row σ} (hr : r ∈ merge config d s) : NamedByPool D S r := by
  obtain ⟨x, hx, y, rfl⟩ := exists_of_mem_merge hr
  have named {pool : List (Candidate σ)} {channel : Option (Channel σ)} {c : Channel σ}
      {kind : HitType} {g : Row σ} (hpool : OfPool pool channel) (hc : c ∈ channel)
      (hg : g ∈ c.rows) (hgx : Marks kind g x) :
      Candidate.identityIn? pool x.md5 = some x.document := by
    have hmd5 : x.md5 = g.md5 := congrArg Document.md5 hgx.document
    obtain rfl : channel = some c := hc
    rw [hmd5, hgx.document]
    exact hpool.identityIn? hg
  rcases exists_marks hd hx with ⟨c, hc, g, hg, hgx | hgx⟩ | ⟨c, hc, g, hg, hgx⟩
  · exact Or.inl ⟨Or.inl hgx.hits, named hd hc hg hgx⟩
  · exact Or.inl ⟨Or.inr hgx.hits, named hd hc hg hgx⟩
  · exact Or.inr ⟨hgx.hits, named hs hc hg hgx⟩

/-! ## The best ranked row of a document -/

/-- The row comes first among the ranked rows of its document. -/
structure LeadsDocument (D S : List (Candidate σ)) (joined : List (Row σ)) (b : Row σ) : Prop where
  first : ∃ ranked, Row.ranked joined = some ranked ∧ ranked.find? (·.md5 == b.md5) = some b
  /-- Where every score is a number, no joined row of the document scores more, and those that
  score the same come later. -/
  best : Row.Numbered joined → ∀ s ∈ joined, s.md5 = b.md5 →
    b.AtLeast s ∧ (s = b ∨ (b.Tied s → JoinedBefore D S b s))

theorem leadsDocument_of_find? [Score.LawfulOrder σ]
    (hscored : ∀ r ∈ joined, ∃ x, r.merged = some x) (hplaced : joined.Pairwise (JoinedBefore D S))
    {ranked : List (Row σ)} (hranked : Row.ranked joined = some ranked) {md5 : String} {b : Row σ}
    (h : ranked.find? (·.md5 == md5) = some b) :
    b ∈ joined ∧ b.md5 = md5 ∧ LeadsDocument D S joined b := by
  have hmem : ∀ {r}, r ∈ ranked ↔ r ∈ joined := (Row.ranked_perm hranked).mem_iff
  have hfound := List.find?_some h
  have hmd5 : b.md5 = md5 := beq_iff_eq.mp hfound
  have hb : b ∈ joined := hmem.mp (List.mem_of_find?_eq_some h)
  refine ⟨hb, hmd5, ⟨ranked, hranked, by rwa [hmd5]⟩, fun hnum s hs hsb => ?_⟩
  have hdocument : (s.md5 == md5) = true := beq_iff_eq.mpr (hsb.trans hmd5)
  have hpairwise := Row.ranked_pairwise hnum hplaced hranked
  rcases Lists.eq_or_of_find? hpairwise h (hmem.mpr hs) hdocument with rfl | hlead
  · exact ⟨Row.atLeast_self hnum hs hscored, Or.inl rfl⟩
  · exact ⟨Row.atLeast_of_leads hnum hb hs hscored hlead, Or.inr fun htie => htie.of_leads hlead⟩

/-! ## Tables -/

/-- What is said of the identities in a table that is made of joined rows. -/
structure Identified (D S : List (Candidate σ)) (joined rows : List (Row σ)) : Prop where
  /-- Rows of one document have one identity. -/
  uniform : ∀ r ∈ rows, ∀ s ∈ rows, r.md5 = s.md5 → r.document = s.document
  /-- It is the one that the best ranked joined row of the document has from its own pool. -/
  best : ∀ r ∈ rows, ∃ b ∈ joined, b.md5 = r.md5 ∧ LeadsDocument D S joined b ∧
    NamedByPool D S b ∧ r.document = b.document
  /-- Nothing else of a joined row is changed, and its content hash stays as well. -/
  kept : ∀ r ∈ rows, ∃ j ∈ joined, r = j.withDocument r.document ∧ r.md5 = j.md5
  /-- A row is a candidate of the pools, but for the identity of its document. -/
  candidate : ∀ r ∈ rows, ∃ c ∈ D ++ S,
    r.candidate = { c with document := r.document } ∧ r.md5 = c.document.md5

theorem tableOf_identified [Score.LawfulOrder σ] {config : FusionConfig σ}
    {d s : Option (Channel σ)} (hd : OfPool D d) (hs : OfPool S s) {table : FusedTable σ}
    (ht : tableOf (merge config d s) = some table) :
    Identified D S (merge config d s) table.rows where
  uniform := by
    obtain ⟨ranked, -, rfl⟩ := tableOf_eq_some ht
    exact Row.settle_uniform _
  best := by
    intro r hr
    obtain ⟨ranked, hranked, rfl⟩ := tableOf_eq_some ht
    obtain ⟨b, hfind, hid⟩ := Row.exists_first_of_settle hr
    obtain ⟨hb, hmd5, hlead⟩ := leadsDocument_of_find? (fun x hx => merged_of_mem_merge hx)
      (merge_pairwise hd hs) hranked hfind
    exact ⟨b, hb, hmd5, hlead, merge_namedByPool hd hs hb, hid⟩
  kept := by
    intro r hr
    obtain ⟨j, hj, heq, hkey⟩ := exists_joined ht hr
    exact ⟨j, hj, heq, (congrArg Prod.fst hkey).symm⟩
  candidate := by
    intro r hr
    obtain ⟨c, hc, hrow⟩ := (tableOf_traced hd hs ht hr).exists_from
    exact ⟨c, hc, hrow.candidate, congrArg Prod.fst hrow.key⟩

variable {m : Type → Type} [Monad m] [LawfulMonad m]

/-- **Fusion leaves one identity per document**: that of the best ranked joined row of the document,
which has it as a whole from the pool that it was taken from. -/
theorem fuse_identified [Score.LawfulOrder σ] (config : FusionConfig σ) (reranker : Reranker m σ)
    (turns : Turns) (query : String) (D S : List (Candidate σ)) :
    fuse config reranker turns query D S =
        tableFrom (joinedRows config reranker turns query D S) ∧
      Ensures (joinedRows config reranker turns query D S).run fun result =>
        ∀ joined, result = .ok joined → ∀ table, tableOf joined = some table →
          Identified D S joined table.rows := by
  refine ⟨fuse_eq_tableFrom config reranker turns query D S, ?_⟩
  refine (joinedRows_ensures config reranker turns query D S).imp fun result hr joined hj => ?_
  obtain ⟨d, s, hd, hs, rfl⟩ := hr joined hj
  exact fun table ht => tableOf_identified hd hs ht

/-- A slice that the sparse channel alone has outranks a dense one of its document, and the dense
one takes its identity. -/
theorem sparse_slice_names_document :
    let config : FusionConfig Float := ⟨1.3, 1.0, .weighted⟩
    let dense : List (Candidate Float) :=
      [⟨"u", { docId := "d", name := "dense", md5 := "A" }, "a", 1, [], none, 0.5⟩]
    let sparse : List (Candidate Float) :=
      [⟨"v", { docId := "s", name := "sparse", md5 := "A" }, "b", 2, [], none, 1.0⟩,
        ⟨"w", { md5 := "B" }, "b", 3, [], none, 0.0⟩]
    ∃ joined table, (joinedRows config (Reranker.flat 1.0) .atOnce "q" dense sparse).run =
        (pure (.ok joined) : Id _) ∧ tableOf joined = some table ∧
      Identified dense sparse joined table.rows ∧
      ∀ r ∈ table.rows, r.md5 = "A" →
        r.document = { docId := "s", name := "sparse", md5 := "A" } := by
  intro config dense sparse
  let joined := merge config (Channel.ofScores? dense [1.0]) (Channel.ofScores? sparse [1.0, 1.0])
  have hleads : ((Row.ranked joined).bind (·.find? (·.md5 == "A"))).map Row.hits =
      some (some .onlySparse) := by decide +kernel
  have hrun : (joinedRows config (Reranker.flat 1.0) .atOnce "q" dense sparse).run =
      (pure (.ok joined) : Id _) := rfl
  cases htable : tableOf joined with
  | none =>
    rw [tableOf_eq_none.mp htable] at hleads
    cases hleads
  | some table =>
    have h := Ensures.id_iff.mp (fuse_identified (m := Id) config (Reranker.flat 1.0) .atOnce "q"
      dense sparse).2 joined hrun table htable
    refine ⟨joined, table, hrun, htable, h, fun r hr hmd5 => ?_⟩
    obtain ⟨b, -, hb, hlead, hnamed, hid⟩ := h.best r hr
    obtain ⟨ranked, hranked, hfirst⟩ := hlead.first
    rw [hb, hmd5] at hfirst
    have hhits : b.hits = some .onlySparse := by
      rw [hranked, Option.bind_some, hfirst] at hleads
      exact Option.some.inj hleads
    rcases hnamed with ⟨hdense, -⟩ | ⟨-, hname⟩
    · rw [ByDense, hhits] at hdense
      exact absurd hdense (by decide)
    · rw [hb, hmd5] at hname
      exact hid.trans (Option.some.inj hname).symm

end Fusion
end EvidenceRank
