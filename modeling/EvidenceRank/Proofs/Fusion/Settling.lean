import EvidenceRank.Lists.Firsts
import EvidenceRank.Proofs.Fusion.Table

/-!
# Settling again

Rows are settled three times on their way through fusion: those of each channel, those that both
channels have, and those of the table. The second time there is nothing left to do. A channel's rows
are settled already, and what is picked out of them has one identity per document and no repeated
text either; `fuseThrough pass` is fusion with `pass` in place of that second settling.

The two steps of settling may also be done in the other order: the first row of a document is the
first of its text as well, so it is among the rows that are left, and they find the same identity.
Each step takes one pass over the rows: `shareInPass` remembers the identity that each document
first came with, and `distinctInPass` the keys that it has met.

Results:
* `identityIn_distinct`, `distinct_shareIdentity`: the first row of a document is never a repeat, so
  the two steps commute.
* `shareInPass_eq`, `distinctInPass_eq`: what a pass makes of rows, by what it remembers.
* `settles`: what each step does to rows, and that doing it again changes nothing.
* `combineThrough_eq`, `fuseThrough_eq`: any pass that leaves settled rows alone could stand in the
  middle of fusion.
* `fuse_unsettled`: so the settling there can be left out.
-/

namespace EvidenceRank

variable {σ : Type}

namespace Row

variable {rows : List (Row σ)} {r : Row σ}

/-! ## The two steps -/

/-- The first row of a document is never a repeat. -/
theorem identityIn_distinct (rows : List (Row σ)) (r : Row σ) :
    identityIn (distinct rows) r = identityIn rows r := by
  have hfirst : (distinct rows).find? (·.md5 == r.md5) = rows.find? (·.md5 == r.md5) :=
    Lists.find?_distinctBy key (·.1 == r.md5) rows
  rw [identityIn, identityIn, hfirst]

/-- **Identities can be shared before repeats are dropped, or afterwards.** -/
theorem distinct_shareIdentity (rows : List (Row σ)) :
    distinct (shareIdentity rows) = shareIdentity (distinct rows) := by
  calc distinct (shareIdentity rows)
      = (distinct rows).map fun r => r.withDocument (identityIn rows r) := settle_eq_map rows
    _ = (distinct rows).map fun r => r.withDocument (identityIn (distinct rows) r) := by
        simp only [identityIn_distinct]
    _ = shareIdentity (distinct rows) := (shareIdentity_eq_map _).symm

theorem distinct_distinct (rows : List (Row σ)) : distinct (distinct rows) = distinct rows :=
  Lists.distinctBy_eq_self (Lists.distinctBy_pairwise key rows)

theorem shareIdentity_shareIdentity (rows : List (Row σ)) :
    shareIdentity (shareIdentity rows) = shareIdentity rows :=
  shareIdentity_eq_self (shareIdentity_uniform rows)

/-! ## One pass over the rows -/

/-- Share identities on the way through rows, where `seen` are those that documents came with. -/
def shareInPass (seen : List (String × Document)) : List (Row σ) → List (Row σ)
  | [] => []
  | r :: rows => match seen.lookup r.md5 with
    | some d => r.withDocument d :: shareInPass seen rows
    | none => r :: shareInPass ((r.md5, r.document) :: seen) rows

/-- Drop repeats on the way through rows, where `seen` are the keys met. -/
def distinctInPass (seen : List (String × String)) : List (Row σ) → List (Row σ)
  | [] => []
  | r :: rows =>
    if seen.contains r.key then distinctInPass seen rows
    else r :: distinctInPass (r.key :: seen) rows

theorem identityIn_cons (r : Row σ) (rows : List (Row σ)) (s : Row σ) :
    identityIn (r :: rows) s = if s.md5 == r.md5 then r.document else identityIn rows s := by
  unfold identityIn
  rw [List.find?_cons, BEq.comm (a := r.md5)]
  cases s.md5 == r.md5 <;> rfl

/-- **A pass gives each row the identity seen for its document**, or else that of the first row of
it. -/
theorem shareInPass_eq (seen : List (String × Document)) (rows : List (Row σ)) :
    shareInPass seen rows =
      rows.map fun r => r.withDocument ((seen.lookup r.md5).getD (identityIn rows r)) := by
  induction rows generalizing seen with
  | nil => rfl
  | cons r rows ih =>
    rw [shareInPass, List.map_cons]
    cases hr : seen.lookup r.md5 with
    | some d =>
      refine congrArg _ ((ih seen).trans (List.map_congr_left fun s _ => ?_))
      rw [identityIn_cons]
      split
      · -- then `s` is named by what has been seen
        rename_i hs
        rw [beq_iff_eq.mp hs, hr]
        rfl
      · rfl
    | none =>
      have hself : identityIn (r :: rows) r = r.document := by
        rw [identityIn_cons, beq_self_eq_true, if_pos rfl]
      rw [Option.getD_none, hself, withDocument_self]
      refine congrArg _ ((ih _).trans (List.map_congr_left fun s _ => ?_))
      rw [List.lookup_cons, identityIn_cons]
      cases hs : s.md5 == r.md5 with
      | true =>
        rw [beq_iff_eq.mp hs, hr]
        rfl
      | false => rfl

/-- **A pass keeps the first row of each key that it has not met.** -/
theorem distinctInPass_eq (seen : List (String × String)) (rows : List (Row σ)) :
    distinctInPass seen rows = (distinct rows).filter fun r => !seen.contains r.key := by
  induction rows generalizing seen with
  | nil => rfl
  | cons r rows ih =>
    have hcons :
        distinct (r :: rows) = r :: (distinct rows).filter fun s => !(s.key == r.key) := rfl
    rw [distinctInPass, hcons]
    cases hr : seen.contains r.key with
    | true =>
      rw [if_pos rfl, ih, List.filter_cons_of_neg (by simpa using hr), List.filter_filter]
      refine List.filter_congr fun s _ => ?_
      cases hs : s.key == r.key with
      | true =>
        rw [beq_iff_eq.mp hs, hr]
        rfl
      | false => rw [Bool.not_false, Bool.and_true]
    | false =>
      rw [if_neg Bool.false_ne_true, ih, List.filter_cons_of_pos (by simpa using hr),
        List.filter_filter]
      refine congrArg _ (List.filter_congr fun s _ => ?_)
      rw [List.contains_cons, Bool.not_or, Bool.and_comm]

/-! ## The laws of both steps -/

/-- `s` is the row `r` under the identity that the first row of its document has. -/
structure NamedAfterFirst (rows : List (Row σ)) (r s : Row σ) : Prop where
  /-- Nothing else of the row is changed. -/
  kept : s = r.withDocument s.document
  md5 : s.md5 = r.md5
  first : ∃ i first, Lists.FirstAt Row.md5 rows i first ∧ first.md5 = r.md5 ∧
    s.document = first.document

theorem namedAfterFirst (hr : r ∈ rows) :
    NamedAfterFirst rows r (r.withDocument (identityIn rows r)) where
  kept := rfl
  md5 := identityIn_md5 rows r
  first := by
    cases hfind : rows.find? (·.md5 == r.md5) with
    | none => exact absurd (List.find?_eq_none.mp hfind r hr) (by simp)
    | some first =>
      obtain ⟨i, hi, hmd5⟩ := Lists.exists_firstAt_of_find? hfind
      refine ⟨i, first, hi, hmd5, ?_⟩
      show identityIn rows r = first.document
      rw [identityIn, hfind]
      rfl

theorem shareIdentity_forall₂ (rows : List (Row σ)) :
    List.Forall₂ (NamedAfterFirst rows) rows (shareIdentity rows) := by
  rw [shareIdentity_eq_map, List.forall₂_map_right_iff, List.forall₂_same]
  exact fun r hr => namedAfterFirst hr

theorem shareInPass_nil (rows : List (Row σ)) : shareInPass [] rows = shareIdentity rows := by
  rw [shareInPass_eq, shareIdentity_eq_map]
  rfl

theorem distinctInPass_nil (rows : List (Row σ)) : distinctInPass [] rows = distinct rows := by
  rw [distinctInPass_eq]
  exact List.filter_eq_self.mpr fun _ _ => rfl

/-- What is said of the two steps of settling. -/
structure Settles (rows : List (Row σ)) : Prop where
  inPass : shareInPass [] rows = shareIdentity rows ∧ distinctInPass [] rows = distinct rows
  commute : distinct (shareIdentity rows) = shareIdentity (distinct rows)
  shared : shareIdentity (shareIdentity rows) = shareIdentity rows
  selected : distinct (distinct rows) = distinct rows
  /-- The rows left are those at the places where a text of a document comes first, in order. -/
  firsts : ∀ left, Lists.KeepsFirsts key rows left ↔ left = distinct rows
  /-- Every row is there still, under the identity of the first row of its document. -/
  named : List.Forall₂ (NamedAfterFirst rows) rows (shareIdentity rows)

theorem settles (rows : List (Row σ)) : Settles rows where
  inPass := ⟨shareInPass_nil rows, distinctInPass_nil rows⟩
  commute := distinct_shareIdentity rows
  shared := shareIdentity_shareIdentity rows
  selected := distinct_distinct rows
  firsts _ := Lists.keepsFirsts_iff
  named := shareIdentity_forall₂ rows

end Row

namespace Fusion

open Channel (OfPool)

variable [Score σ] {pass : List (Row σ) → List (Row σ)}

/-! ## Fusion with another pass in the middle -/

/-- All rows of two channels, with `pass` applied to those hit by both. -/
def joinThrough (pass : List (Row σ) → List (Row σ)) (dense sparse : Channel σ) : List (Row σ) :=
  let joined := pass (hitByBoth dense sparse)
  joined ++ hitByDense dense sparse ++ hitBySparse dense sparse joined

/-- The rows of whatever channels there are, before they are ordered. -/
def mergeThrough (pass : List (Row σ) → List (Row σ)) (config : FusionConfig σ) :
    Option (Channel σ) → Option (Channel σ) → List (Row σ)
  | some dense, some sparse =>
    let rows := joinThrough pass dense sparse
    withMerged rows (bothScores config rows)
  | dense, sparse => merge config dense sparse

/-- The ranked table of the channels. -/
def combineThrough (pass : List (Row σ) → List (Row σ)) (config : FusionConfig σ)
    (dense sparse : Option (Channel σ)) : Option (FusedTable σ) :=
  tableOf (mergeThrough pass config dense sparse)

/-- Fusion with `pass` in place of the settling of rows hit by both channels. -/
def fuseThrough {m : Type → Type} [Monad m] (pass : List (Row σ) → List (Row σ))
    (config : FusionConfig σ) (reranker : Reranker m σ) (turns : Turns) (query : String)
    (dense sparse : List (Candidate σ)) : ExceptT Halt m (FusedTable σ) := do
  let (dense, sparse) ← Halt.failing (tryJoin turns
    (Channel.prepare reranker query dense) (Channel.prepare reranker query sparse))
  Halt.ordering (combineThrough pass config dense sparse)

/-- Fusion settles in the middle. -/
theorem fuseThrough_settle {m : Type → Type} [Monad m] (config : FusionConfig σ)
    (reranker : Reranker m σ) (turns : Turns) (query : String) (dense sparse : List (Candidate σ)) :
    fuseThrough Row.settle config reranker turns query dense sparse =
      fuse config reranker turns query dense sparse := by
  have hcombine : ∀ d s : Option (Channel σ),
      combineThrough Row.settle config d s = combine config d s := by
    intro d s
    cases d <;> cases s <;> rfl
  unfold fuseThrough fuse
  simp only [hcombine]

/-! ## Rows hit by both channels -/

/-- A pass does nothing to rows that have one identity per document and no repeated text. -/
def SparesSettled (pass : List (Row σ) → List (Row σ)) : Prop :=
  ∀ rows, rows.Pairwise (fun r s => r.key ≠ s.key) → Row.Uniform rows → pass rows = rows

theorem spared_hitByBoth {D : List (Candidate σ)} {d : Channel σ} (hd : OfPool D (some d))
    (hpass : SparesSettled pass) (s : Channel σ) : pass (hitByBoth d s) = hitByBoth d s :=
  hpass _ (hitByBoth_pairwise_key hd.pairwise_key) (hitByBoth_uniform hd.uniform)

/-- **What stands in the middle of fusion does not matter** as long as it leaves settled rows
alone. -/
theorem combineThrough_eq {D : List (Candidate σ)} {d : Option (Channel σ)} (hd : OfPool D d)
    (hpass : SparesSettled pass) (config : FusionConfig σ) (s : Option (Channel σ)) :
    combineThrough pass config d s = combine config d s := by
  cases d with
  | none => cases s <;> rfl
  | some d =>
    cases s with
    | none => rfl
    | some s =>
      have hjoin : joinThrough pass d s = join d s := by
        unfold joinThrough join
        rw [spared_hitByBoth hd hpass s, settle_hitByBoth hd.pairwise_key hd.uniform]
      exact congrArg (fun rows => tableOf (withMerged rows (bothScores config rows))) hjoin

/-- The settling in the middle has nothing to do for two channels, and the table is the same without
it. -/
structure Idle (config : FusionConfig σ) (dense sparse : Channel σ) : Prop where
  shared : Row.shareIdentity (hitByBoth dense sparse) = hitByBoth dense sparse
  selected : Row.distinct (hitByBoth dense sparse) = hitByBoth dense sparse
  table : combineThrough id config (some dense) (some sparse) =
    combine config (some dense) (some sparse)

theorem idle_of_pool {D : List (Candidate σ)} {d : Channel σ} (hd : OfPool D (some d))
    (config : FusionConfig σ) (s : Channel σ) : Idle config d s where
  shared := spared_hitByBoth hd (fun _ _ hu => Row.shareIdentity_eq_self hu) s
  selected := spared_hitByBoth hd (fun _ hkeys _ => Lists.distinctBy_eq_self hkeys) s
  table := combineThrough_eq hd (fun _ _ _ => rfl) config (some s)

/-! ## Fusion -/

variable {m : Type → Type} [Monad m] [LawfulMonad m]

/-- Fusion with a pass that leaves settled rows alone is fusion as it is. -/
theorem fuseThrough_eq (hpass : SparesSettled pass) (config : FusionConfig σ)
    (reranker : Reranker m σ) (turns : Turns) (query : String) (dense sparse : List (Candidate σ)) :
    fuseThrough pass config reranker turns query dense sparse =
      fuse config reranker turns query dense sparse := by
  have hprepared : Ensures (Halt.failing (tryJoin turns (Channel.prepare reranker query dense)
      (Channel.prepare reranker query sparse))).run fun result =>
        ∀ d s, result = .ok (d, s) → OfPool dense d :=
    (prepared_ensures reranker turns query dense sparse).map fun result h d s hr => by
      cases result with
      | error e => cases hr
      | ok channels => exact (h d s (congrArg Except.ok (Except.ok.inj hr))).1
  unfold fuseThrough fuse
  refine Ensures.bindExcept_congr hprepared fun (d, s) hd => ?_
  exact congrArg Halt.ordering (combineThrough_eq (hd d s rfl) hpass config s)

/-- **The settling in the middle of fusion can be left out.** The two steps of settling commute and
need not be done twice, whatever the rows; so two channels, whoever scored them, leave nothing to do
for it, and fusion without it is the same action. -/
theorem fuse_unsettled (config : FusionConfig σ) (reranker reranker' : Reranker m σ) (turns : Turns)
    (query query' : String) (D S : List (Candidate σ)) :
    (∀ rows : List (Row σ), Row.Settles rows) ∧
      (Ensures (do
          let dense ← Channel.prepare reranker query D
          let sparse ← Channel.prepare reranker' query' S
          return (dense, sparse) : ExceptT RankError m _).run fun result =>
        ∀ d s, result = .ok (some d, some s) → Idle config d s) ∧
      fuseThrough Row.settle config reranker turns query D S =
        fuse config reranker turns query D S ∧
      fuseThrough id config reranker turns query D S = fuse config reranker turns query D S := by
  refine ⟨Row.settles, ?_, fuseThrough_settle config reranker turns query D S,
    fuseThrough_eq (fun _ _ _ => rfl) config reranker turns query D S⟩
  refine Ensures.bindExcept (Channel.prepare_ensures reranker query D) (fun dense hd => ?_)
    fun e _ d s h => by cases h
  refine Ensures.bindExcept (Ensures.trivial _) (fun sparse _ => ?_) fun e _ d s h => by cases h
  refine Ensures.pure fun d s h => ?_
  obtain ⟨rfl, rfl⟩ := Prod.mk.inj (Except.ok.inj h)
  exact idle_of_pool (hd _ rfl) config s

/-- Of three dense hits of one document, the third repeats the text of the first, and the second,
which the sparse channel has too, comes under another name. -/
theorem common_hits_unsettled :
    let dense : List (Candidate Float) :=
      [⟨"u", { name := "first", md5 := "A" }, "a", 1, [], none, 0.9⟩,
        ⟨"v", { name := "second", md5 := "A" }, "b", 2, [], none, 0.8⟩,
        ⟨"w", { name := "second", md5 := "A" }, "a", 3, [], none, 0.7⟩]
    let sparse := [sample "v" "A" "b" 1.0]
    ∃ d s, Channel.OfPool dense (some d) ∧ Channel.OfPool sparse (some s) ∧
      (hitByBoth d s).map (fun r => (r.candidate.uuid, r.document.name)) = [("v", "first")] ∧
      Idle .default d s ∧
      fuseThrough id .default (Reranker.flat (m := Id) 1.0) .atOnce "q" dense sparse =
        fuse .default (Reranker.flat 1.0) .atOnce "q" dense sparse := by
  intro dense sparse
  let channel (pool : List (Candidate Float)) :=
    Channel.ofScores? pool ((Channel.cleaned pool).map fun _ => 1.0)
  have hrun : (do
      let dense ← Channel.prepare (Reranker.flat 1.0) "q" dense
      let sparse ← Channel.prepare (Reranker.flat 1.0) "q" sparse
      return (dense, sparse) : ExceptT RankError Id _).run =
        (pure (.ok (channel dense, channel sparse)) : Id _) := by
    rw [Channel.prepare_flat, Channel.prepare_flat]
    rfl
  have hhits : ((channel dense).bind fun d => (channel sparse).map fun s =>
      (hitByBoth d s).map fun r => (r.candidate.uuid, r.document.name)) =
        some [("v", "first")] := by decide +kernel
  obtain ⟨-, hidle, -, hfuse⟩ := fuse_unsettled (m := Id) .default (Reranker.flat 1.0)
    (Reranker.flat 1.0) .atOnce "q" "q" dense sparse
  obtain ⟨d, hd, hhits⟩ := Option.bind_eq_some_iff.mp hhits
  obtain ⟨s, hs, hhits⟩ := Option.map_eq_some_iff.mp hhits
  have hpool (pool : List (Candidate Float)) : Channel.OfPool pool (channel pool) :=
    ⟨_, List.length_map _, rfl⟩
  refine ⟨d, s, hd ▸ hpool dense, hs ▸ hpool sparse, hhits, ?_, hfuse⟩
  refine Ensures.id_iff.mp hidle d s ?_
  rw [hrun, hd, hs]
  rfl

end Fusion
end EvidenceRank
