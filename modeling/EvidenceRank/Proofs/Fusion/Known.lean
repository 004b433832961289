import EvidenceRank.Pipeline
import EvidenceRank.Proofs.Fusion.Calls

/-!
# Hits that are known already

A text that a pool has already can be retrieved again, by another variant of the query or under
another name and score. The copies come behind the one that is there, and so neither their identity
nor anything else of them is kept: the pool's rows are what they were before the reranker is asked.

Results:
* `cleaned_append_known`: known hits leave the rows of a pool as they are.
* `fuse_append_known`: fusion with known hits is fusion without them.
-/

namespace EvidenceRank

variable {m : Type → Type} [Monad m] {σ : Type}

/-- Every further candidate has the document and the text of one that is in the pool. -/
def Candidate.Known (pool more : List (Candidate σ)) : Prop :=
  ∀ c ∈ more, c.key ∈ pool.map Candidate.key

namespace Channel

variable {pool more : List (Candidate σ)}

/-- A row's document takes its identity from the pool that the row is in. -/
theorem identityIn_append {c : Candidate σ} (hc : c ∈ pool) (more : List (Candidate σ)) :
    Row.identityIn ((pool ++ more).map Row.ofCandidate) (Row.ofCandidate c) =
      Row.identityIn (pool.map Row.ofCandidate) (Row.ofCandidate c) := by
  unfold Row.identityIn
  rw [List.map_append, List.find?_append]
  cases h : (pool.map Row.ofCandidate).find? (·.md5 == (Row.ofCandidate c).md5) with
  | some first => rfl
  | none =>
    have hself := List.find?_eq_none.mp h _ (List.mem_map.mpr ⟨c, hc, rfl⟩)
    exact absurd (beq_self_eq_true _) hself

/-- **Known hits leave the rows of a pool as they are.** -/
theorem cleaned_append_known (h : Candidate.Known pool more) :
    cleaned (pool ++ more) = cleaned pool := by
  have hfirsts : Candidate.firsts (pool ++ more) = Candidate.firsts pool :=
    Lists.distinctBy_append_of_subset h
  rw [cleaned_eq_map, cleaned_eq_map, hfirsts]
  refine List.map_congr_left fun c hc => ?_
  rw [identityIn_append (Lists.mem_of_mem_distinctBy hc)]

theorem prepare_append_known [Score σ] (h : Candidate.Known pool more) (reranker : Reranker m σ)
    (query : String) : prepare reranker query (pool ++ more) = prepare reranker query pool := by
  have hrows : Row.settle ((pool ++ more).map Row.ofCandidate) =
      Row.settle (pool.map Row.ofCandidate) := cleaned_append_known h
  unfold prepare
  rw [hrows]

end Channel

namespace Fusion

variable [Score σ]

/-- **Fusion with known hits is fusion without them**: the same action, whatever the reranker, and
so the same calls and the same result. -/
theorem fuse_append_known (config : FusionConfig σ) (reranker : Reranker m σ) (turns : Turns)
    (query : String) {pools more : Pools σ} (hdense : Candidate.Known pools.dense more.dense)
    (hsparse : Candidate.Known pools.sparse more.sparse) :
    fuse config reranker turns query (pools.append more).dense (pools.append more).sparse =
        fuse config reranker turns query pools.dense pools.sparse ∧
      ∀ calls, (fuse config reranker.recorded turns query (pools.append more).dense
          (pools.append more).sparse).run.run calls =
        (fuse config reranker.recorded turns query pools.dense pools.sparse).run.run calls := by
  have hfuse {n : Type → Type} [Monad n] (r : Reranker n σ) :
      fuse config r turns query (pools.append more).dense (pools.append more).sparse =
        fuse config r turns query pools.dense pools.sparse := by
    unfold fuse Pools.append
    rw [Channel.prepare_append_known hdense, Channel.prepare_append_known hsparse]
  exact ⟨hfuse reranker, fun calls => congrArg (·.run.run calls) (hfuse reranker.recorded)⟩

/-- A text that is retrieved again under another name, document address and uuid. -/
theorem renamed_copy_known :
    let pools : Pools Float := ⟨[sample "u" "A" "a" 1.0], []⟩
    let more : Pools Float := ⟨[⟨"v", { docId := "B", name := "b", md5 := "A" }, " a ", 7, [], none,
      9.0⟩], []⟩
    Candidate.Known pools.dense more.dense ∧ Candidate.Known pools.sparse more.sparse ∧
      fuse .default (Reranker.flat (m := Id) 1.0) .atOnce "q" (pools.append more).dense
          (pools.append more).sparse =
        fuse .default (Reranker.flat 1.0) .atOnce "q" pools.dense pools.sparse := by
  intro pools more
  have hdense : Candidate.Known pools.dense more.dense := by
    rw [Candidate.Known, List.forall_mem_singleton]
    exact List.mem_singleton.mpr rfl
  have hsparse : Candidate.Known pools.sparse more.sparse := fun c hc => absurd hc List.not_mem_nil
  exact ⟨hdense, hsparse, (fuse_append_known .default _ .atOnce "q" hdense hsparse).1⟩

end Fusion
end EvidenceRank
