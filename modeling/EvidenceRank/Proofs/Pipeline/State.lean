import EvidenceRank.Pipeline
import EvidenceRank.Proofs.TryJoin

/-!
# Ranking next to a state

What is said of a run often needs something on the side: the calls that were made so far, or the ids
that are left to draw. Such a state is the fetcher's alone. The reranker is called next to it
(`Reranker.beside`), fusion leaves it as it is (`fuse_beside`), and so ranking a source is fusing
its pools without the state and expanding the table with it.

Results:
* `fuse_beside`: fusion is the same next to any state.
* `run_processSource_beside`: ranking a source as these two steps.
-/

namespace EvidenceRank

variable {m : Type → Type} [Monad m] {S σ ε α β : Type}

/-! ## Actions that leave the state alone -/

/-- The action `x` is `y` next to a state. -/
def Beside (x : ExceptT ε (StateT S m) α) (y : ExceptT ε m α) : Prop :=
  ∀ s, x.run.run s = (·, s) <$> y.run

namespace Beside

variable [LawfulMonad m]

theorem pure (a : α) :
    Beside (Pure.pure a : ExceptT ε (StateT S m) α) (Pure.pure a : ExceptT ε m α) := by
  intro s
  simp

theorem failed (e : ε) :
    Beside (throw e : ExceptT ε (StateT S m) α) (throw e : ExceptT ε m α) := by
  intro s
  simp

theorem lift (x : m (Except ε α)) :
    Beside (S := S) (ExceptT.mk (StateT.lift x)) (ExceptT.mk x) := by
  intro s
  simp

theorem bind {x : ExceptT ε (StateT S m) α} {y : ExceptT ε m α}
    {f : α → ExceptT ε (StateT S m) β} {g : α → ExceptT ε m β}
    (hxy : Beside x y) (hfg : ∀ a, Beside (f a) (g a)) : Beside (x >>= f) (y >>= g) := by
  intro s
  rw [ExceptT.run_bind, StateT.run_bind, hxy s, bind_map_left, ExceptT.run_bind, map_bind]
  refine bind_congr fun result => ?_
  cases result with
  | error e => simp
  | ok a => exact hfg a s

theorem tryJoin {x : ExceptT ε (StateT S m) α} {y : ExceptT ε m α}
    {x' : ExceptT ε (StateT S m) β} {y' : ExceptT ε m β} (h : Beside x y) (h' : Beside x' y')
    (turns : Turns) :
    Beside (EvidenceRank.tryJoin turns x x') (EvidenceRank.tryJoin turns y y') := by
  by_cases hturns : turns = .atOnce
  · subst hturns
    exact .bind h fun a => .bind h' fun b => .pure (a, b)
  · intro s
    rw [run_tryJoin_besides _ _ hturns, run_tryJoin_besides _ _ hturns, StateT.run_bind, h s,
      bind_map_left, map_bind]
    refine bind_congr fun result => ?_
    rw [StateT.run_bind, h' s, bind_map_left, map_bind]
    refine bind_congr fun result' => ?_
    rw [StateT.run_pure, map_pure]

theorem failing {x : ExceptT RankError (StateT S m) α} {y : ExceptT RankError m α}
    (h : Beside x y) : Beside (Halt.failing x) (Halt.failing y) := by
  intro s
  rw [Halt.run_failing, Halt.run_failing, StateT.run_map, h s, ← comp_map, ← comp_map]
  rfl

theorem ordering (order : Option α) :
    Beside (S := S) (m := m) (Halt.ordering order) (Halt.ordering order) := by
  intro s
  simp

end Beside

/-! ## Rerankers next to a state -/

/-- The same reranker, called next to a state. -/
def Reranker.beside (S : Type) (r : Reranker m σ) : Reranker (StateT S m) σ :=
  ⟨r.model, fun query texts => StateT.lift (r.score query texts)⟩

variable [LawfulMonad m] (r : Reranker m σ) (query : String)

theorem scoreAll_beside (texts : List String) :
    Beside ((r.beside S).scoreAll query texts) (r.scoreAll query texts) := by
  unfold Reranker.scoreAll
  split
  · exact .pure []
  · refine .bind (.lift _) fun scores => ?_
    split
    · exact .pure scores
    · exact .failed _

variable [Score σ]

theorem prepare_beside (pool : List (Candidate σ)) :
    Beside (Channel.prepare (r.beside S) query pool) (Channel.prepare r query pool) := by
  unfold Channel.prepare
  simp only
  split
  · exact .pure none
  · exact .bind (scoreAll_beside r query _) fun scores => .pure _

/-- **Fusion leaves the state alone.** -/
theorem fuse_beside (config : FusionConfig σ) (turns : Turns) (dense sparse : List (Candidate σ)) :
    Beside (Fusion.fuse config (r.beside S) turns query dense sparse)
      (Fusion.fuse config r turns query dense sparse) := by
  unfold Fusion.fuse
  exact .bind (.failing (.tryJoin (prepare_beside r query dense) (prepare_beside r query sparse)
    turns)) fun _ => .ordering _

/-! ## Ranking a source -/

omit [LawfulMonad m] in
/-- The report on a source with the table and its expansion. -/
def SourceReport.of (name : String) (config : RankingConfig σ) (scope : Option String)
    (table : FusedTable σ) (e : Expansion σ) : SourceReport σ where
  dataSource := name
  fusedRows := table.rows.length
  hitCounts := table.hitCounts
  expandedRows := e.rows.length
  expansion := e.outcome
  citations := Citation.assemble config.citation.maxSlices scope e.rows

/-- **Ranking a source** is fusing its pools next to the state, and expanding the table with it. -/
theorem run_processSource_beside (config : RankingConfig σ) (fetcher : SliceFetcher (StateT S m))
    (turns : String → Turns) (name : String) (scope : Option String) (pools : Pools σ) (s : S) :
    ((Pipeline.mk config (r.beside S) fetcher turns).processSource name query scope
        pools).run.run s = do
      match ← (Fusion.fuse config.fusion r (turns name) query pools.dense pools.sparse).run with
      | .error halt => return (.error halt, s)
      | .ok table =>
        let (e, t) ← (Expansion.expand config.expansion fetcher table.rows).run s
        return (.ok (.of name config scope table e), t) := by
  unfold Pipeline.processSource
  rw [ExceptT.run_bind, StateT.run_bind, fuse_beside, bind_map_left]
  refine bind_congr fun result => ?_
  cases result with
  | error halt => simp
  | ok table =>
    simp only [bind_pure_comp, ExceptT.run_map, ExceptT.run_liftM, Functor.map_map, StateT.run_map]
    rfl

end EvidenceRank
