import EvidenceRank.Proofs.TryJoin

/-!
# Services that write down their calls

What a program asks of a service is told by running the program with the same service, which also
writes down what it is asked and what it answers (`noted`). `Records` says that the program is then
the same but for the list that is written, so what is said of the list is said of the program.

* `Records.bind`, `Records.tryJoin`: the list is written along a sequence of actions that may fail,
  and along two that run side by side.
* `Reranker.recorded`, `Service.Transport.recorded`: the services that write down their calls.
-/

namespace EvidenceRank

variable {m : Type → Type} [Monad m] {ε L α β : Type}

/-- The action, whose result is written down behind the others. -/
def noted (entry : α → L) (x : m α) : StateT (List L) m α := do
  let a ← StateT.lift x
  modify (· ++ [entry a])
  return a

/-- The action `x` is `y`, but for the list that it writes. -/
def Records (x : ExceptT ε (StateT (List L) m) α) (y : ExceptT ε m α) : Prop :=
  ∀ l, Prod.fst <$> x.run.run l = y.run

variable [LawfulMonad m]

theorem run_noted (entry : α → L) (x : m α) (l : List L) :
    (noted entry x).run l = (fun a => (a, l ++ [entry a])) <$> x := by
  simp [noted]

namespace Records

theorem pure (a : α) :
    Records (Pure.pure a : ExceptT ε (StateT (List L) m) α) (Pure.pure a : ExceptT ε m α) := by
  intro l
  simp

theorem failed (e : ε) :
    Records (throw e : ExceptT ε (StateT (List L) m) α) (throw e : ExceptT ε m α) := by
  intro l
  simp

theorem noted (entry : Except ε α → L) (x : m (Except ε α)) :
    Records (ExceptT.mk (noted entry x)) (ExceptT.mk x) := by
  intro l
  simp [run_noted]

theorem bind {x : ExceptT ε (StateT (List L) m) α} {y : ExceptT ε m α}
    {f : α → ExceptT ε (StateT (List L) m) β} {g : α → ExceptT ε m β}
    (hxy : Records x y) (hfg : ∀ a, Records (f a) (g a)) : Records (x >>= f) (y >>= g) := by
  intro l
  rw [ExceptT.run_bind, StateT.run_bind, map_bind, ExceptT.run_bind, ← hxy l, bind_map_left]
  refine bind_congr fun result => ?_
  cases result.1 with
  | error e => simp
  | ok a => exact hfg a result.2

/-- Of two actions that run side by side the first writes first. -/
theorem tryJoin {x : ExceptT ε (StateT (List L) m) α} {y : ExceptT ε m α}
    {x' : ExceptT ε (StateT (List L) m) β} {y' : ExceptT ε m β} (h : Records x y)
    (h' : Records x' y') (turns : Turns) :
    Records (EvidenceRank.tryJoin turns x x') (EvidenceRank.tryJoin turns y y') := by
  by_cases hturns : turns = .atOnce
  · subst hturns
    exact .bind h fun a => .bind h' fun b => .pure (a, b)
  · intro l
    rw [run_tryJoin_besides _ _ hturns, run_tryJoin_besides _ _ hturns, StateT.run_bind, map_bind,
      ← h l, bind_map_left]
    refine bind_congr fun result => ?_
    rw [StateT.run_bind, map_bind, ← h' result.2, bind_map_left]
    refine bind_congr fun result' => ?_
    rw [StateT.run_pure, map_pure]

/-- What may report an error writes what it writes as a part of what may halt. -/
theorem failing {x : ExceptT RankError (StateT (List L) m) α} {y : ExceptT RankError m α}
    (h : Records x y) : Records (Halt.failing x) (Halt.failing y) := by
  intro l
  rw [Halt.run_failing, Halt.run_failing, StateT.run_map, ← h l, ← comp_map, ← comp_map]
  rfl

theorem ordering (order : Option α) :
    Records (L := L) (Halt.ordering order : ExceptT Halt (StateT (List L) m) α)
      (Halt.ordering order) := by
  intro l
  simp

end Records
end EvidenceRank
