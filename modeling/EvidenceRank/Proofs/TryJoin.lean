import EvidenceRank.Proofs.Reranker
import EvidenceRank.TryJoin

/-!
# Results of joined computations

Whatever turns two joined computations take, both end with a result or one of them fails (`Joined`),
and what is said of the results of each is said of what comes of both (`Ensures.tryJoin`). The turns
tell which actions are taken and whose error it is: `run_tryJoin_atOnce` and `run_tryJoin_besides`
write the joined computation out as actions in their order.

A computation without actions ends at once, whoever it is joined with, so there the turns do not
matter (`tryJoin_pure_left`, `tryJoin_pure_right`).
-/

namespace EvidenceRank

variable {ε : Type} {m : Type → Type} [Monad m] {α β : Type}

/-- What comes of two joined computations: both results, or the error of one of them. -/
inductive Joined (p : Except ε α → Prop) (q : Except ε β → Prop) : Except ε (α × β) → Prop
  | both {a : α} {b : β} (ha : p (.ok a)) (hb : q (.ok b)) : Joined p q (.ok (a, b))
  | first {e : ε} (he : p (.error e)) : Joined p q (.error e)
  | second {e : ε} (he : q (.error e)) : Joined p q (.error e)

theorem Turns.outcome_joined (turns : Turns) {p : Except ε α → Prop} {q : Except ε β → Prop}
    {x : Except ε α} {y : Except ε β} (hx : p x) (hy : q y) :
    Joined p q (turns.outcome x y) := by
  cases x with
  | ok a =>
    cases y with
    | ok b => cases turns <;> exact .both hx hy
    | error e => cases turns <;> exact .second hy
  | error e =>
    cases y with
    | ok b => cases turns <;> exact .first hx
    | error e' =>
      cases turns with
      | secondEnds => exact .second hy
      | atOnce | firstEnds => exact .first hx

variable (first : ExceptT ε m α) (second : ExceptT ε m β)

/-- A first computation that ends at once lets the second begin if it has a result. -/
theorem run_tryJoin_atOnce : (tryJoin .atOnce first second).run = do
    match ← first.run with
    | .error e => return .error e
    | .ok a => return (a, ·) <$> (← second.run) := by
  unfold tryJoin
  rw [ExceptT.run_bind]
  refine bind_congr fun x => ?_
  cases x with
  | error e => rfl
  | ok a =>
    refine (ExceptT.run_bind _ _).trans (bind_congr fun y => ?_)
    cases y <;> rfl

/-- Where the first does not end at once both are begun, and their ends tell what comes of them. -/
theorem run_tryJoin_besides {turns : Turns} (h : turns ≠ .atOnce) :
    (tryJoin turns first second).run = do
      let x ← first.run
      let y ← second.run
      return turns.outcome x y := by
  cases turns with
  | atOnce => exact absurd rfl h
  | firstEnds => rfl
  | secondEnds => rfl

variable [LawfulMonad m]

/-- **Two joined computations both have a result, or one of them fails.** -/
theorem Ensures.tryJoin {first : ExceptT ε m α} {second : ExceptT ε m β}
    {p : Except ε α → Prop} {q : Except ε β → Prop} (hx : Ensures first.run p)
    (hy : Ensures second.run q) (turns : Turns) :
    Ensures (tryJoin turns first second).run (Joined p q) := by
  by_cases h : turns = .atOnce
  · rw [h, run_tryJoin_atOnce]
    refine hx.bind fun x hpx => ?_
    cases x with
    | error e => exact Ensures.pure (.first hpx)
    | ok a =>
      refine hy.bind fun y hqy => ?_
      cases y with
      | error e => exact Ensures.pure (.second hqy)
      | ok b => exact Ensures.pure (.both hpx hqy)
  · rw [run_tryJoin_besides _ _ h]
    exact hx.bind fun x hpx => hy.bind fun y hqy => Ensures.pure (turns.outcome_joined hpx hqy)

/-! ## Joined results -/

theorem Turns.outcome_map {α' β' : Type} (turns : Turns) (f : α → α') (g : β → β')
    (x : Except ε α) (y : Except ε β) :
    turns.outcome (f <$> x) (g <$> y) = Prod.map f g <$> turns.outcome x y := by
  cases turns <;> cases x <;> cases y <;> rfl

/-- What is made of each result is made of both. -/
theorem tryJoin_map {α' β' : Type} (turns : Turns) (f : α → α') (g : β → β') :
    tryJoin turns (f <$> first) (g <$> second) = Prod.map f g <$> tryJoin turns first second := by
  refine ExceptT.ext ?_
  rw [ExceptT.run_map]
  by_cases h : turns = .atOnce
  · simp only [h, run_tryJoin_atOnce, ExceptT.run_map, bind_map_left, map_bind]
    refine bind_congr fun x => ?_
    cases x with
    | error e => simp [Except.map]
    | ok a =>
      simp only [Except.map, map_bind, map_pure]
      refine bind_congr fun y => ?_
      cases y <;> rfl
  · simp only [run_tryJoin_besides _ _ h, ExceptT.run_map, bind_map_left, map_bind, map_pure]
    refine bind_congr fun x => bind_congr fun y => congrArg pure ?_
    exact turns.outcome_map f g x y

/-! ## Turns of computations that only fail -/

/-- Where the first has no effect but its result, it does not matter that the second is not
begun. -/
theorem run_tryJoin_id {first : ExceptT ε Id α} {second : ExceptT ε Id β} (turns : Turns) :
    (tryJoin turns first second).run.run = turns.outcome first.run.run second.run.run := by
  by_cases h : turns = .atOnce
  · subst h
    rw [run_tryJoin_atOnce]
    cases hfirst : first.run.run with
    | error e => simp [hfirst, Turns.outcome]; rfl
    | ok a => cases hsecond : second.run.run <;> simp [hfirst, hsecond, Turns.outcome] <;> rfl
  · rw [run_tryJoin_besides _ _ h]
    rfl

/-- **Turns tell no more than whose error it is.** -/
theorem Turns.outcome_alike (turns turns' : Turns) (x : Except ε α) (y : Except ε β) :
    turns.outcome x y = turns'.outcome x y ∨
      ∃ e e', turns.outcome x y = .error e ∧ turns'.outcome x y = .error e' := by
  cases x with
  | ok a => cases y <;> cases turns <;> cases turns' <;> exact Or.inl rfl
  | error e =>
    cases y with
    | ok b => cases turns <;> cases turns' <;> exact Or.inl rfl
    | error e' => cases turns <;> cases turns' <;> exact Or.inr ⟨_, _, rfl, rfl⟩

/-! ## Computations without actions -/

theorem tryJoin_pure_left (turns : Turns) (a : α) :
    tryJoin turns (pure a) second = (a, ·) <$> second := by
  refine ExceptT.ext ?_
  by_cases h : turns = .atOnce
  · rw [h, run_tryJoin_atOnce, ExceptT.run_pure, pure_bind, ExceptT.run_map]
    exact bind_pure_comp _ _
  · rw [run_tryJoin_besides _ _ h, ExceptT.run_pure, pure_bind, ExceptT.run_map]
    refine (bind_congr fun y => ?_).trans (bind_pure_comp _ _)
    cases turns <;> cases y <;> rfl

theorem tryJoin_pure_right (turns : Turns) (b : β) :
    tryJoin turns first (pure b) = (·, b) <$> first := by
  refine ExceptT.ext ?_
  by_cases h : turns = .atOnce
  · rw [h, run_tryJoin_atOnce, ExceptT.run_map, ← bind_pure_comp]
    refine bind_congr fun x => ?_
    cases x with
    | error e => rfl
    | ok a =>
      rw [ExceptT.run_pure]
      exact pure_bind _ _
  · rw [run_tryJoin_besides _ _ h, ExceptT.run_map, ← bind_pure_comp]
    refine bind_congr fun x => ?_
    rw [ExceptT.run_pure, pure_bind]
    cases turns <;> cases x <;> rfl

end EvidenceRank
