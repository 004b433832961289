/-!
# Joining computations

Two computations that may fail run side by side, and whoever waits for them (`try_join!`) goes on
when both have a result or when the first of them fails. The first is begun before the second. What
is left open is when they end: a computation that waits for an answer lets the other one begin.
`Turns` tells the ways apart, as far as they show.
-/

namespace EvidenceRank

/-- When two computations that run side by side come to their ends. -/
inductive Turns where
  /-- The first ends as soon as it is begun. The second is begun after that, if at all. -/
  | atOnce
  /-- Both are begun, and the first ends before the second. -/
  | firstEnds
  /-- Both are begun, and the second ends before the first. -/
  | secondEnds
deriving DecidableEq

variable {ε α β : Type}

/-- What is made of the ends of two computations that have both been begun. -/
def Turns.outcome : Turns → Except ε α → Except ε β → Except ε (α × β)
  | .secondEnds, x, y => do
    let b ← y
    let a ← x
    return (a, b)
  | _, x, y => do
    let a ← x
    let b ← y
    return (a, b)

/-- Run two computations side by side. If one fails, so does the whole, with the error that came
first; of a computation that is begun, all actions count. -/
def tryJoin {m : Type → Type} [Monad m] (turns : Turns) (first : ExceptT ε m α)
    (second : ExceptT ε m β) : ExceptT ε m (α × β) :=
  match turns with
  | .atOnce => do
    let a ← first
    let b ← second
    return (a, b)
  | turns => ExceptT.mk do
    let x ← first.run
    let y ← second.run
    return turns.outcome x y

end EvidenceRank
