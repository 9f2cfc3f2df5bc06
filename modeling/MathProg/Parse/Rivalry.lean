import MathProg.Parse.Stack

/-!
Which of several readings of a text is the better one.
-/

namespace MathProg

/-- What readings are compared by. -/
structure Standing where
  cost : Nat
  progress : Nat
  inError : Bool
  deriving DecidableEq, Repr, Inhabited

/-- The outcome of a comparison: one side wins outright, or is only preferred, or neither. -/
inductive Verdict where
  | takeLeft
  | preferLeft
  | neither
  | preferRight
  | takeRight
  deriving DecidableEq, Repr, Inhabited

namespace Standing

/-- How much cheaper a reading may be, times its progress, before the other one is dropped. -/
def maxCostDifference : Nat := 1800

/-- A reading that is out of error beats one that is not, outright if it is cheaper as well. Else
the cheaper one is preferred, and wins outright if it leads by far or has come far. -/
def compare (a b : Standing) : Verdict :=
  if !a.inError && b.inError then
    if a.cost < b.cost then .takeLeft else .preferLeft
  else if a.inError && !b.inError then
    if b.cost < a.cost then .takeRight else .preferRight
  else if a.cost < b.cost then
    if (b.cost - a.cost) * (1 + a.progress) > maxCostDifference then .takeLeft else .preferLeft
  else if b.cost < a.cost then
    if (a.cost - b.cost) * (1 + b.progress) > maxCostDifference then .takeRight else .preferRight
  else .neither

end Standing

namespace Stack

/-- The standing of a reading. One that waits has a token to skip. -/
def standing (g : Stack) (v : Nat) : Standing × Stack :=
  let paused := g.isPaused v
  let cost := g.cost v + (if paused then Tree.prices.skippedTree else 0)
  let (progress, g) := g.progress v
  (⟨cost, progress, paused || g.state v == Automaton.lost⟩, g)

/-- Whether a reading other than `v` is better than `v` would be with this price. -/
def hasBetter (g : Stack) (v : Nat) (standing : Standing) (place : Nat) : Nat → Nat → Bool × Stack
  | 0, _ => (false, g)
  | fuel + 1, i =>
    if i ≥ g.size then (false, g)
    else if i == v || !g.isActive i || (g.position i).bytes < place then
      hasBetter g v standing place fuel (i + 1)
    else
      let (other, g) := g.standing i
      match standing.compare other with
      | .takeRight => (true, g)
      | .preferRight =>
        if g.canMerge i v then (true, g) else hasBetter g v standing place fuel (i + 1)
      | _ => hasBetter g v standing place fuel (i + 1)

end Stack

end MathProg
