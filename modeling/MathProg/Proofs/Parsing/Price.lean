import Mathlib.Algebra.GroupWithZero.Nat
import MathProg.Proofs.Parsing.Path

/-!
# Prices along a path

What a vertex of the stack costs is the sum over the trees below it. A reduction leaves the sum as it
is, and what is dropped on the way back costs more than nothing.
-/

namespace MathProg

open Automaton (State Rule lost reduction? successor?)

namespace Tree

/-- The price of trees beside each other. -/
def costs (ts : List Tree) : Nat := (ts.map cost).sum

theorem costs_nil : costs [] = 0 := rfl

theorem costs_cons (t : Tree) (ts : List Tree) : costs (t :: ts) = t.cost + costs ts := rfl

theorem costs_append (ts us : List Tree) : costs (ts ++ us) = costs ts + costs us := by
  rw [costs, List.map_append, List.sum_append]
  rfl

theorem costAll_append (ts us : List Tree) : costAll (ts ++ us) = costAll ts + costAll us := by
  induction ts with
  | nil => exact (Nat.zero_add _).symm
  | cons t ts ih => rw [List.cons_append, costAll, costAll, ih, Nat.add_assoc]

/-- Among trees that are no chains of skipped tokens none is left out. -/
theorem costAll_eq_costs {ts : List Tree} (h : EnclosedAll ts) : costAll ts = costs ts := by
  induction ts with
  | nil => rfl
  | cons t ts ih => rw [costAll, if_neg (by simpa using h.1), ih h.2.2, costs_cons]

theorem cost_node {s : Symbol} (as : List (Nat × Symbol)) (cs : List Tree) (e : Bool)
    (hs : isErroneous s = false) : (node s as cs e).cost = costAll cs := by
  rw [cost, hs]
  rfl

theorem cost_erroneous_pos {s : Symbol} (as : List (Nat × Symbol)) (cs : List Tree) (e : Bool)
    (hs : isErroneous s = true) : 0 < (node s as cs e).cost := by
  rw [cost, if_pos hs]
  have hprice : 0 < prices.recovery := by decide
  omega

theorem cost_read {l : Leaf} (h : l.origin = .read) : (leaf l).cost = 0 := by
  rw [cost, h]
  rfl

end Tree

namespace Spot

variable {source : List Char} {a b : Spot} {ts : List Tree} {n : Nat}

/-- A node and the extra trees behind it cost what they are made of. -/
theorem costs_reduce {place : Nat} {r : Rule} {s : State} {x : Symbol}
    (hr : reduction? s x = some r) (h : SoundAll source place ts) :
    Tree.costs (Tree.ofRule r (Tree.splitTrailingExtras ts).1 :: (Tree.splitTrailingExtras ts).2) =
      Tree.costs ts := by
  have hsymbol : Tree.isErroneous r.symbol = false := by
    have hlt := (Automaton.reduction_symbol hr).1
    rw [Tree.isErroneous, Bool.or_eq_false_iff, beq_eq_false_iff_ne, beq_eq_false_iff_ne]
    exact ⟨Nat.ne_of_lt (Nat.lt_trans hlt (by decide)), Nat.ne_of_lt hlt⟩
  obtain ⟨hsplit, -, -⟩ := Tree.splitTrailingExtras_spec ts
  have henclosed := h.enclosed
  rw [← hsplit, Tree.enclosedAll_append] at henclosed
  rw [Tree.costs_cons, Tree.ofRule, Tree.cost_node _ _ _ hsymbol,
    Tree.costAll_eq_costs henclosed.1, ← Tree.costs_append, hsplit]

/-- A reduction leads to a state of the automaton. -/
theorem Path.target_ne_lost {r : Rule} {x : Symbol} (hp : Path source a ts r.length b)
    (hb : b.state ≠ lost) (hr : reduction? b.state x = some r) : a.target r ≠ lost := by
  obtain ⟨s, hs⟩ := Option.isSome_iff_exists.mp (hp.successor hb hr)
  rw [target, hs]
  exact Nat.ne_of_gt (Nat.zero_lt_of_lt (Automaton.start_lt_successor hs))

/-- What is dropped costs something, if it costs something as it stands or if any of it counts. -/
theorem costs_dropped_pos (h : 0 < Tree.costs ts ∨ ∃ t ∈ ts, t.extra = false) :
    0 < Tree.costs (dropped ts) := by
  obtain ⟨hsplit, -, hextra⟩ := Tree.splitTrailingExtras_spec ts
  rw [dropped, Tree.costs_append]
  split
  · rename_i hnil
    rw [List.isEmpty_iff.mp hnil, List.nil_append] at hsplit
    rw [hsplit] at hextra ⊢
    rcases h with h | ⟨t, ht, he⟩
    · exact Nat.lt_of_lt_of_le h (Nat.le_add_left _ _)
    · rw [hextra t ht] at he
      cases he
  · have herror := Tree.cost_erroneous_pos [] (Tree.splitTrailingExtras ts).1 true
      (by decide : Tree.isErroneous Symbol.error = true)
    rw [Tree.costs_cons, Tree.ofError]
    omega

end Spot

end MathProg
