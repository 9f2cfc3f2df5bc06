import MathProg.Node.Cursor

/-!
The nodes of a subtree one after the other, each before its children. An iteration is asked for one node at a
time, and has none left once its cursor cannot go on.
-/

namespace MathProg

/-- An iteration over a node and all nodes below it. -/
structure Descendants where
  cursor : Cursor
  done : Bool
  deriving Inhabited

namespace Descendants

def ofNode (n : Node) : Descendants := ⟨Cursor.ofNode n, false⟩

/-- The next node, and the iteration behind it. -/
def next (d : Descendants) : Option Node × Descendants :=
  if d.done then (none, d)
  else
    match d.cursor.next? true with
    | some c => (some d.cursor.node, { d with cursor := c })
    | none => (some d.cursor.node, { d with done := true })

/-- The answer to a question for the next node, after so many earlier ones. -/
def answer (d : Descendants) : Nat → Option Node
  | 0 => d.next.1
  | k + 1 => d.next.2.answer k

/-- How many nodes are left. -/
def count (d : Descendants) : Nat := if d.done then 0 else d.cursor.ahead

theorem count_next {d e : Descendants} {n : Node} (h : d.next = (some n, e)) : e.count < d.count := by
  unfold next at h
  split at h
  · cases h
  · rename_i hdone
    have hcount : d.count = d.cursor.ahead := if_neg hdone
    split at h
    · rename_i c hc
      cases h
      have he : count { d with cursor := c } = c.ahead := if_neg hdone
      rw [hcount, he]
      exact Cursor.ahead_next hc
    · cases h
      rw [hcount]
      exact Nat.lt_of_lt_of_le (Cursor.length_preorder_pos d.cursor.node) (Nat.le_add_right _ _)

/-- All nodes that are left. -/
def toList (d : Descendants) : List Node :=
  match _h : d.next with
  | (some n, e) => n :: e.toList
  | (none, _) => []
termination_by d.count
decreasing_by exact count_next _h

end Descendants

/-- A node and all nodes below it. -/
def Node.descendants (n : Node) : List Node := (Descendants.ofNode n).toList

end MathProg
