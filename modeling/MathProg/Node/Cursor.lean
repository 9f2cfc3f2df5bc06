import MathProg.Node

/-!
Walking through a tree with a cursor. A cursor stands at a node and can go to the node's first child,
to its next sibling and to its parent, and never leaves the subtree it was made for.
-/

namespace MathProg

/-- A node, the siblings behind it, and the nodes above it, the nearest first, each with the siblings
behind that. -/
structure Cursor where
  node : Node
  behind : List Node
  above : List (Node × List Node)
  deriving Inhabited

namespace Cursor

/-- A cursor that has a node's subtree to walk through. -/
def ofNode (n : Node) : Cursor := ⟨n, [], []⟩

def firstChild? (c : Cursor) : Option Cursor :=
  match c.node.children with
  | n :: ns => some ⟨n, ns, (c.node, c.behind) :: c.above⟩
  | [] => none

def nextSibling? (c : Cursor) : Option Cursor :=
  match c.behind with
  | n :: ns => some ⟨n, ns, c.above⟩
  | [] => none

def parent? (c : Cursor) : Option Cursor :=
  match c.above with
  | (n, ns) :: rest => some ⟨n, ns, rest⟩
  | [] => none

theorem length_above_parent {c p : Cursor} (h : c.parent? = some p) :
    p.above.length < c.above.length := by
  obtain ⟨n, ns, above⟩ := c
  cases above with
  | nil => cases h
  | cons a rest =>
    cases h
    exact Nat.lt_succ_self _

/-- Goes on behind the node: to the next sibling, or to that of the nearest node above that has
one. -/
def onward? (c : Cursor) : Option Cursor :=
  match c.nextSibling? with
  | some d => some d
  | none =>
    match _h : c.parent? with
    | some p => p.onward?
    | none => none
termination_by c.above.length
decreasing_by exact length_above_parent _h

/-- Goes on to the first child if the walk goes down, and behind the node if it does not or there is
no child. -/
def next? (c : Cursor) (down : Bool) : Option Cursor :=
  match if down then c.firstChild? else none with
  | some d => some d
  | none => c.onward?

/-! ### What is still ahead -/

/-- How many nodes there are behind the nodes above. -/
def countAbove : List (Node × List Node) → Nat
  | [] => 0
  | (_, ns) :: rest => (Node.preorderAll ns).length + countAbove rest

/-- How many nodes a walk comes to behind the node where it stands. -/
def countBehind (c : Cursor) : Nat := (Node.preorderAll c.behind).length + countAbove c.above

/-- How many nodes a walk comes to, the one where it stands included. -/
def ahead (c : Cursor) : Nat := c.node.preorder.length + c.countBehind

theorem ahead_cons (n : Node) (ns : List Node) (above : List (Node × List Node)) :
    ahead ⟨n, ns, above⟩ = (Node.preorderAll (n :: ns)).length + countAbove above := by
  rw [Node.preorderAll, List.length_append]
  exact (Nat.add_assoc _ _ _).symm

theorem ahead_firstChild {c d : Cursor} (h : c.firstChild? = some d) : d.ahead < c.ahead := by
  obtain ⟨⟨i, cs⟩, ns, above⟩ := c
  cases cs with
  | nil => cases h
  | cons n cs =>
    cases h
    rw [ahead_cons, countAbove]
    simp only [ahead, countBehind, Node.preorder, List.length_cons]
    omega

theorem ahead_onward {c d : Cursor} (h : c.onward? = some d) : d.ahead ≤ c.countBehind := by
  obtain ⟨n, ns, above⟩ := c
  induction above generalizing n ns with
  | nil =>
    rw [onward?] at h
    cases ns with
    | nil => cases h
    | cons m ns =>
      cases h
      exact Nat.le_of_eq (ahead_cons m ns [])
  | cons a rest ih =>
    rw [onward?] at h
    cases ns with
    | nil =>
      have hle := ih a.1 a.2 h
      simpa [countBehind, countAbove, Node.preorderAll] using hle
    | cons m ns =>
      cases h
      exact Nat.le_of_eq (ahead_cons m ns (a :: rest))

theorem length_preorder_pos (n : Node) : 0 < n.preorder.length := by
  cases n with
  | mk i cs => exact Nat.succ_pos _

theorem ahead_next {c d : Cursor} {down : Bool} (h : c.next? down = some d) : d.ahead < c.ahead := by
  have hpos := length_preorder_pos c.node
  have honward : c.onward? = some d → d.ahead < c.ahead := fun h => by
    have hle := ahead_onward h
    change d.ahead < c.node.preorder.length + c.countBehind
    omega
  rw [next?] at h
  split at h
  · rename_i e he
    cases h
    split at he
    · exact ahead_firstChild he
    · cases he
  · exact honward h

/-! ### Walks -/

/-- Walks through a subtree. A visit to a node tells what the node has to report, and whether to go
down from it. -/
def walk {α : Type} (visit : Node → List α × Bool) (c : Cursor) : List α :=
  match _h : c.next? (visit c.node).2 with
  | some d => (visit c.node).1 ++ d.walk visit
  | none => (visit c.node).1
termination_by c.ahead
decreasing_by exact ahead_next _h

end Cursor

end MathProg
