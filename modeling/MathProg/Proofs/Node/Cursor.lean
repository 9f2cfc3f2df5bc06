import MathProg.Node.Cursor

/-!
# Walks are recursions

A walk with a cursor reports what a recursion over the subtree reports: the children of a node come
behind it, and behind them what is behind the node.
-/

namespace MathProg.Cursor

variable {α : Type} (visit : Node → List α × Bool)

mutual

/-- What visits have to report of a node and of the nodes below it that they go down to. -/
def reports : Node → List α
  | .mk i cs => (visit (.mk i cs)).1 ++ if (visit (.mk i cs)).2 then reportsAll cs else []

def reportsAll : List Node → List α
  | [] => []
  | n :: ns => reports n ++ reportsAll ns

end

/-- What visits have to report of the nodes behind those above. -/
def reportsAbove : List (Node × List Node) → List α
  | [] => []
  | (_, ns) :: rest => reportsAll visit ns ++ reportsAbove rest

/-- What visits have to report of the nodes behind the one where a cursor stands. -/
def reportsBehind (c : Cursor) : List α := reportsAll visit c.behind ++ reportsAbove visit c.above

/-- What visits have to report from a cursor on. -/
def reportsFrom (c : Cursor) : List α := reports visit c.node ++ reportsBehind visit c

theorem reportsFrom_cons (n : Node) (ns : List Node) (above : List (Node × List Node)) :
    reportsFrom visit ⟨n, ns, above⟩ = reportsAll visit (n :: ns) ++ reportsAbove visit above := by
  rw [reportsAll, List.append_assoc]
  rfl

theorem onward_reports (c : Cursor) :
    c.onward?.elim [] (reportsFrom visit) = reportsBehind visit c := by
  obtain ⟨n, ns, above⟩ := c
  induction above generalizing n ns with
  | nil =>
    rw [onward?]
    cases ns with
    | nil => rfl
    | cons m ns => exact reportsFrom_cons visit m ns []
  | cons a rest ih =>
    rw [onward?]
    cases ns with
    | nil => exact ih a.1 a.2
    | cons m ns => exact reportsFrom_cons visit m ns (a :: rest)

theorem next_reports (c : Cursor) (down : Bool) :
    (c.next? down).elim [] (reportsFrom visit) =
      (if down then reportsAll visit c.node.children else []) ++ reportsBehind visit c := by
  obtain ⟨⟨i, cs⟩, ns, above⟩ := c
  rw [next?]
  cases down with
  | false => exact onward_reports visit _
  | true =>
    cases cs with
    | nil => exact onward_reports visit _
    | cons m cs =>
      have hfirst := reportsFrom_cons visit m cs ((.mk i (m :: cs), ns) :: above)
      rw [reportsAbove] at hfirst
      exact hfirst

/-- A walk from a cursor reports what the visits to all nodes from there on have to report. -/
theorem walk_eq (c : Cursor) : c.walk visit = reportsFrom visit c := by
  induction h : c.ahead using Nat.strongRecOn generalizing c with
  | _ k ih =>
    have hnode : reports visit c.node =
        (visit c.node).1 ++ if (visit c.node).2 then reportsAll visit c.node.children else [] := by
      cases c.node with
      | mk i cs => rw [reports, Node.children]
    have hnext := next_reports visit c (visit c.node).2
    rw [reportsFrom, hnode, List.append_assoc, ← hnext, walk]
    split
    · rename_i d hd
      have hlt := ahead_next hd
      rw [hd, Option.elim_some]
      exact congrArg _ (ih d.ahead (h ▸ hlt) d rfl)
    · rename_i hd
      rw [hd]
      exact (List.append_nil _).symm

theorem walk_ofNode (n : Node) : (ofNode n).walk visit = reports visit n := by
  rw [walk_eq]
  exact List.append_nil _

end MathProg.Cursor
