import MathProg.Proofs.Node.Cursor
import MathProg.Proofs.Parsing.Lossless
import MathProg.Session

/-!
# All errors are reported

A node is marked if there is an error or a supplied token at it or below it. Where all marks are
right, a walk that follows them finds all errors, and the marks in the tree of a text are right.
-/

namespace MathProg

namespace Node

/-- Whether a node is an error or a supplied token. -/
def isFault (n : Node) : Bool := n.isError || n.isMissing

mutual

/-- Whether the marks in a tree are right, inside errors apart. -/
def Marked : Node → Prop
  | mk i cs => i.hasError = (mk i cs).preorder.any isFault ∧
      ((mk i cs).isFault = true ∨ MarkedAll cs)

def MarkedAll : List Node → Prop
  | [] => True
  | n :: ns => Marked n ∧ MarkedAll ns

end

theorem markedAll_append {ns ms : List Node} : MarkedAll (ns ++ ms) ↔ MarkedAll ns ∧ MarkedAll ms := by
  induction ns with
  | nil => exact (true_and _).symm.to_iff
  | cons n ns ih => rw [List.cons_append, MarkedAll, MarkedAll, ih, and_assoc]

theorem Marked.hasError {n : Node} (h : n.Marked) : n.hasError = n.preorder.any isFault := by
  cases n with
  | mk i cs => exact h.1

theorem any_preorder (i : Info) (cs : List Node) (p : Node → Bool) :
    (mk i cs).preorder.any p = (p (mk i cs) || (preorderAll cs).any p) := by
  rw [preorder, List.any_cons]

theorem any_preorderAll_cons (n : Node) (ns : List Node) (p : Node → Bool) :
    (preorderAll (n :: ns)).any p = (n.preorder.any p || (preorderAll ns).any p) := by
  rw [preorderAll, List.any_append]

theorem isFault_infoOf (alias? : Option Symbol) (base : Extent) (t : Tree) (cs : List Node) :
    (mk (infoOf alias? base t) cs).isFault = (t.isError || t.isMissing) := rfl

end Node

namespace Tree

theorem hasError_leaf (l : Leaf) : (leaf l).hasError = (leaf l).isMissing := by
  rw [hasError, cost, isMissing]
  cases l.origin == Leaf.Origin.supplied <;> rfl

/-- An error is never free. -/
theorem hasError_erroneous {s : Symbol} (as : List (Nat × Symbol)) (cs : List Tree) (e : Bool)
    (hs : isErroneous s = true) : (node s as cs e).hasError = true := by
  rw [hasError, cost, if_pos hs]
  simp [prices]

theorem hasError_node {s : Symbol} (as : List (Nat × Symbol)) (cs : List Tree) (e : Bool)
    (hs : isErroneous s = false) : (node s as cs e).hasError = (costAll cs != 0) := by
  rw [hasError, cost, hs]
  rfl

theorem costAll_cons_ne_zero {c : Tree} {cs : List Tree} (hc : c.symbol ≠ Symbol.skipped) :
    (costAll (c :: cs) != 0) = (c.hasError || (costAll cs != 0)) := by
  rw [costAll, if_neg (by simpa using hc), hasError]
  cases hcost : c.cost with
  | zero => simp
  | succ k => simp

theorem isError_of_erroneous {s : Symbol} (as : List (Nat × Symbol)) (cs : List Tree) (e : Bool)
    (hs : isErroneous s = true) (hw : (node s as cs e).symbol ≠ Symbol.skipped) :
    (node s as cs e).isError = true := by
  rw [isErroneous, Bool.or_eq_true] at hs
  rcases hs with hs | hs
  · exact hs
  · exact absurd (beq_iff_eq.mp hs) hw

theorem isError_of_not_erroneous {s : Symbol} {as : List (Nat × Symbol)} {cs : List Tree} {e : Bool}
    (hs : isErroneous s = false) : (node s as cs e).isError = false := by
  rw [isErroneous, Bool.or_eq_false_iff] at hs
  exact hs.1

/-- What is hidden is no error and no supplied token. -/
theorem not_fault_of_hidden {t : Tree} (h : t.Enclosed) (hv : t.isVisible = false) :
    t.isError = false ∧ t.isMissing = false := by
  constructor
  · by_contra herror
    rw [Bool.not_eq_false, isError, beq_iff_eq] at herror
    rw [isVisible, herror] at hv
    exact absurd hv (by decide)
  · cases t with
    | leaf l =>
      by_contra hmissing
      rw [Bool.not_eq_false, isMissing, beq_iff_eq] at hmissing
      rw [isVisible, symbol, h.2 hmissing] at hv
      cases hv
    | node s as cs e => rfl

open Node (shown shownAmong infoOf isFault preorderAll Marked MarkedAll)

mutual

/-- In a tree that shows its errors the marks are right. -/
theorem marked_of_enclosed : ∀ (t : Tree) (base : Extent), t.Enclosed →
    t.symbol ≠ Symbol.skipped →
    (t.isError = true ∨ MarkedAll (shown base t)) ∧
      t.hasError = (t.isError || t.isMissing || (preorderAll (shown base t)).any isFault)
  | leaf l, base, h, _ => by
    have hnone : (leaf l).isError = false := beq_eq_false_iff_ne.mpr h.1
    refine ⟨Or.inr trivial, ?_⟩
    rw [hasError_leaf, hnone]
    exact (Bool.or_false _).symm
  | node s as cs e, base, h, hw => by
    by_cases hs : isErroneous s = true
    · have herror := isError_of_erroneous as cs e hs hw
      refine ⟨Or.inl herror, ?_⟩
      rw [hasError_erroneous as cs e hs, herror]
      rfl
    · rw [Bool.not_eq_true] at hs
      have hall : EnclosedAll cs := h.resolve_left (by simp [hs])
      obtain ⟨hmarked, hany⟩ := marked_of_enclosedAll as 0 cs base hall
      refine ⟨Or.inr hmarked, ?_⟩
      rw [hasError_node as cs e hs, isError_of_not_erroneous hs, hany]
      rfl

theorem marked_of_enclosedAll (as : List (Nat × Symbol)) : ∀ (place : Nat) (cs : List Tree)
    (base : Extent), EnclosedAll cs →
    MarkedAll (shownAmong as place base cs) ∧
      (costAll cs != 0) = (preorderAll (shownAmong as place base cs)).any isFault
  | _, [], _, _ => ⟨trivial, rfl⟩
  | place, c :: cs, base, h => by
    obtain ⟨hw, hc, hcs⟩ := h
    obtain ⟨hmarked, hany⟩ := marked_of_enclosed c base hc hw
    obtain ⟨hmarkedAll, hanyAll⟩ :=
      marked_of_enclosedAll as (advance place c) cs (base + c.total) hcs
    rw [costAll_cons_ne_zero hw, hanyAll, shownAmong]
    split
    · -- The child shows, and its mark is its own.
      rw [List.singleton_append, MarkedAll, Node.any_preorderAll_cons, Node.any_preorder,
        Node.isFault_infoOf, ← hany]
      refine ⟨⟨⟨?_, ?_⟩, hmarkedAll⟩, rfl⟩
      · rw [Node.any_preorder, Node.isFault_infoOf, ← hany]
        rfl
      · rw [Node.isFault_infoOf]
        rcases hmarked with herror | hmarked
        · exact Or.inl (by rw [herror]; rfl)
        · exact Or.inr hmarked
    · -- What is hidden is no error, and has no mark but those below it.
      rename_i hhidden
      rw [Bool.or_eq_true, not_or] at hhidden
      obtain ⟨herror, hmissing⟩ := not_fault_of_hidden hc (by simpa using hhidden.2)
      rw [herror, hmissing] at hany
      refine ⟨Node.markedAll_append.mpr ⟨?_, hmarkedAll⟩, ?_⟩
      · exact hmarked.resolve_left (by simp [herror])
      · rw [Node.preorderAll_append, List.any_append, hany]
        rfl

end

end Tree

namespace SyntaxError

variable (source : List Char)

mutual

/-- Every error and every supplied token at a node and below it, no mark being looked at. What is
inside an error is part of it. -/
def reportAll : Node → List SyntaxError
  | .mk i cs =>
    if (Node.mk i cs).isMissing then [atNode (.mk i cs) (lacking (.mk i cs))]
    else if (Node.mk i cs).isError then
      [atNode (.mk i cs) (unexpected ((Node.mk i cs).text source))]
    else reportEach cs

def reportEach : List Node → List SyntaxError
  | [] => []
  | n :: ns => reportAll n ++ reportEach ns

end

open Node (isFault preorderAll Marked MarkedAll)

mutual

/-- There is nothing to report only where there is no error and no supplied token. -/
theorem reportAll_eq_nil : ∀ n : Node, reportAll source n = [] ↔ n.preorder.any isFault = false
  | .mk i cs => by
    rw [reportAll, Node.any_preorder, isFault]
    cases hmissing : (Node.mk i cs).isMissing with
    | true => simp
    | false =>
      cases herror : (Node.mk i cs).isError with
      | true => simp
      | false =>
        rw [if_neg Bool.false_ne_true, if_neg Bool.false_ne_true, reportEach_eq_nil cs]
        rfl

theorem reportEach_eq_nil : ∀ ns : List Node,
    reportEach source ns = [] ↔ (preorderAll ns).any isFault = false
  | [] => iff_of_true rfl rfl
  | n :: ns => by
    rw [reportEach, List.append_eq_nil_iff, reportAll_eq_nil n, reportEach_eq_nil ns,
      Node.any_preorderAll_cons, Bool.or_eq_false_iff]

end

mutual

/-- Where the marks are right, nothing is lost below a node without a mark. -/
theorem reports_eq_reportAll : ∀ n : Node, n.Marked →
    Cursor.reports (visit source) n = reportAll source n
  | .mk i cs, ⟨hmark, hbelow⟩ => by
    rw [Cursor.reports, reportAll, visit]
    rw [Node.any_preorder] at hmark
    cases hmissing : (Node.mk i cs).isMissing with
    | true => simp
    | false =>
      cases herror : (Node.mk i cs).isError with
      | true => simp
      | false =>
        have hnone : (Node.mk i cs).isFault = false := by rw [isFault, herror, hmissing]; rfl
        rw [hnone, Bool.false_or] at hmark
        rw [if_neg Bool.false_ne_true, if_neg Bool.false_ne_true, if_neg Bool.false_ne_true,
          if_neg Bool.false_ne_true, List.nil_append]
        change (if i.hasError = true then _ else []) = _
        cases hi : i.hasError with
        | true =>
          rw [if_pos rfl]
          exact reportsAll_eq_reportEach cs (hbelow.resolve_left (by simp [hnone]))
        | false => rw [if_neg Bool.false_ne_true, (reportEach_eq_nil source cs).mpr (hmark ▸ hi)]

theorem reportsAll_eq_reportEach : ∀ ns : List Node, MarkedAll ns →
    Cursor.reportsAll (visit source) ns = reportEach source ns
  | [], _ => rfl
  | n :: ns, ⟨hn, hns⟩ => by
    rw [Cursor.reportsAll, reportEach, reports_eq_reportAll n hn, reportsAll_eq_reportEach ns hns]

end

/-- Where the marks are right, all errors of a tree are reported. -/
theorem ofRoot_eq_reportAll {root : Node} (h : root.Marked) :
    ofRoot source root = reportAll source root := by
  rw [ofRoot, Cursor.walk_ofNode, reports_eq_reportAll source root h]
  split
  · rfl
  · rename_i hmark
    rw [Bool.not_eq_true, h.hasError] at hmark
    exact ((reportAll_eq_nil source root).mpr hmark).symm

end SyntaxError

/-- The marks in the tree of a text are right. -/
theorem marked_of_whole {source : List Char} {t : Tree} (h : t.Whole source) :
    (Node.ofTree t).Marked := by
  obtain ⟨hw, henclosed, -⟩ := h.enclosed
  obtain ⟨hmarked, hany⟩ := Tree.marked_of_enclosed t 0 henclosed hw
  rw [Node.ofTree, Node.Marked, Node.any_preorder, Node.isFault_infoOf, ← hany]
  refine ⟨rfl, ?_⟩
  rcases hmarked with herror | hmarked
  · exact Or.inl (by rw [herror]; rfl)
  · exact Or.inr hmarked

/-- All errors of a text are reported. -/
theorem Document.errors_eq_reportAll {source : List Char} {d : Document}
    (h : Document.ofText? source = some d) : d.errors = SyntaxError.reportAll source d.root := by
  obtain ⟨t, ht, rfl⟩ := Option.map_eq_some_iff.mp h
  exact SyntaxError.ofRoot_eq_reportAll source (marked_of_whole (parse_whole ht))

/-- For every text the mark at the root, the list of errors and the nodes of the tree tell alike whether
there are errors, and the list has all of them. -/
theorem Document.errors_complete {source : List Char} {d : Document}
    (h : Document.ofText? source = some d) :
    (d.root.hasError = true ↔ d.errors ≠ []) ∧
      (d.root.hasError = true ↔ ∃ n ∈ d.root.preorder, n.isError = true ∨ n.isMissing = true) ∧
      d.errors = SyntaxError.reportAll source d.root := by
  have hall := errors_eq_reportAll h
  obtain ⟨t, ht, rfl⟩ := Option.map_eq_some_iff.mp h
  have hmarked := marked_of_whole (parse_whole ht)
  refine ⟨?_, ?_, hall⟩
  · rw [hall, hmarked.hasError, ne_eq, SyntaxError.reportAll_eq_nil, Bool.not_eq_false]
  · rw [hmarked.hasError, List.any_eq_true]
    simp only [Node.isFault, Bool.or_eq_true]

theorem Document.errors_complete_missing :
    ∃ d, Document.ofText? "set I;set".toList = some d ∧
      (d.root.hasError = true ↔ d.errors ≠ []) ∧
      (d.root.hasError = true ↔ ∃ n ∈ d.root.preorder, n.isError = true ∨ n.isMissing = true) ∧
      d.errors = SyntaxError.reportAll "set I;set".toList d.root := by
  have h : (Document.ofText? "set I;set".toList).any (·.root.hasError) = true := by
    decide +kernel
  obtain ⟨d, hd, -⟩ := (Option.any_eq_true _ _).mp h
  exact ⟨d, hd, errors_complete hd⟩

end MathProg
