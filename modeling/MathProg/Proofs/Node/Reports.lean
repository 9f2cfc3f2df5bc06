import MathProg.Proofs.Command.Findings
import MathProg.Proofs.Node.Insertion

/-!
# Reports in the order of the text

The nodes that errors are reported at lie behind each other. A token that the text lacks takes up no text,
and what is quoted of an error is the text at its place.
-/

namespace MathProg

/-- Whether a point is not behind another one. -/
def Point.AtOrBefore (p q : Point) : Prop := p.row < q.row ∨ p.row = q.row ∧ p.column ≤ q.column

theorem IsPlace.point_le {source : List Char} {e e' : Extent} (h : IsPlace source e) (h' : IsPlace source e')
    (hle : e.chars ≤ e'.chars) : e.point.AtOrBefore e'.point := by
  obtain ⟨n, hn⟩ := Nat.exists_eq_add_of_le hle
  have hsplit : e' = e + Extent.ofChars ((source.drop e.chars).take n) := by
    rw [h'.extent, hn, List.take_add, Extent.ofChars_append, ← h.extent]
  generalize Extent.ofChars ((source.drop e.chars).take n) = x at hsplit
  rw [hsplit]
  by_cases hx : x.rows = 0
  · right
    constructor
    · change e.rows = e.rows + x.rows
      rw [hx, Nat.add_zero]
    · change e.column ≤ if x.rows = 0 then e.column + x.column else x.column
      rw [if_pos hx]
      exact Nat.le_add_right _ _
  · left
    change e.rows < e.rows + x.rows
    omega

namespace Node

mutual

/-- The outermost errors and supplied tokens at a node and below it. -/
def faults : Node → List Node
  | mk i cs => if (mk i cs).isFault then [mk i cs] else faultsAll cs

def faultsAll : List Node → List Node
  | [] => []
  | n :: ns => faults n ++ faultsAll ns

end

theorem faultsAll_append (ns ms : List Node) : faultsAll (ns ++ ms) = faultsAll ns ++ faultsAll ms := by
  induction ns with
  | nil => rfl
  | cons n ns ih => rw [List.cons_append, faultsAll, faultsAll, ih, List.append_assoc]

theorem faultsAll_singleton (n : Node) : faultsAll [n] = n.faults := List.append_nil _

mutual

theorem mem_faults : ∀ n : Node, ∀ m ∈ n.faults, m ∈ n.preorder ∧ m.isFault = true
  | mk i cs, m, h => by
    rw [faults] at h
    rw [preorder]
    split at h
    · rename_i hfault
      rw [List.mem_singleton.mp h]
      exact ⟨List.mem_cons_self, hfault⟩
    · obtain ⟨hm, hfault⟩ := mem_faultsAll cs m h
      exact ⟨List.mem_cons_of_mem _ hm, hfault⟩

theorem mem_faultsAll : ∀ ns : List Node, ∀ m ∈ faultsAll ns, m ∈ preorderAll ns ∧ m.isFault = true
  | [], _, h => absurd h List.not_mem_nil
  | n :: ns, m, h => by
    rw [faultsAll, List.mem_append] at h
    rw [preorderAll]
    rcases h with h | h
    · exact (mem_faults n m h).imp_left (List.mem_append_left _)
    · exact (mem_faultsAll ns m h).imp_left (List.mem_append_right _)

end

/-- Nodes that lie one behind the other between two places of the text, perhaps without text. -/
def Between : Nat → List Node → Nat → Prop
  | a, [], b => a ≤ b
  | a, n :: ns, b => (a ≤ n.start.chars ∧ n.start.chars ≤ n.stop.chars) ∧ Between n.stop.chars ns b

variable {a b c : Nat} {ns ms : List Node}

theorem Between.of_le (hab : a ≤ b) (h : Between b ns c) : Between a ns c := by
  cases ns with
  | nil => exact Nat.le_trans hab h
  | cons n ns => exact ⟨⟨Nat.le_trans hab h.1.1, h.1.2⟩, h.2⟩

theorem Between.append (h : Between a ns b) (h' : Between b ms c) : Between a (ns ++ ms) c := by
  induction ns generalizing a with
  | nil => exact h'.of_le h
  | cons n ns ih => exact ⟨h.1, ih h.2⟩

theorem Between.pairwise (h : Between a ns b) :
    (∀ n ∈ ns, a ≤ n.start.chars ∧ n.start.chars ≤ n.stop.chars) ∧
      ns.Pairwise fun n m => n.stop.chars ≤ m.start.chars := by
  induction ns generalizing a with
  | nil => exact ⟨fun n hn => absurd hn List.not_mem_nil, .nil⟩
  | cons n ns ih =>
    obtain ⟨hall, hpairs⟩ := ih h.2
    refine ⟨List.forall_mem_cons.mpr ⟨h.1, fun m hm => ⟨?_, (hall m hm).2⟩⟩,
      .cons (fun m hm => (hall m hm).1) hpairs⟩
    exact Nat.le_trans h.1.1 (Nat.le_trans h.1.2 (hall m hm).1)

/-- A tree that is reported itself lies where it does. -/
theorem between_shownAs {t : Tree} {base : Extent} (alias? : Option Symbol)
    (h : Between base.chars (faultsAll (shown base t)) (base + t.total).chars) :
    Between base.chars (faultsAll (shownAs alias? base t)) (base + t.total).chars := by
  rw [shownAs]
  split
  · rw [faultsAll_singleton, faults]
    split
    · refine ⟨⟨?_, ?_⟩, Nat.le_refl _⟩
      · change base.chars ≤ (base + t.padding).chars
        rw [Tree.chars_add]
        exact Nat.le_add_right _ _
      · change (base + t.padding).chars ≤ (base + (t.padding + t.size)).chars
        rw [Tree.chars_add, Tree.chars_add, Tree.chars_add]
        omega
    · exact h
  · exact h

mutual

/-- What is reported of a tree lies where the tree does, each behind the one before. -/
theorem between_shown : ∀ (t : Tree) (base : Extent),
    Between base.chars (faultsAll (shown base t)) (base + t.total).chars
  | .leaf l, base => by
    rw [shown, faultsAll, Tree.chars_add]
    exact Nat.le_add_right _ _
  | .node s as cs e, base => by
    rw [shown, Tree.total_node]
    exact between_shownAmong as 0 cs base

theorem between_shownAmong (as : List (Nat × Symbol)) : ∀ (place : Nat) (cs : List Tree) (base : Extent),
    Between base.chars (faultsAll (shownAmong as place base cs)) (base + Tree.totalAll cs).chars
  | _, [], base => by
    rw [shownAmong, faultsAll, Tree.chars_add]
    exact Nat.le_add_right _ _
  | place, c :: cs, base => by
    have hinside := between_shown c base
    have hrest := between_shownAmong as (Tree.advance place c) cs (base + c.total)
    rw [Extent.add_assoc, ← Tree.totalAll_cons] at hrest
    rw [shownAmong_cons, faultsAll_append]
    exact (between_shownAs (aliasOf as place c) hinside).append hrest

end

end Node

namespace SyntaxError

open Node (faults faultsAll isFault)

/-- What is reported at a node. -/
def report (source : List Char) (n : Node) : SyntaxError :=
  atNode n (if n.isMissing then lacking n else unexpected (n.text source))

variable (source : List Char)

mutual

theorem reportAll_eq_map : ∀ n : Node, reportAll source n = n.faults.map (report source)
  | .mk i cs => by
    rw [reportAll, faults, isFault]
    cases hmissing : (Node.mk i cs).isMissing with
    | true => simp [report, hmissing]
    | false =>
      cases herror : (Node.mk i cs).isError with
      | true => simp [report, hmissing]
      | false => simpa using reportEach_eq_map cs

theorem reportEach_eq_map : ∀ ns : List Node, reportEach source ns = (faultsAll ns).map (report source)
  | [] => rfl
  | n :: ns => by
    rw [reportEach, faultsAll, List.map_append, reportAll_eq_map n, reportEach_eq_map ns]

end

end SyntaxError

open SyntaxError (report)

theorem Node.between_of_whole {source : List Char} {t : Tree} (h : t.Whole source) :
    Between 0 (ofTree t).faults t.total.chars := by
  have hroot : faultsAll (shownAs none 0 t) = (ofTree t).faults := by
    rw [shownAs, if_pos (by simp [h.visible]), faultsAll_singleton]
    rfl
  have hall := between_shownAs none (between_shown t 0)
  rwa [hroot, Extent.zero_add] at hall

/-- Whatever the text, its errors lie one behind the other, in the text and between characters. A token
that the text lacks is reported without text, and the text that is quoted of an error is the one at its
place. So the lines that are printed of a file, one for each error, go from the top to the bottom. -/
theorem Document.errors_in_order {source : List Char} {d : Document} (h : Document.ofText? source = some d) :
    (∀ e ∈ d.errors, ∃ before text after, source = before ++ (text ++ after) ∧
      e.start = (utf8 before).length ∧ e.stop = (utf8 (before ++ text)).length ∧
      ∃ n ∈ d.root.preorder, (n.start.bytes = e.start ∧ n.stop.bytes = e.stop) ∧
        (n.isMissing = true ∧ e.message = SyntaxError.lacking n ∧ e.stop = e.start ∨
          n.isError = true ∧ e.message = SyntaxError.unexpected text)) ∧
    d.errors.Pairwise (fun e f => e.stop ≤ f.start ∧ e.point.AtOrBefore f.point) ∧
    ∀ file, Command.checkBlock file d = String.join (d.errors.map fun e => file ++ ":" ++
      (toString (e.point.row + 1) ++ ":" ++ toString (e.point.column + 1)) ++ ": " ++ e.message ++ "\n") := by
  have hall := errors_eq_reportAll h
  obtain ⟨t, ht, rfl⟩ := Option.map_eq_some_iff.mp h
  have hwhole := parse_whole ht
  have hplaced := Node.placed_of_whole hwhole
  obtain ⟨hranges, hpairs⟩ := (Node.between_of_whole hwhole).pairwise
  rw [SyntaxError.reportAll_eq_map] at hall
  have horder : (Document.errors ⟨source, Node.ofTree t⟩).Pairwise
      fun e f => e.stop ≤ f.start ∧ e.point.AtOrBefore f.point := by
    rw [hall, List.pairwise_map]
    refine hpairs.imp_of_mem fun {n m} hn hm hnm => ?_
    have hn' := hplaced n (Node.mem_faults _ n hn).1
    have hm' := hplaced m (Node.mem_faults _ m hm).1
    exact ⟨(hn'.stop.bytes_le_iff hm'.start).mpr hnm,
      hn'.start.point_le hm'.start (Nat.le_trans (hranges n hn).2 hnm)⟩
  refine ⟨fun e he => ?_, horder, fun file => rfl⟩
  rw [hall] at he
  obtain ⟨n, hn, rfl⟩ := List.mem_map.mp he
  obtain ⟨hmem, hfault⟩ := Node.mem_faults _ n hn
  obtain ⟨hstart, hstop⟩ := hplaced n hmem
  have hle := (hranges n hn).2
  have htake : source.take n.start.chars ++ n.text source = source.take n.stop.chars := by
    rw [Node.text, ← List.take_add, Nat.add_sub_of_le hle]
  refine ⟨source.take n.start.chars, n.text source, source.drop n.stop.chars, ?_, ?_, ?_, n, hmem,
    ⟨rfl, rfl⟩, ?_⟩
  · rw [← List.append_assoc, htake, List.take_append_drop]
  · rw [Extent.length_utf8, ← hstart.extent]
    rfl
  · rw [htake, Extent.length_utf8, ← hstop.extent]
    rfl
  · by_cases hmissing : n.isMissing = true
    · refine Or.inl ⟨hmissing, ?_, congrArg Extent.bytes (Node.empty_of_whole hwhole hmem hmissing).symm⟩
      rw [report, if_pos hmissing]
      rfl
    · rw [Node.isFault, Bool.or_eq_true] at hfault
      refine Or.inr ⟨hfault.resolve_right hmissing, ?_⟩
      rw [report, if_neg hmissing]
      rfl

theorem Document.errors_in_order_several :
    ∃ d, Document.ofText? "set = é;\nvar x y;".toList = some d ∧ d.errors.length = 3 ∧
      d.errors.Pairwise fun e f => e.stop ≤ f.start ∧ e.point.AtOrBefore f.point := by
  have h : (Document.ofText? "set = é;\nvar x y;".toList).any (·.errors.length == 3) = true := by
    decide +kernel
  obtain ⟨d, hd, hlength⟩ := (Option.any_eq_true _ _).mp h
  exact ⟨d, hd, beq_iff_eq.mp hlength, (errors_in_order hd).2.1⟩

end MathProg
