import MathProg.Proofs.Node.Forms
import MathProg.Proofs.Node.Positions
import MathProg.Proofs.Parsing.Insertion
import MathProg.Session

/-!
# Blanks between tokens do not show

The tree of a text with blanks put between its tokens shows the same nodes, and those behind the blanks
have moved. A node that begins where the blanks are put in begins behind them, and one that stops there
stops before them.
-/

namespace MathProg

theorem Symbol.lexical_of_visible : ∀ s < tokenCount, isVisible s = true →
    s ≤ bareword ∧ s ≠ endOfText := by
  decide +kernel

namespace Grammar

/-- Whether a part is not the start symbol, and if it is a suffix or a comment, shows as such. -/
def Part.plain (p : Part) : Bool :=
  !Nat.beq p.symbol Symbol.model &&
    (p.shownAs.isNone || !Nat.beq p.symbol Symbol.suffix && !Nat.beq p.symbol Symbol.comment)

/-- Only the start symbol has an empty production. -/
theorem productions_plain : (rules.productions.all fun rule => !Tree.isErroneous rule.1 &&
    (Nat.beq rule.1 Symbol.model || !rule.2.isEmpty) && rule.2.all Part.plain) = true := by
  decide +kernel

variable {s : Symbol} {ps : List Part}

theorem not_erroneous_of_production (h : (s, ps) ∈ rules.productions) :
    Tree.isErroneous s = false := by
  have hall := List.all_eq_true.mp productions_plain _ h
  rw [Bool.and_eq_true, Bool.and_eq_true, Bool.not_eq_true'] at hall
  exact hall.1.1

theorem ne_nil_of_production (h : (s, ps) ∈ rules.productions) (hs : s ≠ Symbol.model) : ps ≠ [] := by
  have hall := List.all_eq_true.mp productions_plain _ h
  rw [Bool.and_eq_true, Bool.and_eq_true, Bool.or_eq_true, Nat.beq_eq] at hall
  rintro rfl
  exact Bool.false_ne_true (hall.1.2.resolve_left hs)

theorem plain_of_production (h : (s, ps) ∈ rules.productions) : ∀ p ∈ ps, p.plain = true := by
  have hall := List.all_eq_true.mp productions_plain _ h
  rw [Bool.and_eq_true] at hall
  exact List.all_eq_true.mp hall.2

theorem Part.ne_model {p : Part} (h : p.plain = true) : p.symbol ≠ Symbol.model := by
  rw [plain, Bool.and_eq_true, Bool.not_eq_true', Bool.eq_false_iff, ne_eq, Nat.beq_eq] at h
  exact h.1

theorem Part.shownAs_eq_none {p : Part} (h : p.plain = true)
    (hp : p.symbol = Symbol.suffix ∨ p.symbol = Symbol.comment) : p.shownAs = none := by
  rw [plain, Bool.and_eq_true, Bool.or_eq_true, Bool.and_eq_true, Bool.not_eq_true',
    Option.isNone_iff_eq_none] at h
  refine h.2.resolve_right fun hno => ?_
  rcases hp with hp | hp
  · rw [hp] at hno
    exact absurd hno.1 (by decide)
  · rw [hp] at hno
    exact absurd hno.2 (by decide)

end Grammar

namespace Tree

variable {source : List Char}

mutual

/-- A tree of tokens that were read, without errors and with children in each of its nodes. -/
def Regular : Tree → Prop
  | leaf l => l.origin = .read ∧ 0 < l.size.chars
  | node s _ cs _ => isErroneous s = false ∧ cs ≠ [] ∧ RegularAll cs

def RegularAll : List Tree → Prop
  | [] => True
  | c :: cs => Regular c ∧ RegularAll cs

end

mutual

/-- A regular tree costs nothing. -/
theorem Regular.cost : ∀ t : Tree, t.Regular → t.cost = 0
  | leaf _, h => cost_read h.1
  | node s as cs e, h => by
    rw [Tree.cost, h.1, RegularAll.cost cs h.2.2]
    rfl

theorem RegularAll.cost : ∀ cs : List Tree, RegularAll cs → costAll cs = 0
  | [], _ => rfl
  | c :: cs, h => by
    rw [costAll, Regular.cost c h.1, RegularAll.cost cs h.2, ite_self]

end

/-- A root of regular trees with the end of the text behind them has no errors. -/
theorem hasError_root {s : Symbol} (as : List (Nat × Symbol)) {ts : List Tree} {e : Leaf}
    (hs : isErroneous s = false) (ht : RegularAll ts) (he : e.origin = .read) :
    (node s as (ts ++ [leaf e]) false).hasError = false := by
  rw [hasError_eq_false, cost, hs, costAll_append, RegularAll.cost ts ht, costAll, cost_read he, costAll,
    ite_self]
  rfl

/-- A leaf of a derivation has text. -/
theorem regular_leaf {l : Leaf} {place : Nat} (ht : (leaf l).Tiled source place)
    (hd : (leaf l).Derived source place) : (leaf l).Regular := by
  obtain ⟨hle, hne⟩ := Symbol.lexical_of_visible _ hd.token ht.2.1
  refine ⟨hd.read, Nat.pos_of_ne_zero fun hzero => hd.lexeme.ne_nil hle hne ?_⟩
  rw [Leaf.text, slice, Leaf.ends, hzero, Nat.add_zero, Nat.sub_self, List.take_zero]

mutual

theorem regular_of_derived : ∀ (t : Tree) {place : Nat}, t.symbol ≠ Symbol.model →
    t.Tiled source place → t.Derived source place → t.Regular
  | leaf _, _, _, ht, hd => regular_leaf ht hd
  | node _ as cs _, _, hs, ht, hd => by
    refine ⟨Grammar.not_erroneous_of_production hd.2.1, ?_,
      regularAll_of_derived cs as 0 (Grammar.plain_of_production hd.2.1) ht.2.2 hd.2.2⟩
    rintro rfl
    exact Grammar.ne_nil_of_production hd.2.1 hs rfl

theorem regularAll_of_derived : ∀ (cs : List Tree) (as : List (Nat × Symbol)) (i : Nat) {place : Nat},
    (∀ p ∈ parts as i cs, p.plain = true) → TiledAll source place cs → DerivedAll source place cs →
    RegularAll cs
  | [], _, _, _, _, _, _ => trivial
  | c :: cs, as, i, place, hparts, ht, hd => by
    rw [parts] at hparts
    by_cases hc : c.extra = true
    · rw [if_pos hc] at hparts
      refine ⟨regular_of_derived c ?_ ht.1 hd.2.1, regularAll_of_derived cs as i hparts ht.2 hd.2.2⟩
      rw [hd.1 hc]
      decide
    · rw [if_neg hc, List.forall_mem_cons] at hparts
      exact ⟨regular_of_derived c (Grammar.Part.ne_model hparts.1) ht.1 hd.2.1,
        regularAll_of_derived cs as _ hparts.2 ht.2 hd.2.2⟩

end

end Tree

namespace Node

mutual

/-- A node that begins and stops elsewhere. -/
def moved (start stop : Extent → Extent) : Node → Node
  | mk i cs => mk { i with start := start i.start, stop := stop i.stop } (movedAll start stop cs)

def movedAll (start stop : Extent → Extent) : List Node → List Node
  | [] => []
  | n :: ns => moved start stop n :: movedAll start stop ns

end

theorem movedAll_append (start stop : Extent → Extent) (ns ms : List Node) :
    movedAll start stop (ns ++ ms) = movedAll start stop ns ++ movedAll start stop ms := by
  induction ns with
  | nil => rfl
  | cons n ns ih => rw [List.cons_append, movedAll, movedAll, ih, List.cons_append]

mutual

/-- Where nodes are moved to matters only for the places that there are. -/
theorem moved_congr {start stop start' stop' : Extent → Extent} : ∀ n : Node,
    (∀ m ∈ n.preorder, start m.start = start' m.start ∧ stop m.stop = stop' m.stop) →
    n.moved start stop = n.moved start' stop'
  | mk i cs, h => by
    obtain ⟨hstart, hstop⟩ := h _ List.mem_cons_self
    change start i.start = _ at hstart
    change stop i.stop = _ at hstop
    rw [moved, moved, hstart, hstop, movedAll_congr cs fun m hm => h m (List.mem_cons_of_mem _ hm)]
    rfl

theorem movedAll_congr {start stop start' stop' : Extent → Extent} : ∀ ns : List Node,
    (∀ m ∈ preorderAll ns, start m.start = start' m.start ∧ stop m.stop = stop' m.stop) →
    movedAll start stop ns = movedAll start' stop' ns
  | [], _ => rfl
  | n :: ns, h => by
    rw [movedAll, movedAll, moved_congr n fun m hm => h m (List.mem_append_left _ hm),
      movedAll_congr ns fun m hm => h m (List.mem_append_right _ hm)]

end

end Node

namespace Insertion

variable {i : Insertion}

theorem origin_widened (place : Nat) (l : Leaf) : (i.widened place l).origin = l.origin := by
  unfold widened
  split <;> rfl

theorem size_widened (place : Nat) (l : Leaf) : (i.widened place l).size = l.size := by
  unfold widened
  split <;> rfl

mutual

theorem regular_tree : ∀ (t : Tree) (place : Nat), t.Regular → (i.relabeling.tree place t).Regular
  | .leaf l, place, h => by
    refine ⟨(origin_widened place l).trans h.1, ?_⟩
    change 0 < (i.widened place l).size.chars
    rw [size_widened]
    exact h.2
  | .node s as cs e, place, h => by
    refine ⟨h.1, fun hnil => h.2.1 ?_, regularAll_tree cs place h.2.2⟩
    exact List.eq_nil_of_length_eq_zero
      ((i.relabeling.length_treeAll place cs).symm.trans (congrArg List.length hnil))

theorem regularAll_tree : ∀ (cs : List Tree) (place : Nat), Tree.RegularAll cs →
    Tree.RegularAll (i.relabeling.treeAll place cs)
  | [], _, _ => trivial
  | c :: cs, place, h => ⟨regular_tree c place h.1, regularAll_tree cs _ h.2⟩

end

open Node (shown shownAmong shownAs infoOf aliasOf movedAll)

mutual

/-- A tree with the blanks in one of its gaps begins and stops where the tree has moved to. -/
theorem reach_tree : ∀ (t : Tree) {p : Extent}, IsPlace i.source p → t.Tiled i.source p.chars →
    t.Regular → t.Each i.Clear p.chars →
    i.stop p + (i.relabeling.tree p.chars t).padding = i.start (p + t.padding) ∧
      i.stop p + (i.relabeling.tree p.chars t).total = i.stop (p + t.total)
  | .leaf _, _, hp, ht, hr, hc =>
    ⟨i.stop_add_padding ht.1 hp, i.stop_add_total ht.1 hp hc hr.2⟩
  | .node s as cs e, p, hp, ht, hr, hc => by
    rw [Relabeling.tree, Tree.total_node, Tree.total_node]
    obtain ⟨hpadding, htotal⟩ := reach_treeAll cs hp ht.2.2 hr.2.2 hc
    exact ⟨hpadding hr.2.1, htotal⟩

theorem reach_treeAll : ∀ (cs : List Tree) {p : Extent}, IsPlace i.source p →
    Tree.TiledAll i.source p.chars cs → Tree.RegularAll cs → Tree.EachAll i.Clear p.chars cs →
    (cs ≠ [] → i.stop p + Tree.paddingFirst (i.relabeling.treeAll p.chars cs) =
      i.start (p + Tree.paddingFirst cs)) ∧
      i.stop p + Tree.totalAll (i.relabeling.treeAll p.chars cs) = i.stop (p + Tree.totalAll cs)
  | [], p, _, _, _, _ => by
    refine ⟨fun hne => absurd rfl hne, ?_⟩
    rw [Relabeling.treeAll, Tree.totalAll, Extent.add_zero, Extent.add_zero]
  | c :: cs, p, hp, ht, hr, hc => by
    obtain ⟨hpadding, htotal⟩ := reach_tree c hp ht.1 hr.1 hc.1
    obtain ⟨-, hrest⟩ := reach_treeAll cs (Tree.isPlace_add c hp ht.1) ht.2 hr.2 hc.2
    refine ⟨fun _ => hpadding, ?_⟩
    rw [Relabeling.treeAll, Tree.totalAll_cons, Tree.totalAll_cons, ← Extent.add_assoc, htotal,
      ← Extent.add_assoc]
    exact hrest

end

/-- What is known of a tree that shows, but for where it stands, does not change. -/
theorem infoOf_tree (alias? : Option Symbol) {t : Tree} {p : Extent} (hp : IsPlace i.source p)
    (ht : t.Tiled i.source p.chars) (hr : t.Regular) (hc : t.Each i.Clear p.chars) :
    infoOf alias? (i.stop p) (i.relabeling.tree p.chars t) =
      { infoOf alias? p t with start := i.start (p + t.padding), stop := i.stop (p + t.total) } := by
  obtain ⟨hpadding, htotal⟩ := reach_tree t hp ht hr hc
  have hmissing : (i.relabeling.tree p.chars t).isMissing = t.isMissing := by
    cases t with
    | leaf l => exact congrArg (· == .supplied) (origin_widened p.chars l)
    | node => rfl
  have hstopped : Node.stoppedAt (i.relabeling.tree p.chars t) = Node.stoppedAt t := by
    cases t with
    | leaf l =>
      have horigin := (origin_widened (i := i) p.chars l).trans hr.1
      have hread : l.origin = .read := hr.1
      have hnone : ∀ k : Leaf, k.origin = .read → Node.stoppedAt (.leaf k) = none := by
        rintro ⟨_, _, _, _, _⟩ rfl
        rfl
      exact (hnone _ horigin).trans (hnone _ hread).symm
    | node => rfl
  have herror : (i.relabeling.tree p.chars t).hasError = t.hasError := by
    rw [Tree.hasError, Tree.hasError, (regular_tree t p.chars hr).cost, hr.cost]
  rw [infoOf, infoOf, hpadding, htotal, hmissing, hstopped, herror, Tree.isError, Tree.isError,
    i.relabeling.tree_symbol, i.relabeling.tree_extra]

mutual

theorem shown_tree : ∀ (t : Tree) {p : Extent}, IsPlace i.source p → t.Tiled i.source p.chars →
    t.Regular → t.Each i.Clear p.chars →
    shown (i.stop p) (i.relabeling.tree p.chars t) = movedAll i.start i.stop (shown p t)
  | .leaf _, _, _, _, _, _ => rfl
  | .node _ as cs _, _, hp, ht, hr, hc => shownAmong_treeAll cs as 0 hp ht.2.2 hr.2.2 hc

/-- What trees with the blanks in one of their gaps show has moved. -/
theorem shownAmong_treeAll : ∀ (cs : List Tree) (as : List (Nat × Symbol)) (place : Nat) {p : Extent},
    IsPlace i.source p → Tree.TiledAll i.source p.chars cs → Tree.RegularAll cs →
    Tree.EachAll i.Clear p.chars cs →
    shownAmong as place (i.stop p) (i.relabeling.treeAll p.chars cs) =
      movedAll i.start i.stop (shownAmong as place p cs)
  | [], _, _, _, _, _, _, _ => rfl
  | c :: cs, as, place, p, hp, ht, hr, hc => by
    have hrest := shownAmong_treeAll cs as (Tree.advance place c) (Tree.isPlace_add c hp ht.1) ht.2 hr.2
      hc.2
    have halias : aliasOf as place (i.relabeling.tree p.chars c) = aliasOf as place c := by
      rw [aliasOf, aliasOf, i.relabeling.tree_extra]
    have hadvance : Tree.advance place (i.relabeling.tree p.chars c) = Tree.advance place c := by
      rw [Tree.advance, Tree.advance, i.relabeling.tree_extra]
    rw [Relabeling.treeAll, Node.shownAmong_cons, Node.shownAmong_cons, Node.movedAll_append, ← hrest,
      halias, hadvance, (reach_tree c hp ht.1 hr.1 hc.1).2, shownAs, shownAs, Tree.isVisible,
      Tree.isVisible, i.relabeling.tree_symbol, shown_tree c hp ht.1 hr.1 hc.1]
    split
    · rw [infoOf_tree _ hp ht.1 hr.1 hc.1]
      rfl
    · rfl

end

end Insertion

namespace Node

variable {source : List Char} {P : Nat → Leaf → Prop} {ns : List Node}

/-- A node that shows a leaf which stands at a place of the text. -/
structure OfLeaf (n : Node) (place : Nat) (l : Leaf) : Prop where
  start : n.start.chars = l.begins place
  stop : n.stop.chars = l.ends place
  symbol : l.symbol = Symbol.suffix ∨ l.symbol = Symbol.comment → n.symbol = l.symbol

theorem mem_leavesAll {n : Node} : n ∈ leavesAll ns ↔ n ∈ preorderAll ns ∧ n.isTextLeaf = true :=
  List.mem_filter

theorem mem_leavesAll_shownAs {alias? : Option Symbol} {p : Extent} {t : Tree} {n : Node}
    (h : n ∈ leavesAll (shown p t)) : n ∈ leavesAll (shownAs alias? p t) := by
  rw [mem_leavesAll] at h ⊢
  refine ⟨?_, h.2⟩
  rw [shownAs]
  split
  · exact List.mem_append_left _ (List.mem_cons_of_mem _ h.1)
  · exact h.1

theorem ofLeaf_shownAs {alias? : Option Symbol} {p : Extent} {l : Leaf}
    (ht : (Tree.leaf l).Tiled source p.chars) (hr : (Tree.leaf l).Regular)
    (halias : l.symbol = Symbol.suffix ∨ l.symbol = Symbol.comment → alias? = none) :
    ∃ n ∈ leavesAll (shownAs alias? p (.leaf l)), n.OfLeaf p.chars l := by
  have hshown : shownAs alias? p (.leaf l) = [mk (infoOf alias? p (.leaf l)) []] :=
    if_pos (Bool.or_eq_true_iff.mpr (Or.inr ht.2.1))
  refine ⟨mk (infoOf alias? p (.leaf l)) [], ?_, rfl, (Nat.add_assoc _ _ _).symm, fun hs => ?_⟩
  · rw [hshown, mem_leavesAll]
    refine ⟨List.mem_cons_self, decide_eq_true ?_⟩
    have hpos := hr.2
    have hbytes := Extent.chars_le_bytes (l.text source p.chars)
    rw [← ht.1.size] at hbytes
    change (p + l.padding).bytes < (p + (l.padding + l.size)).bytes
    rw [← Extent.add_assoc, Extent.bytes_add (p + l.padding)]
    omega
  · rw [halias hs]
    rfl

mutual

/-- What follows for a leaf from a node that shows it, if it follows for each node. -/
theorem each_of_shown (hP : ∀ n ∈ ns, ∀ place l, n.OfLeaf place l → P place l) :
    ∀ (t : Tree) {p : Extent} (alias? : Option Symbol), t.Tiled source p.chars → t.Regular →
    (t.symbol = Symbol.suffix ∨ t.symbol = Symbol.comment → alias? = none) →
    (∀ n ∈ leavesAll (shownAs alias? p t), n ∈ ns) → t.Each P p.chars
  | .leaf l, p, alias?, ht, hr, halias, hns => by
    obtain ⟨n, hn, hleaf⟩ := ofLeaf_shownAs ht hr halias
    exact hP n (hns n hn) _ _ hleaf
  | .node s as cs e, p, alias?, ht, hr, _, hns => by
    have hproduction := ht.2.1.resolve_left fun hno => Bool.false_ne_true (hr.1.symm.trans hno.1)
    exact eachAll_of_shown hP cs as 0 (Grammar.plain_of_production hproduction) ht.2.2 hr.2.2
      fun n hn => hns n (mem_leavesAll_shownAs hn)

theorem eachAll_of_shown (hP : ∀ n ∈ ns, ∀ place l, n.OfLeaf place l → P place l) :
    ∀ (cs : List Tree) {p : Extent} (as : List (Nat × Symbol)) (place : Nat),
    (∀ q ∈ Tree.parts as place cs, q.plain = true) → Tree.TiledAll source p.chars cs →
    Tree.RegularAll cs → (∀ n ∈ leavesAll (shownAmong as place p cs), n ∈ ns) →
    Tree.EachAll P p.chars cs
  | [], _, _, _, _, _, _, _ => trivial
  | c :: cs, p, as, place, hparts, ht, hr, hns => by
    rw [shownAmong_cons, leavesAll_append, List.forall_mem_append] at hns
    rw [Tree.parts] at hparts
    rw [Tree.advance] at hns
    by_cases hc : c.extra = true
    · rw [if_pos hc] at hparts hns
      exact ⟨each_of_shown hP c _ ht.1 hr.1 (fun _ => if_pos hc) hns.1,
        eachAll_of_shown hP cs as place hparts ht.2 hr.2 hns.2⟩
    · rw [if_neg hc] at hparts hns
      rw [List.forall_mem_cons] at hparts
      exact ⟨each_of_shown hP c _ ht.1 hr.1 (Grammar.Part.shownAs_eq_none hparts.1) hns.1,
        eachAll_of_shown hP cs as _ hparts.2 ht.2 hr.2 hns.2⟩

end

/-- What holds of the leaves of a text without errors, if it follows for each from the nodes that show it. -/
theorem eachAll_of_leaves {s : Symbol} {as : List (Nat × Symbol)} {cs : List Tree} {e : Leaf}
    (h : (Tree.node s as (cs ++ [.leaf e]) false).Whole source)
    (hvalid : (ofTree (.node s as (cs ++ [.leaf e]) false)).hasError = false)
    (hP : ∀ n ∈ (ofTree (.node s as (cs ++ [.leaf e]) false)).leaves, n.Placed source →
      n.start.bytes < n.stop.bytes → ∀ place l, n.OfLeaf place l → P place l) :
    Tree.RegularAll cs ∧ Tree.EachAll P 0 cs := by
  have hplaced := placed_of_whole h
  obtain ⟨_, _, _, _, heq, htiled, he, hend⟩ := h.tiled
  obtain ⟨rfl, rfl, hcs, -⟩ := Tree.node.inj heq
  obtain ⟨rfl, hlast⟩ := List.append_inj' hcs rfl
  obtain rfl := Tree.leaf.inj (List.cons.inj hlast).1
  obtain ⟨_, _, _, heq', hderived, hextra, -⟩ := (h.derivation (Tree.hasError_eq_false.mp hvalid)).shape
  obtain ⟨rfl, rfl, hcs', -⟩ := Tree.node.inj heq'
  obtain ⟨rfl, hlast'⟩ := List.append_inj' hcs' rfl
  obtain rfl := Tree.leaf.inj (List.cons.inj hlast').1
  have hplain := Grammar.plain_of_production hderived.2.1
  have hregular := Tree.regularAll_of_derived cs as 0 hplain htiled hderived.2.2
  have hshown : shown 0 (.node Symbol.model as (cs ++ [.leaf e]) false) = shownAmong as 0 0 cs :=
    shownAmong_end as 0 0 cs hend hextra
  refine ⟨hregular, eachAll_of_shown (p := 0) (fun n hn => ?_) cs as 0 hplain htiled hregular
    fun n hn => (?_ : n ∈ (ofTree (.node Symbol.model as (cs ++ [.leaf e]) false)).leaves)⟩
  · obtain ⟨hmem, htext⟩ := List.mem_filter.mp hn
    rw [isTextLeaf, Bool.and_eq_true, decide_eq_true_eq] at htext
    exact hP n hn (hplaced n hmem) htext.2
  · obtain ⟨hmem, htext⟩ := mem_leavesAll.mp hn
    rw [← hshown] at hmem
    exact List.mem_filter.mpr ⟨List.mem_cons_of_mem _ hmem, htext⟩

end Node

theorem IsPlace.bytes_le_iff {source : List Char} {e e' : Extent} (h : IsPlace source e)
    (h' : IsPlace source e') : e.bytes ≤ e'.bytes ↔ e.chars ≤ e'.chars := by
  constructor
  · intro hle
    by_contra hlt
    obtain ⟨n, hn⟩ := Nat.exists_eq_add_of_le (Nat.le_of_not_le hlt)
    have hbound := h.bound
    have hsplit : e = e' + Extent.ofChars ((source.drop e'.chars).take n) := by
      rw [h.extent, hn, List.take_add, Extent.ofChars_append, ← h'.extent]
    have hbytes := Extent.chars_le_bytes ((source.drop e'.chars).take n)
    have hsum := congrArg Extent.bytes hsplit
    rw [Extent.chars_ofChars, List.length_take, List.length_drop] at hbytes
    rw [Extent.bytes_add] at hsum
    omega
  · intro hle
    rw [h.extent, h'.extent]
    exact Node.bytes_take_le hle

/-- Before and behind a place of the text in bytes is so in characters. -/
theorem IsPlace.split_iff {a b : List Char} {e : Extent} (h : IsPlace (a ++ b) e) :
    (e.bytes ≤ (utf8 a).length ↔ e.chars ≤ a.length) ∧
      ((utf8 a).length ≤ e.bytes ↔ a.length ≤ e.chars) := by
  have hbefore : IsPlace (a ++ b) (Extent.ofChars a) := by
    constructor
    · rw [Extent.chars_ofChars, List.length_append]
      exact Nat.le_add_right _ _
    · rw [Extent.chars_ofChars, List.take_left]
  have hle := h.bytes_le_iff hbefore
  have hge := hbefore.bytes_le_iff h
  rw [Extent.chars_ofChars] at hle hge
  rw [Extent.length_utf8]
  exact ⟨hle, hge⟩

/-- Where something is that stood at `e` before `w` was put in further in front. The text it is in now
gives its point. -/
def Extent.shifted (result w : List Char) (e : Extent) : Extent :=
  let point := Point.atByte result (e.bytes + (utf8 w).length)
  ⟨e.chars + w.length, e.bytes + (utf8 w).length, point.row, point.column⟩

theorem Insertion.moved_eq_shifted {i : Insertion} {e : Extent} (he : IsPlace i.source e)
    (hle : i.place ≤ e.chars) : i.moved e = e.shifted i.result i.blanks := by
  have hplace := i.isPlace_moved he
  have hbytes : (i.moved e).bytes = e.bytes + (utf8 i.blanks).length := by
    obtain ⟨n, hn⟩ := Nat.exists_eq_add_of_le hle
    have hresult : i.result.take (e.chars + i.width) = i.before ++ (i.blanks ++ i.behind.take n) := by
      have hlength : e.chars + i.width = i.before.length + (i.blanks.length + n) := by
        rw [hn, place, width]
        omega
      rw [hlength, result, List.take_length_add_append, List.take_length_add_append]
    have hsource : i.source.take e.chars = i.before ++ i.behind.take n := by
      rw [hn, source, place, List.take_length_add_append]
    have hextent := congrArg Extent.bytes he.extent
    rw [hsource, Extent.ofChars_append, Extent.bytes_add] at hextent
    rw [moved, hresult, Extent.ofChars_append, Extent.ofChars_append, Extent.bytes_add,
      Extent.bytes_add, hextent, Extent.length_utf8]
    omega
  have hpoint := hplace.point
  rw [hbytes] at hpoint
  rw [Extent.shifted, ← hpoint, ← hbytes]
  have hchars : e.chars + i.blanks.length = (i.moved e).chars := (i.chars_moved he).symm
  rw [hchars]
  rfl

namespace Node

/-- The root of a text when `w` is put in at the byte `k`. What begins there begins behind `w`, and what
stops there stops before it; but the root goes on to the end of the text. -/
def spread (result w : List Char) (k : Nat) : Node → Node
  | mk i cs =>
    mk { i with
        start := if i.start.bytes < k then i.start else i.start.shifted result w
        stop := i.stop.shifted result w }
      (movedAll (fun e => if e.bytes < k then e else e.shifted result w)
        (fun e => if e.bytes ≤ k then e else e.shifted result w) cs)

theorem hasError_spread (result w : List Char) (k : Nat) (n : Node) :
    (n.spread result w k).hasError = n.hasError := by
  cases n
  rfl

/-- Of two leaves one stands before the other. -/
theorem Lossless.apart {source : List Char} {root m n : Node} (h : root.Lossless source)
    (hm : m ∈ root.leaves) (hn : n ∈ root.leaves) :
    m = n ∨ m.stop.bytes ≤ n.start.bytes ∨ n.stop.bytes ≤ m.start.bytes := by
  obtain ⟨j, hj, rfl⟩ := List.mem_iff_getElem.mp hm
  obtain ⟨k, hk, rfl⟩ := List.mem_iff_getElem.mp hn
  have hordered := List.pairwise_iff_getElem.mp h.ordered
  rcases Nat.lt_trichotomy j k with hlt | rfl | hlt
  · exact Or.inr (Or.inl (hordered j k hj hk hlt))
  · exact Or.inl rfl
  · exact Or.inr (Or.inr (hordered k j hk hj hlt))

/-- A boundary of a leaf is inside of no leaf. -/
theorem Lossless.apart_boundary {a b : List Char} {root : Node} (h : root.Lossless (a ++ b))
    (hplace : a = [] ∨ b = [] ∨ ∃ n ∈ root.leaves,
      n.start.bytes = (utf8 a).length ∨ n.stop.bytes = (utf8 a).length) :
    ∀ n ∈ root.leaves, n.stop.bytes ≤ (utf8 a).length ∨ (utf8 a).length ≤ n.start.bytes := by
  intro n hn
  obtain ⟨j, k, ⟨-, hk⟩, -, hstop⟩ := h.bounded n hn
  rcases hplace with rfl | rfl | ⟨m, hm, hplace⟩
  · exact Or.inr (Nat.zero_le _)
  · rw [List.append_nil] at hstop
    rw [List.append_nil] at hk
    have hle : (Extent.ofChars (a.take k)).bytes ≤ (Extent.ofChars (a.take a.length)).bytes :=
      bytes_take_le hk
    rw [List.take_length] at hle
    rw [hstop, Extent.length_utf8]
    exact Or.inl hle
  · obtain ⟨-, htext⟩ := List.mem_filter.mp hm
    rw [isTextLeaf, Bool.and_eq_true, decide_eq_true_eq] at htext
    rcases h.apart hm hn with rfl | hapart | hapart
    · omega
    · omega
    · omega

end Node

theorem Symbol.name_suffix : name suffix = "suffix" := by decide +kernel

theorem Symbol.name_comment : name comment = "comment" := by decide +kernel

/-- A leaf lies apart from a boundary of leaves, and not behind it if its node is no comment up to the end of
the line there. -/
theorem Node.OfLeaf.apart {a b : List Char} {n : Node} {place : Nat} {l : Leaf} (hleaf : n.OfLeaf place l)
    (hn : n.Placed (a ++ b)) (htext : n.start.bytes < n.stop.bytes)
    (hapart : n.stop.bytes ≤ (utf8 a).length ∨ (utf8 a).length ≤ n.start.bytes)
    (hcomment : n.kind = "comment" → (n.text (a ++ b)).head? = some '#' → n.stop.bytes ≠ (utf8 a).length) :
    l.Apart (a ++ b) a.length place := by
  have hstart := hn.start.split_iff
  have hstop := hn.stop.split_iff
  rw [hleaf.start] at hstart
  rw [hleaf.stop] at hstop
  refine ⟨by omega, fun hs hhash => ?_⟩
  have hlt : n.start.chars < n.stop.chars := by
    have hiff := hn.stop.bytes_le_iff hn.start
    omega
  have hhead : (n.text (a ++ b)).head? = some '#' := by
    rw [Node.text, List.head?_take, if_neg (by omega), List.head?_drop, hleaf.start]
    exact hhash
  have hno := hcomment (by rw [Node.kind, hleaf.symbol (Or.inr hs), hs, Symbol.name_comment]) hhead
  omega

namespace Insertion

open Node (shown shownAmong infoOf movedAll)

variable {i : Insertion} {n : Node} {place : Nat} {l : Leaf}

theorem bytes_le_iff {e : Extent} (he : IsPlace i.source e) :
    (e.bytes ≤ (utf8 i.before).length ↔ e.chars ≤ i.place) ∧
      ((utf8 i.before).length ≤ e.bytes ↔ i.place ≤ e.chars) := he.split_iff

theorem start_eq {e : Extent} (he : IsPlace i.source e) :
    i.start e = if e.bytes < (utf8 i.before).length then e else e.shifted i.result i.blanks := by
  have hiff := bytes_le_iff he
  by_cases hlt : e.chars < i.place
  · rw [start, if_pos hlt, if_pos (by omega)]
  · rw [start, if_neg hlt, if_neg (by omega), moved_eq_shifted he (Nat.le_of_not_lt hlt)]

theorem stop_eq {e : Extent} (he : IsPlace i.source e) :
    i.stop e = if e.bytes ≤ (utf8 i.before).length then e else e.shifted i.result i.blanks := by
  have hiff := bytes_le_iff he
  by_cases hle : e.chars ≤ i.place
  · rw [stop, if_pos hle, if_pos (by omega)]
  · rw [stop, if_neg hle, if_neg (by omega), moved_eq_shifted he (by omega)]

/-- A leaf whose node does not touch the blanks does not. -/
theorem clear_of_node (hn : n.Placed i.source) (hleaf : n.OfLeaf place l)
    (htext : n.start.bytes < n.stop.bytes)
    (hapart : n.stop.bytes ≤ (utf8 i.before).length ∨ (utf8 i.before).length ≤ n.start.bytes)
    (hsuffix : n.kind = "suffix" → n.start.bytes ≠ (utf8 i.before).length)
    (hcomment : n.kind = "comment" → (n.text i.source).head? = some '#' →
      n.stop.bytes ≠ (utf8 i.before).length) : i.Clear place l := by
  have hclear : l.Apart i.source i.place place := hleaf.apart hn htext hapart hcomment
  refine ⟨hclear.apart, fun hs => ?_, hclear.line⟩
  have hstart := bytes_le_iff hn.start
  rw [hleaf.start] at hstart
  have hno := hsuffix (by rw [Node.kind, hleaf.symbol (Or.inl hs), hs, Symbol.name_suffix])
  omega

/-- The root shows the same with the blanks, but for where it stands. -/
theorem ofTree_tree {s : Symbol} {as : List (Nat × Symbol)} {cs : List Tree} {e : Leaf}
    (ht : Tree.TiledAll i.source 0 cs) (hr : Tree.RegularAll cs) (hc : Tree.EachAll i.Clear 0 cs)
    (he : e.IsNext i.source (Tree.totalAll cs).chars) (hend : e.symbol = Symbol.endOfText)
    (hs : Tree.isErroneous s = false) (hread : e.origin = .read) :
    Node.ofTree (i.relabeling.tree 0 (.node s as (cs ++ [.leaf e]) false)) =
      .mk { (Node.ofTree (.node s as (cs ++ [.leaf e]) false)).info with
        start := i.start (Node.ofTree (.node s as (cs ++ [.leaf e]) false)).start
        stop := (Node.ofTree (i.relabeling.tree 0 (.node s as (cs ++ [.leaf e]) false))).stop }
      (movedAll i.start i.stop (shownAmong as 0 0 cs)) := by
  have hextra : e.extra = true := by
    rw [he.extra, hend]
    rfl
  have hzero : i.stop 0 = 0 := if_pos (Nat.zero_le _)
  have hplace : IsPlace i.source 0 := .zero
  have htree : i.relabeling.tree 0 (.node s as (cs ++ [.leaf e]) false) =
      .node s as (i.relabeling.treeAll 0 cs ++
        [.leaf (i.widened (Tree.totalAll cs).chars e)]) false := by
    rw [Relabeling.tree, i.relabeling.treeAll_append, Nat.zero_add]
    rfl
  have hshown : shown 0 (i.relabeling.tree 0 (.node s as (cs ++ [.leaf e]) false)) =
      movedAll i.start i.stop (shownAmong as 0 0 cs) := by
    have hall := shownAmong_treeAll cs as 0 hplace ht hr hc
    rw [hzero] at hall
    have hlast : (i.widened (Tree.totalAll cs).chars e).symbol = Symbol.endOfText :=
      (i.relabeling.symbol _ e).trans hend
    have hbeside : (i.widened (Tree.totalAll cs).chars e).extra = true :=
      (i.relabeling.leaf_extra _ e).trans hextra
    rw [htree, shown, Node.shownAmong_end as 0 0 _ hlast hbeside, ← hall]
    rfl
  have hpadding : 0 + (i.relabeling.tree 0 (.node s as (cs ++ [.leaf e]) false)).padding =
      i.start (0 + (Tree.node s as (cs ++ [.leaf e]) false).padding) := by
    rw [htree]
    cases cs with
    | nil =>
      have hleaf : i.stop 0 + (i.widened 0 e).padding = i.start (0 + e.padding) :=
        i.stop_add_padding he.fits hplace
      rw [hzero] at hleaf
      exact hleaf
    | cons c cs =>
      have hfirst := (reach_treeAll (c :: cs) hplace ht hr hc).1 (List.cons_ne_nil _ _)
      rw [hzero] at hfirst
      exact hfirst
  have herror : (i.relabeling.tree 0 (.node s as (cs ++ [.leaf e]) false)).hasError =
      (Tree.node s as (cs ++ [.leaf e]) false).hasError := by
    rw [htree, Tree.hasError_root as hs (regularAll_tree cs 0 hr) ((origin_widened _ e).trans hread),
      Tree.hasError_root as hs hr hread]
  rw [Node.ofTree, hshown, Node.ofTree]
  refine congrArg (Node.mk · _) ?_
  rw [infoOf, infoOf, hpadding, herror]
  rfl

/-- Blanks that touch no leaf of a text without errors, at least not in a way that matters, make a text
without errors that has the same tree but for where it stands. -/
theorem ofText_result {d : Document} (h : Document.ofText? i.source = some d)
    (hvalid : d.root.hasError = false)
    (hapart : ∀ n ∈ d.root.leaves,
      n.stop.bytes ≤ (utf8 i.before).length ∨ (utf8 i.before).length ≤ n.start.bytes)
    (hsuffix : ∀ n ∈ d.root.leaves, n.kind = "suffix" → n.start.bytes ≠ (utf8 i.before).length)
    (hcomment : ∀ n ∈ d.root.leaves, n.kind = "comment" → (n.text i.source).head? = some '#' →
      n.stop.bytes ≠ (utf8 i.before).length) :
    ∃ d', Document.ofText? i.result = some d' ∧
      d'.root = d.root.spread i.result i.blanks (utf8 i.before).length := by
  obtain ⟨t, ht, rfl⟩ := Option.map_eq_some_iff.mp h
  dsimp only at hvalid hapart hsuffix hcomment ⊢
  have hwhole := parse_whole ht
  have hplaced := Node.placed_of_whole hwhole
  have hderivation := hwhole.derivation (Tree.hasError_eq_false.mp hvalid)
  have haccepted := parse_eq_accepted ht hvalid
  obtain ⟨s, as, cs, e, rfl, htiled, he, hend⟩ := hwhole.tiled
  obtain ⟨as', cs', e', heq, -, hextra, -, hread, -⟩ := hderivation.shape
  obtain ⟨rfl, rfl, hcs, -⟩ := Tree.node.inj heq
  obtain ⟨rfl, hlast⟩ := List.append_inj' hcs rfl
  obtain rfl : e = e' := Tree.leaf.inj (List.cons.inj hlast).1
  have hshown : shown 0 (.node Symbol.model as (cs ++ [.leaf e]) false) = shownAmong as 0 0 cs :=
    Node.shownAmong_end as 0 0 cs hend hextra
  obtain ⟨hregular, hclear⟩ : Tree.RegularAll cs ∧ Tree.EachAll i.Clear 0 cs :=
    Node.eachAll_of_leaves hwhole hvalid fun n hn hplaced htext _ _ hleaf =>
      clear_of_node hplaced hleaf htext (hapart n hn) (hsuffix n hn) (hcomment n hn)
  have hstraight := Straight.parse_widened haccepted hclear
  have hparse : parse i.result =
      some (i.relabeling.tree 0 (.node Symbol.model as (cs ++ [.leaf e]) false)) := by
    unfold parse
    rw [hstraight]
  have hparsed : Document.ofText? i.result = some ⟨i.result,
      Node.ofTree (i.relabeling.tree 0 (.node Symbol.model as (cs ++ [.leaf e]) false))⟩ := by
    rw [Document.ofText?, hparse, Option.map_some]
  have hwide : (Node.ofTree (.node Symbol.model as (cs ++ [.leaf e]) false)).Placed i.source :=
    hplaced _ List.mem_cons_self
  refine ⟨_, hparsed, ?_⟩
  have hstop : (Node.ofTree (i.relabeling.tree 0 (.node Symbol.model as (cs ++ [.leaf e]) false))).stop =
      (Node.ofTree (.node Symbol.model as (cs ++ [.leaf e]) false)).stop.shifted i.result i.blanks := by
    have hlast : (Node.ofTree (.node Symbol.model as (cs ++ [.leaf e]) false)).stop =
        Extent.ofChars i.source := (Node.lossless_of_whole hwhole).ends
    rw [← moved_eq_shifted hwide.stop (by rw [hlast, Extent.chars_ofChars]; exact i.place_le), moved,
      hlast, Extent.chars_ofChars, ← i.length_result, List.take_length]
    exact (Node.lossless_of_whole (parse_whole hparse)).ends
  have hmoved : movedAll i.start i.stop (shownAmong as 0 0 cs) = movedAll
      (fun e => if e.bytes < (utf8 i.before).length then e else e.shifted i.result i.blanks)
      (fun e => if e.bytes ≤ (utf8 i.before).length then e else e.shifted i.result i.blanks)
      (shown 0 (.node Symbol.model as (cs ++ [.leaf e]) false)) := by
    rw [hshown]
    refine Node.movedAll_congr _ fun m hm => ?_
    rw [← hshown] at hm
    have hm := hplaced m (List.mem_cons_of_mem _ hm)
    exact ⟨start_eq hm.start, stop_eq hm.stop⟩
  dsimp only
  rw [ofTree_tree htiled hregular hclear he hend (by decide) hread, hstop, hmoved,
    start_eq hwide.start]
  rfl

end Insertion

/-- Blanks that are put between the leaves of a text without errors, not before a suffix, not behind a
comment up to the end of its line and not before a byte order mark at the start, make a text without
errors that has the same tree, in which what stands behind the blanks has moved. -/
theorem Document.blanks_insignificant {a b w : List Char} {d : Document}
    (h : Document.ofText? (a ++ b) = some d) (hvalid : d.root.hasError = false)
    (hblank : ∀ c ∈ w, c = ' ' ∨ '\t' ≤ c ∧ c ≤ '\r') (hw : w ≠ [])
    (hplace : a = [] ∨ b = [] ∨ ∃ n ∈ d.root.leaves,
      n.start.bytes = (utf8 a).length ∨ n.stop.bytes = (utf8 a).length)
    (hsuffix : ∀ n ∈ d.root.leaves, n.kind = "suffix" → n.start.bytes ≠ (utf8 a).length)
    (hcomment : ∀ n ∈ d.root.leaves, n.kind = "comment" → (n.text (a ++ b)).head? = some '#' →
      n.stop.bytes ≠ (utf8 a).length)
    (hmark : a = [] → b.head? ≠ some byteOrderMark) :
    ∃ d', Document.ofText? (a ++ w ++ b) = some d' ∧ d'.root.hasError = false ∧
      d'.root = d.root.spread (a ++ w ++ b) w (utf8 a).length := by
  have hlossless : d.root.Lossless (a ++ b) := by
    obtain ⟨t, ht, rfl⟩ := Option.map_eq_some_iff.mp h
    exact Node.lossless_of_whole (parse_whole ht)
  have hblanks : ∀ c ∈ w, isBlank c = true := by
    intro c hc
    rw [isBlank, Bool.or_eq_true, beq_iff_eq, Bool.and_eq_true, decide_eq_true_eq, decide_eq_true_eq]
    exact hblank c hc
  obtain ⟨d', hd', hroot⟩ := Insertion.ofText_result (i := ⟨a, w, b, hblanks, hw, hmark⟩) h hvalid
    (hlossless.apart_boundary hplace) hsuffix hcomment
  have hresult : a ++ w ++ b = a ++ (w ++ b) := List.append_assoc _ _ _
  refine ⟨d', hresult ▸ hd', ?_, hresult ▸ hroot⟩
  rw [hroot, Node.hasError_spread]
  exact hvalid

theorem Document.blanks_insignificant_statements :
    ∃ d d', Document.ofText? ("var x;".toList ++ "display x.lb;# c".toList) = some d ∧
      d.root.hasError = false ∧
      Document.ofText? ("var x;".toList ++ "\n\t ".toList ++ "display x.lb;# c".toList) = some d' ∧
      d'.root.hasError = false ∧
      d'.root = d.root.spread ("var x;".toList ++ "\n\t ".toList ++ "display x.lb;# c".toList)
        "\n\t ".toList (utf8 "var x;".toList).length := by
  have h : (Document.ofText? ("var x;".toList ++ "display x.lb;# c".toList)).any (fun d => decide
      (d.root.hasError = false ∧ (∃ n ∈ d.root.leaves, n.start.bytes = 6 ∨ n.stop.bytes = 6) ∧
        (∀ n ∈ d.root.leaves, n.kind = "suffix" → n.start.bytes ≠ 6) ∧
        ∀ n ∈ d.root.leaves, n.kind = "comment" → n.stop.bytes ≠ 6)) = true := by
    decide +kernel
  obtain ⟨d, hd, hall⟩ := (Option.any_eq_true _ _).mp h
  obtain ⟨hvalid, hplace, hsuffix, hcomment⟩ := of_decide_eq_true hall
  have hblank : ∀ c ∈ "\n\t ".toList, c = ' ' ∨ '\t' ≤ c ∧ c ≤ '\r' := by
    intro c hc
    change c ∈ ['\n', '\t', ' '] at hc
    simp only [List.mem_cons, List.not_mem_nil, or_false] at hc
    rcases hc with rfl | rfl | rfl
    all_goals decide
  obtain ⟨d', hd'⟩ := blanks_insignificant hd hvalid hblank
    (by decide) (Or.inr (Or.inr hplace)) hsuffix (fun n hn hc _ => hcomment n hn hc) (by decide)
  exact ⟨d, d', hd, hvalid, hd'⟩

end MathProg
