import MathProg.Proofs.Node.Insertion
import MathProg.Proofs.Parsing.Joining

/-!
# Statements do not depend on each other

The tree of a text has one node for each statement. A text behind another one and a line feed has the nodes
that it has by itself, moved behind it, and the text of a statement has the node that the statement has in
the whole text.
-/

namespace MathProg

namespace Tree

open Automaton (State Section start)
open Straight (Spelled Program)

variable {s r : State} {x : Symbol} {t u : Tree} {us ts : List Tree}

/-- Whether a leaf has text and was read. -/
def IsRead (l : Leaf) : Prop := l.origin = .read ∧ 0 < l.size.chars

theorem isRead_of_spelled {atStart : Bool} {ls : List (State × Leaf)} {v y : List Char}
    (h : Spelled atStart ls v y) : ∀ m ∈ ls, IsRead m.2 := by
  induction h with
  | nil => exact fun m hm => absurd hm List.not_mem_nil
  | cons h _ _ ih =>
    refine List.forall_mem_cons.mpr ⟨⟨congrArg Leaf.origin h.leaf, ?_⟩, ih⟩
    have hsize := congrArg (·.size.chars) h.leaf
    dsimp only at hsize ⊢
    rw [hsize, Extent.chars_ofChars]
    exact List.length_pos_of_ne_nil h.ne_nil

mutual

theorem Made.regular : ∀ (t : Tree) {s r : State} {x : Symbol}, t.Made s x →
    (∀ m ∈ readings s r t, IsRead m.2) → t.Regular
  | leaf l, s, r, x, _, h => h (r, l) (List.mem_singleton_self _)
  | node z as cs e, s, r, x, hmade, h => by
    refine ⟨Grammar.not_erroneous_of_production hmade.production, ?_,
      MadeAll.regular cs hmade.2.2.2.1 h⟩
    obtain ⟨c, ds, rfl, -⟩ := hmade.2.1
    exact List.cons_ne_nil _ _

theorem MadeAll.regular : ∀ (ts : List Tree) {s r : State} {x : Symbol}, MadeAll s x ts →
    (∀ m ∈ readingsAll s r ts, IsRead m.2) → RegularAll ts
  | [], _, _, _, _, _ => trivial
  | t :: ts, s, r, x, ⟨hcomment, hcounts, hrest⟩, h => by
    rw [readingsAll, List.forall_mem_append] at h
    refine ⟨?_, MadeAll.regular ts hrest h.2⟩
    by_cases ht : t.extra = true
    · obtain ⟨l, rfl, -⟩ := (hcomment ht).eq_leaf
      exact h.1 _ (List.mem_singleton_self _)
    · exact Made.regular t (hcounts (eq_false_of_ne_true ht)) h.1

end

theorem regularAll_append : RegularAll (ts ++ us) ↔ RegularAll ts ∧ RegularAll us := by
  induction ts with
  | nil => exact (iff_of_eq (true_and _)).symm
  | cons t ts ih => rw [List.cons_append, RegularAll, RegularAll, ih, and_assoc]

theorem PiecesMade.regular (hmade : PiecesMade x us) (h : ∀ m ∈ pieceReadings r us, IsRead m.2) :
    RegularAll us := by
  induction us generalizing r with
  | nil => trivial
  | cons u us ih =>
    obtain ⟨hcomment, hcounts, hrest⟩ := hmade
    rw [pieceReadings, List.forall_mem_append] at h
    refine ⟨?_, ih hrest h.2⟩
    by_cases hu : u.extra = true
    · obtain ⟨l, rfl, -⟩ := (hcomment hu).eq_leaf
      exact h.1 _ (List.mem_singleton_self _)
    · exact Made.regular u (hcounts (eq_false_of_ne_true hu)) h.1

theorem isMissing_behind (p : Extent) (t : Tree) : (behind p t).isMissing = t.isMissing := by
  cases t <;> rfl

theorem stoppedAt_behind (p : Extent) (t : Tree) : Node.stoppedAt (behind p t) = Node.stoppedAt t := by
  cases t with
  | leaf l => obtain ⟨_, _, _, _, _ | _ | _⟩ := l <;> rfl
  | node => rfl

theorem isVisible_behind (p : Extent) (t : Tree) : (behind p t).isVisible = t.isVisible := by
  rw [isVisible, isVisible, symbol_behind]

theorem Regular.behind (p : Extent) : ∀ t : Tree, t.Regular → (t.behind p).Regular
  | leaf _, h => h
  | node _ _ [] _, h => h
  | node _ _ (c :: _) _, h => ⟨h.1, List.cons_ne_nil _ _, Regular.behind p c h.2.2.1, h.2.2.2⟩

/-- A tree behind another gap begins and stops where the tree did, if it stands accordingly. -/
theorem total_behind {p b b' : Extent} : ∀ t : Tree, t.Regular → b' + p = b + t.padding →
    (behind p t).padding = p ∧ b' + (behind p t).total = b + t.total
  | leaf l, _, h => by
    refine ⟨rfl, ?_⟩
    change b' + (p + l.size) = b + (l.padding + l.size)
    rw [← Extent.add_assoc, h, ← Extent.add_assoc]
    rfl
  | node _ _ [] _, h, _ => absurd rfl h.2.1
  | node z as (c :: cs) e, hr, h => by
    obtain ⟨hpadding, htotal⟩ := total_behind c hr.2.2.1 h
    refine ⟨hpadding, ?_⟩
    rw [behind, behindAll, total_node, total_node, totalAll_cons, totalAll_cons, ← Extent.add_assoc, htotal,
      Extent.add_assoc]

end Tree

namespace Node

open MathProg.Tree (Regular RegularAll behind behindAll)

variable {b b' p : Extent}

theorem infoOf_behind (alias? : Option Symbol) {t : Tree} (ht : t.Regular) (h : b' + p = b + t.padding) :
    infoOf alias? b' (behind p t) = infoOf alias? b t := by
  obtain ⟨hpadding, htotal⟩ := Tree.total_behind t ht h
  have herror : (behind p t).hasError = t.hasError := by
    rw [Tree.hasError, Tree.hasError, (ht.behind p).cost, ht.cost]
  rw [infoOf, infoOf, hpadding, htotal, h, herror, Tree.isMissing_behind, Tree.stoppedAt_behind,
    Tree.isError, Tree.isError, Tree.symbol_behind, Tree.extra_behind]

/-- A tree behind another gap shows what the tree shows, if it stands accordingly. -/
theorem shown_behind : ∀ t : Tree, t.Regular → b' + p = b + t.padding →
    shown b' (behind p t) = shown b t
  | .leaf _, _, _ => rfl
  | .node _ _ [] _, h, _ => absurd rfl h.2.1
  | .node z as (c :: cs) e, hr, h => by
    have hc := hr.2.2.1
    change b' + p = b + c.padding at h
    rw [behind, behindAll, shown, shown, shownAmong_cons, shownAmong_cons, shownAs, shownAs,
      (Tree.total_behind c hc h).2, shown_behind c hc h, aliasOf, aliasOf, Tree.extra_behind,
      infoOf_behind _ hc h, Tree.isVisible_behind, Tree.advance, Tree.advance, Tree.extra_behind]

theorem shownAs_behind (alias? : Option Symbol) {t : Tree} (ht : t.Regular) (h : b' + p = b + t.padding) :
    shownAs alias? b' (behind p t) = shownAs alias? b t := by
  rw [shownAs, shownAs, Tree.isVisible_behind, infoOf_behind alias? ht h, shown_behind t ht h]

theorem shownAmong_behindAll (as : List (Nat × Symbol)) (i : Nat) {ts : List Tree} (ht : RegularAll ts)
    (h : b' + p = b + Tree.paddingFirst ts) : shownAmong as i b' (behindAll p ts) = shownAmong as i b ts := by
  cases ts with
  | nil => rfl
  | cons t ts =>
    change b' + p = b + t.padding at h
    rw [behindAll, shownAmong_cons, shownAmong_cons, (Tree.total_behind t ht.1 h).2, aliasOf, aliasOf,
      Tree.extra_behind, shownAs_behind _ ht.1 h, Tree.advance, Tree.advance, Tree.extra_behind]

theorem infoOf_further (d b : Extent) (alias? : Option Symbol) (t : Tree) :
    infoOf alias? (d + b) t = { infoOf alias? b t with
      start := d + (infoOf alias? b t).start, stop := d + (infoOf alias? b t).stop } := by
  rw [infoOf, infoOf, Extent.add_assoc, Extent.add_assoc]

mutual

/-- A tree shows the same further on, but for where it stands. -/
theorem shown_further (d : Extent) : ∀ (t : Tree) (b : Extent),
    shown (d + b) t = movedAll (d + ·) (d + ·) (shown b t)
  | .leaf _, _ => rfl
  | .node _ as cs _, b => shownAmong_further d cs as 0 b

theorem shownAmong_further (d : Extent) : ∀ (ts : List Tree) (as : List (Nat × Symbol)) (i : Nat)
    (b : Extent), shownAmong as i (d + b) ts = movedAll (d + ·) (d + ·) (shownAmong as i b ts)
  | [], _, _, _ => rfl
  | t :: ts, as, i, b => by
    rw [shownAmong_cons, shownAmong_cons, movedAll_append, Extent.add_assoc,
      shownAmong_further d ts as _ (b + t.total), shownAs, shownAs, shown_further d t b, infoOf_further]
    split
    · rfl
    · rfl

end

theorem shownAs_further (d b : Extent) (alias? : Option Symbol) (t : Tree) :
    shownAs alias? (d + b) t = movedAll (d + ·) (d + ·) (shownAs alias? b t) := by
  rw [shownAs, shownAs, shown_further, infoOf_further]
  split
  · rfl
  · rfl

end Node

namespace Grammar

open Automaton (Section)

/-- Statements are made of one part, which shows under its own name. -/
theorem statements_checked : (rules.productions.all fun rule =>
    !(rule.1 == Section.model.statement || rule.1 == Section.data.statement) ||
      rule.2.length == 1 && rule.2.all fun p => p.shownAs.isNone && Symbol.isVisible p.symbol &&
        Symbol.name p.symbol != "comment" && Symbol.name p.symbol != "data") = true := by
  decide +kernel

theorem part_of_statement {σ : Section} {ps : List Part} (h : (σ.statement, ps) ∈ rules.productions) :
    ∃ p, ps = [p] ∧ p.shownAs = none ∧ Symbol.isVisible p.symbol = true ∧
      Symbol.name p.symbol ≠ "comment" ∧ Symbol.name p.symbol ≠ "data" := by
  have hall := List.all_eq_true.mp statements_checked _ h
  have hσ : (σ.statement == Section.model.statement || σ.statement == Section.data.statement) = true := by
    cases σ <;> decide
  rw [hσ, Bool.not_true, Bool.false_or, Bool.and_eq_true, beq_iff_eq] at hall
  obtain ⟨p, rfl⟩ := List.length_eq_one_iff.mp hall.1
  have hp := List.all_eq_true.mp hall.2 p (List.mem_singleton_self p)
  simp only [Bool.and_eq_true, Option.isNone_iff_eq_none, bne_iff_ne] at hp
  exact ⟨p, rfl, hp.1.1.1, hp.1.1.2, hp.1.2, hp.2⟩

end Grammar

theorem Symbol.name_dataHead : name Grammar.dataHead = "data" := by decide +kernel

theorem Symbol.visible_pieces : isVisible comment = true ∧ isVisible Grammar.dataHead = true ∧
    ∀ σ : Automaton.Section, isVisible σ.statement = false := by
  refine ⟨by decide +kernel, by decide +kernel, fun σ => ?_⟩
  cases σ
  all_goals decide +kernel

namespace Node

open Automaton (State Section start)
open MathProg.Tree (PiecesMade OfSection Ordered Made totalAll)
open Straight (Program)

variable {b : Extent} {x : Symbol} {u : Tree} {us : List Tree} {n : Node} {ns : List Node}

/-- The one node that a piece shows. -/
structure OfPiece (b : Extent) (u : Tree) (n : Node) : Prop where
  shown : shownAs none b u = [n]
  start : n.start = b + u.padding
  stop : n.stop = b + u.total
  comment : n.kind = "comment" ↔ u.extra = true
  data : n.kind = "data" ↔ u.extra = false ∧ u.symbol = Grammar.dataHead

theorem OfPiece.of_comment (h : u.IsComment) (b : Extent) : ∃ n, OfPiece b u n := by
  obtain ⟨l, rfl, hl, hcomment⟩ := h.eq_leaf
  have hvisible : (Tree.leaf l).isVisible = true := by
    rw [Tree.isVisible, Tree.symbol, hcomment]
    exact Symbol.visible_pieces.1
  have hkind : Symbol.name l.symbol = "comment" := by
    rw [hcomment]
    exact Symbol.name_comment
  refine ⟨Node.mk (infoOf none b (.leaf l)) [], if_pos hvisible, rfl, rfl, iff_of_true hkind hl,
    iff_of_false (fun hno => ?_) fun hno => ?_⟩
  · exact absurd (hkind.symm.trans hno) (by decide)
  · exact absurd (hl.symm.trans hno.1) (by decide)

theorem OfPiece.of_head (h : u.extra = false) (hu : u.symbol = Grammar.dataHead) (b : Extent) :
    ∃ n, OfPiece b u n := by
  have hvisible : u.isVisible = true := by
    rw [Tree.isVisible, hu]
    exact Symbol.visible_pieces.2.1
  have hkind : (Node.mk (infoOf none b u) (Node.shown b u)).kind = "data" := by
    change Symbol.name u.symbol = _
    rw [hu]
    exact Symbol.name_dataHead
  refine ⟨Node.mk (infoOf none b u) (Node.shown b u), if_pos hvisible, rfl, rfl, iff_of_false (fun hno => ?_) ?_,
    iff_of_true hkind ⟨h, hu⟩⟩
  · exact absurd (hkind.symm.trans hno) (by decide)
  · rw [h]
    exact Bool.false_ne_true

/-- A node that is made of one part has one child. -/
theorem exists_only {s : State} {z : Symbol} {as : List (Nat × Symbol)} {cs : List Tree} {e : Bool}
    {p : Grammar.Part} (h : (Tree.node z as cs e).Made s x) (hparts : Tree.parts as 0 cs = [p]) :
    ∃ c, cs = [c] ∧ c.extra = false ∧ p = ⟨c.symbol, aliasOf as 0 c⟩ := by
  obtain ⟨-, ⟨c, ds, rfl, hc⟩, hends, -⟩ := h
  rw [Tree.parts, if_neg (by rw [hc]; exact Bool.false_ne_true)] at hparts
  obtain ⟨hpart, hrest⟩ := List.cons.inj hparts
  refine ⟨c, ?_, hc, hpart.symm⟩
  obtain hnil | ⟨us, d, hsplit, hd⟩ := hends
  · cases hnil
  · cases us with
    | nil => exact hsplit.trans (congrArg (· :: []) (List.cons.inj hsplit).1.symm)
    | cons u us =>
      have hmem : d ∈ ds := (List.cons.inj hsplit).2 ▸ List.mem_append_right us (List.mem_singleton_self d)
      obtain ⟨q, hq, -⟩ := Tree.exists_part as 1 hmem hd
      rw [hrest] at hq
      exact absurd hq List.not_mem_nil

theorem OfPiece.of_statement {σ : Section} (h : u.Made u.entry x) (hu : u.symbol = σ.statement)
    (b : Extent) : ∃ n, OfPiece b u n := by
  cases u with
  | leaf l =>
    have htoken := (Automaton.action_cases h.2).1
    rw [show l.symbol = _ from hu] at htoken
    exact absurd htoken (by cases σ <;> decide)
  | node z as cs e =>
    obtain rfl : z = σ.statement := hu
    obtain ⟨p, hparts, halias, hvisible, hcomment, hdata⟩ := Grammar.part_of_statement h.production
    obtain ⟨c, rfl, hc, hpart⟩ := exists_only h hparts
    subst hpart
    have hhidden : (Tree.node σ.statement as [c] e).isVisible = false := Symbol.visible_pieces.2.2 σ
    have hshown : shownAs none b (.node σ.statement as [c] e) =
        [Node.mk (infoOf none b c) (Node.shown b c)] := by
      rw [shownAs, hhidden]
      change shownAmong as 0 b [c] = _
      rw [shownAmong_cons, show aliasOf as 0 c = none from halias, shownAs, show c.isVisible = true from hvisible]
      rfl
    refine ⟨_, hshown, rfl, ?_, iff_of_false hcomment ?_, iff_of_false hdata fun hno => ?_⟩
    · rw [Tree.total_node, Tree.totalAll_cons, Tree.totalAll, Extent.add_zero]
      rfl
    · rw [h.extra]
      exact Bool.false_ne_true
    · have hne : σ.statement ≠ Grammar.dataHead := by cases σ <;> decide
      exact hne hno.2

theorem OfPiece.exists_of_program {source y : List Char} (h : Program source us y) (hu : u ∈ us)
    (b : Extent) : ∃ n, OfPiece b u n := by
  obtain ⟨before, behind, rfl⟩ := List.append_of_mem hu
  obtain ⟨-, hcomment, hcounts, -⟩ := Tree.piecesMade_append.mp h.made
  by_cases he : u.extra = true
  · exact OfPiece.of_comment (hcomment he) b
  · have he := eq_false_of_ne_true he
    by_cases hhead : u.symbol = Grammar.dataHead
    · exact OfPiece.of_head he hhead b
    · rcases h.ordered.split he hhead with ⟨-, hσ⟩ | ⟨_, _, _, -, -, -, -, hσ⟩
      · exact OfPiece.of_statement (hcounts he) hσ b
      · exact OfPiece.of_statement (hcounts he) hσ b

theorem shownAmong_piece (b : Extent) (u : Tree) (us : List Tree) :
    shownAmong [] 0 b (u :: us) = shownAs none b u ++ shownAmong [] 0 (b + u.total) us := by
  have halias : aliasOf [] 0 u = none := by
    rw [aliasOf]
    split <;> rfl
  rw [shownAmong_cons, halias, Tree.shownAmong_place us _ 0]

/-- Each node among those of some pieces is the node of one of them. -/
theorem exists_piece {n : Node} {before after : List Node}
    (hall : ∀ u ∈ us, ∀ b, ∃ n, OfPiece b u n) (h : shownAmong [] 0 b us = before ++ n :: after) :
    ∃ us₁ u us₂, us = us₁ ++ u :: us₂ ∧ shownAmong [] 0 b us₁ = before ∧
      OfPiece (b + totalAll us₁) u n := by
  induction us generalizing b before with
  | nil => exact absurd h (List.append_ne_nil_of_right_ne_nil _ (List.cons_ne_nil _ _)).symm
  | cons u us ih =>
    obtain ⟨m, hm⟩ := hall u List.mem_cons_self b
    rw [shownAmong_piece, hm.shown, List.singleton_append] at h
    cases before with
    | nil =>
      obtain ⟨rfl, -⟩ := List.cons.inj h
      refine ⟨[], u, us, rfl, rfl, ?_⟩
      rw [totalAll, Extent.add_zero]
      exact hm
    | cons k before =>
      obtain ⟨rfl, hrest⟩ := List.cons.inj h
      obtain ⟨us₁, v, us₂, rfl, hbefore, hv⟩ := ih (fun v hv => hall v (List.mem_cons_of_mem _ hv)) hrest
      refine ⟨u :: us₁, v, us₂, rfl, ?_, ?_⟩
      · rw [shownAmong_piece, hm.shown, hbefore]
        rfl
      · rw [Tree.totalAll_cons, ← Extent.add_assoc]
        exact hv

/-- The head of the data section is among some pieces if and only if its node is among theirs. -/
theorem mem_data_iff (hall : ∀ u ∈ us, ∀ b, ∃ n, OfPiece b u n) :
    (∃ m ∈ shownAmong [] 0 b us, m.kind = "data") ↔
      ∃ t ∈ us, t.extra = false ∧ t.symbol = Grammar.dataHead := by
  induction us generalizing b with
  | nil =>
    refine iff_of_false ?_ ?_
    · rintro ⟨m, hm, -⟩
      exact absurd hm List.not_mem_nil
    · rintro ⟨t, ht, -⟩
      exact absurd ht List.not_mem_nil
  | cons u us ih =>
    obtain ⟨m, hm⟩ := hall u List.mem_cons_self b
    rw [shownAmong_piece, hm.shown, List.singleton_append]
    simp only [List.mem_cons, exists_eq_or_imp]
    exact or_congr hm.data (ih fun v hv => hall v (List.mem_cons_of_mem _ hv))

end Node

section Texts

open Node (shownAmong)
open Straight (Program)

variable {source y : List Char} {us : List Tree} {d : Document}

/-- The nodes of a text without errors are those of its pieces. -/
theorem Document.exists_program (h : Document.ofText? source = some d) (hvalid : d.root.hasError = false) :
    ∃ us y, Program source us y ∧ d.root.children = shownAmong [] 0 0 us := by
  obtain ⟨t, ht, rfl⟩ := Option.map_eq_some_iff.mp h
  obtain ⟨ts, as, e, y, rfl, hend, hextra, hparsed⟩ :=
    Straight.parsed_of_parse (parse_eq_accepted ht hvalid)
  obtain ⟨us, hunfolded, hprogram⟩ := hparsed.program
  have hjoint : Symbol.model ∈ Automaton.Section.joints := by decide
  obtain rfl : as = [] := Automaton.Section.aliases_of_joint (Straight.reduction_of_action hparsed.root)
    hjoint
  refine ⟨us, y, hprogram, ?_⟩
  rw [hunfolded.shown 0 0, ← Node.shownAmong_end [] 0 0 ts hend hextra]
  rfl

theorem Straight.Program.regular (h : Program source us y) : Tree.RegularAll us :=
  Tree.PiecesMade.regular h.made (Tree.isRead_of_spelled h.read)

/-- A row of pieces is a text without errors. -/
theorem Document.ofText_of_program (h : Program source us y) :
    ∃ d, Document.ofText? source = some d ∧ d.root.hasError = false ∧
      d.root.children = shownAmong [] 0 0 us := by
  obtain ⟨ts, hunfolded, hparsed⟩ := h.parsed
  obtain ⟨e, haccepted, hend, hextra, hread⟩ := Straight.parse_of_parsed hparsed
  have hparse : parse source = some (.node Symbol.model [] (ts ++ [.leaf e]) false) := by
    unfold parse
    rw [haccepted]
  refine ⟨_, congrArg (Option.map _) hparse, ?_, ?_⟩
  · exact Tree.hasError_root [] (by decide)
      (Tree.MadeAll.regular ts hparsed.made (Tree.isRead_of_spelled hparsed.read)) hread
  · rw [hunfolded.shown 0 0, ← Node.shownAmong_end [] 0 0 ts hend hextra]
    rfl

/-- Where something is that stood at `e` when the text `s` and a line feed come before it. -/
def Extent.below (s : List Char) (e : Extent) : Extent :=
  ⟨e.chars + s.length + 1, e.bytes + (utf8 s).length + 1, e.rows + s.count '\n' + 1, e.column⟩

theorem Extent.rows_ofChars (s : List Char) : (ofChars s).rows = s.count '\n' := by
  induction s with
  | nil => rfl
  | cons c s ih =>
    have hc : (ofChar c).rows = if c = '\n' then 1 else 0 := by
      rw [ofChar]
      split <;> rfl
    rw [ofChars, List.count_cons, ← ih, add_def, add]
    dsimp only
    rw [hc, Nat.add_comm]
    simp only [beq_iff_eq]

theorem Extent.ofChars_add_eq_below (s : List Char) (e : Extent) :
    ofChars (s ++ ['\n']) + e = e.below s := by
  have hrows := rows_ofChars s
  have hchars := chars_ofChars s
  have hbytes := length_utf8 s
  have hline : ofChars (s ++ ['\n']) = ⟨s.length + 1, (utf8 s).length + 1, s.count '\n' + 1, 0⟩ := by
    rw [ofChars_append, ← hrows, ← hchars, hbytes]
    rfl
  rw [hline, add_def, add, below]
  simp only [Extent.mk.injEq]
  refine ⟨by omega, by omega, by omega, ?_⟩
  split
  · exact Nat.zero_add _
  · rfl

end Texts

namespace Node

open MathProg.Tree (totalAll behind)
open Straight (Program)

variable {source y : List Char} {us us₁ us₂ : List Tree} {u : Tree} {n : Node}

/-- The text of a node is what its piece stands for. -/
theorem OfPiece.text_eq {v g w z : List Char} {b : Extent} (h : OfPiece b u n)
    (hb : Extent.ofChars v = b) (hpadding : u.padding = Extent.ofChars g)
    (htotal : u.total = Extent.ofChars (g ++ w)) : n.text (v ++ (g ++ (w ++ z))) = w := by
  have hstart : n.start.chars = (v ++ g).length := by
    rw [h.start, hpadding, ← hb, ← Extent.ofChars_append, Extent.chars_ofChars]
  have hstop : n.stop.chars = (v ++ g).length + w.length := by
    rw [h.stop, htotal, ← hb, ← Extent.ofChars_append, Extent.chars_ofChars, ← List.append_assoc,
      List.length_append]
  rw [text, hstart, hstop, Nat.add_sub_cancel_left, ← List.append_assoc, List.drop_left, List.take_left]

/-- A node that stands behind a stretch of text. -/
def further (d : Extent) (n : Node) : Node := n.moved (d + ·) (d + ·)

/-- A piece that stands at another place shows its node there. -/
theorem OfPiece.further {b : Extent} (h : OfPiece b u n) (hu : u.Regular) :
    ∃ m : Node, n = m.further n.start ∧ shownAs none 0 (behind 0 u) = [m] ∧
      ∀ d, shownAs none d (behind 0 u) = [m.further d] := by
  have hzero : n.start + 0 = b + u.padding := by rw [Extent.add_zero, h.start]
  have hsame := shownAs_behind none hu hzero
  have hfurther : ∀ d, shownAs none d (behind 0 u) =
      movedAll (d + ·) (d + ·) (shownAs none 0 (behind 0 u)) := fun d => by
    rw [← shownAs_further, Extent.add_zero]
  rw [h.shown, hfurther] at hsame
  generalize shownAs none 0 (behind 0 u) = ms at hfurther hsame ⊢
  cases ms with
  | nil => cases hsame
  | cons m ms =>
    obtain ⟨hm, hms⟩ := List.cons.inj hsame
    cases ms with
    | nil => exact ⟨m, hm.symm, rfl, hfurther⟩
    | cons => cases hms

/-- The head of a data section shows one node. -/
theorem ofPiece_dataHead : ∃ h, OfPiece 0 Straight.dataHead h := OfPiece.of_head rfl rfl 0

end Node

namespace Document

open Node (movedAll)
open Straight (Program)

variable {source source' : List Char} {d d' : Document} {n : Node} {before after : List Node}

/-- Behind a text without a data section and a line feed another text has the nodes that it has by itself,
moved behind that text. -/
theorem children_append (h : ofText? source = some d) (hvalid : d.root.hasError = false)
    (hdata : ∀ n ∈ d.root.children, n.kind ≠ "data") (h' : ofText? source' = some d')
    (hvalid' : d'.root.hasError = false) (hmark : source'.head? ≠ some byteOrderMark) :
    ∃ e, ofText? (source ++ '\n' :: source') = some e ∧ e.root.hasError = false ∧
      e.root.children =
        d.root.children ++ movedAll (Extent.below source) (Extent.below source) d'.root.children := by
  obtain ⟨us, y, hp, hchildren⟩ := exists_program h hvalid
  obtain ⟨us', y', hp', hchildren'⟩ := exists_program h' hvalid'
  have hno : ¬ ∃ t ∈ us, t.extra = false ∧ t.symbol = Grammar.dataHead := by
    rw [← Node.mem_data_iff (b := 0) fun u hu => Node.OfPiece.exists_of_program hp hu, ← hchildren]
    rintro ⟨m, hm, hkind⟩
    exact hdata m hm hkind
  obtain ⟨p, z, hjoined, htotal⟩ := hp.append (hp.ordered.ofSection hno) hp' hmark
  obtain ⟨e, he, hvalid, hall⟩ := ofText_of_program hjoined
  refine ⟨e, he, hvalid, ?_⟩
  have hbelow : Extent.below source = (Extent.ofChars (source ++ ['\n']) + ·) :=
    funext fun e => (Extent.ofChars_add_eq_below source e).symm
  rw [hall, hchildren, hchildren', Tree.shownAmong_nil_append 0 0, Extent.zero_add,
    Node.shownAmong_behindAll [] 0 hp'.regular htotal, hbelow, ← Node.shownAmong_further, Extent.add_zero]

/-- The text of a statement is a text without errors by itself, or behind the head of a data section if the
statement stands behind one; and it has the node there that the statement has in the whole text. -/
theorem statement_alone (h : ofText? source = some d) (hvalid : d.root.hasError = false)
    (hchildren : d.root.children = before ++ n :: after) (hcomment : n.kind ≠ "comment")
    (hdata : n.kind ≠ "data") :
    ∃ m : Node, n = m.further n.start ∧
      ((∀ k ∈ before, k.kind ≠ "data") → ∃ e, ofText? (n.text source) = some e ∧
        e.root.hasError = false ∧ e.root.children = [m]) ∧
      ((∃ k ∈ before, k.kind = "data") → ∃ e h, ofText? ("data;".toList ++ n.text source) = some e ∧
        e.root.hasError = false ∧ h.kind = "data" ∧
          e.root.children = [h, m.further (Extent.ofChars "data;".toList)]) := by
  obtain ⟨us, y, hp, hpieces⟩ := exists_program h hvalid
  rw [hpieces] at hchildren
  obtain ⟨us₁, u, us₂, rfl, hbefore, hn⟩ :=
    Node.exists_piece (fun u hu => Node.OfPiece.exists_of_program hp hu) hchildren
  rw [Extent.zero_add] at hn
  have hu : u.extra = false := eq_false_of_ne_true fun hno => hcomment (hn.comment.mpr hno)
  have hhead : u.symbol ≠ Grammar.dataHead := fun hno => hdata (hn.data.mpr ⟨hu, hno⟩)
  have hregular := (Tree.regularAll_append.mp hp.regular).2.1
  obtain ⟨m, hm, halone, hfurther⟩ := hn.further hregular
  have hheads := Node.mem_data_iff (b := 0) fun v (hv : v ∈ us₁) =>
    Node.OfPiece.exists_of_program hp (List.mem_append_left _ hv)
  rw [hbefore] at hheads
  obtain ⟨v, g, w, z, rfl, hv, hpadding, htotal, hcases⟩ := hp.alone hu hhead
  rw [hn.text_eq hv hpadding htotal]
  refine ⟨m, hm, fun hnone => ?_, fun hsome => ?_⟩
  · obtain ⟨-, hprogram⟩ | ⟨hsome, -⟩ := hcases
    · obtain ⟨e, he, hvalid, hall⟩ := ofText_of_program hprogram
      refine ⟨e, he, hvalid, ?_⟩
      rw [hall, Node.shownAmong_piece, halone]
      rfl
    · obtain ⟨k, hk, hkind⟩ := hheads.mpr hsome
      exact absurd hkind (hnone k hk)
  · obtain ⟨hmodel, -⟩ | ⟨-, hprogram⟩ := hcases
    · obtain ⟨t, ht, hextra, hsymbol⟩ := hheads.mp hsome
      exact absurd ((hmodel t ht hextra).symm.trans hsymbol) (by decide)
    · obtain ⟨e, he, hvalid, hall⟩ := ofText_of_program hprogram
      obtain ⟨h, hh⟩ := Node.ofPiece_dataHead
      refine ⟨e, h, he, hvalid, hh.data.mpr ⟨rfl, rfl⟩, ?_⟩
      rw [hall, Node.shownAmong_piece, Node.shownAmong_piece, hh.shown, hfurther]
      rfl

/-- Statements do not depend on each other: texts without errors are put together node by node, and each
statement has in a text of its own the node that it has among others. -/
theorem statements_independent :
    (∀ {source source' : List Char} {d d' : Document}, ofText? source = some d → d.root.hasError = false →
      (∀ n ∈ d.root.children, n.kind ≠ "data") → ofText? source' = some d' →
      d'.root.hasError = false → source'.head? ≠ some byteOrderMark →
      ∃ e, ofText? (source ++ '\n' :: source') = some e ∧ e.root.hasError = false ∧ e.root.children =
        d.root.children ++ movedAll (Extent.below source) (Extent.below source) d'.root.children) ∧
    ∀ {source : List Char} {d : Document} {before after : List Node} {n : Node},
      ofText? source = some d → d.root.hasError = false → d.root.children = before ++ n :: after →
      n.kind ≠ "comment" → n.kind ≠ "data" →
      ∃ m : Node, n = m.further n.start ∧
        ((∀ k ∈ before, k.kind ≠ "data") → ∃ e, ofText? (n.text source) = some e ∧
          e.root.hasError = false ∧ e.root.children = [m]) ∧
        ((∃ k ∈ before, k.kind = "data") → ∃ e h, ofText? ("data;".toList ++ n.text source) = some e ∧
          e.root.hasError = false ∧ h.kind = "data" ∧
            e.root.children = [h, m.further (Extent.ofChars "data;".toList)]) :=
  ⟨children_append, statement_alone⟩

theorem statements_independent_data :
    (∃ d d', ofText? "set I;# é".toList = some d ∧ ofText? " data;set I:=1;".toList = some d' ∧
      ∃ e, ofText? ("set I;# é".toList ++ '\n' :: " data;set I:=1;".toList) = some e ∧
        e.root.hasError = false ∧ e.root.children = d.root.children ++
          movedAll (Extent.below "set I;# é".toList) (Extent.below "set I;# é".toList)
            d'.root.children) ∧
    ∃ d n k n', ofText? "set I;data; set I:=1;".toList = some d ∧ d.root.children = [n, k, n'] ∧
      (∃ m : Node, n = m.further n.start ∧ ∃ e,
        ofText? (n.text "set I;data; set I:=1;".toList) = some e ∧ e.root.hasError = false ∧
          e.root.children = [m]) ∧
      ∃ m : Node, n' = m.further n'.start ∧ ∃ e h,
        ofText? ("data;".toList ++ n'.text "set I;data; set I:=1;".toList) = some e ∧
          e.root.hasError = false ∧ h.kind = "data" ∧
            e.root.children = [h, m.further (Extent.ofChars "data;".toList)] := by
  constructor
  · have h : (ofText? "set I;# é".toList).any (fun d => decide (d.root.hasError = false ∧
        ∀ n ∈ d.root.children, n.kind ≠ "data")) = true := by
      decide +kernel
    have h' : (ofText? " data;set I:=1;".toList).any (fun d => decide (d.root.hasError = false)) = true := by
      decide +kernel
    obtain ⟨d, hd, hvalid⟩ := (Option.any_eq_true _ _).mp h
    obtain ⟨d', hd', hvalid'⟩ := (Option.any_eq_true _ _).mp h'
    obtain ⟨hvalid, hdata⟩ := of_decide_eq_true hvalid
    exact ⟨d, d', hd, hd',
      statements_independent.1 hd hvalid hdata hd' (of_decide_eq_true hvalid') (by decide)⟩
  · have h : (ofText? "set I;data; set I:=1;".toList).any (fun d => decide (d.root.hasError = false ∧
        d.root.children.map Node.kind = ["set", "data", "set_data"])) = true := by
      decide +kernel
    obtain ⟨d, hd, hall⟩ := (Option.any_eq_true _ _).mp h
    obtain ⟨hvalid, hkinds⟩ := of_decide_eq_true hall
    obtain ⟨n, ns, hchildren, hn, hkinds⟩ := List.map_eq_cons_iff.mp hkinds
    obtain ⟨k, ns, rfl, hk, hkinds⟩ := List.map_eq_cons_iff.mp hkinds
    obtain ⟨n', ns, rfl, hn', hkinds⟩ := List.map_eq_cons_iff.mp hkinds
    obtain rfl := List.map_eq_nil_iff.mp hkinds
    have hfirst : d.root.children = [] ++ n :: [k, n'] := hchildren
    have hlast : d.root.children = [n, k] ++ n' :: [] := hchildren
    obtain ⟨m, hm, halone, -⟩ :=
      statements_independent.2 hd hvalid hfirst (by rw [hn]; decide) (by rw [hn]; decide)
    obtain ⟨m', hm', -, halone'⟩ :=
      statements_independent.2 hd hvalid hlast (by rw [hn']; decide) (by rw [hn']; decide)
    refine ⟨d, n, k, n', hd, hchildren, ⟨m, hm, halone fun _ hno => absurd hno List.not_mem_nil⟩, m', hm',
      halone' ⟨k, ?_, hk⟩⟩
    exact List.mem_cons_of_mem _ List.mem_cons_self

end Document

end MathProg
