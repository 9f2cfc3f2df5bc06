import MathProg.Proofs.Expression.Parsing

/-!
# Displayed expressions

A display statement of one chain, written with blanks between its words, is parsed without errors, and
its tree shows the expression of the chain.
-/

namespace MathProg.Expression

open Automaton Straight
open MathProg.Tree (Laid Part)

variable {source : List Char} {c : Straight.Config} {word : String}

def semicolonState : State := follow displayed [Grammar.literal ";"]

def displayRule : Rule := ⟨Grammar.display, 3, []⟩
def statementRule : Rule := ⟨Grammar.modelStatement, 1, []⟩
/-- The repetition of the statements of a model. -/
def statementsRule : Rule := ⟨168, 1, []⟩
def modelRule : Rule := ⟨Symbol.model, 1, []⟩

/-- The state behind a tree that stands alone. -/
def aloneState (x : Symbol) : State := follow start [x]

theorem end_checked : Symbol.endOfText ∈ (mode semicolonState).tokens ∧
    action? semicolonState Symbol.endOfText = some (.reduce displayRule) ∧
    action? (aloneState displayRule.symbol) Symbol.endOfText = some (.reduce statementRule) ∧
    action? (aloneState statementRule.symbol) Symbol.endOfText = some (.reduce statementsRule) ∧
    action? (aloneState statementsRule.symbol) Symbol.endOfText = some (.reduce modelRule) ∧
    action? (aloneState modelRule.symbol) Symbol.endOfText = some .accept := by
  decide +kernel

theorem alone_checked : ∀ r ∈ [displayRule, statementRule, statementsRule, modelRule],
    successor? start r.symbol = some (aloneState r.symbol) := by
  decide +kernel

/-- A parser at the end of the text with one tree, which shows as one node. -/
structure Alone (source : List Char) (x : Symbol) (sketch : Sketch) (c : Straight.Config) : Prop where
  frames : ∃ t, c.frames = [⟨aloneState x, t⟩] ∧ t.Fits source 0 ⟨none, sketch⟩
  sees : ∃ l, c.Sees source l ∧ l.symbol = Symbol.endOfText ∧ l.extra = true ∧ l.origin = .read

/-- A hidden node is made of the one tree. -/
theorem Alone.hide {x : Symbol} {sketch : Sketch} {r : Rule} (h : Alone source x sketch c)
    (ha : action? (aloneState x) Symbol.endOfText = some (.reduce r))
    (hsucc : successor? start r.symbol = some (aloneState r.symbol)) (hlen : r.length = 1)
    (has : r.aliases = []) (hv : Symbol.isVisible r.symbol = false)
    (he : Tree.isErroneous r.symbol = false) :
    ∃ c', Reaches source c c' ∧ Alone source r.symbol sketch c' := by
  obtain ⟨⟨t, hframes, hfits⟩, l, hsees, hl, hextra⟩ := h
  have hred : reduce r c.frames = some [⟨aloneState r.symbol, Tree.ofRule r [t]⟩] := by
    rw [hframes]
    exact reduce_append [⟨_, t⟩] [] (by simpa [trees] using hfits.counted) hlen hsucc
  obtain ⟨look, hreach, hsees'⟩ := reaches_reduce hsees (by rw [hframes, hl]; exact ha) hred
  exact ⟨_, hreach, ⟨_, rfl, hfits.hidden has hv he⟩, l, hsees', hl, hextra⟩

/-- The whole tree around one statement. -/
theorem Alone.accept {sketch : Sketch} (h : Alone source statementsRule.symbol sketch c) :
    ∃ tree fuel, run source fuel c = some (.accepted tree) ∧ tree.hasError = false ∧
      (Node.ofTree tree).sketch source = .node Symbol.model [sketch] := by
  obtain ⟨⟨t, hframes, hfits⟩, l, hsees, hl, hextra, horigin⟩ := h
  have hred : reduce modelRule c.frames = some [⟨aloneState Symbol.model, Tree.ofRule modelRule [t]⟩] := by
    rw [hframes]
    exact reduce_append [⟨_, t⟩] [] (by simpa [trees] using hfits.counted) rfl
      (alone_checked modelRule (by simp))
  obtain ⟨look, hreach, hsees'⟩ := reaches_reduce hsees
    (by rw [hframes, hl]; exact end_checked.2.2.2.2.1) hred
  have hroot : Tree.root? [Tree.ofRule modelRule [t], .leaf l] =
      some (.node Symbol.model [] [t, .leaf l] false) := by
    have hleaf : (Tree.leaf l).extra = true := hextra
    have hnode : ¬ (Tree.ofRule modelRule [t]).extra = true := Bool.false_ne_true
    have hspan : [Tree.leaf l, Tree.ofRule modelRule [t]].span Tree.extra =
        ([.leaf l], [Tree.ofRule modelRule [t]]) := by
      rw [List.span_eq_takeWhile_dropWhile, List.takeWhile_cons_of_pos hleaf,
        List.takeWhile_cons_of_neg hnode, List.dropWhile_cons_of_pos hleaf,
        List.dropWhile_cons_of_neg hnode]
    rw [Tree.root?, show [Tree.ofRule modelRule [t], .leaf l].reverse =
      [Tree.leaf l, Tree.ofRule modelRule [t]] from rfl, hspan]
    rfl
  have hstep := step_accept hsees' (by rw [hl]; exact end_checked.2.2.2.2.2)
  rw [show trees _ ++ _ = [Tree.ofRule modelRule [t], .leaf l] from rfl, hroot] at hstep
  obtain ⟨fuel, hrun⟩ := run_of_reaches 1 hreach (by rw [run, hstep]; rfl)
  -- the end of the text does not show
  have hend : Tree.looks source [] 1 (0 + t.total) [.leaf l] = [] := by
    have hhidden : (Tree.leaf l).isVisible = false := by
      rw [Tree.isVisible, show (Tree.leaf l).symbol = Symbol.endOfText from hl]
      decide +kernel
    have halias : Node.aliasOf [] 1 (Tree.leaf l) = none := if_pos hextra
    rw [Tree.looks_cons, halias, Tree.look, hhidden]
    rfl
  have hlooks : Tree.looks source [] 0 0 [t, .leaf l] = [sketch] := by
    have halias : Node.aliasOf [] 0 t = none := if_neg (by rw [hfits.counted]; exact Bool.false_ne_true)
    have hplace : Tree.advance 0 t = 1 := if_neg (by rw [hfits.counted]; exact Bool.false_ne_true)
    rw [Tree.looks_cons, halias, hfits.look, hplace, hend]
    rfl
  have hvisible : Symbol.isVisible Symbol.model = true := by decide +kernel
  have hlook : Tree.look source none 0 (.node Symbol.model [] [t, .leaf l] false) =
      [.node Symbol.model [sketch]] := by
    rw [Tree.look_visible hvisible (by rw [hlooks]; exact List.cons_ne_nil _ _), hlooks]
  rw [Tree.look_root (t := .node Symbol.model [] [t, .leaf l] false) hvisible] at hlook
  refine ⟨_, fuel, hrun, ?_, ?_⟩
  · have hcost : (Tree.node Symbol.model [] [t, .leaf l] false).cost = 0 := by
      have hleaf : (Tree.leaf l).cost = 0 := if_neg (by rw [horigin]; decide)
      have hall : Tree.costAll [t, .leaf l] = 0 := by
        rw [Tree.costAll, Tree.costAll, Tree.costAll, hfits.free, hleaf, ite_self, ite_self]
      rw [Tree.cost, hall]
      rfl
    rw [Tree.hasError, hcost]
    rfl
  · exact (List.cons.inj hlook).1

/-- The parser behind the expression of a display statement goes on to the end. -/
theorem Behind.accept {e : Expr} (h : Behind source [] e c) (hf : Faces source ";" [] c) :
    ∃ tree fuel, run source fuel c = some (.accepted tree) ∧ tree.hasError = false ∧
      (Node.ofTree tree).sketch source =
        .node Symbol.model [.node Grammar.display
          [(wordPart none "display").sketch, e.sketch, (wordPart none ";").sketch]] := by
  have hshift := (closing_checked .whole List.mem_cons_self).2
  rw [if_pos rfl, ← show stateOf c.frames = Slot.whole.full from h.state] at hshift
  obtain ⟨c₁, ⟨hreach₁, ⟨u, hframes₁, hfits₁, hposition₁⟩, hlookahead₁⟩, hrest₁⟩ :=
    hf.take (by decide) hshift none
  obtain ⟨fs, t, p, hframes, hstands, hfits, hposition⟩ := h.frames
  cases hstands with
  | @whole d hd =>
    rw [hframes] at hframes₁
    rw [hposition] at hfits₁ hposition₁
    have hlaid : Laid source 0 [d, t, u] [wordPart none "display", e.part, wordPart none ";"] _ :=
      .cons hd (.cons hfits (.cons hfits₁ (.nil _)))
    obtain ⟨htoken, hdisplay, hstatement, hstatements, -⟩ := end_checked
    have hstate₁ : stateOf c₁.frames = semicolonState := by
      rw [hframes₁]
      rfl
    -- the statement
    have hblank : ∀ b ∈ c₁.rest source, isBlank b = true := by
      cases hrest₁ with
      | nil hg => exact hg
    have hsees := sees_end hlookahead₁ (by rw [hstate₁]; exact htoken) hblank
    have hred : reduce displayRule c₁.frames =
        some [⟨aloneState displayRule.symbol, Tree.ofRule displayRule [d, t, u]⟩] := by
      rw [hframes₁]
      exact reduce_append [⟨_, u⟩, ⟨_, t⟩, ⟨_, d⟩] [] hlaid.counted rfl
        (alone_checked displayRule (by simp))
    obtain ⟨look, hreach₂, hsees₂⟩ := reaches_reduce hsees (by rw [hstate₁]; exact hdisplay) hred
    have hnode := hlaid.node (r := displayRule) (List.cons_ne_nil _ _) rfl (by decide +kernel) rfl
    -- and what is around it
    obtain ⟨c₃, hreach₃, halone₃⟩ := Alone.hide (x := displayRule.symbol) ⟨⟨_, rfl, hnode⟩, _, hsees₂, rfl, rfl, rfl⟩
      hstatement (alone_checked statementRule (by simp)) rfl rfl (by decide +kernel) rfl
    obtain ⟨c₄, hreach₄, halone₄⟩ := halone₃.hide hstatements (alone_checked statementsRule (by simp)) rfl rfl
      (by decide +kernel) rfl
    obtain ⟨tree, fuel, hrun, hresult⟩ := halone₄.accept
    obtain ⟨more, hmore⟩ := run_of_reaches _ (((hreach₁.trans hreach₂).trans hreach₃).trans hreach₄) hrun
    exact ⟨tree, more, hmore, hresult⟩

/-- A displayed chain is parsed, and its tree shows its expression. -/
theorem parse_display {chain : Chain} {e : Expr} (h : chain.tree = some e)
    (hs : Spells ("display".toList :: (chain.words ++ [";".toList])) source) :
    ∃ tree, MathProg.parse source = some tree ∧ tree.hasError = false ∧
      (Node.ofTree tree).sketch source =
        .node Symbol.model [.node Grammar.display
          [.leaf (Grammar.literal "display") "display".toList, e.sketch,
            .leaf (Grammar.literal ";") ";".toList]] := by
  -- the keyword
  have hbegin : Faces source "display" (chain.words ++ [";".toList]) ⟨[], 0, none⟩ :=
    faces_word (by decide) rfl start_checked.1 hs
  obtain ⟨c₁, ⟨hreach₁, ⟨d, hframes₁, hfits₁, hposition₁⟩, hlookahead₁⟩, hrest₁⟩ :=
    hbegin.take (by decide) start_checked.2 none
  have hbefore : Before source [] c₁ := by
    refine ⟨?_, hlookahead₁⟩
    rw [hframes₁, hposition₁]
    exact .whole hfits₁
  -- the chain
  rw [Chain.words, List.append_assoc] at hrest₁
  obtain ⟨c₂, hreach₂, hreads₂⟩ := hbefore.reads hrest₁
  rw [← Reader.tree_chain] at h
  obtain ⟨m, hm, rfl⟩ := Option.map_eq_some_iff.mp h
  rw [List.append_nil] at hreads₂
  obtain ⟨c₃, hreach₃, hbehind₃, word, ws, hremaining, hfaces₃⟩ := hreads₂.links hm
  obtain ⟨hword, rfl⟩ := List.cons.inj (show ";".toList :: [] = word.toList :: ws from hremaining)
  obtain rfl := String.toList_inj.mp hword
  -- all that is unfinished is closed by the end
  have hclosed : ∀ o : Open, o.closedBy .finish = true →
      action? o.slot.full (Grammar.literal ";") = some (.reduce o.slot.rule) := by
    intro o _
    have hne : o.slot ≠ .whole := by cases o <;> rintro ⟨⟩
    rw [(closing_checked _ o.slot_mem).2, if_neg hne]
  obtain ⟨c₄, hreach₄, hbehind₄, hfaces₄⟩ := hbehind₃.settle hfaces₃ hclosed
  rw [settle_finish, show fillAll m.open_ (.atom m.last) = m.tree from rfl] at hbehind₄
  obtain ⟨tree, fuel, hrun, hresult⟩ := hbehind₄.accept hfaces₄
  obtain ⟨more, hmore⟩ := run_of_reaches _ (((hreach₁.trans hreach₂).trans hreach₃).trans hreach₄) hrun
  rw [sketch_literal, sketch_literal] at hresult
  exact ⟨tree, parse_of_straight (parse_eq_of_run hmore), hresult⟩

theorem letters_checked : ∀ e ∈ Symbol.table.toList, e.form = .literal →
    e.name.toList.length ≠ 1 ∨ e.name.toList.all (!isNameStart ·) = true := by
  decide +kernel

/-- A name of one letter. -/
def letter (c : Char) (h : isNameStart c = true) : Atom :=
  .name [c] ⟨c, [], rfl, h, by simp⟩ fun e he hform htext => by
    rcases letters_checked e he hform with hlength | hall
    · rw [htext] at hlength
      exact hlength rfl
    · rw [htext] at hall
      simp [h] at hall

def minus : Sign := ⟨⟨18, false⟩, "-", by decide⟩
def power : Operator := ⟨⟨19, true⟩, ["^"], by decide⟩
def times : Operator := ⟨⟨17, false⟩, ["*"], by decide⟩
def membership : Operator := ⟨⟨7, false⟩, ["in"], by decide⟩

/-- A sign takes in the power that follows its operand, and is closed by a product. -/
theorem parse_display_sign :
    ∃ tree, MathProg.parse " display - a ^ b * c ;".toList = some tree ∧ tree.hasError = false ∧
      (Node.ofTree tree).sketch " display - a ^ b * c ;".toList =
        .node Symbol.model [.node Grammar.display
          [.leaf (Grammar.literal "display") "display".toList,
            (Expr.binary times
              (.signed minus (.binary power (.atom (letter 'a' (by decide))) (.atom (letter 'b' (by decide)))))
              (.atom (letter 'c' (by decide)))).sketch,
            .leaf (Grammar.literal ";") ";".toList]] :=
  have htree : Chain.tree ⟨⟨[minus], letter 'a' (by decide)⟩,
      [.operator power ⟨[], letter 'b' (by decide)⟩, .operator times ⟨[], letter 'c' (by decide)⟩]⟩ =
      some _ := rfl
  parse_display htree (spells_flatMap _)

/-- A range that an operator has closed does not take a step any more, even where the step would make
an expression of the whole. -/
theorem display_closed_range_broken :
    ¬ ∀ (e : Expr) (source : List Char), Spells ("display".toList :: (e.words ++ [";".toList])) source →
      ∃ tree, MathProg.parse source = some tree ∧ tree.hasError = false := by
  intro h
  obtain ⟨tree, ht, herror⟩ := h (.stepped (.atom (letter 'a' (by decide)))
    (.binary membership (.atom (letter 'b' (by decide))) (.atom (letter 'c' (by decide))))
    (.atom (letter 'd' (by decide)))) " display a .. b in c by d ;".toList (spells_flatMap _)
  have hbroken : (MathProg.parse " display a .. b in c by d ;".toList).all (·.hasError) = true := by
    decide +kernel
  rw [ht, Option.all_some, herror] at hbroken
  cases hbroken

end MathProg.Expression
