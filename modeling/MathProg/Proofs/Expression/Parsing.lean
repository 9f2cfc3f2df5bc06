import MathProg.Proofs.Expression.Shape
import MathProg.Proofs.Parsing.Moves

/-!
# Reading an expression

The parser reads a displayed expression as the reader of chains does: its stack holds the parts of what
is unfinished, and what a token closes is reduced before the token is taken.
-/

namespace MathProg.Expression

open Automaton Straight
open MathProg.Tree (Laid Part)

variable {source : List Char} {cs : List Open} {e : Expr} {c c' : Straight.Config} {p : Extent}
  {word : String} {ws : List (List Char)}

/-- A parser that looks at a word, with other words to follow. -/
def Faces (source : List Char) (word : String) (ws : List (List Char)) (c : Straight.Config) : Prop :=
  ∃ g rest, (∀ d ∈ g, isBlank d = true) ∧ Spells ws rest ∧
    c.rest source = g ++ (word.toList ++ rest) ∧
    c.Sees source
      ⟨Grammar.literal word, Extent.ofChars g, Extent.ofChars word.toList, false, .read⟩

theorem literal_text (h : word ∈ literals) : (Grammar.literal word).text = word.toList :=
  congrArg String.toList (literal_checked word h).2.1

theorem faces_word (hw : word ∈ literals) (hl : c.lookahead = none) (hr : reads (stateOf c.frames) word)
    (h : Spells (word.toList :: ws) (c.rest source)) : Faces source word ws c := by
  generalize hcs : c.rest source = cs at h
  have hreads := Mode.readsWord_literal (Mode.plain_mode (stateOf c.frames)) hr.2 hr.1
    (literal_checked word hw).1
  rw [literal_text hw] at hreads
  cases h with
  | @cons g _ rest _ hg h hends =>
    exact ⟨g, rest, hg, h, hcs, sees_word hl hreads hg hends hcs⟩

/-- A parser that has just taken a tree. -/
structure Took (source : List Char) (s : State) (part : Part) (c c' : Straight.Config) : Prop where
  reaches : Reaches source c c'
  frames : ∃ t, c'.frames = ⟨s, t⟩ :: c.frames ∧ t.Fits source c.position part ∧
    c'.position = c.position + t.total
  lookahead : c'.lookahead = none

/-- Takes the word that the parser looks at. -/
theorem Faces.take {s : State} (h : Faces source word ws c) (hw : word ∈ literals)
    (ha : action? (stateOf c.frames) (Grammar.literal word) = some (.shift s))
    (name? : Option Symbol) :
    ∃ c', Took source s (wordPart name? word) c c' ∧ Spells ws (c'.rest source) := by
  obtain ⟨g, rest, hg, hspells, hrest, hsees⟩ := h
  have hv : (name?.isSome || Symbol.isVisible (Grammar.literal word)) = true := by
    rw [(literal_checked word hw).2.2, Bool.or_true]
  obtain ⟨hfits, hdrop⟩ := Tree.fits_leaf _ hrest hv
  refine ⟨_, ⟨reaches_shift hsees ha, ⟨_, rfl, hfits, rfl⟩, rfl⟩, ?_⟩
  rw [Straight.Config.rest, hdrop]
  exact hspells

/-- A reduction leaves the parser looking at the word. -/
theorem Faces.reduce {r : Rule} {fs : List Frame} (h : Faces source word ws c)
    (ha : action? (stateOf c.frames) (Grammar.literal word) = some (.reduce r))
    (hred : Straight.reduce r c.frames = some fs) :
    ∃ c', Reaches source c c' ∧ c'.frames = fs ∧ c'.position = c.position ∧
      Faces source word ws c' := by
  obtain ⟨g, rest, hg, hspells, hrest, hsees⟩ := h
  obtain ⟨look, hreach, hsees'⟩ := reaches_reduce hsees ha hred
  exact ⟨_, hreach, rfl, rfl, g, rest, hg, hspells, hrest, hsees'⟩

/-- Frames with the parts of what is unfinished, up to a place. -/
inductive Stands (source : List Char) : List Open → List Frame → Extent → Prop
  | whole {t : Tree} (ht : t.Fits source 0 (wordPart none "display")) :
      Stands source [] [⟨displayState, t⟩] (0 + t.total)
  | push {c : Open} {cs : List Open} {top below : List Frame} {p q : Extent}
      (h : Stands source cs below p) (ht : Laid source p (trees top) c.parts q)
      (hs : stateOf (top ++ below) = c.slot.state) : Stands source (c :: cs) (top ++ below) q

theorem Stands.state {fs : List Frame} (h : Stands source cs fs p) : stateOf fs = (slotOf cs).state := by
  cases h with
  | whole => rfl
  | push _ _ hs => exact hs

/-- A parser behind an operand. -/
structure Behind (source : List Char) (cs : List Open) (e : Expr) (c : Straight.Config) : Prop where
  frames : ∃ fs t p, c.frames = ⟨(slotOf cs).full, t⟩ :: fs ∧ Stands source cs fs p ∧
    t.Fits source p e.part ∧ c.position = p + t.total

theorem Behind.state (h : Behind source cs e c) : stateOf c.frames = (slotOf cs).full := by
  obtain ⟨fs, t, p, hframes, -⟩ := h.frames
  rw [hframes]
  rfl

/-- A parser before an operand. -/
structure Before (source : List Char) (cs : List Open) (c : Straight.Config) : Prop where
  stands : Stands source cs c.frames c.position
  lookahead : c.lookahead = none

theorem expr_visible : Symbol.isVisible Grammar.expr = true := by decide +kernel

/-- A reduction closes the innermost of what is unfinished. -/
theorem Behind.close {o : Open} (h : Behind source (o :: cs) e c) (hf : Faces source word ws c)
    (ha : action? o.slot.full (Grammar.literal word) = some (.reduce o.slot.rule)) :
    ∃ c', Reaches source c c' ∧ Behind source cs (o.fill e) c' ∧ Faces source word ws c' := by
  rw [← show stateOf c.frames = o.slot.full from h.state] at ha
  obtain ⟨fs, t, p, hframes, hstands, hfits, hposition⟩ := h.frames
  cases hstands with
  | @push _ _ top below a q hbelow hlaid hs =>
    have hall := hlaid.snoc hfits
    rw [← trees_cons ⟨o.slot.full, t⟩ top] at hall
    have hlength : o.slot.rule.length = (⟨o.slot.full, t⟩ :: top : List Frame).length := by
      have := hall.length_eq
      rw [trees, List.length_reverse, List.length_map, List.length_append] at this
      rw [o.rule_length, this]
      rfl
    have hsucc : successor? (stateOf below) o.slot.rule.symbol = some (slotOf cs).full := by
      rw [hbelow.state]
      exact (slot_checked _ (slotOf_mem cs)).1.1
    have hred := reduce_append _ _ hall.counted hlength hsucc
    obtain ⟨c', hreach, hframes', hposition', hfaces⟩ := hf.reduce ha (by rw [hframes]; exact hred)
    have hnode := hall.node (by simp) (o.rule_aliases e) expr_visible rfl
    refine ⟨c', hreach, ⟨_, _, a, hframes', hbelow, ?_, ?_⟩, hfaces⟩
    · rw [Expr.part, o.sketch_fill]
      exact hnode
    · rw [hposition', hposition, hall.reach, Tree.ofRule, Tree.total_node]

/-- All that is closed by what follows is reduced. -/
theorem Behind.settle {a : Ask} (h : Behind source cs e c) (hf : Faces source word ws c)
    (ha : ∀ o : Open, o.closedBy a = true →
      action? o.slot.full (Grammar.literal word) = some (.reduce o.slot.rule)) :
    ∃ c', Reaches source c c' ∧ Behind source (settle a cs e).1 (settle a cs e).2 c' ∧
      Faces source word ws c' := by
  induction cs generalizing e c with
  | nil => exact ⟨c, .refl, h, hf⟩
  | cons o cs ih =>
    rw [Expression.settle]
    split
    · rename_i hclosed
      obtain ⟨c₁, hreach₁, hbehind₁, hfaces₁⟩ := h.close hf (ha o hclosed)
      obtain ⟨c₂, hreach₂, hbehind₂, hfaces₂⟩ := ih hbehind₁ hfaces₁
      exact ⟨c₂, hreach₁.trans hreach₂, hbehind₂, hfaces₂⟩
    · exact ⟨c, .refl, h, hf⟩

theorem Before.pushed {o : Open} (top : List Frame) {fs : List Frame} {q : Extent} (h : Stands source cs fs p)
    (hlaid : Laid source p (trees top) o.parts q) (hl : c.lookahead = none)
    (hframes : c.frames = top ++ fs) (hposition : c.position = q)
    (hs : stateOf (top ++ fs) = o.slot.state) : Before source (o :: cs) c := by
  refine ⟨?_, hl⟩
  rw [hframes, hposition]
  exact .push h hlaid hs

/-- A sign opens an expression. -/
theorem Before.sign {s : Sign} (h : Before source cs c) (hs : Spells (s.text :: ws) (c.rest source)) :
    ∃ c', Reaches source c c' ∧ Before source (.under s :: cs) c' ∧ Spells ws (c'.rest source) := by
  have hmem : s.word ∈ literals :=
    List.mem_append_right _ (List.mem_map.mpr ⟨_, s.known, rfl⟩)
  obtain ⟨hreads, haction⟩ := (slot_checked _ (slotOf_mem cs)).2.2.2 _ s.known
  rw [← h.stands.state] at hreads haction
  obtain ⟨c', ⟨hreach, ⟨t, hframes, hfits, hposition⟩, hlookahead⟩, hrest⟩ :=
    (faces_word hmem h.lookahead hreads hs).take hmem haction (some Grammar.operator)
  exact ⟨c', hreach, .pushed [⟨_, t⟩] h.stands (.cons hfits (.nil _)) hlookahead hframes
    hposition rfl, hrest⟩

theorem Before.signs {signs : List Sign} (h : Before source cs c)
    (hs : Spells (signs.map Sign.text ++ ws) (c.rest source)) :
    ∃ c', Reaches source c c' ∧ Before source ((signs.map Open.under).reverse ++ cs) c' ∧
      Spells ws (c'.rest source) := by
  induction signs generalizing cs c with
  | nil => exact ⟨c, .refl, h, hs⟩
  | cons s signs ih =>
    obtain ⟨c₁, hreach₁, hbefore₁, hrest₁⟩ := h.sign hs
    obtain ⟨c₂, hreach₂, hbefore₂, hrest₂⟩ := ih hbefore₁ hrest₁
    refine ⟨c₂, hreach₁.trans hreach₂, ?_, hrest₂⟩
    rw [List.map_cons, List.reverse_cons, List.append_assoc]
    exact hbefore₂

/-- The token of an atom, and the state it leads to. -/
def Atom.symbol : Atom → Symbol
  | name _ _ _ => Symbol.symbolicName
  | number _ _ => Symbol.number

def Atom.state : Atom → State
  | name _ _ _ => nameState
  | number _ _ => numberState

theorem literal_mem : ∀ u < Symbol.string, u.IsLiteral →
    (Symbol.lookup? u).any (fun e => e.form == .literal && Symbol.table.toList.contains e) = true := by
  decide +kernel

theorem Atom.readsWord (a : Atom) {k : Slot} (hk : k ∈ slots) :
    (mode k.state).ReadsWord a.symbol a.text := by
  obtain ⟨hb, hn, hname⟩ := (slot_checked k hk).2.1
  cases a with
  | name text h free =>
    refine Mode.readsWord_name (Mode.plain_mode _) hb hname h fun u hu => ?_
    obtain ⟨e, he, hmem⟩ := (Option.any_eq_true _ _).mp (literal_mem u hu.1 hu)
    rw [Bool.and_eq_true, beq_iff_eq, List.contains_iff_mem] at hmem
    have htext : u.text = e.name.toList := by
      rw [Symbol.text, Symbol.name, he]
      rfl
    rw [htext]
    exact free e hmem.2 hmem.1
  | number text h => exact Mode.readsWord_number hb hn h

/-- What an operand's token makes. -/
theorem Atom.actions (a : Atom) {k : Slot} (hk : k ∈ slots) (hword : word ∈ followers) :
    action? k.state a.symbol = some (.shift a.state) ∧ reads a.state word ∧
      action? a.state (Grammar.literal word) = some (.reduce primaryRule) := by
  obtain ⟨⟨hname, hnumber⟩, -⟩ := (slot_checked k hk).2.2
  obtain ⟨⟨hrname, hrnumber⟩, haname, hanumber, -⟩ := operand_checked word hword
  cases a with
  | name => exact ⟨hname, hrname, haname⟩
  | number => exact ⟨hnumber, hrnumber, hanumber⟩

theorem Atom.visible (a : Atom) : Symbol.isVisible a.symbol = true := by
  have hvisible : Symbol.isVisible Symbol.symbolicName = true ∧ Symbol.isVisible Symbol.number = true := by
    decide +kernel
  cases a with
  | name => exact hvisible.1
  | number => exact hvisible.2

theorem mem_literals (h : word ∈ followers) : word ∈ literals := by
  rcases List.mem_append.mp h with h | h
  · exact List.mem_append_left _ (List.mem_append_left _ (List.mem_cons_of_mem _ h))
  · obtain ⟨o, ho, hw⟩ := List.mem_filterMap.mp h
    exact List.mem_append_left _ (List.mem_append_right _
      (List.mem_flatMap.mpr ⟨o, ho, List.mem_of_mem_head? hw⟩))

/-- An atom is an expression. -/
theorem Before.atom {a : Atom} (h : Before source cs c) (hword : word ∈ followers)
    (hs : Spells (a.text :: word.toList :: ws) (c.rest source)) :
    ∃ c', Reaches source c c' ∧ Behind source cs (.atom a) c' ∧ Faces source word ws c' := by
  have hslot := slotOf_mem cs
  have hstate := h.stands.state
  obtain ⟨hshift, hreads, hprimary⟩ := a.actions hslot hword
  obtain ⟨-, -, -, hexpr⟩ := operand_checked word hword
  generalize hrest : c.rest source = text at hs
  cases hs with
  | @cons g _ rest _ hg hs hends =>
    -- the token
    have hsees := sees_word h.lookahead (hstate ▸ a.readsWord hslot) hg hends hrest
    have hreach := reaches_shift hsees (hstate ▸ hshift)
    have hv : ((none : Option Symbol).isSome || Symbol.isVisible a.symbol) = true := a.visible
    obtain ⟨hfits, hdrop⟩ := Tree.fits_leaf none hrest hv
    generalize Tree.leaf _ = t at hreach hfits hdrop
    -- what follows it
    have hfaces : Faces source word ws ⟨⟨a.state, t⟩ :: c.frames, c.position + t.total, none⟩ := by
      refine faces_word (mem_literals hword) rfl hreads ?_
      rw [Straight.Config.rest, hdrop]
      exact hs
    -- the token is a primary expression, and that is an expression
    have hsucc := (slot_checked _ hslot).1
    rw [← hstate] at hsucc
    obtain ⟨c₁, hreach₁, hframes₁, hposition₁, hfaces₁⟩ := hfaces.reduce hprimary
      (reduce_append [⟨a.state, t⟩] c.frames (by simpa [trees] using hfits.counted)
        rfl hsucc.2)
    obtain ⟨c₂, hreach₂, hframes₂, hposition₂, hfaces₂⟩ := hfaces₁.reduce (by rw [hframes₁]; exact hexpr)
      (by
        rw [hframes₁]
        exact reduce_append [⟨primaryState, _⟩] _ (by simp [trees, Tree.ofRule, Tree.extra]) rfl
          hsucc.1)
    have hhidden := hfits.hidden (r := primaryRule) rfl (by decide +kernel) rfl
    have hnode := (Laid.cons hhidden (.nil _)).node (r := atomRule) (List.cons_ne_nil _ _) rfl
      expr_visible rfl
    refine ⟨c₂, (hreach.trans hreach₁).trans hreach₂, ⟨c.frames,
      Tree.ofRule atomRule [Tree.ofRule primaryRule [t]], c.position, hframes₂, h.stands, ?_, ?_⟩, hfaces₂⟩
    · cases a <;> exact hnode
    · rw [hposition₂, hposition₁, Tree.ofRule, Tree.total_node, Tree.totalAll_cons, Tree.ofRule,
        Tree.total_node, Tree.totalAll_cons]
      simp only [Tree.totalAll, Extent.add_zero]

/-- An operand with its signs. -/
theorem Before.operand {x : Operand} (h : Before source cs c) (hword : word ∈ followers)
    (hs : Spells (x.words ++ word.toList :: ws) (c.rest source)) :
    ∃ c', Reaches source c c' ∧ Behind source (x.opened ++ cs) (.atom x.atom) c' ∧
      Faces source word ws c' := by
  rw [Operand.words, List.append_assoc] at hs
  obtain ⟨c₁, hreach₁, hbefore₁, hrest₁⟩ := h.signs hs
  obtain ⟨c₂, hreach₂, hbehind₂, hfaces₂⟩ := hbefore₁.atom hword hrest₁
  exact ⟨c₂, hreach₁.trans hreach₂, hbehind₂, hfaces₂⟩

theorem closed_operator {o : Operator} (hword : o.words.head? = some word) {b : Open}
    (hb : b.closedBy (.operator o) = true) :
    action? b.slot.full (Grammar.literal word) = some (.reduce b.slot.rule) := by
  have hclosed : b.slot.closedBy o.level = true := by
    cases b <;> exact hb
  rw [operator_checked _ b.slot_mem _ o.known word hword, hclosed]
  rfl

/-- Behind what stays open, an operator is taken. -/
theorem open_operator {o : Operator} (hword : o.words.head? = some word)
    {r : List Open × Expr} (hr : settle (.operator o) cs e = r) :
    action? (slotOf r.1).full (Grammar.literal word) =
      some (.shift (follow displayed [Grammar.literal word])) := by
  have haction := operator_checked _ (slotOf_mem r.1) _ o.known word hword
  have hopen : (slotOf r.1).closedBy o.level = false := by
    obtain ⟨ds, e'⟩ := r
    cases ds with
    | nil => rfl
    | cons b ds =>
      have hb := settle_open hr
      cases b <;> exact hb
  rw [haction, hopen]
  rfl

/-- An operator closes what is tighter, and opens an expression. -/
theorem Behind.takeOperator {o : Operator} {first : String} {more : List String}
    (h : Behind source cs e c) (ho : o.words = first :: more)
    (hf : Faces source first (more.map String.toList ++ ws) c) :
    ∃ c', Reaches source c c' ∧ Spells ws (c'.rest source) ∧
      Before source (.left (Expression.settle (.operator o) cs e).2 o ::
        (Expression.settle (.operator o) cs e).1) c' := by
  have hfirst : o.words.head? = some first := by rw [ho]; rfl
  have hmem : ∀ w ∈ o.words, w ∈ literals := fun w hw =>
    List.mem_append_left _ (List.mem_append_right _ (List.mem_flatMap.mpr ⟨_, o.known, hw⟩))
  obtain ⟨c₁, hreach₁, hbehind₁, hf₁⟩ := h.settle hf fun b hb => closed_operator hfirst hb
  have hshift := open_operator hfirst (Eq.refl (Expression.settle (.operator o) cs e))
  rw [← hbehind₁.state] at hshift
  generalize Expression.settle (.operator o) cs e = r at hbehind₁ hshift ⊢
  obtain ⟨fs, t, p, hframes₁, hstands, hfits, hposition₁⟩ := hbehind₁.frames
  obtain ⟨c₂, ⟨hreach₂, ⟨u, hframes₂, hfits₂, hposition₂⟩, hlookahead₂⟩, hrest₂⟩ :=
    hf₁.take (hmem first (by rw [ho]; exact List.mem_cons_self)) hshift
      (if first = ".." then none else some Grammar.operator)
  rw [hframes₁] at hframes₂
  rw [hposition₁] at hfits₂ hposition₂
  have hlaid : Laid source p [t, u] [r.2.part, wordPart _ first] _ := .cons hfits (.cons hfits₂ (.nil _))
  obtain ⟨word, hword, hcases⟩ := words_checked _ o.known
  obtain rfl : first = word := Option.some.inj (hfirst.symm.trans hword)
  rcases hcases with hone | ⟨second, -, htwo, hshifts⟩
  · -- one word
    obtain rfl : more = [] := (List.cons.inj (ho.symm.trans hone)).2
    refine ⟨c₂, hreach₁.trans hreach₂, hrest₂, .pushed [⟨_, u⟩, ⟨_, t⟩] hstands ?_ hlookahead₂
      hframes₂ hposition₂ ?_⟩
    · rw [Open.parts, Operator.parts, ho]
      exact hlaid
    · rw [Open.slot, Slot.state, ho]
      rfl
  · -- two words
    obtain rfl : more = [second] := (List.cons.inj (ho.symm.trans htwo)).2
    have hstate₂ : stateOf c₂.frames = follow displayed [Grammar.literal first] := by
      rw [hframes₂]
      rfl
    rw [← hstate₂] at hshifts
    have hsecond : second ∈ literals :=
      hmem second (by rw [ho]; exact List.mem_cons_of_mem _ List.mem_cons_self)
    obtain ⟨c₃, ⟨hreach₃, ⟨v, hframes₃, hfits₃, hposition₃⟩, hlookahead₃⟩, hrest₃⟩ :=
      (faces_word hsecond hlookahead₂ hshifts.1 hrest₂).take hsecond hshifts.2
        (if second = ".." then none else some Grammar.operator)
    rw [hframes₂] at hframes₃
    rw [hposition₂] at hfits₃ hposition₃
    refine ⟨c₃, (hreach₁.trans hreach₂).trans hreach₃, hrest₃,
      .pushed [⟨_, v⟩, ⟨_, u⟩, ⟨_, t⟩] hstands ?_ hlookahead₃ hframes₃ hposition₃ rfl⟩
    rw [Open.parts, Operator.parts, ho]
    exact hlaid.snoc hfits₃

theorem closed_step {b : Open} (hb : b.closedBy .step = true) :
    action? b.slot.full (Grammar.literal "by") = some (.reduce b.slot.rule) := by
  have hclosed : b.slot.closedByStep = true := by
    cases b <;> exact hb
  rw [(closing_checked _ b.slot_mem).1 (by cases b <;> rintro ⟨⟩), hclosed]
  rfl

theorem open_step {l : Expr} {o : Operator} (ho : o.isRange = true) :
    action? (Open.left l o).slot.full (Grammar.literal "by") = some (.shift Slot.step.state) := by
  have hopen : (Open.left l o).slot.closedByStep = false := by
    change (o.words != [".."]) = false
    rw [bne, show (o.words == [".."]) = true from ho]
    rfl
  rw [(closing_checked _ (Open.left l o).slot_mem).1 (by rintro ⟨⟩), hopen]
  rfl

/-- A step closes what is not a range without one, and opens the step of the range. -/
theorem Behind.takeStep {ds : List Open} (h : Behind source cs e c) (hf : Faces source "by" ws c)
    (hstep : step? (Expression.settle .step cs e) = some ds) :
    ∃ c', Reaches source c c' ∧ Spells ws (c'.rest source) ∧ Before source ds c' := by
  obtain ⟨c₁, hreach₁, hbehind₁, hf₁⟩ := h.settle hf fun _ => closed_step
  -- what stays open is a range
  obtain ⟨l, o, bs, e', hsettle, ho⟩ : ∃ l o bs e',
      Expression.settle .step cs e = (.left l o :: bs, e') ∧ o.isRange = true := by
    cases hsettle : Expression.settle .step cs e with
    | mk bs e' =>
      rw [hsettle] at hstep
      cases bs with
      | nil => cases hstep
      | cons b bs =>
        cases b with
        | under s => cases hstep
        | bounded l r => cases hstep
        | left l o => exact ⟨l, o, bs, e', rfl, by simpa [Open.closedBy] using settle_open hsettle⟩
  rw [hsettle] at hbehind₁ hstep
  cases hstep
  have hshift := open_step (l := l) ho
  rw [← show stateOf c₁.frames = (Open.left l o).slot.full from hbehind₁.state] at hshift
  obtain ⟨c₂, ⟨hreach₂, ⟨u, hframes₂, hfits₂, hposition₂⟩, hlookahead₂⟩, hrest₂⟩ :=
    hf₁.take (by decide) hshift none
  obtain ⟨fs, t, p, hframes₁, hstands, hfits, hposition₁⟩ := hbehind₁.frames
  rw [hframes₁] at hframes₂
  rw [hposition₁] at hfits₂ hposition₂
  cases hstands with
  | @push _ _ top below a q hbelow hlaid hs =>
    have hparts : (Open.left l o).parts = [l.part, wordPart none ".."] := by
      rw [Open.parts, Operator.parts, beq_iff_eq.mp ho]
      rfl
    rw [hparts] at hlaid
    exact ⟨c₂, hreach₁.trans hreach₂, hrest₂, .pushed (⟨_, u⟩ :: ⟨_, t⟩ :: top) hbelow
      (by rw [trees_cons, trees_cons]; exact (hlaid.snoc hfits).snoc hfits₂) hlookahead₂ hframes₂
      hposition₂ rfl⟩

/-- The words of some links and of the end of the statement. -/
def remaining (links : List Link) : List (List Char) := links.flatMap Link.words ++ [[';']]

/-- The first of the remaining words may follow an operand. -/
theorem remaining_first (links : List Link) : ∃ word ws, word ∈ followers ∧
    remaining links = word.toList :: ws := by
  cases links with
  | nil => exact ⟨";", [], by decide, rfl⟩
  | cons link links =>
    cases link with
    | step x =>
      refine ⟨"by", x.words ++ remaining links, by decide, ?_⟩
      simp only [remaining, List.flatMap_cons, Link.words, List.cons_append, List.append_assoc]
      rfl
    | operator o x =>
      obtain ⟨first, hfirst, -⟩ := words_checked _ o.known
      obtain ⟨more, ho⟩ := List.head?_eq_some_iff.mp hfirst
      have ho : o.words = first :: more := ho
      refine ⟨first, more.map String.toList ++ (x.words ++ remaining links),
        List.mem_append_right _ (List.mem_filterMap.mpr ⟨_, o.known, hfirst⟩), ?_⟩
      simp only [remaining, List.flatMap_cons, Link.words, Operator.texts, ho, List.map_cons,
        List.cons_append, List.append_assoc]

/-- A parser behind an operand, with some links to follow. -/
structure Reads (source : List Char) (m : Reader) (links : List Link) (c : Straight.Config) : Prop where
  behind : Behind source m.open_ (.atom m.last) c
  faces : ∃ word ws, remaining links = word.toList :: ws ∧ Faces source word ws c

theorem Before.reads {x : Operand} {links : List Link} (h : Before source cs c)
    (hs : Spells (x.words ++ remaining links) (c.rest source)) :
    ∃ c', Reaches source c c' ∧ Reads source ⟨x.opened ++ cs, x.atom⟩ links c' := by
  obtain ⟨word, ws, hword, hremaining⟩ := remaining_first links
  rw [hremaining] at hs
  obtain ⟨c', hreach, hbehind, hfaces⟩ := h.operand hword hs
  exact ⟨c', hreach, hbehind, word, ws, hremaining, hfaces⟩

/-- The parser reads a link as the reader does. -/
theorem Reads.next {m m' : Reader} {link : Link} {links : List Link}
    (h : Reads source m (link :: links) c) (hm : m.next link = some m') :
    ∃ c', Reaches source c c' ∧ Reads source m' links c' := by
  obtain ⟨hbehind, word, ws, hremaining, hfaces⟩ := h
  cases link with
  | operator o x =>
    cases hm
    obtain ⟨first, hfirst, -⟩ := words_checked _ o.known
    obtain ⟨more, ho⟩ := List.head?_eq_some_iff.mp hfirst
    have ho : o.words = first :: more := ho
    have hwords : first.toList :: (more.map String.toList ++ (x.words ++ remaining links)) =
        word.toList :: ws := by
      rw [← hremaining]
      simp only [remaining, List.flatMap_cons, Link.words, Operator.texts, ho, List.map_cons,
        List.cons_append, List.append_assoc]
    obtain ⟨hword, rfl⟩ := List.cons.inj hwords
    obtain rfl := String.toList_inj.mp hword
    obtain ⟨c₁, hreach₁, hrest₁, hbefore₁⟩ := hbehind.takeOperator ho hfaces
    obtain ⟨c₂, hreach₂, hreads₂⟩ := hbefore₁.reads hrest₁
    exact ⟨c₂, hreach₁.trans hreach₂, hreads₂⟩
  | step x =>
    obtain ⟨ds, hds, rfl⟩ := Option.map_eq_some_iff.mp hm
    have hwords : "by".toList :: (x.words ++ remaining links) = word.toList :: ws := by
      rw [← hremaining]
      simp only [remaining, List.flatMap_cons, Link.words, List.cons_append, List.append_assoc]
      rfl
    obtain ⟨hword, rfl⟩ := List.cons.inj hwords
    obtain rfl := String.toList_inj.mp hword
    obtain ⟨c₁, hreach₁, hrest₁, hbefore₁⟩ := hbehind.takeStep hfaces hds
    obtain ⟨c₂, hreach₂, hreads₂⟩ := hbefore₁.reads hrest₁
    exact ⟨c₂, hreach₁.trans hreach₂, hreads₂⟩

theorem Reads.links {m m' : Reader} {links : List Link} (h : Reads source m links c)
    (hm : links.foldlM Reader.next m = some m') :
    ∃ c', Reaches source c c' ∧ Reads source m' [] c' := by
  induction links generalizing m c with
  | nil =>
    cases hm
    exact ⟨c, .refl, h⟩
  | cons link links ih =>
    rw [List.foldlM_cons] at hm
    obtain ⟨m₁, hm₁, hrest⟩ := Option.bind_eq_some_iff.mp hm
    obtain ⟨c₁, hreach₁, hreads₁⟩ := h.next hm₁
    obtain ⟨c₂, hreach₂, hreads₂⟩ := ih hreads₁ hrest
    exact ⟨c₂, hreach₁.trans hreach₂, hreads₂⟩

end MathProg.Expression
