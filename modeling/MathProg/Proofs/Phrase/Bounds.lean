import MathProg.Proofs.Phrase.Attributes
import MathProg.Proofs.Expression.Display

/-!
# Bounds of variables and parameters

The operands of attributes are not read past the next attribute, where they are made of names, numbers and
arithmetic: all their operators bind tighter than those that an attribute may begin with.
-/

namespace MathProg

open Expression (Level Operator Sign)

namespace Phrase

variable {e x : Phrase} {o : Operator} {k : Site} {t : Symbol}

/-- The words of arithmetic with names and numbers. -/
inductive Arithmetic : List Word → Prop where
  | name (text : List Char) : Arithmetic [⟨Symbol.symbolicName, text⟩]
  | number (text : List Char) : Arithmetic [⟨Symbol.number, text⟩]
  | group {ws : List Word} (h : Arithmetic ws) :
    Arithmetic (.token Token.openParen :: (ws ++ [.token Token.closeParen]))
  | signed (s : Sign) (hs : (s.level, s.token) ∈ Dialect.linear.signs) {ws : List Word}
    (h : Arithmetic ws) :
    Arithmetic (.token s.token :: ws)
  | binary (o : Operator) (ho : (o.level, o.tokens) ∈ Dialect.linear.operators) {ws vs : List Word}
    (h : Arithmetic ws) (h' : Arithmetic vs) : Arithmetic (ws ++ (o.tokens.map Word.token ++ vs))

/-- Whether all operators and signs outside of parentheses are arithmetic. -/
def isTight : Phrase → Bool
  | name _ _ | number _ | group _ _ => true
  | signed s x => Dialect.linear.signs.contains (s.level, s.token) && x.isTight
  | binary o l r => Dialect.linear.operators.contains (o.level, o.tokens) && l.isTight && r.isTight
  | _ => false

theorem isTight_attach (ho : (o.level, o.tokens) ∈ Dialect.linear.operators) (he : e.isTight = true)
    (hx : x.isTight = true) : (e.attach o x).isTight = true := by
  induction e using rightInduction with
  | closed e hc =>
    rw [attach_closed hc]
    simp [isTight, ho, he, hx]
  | fill f e ih =>
    rcases attach_cases (o := o) (x := x) f e with ⟨-, h⟩ | ⟨-, h⟩
    · rw [h]
      simp [isTight, ho, he, hx]
    · rw [h]
      cases f with
      | left p l =>
        simp only [Edge.fill, isTight, Bool.and_eq_true] at he ⊢
        exact ⟨he.1, ih he.2⟩
      | under s =>
        simp only [Edge.fill, isTight, Bool.and_eq_true] at he ⊢
        exact ⟨he.1, ih he.2⟩
      | bounded | body | branch | other => cases he

theorem isTight_rebase {g : Phrase → Phrase} (hg : ∀ u, u.isTight = true → (g u).isTight = true)
    (he : e.isTight = true) : (e.rebase g).isTight = true := by
  induction e using leftInduction with
  | first e hlink =>
    rw [rebase_first hlink]
    exact hg e he
  | link o l r ih =>
    simp only [isTight, Bool.and_eq_true, List.contains_iff_mem] at he
    obtain ⟨⟨ho, hl⟩, hr⟩ := he
    exact isTight_attach ho (ih hl) hr

theorem tight_checked : ∀ t ∈ attributeEnds,
    (∀ o ∈ Dialect.linear.operators, (Site.right .full o.1 o.2).closes t = true) ∧
    ∀ s ∈ Dialect.linear.signs, (Site.under .full s.1 s.2).closes t = true := by
  decide +kernel

/-- Arithmetic ends before an attribute. -/
theorem ends_of_isTight (he : e.isTight = true) (hd : k.dialect = .full) (hk : k.takesDummies = false)
    (ht : t ∈ attributeEnds) : e.ends k t = true := by
  obtain ⟨hoperators, hsigns⟩ := tight_checked t ht
  induction e using rightInduction generalizing k with
  | closed e hc => exact ends_closed hc (by cases e <;> first | rfl | cases he) hk
  | fill f e ih =>
    rw [Edge.ends_fill, Bool.and_eq_true, hd]
    cases f with
    | left p l =>
      simp only [Edge.fill, isTight, Bool.and_eq_true, List.contains_iff_mem] at he
      exact ⟨ih he.2 rfl rfl, hoperators _ he.1.1⟩
    | under s =>
      simp only [Edge.fill, isTight, Bool.and_eq_true, List.contains_iff_mem] at he
      exact ⟨ih he.2 rfl rfl, hsigns _ he.1⟩
    | bounded | body | branch | other => cases he

/-- Arithmetic is one expression. -/
theorem Arithmetic.exists_chain {ws : List Word} (h : Arithmetic ws) :
    ∃ e : Phrase, e.words = ws ∧ e.IsChain dialects ∧ e.isTight = true := by
  have hfull : Dialect.full ∈ dialects := mem_dialects _
  induction h with
  | name text => exact ⟨.name text none, rfl, fun _ _ _ => rfl, rfl⟩
  | number text => exact ⟨.number text, rfl, fun _ _ _ => rfl, rfl⟩
  | group h ih =>
    obtain ⟨e, rfl, he, -⟩ := ih
    exact ⟨.group e none, rfl, he.group hfull none _, rfl⟩
  | signed s hs h ih =>
    obtain ⟨e, rfl, he, htight⟩ := ih
    have hwords : ∀ u, (Phrase.signed s u).words = [.token s.token] ++ u.words := fun _ => rfl
    refine ⟨e.rebase (.signed s), words_rebase hwords e, he.signed hfull (arithmetic_checked.2 _ hs),
      isTight_rebase (fun u hu => ?_) htight⟩
    simp [isTight, hs, hu]
  | binary o ho h h' ih ih' =>
    obtain ⟨l, rfl, hl, hltight⟩ := ih
    obtain ⟨r, rfl, hr, hrtight⟩ := ih'
    exact ⟨r.rebase (l.attach o), words_binary l r o, hl.binary hr hfull (arithmetic_checked.1 _ ho),
      isTight_rebase (fun u hu => isTight_attach ho hltight hu) hrtight⟩

theorem attributed_checked : ∀ o ∈ Dialect.linear.operators, ∀ t ∈ o.2.head?,
    (Site.attributed Token.comma).closes t = false := by
  decide +kernel

/-- Arithmetic is read whole as the operand of an attribute. -/
theorem fits_of_isTight {opener : Symbol} (h : e.IsChain dialects) (htight : e.isTight = true)
    (ht : t ∈ attributeEnds) :
    e.fits (.attributed opener) t = true := by
  have hstands : e.stands (.attributed opener) = true := h.stands (mem_dialects _) rfl fun o ho =>
    attributed_checked _ (ho .linear (mem_dialects _)) _ o.head
  rw [fits, hstands, ends_of_isTight htight rfl rfl ht]
  rfl

end Phrase

/-- An attribute as it is written. -/
structure Clause where
  comma : Bool
  opener : Symbol
  operand : List Word

namespace Clause

def words (a : Clause) : List Word :=
  (if a.comma then [.token Token.comma] else []) ++ .token a.opener :: a.operand

/-- What an attribute shows, with an expression for its operand. -/
def parts (a : Clause) (e : Phrase) : List Sketch :=
  (if a.comma then [Token.leaf Token.comma] else []) ++
    [.node Grammar.declarationAttribute [Attribute.head a.opener, .node Grammar.expr (e.parts .full)]]

end Clause

/-- The attributes of some clauses, with the trees of their operands. -/
theorem exists_attributes {clauses : List Clause} (hopeners : ∀ a ∈ clauses, a.opener ∈ attributeTokens)
    (hoperands : ∀ a ∈ clauses, Phrase.Arithmetic a.operand) :
    ∃ (as : List Attribute) (es : List Phrase), as.length = clauses.length ∧ Attribute.fits as = true ∧
      as.flatMap Attribute.words = clauses.flatMap Clause.words ∧
      as.flatMap Attribute.parts = (List.zipWith Clause.parts clauses es).flatten ∧
      List.Forall₂ (fun a e => e.words = a.operand ∧ Dialect.full.Shows a.operand e) clauses es := by
  induction clauses with
  | nil => exact ⟨[], [], rfl, rfl, rfl, rfl, .nil⟩
  | cons a clauses ih =>
    obtain ⟨as, es, hlen, hfits, hwords, hparts, hshows⟩ :=
      ih (fun a h => hopeners a (List.mem_cons_of_mem _ h)) (fun a h =>
        hoperands a (List.mem_cons_of_mem _ h))
    obtain ⟨e, he, hchain, htight⟩ := (hoperands a List.mem_cons_self).exists_chain
    have hknown := hopeners a List.mem_cons_self
    refine ⟨⟨a.comma, a.opener, hknown, e⟩ :: as, e :: es, ?_, ?_, ?_, ?_, ?_⟩
    · rw [List.length_cons, hlen, List.length_cons]
    · rw [Attribute.fits, Bool.and_eq_true]
      exact ⟨Phrase.fits_of_isTight hchain htight (Attribute.ahead_all_mem as), hfits⟩
    · rw [List.flatMap_cons, List.flatMap_cons, hwords, Attribute.words, Clause.words, he]
    · rw [List.flatMap_cons, List.zipWith_cons_cons, List.flatten_cons, hparts]
      rfl
    · exact .cons ⟨he, he ▸ hchain.shows (mem_dialects _)⟩ hshows

/-- Attributes with arithmetic for their operands do not run into each other: each holds what it begins
with and the tree that its operand has when it is displayed. -/
theorem parse_bounds (c : Declaration) (z : List Char) (clauses : List Clause) (source : List Char)
    (hne : clauses ≠ []) (hopeners : ∀ a ∈ clauses, a.opener ∈ attributeTokens)
    (hoperands : ∀ a ∈ clauses, Phrase.Arithmetic a.operand)
    (hw : Writes (.token c.keyword :: ⟨Symbol.symbolicName, z⟩ :: (clauses.flatMap Clause.words ++
      [.token Token.semicolon])) source) :
    ∃ es : List Phrase,
      List.Forall₂ (fun a e => e.words = a.operand ∧ Dialect.full.Shows a.operand e) clauses es ∧
      ∃ tree, MathProg.parse source = some tree ∧ tree.hasError = false ∧
        (Node.ofTree tree).sketch source = .node Symbol.model [.node c.symbol (Token.leaf c.keyword ::
          .leaf modelObject z :: ((List.zipWith Clause.parts clauses es).flatten ++
            [Token.leaf Token.semicolon]))] := by
  obtain ⟨as, es, hlen, hfits, hwords, hparts, hshows⟩ := exists_attributes hopeners hoperands
  have hsome : as ≠ [] := by
    intro h
    rw [h] at hlen
    exact hne (List.eq_nil_of_length_eq_zero hlen.symm)
  rw [← hwords] at hw
  refine ⟨es, hshows, ?_⟩
  rw [← hparts]
  exact parse_declaration c hsome hfits hw

/-- Two bounds of a variable, with no comma between them. -/
theorem parse_two_bounds :
    ∃ es : List Phrase, es.length = 2 ∧
      ∃ tree, MathProg.parse "var x >= - a * 2 <= (b ^ 2);".toList = some tree ∧ tree.hasError = false := by
  have hproduct : Phrase.Arithmetic _ := .binary Expression.times (by decide +kernel)
    (.signed Expression.minus (by decide +kernel) (.name ['a'])) (.number ['2'])
  have hpower : Phrase.Arithmetic _ :=
    .group (.binary Expression.power (by decide +kernel) (.name ['b']) (.number ['2']))
  obtain ⟨es, hes, tree, htree, herror, -⟩ := parse_bounds .var ['x'] [⟨false, 24, _⟩, ⟨false, 21, _⟩]
    "var x >= - a * 2 <= (b ^ 2);".toList (List.cons_ne_nil _ _)
    (List.forall_mem_cons.mpr ⟨(by decide : 24 ∈ attributeTokens), List.forall_mem_cons.mpr
      ⟨(by decide : 21 ∈ attributeTokens), List.forall_mem_nil _⟩⟩)
    (List.forall_mem_cons.mpr ⟨hproduct, List.forall_mem_cons.mpr ⟨hpower, List.forall_mem_nil _⟩⟩)
    (by decide +kernel)
  exact ⟨es, hes.length_eq.symm, tree, htree, herror⟩

end MathProg
