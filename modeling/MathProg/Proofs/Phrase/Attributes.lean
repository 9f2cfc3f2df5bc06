import MathProg.Proofs.Phrase.Statements

/-!
# Declarations with attributes

A set, a parameter or a variable is declared with attributes behind its name. An attribute with an operand
begins with a token that may be an operator as well; its operand ends before the next attribute.
-/

namespace MathProg

open Automaton Straight Phrase
open Expression (Level Operator Sign follow)

/-- The kinds of statements that declare a name and its attributes. -/
inductive Declaration where
  | set
  | param
  | var
  deriving DecidableEq, Repr

/-- An attribute with an operand, behind a comma or not. -/
structure Attribute where
  comma : Bool
  opener : Symbol
  known : opener ∈ attributeTokens
  operand : Phrase

/-- What may follow an attribute. -/
def attributeEnds : List Symbol := Token.semicolon :: Token.comma :: attributeTokens

namespace Attribute

def words (a : Attribute) : List Word :=
  (if a.comma then [.token Token.comma] else []) ++ .token a.opener :: a.operand.words

/-- What an attribute begins with: a relation shows as an operator. -/
def head (opener : Symbol) : Sketch :=
  if opener ∈ relationTokens then Token.operator opener else Token.leaf opener

/-- The node of an attribute. -/
def sketch (a : Attribute) : Sketch :=
  .node Grammar.declarationAttribute [head a.opener, .node Grammar.expr (a.operand.parts .full)]

def parts (a : Attribute) : List Sketch :=
  (if a.comma then [Token.leaf Token.comma] else []) ++ [a.sketch]

/-- Whether the operands of attributes are read as they stand, up to what follows them. -/
def fits : List Attribute → Bool
  | [] => true
  | a :: more =>
    a.operand.fits (.attributed a.opener) (ahead Token.semicolon (more.flatMap words)) && fits more

theorem ahead_mem (a : Attribute) (ws : List Word) :
    ahead Token.semicolon (a.words ++ ws) ∈ attributeEnds := by
  rw [words]
  split
  · exact List.mem_cons_of_mem _ List.mem_cons_self
  · exact List.mem_cons_of_mem _ (List.mem_cons_of_mem _ a.known)

theorem ahead_all_mem (as : List Attribute) : ahead Token.semicolon (as.flatMap words) ∈ attributeEnds := by
  cases as with
  | nil => exact List.mem_cons_self
  | cons a more =>
    rw [List.flatMap_cons]
    exact ahead_mem a _

end Attribute

namespace Declaration

def keyword : Declaration → Symbol
  | set => Token.set
  | param => Token.param
  | var => Token.var

def symbol : Declaration → Symbol
  | set => Grammar.set
  | param => Grammar.param
  | var => Grammar.var

/-- The hidden node around the attributes. -/
def repetition : Declaration → Symbol
  | set => 170
  | param => 171
  | var => 172

/-- Behind the name. -/
def named (c : Declaration) : State := follow start [c.keyword, Grammar.declaredName]

/-- Behind an attribute. -/
def attributed (c : Declaration) : State := follow c.named [c.repetition]

end Declaration

def declarations : List Declaration := [.set, .param, .var]

theorem mem_declarations (c : Declaration) : c ∈ declarations := by cases c <;> decide

/-- Behind a comma before an attribute. -/
def afterComma : State := follow Declaration.var.named [Token.comma]

theorem names_declared_checked : ∀ c ∈ declarations,
    Takes start c.keyword (follow start [c.keyword]) ∧
    Takes (follow start [c.keyword]) Symbol.symbolicName (follow start [c.keyword, Symbol.symbolicName]) ∧
    (∀ t ∈ attributeEnds, action? (follow start [c.keyword, Symbol.symbolicName]) t =
      some (.reduce declaredRule)) ∧
    successor? (follow start [c.keyword]) Grammar.declaredName = some c.named := by
  decide +kernel

/-- At the beginning of an attribute. -/
theorem openers_attribute_checked : ∀ c ∈ declarations, ∀ s ∈ [c.named, c.attributed],
    (∀ t ∈ attributeTokens, Takes s t (Site.attributed t).state) ∧
    Takes s Token.comma afterComma ∧
    successor? s Grammar.declarationAttribute = some (follow c.named [Grammar.declarationAttribute]) ∧
    successor? s Grammar.attributeItem = some (follow c.named [Grammar.attributeItem]) := by
  decide +kernel

theorem comma_checked : (∀ t ∈ attributeTokens, Takes afterComma t (Site.attributed t).state) ∧
    successor? afterComma Grammar.declarationAttribute =
      some (follow afterComma [Grammar.declarationAttribute]) := by
  decide +kernel

/-- Behind an attribute. -/
theorem attribute_ends_checked : ∀ t ∈ attributeEnds,
    (Site.attributed Token.comma).closes t = true ∧ t ∈ (Site.attributed Token.comma).followers ∧
    action? (follow afterComma [Grammar.declarationAttribute]) t =
      some (.reduce (plainRule Grammar.attributeItem 2)) ∧
    ∀ c ∈ declarations,
      action? (follow c.named [Grammar.declarationAttribute]) t =
        some (.reduce (plainRule Grammar.attributeItem 1)) ∧
      action? (follow c.named [Grammar.attributeItem]) t = some (.reduce (plainRule c.repetition 1)) ∧
      action? (follow c.attributed [c.repetition]) t = some (.reduce (plainRule c.repetition 2)) := by
  decide +kernel

theorem declarations_checked : ∀ c ∈ declarations,
    successor? c.named c.repetition = some c.attributed ∧
    successor? c.attributed c.repetition = some (follow c.attributed [c.repetition]) ∧
    Takes c.attributed Token.semicolon (follow c.attributed [Token.semicolon]) ∧
    action? (follow c.attributed [Token.semicolon]) Symbol.endOfText =
      some (.reduce (plainRule c.symbol 4)) ∧
    Symbol.isVisible c.repetition = false ∧ c.symbol ∈ statementSymbols := by
  decide +kernel

theorem attributes_visible : Symbol.isVisible Grammar.declarationAttribute = true ∧
    Symbol.isVisible Grammar.attributeItem = false := by
  decide +kernel

theorem declaredName_hidden : Symbol.isVisible Grammar.declaredName = false := by decide +kernel

variable {c : Declaration} {s u v : State} {t x : Symbol} {ws : List Word} {ps : List Sketch}
  {z source : List Char}

theorem names_attributed {opener : Symbol} (u v : State) (ps : List Sketch) :
    View.named ((Site.attributed opener).names ++ [none])
      (views [⟨u, .node Grammar.expr ps⟩, ⟨v, .token (.token opener)⟩]) =
      [Attribute.head opener, .node Grammar.expr ps] := by
  by_cases h : opener ∈ relationTokens <;> simp [h, views, Site.names, Attribute.head]

/-- The node of an attribute, from a state in which it may begin. -/
theorem reads_node (a : Attribute) (hopen : Takes s a.opener (Site.attributed a.opener).state)
    (hgo : successor? s Grammar.declarationAttribute = some u) (ht : t ∈ attributeEnds)
    (hf : a.operand.fits (.attributed a.opener) t = true) :
    Reads s (.token a.opener :: a.operand.words) t
      [⟨u, .node Grammar.declarationAttribute [Attribute.head a.opener,
        .node Grammar.expr (a.operand.parts .full)]⟩] := by
  obtain ⟨hcloses, hfollower, -⟩ := attribute_ends_checked t ht
  have hmem := Site.attributed_mem a.known
  have hoperand := reads_phrase hmem hfollower hf
  have hplain : a.operand.isEntry = false := isEntry_of_stands (Bool.and_eq_true_iff.mp hf).1 rfl
  rw [item_of_plain hplain (by simp [Phrase.isBare, Site.takesTuples])] at hoperand
  have hall := (Takes.reads (w := .token a.opener) hopen _).append hoperand rfl
  exact reads_named hall (Site.reduces hmem hfollower hcloses) rfl rfl hgo (names_attributed _ _ _)
    (List.cons_ne_nil _ _)

/-- An attribute with its comma, behind a name or an attribute. -/
theorem reads_attribute (a : Attribute) (hs : s ∈ [c.named, c.attributed]) (ht : t ∈ attributeEnds)
    (hf : a.operand.fits (.attributed a.opener) t = true) :
    Reads s a.words t [⟨follow c.named [Grammar.attributeItem], .node Grammar.attributeItem a.parts⟩] := by
  obtain ⟨hopeners, hcomma, hgo, hitem⟩ := openers_attribute_checked c (mem_declarations c) s hs
  obtain ⟨-, -, hpair, hends⟩ := attribute_ends_checked t ht
  obtain ⟨hsingle, -⟩ := hends c (mem_declarations c)
  have hvisible := View.under_visible attributes_visible.1
  cases hc : a.comma with
  | false =>
    have hnode := reads_node a (hopeners _ a.known) hgo ht hf
    rw [Attribute.words, Attribute.parts, hc]
    exact reads_whole hnode hsingle rfl hitem ((flat_one _).trans (hvisible _)) (List.cons_ne_nil _ _)
  | true =>
    have hnode := reads_node a (comma_checked.1 _ a.known) comma_checked.2 ht hf
    have hall := (Takes.reads (w := .token Token.comma) hcomma _).append hnode rfl
    rw [Attribute.words, Attribute.parts, hc]
    refine reads_whole hall hpair rfl hitem ?_ (List.cons_ne_nil _ _)
    rw [List.singleton_append, flat_cons, flat_one, View.under_word, hvisible]
    rfl

theorem attribute_parts_ne_nil (a : Attribute) : a.parts ≠ [] := by simp [Attribute.parts]

/-- The hidden node around one attribute. -/
theorem reads_single (a : Attribute) (hs : s ∈ [c.named, c.attributed])
    (hgo : successor? s c.repetition = some u)
    (ht : t ∈ attributeEnds) (hf : a.operand.fits (.attributed a.opener) t = true) :
    Reads s a.words t [⟨u, .node c.repetition a.parts⟩] := by
  obtain ⟨-, -, -, hends⟩ := attribute_ends_checked t ht
  obtain ⟨-, hitem, -⟩ := hends c (mem_declarations c)
  exact reads_whole (reads_attribute a hs ht hf) hitem rfl hgo
    ((flat_one _).trans (View.under_hidden attributes_visible.2 _)) (attribute_parts_ne_nil a)

/-- The attributes behind some others go to them, one after the other. -/
theorem reads_more (as : List Attribute) (hps : ps ≠ [])
    (h : Reads c.named ws (ahead Token.semicolon (as.flatMap Attribute.words))
      [⟨c.attributed, .node c.repetition ps⟩])
    (hf : Attribute.fits as = true) :
    Reads c.named (ws ++ as.flatMap Attribute.words) Token.semicolon
      [⟨c.attributed, .node c.repetition (ps ++ as.flatMap Attribute.parts)⟩] := by
  induction as generalizing ws ps with
  | nil => simpa [ahead] using h
  | cons a more ih =>
    rw [Attribute.fits, Bool.and_eq_true] at hf
    obtain ⟨hgo, hagain, -, -, hhidden, -⟩ := declarations_checked c (mem_declarations c)
    have ht := Attribute.ahead_all_mem more
    obtain ⟨-, -, -, hends⟩ := attribute_ends_checked _ ht
    obtain ⟨-, -, hjoin⟩ := hends c (mem_declarations c)
    have hnext := reads_single a (c := c) (by simp) hagain ht hf.1
    have hpair := h.append hnext (by rw [List.flatMap_cons, ahead_append])
    have hjoined : Reads c.named (ws ++ a.words) (ahead Token.semicolon (more.flatMap Attribute.words))
        [⟨c.attributed, .node c.repetition (ps ++ a.parts)⟩] := by
      refine reads_whole hpair hjoin rfl hgo ?_ (by simp [hps])
      rw [List.singleton_append, flat_cons, flat_one, View.under_hidden hhidden, View.under_hidden hhidden]
    have hrest := ih (by simp [hps]) hjoined hf.2
    rwa [List.append_assoc, List.append_assoc, ← List.flatMap_cons, ← List.flatMap_cons] at hrest

/-- A declaration with attributes is parsed without errors, and shows them in their order. -/
theorem parse_declaration (c : Declaration) {as : List Attribute} (hne : as ≠ [])
    (hf : Attribute.fits as = true)
    (hw : Writes (.token c.keyword :: ⟨Symbol.symbolicName, z⟩ :: (as.flatMap Attribute.words ++
      [.token Token.semicolon])) source) :
    ∃ tree, MathProg.parse source = some tree ∧ tree.hasError = false ∧
      (Node.ofTree tree).sketch source = .node Symbol.model [.node c.symbol (Token.leaf c.keyword ::
        .leaf modelObject z :: (as.flatMap Attribute.parts ++ [Token.leaf Token.semicolon]))] := by
  obtain ⟨hkeyword, hname, hdeclared, hnamed⟩ := names_declared_checked c (mem_declarations c)
  obtain ⟨hgo, -, hsemicolon, hend, hhidden, hmem⟩ := declarations_checked c (mem_declarations c)
  obtain ⟨hstatements, -⟩ := statements_checked
  obtain ⟨-, -, hstatement⟩ := hstatements _ hmem
  cases as with
  | nil => exact absurd rfl hne
  | cons a more =>
    have hfs := Bool.and_eq_true_iff.mp (show (_ && Attribute.fits more) = true from hf)
    have hfirst := reads_single a (c := c) (s := c.named) (by simp) hgo (Attribute.ahead_all_mem more) hfs.1
    have hattributes := reads_more more (attribute_parts_ne_nil a) hfirst hfs.2
    have hdeclaration := (reads_declared z hname (hdeclared _ (Attribute.ahead_mem a _)) hnamed).append
      (hattributes.append (Takes.reads (w := .token Token.semicolon) hsemicolon Symbol.endOfText) rfl)
        (ahead_append _ _ _)
    have hall := (Takes.reads (w := .token c.keyword) hkeyword _).append hdeclaration rfl
    refine parse_of_reads hmem hw (reads_whole hall hend rfl hstatement ?_ (List.cons_ne_nil _ _))
    simp [views, View.flat, View.under_hidden hhidden, View.under_hidden declaredName_hidden]

end MathProg
