import MathProg.Proofs.Phrase.Chain
import MathProg.Proofs.Phrase.Parsing

/-!
# Statements with expressions

A text that is written in the words of one statement is parsed without errors, and its tree shows the
statement with its expressions.
-/

namespace MathProg

open Automaton Straight Phrase
open Expression (Level Operator Sign follow Alone)

variable {source : List Char} {k : Site} {t x : Symbol} {ws : List Word} {items : List Item} {e : Phrase}
  {ps : List Sketch}

/-- The statements of a model that are handled here. -/
def statementSymbols : List Symbol :=
  [Grammar.set, Grammar.param, Grammar.var, Grammar.objective, Grammar.display, Grammar.printf]

theorem statements_checked :
    (∀ x ∈ statementSymbols, Symbol.isVisible x = true ∧
      action? (follow start [x]) Symbol.endOfText = some (.reduce (plainRule Grammar.modelStatement 1)) ∧
      successor? start x = some (follow start [x])) ∧
    (mode start).ReadsModel := by
  decide +kernel

theorem hidden_checked : ∀ r ∈ [Expression.statementRule, Expression.statementsRule],
    Symbol.isVisible r.symbol = false := by
  decide +kernel

/-- A text of one statement. -/
theorem parse_of_reads (hx : x ∈ statementSymbols) (hw : Writes ws source)
    (h : Reads start ws Symbol.endOfText [⟨follow start [x], .node x ps⟩]) :
    ∃ tree, MathProg.parse source = some tree ∧ tree.hasError = false ∧
      (Node.ofTree tree).sketch source = .node Symbol.model [.node x ps] := by
  obtain ⟨hstatements, hmode⟩ := statements_checked
  obtain ⟨hvisible, hend, -⟩ := hstatements x hx
  obtain ⟨-, -, -, hstatement, hrepeated, -⟩ := Expression.end_checked
  -- what is hidden around the statement
  have hinner := reads_whole h hend rfl (Expression.alone_checked Expression.statementRule (by simp))
    ((flat_one _).trans (View.under_visible hvisible ps)) (List.cons_ne_nil _ _)
  have houter := reads_whole hinner hstatement rfl (Expression.alone_checked Expression.statementsRule
    (by simp))
    ((flat_one _).trans (View.under_hidden (hidden_checked Expression.statementRule (by simp)) _))
    (List.cons_ne_nil _ _)
  -- the parser
  have hbegin : (⟨[], 0, none⟩ : Straight.Config).Awaits source (ws ++ []) := by
    rw [List.append_nil]
    exact Or.inl ⟨rfl, hmode, hw⟩
  obtain ⟨c, fs, hreach, hframes, hshown, hawaits⟩ := houter.reaches rfl hbegin rfl
  have hstate : stateOf c.frames = Expression.aloneState Expression.statementsRule.symbol := by
    rw [hframes, hshown.stateOf]
    rfl
  have hfaces := hawaits.faces (by rw [hstate]; exact hrepeated)
  have halone : Alone source Expression.statementsRule.symbol (.node x ps) c := by
    obtain ⟨hstates, hrow⟩ := hshown
    refine ⟨?_, hfaces⟩
    obtain ⟨f, rfl, hf⟩ := List.map_eq_singleton_iff.mp hstates
    cases hrow with
    | cons ht _ =>
      refine ⟨f.tree, ?_, ht.counted, ht.free, (ht.look none).trans ?_⟩
      · rw [hframes, List.append_nil]
        exact congrArg (fun s => [(⟨s, f.tree⟩ : Frame)]) hf
      · exact View.under_hidden (hidden_checked Expression.statementsRule (by simp)) _
  obtain ⟨tree, fuel, hrun, hresult⟩ := halone.accept
  obtain ⟨more, hmore⟩ := run_of_reaches _ hreach hrun
  exact ⟨tree, parse_of_straight (parse_eq_of_run hmore), hresult⟩

namespace Token

def set : Symbol := 6
def param : Symbol := 7
def var : Symbol := 8
def minimize : Symbol := 34
def display : Symbol := 36
def printf : Symbol := 37

example : [set, param, var, minimize, display, printf].map Symbol.name =
    ["set", "param", "var", "minimize", "display", "printf"] := by decide +kernel

end Token

/-- What a name shows as where it is declared. -/
def modelObject : Symbol := 193

namespace Dialect

/-- A statement with one expression: it is displayed, printed, or the objective under a name. -/
def statement : Dialect → Symbol
  | full => Grammar.display
  | output => Grammar.printf
  | linear => Grammar.objective

/-- The words in front of the expression. -/
def opening (d : Dialect) (z : List Char) : List Word :=
  match d with
  | full => [.token Token.display]
  | output => [.token Token.printf]
  | linear => [.token Token.minimize, ⟨Symbol.symbolicName, z⟩, .token Token.colon]

def openingParts (d : Dialect) (z : List Char) : List Sketch :=
  match d with
  | full => [Token.leaf Token.display]
  | output => [Token.leaf Token.printf]
  | linear => [Token.leaf Token.minimize, .leaf modelObject z, Token.leaf Token.colon]

/-- The names under which the parts of the statement show. -/
def statementNames : Dialect → List (Option Symbol)
  | full => [none, none, none]
  | output => [none, some Grammar.expr, none]
  | linear => [none, none, none, none, none]

end Dialect

/-- The hidden node around a name that is declared. -/
def declaredRule : Rule := ⟨Grammar.declaredName, 1, [(0, modelObject)]⟩

theorem openings_checked :
    (Takes start Token.display Dialect.full.first ∧ Takes start Token.printf Dialect.output.first) ∧
    (Takes start Token.minimize (follow start [Token.minimize]) ∧
      Takes (follow start [Token.minimize]) Symbol.symbolicName
        (follow start [Token.minimize, Symbol.symbolicName]) ∧
      action? (follow start [Token.minimize, Symbol.symbolicName]) Token.colon =
        some (.reduce declaredRule) ∧
      successor? (follow start [Token.minimize]) Grammar.declaredName =
        some (follow start [Token.minimize, Grammar.declaredName]) ∧
      Takes (follow start [Token.minimize, Grammar.declaredName]) Token.colon Dialect.linear.first) ∧
    Symbol.isVisible Grammar.declaredName = false ∧
    ∀ d ∈ dialects, d.statement ∈ statementSymbols ∧ Token.semicolon ∈ d.followers ∧
      Takes (Site.statement d).full Token.semicolon (follow (Site.statement d).full [Token.semicolon]) ∧
      action? (follow (Site.statement d).full [Token.semicolon]) Symbol.endOfText =
        some (.reduce ⟨d.statement, d.statementNames.length, Tree.namedFrom 0 d.statementNames⟩) := by
  decide +kernel

/-- A name that is declared. -/
theorem reads_declared {s u v : State} (z : List Char) (hs : Takes s Symbol.symbolicName u)
    (ha : action? u t = some (.reduce declaredRule)) (hv : successor? s Grammar.declaredName = some v) :
    Reads s [⟨Symbol.symbolicName, z⟩] t [⟨v, .node Grammar.declaredName [.leaf modelObject z]⟩] :=
  (Takes.reads (w := ⟨Symbol.symbolicName, z⟩) hs t).all ha rfl hv (List.cons_ne_nil _ _)

/-- The words in front of the expression. -/
theorem reads_opening (d : Dialect) (z : List Char) (t : Symbol) :
    ∃ items, Reads start (d.opening z) t items ∧ topOf start items = d.first ∧
      items.length + 2 = d.statementNames.length ∧
      ∀ i j : View, View.named d.statementNames (views items ++ [i, j]) =
        d.openingParts z ++ i.under d.branch? ++ j.under none := by
  obtain ⟨⟨hdisplay, hprintf⟩, ⟨hminimize, hname, hdeclared, hgo, hcolon⟩, hhidden, -⟩ := openings_checked
  cases d with
  | full =>
    refine ⟨_, Takes.reads (w := .token Token.display) hdisplay t, rfl, rfl, ?_⟩
    intro i j
    simp [views, Dialect.statementNames, Dialect.openingParts, Dialect.branch?]
  | output =>
    refine ⟨_, Takes.reads (w := .token Token.printf) hprintf t, rfl, rfl, ?_⟩
    intro i j
    simp [views, Dialect.statementNames, Dialect.openingParts, Dialect.branch?]
  | linear =>
    have hread := (Takes.reads (w := .token Token.minimize) hminimize _).append
      ((reads_declared z hname hdeclared hgo).append (Takes.reads
        (w := .token Token.colon) hcolon t) rfl) rfl
    refine ⟨_, hread, rfl, rfl, ?_⟩
    intro i j
    simp [views, Dialect.statementNames, Dialect.openingParts, Dialect.branch?, View.under_hidden hhidden]

/-- A statement with one expression is parsed without errors, and shows the expression. -/
theorem parse_statement (d : Dialect) (z : List Char) (he : e.fits (.statement d) Token.semicolon = true)
    (hw : Writes (d.opening z ++ (e.words ++ [.token Token.semicolon])) source) :
    ∃ tree, MathProg.parse source = some tree ∧ tree.hasError = false ∧
      (Node.ofTree tree).sketch source = .node Symbol.model
        [.node d.statement (d.openingParts z ++ [.node d.branch (e.parts d),
          Token.leaf Token.semicolon])] := by
  obtain ⟨-, -, -, hdialects⟩ := openings_checked
  obtain ⟨hmem, hfollower, hsemicolon, hend⟩ := hdialects d (mem_dialects d)
  obtain ⟨items, hopening, htop, hlen, hnamed⟩ := reads_opening d z (ahead Token.semicolon e.words)
  have hexpr := reads_phrase (k := .statement d) (Site.statement_mem d) hfollower he
  have hplain : e.isEntry = false := isEntry_of_stands (Bool.and_eq_true_iff.mp he).1 rfl
  rw [item_of_plain hplain (by simp [isBare, Site.takesTuples]),
    show (Site.statement d).state = topOf start items from htop.symm] at hexpr
  have hall := hopening.append
    (hexpr.append (Takes.reads (w := .token Token.semicolon) hsemicolon Symbol.endOfText) rfl)
    (ahead_append _ _ _)
  have hparts : View.named d.statementNames (views
      (⟨follow (Site.statement d).full [Token.semicolon], .token (.token Token.semicolon)⟩ ::
        ⟨(Site.statement d).full, .node d.symbol (e.parts d)⟩ :: items)) =
      d.openingParts z ++ [.node d.branch (e.parts d), Token.leaf Token.semicolon] := by
    rw [views_cons, views_cons, List.append_assoc]
    refine (hnamed _ _).trans ?_
    rw [under_branch, View.under_word, List.append_assoc]
    rfl
  have hmade := reads_named hall hend (by simpa using hlen.symm) (by simpa using hlen.symm)
    ((statements_checked.1 _ hmem).2.2) hparts (by simp)
  exact parse_of_reads hmem hw hmade

/-- Whether every statement with some words for its expression is parsed without errors, and shows an
expression. -/
def Dialect.Shows (d : Dialect) (ws : List Word) (e : Phrase) : Prop :=
  ∀ (z source : List Char), Writes (d.opening z ++ (ws ++ [.token Token.semicolon])) source →
    ∃ tree, MathProg.parse source = some tree ∧ tree.hasError = false ∧
      (Node.ofTree tree).sketch source = .node Symbol.model
        [.node d.statement (d.openingParts z ++ [.node d.branch (e.parts d), Token.leaf Token.semicolon])]

theorem shows_of_fits (d : Dialect) (he : e.fits (.statement d) Token.semicolon = true) :
    d.Shows e.words e :=
  fun z _ => parse_statement d z he

/-- A chain is shown whole. -/
theorem Phrase.IsChain.shows {d : Dialect} {ds : List Dialect} (h : e.IsChain ds) (hd : d ∈ ds) :
    d.Shows e.words e :=
  shows_of_fits d (h.fits (k := .statement d) hd rfl (by simp [stops]))

end MathProg
