import MathProg.Proofs.Lexing.Lexeme
import MathProg.Symbol.Table

/-!
# How operators group

An expression is written as a chain: operands, with signs before them, and between two of them an
operator or the `by` of a range. A chain is read from the left. What stands before an operator is a
nest of expressions that all end there; from the innermost to the outermost, those that bind tighter
than the operator are closed, and the first one that does not takes the operator in. A `by` belongs to
the innermost range that ends there and has no step.
-/

namespace MathProg.Expression

/-- How tightly an operator binds, and whether it groups to the right. -/
structure Level where
  precedence : Nat
  toRight : Bool
  deriving DecidableEq, Repr, Inhabited

/-- The operators between two operands by their levels, each with the words it is written as. -/
def operatorLevels : List (Level × List (List String)) := [
  (⟨15, false⟩, [["+"], ["-"], ["less"]]),
  (⟨17, false⟩, [["*"], ["/"], ["div"], ["mod"]]),
  (⟨19, true⟩, [["**"], ["^"]]),
  (⟨13, false⟩, [["&"]]),
  (⟨9, false⟩, [["union"], ["diff"], ["symdiff"]]),
  (⟨10, false⟩, [["inter"]]),
  (⟨11, false⟩, [["cross"]]),
  (⟨3, false⟩, [["or"], ["||"]]),
  (⟨5, false⟩, [["and"], ["&&"]]),
  (⟨7, false⟩, [["in"], ["within"], ["not", "in"], ["not", "within"], ["!", "in"], ["!", "within"]]),
  (⟨6, false⟩, [["<"], ["<="], ["="], ["=="], [">="], [">"], ["<>"], ["!="]]),
  (⟨12, true⟩, [[".."]])]

def operators : List (Level × List String) :=
  operatorLevels.flatMap fun (level, words) => words.map (level, ·)

/-- The operators before an operand. -/
def signs : List (Level × String) :=
  [(⟨18, false⟩, "+"), (⟨18, false⟩, "-"), (⟨8, false⟩, "not"), (⟨8, false⟩, "!")]

structure Operator where
  level : Level
  words : List String
  known : (level, words) ∈ operators

structure Sign where
  level : Level
  word : String
  known : (level, word) ∈ signs

namespace Operator

def range : Operator := ⟨⟨12, true⟩, [".."], by decide⟩

def isRange (o : Operator) : Bool := o.words == [".."]

end Operator

/-- Whether an expression of level `p` is closed by an operator that follows it. -/
def Level.closedBy (p o : Level) : Bool :=
  o.precedence < p.precedence || (p.precedence == o.precedence && !o.toRight)

/-- Names that are no keywords, and numbers without a sign. -/
inductive Atom where
  | name (text : List Char) (h : Lexeme.Name text)
      (free : ∀ e ∈ Symbol.table.toList, e.form = .literal → e.name.toList ≠ text)
  | number (text : List Char) (h : Lexeme.Unsigned text)

inductive Expr where
  | atom (a : Atom)
  | signed (s : Sign) (x : Expr)
  | binary (o : Operator) (l r : Expr)
  /-- A range with its step. -/
  | stepped (l r s : Expr)

namespace Expr

/-- Puts `o x` behind the last part of an expression, unless what it belongs to is closed before. -/
def takeLast (level : Level) (inner : Option Expr) (last : Expr) (o : Operator) (x : Expr) :
    Option Expr :=
  inner.or (if level.closedBy o.level then none else some (binary o last x))

/-- Puts `o x` behind an expression, inside it, unless all of it is closed before the operator. -/
def take (t : Expr) (o : Operator) (x : Expr) : Option Expr :=
  match t with
  | atom _ => none
  | signed s y => (takeLast s.level (y.take o x) y o x).map (signed s)
  | binary p l y => (takeLast p.level (y.take o x) y o x).map (binary p l)
  | stepped l r y => (takeLast Operator.range.level (y.take o x) y o x).map (stepped l r)

/-- Puts `o x` behind an expression. -/
def attach (t : Expr) (o : Operator) (x : Expr) : Expr := (t.take o x).getD (binary o t x)

/-- Puts `by x` behind an expression, if a range ends there that has no step. -/
def takeStep (t x : Expr) : Option Expr :=
  match t with
  | atom _ => none
  | signed s y => (y.takeStep x).map (signed s)
  | binary o l y =>
    ((y.takeStep x).map (binary o l)).or (if o.isRange then some (stepped l y x) else none)
  | stepped l r y => (y.takeStep x).map (stepped l r)

end Expr

structure Operand where
  signs : List Sign
  atom : Atom

inductive Link where
  | operator (o : Operator) (x : Operand)
  | step (x : Operand)

structure Chain where
  first : Operand
  links : List Link

def Operand.tree (x : Operand) : Expr := x.signs.foldr .signed (.atom x.atom)

/-- Reads one link more. -/
def Link.extend (t : Expr) : Link → Option Expr
  | operator o x => some (t.attach o x.tree)
  | step x => t.takeStep x.tree

/-- The expression of a chain; there is none, if a `by` finds no range. -/
def Chain.tree (c : Chain) : Option Expr := c.links.foldlM Link.extend c.first.tree

def Atom.text : Atom → List Char
  | name text _ _ | number text _ => text

def Operator.texts (o : Operator) : List (List Char) := o.words.map String.toList

def Sign.text (s : Sign) : List Char := s.word.toList

/-- An expression written out. -/
def Expr.words : Expr → List (List Char)
  | atom a => [a.text]
  | signed s x => s.text :: x.words
  | binary o l r => l.words ++ o.texts ++ r.words
  | stepped l r s => l.words ++ [['.', '.']] ++ r.words ++ [['b', 'y']] ++ s.words

def Operand.words (x : Operand) : List (List Char) := x.signs.map Sign.text ++ [x.atom.text]

def Link.words : Link → List (List Char)
  | operator o x => o.texts ++ x.words
  | step x => ['b', 'y'] :: x.words

def Chain.words (c : Chain) : List (List Char) := c.first.words ++ c.links.flatMap Link.words

theorem Operand.words_tree (x : Operand) : x.tree.words = x.words := by
  obtain ⟨signs, a⟩ := x
  induction signs with
  | nil => rfl
  | cons s signs ih => exact congrArg (s.text :: ·) ih

theorem Operator.texts_of_isRange {o : Operator} (h : o.isRange = true) : o.texts = [['.', '.']] := by
  rw [texts, beq_iff_eq.mp h]
  rfl

namespace Expr

theorem words_takeLast {level : Level} {inner : Option Expr} {last x y : Expr} {o : Operator}
    (hinner : ∀ y ∈ inner, y.words = last.words ++ o.texts ++ x.words)
    (h : takeLast level inner last o x = some y) : y.words = last.words ++ o.texts ++ x.words := by
  rcases Option.or_eq_some_iff.mp h with h | ⟨-, h⟩
  · exact hinner y h
  · split at h
    · cases h
    · cases h
      rfl

theorem words_take {t t' x : Expr} {o : Operator} (h : t.take o x = some t') :
    t'.words = t.words ++ o.texts ++ x.words := by
  induction t generalizing t' with
  | atom a => cases h
  | signed s y ih =>
    obtain ⟨y', hy, rfl⟩ := Option.map_eq_some_iff.mp h
    simp only [words, words_takeLast (fun _ h => ih h) hy, List.cons_append]
  | binary p l y ihl ih =>
    obtain ⟨y', hy, rfl⟩ := Option.map_eq_some_iff.mp h
    simp only [words, words_takeLast (fun _ h => ih h) hy, List.append_assoc]
  | stepped l r y ihl ihr ih =>
    obtain ⟨y', hy, rfl⟩ := Option.map_eq_some_iff.mp h
    simp only [words, words_takeLast (fun _ h => ih h) hy, List.append_assoc]

theorem words_attach (t : Expr) (o : Operator) (x : Expr) :
    (t.attach o x).words = t.words ++ o.texts ++ x.words := by
  unfold attach
  cases h : t.take o x with
  | none => rfl
  | some t' => exact words_take h

theorem words_takeStep {t t' x : Expr} (h : t.takeStep x = some t') :
    t'.words = t.words ++ ['b', 'y'] :: x.words := by
  induction t generalizing t' with
  | atom a => cases h
  | signed s y ih =>
    obtain ⟨y', hy, rfl⟩ := Option.map_eq_some_iff.mp h
    simp only [words, ih hy, List.cons_append]
  | binary o l y ihl ih =>
    rcases Option.or_eq_some_iff.mp h with h | ⟨-, h⟩
    · obtain ⟨y', hy, rfl⟩ := Option.map_eq_some_iff.mp h
      simp only [words, ih hy, List.append_assoc]
    · split at h
      · rename_i ho
        cases h
        simp only [words, Operator.texts_of_isRange ho, List.append_assoc, List.cons_append,
          List.nil_append]
      · cases h
  | stepped l r y ihl ihr ih =>
    obtain ⟨y', hy, rfl⟩ := Option.map_eq_some_iff.mp h
    simp only [words, ih hy, List.append_assoc]

end Expr

/-- Reading a link writes its words behind what was read. -/
theorem Link.words_extend {t t' : Expr} {link : Link} (h : link.extend t = some t') :
    t'.words = t.words ++ link.words := by
  cases link with
  | operator o x =>
    cases h
    rw [Expr.words_attach, Operand.words_tree, List.append_assoc, words]
  | step x => rw [Expr.words_takeStep h, Operand.words_tree, words]

/-- The expression of a chain is written as the chain. -/
theorem Chain.words_tree {c : Chain} {t : Expr} (h : c.tree = some t) : t.words = c.words := by
  obtain ⟨first, links⟩ := c
  have hall : ∀ {u : Expr}, links.foldlM Link.extend u = some t →
      t.words = u.words ++ links.flatMap Link.words := by
    clear h
    intro u hu
    induction links generalizing u with
    | nil =>
      cases hu
      exact (List.append_nil _).symm
    | cons link links ih =>
      rw [List.foldlM_cons] at hu
      obtain ⟨v, hv, hrest⟩ := Option.bind_eq_some_iff.mp hu
      rw [ih hrest, Link.words_extend hv, List.flatMap_cons, List.append_assoc]
  rw [hall h, Operand.words_tree, words]

/-- Every expression is written as some chain. -/
theorem Expr.exists_chain (e : Expr) : ∃ c : Chain, c.words = e.words := by
  induction e with
  | atom a => exact ⟨⟨⟨[], a⟩, []⟩, rfl⟩
  | signed s x ih =>
    obtain ⟨⟨⟨signs, a⟩, links⟩, h⟩ := ih
    exact ⟨⟨⟨s :: signs, a⟩, links⟩, congrArg (s.text :: ·) h⟩
  | binary o l r ihl ihr =>
    obtain ⟨⟨first, links⟩, hl⟩ := ihl
    obtain ⟨⟨first', links'⟩, hr⟩ := ihr
    refine ⟨⟨first, links ++ .operator o first' :: links'⟩, ?_⟩
    simp only [Chain.words, List.flatMap_append, List.flatMap_cons, Link.words] at hl hr ⊢
    simp only [words, ← hl, ← hr, List.append_assoc]
  | stepped l r s ihl ihr ihs =>
    obtain ⟨⟨first, links⟩, hl⟩ := ihl
    obtain ⟨⟨first', links'⟩, hr⟩ := ihr
    obtain ⟨⟨first'', links''⟩, hs⟩ := ihs
    refine ⟨⟨first, links ++ .operator .range first' :: (links' ++ .step first'' :: links'')⟩, ?_⟩
    simp only [Chain.words, List.flatMap_append, List.flatMap_cons, Link.words] at hl hr hs ⊢
    simp only [words, ← hl, ← hr, ← hs, List.append_assoc, List.cons_append, List.nil_append]
    rfl

end MathProg.Expression
