import MathProg.Automaton.Basic
import MathProg.Symbol.Kind
import MathProg.Text.Extent

/-!
Syntax trees as the parser builds them, hidden symbols included. A tree knows how far it reaches and
not where it stands; what is skipped before a token belongs to the token.
-/

namespace MathProg

/-- How a leaf came about: it was read; or it was supplied where the text lacks a token; or it is
text that is no token, with the character at which reading gave up. -/
inductive Leaf.Origin where
  | read
  | supplied
  | unreadable (stopped : Char)
  deriving DecidableEq, Repr, Inhabited

structure Leaf where
  symbol : Symbol
  padding : Extent
  size : Extent
  extra : Bool
  origin : Leaf.Origin
  deriving DecidableEq, Repr, Inhabited

/-- A tree; an inner node names those of its children that show under another name, counted without
the extra ones. -/
inductive Tree where
  | leaf (token : Leaf)
  | node (symbol : Symbol) (aliases : List (Nat × Symbol)) (children : List Tree) (extra : Bool)
  deriving Repr

namespace Tree

instance : Inhabited Tree := ⟨.leaf default⟩

def symbol : Tree → Symbol
  | leaf l => l.symbol
  | node s _ _ _ => s

def extra : Tree → Bool
  | leaf l => l.extra
  | node _ _ _ e => e

def children : Tree → List Tree
  | leaf _ => []
  | node _ _ cs _ => cs

def withExtra (e : Bool) : Tree → Tree
  | leaf l => leaf { l with extra := e }
  | node s as cs _ => node s as cs e

def isMissing : Tree → Bool
  | leaf l => l.origin == .supplied
  | node .. => false

def isError (t : Tree) : Bool := t.symbol == Symbol.error

def isVisible (t : Tree) : Bool := Symbol.isVisible t.symbol

/-- Whether a symbol stands for text that fits nowhere. -/
def isErroneous (s : Symbol) : Bool := s == Symbol.error || s == Symbol.skipped

/-! ### Reach -/

mutual

/-- What is skipped before the first token. -/
def padding : Tree → Extent
  | leaf l => l.padding
  | node _ _ cs _ => paddingFirst cs

def paddingFirst : List Tree → Extent
  | [] => 0
  | c :: _ => padding c

end

mutual

/-- From the beginning of the first token to the end of the last one. -/
def size : Tree → Extent
  | leaf l => l.size
  | node _ _ cs _ => sizeAll cs

def sizeAll : List Tree → Extent
  | [] => 0
  | c :: cs => size c + totalAll cs

def totalAll : List Tree → Extent
  | [] => 0
  | c :: cs => padding c + size c + totalAll cs

end

/-- Padding and size. -/
def total (t : Tree) : Extent := t.padding + t.size

/-! ### Visible parts -/

/-- The alias of a child by its place among the children that are not extra. -/
def aliasAt (aliases : List (Nat × Symbol)) (place : Nat) : Option Symbol :=
  (aliases.find? (·.1 == place)).map (·.2)

/-- The place of the next child. -/
def advance (place : Nat) (t : Tree) : Nat := if t.extra then place else place + 1

mutual

/-- How many visible nodes the children of a tree amount to. -/
def visibleChildren : Tree → Nat
  | leaf _ => 0
  | node _ as cs _ => visibleAmong as 0 cs

def visibleAmong (as : List (Nat × Symbol)) (place : Nat) : List Tree → Nat
  | [] => 0
  | c :: cs =>
    (if !c.extra && (aliasAt as place).isSome || c.isVisible then 1 else visibleChildren c)
      + visibleAmong as (advance place c) cs

end

mutual

/-- How many visible nodes stand below the root of a tree. -/
def visibleDescendants : Tree → Nat
  | leaf _ => 0
  | node _ as cs _ => visibleBelow as 0 cs

def visibleBelow (as : List (Nat × Symbol)) (place : Nat) : List Tree → Nat
  | [] => 0
  | c :: cs =>
    (if !c.extra && (aliasAt as place).isSome || c.isVisible then 1 else 0)
      + visibleDescendants c + visibleBelow as (advance place c) cs

end

/-- The progress that a tree stands for: its visible nodes, and skipped chains of tokens. -/
def weight (t : Tree) : Nat :=
  t.visibleDescendants + (if t.isVisible then 1 else 0)
    + (if t.symbol == Symbol.skipped then 1 else 0)

/-! ### Cost of the errors in a tree -/

/-- What each part of an error costs. -/
structure Prices where
  recovery : Nat
  missing : Nat
  skippedTree : Nat
  skippedByte : Nat
  skippedRow : Nat

/-- The prices that recovery goes by. -/
def prices : Prices := ⟨500, 110, 100, 1, 30⟩

/-- The price of leaving a stretch of text out. -/
def stretchCost (e : Extent) : Nat :=
  prices.skippedByte * e.bytes + prices.skippedRow * e.rows

/-- The price of a child that is left out: one tree for a visible child, and for a hidden one as
many as it shows. Extra children and unreadable text are free. -/
def childCost (t : Tree) : Nat :=
  if t.extra || (t.isError && t.children.isEmpty) then 0
  else if t.isVisible then prices.skippedTree
  else prices.skippedTree * t.visibleChildren

mutual

/-- The price of all errors in a tree. Unreadable text is priced by the error around it, and a growing
chain of skipped tokens as a whole, so that the chains inside it do not count again. -/
def cost : Tree → Nat
  | leaf l =>
    if l.origin == .supplied then prices.missing + prices.recovery else 0
  | node s as cs e =>
    costAll cs +
      (if isErroneous s then
        (cs.map childCost).foldr (· + ·) 0 + prices.recovery + stretchCost (size (node s as cs e))
      else 0)

def costAll : List Tree → Nat
  | [] => 0
  | c :: cs => (if c.symbol == Symbol.skipped then 0 else cost c) + costAll cs

end

def hasError (t : Tree) : Bool := t.cost != 0

/-! ### Building -/

/-- The node of a reduction. -/
def ofRule (r : Automaton.Rule) (children : List Tree) : Tree := node r.symbol r.aliases children false

/-- An error around the children. -/
def ofError (children : List Tree) (extra : Bool) : Tree := node Symbol.error [] children extra

/-- A chain of skipped tokens. -/
def ofSkipped (children : List Tree) : Tree := node Symbol.skipped [] children false

/-- A token that the text lacks. -/
def missing (t : Symbol) : Tree := leaf ⟨t, 0, 0, false, .supplied⟩

/-- Splits off the extra trees at the end. -/
def splitTrailingExtras (ts : List Tree) : List Tree × List Tree :=
  let tail := ts.reverse.takeWhile extra
  (ts.take (ts.length - tail.length), tail.reverse)

/-- The whole tree from what is on the stack at the end: the last tree that is not extra becomes the
root, and takes in all that stands beside it. -/
def root? (ts : List Tree) : Option Tree :=
  match ts.reverse.span extra with
  | (after, node s as cs _ :: before) => some (node s as (before.reverse ++ cs ++ after.reverse) false)
  | (after, leaf l :: before) => some (node l.symbol [] (before.reverse ++ after.reverse) false)
  | (_, []) => none

/-! ### Choice between two trees of the same text -/

mutual

/-- Compares symbols and numbers of children, from the root down and from left to right. -/
def order : Tree → Tree → Ordering
  | leaf a, b => (compare a.symbol b.symbol).then (compare 0 b.children.length)
  | node s _ cs _, b =>
    ((compare s b.symbol).then (compare cs.length b.children.length)).then (orderAll cs b.children)

def orderAll : List Tree → List Tree → Ordering
  | c :: cs, d :: ds => (order c d).then (orderAll cs ds)
  | _, _ => .eq

end

/-- Whether the second tree is the better one: the cheaper tree is, and of two that cost the same
and not nothing the second. -/
def prefersSecond (a b : Tree) : Bool :=
  if b.cost < a.cost then true
  else if a.cost < b.cost then false
  else a.cost > 0 || order a b == .gt

end Tree

end MathProg
