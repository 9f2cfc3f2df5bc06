/-!
Numbers, names and forms of grammar symbols.
-/

namespace MathProg

/-- A grammar symbol, by number: tokens come first, and two symbols beyond the table stand for
unreadable or misplaced text. -/
abbrev Symbol := Nat

namespace Symbol

/-- How a symbol shows in a tree. A literal is visible and has no name of its own; a named symbol
is visible; a hidden one is replaced by its children, and so is a repetition, which has not even
a name in the grammar. -/
inductive Form where
  | literal
  | named
  | hidden
  | repetition
  deriving DecidableEq, Repr, Inhabited

namespace Form

def isVisible : Form → Bool
  | literal | named => true
  | hidden | repetition => false

def isNamed : Form → Bool
  | named | hidden => true
  | literal | repetition => false

end Form

/-- A row of the symbol table. -/
structure Entry where
  name : String
  form : Form
  deriving DecidableEq, Repr, Inhabited

/-- The end of the text. -/
def endOfText : Symbol := 0
def comment : Symbol := 1
def symbolicName : Symbol := 9
def suffix : Symbol := 76
def string : Symbol := 111
def number : Symbol := 112
def bareword : Symbol := 113
def model : Symbol := 115
/-- Tokens have the numbers below this one. -/
def tokenCount : Nat := 115
/-- Text that fits nowhere. -/
def error : Symbol := 65535
/-- A chain of skipped tokens that is still growing. -/
def skipped : Symbol := 65534

end Symbol

end MathProg
