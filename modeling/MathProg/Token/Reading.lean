import MathProg.Token.Munch
import MathProg.Token.Value

/-!
One token read from a text: what is skipped before it, and how long it is.
-/

namespace MathProg

/-- A token found in a text, by its distance and its length in characters. -/
structure Reading where
  symbol : Symbol
  skipped : Nat
  length : Nat
  deriving DecidableEq, Repr, Inhabited

/-- A byte order mark is skipped at the start of the text and nowhere else. -/
def markLength (atStart : Bool) (cs : List Char) : Nat :=
  if atStart && cs.head? == some byteOrderMark then 1 else 0

/-- The blanks that a text begins with. -/
def blankLength (cs : List Char) : Nat := (cs.takeWhile isBlank).length

/-- Reads a value behind the blanks that the text begins with. -/
def ValueSet.scan (valid : ValueSet) (cs : List Char) : Option Reading :=
  let blanks := blankLength cs
  (valid.read (cs.drop blanks)).map fun (t, n) => ⟨t, blanks, n⟩

namespace Mode

/-- Reads a token of fixed form behind the blanks that the text begins with. -/
def scan (m : Mode) (cs : List Char) : Option Reading :=
  let blanks := blankLength cs
  (m.munch blanks (cs.drop blanks)).map fun (t, n) => ⟨t, blanks, n⟩

/-- Reads a token: a value if there is one, else the longest token of fixed form. -/
def read (m : Mode) (atStart : Bool) (cs : List Char) : Option Reading :=
  let mark := markLength atStart cs
  let body := cs.drop mark
  ((m.values.scan body).orElse fun _ => m.scan body).map fun r =>
    { r with skipped := mark + r.skipped }

/-- Where the first character that is not skipped stands, and where reading gives up if there is no
token. -/
def giveUp (m : Mode) (atStart : Bool) (cs : List Char) : Nat × Nat :=
  let mark := markLength atStart cs
  let blanks := blankLength (cs.drop mark)
  let begins := mark + blanks
  (begins, begins + m.reach blanks (cs.drop begins))

end Mode

end MathProg
