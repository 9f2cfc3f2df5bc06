import MathProg.Node.Cursor
import MathProg.Text.Blank

/-!
The errors of a tree as a list of messages: one for each token that the text lacks and for each
stretch of text that fits nowhere.
-/

namespace MathProg

/-- An error, with its range in bytes and its place. -/
structure SyntaxError where
  message : String
  start : Nat
  stop : Nat
  point : Point
  deriving DecidableEq, Repr, Inhabited

namespace SyntaxError

/-- The place of an error as `line:column`, both counted from one. -/
def location (e : SyntaxError) : String :=
  toString (e.point.row + 1) ++ ":" ++ toString (e.point.column + 1)

/-- How many characters of a text a message quotes. -/
def quotedLength : Nat := 24

/-- A text without the white space at its end. -/
def trimEnd (cs : List Char) : List Char := (cs.reverse.dropWhile isWhiteSpace).reverse

/-- The first line of a text as far as it is not white space at the end. -/
def firstLine (cs : List Char) : List Char := trimEnd (cs.takeWhile (· != '\n'))

/-- The message for text that fits nowhere. -/
def unexpected (text : List Char) : String :=
  let line := firstLine text
  if line.isEmpty then "unexpected input"
  else if line.length > quotedLength then
    "unexpected `" ++ String.ofList (line.take quotedLength) ++ "...`"
  else "unexpected `" ++ String.ofList line ++ "`"

/-- The message for a token that the text lacks. -/
def lacking (n : Node) : String :=
  if n.isNamed then "missing " ++ n.kind else "missing `" ++ n.kind ++ "`"

/-- An error at a node. -/
def atNode (n : Node) (message : String) : SyntaxError :=
  ⟨message, n.start.bytes, n.stop.bytes, n.start.point⟩

/-- What there is to report of a node, and whether to look below it. What is inside an error is not
looked at, and neither are nodes that are known to be without. -/
def visit (source : List Char) (n : Node) : List SyntaxError × Bool :=
  if n.isMissing then ([atNode n (lacking n)], false)
  else if n.isError then ([atNode n (unexpected (n.text source))], false)
  else ([], n.hasError)

/-- The errors of a tree in the order of the text. -/
def ofRoot (source : List Char) (root : Node) : List SyntaxError :=
  if root.hasError then (Cursor.ofNode root).walk (visit source) else []

end SyntaxError

end MathProg
