import MathProg.Node

/-!
Trees as nested lists: the named nodes, the missing ones and the errors.
-/

namespace MathProg.Node

/-- How a character is shown: printable ASCII and four controls in quotes, all others by number. -/
def showChar (c : Char) : String :=
  if c = '\x00' then "'\\0'"
  else if c = '\n' then "'\\n'"
  else if c = '\t' then "'\\t'"
  else if c = '\r' then "'\\r'"
  else if ' ' ≤ c && c ≤ '~' then "'" ++ c.toString ++ "'"
  else toString c.toNat

/-- What a list begins with. -/
def opening (n : Node) : String :=
  if n.isError && n.children.isEmpty && n.info.stopped.isSome && n.start.bytes < n.stop.bytes then
    "(UNEXPECTED " ++ showChar (n.info.stopped.getD '\x00')
  else if n.isMissing then
    "(MISSING " ++ (if n.isNamed then n.kind else "\"" ++ n.kind ++ "\"")
  else "(" ++ n.kind

/-- Whether a node has a list of its own. -/
def isListed (n : Node) : Bool := n.isMissing || n.isNamed

mutual

/-- The list of a node. -/
def sexp : Node → String
  | mk i cs => opening (mk i cs) ++ sexpAll cs ++ ")"

def sexpAll : List Node → String
  | [] => ""
  | c :: cs => (if c.isListed then " " ++ sexp c else sexpBelow c) ++ sexpAll cs

/-- The lists of the children of a node that has none of its own. -/
def sexpBelow : Node → String
  | mk _ cs => sexpAll cs

end

end MathProg.Node
