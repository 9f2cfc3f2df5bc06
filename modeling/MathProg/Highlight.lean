import MathProg.Node
import MathProg.Text.Blank

/-!
Highlighting: every token of a tree has a scope, as editor themes know them.
-/

namespace MathProg

/-- What a token is to an editor. -/
inductive Scope where
  | comment
  | string
  | number
  | keyword
  | operator
  | function
  | variableName
  | constant
  | property
  | bracket
  | delimiter
  deriving DecidableEq, Repr, Inhabited

namespace Scope

/-- All scopes in the order of their numbers. -/
def all : List Scope :=
  [comment, string, number, keyword, operator, function, variableName, constant, property, bracket,
    delimiter]

def name : Scope → String
  | comment => "comment"
  | string => "string"
  | number => "number"
  | keyword => "keyword"
  | operator => "operator"
  | function => "function.builtin"
  | variableName => "variable"
  | constant => "constant"
  | property => "property"
  | bracket => "punctuation.bracket"
  | delimiter => "punctuation.delimiter"

/-- The scope of a number, if there is one. -/
def ofNumber? (n : Nat) : Option Scope := all[n]?

/-- A word consists of letters, digits, underscores and dots. -/
def isWord (text : List Char) : Bool := text.all fun c => isNameChar c || c == '.'

/-- The scope of a literal by its text. The literals in a function's name are all functions. -/
def ofLiteral (inFunctionName : Bool) (text : List Char) : Scope :=
  if inFunctionName then function
  else if ["(", ")", "[", "]", "\x7b", "\x7d", "(tr)"].contains (String.ofList text) then bracket
  else if [";", ",", ":"].contains (String.ofList text) then delimiter
  else if [".", ".."].contains (String.ofList text) then operator
  else if isWord text then keyword
  else operator

/-- The scope of a named token by its kind and, for operators, by its text. -/
def ofKind? (kind : String) (text : List Char) : Option Scope :=
  match kind with
  | "comment" => some comment
  | "string" | "alias" => some string
  | "number" => some number
  | "operator" => some (if isWord text then keyword else operator)
  | "suffix" => some property
  | "symbolic_name" | "model_object" => some variableName
  | "bareword" => some constant
  | _ => none

end Scope

/-- A token of the text, by its range in bytes, and its scope. -/
structure Highlight where
  start : Nat
  stop : Nat
  scope : Scope
  text : List Char
  deriving DecidableEq, Repr, Inhabited

namespace Highlight

/-- The highlight of a token. Errors, missing tokens and empty ones have none. -/
def ofToken? (source : List Char) (inFunctionName : Bool) (n : Node) : Option Highlight :=
  if n.isMissing || n.isError || n.start.bytes == n.stop.bytes then none
  else
    let text := n.text source
    let scope := if n.isNamed then Scope.ofKind? n.kind text
      else some (Scope.ofLiteral inFunctionName text)
    scope.map fun s => ⟨n.start.bytes, n.stop.bytes, s, text⟩

mutual

/-- The highlights of a node's tokens in the order of the text. -/
def ofNode (source : List Char) (inFunctionName : Bool) : Node → List Highlight
  | .mk i [] => (ofToken? source inFunctionName (.mk i [])).toList
  | .mk i (c :: cs) => ofNodes source (Symbol.name i.symbol == "function_name") (c :: cs)

def ofNodes (source : List Char) (inFunctionName : Bool) : List Node → List Highlight
  | [] => []
  | c :: cs => ofNode source inFunctionName c ++ ofNodes source inFunctionName cs

end

/-- The highlights of a whole tree. -/
def ofRoot (source : List Char) (root : Node) : List Highlight := ofNode source false root

end Highlight

end MathProg
