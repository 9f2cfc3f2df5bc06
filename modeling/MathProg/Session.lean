import MathProg.Highlight
import MathProg.Language
import MathProg.Node.Sexp
import MathProg.Parse
import MathProg.SyntaxError

/-!
A session with a parser: it is given a grammar, reads texts, and answers questions about the last
text that it read.
-/

namespace MathProg

/-- A text and its tree. -/
structure Document where
  source : List Char
  root : Node
  deriving Inhabited

namespace Document

/-- Reads a text. -/
def ofText? (source : List Char) : Option Document :=
  (parse source).map fun t => ⟨source, Node.ofTree t⟩

def errors (d : Document) : List SyntaxError := SyntaxError.ofRoot d.source d.root

def highlights (d : Document) : List Highlight := Highlight.ofRoot d.source d.root

end Document

/-- What a parser with a grammar reads texts with. It is a component of its own, of which a parser sees the
root of the tree that is made of a text, or that none was made. -/
structure Runtime where
  root? : List Char → Option Node

namespace Runtime

/-- A tree that says no more than that the text is an error. -/
def errorRoot (source : List Char) : Node :=
  .mk ⟨Symbol.error, false, true, false, true, 0, Extent.ofChars source, none⟩ []

/-- The runtime of this library. A runtime makes a tree of every text: one that the parser has not come to
the end of when its rounds are used up would be an error as a whole. -/
def builtIn : Runtime := ⟨fun source => some (((parse source).map Node.ofTree).getD (errorRoot source))⟩

/-- Reads a text. -/
def document? (rt : Runtime) (source : List Char) : Option Document :=
  (rt.root? source).map fun n => ⟨source, n⟩

end Runtime

/-- The parser's grammar, and the last document. -/
structure Session where
  language : Option Language
  last : Option Document
  deriving Inhabited

/-- What is asked of a session. -/
inductive Request where
  /-- A parser without a grammar. -/
  | newParser
  /-- A parser with the MathProg grammar. -/
  | readyParser
  /-- Load a grammar and hand it to the parser. -/
  | setLanguage (loader : Loader)
  /-- Hand a grammar to the parser without looking at it. -/
  | setUnchecked (loader : Loader)
  | reset
  | hasLanguage
  | parse (source : List Char)
  | errors
  | highlight
  | node (path : List Nat)
  deriving Repr, Inhabited

/-- Why a session has no answer. -/
inductive Refusal where
  | language (e : LanguageError)
  | noLanguage
  | cancelled
  | noTree
  | noChild (place : Nat)
  deriving DecidableEq, Repr, Inhabited

namespace Refusal

def message : Refusal → String
  | language e => e.message
  | noLanguage => "no language set on parser"
  | cancelled => "parse was cancelled"
  | noTree => ""
  | noChild place => toString place

end Refusal

inductive Answer where
  | done
  | flag (b : Bool)
  | document (d : Document)
  | errors (es : List SyntaxError)
  | highlights (hs : List Highlight)
  | node (n : Node)
  | refused (r : Refusal)
  deriving Inhabited

namespace Session

/-- A parser without a grammar, and no document. -/
def initial : Session := ⟨none, none⟩

/-- A parser with the MathProg grammar, and no document. -/
def ready : Except LanguageError Session := do
  let l ← Language.load .mathprog >>= Language.enlist
  return ⟨some l, none⟩

/-- A grammar for the parser; if there is none, the parser keeps the one it has. -/
def withLanguage (s : Session) : Except LanguageError Language → Session × Answer
  | .ok l => ({ s with language := some l }, .done)
  | .error e => (s, .refused (.language e))

/-- Reads a text, if the parser has a grammar. -/
def read (rt : Runtime) (s : Session) (source : List Char) : Session × Except Refusal Document :=
  if s.language.isNone then (s, .error .noLanguage)
  else match rt.document? source with
    | some d => ({ s with last := some d }, .ok d)
    | none => (s, .error .cancelled)

/-- An answer about the last document. -/
def ofLast (s : Session) (f : Document → Answer) : Session × Answer :=
  (s, match s.last with
    | some d => f d
    | none => .refused .noTree)

/-- The node at the end of a path from the root. -/
def nodeAt (path : List Nat) (d : Document) : Answer :=
  match d.root.descend path with
  | .ok n => .node n
  | .error i => .refused (.noChild i)

/-- One request. The runtime has the tables of MathProg only: a text is read with them also where the
parser was handed a table without rules. -/
def step (rt : Runtime) (s : Session) : Request → Session × Answer
  | .newParser => ({ s with language := none }, .done)
  | .readyParser => s.withLanguage (Language.load .mathprog >>= Language.enlist)
  | .setLanguage loader => s.withLanguage (Language.load loader >>= Language.enlist)
  | .setUnchecked loader =>
    match Language.ofLoader? loader with
    | some l => s.withLanguage l.enlist
    | none => s.withLanguage (.error .null)
  | .reset => (s, .done)
  | .hasLanguage => (s, .flag s.language.isSome)
  | .parse source =>
    let (s, d) := s.read rt source
    (s, match d with
      | .ok d => .document d
      | .error e => .refused e)
  | .errors => s.ofLast fun d => .errors d.errors
  | .highlight => s.ofLast fun d => .highlights d.highlights
  | .node path => s.ofLast (nodeAt path)

/-- The answers to a sequence of requests. -/
def runOn (rt : Runtime) : Session → List Request → List Answer
  | _, [] => []
  | s, r :: rs =>
    let (s, a) := s.step rt r
    a :: runOn rt s rs

/-- The answers of a session with the parser of this library. -/
def run : Session → List Request → List Answer := runOn .builtIn

end Session

end MathProg
