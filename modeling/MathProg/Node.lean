import MathProg.Tree

/-!
The nodes of a tree that can be seen: hidden symbols are replaced by their children, and aliases take
the place of symbols. A node knows where it stands in the text.
-/

namespace MathProg

/-- What there is to know of a node apart from its children. -/
structure Node.Info where
  symbol : Symbol
  missing : Bool
  error : Bool
  extra : Bool
  hasError : Bool
  start : Extent
  stop : Extent
  /-- For text that is no token, the character at which reading gave up. -/
  stopped : Option Char
  deriving Repr, Inhabited

inductive Node where
  | mk (info : Node.Info) (children : List Node)
  deriving Repr, Inhabited

namespace Node

def info : Node → Info
  | mk i _ => i

def children : Node → List Node
  | mk _ cs => cs

def symbol (n : Node) : Symbol := n.info.symbol

def kind (n : Node) : String := Symbol.name n.symbol

def isNamed (n : Node) : Bool := Symbol.isNamed n.symbol

def isMissing (n : Node) : Bool := n.info.missing

def isError (n : Node) : Bool := n.info.error

/-- Whether there is an error at the node or below it. -/
def hasError (n : Node) : Bool := n.info.hasError

def start (n : Node) : Extent := n.info.start

def stop (n : Node) : Extent := n.info.stop

/-- The text of a node. -/
def text (source : List Char) (n : Node) : List Char :=
  (source.drop n.start.chars).take (n.stop.chars - n.start.chars)

/-! ### From trees -/

/-- Where reading gave up in a leaf that is no token. -/
def stoppedAt : Tree → Option Char
  | .leaf ⟨_, _, _, _, .unreadable c⟩ => some c
  | _ => none

/-- The information on a tree that begins at `base`, padding included. -/
def infoOf (alias? : Option Symbol) (base : Extent) (t : Tree) : Info :=
  { symbol := alias?.getD t.symbol
    missing := t.isMissing
    error := t.isError
    extra := t.extra
    hasError := t.hasError
    start := base + t.padding
    stop := base + t.total
    stopped := stoppedAt t }

/-- The alias of a child. Extra children have none. -/
def aliasOf (aliases : List (Nat × Symbol)) (place : Nat) (t : Tree) : Option Symbol :=
  if t.extra then none else Tree.aliasAt aliases place

mutual

/-- The visible nodes among the children of a tree. -/
def shown (base : Extent) : Tree → List Node
  | .leaf _ => []
  | .node _ as cs _ => shownAmong as 0 base cs

def shownAmong (as : List (Nat × Symbol)) (place : Nat) (base : Extent) : List Tree → List Node
  | [] => []
  | c :: cs =>
    let alias? := aliasOf as place c
    let inside := shown base c
    (if alias?.isSome || c.isVisible then [mk (infoOf alias? base c) inside] else inside)
      ++ shownAmong as (Tree.advance place c) (base + c.total) cs

end

/-- The root node of a tree. -/
def ofTree (t : Tree) : Node := mk (infoOf none 0 t) (shown 0 t)

/-! ### Walking -/

mutual

/-- A node and all nodes below it, each before its children. -/
def preorder : Node → List Node
  | mk i cs => mk i cs :: preorderAll cs

def preorderAll : List Node → List Node
  | [] => []
  | c :: cs => preorder c ++ preorderAll cs

end

/-- Goes down from a node by the places of children. If there is no such child, its place is the
error. -/
def descend (n : Node) : List Nat → Except Nat Node
  | [] => .ok n
  | i :: path =>
    match n.children[i]? with
    | some c => descend c path
    | none => .error i

end Node

end MathProg
