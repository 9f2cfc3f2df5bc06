import MathProg.Token.Lookahead

/-!
Parsing a text without errors: a stack of states, one token of look-ahead. The parser either
accepts, or stops at the first token that does not fit, and hands over what it has.
-/

namespace MathProg.Straight

open Automaton

/-- A tree on the stack, and the state that it leads to. -/
structure Frame where
  state : State
  tree : Tree
  deriving Inhabited

/-- A token that is looked at, and the state it was read in. -/
structure Lookahead where
  leaf : Leaf
  readIn : State
  deriving Inhabited

/-- The parser between two moves: the stack from the top down, the place in the text that it
reaches to, and perhaps the next token. -/
structure Config where
  frames : List Frame
  position : Extent
  lookahead : Option Lookahead
  deriving Inhabited

/-- How a run ends. -/
inductive Outcome where
  | accepted (tree : Tree)
  | stopped (frames : List Frame) (position : Extent) (lookahead : Lookahead)

def stateOf : List Frame → State
  | [] => start
  | f :: _ => f.state

/-- Takes frames off the stack until `count` trees are taken that are not extra. The trees come in
the order of the text. -/
def popFrames : List Frame → Nat → List Tree → Option (List Tree × List Frame)
  | fs, 0, taken => some (taken, fs)
  | [], _ + 1, _ => none
  | f :: fs, n + 1, taken =>
    popFrames fs (if f.tree.extra then n + 1 else n) (f.tree :: taken)

/-- Puts trees on the stack that all lead to one state. -/
def pushAll (state : State) (fs : List Frame) (ts : List Tree) : List Frame :=
  ts.foldl (fun fs t => ⟨state, t⟩ :: fs) fs

/-- Replaces the children on the stack by their node. Extra trees above the last child stay
outside. -/
def reduce (r : Rule) (fs : List Frame) : Option (List Frame) :=
  (popFrames fs r.length []).map fun (taken, below) =>
    let (children, extras) := Tree.splitTrailingExtras taken
    let target := (successor? (stateOf below) r.symbol).getD lost
    pushAll target below (Tree.ofRule r children :: extras)

/-- The next token after `position`. -/
def read (source : List Char) (c : Config) : Lookahead :=
  let s := stateOf c.frames
  ⟨(mode s).next (c.position.bytes == 0) (source.drop c.position.chars), s⟩

/-- One move. -/
def step (source : List Char) (c : Config) : Config ⊕ Option Outcome :=
  let look := c.lookahead.getD (read source c)
  let token := Tree.leaf look.leaf
  let s := stateOf c.frames
  let take (target : State) (tree : Tree) : Config :=
    ⟨⟨target, tree⟩ :: c.frames, c.position + token.total, none⟩
  match action? s look.leaf.symbol with
  | some (.shift target) => .inl (take target token)
  | some .shiftExtra => .inl (take s (token.withExtra true))
  | some (.reduce r) =>
    match reduce r c.frames with
    | some frames => .inl ⟨frames, c.position, some look⟩
    | none => .inr none
  | some .accept =>
    .inr ((Tree.root? ((c.frames.map (·.tree)).reverse ++ [token])).map .accepted)
  | some .recover | none => .inr (some (.stopped c.frames c.position look))

def run (source : List Char) : Nat → Config → Option Outcome
  | 0, _ => none
  | fuel + 1, c =>
    match step source c with
    | .inl c' => run source fuel c'
    | .inr outcome => outcome

/-- Moves that are enough for a text of this length. -/
def fuelFor (source : List Char) : Nat := 1000 * (source.length + 10)

/-- Reads a text as far as it has no error. -/
def parse (source : List Char) : Option Outcome :=
  run source (fuelFor source) ⟨[], 0, none⟩

end MathProg.Straight
