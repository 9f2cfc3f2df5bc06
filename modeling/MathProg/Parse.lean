import MathProg.Parse.Recovery
import MathProg.Parse.Straight

/-!
Parsing a text to a tree.
-/

namespace MathProg

namespace Recovery

/-- Takes over a parse that stopped at a token that does not fit. -/
def ofStopped (source : List Char) (frames : List Straight.Frame) (look : Straight.Lookahead) :
    Recovery :=
  let g := frames.foldr (fun f g => g.push 0 (some f.tree) f.state) Stack.initial
  { source := source
    stack := g.pause 0 look.leaf
    known := some ⟨look.leaf, (g.position 0).bytes, look.readIn⟩
    finished := none
    finishedCount := 0 }

/-- Rounds that are enough for a text of this length. -/
def rounds (source : List Char) : Nat := 1000 * (source.length + 10)

def run (m : Recovery) : Option Tree :=
  loop (rounds m.source) (m.stack.position 0).bytes m

end Recovery

/-- The tree of a text. A text without errors is read straight; else the parser recovers. -/
def parse (source : List Char) : Option Tree :=
  match Straight.parse source with
  | some (.accepted tree) => some tree
  | some (.stopped frames _ look) => (Recovery.ofStopped source frames look).run
  | none => none

end MathProg
