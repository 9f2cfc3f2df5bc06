import MathProg.Automaton.Action
import MathProg.Token.Reading
import MathProg.Tree

/-!
The next token of a text as a leaf. A state reads in its own mode first; if that finds nothing, in
the mode that knows every token; and if that finds nothing either, text is skipped up to the next
place where there is a token, and the skipped stretch becomes the leaf.
-/

namespace MathProg.Mode

/-- The mode that knows every token. -/
def anything : Mode := Automaton.mode Automaton.lost

/-- The first place from `offset` on at which a token can be read. Where reading gives up in the
middle of something, the search goes on behind it. -/
def nextReadable (cs : List Char) : Nat → Nat → Nat
  | 0, offset => offset
  | fuel + 1, offset =>
    let rest := cs.drop offset
    if rest.isEmpty || (anything.read false rest).isSome then offset
    else nextReadable cs fuel (offset + max 1 (anything.giveUp false rest).2)

/-- The leaf of a token at a text. The end of the text is an extra leaf. -/
def leafOf (cs : List Char) (r : Reading) : Leaf :=
  let body := cs.drop r.skipped
  ⟨r.symbol, Extent.ofChars (cs.take r.skipped), Extent.ofChars (body.take r.length),
    r.symbol == Symbol.endOfText, .read⟩

/-- The leaf of text that is no token. -/
def unreadableLeaf (atStart : Bool) (cs : List Char) : Leaf :=
  let (begins, stops) := anything.giveUp atStart cs
  let ends := nextReadable cs cs.length (max (begins + 1) stops)
  ⟨Symbol.error, Extent.ofChars (cs.take begins),
    Extent.ofChars ((cs.drop begins).take (ends - begins)), false,
    .unreadable ((cs.drop stops).headD '\x00')⟩

/-- The next leaf of a text. -/
def next (m : Mode) (atStart : Bool) (cs : List Char) : Leaf :=
  match m.read atStart cs with
  | some r => leafOf cs r
  | none => match anything.read atStart cs with
    | some r => leafOf cs r
    | none => unreadableLeaf atStart cs

end MathProg.Mode
