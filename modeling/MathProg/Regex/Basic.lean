import MathProg.Regex.CharSet

/-!
Regular expressions, and whether one matches somewhere in a text. A text is read character by
character; what is kept is the set of expressions that the rest of a match has to satisfy.
-/

namespace MathProg

/-- What may be asked of the place between two characters. -/
inductive Regex.Assertion where
  | textStart
  | textEnd
  | lineStart
  | lineEnd
  | wordBoundary
  | noWordBoundary
  | wordStart
  | wordEnd
  | wordStartHalf
  | wordEndHalf
  deriving DecidableEq, Repr, Inhabited

inductive Regex where
  | empty
  | chars (s : CharSet)
  | assert (a : Regex.Assertion)
  | cat (r s : Regex)
  | alt (r s : Regex)
  | star (r : Regex)
  deriving DecidableEq, Repr, Inhabited

namespace Regex

/-- Whether an assertion holds between two characters; at the ends of the text there is none. -/
def Assertion.holds (before after : Option Char) : Assertion → Bool
  | textStart => before.isNone
  | textEnd => after.isNone
  | lineStart => before.all (· == '\n')
  | lineEnd => after.all (· == '\n')
  | wordBoundary => before.any CharSet.isWordChar != after.any CharSet.isWordChar
  | noWordBoundary => before.any CharSet.isWordChar == after.any CharSet.isWordChar
  | wordStart => !before.any CharSet.isWordChar && after.any CharSet.isWordChar
  | wordEnd => before.any CharSet.isWordChar && !after.any CharSet.isWordChar
  | wordStartHalf => !before.any CharSet.isWordChar
  | wordEndHalf => !after.any CharSet.isWordChar

/-- Whether an expression matches the empty text between two characters. -/
def nullable (before after : Option Char) : Regex → Bool
  | empty => true
  | chars _ => false
  | assert a => a.holds before after
  | cat r s => nullable before after r && nullable before after s
  | alt r s => nullable before after r || nullable before after s
  | star _ => true

/-- `cat` without needless empty expressions. -/
def andThen (r s : Regex) : Regex := if r = empty then s else cat r s

/-- What is left to match after the character `c`, read behind `before`. -/
def rests (before : Option Char) (c : Char) : Regex → List Regex
  | empty => []
  | chars s => if s.contains c.toNat then [empty] else []
  | assert _ => []
  | cat r s =>
    (rests before c r).map (andThen · s)
      ++ (if nullable before (some c) r then rests before c s else [])
  | alt r s => rests before c r ++ rests before c s
  | star r => (rests before c r).map (andThen · (star r))

/-- Whether a match begins at this place or later, or one of those that have begun goes on to its
end. -/
def search (r : Regex) (before : Option Char) (begun : List Regex) : List Char → Bool
  | [] => (r :: begun).any (nullable before none)
  | c :: cs =>
    let current := r :: begun
    current.any (nullable before (some c))
      || search r (some c) (current.flatMap (rests before c)).eraseDups cs

/-- Whether an expression matches somewhere in a text. -/
def isMatch (r : Regex) (text : List Char) : Bool := search r none [] text

/-- A sequence of expressions. -/
def ofList : List Regex → Regex
  | [] => empty
  | [r] => r
  | r :: rs => cat r (ofList rs)

/-- A fixed number of copies. -/
def copies (r : Regex) : Nat → Regex
  | 0 => empty
  | 1 => r
  | n + 2 => cat r (copies r (n + 1))

def optional (r : Regex) : Regex := alt r empty

/-- Up to a number of copies. -/
def upTo (r : Regex) : Nat → Regex
  | 0 => empty
  | n + 1 => optional (andThen r (upTo r n))

/-- From `least` copies on, up to `most` if there is a limit. -/
def repeated (r : Regex) (least : Nat) : Option Nat → Regex
  | none => andThen (copies r least) (star r)
  | some most => andThen (copies r least) (upTo r (most - least))

/-- How large an expression is. -/
def size : Regex → Nat
  | empty => 1
  | chars _ => 1
  | assert _ => 1
  | cat r s => size r + size s
  | alt r s => size r + size s + 1
  | star r => size r + 1

/-- The largest repetition that is accepted, counted in the copies that it amounts to. -/
def maxSize : Nat := 327680

/-- Whether a repetition stays within bounds. -/
def isRepeatable (r : Regex) (least : Nat) (most : Option Nat) : Bool :=
  r.size * max least (most.getD 1) ≤ maxSize

end Regex

end MathProg
