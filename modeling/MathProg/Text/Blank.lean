/-!
The two notions of white space: the blanks that may stand between tokens, and the characters that
are trimmed from the end of a quoted line.
-/

namespace MathProg

/-- A blank separates tokens: the space and the five controls from tab to carriage return. -/
def isBlank (c : Char) : Bool := c == ' ' || ('\t' ≤ c && c ≤ '\r')

/-- The Unicode property White_Space. -/
def isWhiteSpace (c : Char) : Bool :=
  isBlank c || c == '\u0085' || c == '\u00a0' || c == '\u1680'
    || ('\u2000' ≤ c && c ≤ '\u200a') || c == '\u2028' || c == '\u2029' || c == '\u202f'
    || c == '\u205f' || c == '\u3000'

/-- The mark that may open a text; it is skipped there like a blank. -/
def byteOrderMark : Char := '\ufeff'

/-- Letters, digits and the underscore, in ASCII. -/
def isNameChar (c : Char) : Bool := c.isAlphanum || c == '_'

/-- What a name may begin with. -/
def isNameStart (c : Char) : Bool := c.isAlpha || c == '_'

end MathProg
