import MathProg.Text.Visibility

/-!
Quoted text on one line: what would not show, and what would end the quotation, is escaped.
-/

namespace MathProg.Quoted

/-- The hexadecimal digits of a number, without leading zeros. -/
def hex (n : Nat) : List Char := Nat.toDigits 16 n

/-- How a character is written inside the quotes. -/
def escape (c : Char) : List Char :=
  if c = '\x00' then ['\\', '0']
  else if c = '\t' then ['\\', 't']
  else if c = '\r' then ['\\', 'r']
  else if c = '\n' then ['\\', 'n']
  else if c = '\\' then ['\\', '\\']
  else if c = '"' then ['\\', '"']
  else if isShown c then [c]
  else ['\\', 'u', '\x7b'] ++ hex c.toNat ++ ['\x7d']

def quote (text : List Char) : List Char := '"' :: (text.flatMap escape ++ ['"'])

end MathProg.Quoted
