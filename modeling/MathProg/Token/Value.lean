import MathProg.Text.Blank
import MathProg.Token.Mode

/-!
Values: strings, numbers and the words of the data section. A reader gets the text from the first
character that is not blank and answers with the number of characters that it takes.
-/

namespace MathProg

namespace Value

/-- The length of a string's rest after the opening quote, closing quote included. A doubled quote
stands for the quote itself. -/
def stringRest (quote : Char) : List Char → Option Nat
  | [] => none
  | [c] => if c = quote then some 1 else none
  | c :: d :: cs =>
    if c = quote then
      if d = quote then (stringRest quote cs).map (· + 2) else some 1
    else (stringRest quote (d :: cs)).map (· + 1)

/-- A string: quoted text, the quote doubled where it stands in the text. -/
def string? : List Char → Option Nat
  | [] => none
  | q :: cs => (stringRest q cs).map (· + 1)

/-- How many digits the text begins with. -/
def digits (cs : List Char) : Nat := (cs.takeWhile Char.isDigit).length

/-- The length of a sign, if the text begins with one. -/
def signLength : List Char → Nat
  | c :: _ => if c = '+' || c = '-' then 1 else 0
  | [] => 0

/-- An exponent: its marker, perhaps a sign, and at least one digit; no characters, if it is not
complete. -/
def exponent : List Char → Nat
  | e :: cs =>
    if e = 'e' || e = 'E' then
      let sign := signLength cs
      let n := digits (cs.drop sign)
      if n = 0 then 0 else 1 + sign + n
    else 0
  | [] => 0

/-- Whole part and fraction of a number. Two dots after the digits are a range and end the number
before them. -/
def mantissa (cs : List Char) : Option Nat :=
  let whole := digits cs
  match cs.drop whole with
  | '.' :: rest =>
    if rest.head? = some '.' then if whole = 0 then none else some whole
    else
      let fraction := digits rest
      if whole = 0 && fraction = 0 then none else some (whole + 1 + fraction)
  | _ => if whole = 0 then none else some whole

/-- Whether the digits that the text begins with are the start of a range. -/
def beginsRange (cs : List Char) : Bool := ['.', '.'].isPrefixOf (cs.drop (digits cs))

/-- An unsigned number. -/
def number? (cs : List Char) : Option Nat :=
  (mantissa cs).map fun n => if beginsRange cs then n else n + exponent (cs.drop n)

/-- What a word of the data section consists of. -/
def isWordChar (c : Char) : Bool := isNameChar c || c == '.' || c == '+' || c == '-'

/-- The rest of a word after an optional sign. -/
def unsigned : List Char → List Char
  | c :: cs => if c = '+' || c = '-' then cs else c :: cs
  | [] => []

/-- Whether a whole word is a number, perhaps with a sign. -/
def isNumber (word : List Char) : Bool :=
  let body := unsigned word
  let whole := digits body
  let rest := body.drop whole
  let point := if rest.head? = some '.' then 1 + digits (rest.drop 1) else 0
  let tail := rest.drop point
  whole + (point - 1) != 0 && (tail.isEmpty || (exponent tail != 0 && exponent tail == tail.length))

/-- Words from this length on are never numbers, and never begin a statement. -/
def longWord : Nat := 65

/-- Words that are left to the grammar. -/
def reserved : List (List Char) := [['.'], ['+'], ['-'], "default".toList]

/-- Whether a word begins the next data statement: `set` or `param` before a name or a colon, `end`
before a semicolon or at the end of the text. -/
def beginsStatement (word rest : List Char) : Bool :=
  let next := (rest.dropWhile isBlank).head?
  if word = "set".toList || word = "param".toList then
    next.any fun c => isNameStart c || c == ':'
  else word = "end".toList && (next.isNone || next == some ';')

/-- A whole word of the data section, and the token it is. -/
def word? (cs : List Char) : Option (Symbol × Nat) :=
  let word := cs.takeWhile isWordChar
  if word.isEmpty then none
  else if word.length ≥ longWord then some (Symbol.bareword, word.length)
  else if reserved.contains word || beginsStatement word (cs.drop word.length) then none
  else some (if isNumber word then Symbol.number else Symbol.bareword, word.length)

end Value

namespace ValueSet

/-- Reads a value at a character that is not blank. A quote decides for a string; else, where words
may stand, a whole word is read, and elsewhere an unsigned number. -/
def read (valid : ValueSet) (cs : List Char) : Option (Symbol × Nat) :=
  let first := cs.head?
  if (first == some '\'' || first == some '"') && (valid.string || valid.recovering) then
    (Value.string? cs).map (Symbol.string, ·)
  else if valid.bareword && !valid.recovering then Value.word? cs
  else if (valid.number || valid.recovering) && first.any (fun c => c.isDigit || c == '.') then
    (Value.number? cs).map (Symbol.number, ·)
  else none

end ValueSet

end MathProg
