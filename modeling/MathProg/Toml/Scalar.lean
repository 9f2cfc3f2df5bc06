import MathProg.Toml.Value

/-!
Numbers, truth values and dates of TOML, of which only the form matters.
-/

namespace MathProg.Toml.Scalar

/-- Digits with single underscores between them. -/
def isDigits (ok : Char → Bool) : List Char → Bool
  | [] => false
  | [c] => ok c
  | c :: '_' :: cs => ok c && isDigits ok cs
  | c :: cs => ok c && isDigits ok cs

def isHexDigit (c : Char) : Bool :=
  c.isDigit || ('a' ≤ c && c ≤ 'f') || ('A' ≤ c && c ≤ 'F')

def unsigned : List Char → List Char
  | '+' :: cs => cs
  | '-' :: cs => cs
  | cs => cs

/-- A decimal number without needless zeros in front. -/
def isWhole (cs : List Char) : Bool :=
  isDigits Char.isDigit cs && (cs.length = 1 || cs.head? != some '0')

def isInteger : List Char → Bool
  | '0' :: 'x' :: cs => isDigits isHexDigit cs
  | '0' :: 'o' :: cs => isDigits (fun c => '0' ≤ c && c ≤ '7') cs
  | '0' :: 'b' :: cs => isDigits (fun c => c == '0' || c == '1') cs
  | cs => isWhole (unsigned cs)

/-- A fraction, an exponent, or both. -/
def isFloat (cs : List Char) : Bool :=
  let body := unsigned cs
  let mantissa := body.takeWhile fun c => c != 'e' && c != 'E'
  let marked := mantissa.length < body.length
  let whole := mantissa.takeWhile (· != '.')
  let pointed := whole.length < mantissa.length
  body == "inf".toList || body == "nan".toList ||
    ((marked || pointed) && isWhole whole
      && (!pointed || isDigits Char.isDigit (mantissa.drop (whole.length + 1)))
      && (!marked || isDigits Char.isDigit (unsigned (body.drop (mantissa.length + 1)))))

/-- A number of exactly `width` digits at the beginning of a text. -/
def digits (width : Nat) (cs : List Char) : Option (Nat × List Char) :=
  let ds := cs.take width
  if ds.length = width && ds.all Char.isDigit then
    some (ds.foldl (fun n d => 10 * n + (d.toNat - '0'.toNat)) 0, cs.drop width)
  else none

def expect (c : Char) : List Char → Option (List Char)
  | d :: cs => if c = d then some cs else none
  | [] => none

def daysIn (year month : Nat) : Nat :=
  if month = 2 then
    if year % 4 = 0 && (year % 100 != 0 || year % 400 = 0) then 29 else 28
  else if [4, 6, 9, 11].contains month then 30
  else 31

def date (cs : List Char) : Option (List Char) := do
  let (year, cs) ← digits 4 cs
  let cs ← expect '-' cs
  let (month, cs) ← digits 2 cs
  let cs ← expect '-' cs
  let (day, cs) ← digits 2 cs
  if 1 ≤ month && month ≤ 12 && 1 ≤ day && day ≤ daysIn year month then some cs else none

def hourMinute (cs : List Char) : Option (List Char) := do
  let (hour, cs) ← digits 2 cs
  let cs ← expect ':' cs
  let (minute, cs) ← digits 2 cs
  if hour ≤ 23 && minute ≤ 59 then some cs else none

/-- A time of day; the seconds may be left out, and may have a fraction. -/
def time (cs : List Char) : Option (List Char) := do
  let cs ← hourMinute cs
  match cs with
  | ':' :: rest =>
    let (second, rest) ← digits 2 rest
    if second > 60 then none
    else match rest with
      | '.' :: fraction =>
        let ds := fraction.takeWhile Char.isDigit
        if ds.isEmpty then none else some (fraction.drop ds.length)
      | _ => some rest
  | _ => some cs

def offset : List Char → Option (List Char)
  | 'Z' :: cs => some cs
  | 'z' :: cs => some cs
  | '+' :: cs => hourMinute cs
  | '-' :: cs => hourMinute cs
  | cs => some cs

/-- A date, a time, or a date and a time with perhaps an offset. -/
def isDateTime (cs : List Char) : Bool :=
  let isEnd (rest : Option (List Char)) : Bool := rest == some []
  isEnd (time cs) ||
    match date cs with
    | none => false
    | some [] => true
    | some (c :: rest) =>
      (c = 'T' || c = 't' || c = ' ') && isEnd ((time rest).bind offset)

/-- Whether a word is a value. -/
def isScalar (cs : List Char) : Bool :=
  cs == "true".toList || cs == "false".toList || isInteger cs || isFloat cs || isDateTime cs

/-- What words consist of. -/
def isWordChar (c : Char) : Bool :=
  c.isAlphanum || c == '_' || c == '-' || c == '+' || c == '.' || c == ':'

/-- A word at the beginning of a text. Between a date and a time there may be a blank. -/
def word (cs : List Char) : List Char × List Char :=
  let first := cs.takeWhile isWordChar
  let rest := cs.drop first.length
  match rest with
  | ' ' :: d :: _ =>
    if date first == some [] && d.isDigit then
      let second := (rest.drop 1).takeWhile isWordChar
      (first ++ ' ' :: second, rest.drop (1 + second.length))
    else (first, rest)
  | _ => (first, rest)

end MathProg.Toml.Scalar
