import MathProg.Symbol.Kind
import MathProg.Text.Blank
import MathProg.Token.Mode

/-!
Tokens of fixed form: literals, names, suffixes and comments. The longest one wins; of two that are
equally long, a literal wins over a name.
-/

namespace MathProg.Symbol

/-- How many characters two texts have in common at their beginning. -/
def agreement : List Char → List Char → Nat
  | a :: as, b :: bs => if a = b then agreement as bs + 1 else 0
  | _, _ => 0

/-- The length of a block comment's rest after its opening, closing mark included. A null character
ends the search. -/
def blockRest : List Char → Option Nat
  | '*' :: '/' :: _ => some 2
  | '\x00' :: _ => none
  | _ :: cs => (blockRest cs).map (· + 1)
  | [] => none

/-- A comment: from a number sign to the end of the line, or a block. A null character ends the
line as well. -/
def comment? : List Char → Option Nat
  | '#' :: cs => some (1 + (cs.takeWhile fun c => c != '\n' && c != '\x00').length)
  | '/' :: '*' :: cs => (blockRest cs).map (· + 2)
  | _ => none

def name? : List Char → Option Nat
  | c :: cs => if isNameStart c then some (1 + (cs.takeWhile isNameChar).length) else none
  | [] => none

/-- The suffixes of variables and constraints. -/
def suffixes : List (List Char) :=
  [".lb", ".ub", ".status", ".val", ".dual"].map String.toList

/-- The length of the longest lexeme of a token at the beginning of a text. -/
def munch? (t : Symbol) (cs : List Char) : Option Nat :=
  if t = endOfText then if cs.isEmpty then some 0 else none
  else if t = comment then comment? cs
  else if t = symbolicName then name? cs
  else if t = suffix then (suffixes.find? (·.isPrefixOf cs)).map (·.length)
  else
    let text := t.name.toList
    if text.isPrefixOf cs then some text.length else none

/-- How many characters a text has that could still grow into a lexeme of the token. -/
def reach (t : Symbol) (cs : List Char) : Nat :=
  if t = endOfText then 0
  else if t = comment then
    match cs with
    | '/' :: '*' :: rest => (comment? cs).getD (2 + (rest.takeWhile (· != '\x00')).length)
    | '/' :: _ => 1
    | _ => (comment? cs).getD 0
  else if t = symbolicName then (name? cs).getD 0
  else if t = suffix then (suffixes.map (agreement cs)).foldl max 0
  else agreement t.name.toList cs

end MathProg.Symbol

namespace MathProg.Mode

/-- The tokens that may stand here; a suffix may not, if there are blanks before it. -/
def candidates (m : Mode) (blanks : Nat) : List Symbol :=
  if blanks = 0 then m.tokens else m.tokens.filter (· != Symbol.suffix)

/-- The better of two lexemes. -/
def longer (a b : Symbol × Nat) : Symbol × Nat :=
  if a.2 < b.2 || (a.2 = b.2 && a.1 = Symbol.symbolicName) then b else a

/-- The longest token of fixed form at a character that is not blank. -/
def munch (m : Mode) (blanks : Nat) (cs : List Char) : Option (Symbol × Nat) :=
  ((m.candidates blanks).filterMap fun t => (t.munch? cs).map (t, ·)).foldl
    (fun best found => some (best.elim found (longer · found))) none

/-- How far the text has to be read to see that it begins with none of the tokens. -/
def reach (m : Mode) (blanks : Nat) (cs : List Char) : Nat :=
  ((m.candidates blanks).map (Symbol.reach · cs)).foldl max 0

end MathProg.Mode
