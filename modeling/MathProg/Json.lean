/-!
JSON values and their two written forms: compact, and spread over lines.
-/

namespace MathProg

/-- A JSON value. Numbers are natural; the members of an object keep their order. -/
inductive Json where
  | null
  | bool (b : Bool)
  | number (n : Nat)
  | string (s : String)
  | array (items : List Json)
  | object (members : List (String × Json))
  deriving Repr, Inhabited

namespace Json

/-! ### Strings -/

def hexDigit (n : Nat) : Char := "0123456789abcdef".toList.getD n '0'

/-- How a character is written inside quotes: quotes, backslashes and control characters are
escaped, the common ones in short. -/
def escape (c : Char) : List Char :=
  if c = '"' then ['\\', '"']
  else if c = '\\' then ['\\', '\\']
  else if c = '\n' then ['\\', 'n']
  else if c = '\t' then ['\\', 't']
  else if c = '\r' then ['\\', 'r']
  else if c = '\x08' then ['\\', 'b']
  else if c = '\x0c' then ['\\', 'f']
  else if c < ' ' then ['\\', 'u', '0', '0', hexDigit (c.toNat / 16), hexDigit (c.toNat % 16)]
  else [c]

def quote (s : String) : String :=
  String.ofList ('"' :: (s.toList.flatMap escape ++ ['"']))

/-! ### Compact form -/

mutual

/-- The text of a value without any blanks. -/
def compact : Json → String
  | null => "null"
  | bool b => if b then "true" else "false"
  | number n => toString n
  | string s => quote s
  | array items => "[" ++ ",".intercalate (compactItems items) ++ "]"
  | object members => "\x7b" ++ ",".intercalate (compactMembers members) ++ "\x7d"

def compactItems : List Json → List String
  | [] => []
  | j :: js => compact j :: compactItems js

def compactMembers : List (String × Json) → List String
  | [] => []
  | m :: ms => compactMember m :: compactMembers ms

def compactMember : String × Json → String
  | (key, j) => quote key ++ ":" ++ compact j

end

/-! ### Spread form -/

/-- The line break before something that stands `depth` levels deep. -/
def newLine (depth : Nat) : String := "\n" ++ String.ofList (List.replicate (2 * depth) ' ')

/-- Items between brackets, each on a line of its own; nothing at all between them, if there are no
items. -/
def spread (depth : Nat) (opening closing : String) (items : List String) : String :=
  if items.isEmpty then opening ++ closing
  else
    opening ++ newLine (depth + 1) ++ ("," ++ newLine (depth + 1)).intercalate items
      ++ newLine depth ++ closing

mutual

/-- The text of a value with a line for each item and each member, indented by two blanks a
level. -/
def pretty (depth : Nat) : Json → String
  | null => "null"
  | bool b => if b then "true" else "false"
  | number n => toString n
  | string s => quote s
  | array items => spread depth "[" "]" (prettyItems (depth + 1) items)
  | object members => spread depth "\x7b" "\x7d" (prettyMembers (depth + 1) members)

def prettyItems (depth : Nat) : List Json → List String
  | [] => []
  | j :: js => pretty depth j :: prettyItems depth js

def prettyMembers (depth : Nat) : List (String × Json) → List String
  | [] => []
  | m :: ms => prettyMember depth m :: prettyMembers depth ms

def prettyMember (depth : Nat) : String × Json → String
  | (key, j) => quote key ++ ": " ++ pretty depth j

end

/-! ### Order of members -/

/-- Puts a member at its place among members in the order of their keys. -/
def insertMember (m : String × Json) : List (String × Json) → List (String × Json)
  | [] => [m]
  | n :: ns => if m.1 < n.1 then m :: n :: ns else n :: insertMember m ns

mutual

/-- The same value with the members of all objects in the order of their keys. -/
def sorted : Json → Json
  | array items => array (sortedItems items)
  | object members => object (sortedMembers members)
  | null => null
  | bool b => bool b
  | number n => number n
  | string s => string s

def sortedItems : List Json → List Json
  | [] => []
  | j :: js => sorted j :: sortedItems js

def sortedMembers : List (String × Json) → List (String × Json)
  | [] => []
  | m :: ms => insertMember (sortedMember m) (sortedMembers ms)

def sortedMember : String × Json → String × Json
  | (key, j) => (key, sorted j)

end

end Json

end MathProg
