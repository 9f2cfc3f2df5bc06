import MathProg.Toml.Scalar

/-!
Reading TOML. A reader takes the rest of the text and answers with what it read and what is left, or
with nothing if the text is not well formed.
-/

namespace MathProg.Toml

/-- Tabs and spaces, the white space within a line. -/
def skipBlanks (cs : List Char) : List Char := cs.dropWhile fun c => c == ' ' || c == '\t'

/-- Characters that may not stand in comments and on a line of a string. -/
def isControl (c : Char) : Bool := (c < ' ' && c != '\t') || c == '\x7f'

/-- A line end, if the text begins with one. -/
def newLine? : List Char → Option (List Char)
  | '\n' :: cs => some cs
  | '\r' :: '\n' :: cs => some cs
  | _ => none

/-- A comment, if the text begins with one. A carriage return may only stand before a line feed. -/
def skipComment : List Char → Option (List Char)
  | '#' :: cs =>
    let body := cs.takeWhile fun c => !isControl c
    let rest := cs.drop body.length
    if rest.isEmpty || (newLine? rest).isSome then some rest else none
  | cs => some cs

/-- Skips blanks, comments and line ends. -/
def skipLines : Nat → List Char → Option (List Char)
  | 0, cs => some cs
  | fuel + 1, cs => do
    let cs ← skipComment (skipBlanks cs)
    match newLine? cs with
    | some cs => skipLines fuel cs
    | none => some cs

/-- The rest of a line on which nothing more may stand. -/
def endLine (cs : List Char) : Option (List Char) := do
  let cs ← skipComment (skipBlanks cs)
  if cs.isEmpty then some [] else newLine? cs

/-! ### Strings -/

def hexValue (c : Char) : Option Nat :=
  if c.isDigit then some (c.toNat - '0'.toNat)
  else if 'a' ≤ c && c ≤ 'f' then some (c.toNat - 'a'.toNat + 10)
  else if 'A' ≤ c && c ≤ 'F' then some (c.toNat - 'A'.toNat + 10)
  else none

/-- A character by its number in `width` hexadecimal digits. -/
def readCode (width : Nat) (cs : List Char) : Option (Char × List Char) := do
  let ds := cs.take width
  let n ← ds.foldlM (fun n d => (hexValue d).map (16 * n + ·)) 0
  if ds.length = width && (n < 0xd800 || (0xdfff < n && n < 0x110000)) then
    some (Char.ofNat n, cs.drop width)
  else none

/-- What a backslash and the character after it stand for. -/
def readEscape : List Char → Option (Char × List Char)
  | 'b' :: cs => some ('\x08', cs)
  | 't' :: cs => some ('\t', cs)
  | 'n' :: cs => some ('\n', cs)
  | 'f' :: cs => some ('\x0c', cs)
  | 'r' :: cs => some ('\r', cs)
  | 'e' :: cs => some ('\x1b', cs)
  | '"' :: cs => some ('"', cs)
  | '\\' :: cs => some ('\\', cs)
  | 'x' :: cs => readCode 2 cs
  | 'u' :: cs => readCode 4 cs
  | 'U' :: cs => readCode 8 cs
  | _ => none

/-- A string between double quotes, after the opening one. -/
def readBasic : Nat → List Char → List Char → Option (List Char × List Char)
  | 0, _, _ => none
  | _ + 1, _, [] => none
  | fuel + 1, acc, c :: cs =>
    if c = '"' then some (acc.reverse, cs)
    else if c = '\\' then (readEscape cs).bind fun (d, rest) => readBasic fuel (d :: acc) rest
    else if isControl c then none
    else readBasic fuel (c :: acc) cs

/-- A string between single quotes, after the opening one: there are no escapes. -/
def readLiteral (cs : List Char) : Option (List Char × List Char) :=
  let body := cs.takeWhile fun c => c != '\'' && !isControl c
  match cs.drop body.length with
  | '\'' :: rest => some (body, rest)
  | _ => none

/-- Three quotes end a string of several lines; one or two more before them belong to it. -/
def closing? (quote : Char) (cs : List Char) : Option (List Char × List Char) :=
  let n := (cs.takeWhile (· == quote)).length
  if 3 ≤ n && n ≤ 5 then some (List.replicate (n - 3) quote, cs.drop n) else none

/-- A backslash at the end of a line drops all white space up to the next character. -/
def lineContinuation? (cs : List Char) : Option (List Char) :=
  (newLine? (skipBlanks cs)).map fun rest =>
    rest.dropWhile fun c => c == ' ' || c == '\t' || c == '\n' || c == '\r'

/-- A string of several lines, after its opening. -/
def readLines (quote : Char) : Nat → List Char → List Char → Option (List Char × List Char)
  | 0, _, _ => none
  | _ + 1, _, [] => none
  | fuel + 1, acc, c :: cs =>
    match closing? quote (c :: cs), newLine? (c :: cs) with
    | some (own, rest), _ => some (acc.reverse ++ own, rest)
    | none, some rest => readLines quote fuel ('\n' :: acc) rest
    | none, none =>
      if c = '\\' && quote = '"' then
        match lineContinuation? cs with
        | some rest => readLines quote fuel acc rest
        | none => (readEscape cs).bind fun (d, rest) => readLines quote fuel (d :: acc) rest
      else if isControl c || (c = quote && (cs.takeWhile (· == quote)).length > 1) then none
      else readLines quote fuel (c :: acc) cs

/-- A string of any kind. -/
def readString (cs : List Char) : Option (List Char × List Char) :=
  match cs with
  | '"' :: '"' :: '"' :: rest => readLines '"' (rest.length + 1) [] ((newLine? rest).getD rest)
  | '\'' :: '\'' :: '\'' :: rest => readLines '\'' (rest.length + 1) [] ((newLine? rest).getD rest)
  | '"' :: rest => readBasic (rest.length + 1) [] rest
  | '\'' :: rest => readLiteral rest
  | _ => none

/-! ### Keys -/

def isKeyChar (c : Char) : Bool := c.isAlphanum || c == '_' || c == '-'

/-- One part of a key. -/
def readKeyPart (cs : List Char) : Option (String × List Char) :=
  match cs with
  | '"' :: rest => (readBasic (rest.length + 1) [] rest).map fun (k, r) => (String.ofList k, r)
  | '\'' :: rest => (readLiteral rest).map fun (k, r) => (String.ofList k, r)
  | _ =>
    let word := cs.takeWhile isKeyChar
    if word.isEmpty then none else some (String.ofList word, cs.drop word.length)

/-- A key, with dots between its parts. -/
def readKey : Nat → List Char → Option (List String × List Char)
  | 0, _ => none
  | fuel + 1, cs => do
    let (part, rest) ← readKeyPart (skipBlanks cs)
    match skipBlanks rest with
    | '.' :: rest =>
      let (parts, rest) ← readKey fuel rest
      some (part :: parts, rest)
    | rest => some ([part], rest)

/-! ### Values -/

mutual

def readValue : Nat → List Char → Option (Value × List Char)
  | 0, _ => none
  | fuel + 1, cs =>
    match cs with
    | '"' :: _ => (readString cs).map fun (s, r) => (.string (String.ofList s), r)
    | '\'' :: _ => (readString cs).map fun (s, r) => (.string (String.ofList s), r)
    | '[' :: rest => readItems fuel [] rest
    | '{' :: rest => readFields fuel [] rest
    | _ =>
      let (word, rest) := Scalar.word cs
      if Scalar.isScalar word then some (.scalar, rest) else none

/-- The items of an array up to its end. -/
def readItems : Nat → List Value → List Char → Option (Value × List Char)
  | 0, _, _ => none
  | fuel + 1, items, cs =>
    match skipLines (cs.length + 1) cs with
    | none => none
    | some (']' :: rest) => some (.array items, rest)
    | some cs =>
      match readValue fuel cs with
      | none => none
      | some (v, rest) =>
        match skipLines (rest.length + 1) rest with
        | some (',' :: rest) => readItems fuel (items ++ [v]) rest
        | some (']' :: rest) => some (.array (items ++ [v]), rest)
        | _ => none

/-- The fields of a table between braces up to its end. -/
def readFields : Nat → Fields → List Char → Option (Value × List Char)
  | 0, _, _ => none
  | fuel + 1, fields, cs =>
    match skipLines (cs.length + 1) cs with
    | none => none
    | some ('}' :: rest) => some (.table .inline fields, rest)
    | some cs =>
      match readField fuel cs with
      | none => none
      | some (key, v, rest) =>
        match fields.add v key, skipLines (rest.length + 1) rest with
        | some fields, some (',' :: rest) => readFields fuel fields rest
        | some fields, some ('}' :: rest) => some (.table .inline fields, rest)
        | _, _ => none

/-- A key and its value. -/
def readField : Nat → List Char → Option (List String × Value × List Char)
  | 0, _ => none
  | fuel + 1, cs =>
    match readKey (cs.length + 1) cs with
    | some (key, '=' :: rest) =>
      (readValue fuel (skipBlanks rest)).map fun (v, rest) => (key, v, rest)
    | _ => none

end

/-! ### Documents -/

/-- Keys and values up to the next header or to the end of the text. -/
def readSection : Nat → Fields → List Char → Option (Fields × List Char)
  | 0, _, _ => none
  | fuel + 1, fields, cs => do
    let cs ← skipLines (cs.length + 1) cs
    if cs.isEmpty || cs.head? == some '[' then some (fields, cs)
    else
      let (key, v, rest) ← readField (cs.length + 4) cs
      let fields ← fields.add v key
      readSection fuel fields (← endLine rest)

/-- The path in a header, with as many closing brackets as there are opening ones. -/
def readHeader (double : Bool) (cs : List Char) : Option (List String × List Char) := do
  let (key, rest) ← readKey (cs.length + 1) cs
  match rest, double with
  | ']' :: rest, false => (endLine rest).map (key, ·)
  | ']' :: ']' :: rest, true => (endLine rest).map (key, ·)
  | _, _ => none

/-- The table that a header opens: a new one, or one that longer headers have passed through. -/
def opened (double : Bool) : Option Value → Option Fields
  | none => some []
  | some (.table .implied fields) => if double then none else some fields
  | some (.tables _) => if double then some [] else none
  | some _ => none

/-- What stands at a header's path after its section has been read. -/
def closed (double : Bool) (fields : Fields) : Option Value → Option Value
  | some (.tables ts) => if double then some (.tables (ts ++ [fields])) else none
  | _ => some (if double then .tables [fields] else .table .header fields)

/-- What stands at a header's path. -/
def valueAt : List String → Fields → Option Value
  | [], _ => none
  | [key], fs => fs.get? key
  | key :: keys, fs =>
    match fs.get? key with
    | some (.table _ sub) => valueAt keys sub
    | some (.tables ts) => valueAt keys (ts.getLast?.getD [])
    | _ => none

/-- Headers and their sections up to the end of the text. -/
def readSections : Nat → Fields → List Char → Option Fields
  | 0, _, _ => none
  | _ + 1, root, [] => some root
  | fuel + 1, root, cs => do
    let double := ['[', '['].isPrefixOf cs
    let (path, rest) ← readHeader double (cs.drop (if double then 2 else 1))
    let start ← opened double (valueAt path root)
    let (fields, rest) ← readSection (rest.length + 1) start rest
    let root ← root.alter (closed double fields) path
    readSections fuel root rest

/-- The table that a text describes, if it is well formed. A byte order mark may open the text. -/
def ofText? (text : List Char) : Option Fields := do
  let text := if text.head? == some '\ufeff' then text.drop 1 else text
  let (root, rest) ← readSection (text.length + 1) [] text
  readSections (rest.length + 1) root rest

end MathProg.Toml
