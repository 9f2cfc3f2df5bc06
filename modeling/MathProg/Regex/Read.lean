import MathProg.Regex.Basic

/-!
The written form of regular expressions. A reader takes the rest of the pattern and answers with
what it read and what is left, or with nothing if the pattern is not well formed.
-/

namespace MathProg.Regex

/-- Settings that a pattern switches on and off. -/
structure Flags where
  anyCase : Bool
  multiLine : Bool
  dotAll : Bool
  spaced : Bool
  unicode : Bool
  deriving DecidableEq, Repr, Inhabited

namespace Flags

def default : Flags := ⟨false, false, false, false, true⟩

/-- Switches one setting; greediness and line ends with carriage returns may be set, and change
nothing here. -/
def set (f : Flags) (on : Bool) : Char → Option Flags
  | 'i' => some { f with anyCase := on }
  | 'm' => some { f with multiLine := on }
  | 's' => some { f with dotAll := on }
  | 'x' => some { f with spaced := on }
  | 'u' => some { f with unicode := on }
  | 'U' | 'R' => some f
  | _ => none

end Flags

/-! ### Parts of characters -/

/-- Skips white space and comments where the pattern may be spread out. -/
def skipSpace (f : Flags) : List Char → List Char
  | [] => []
  | c :: cs =>
    if !f.spaced then c :: cs
    else if isWhiteSpace c then skipSpace f cs
    else if c = '#' then skipLine f cs
    else c :: cs
where
  skipLine (f : Flags) : List Char → List Char
    | [] => []
    | c :: cs => if c = '\n' then skipSpace f cs else skipLine f cs

def hexValue (c : Char) : Option Nat :=
  if c.isDigit then some (c.toNat - '0'.toNat)
  else if 'a' ≤ c && c ≤ 'f' then some (c.toNat - 'a'.toNat + 10)
  else if 'A' ≤ c && c ≤ 'F' then some (c.toNat - 'A'.toNat + 10)
  else none

/-- The character of a hexadecimal number. -/
def charOfHex (ds : List Char) : Option Char := do
  let n ← ds.foldlM (fun n d => (hexValue d).map (16 * n + ·)) 0
  if ds.isEmpty || !(n < 0xd800 || (0xdfff < n && n < 0x110000)) then none else some (Char.ofNat n)

/-- A character by number, after the letter that says how many digits there are; any number of
digits may stand in braces. -/
def readHex (width : Nat) : List Char → Option (Char × List Char)
  | '{' :: cs =>
    let digits := cs.takeWhile (· != '}')
    match cs.drop digits.length with
    | _ :: rest => (charOfHex digits).map (·, rest)
    | [] => none
  | cs =>
    if cs.length < width then none
    else (charOfHex (cs.take width)).map (·, cs.drop width)

/-- Characters with a meaning of their own. -/
def metaChars : List Char := "\\.+*?()|[]\x7b\x7d^$#&-~".toList

/-- Characters that may follow a backslash and stand for themselves. -/
def isEscapable (c : Char) : Bool :=
  metaChars.contains c || (c.toNat < 0x80 && !c.isAlphanum && c != '<' && c != '>')

/-- What a backslash and the character after it stand for. -/
inductive Escape where
  | char (c : Char)
  | set (s : CharSet)
  | place (a : Assertion)

def asciiDigit : CharSet := .ranges [(0x30, 0x39)]
def asciiSpace : CharSet := .ranges [(0x09, 0x0d), (0x20, 0x20)]
def asciiWord : CharSet := .ranges [(0x30, 0x39), (0x41, 0x5a), (0x5f, 0x5f), (0x61, 0x7a)]

/-- The assertions that are written as a name in braces. -/
def namedPlaces : List (String × Assertion) :=
  [("start", .wordStart), ("end", .wordEnd), ("start-half", .wordStartHalf),
    ("end-half", .wordEndHalf)]

/-- A word boundary, perhaps of a special kind. Braces that hold no name are left to be read as a
repetition. -/
def readBoundary (cs : List Char) : Option (Escape × List Char) :=
  match cs with
  | '{' :: rest =>
    let isNameLetter (c : Char) : Bool := c.isAlpha || c == '-'
    if rest.head?.any isNameLetter then
      let word := rest.takeWhile isNameLetter
      match rest.drop word.length with
      | '}' :: rest =>
        (namedPlaces.find? (·.1 == String.ofList word)).map fun (_, a) => (.place a, rest)
      | _ => none
    else some (.place .wordBoundary, cs)
  | _ => some (.place .wordBoundary, cs)

/-- What follows a backslash. -/
def readEscape (f : Flags) : List Char → Option (Escape × List Char)
  | [] => none
  | c :: cs =>
    let perl (unicode ascii : CharSet) (negated : Bool) : Option (Escape × List Char) :=
      let s := if f.unicode then unicode else ascii
      some (.set (if negated then .compl s else s), cs)
    let plain (d : Char) : Option (Escape × List Char) := some (.char d, cs)
    match c with
    | 'x' => (readHex 2 cs).map fun (d, r) => (.char d, r)
    | 'u' => (readHex 4 cs).map fun (d, r) => (.char d, r)
    | 'U' => (readHex 8 cs).map fun (d, r) => (.char d, r)
    | 'd' => perl .digit asciiDigit false
    | 'D' => perl .digit asciiDigit true
    | 's' => perl .space asciiSpace false
    | 'S' => perl .space asciiSpace true
    | 'w' => perl .word asciiWord false
    | 'W' => perl .word asciiWord true
    | 'a' => plain '\x07'
    | 'f' => plain '\x0c'
    | 't' => plain '\t'
    | 'n' => plain '\n'
    | 'r' => plain '\r'
    | 'v' => plain '\x0b'
    | 'A' => some (.place .textStart, cs)
    | 'z' => some (.place .textEnd, cs)
    | 'b' => readBoundary cs
    | 'B' => some (.place .noWordBoundary, cs)
    | '<' => some (.place .wordStart, cs)
    | '>' => some (.place .wordEnd, cs)
    | _ => if isEscapable c then plain c else none

/-- A set with regard to the setting for case. -/
def caseSet (f : Flags) (s : CharSet) : CharSet := if f.anyCase then .anyCase s else s

/-! ### Bracket expressions -/

/-- The classes that are written as a name between colons. -/
def asciiClasses : List (String × List (Nat × Nat)) :=
  [("alnum", [(0x30, 0x39), (0x41, 0x5a), (0x61, 0x7a)]), ("alpha", [(0x41, 0x5a), (0x61, 0x7a)]),
    ("ascii", [(0, 0x7f)]), ("blank", [(0x09, 0x09), (0x20, 0x20)]),
    ("cntrl", [(0, 0x1f), (0x7f, 0x7f)]), ("digit", [(0x30, 0x39)]), ("graph", [(0x21, 0x7e)]),
    ("lower", [(0x61, 0x7a)]), ("print", [(0x20, 0x7e)]),
    ("punct", [(0x21, 0x2f), (0x3a, 0x40), (0x5b, 0x60), (0x7b, 0x7e)]),
    ("space", [(0x09, 0x0d), (0x20, 0x20)]), ("upper", [(0x41, 0x5a)]),
    ("word", [(0x30, 0x39), (0x41, 0x5a), (0x5f, 0x5f), (0x61, 0x7a)]),
    ("xdigit", [(0x30, 0x39), (0x41, 0x46), (0x61, 0x66)])]

/-- A class such as `:alpha:`, after the opening bracket. -/
def readAsciiClass (f : Flags) : List Char → Option (CharSet × List Char)
  | ':' :: cs =>
    let negated := cs.head? == some '^'
    let cs := if negated then cs.drop 1 else cs
    let word := cs.takeWhile fun c => c != ':'
    match cs.drop word.length with
    | ':' :: ']' :: rest =>
      (asciiClasses.find? (·.1 == String.ofList word)).map fun (_, rs) =>
        let s := caseSet f (.ranges rs)
        (if negated then .compl s else s, rest)
    | _ => none
  | _ => none

/-- One item of a bracket expression: a character, or a whole class. -/
def readItem (f : Flags) : List Char → Option ((Char ⊕ CharSet) × List Char)
  | [] => none
  | '\\' :: cs =>
    match readEscape f cs with
    | some (.char c, rest) => some (.inl c, rest)
    | some (.set s, rest) => some (.inr s, rest)
    | _ => none
  | c :: cs => some (.inl c, cs)

/-- A character, a range or a class. -/
def readRange (f : Flags) (cs : List Char) : Option (CharSet × List Char) := do
  let (first, rest) ← readItem f cs
  let rest := skipSpace f rest
  let alone : CharSet := match first with
    | .inl c => caseSet f (.single c)
    | .inr s => caseSet f s
  match rest with
  | [] => none
  | '-' :: after =>
    let after := skipSpace f after
    if after.head? == some ']' || after.head? == some '-' then some (alone, rest)
    else
      let (last, rest) ← readItem f after
      match first, last with
      | .inl a, .inl b =>
        if a ≤ b then some (caseSet f (.ranges [(a.toNat, b.toNat)]), rest) else none
      | _, _ => none
  | _ => some (alone, rest)

/-- How two sets in a bracket expression are combined. -/
abbrev SetOperation := CharSet → CharSet → CharSet

/-- Hyphens and a closing bracket that open a bracket expression stand for themselves. -/
def readOpening (f : Flags) (cs : List Char) : List Char × List Char :=
  let hyphens := cs.takeWhile (· == '-')
  let rest := skipSpace f (cs.drop hyphens.length)
  match hyphens, rest with
  | [], ']' :: rest => ([']'], skipSpace f rest)
  | _, _ => (hyphens, rest)

/-- The items of a bracket expression up to its end. `left` waits with its operation for the set
that is being collected. -/
def readSet (f : Flags) : Nat → Option (CharSet × SetOperation) → CharSet → List Char →
    Option (CharSet × List Char)
  | 0, _, _, _ => none
  | fuel + 1, left, items, cs =>
    let done (s : CharSet) : CharSet := left.elim s fun (l, op) => op l s
    let combine (op : SetOperation) (rest : List Char) :=
      readSet f fuel (some (done items, op)) .none rest
    match skipSpace f cs with
    | [] => none
    | ']' :: rest => some (done items, rest)
    | '&' :: '&' :: rest => combine .inter rest
    | '-' :: '-' :: rest => combine .diff rest
    | '~' :: '~' :: rest => combine .symmDiff rest
    | '[' :: rest =>
      match readAsciiClass f rest with
      | some (s, rest) => readSet f fuel left (.union items s) rest
      | none =>
        match readNested fuel rest with
        | some (s, rest) => readSet f fuel left (.union items s) rest
        | none => none
    | c :: rest =>
      match readRange f (c :: rest) with
      | some (s, rest) => readSet f fuel left (.union items s) rest
      | none => none
where
  /-- A bracket expression after its opening bracket. -/
  readNested : Nat → List Char → Option (CharSet × List Char)
    | 0, _ => none
    | fuel + 1, cs =>
      let cs := skipSpace f cs
      let negated := cs.head? == some '^'
      let cs := if negated then skipSpace f (cs.drop 1) else cs
      let (own, rest) := readOpening f cs
      let opening : CharSet := own.foldl (fun s c => .union s (caseSet f (.single c))) .none
      (readSet f fuel none opening rest).map fun (s, rest) =>
        (if negated then .compl s else s, rest)

/-! ### Repetitions -/

/-- The largest count that can be written. -/
def maxCount : Nat := 4294967295

/-- A decimal number, white space around it allowed. -/
def readCount (cs : List Char) : Option (Nat × List Char) :=
  let cs := cs.dropWhile isWhiteSpace
  let digits := cs.takeWhile Char.isDigit
  let n := digits.foldl (fun n d => 10 * n + (d.toNat - '0'.toNat)) 0
  if digits.isEmpty || n > maxCount then none
  else some (n, (cs.drop digits.length).dropWhile isWhiteSpace)

/-- A counted repetition after its opening brace. -/
def readCounts (f : Flags) (cs : List Char) : Option ((Nat × Option Nat) × List Char) := do
  let (least, rest) ← readCount (skipSpace f cs)
  match rest with
  | '}' :: rest => some ((least, some least), rest)
  | ',' :: rest =>
    match skipSpace f rest with
    | '}' :: rest => some ((least, none), rest)
    | rest =>
      let (most, rest) ← readCount rest
      match rest with
      | '}' :: rest => if least ≤ most then some ((least, some most), rest) else none
      | _ => none
  | _ => none

/-- A repetition of what stands before it. -/
def readRepetition (f : Flags) : List Char → Option ((Nat × Option Nat) × List Char)
  | '?' :: cs => some ((0, some 1), cs)
  | '*' :: cs => some ((0, none), cs)
  | '+' :: cs => some ((1, none), cs)
  | '{' :: cs => readCounts f cs
  | _ => none

/-! ### Groups -/

/-- Letters of settings up to a colon or a closing parenthesis. Answers with the settings and
whether any letter was given. -/
def readFlags : Flags → Bool → List Char → List Char → Option (Flags × Bool × List Char)
  | _, _, _, [] => none
  | f, on, seen, c :: cs =>
    if c = ')' || c = ':' then
      if seen.getLast? == some '-' then none else some (f, !seen.isEmpty, c :: cs)
    else if seen.contains c then none
    else if c = '-' then readFlags f false (seen ++ [c]) cs
    else (f.set on c).bind fun f => readFlags f on (seen ++ [c]) cs

/-- The name of a group, up to the closing angle bracket. -/
def readGroupName (cs : List Char) : Option (List Char × List Char) :=
  let name := cs.takeWhile (· != '>')
  let isFirst (c : Char) : Bool := c == '_' || CharSet.isWordChar c && !c.isDigit
  let isNext (c : Char) : Bool := CharSet.isWordChar c || c == '.' || c == '[' || c == ']'
  match name, cs.drop name.length with
  | c :: rest, _ :: after => if isFirst c && rest.all isNext then some (name, after) else none
  | _, _ => none

/-- How a group begins: with settings for its own inside; or it is no group but settings for what
follows. The names of groups are collected. -/
inductive Opening where
  | group (inside : Flags)
  | settings (flags : Flags)

def readGroup (f : Flags) (names : List (List Char)) :
    List Char → Option (Opening × List (List Char) × List Char)
  | '?' :: 'P' :: '<' :: cs => named cs
  | '?' :: '<' :: cs => if cs.head? == some '=' || cs.head? == some '!' then none else named cs
  | '?' :: cs => do
    let (flags, given, rest) ← readFlags f true [] cs
    match rest with
    | ':' :: rest => some (.group flags, names, rest)
    | _ :: rest => if given then some (.settings flags, names, rest) else none
    | [] => none
  | cs => some (.group f, names, cs)
where
  named (cs : List Char) : Option (Opening × List (List Char) × List Char) :=
    (readGroupName cs).bind fun (name, rest) =>
      if names.contains name then none else some (.group f, name :: names, rest)

/-! ### Expressions -/

/-- A sequence that is being read: what is complete of it, and what the next repetition applies to.
After settings there is nothing to repeat. -/
structure Sequence where
  before : List Regex
  last : Option Regex

namespace Sequence

def start : Sequence := ⟨[], none⟩

def add (p : Sequence) (r : Regex) : Sequence := ⟨p.before ++ p.last.toList, some r⟩

def close (p : Sequence) : Sequence := ⟨p.before ++ p.last.toList, none⟩

def toRegex (p : Sequence) : Regex := ofList (p.before ++ p.last.toList)

end Sequence

def dot (f : Flags) : Regex :=
  .chars (if f.dotAll then .full else .compl (.single '\n'))

def ofEscape (f : Flags) : Escape → Regex
  | .char c => .chars (caseSet f (.single c))
  | .set s => .chars (caseSet f s)
  | .place a => .assert a

/-- Reads alternatives up to the end of the pattern or of the group: `left` are those that are
complete, `p` is the one that is being read. Answers with the names of groups seen so far as
well. -/
def readAlternatives : Nat → Nat → Flags → List (List Char) → List Regex → Sequence → List Char →
    Option (Regex × List (List Char) × List Char)
  | 0, _, _, _, _, _, _ => none
  | fuel + 1, depth, f, names, left, p, cs =>
    let result : Regex := left.foldr .alt p.toRegex
    let go (f : Flags) (names : List (List Char)) (p : Sequence) (cs : List Char) :=
      readAlternatives fuel depth f names left p cs
    match skipSpace f cs with
    | [] => if depth = 0 then some (result, names, []) else none
    | ')' :: rest => if depth = 0 then none else some (result, names, rest)
    | '|' :: rest => readAlternatives fuel depth f names (left ++ [p.toRegex]) .start rest
    | '(' :: rest =>
      match readGroup f names rest with
      | none => none
      | some (.settings flags, names, rest) => go flags names p.close rest
      | some (.group inside, names, rest) =>
        match readAlternatives fuel (depth + 1) inside names [] .start rest with
        | some (r, names, rest) => go f names (p.add r) rest
        | none => none
    | '[' :: rest =>
      match readSet.readNested f fuel rest with
      | some (s, rest) => go f names (p.add (.chars s)) rest
      | none => none
    | '\\' :: rest =>
      match readEscape f rest with
      | some (e, rest) => go f names (p.add (ofEscape f e)) rest
      | none => none
    | '.' :: rest => go f names (p.add (dot f)) rest
    | '^' :: rest =>
      go f names (p.add (.assert (if f.multiLine then .lineStart else .textStart))) rest
    | '$' :: rest => go f names (p.add (.assert (if f.multiLine then .lineEnd else .textEnd))) rest
    | c :: rest =>
      if c = '?' || c = '*' || c = '+' || c = '{' then
        match p.last, readRepetition f (c :: rest) with
        | some r, some ((least, most), rest) =>
          let rest := skipSpace f rest
          let rest := if rest.head? == some '?' then rest.drop 1 else rest
          if r.isRepeatable least most then
            go f names ⟨p.before, some (r.repeated least most)⟩ rest
          else none
        | _, _ => none
      else go f names (p.add (.chars (caseSet f (.single c)))) rest

/-- The expression that a pattern stands for, if it is well formed. -/
def ofPattern? (pattern : List Char) : Option Regex :=
  (readAlternatives (2 * pattern.length + 2) 0 .default [] [] .start pattern).map (·.1)

end MathProg.Regex
