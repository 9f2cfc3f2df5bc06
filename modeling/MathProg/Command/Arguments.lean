/-!
The arguments of the command line: a subcommand with its files and options, in any order that keeps
each value next to its option.
-/

namespace MathProg.Command

/-- How trees are printed. -/
inductive Format where
  | sexp
  | json
  deriving DecidableEq, Repr, Inhabited

/-- What is to be done. -/
inductive Task where
  | parse (files : List String) (format : Format)
  | check (files : List String)
  | highlight (file : String)
  | info
  | version
  | help
  deriving DecidableEq, Repr, Inhabited

/-- The files that a task reads. -/
def Task.files : Task → List String
  | parse files _ => files
  | check files => files
  | highlight file => [file]
  | info | version | help => []

/-- Why the arguments make no sense. -/
inductive UsageError where
  | noArguments
  | noCommand
  | unknownCommand (arg : String)
  | unexpected (arg : String)
  | needlessValue (value option : String)
  | filesMissing
  | emptyFile (placeholder : String)
  | formatMissing
  | formatTwice
  | badFormat (value : String)
  deriving DecidableEq, Repr, Inhabited

namespace UsageError

/-- The option for the format as messages name it. -/
def formatOption : String := "--format <FORMAT>"

/-- The message, if there is one: without any arguments the usage is shown instead. -/
def message : UsageError → Option String
  | noArguments => none
  | noCommand => some "'mathprog' requires a subcommand but one was not provided"
  | unknownCommand arg => some ("unrecognized subcommand '" ++ arg ++ "'")
  | unexpected arg => some ("unexpected argument '" ++ arg ++ "' found")
  | needlessValue value option =>
    some ("unexpected value '" ++ value ++ "' for '" ++ option ++ "' found; no more were expected")
  | filesMissing => some "the following required arguments were not provided:"
  | emptyFile placeholder =>
    some ("a value is required for '" ++ placeholder ++ "' but none was supplied")
  | formatMissing => some ("a value is required for '" ++ formatOption ++ "' but none was supplied")
  | formatTwice => some ("the argument '" ++ formatOption ++ "' cannot be used multiple times")
  | badFormat value => some ("invalid value '" ++ value ++ "' for '" ++ formatOption ++ "'")

end UsageError

/-! ### Words -/

/-- What an argument looks like. A lone hyphen is an ordinary word. -/
inductive Word where
  | escape
  | long (name : String) (value : Option String)
  | short (letters : List Char)
  | plain (word : String)

/-- Splits the value off a long option. -/
def splitValue (body : List Char) : String × Option String :=
  let name := body.takeWhile (· != '=')
  match body.drop name.length with
  | [] => (String.ofList name, none)
  | _ :: value => (String.ofList name, some (String.ofList value))

def Word.ofArg (arg : String) : Word :=
  match arg.toList with
  | ['-', '-'] => .escape
  | '-' :: '-' :: body => let (name, value) := splitValue body; .long name value
  | '-' :: c :: cs => .short (c :: cs)
  | _ => .plain arg

/-! ### Arguments of a subcommand -/

/-- How many files a subcommand takes. -/
inductive Arity where
  | none
  | one
  | many
  deriving DecidableEq, Repr, Inhabited

/-- What a subcommand takes. -/
structure Shape where
  files : Arity
  format : Bool

/-- The name that messages give the files. -/
def Shape.placeholder (s : Shape) : String :=
  if s.files = .many then "<FILE>..." else "<FILE>"

/-- Values that were read and not looked at yet. -/
inductive Waiting where
  | nothing
  | format (value : Option String)
  | files (names : List String)

/-- What is known after some of the arguments. -/
structure Progress where
  waiting : Waiting
  files : List String
  format : Option Format

def formatOf (value : String) : Except UsageError Format :=
  if value = "sexp" then .ok .sexp
  else if value = "json" then .ok .json
  else if value = "" then .error .formatMissing
  else .error (.badFormat value)

/-- Takes a format; there may be one only, whatever its value. -/
def Progress.takeFormat (p : Progress) (value : String) : Except UsageError Progress :=
  if p.format.isSome then .error .formatTwice
  else (formatOf value).map fun f => { p with format := some f }

/-- Looks at the values that wait. -/
def Progress.settle (s : Shape) (p : Progress) : Except UsageError Progress :=
  match p.waiting with
  | .nothing => .ok p
  | .format none => .error .formatMissing
  | .format (some value) => { p with waiting := .nothing }.takeFormat value
  | .files names =>
    if names.contains "" then .error (.emptyFile s.placeholder)
    else .ok { p with waiting := .nothing, files := p.files ++ names }

/-- Takes a word that is a file. A second file, where only one may be, is in excess. -/
def Progress.takeFile (s : Shape) (p : Progress) (name : String) : Except UsageError Progress :=
  match s.files, p.waiting with
  | .none, _ => .error (.unexpected name)
  | .one, .files _ => .error (.unexpected name)
  | .many, .files names => .ok { p with waiting := .files (names ++ [name]) }
  | arity, _ =>
    if arity = .one && !p.files.isEmpty then .error (.unexpected name)
    else (p.settle s).map fun p => { p with waiting := .files [name] }

/-- What an option leads to: more arguments, or an end to reading them. -/
inductive Step where
  | next (p : Progress)
  | stop (task : Task)

/-- The letters of short options. The rest of a word is the value of the option for the format,
with or without an equals sign. -/
def readShort (s : Shape) (top : Bool) : List Char → Progress → Except UsageError Step
  | [], p => .ok (.next p)
  | c :: cs, p =>
    if c = 'v' then
      match p.settle s with
      | .ok p => readShort s top cs p
      | .error e => .error e
    else if c = 'h' then (p.settle s).map fun _ => .stop .help
    else if c = 'V' && top then (p.settle s).map fun _ => .stop .version
    else if c = 'f' && s.format then
      match p.settle s, cs with
      | .error e, _ => .error e
      | .ok p, [] => .ok (.next { p with waiting := .format none })
      | .ok p, d :: ds =>
        (p.takeFormat (String.ofList (if d = '=' then ds else d :: ds))).map .next
    else .error (.unexpected (String.ofList ['-', c]))

/-- A long option. -/
def readLong (s : Shape) (top : Bool) (name : String) (value : Option String) (p : Progress) :
    Except UsageError Step :=
  let flag (shown : String) (step : Progress → Step) : Except UsageError Step :=
    match value with
    | some v => .error (.needlessValue v shown)
    | none => (p.settle s).map step
  if name = "verbose" then flag "--verbose..." .next
  else if name = "help" then flag "--help" fun _ => .stop .help
  else if name = "version" && top then flag "--version" fun _ => .stop .version
  else if name = "format" && s.format then
    match p.settle s, value with
    | .error e, _ => .error e
    | .ok p, none => .ok (.next { p with waiting := .format none })
    | .ok p, some v => (p.takeFormat v).map .next
  else .error (.unexpected ("--" ++ name))

/-- Reads the arguments of a subcommand. After two hyphens all words are files. -/
def readArguments (s : Shape) : Bool → List String → Progress → Except UsageError (Progress ⊕ Task)
  | _, [], p => (p.settle s).map .inl
  | true, arg :: args, p =>
    match p.takeFile s arg with
    | .ok p => readArguments s true args p
    | .error e => .error e
  | false, arg :: args, p =>
    match Word.ofArg arg with
    | .escape => readArguments s true args p
    | .long name value =>
      match readLong s false name value p with
      | .ok (.next p) => readArguments s false args p
      | .ok (.stop task) => .ok (.inr task)
      | .error e => .error e
    | .short letters =>
      match readShort s false letters p with
      | .ok (.next p) => readArguments s false args p
      | .ok (.stop task) => .ok (.inr task)
      | .error e => .error e
    | .plain word =>
      match p.waiting with
      | .format none => readArguments s false args { p with waiting := .format (some word) }
      | _ =>
        match p.takeFile s word with
        | .ok p => readArguments s false args p
        | .error e => .error e

/-! ### The whole line -/

def parseShape : Shape := ⟨.many, true⟩
def checkShape : Shape := ⟨.many, false⟩
def highlightShape : Shape := ⟨.one, false⟩
def infoShape : Shape := ⟨.none, false⟩

/-- Reads a subcommand's arguments and makes the task of its files and format. -/
def readTask (s : Shape) (args : List String) (task : List String → Format → Task) :
    Except UsageError Task :=
  match readArguments s false args ⟨.nothing, [], none⟩ with
  | .error e => .error e
  | .ok (.inr t) => .ok t
  | .ok (.inl p) =>
    if s.files ≠ .none ∧ p.files.isEmpty then .error .filesMissing
    else .ok (task p.files (p.format.getD .sexp))

/-- The names of the subcommands. -/
def subcommands : List String := ["parse", "check", "highlight", "info", "help"]

/-- Help is given on a subcommand, if one is named, and subcommands have none of their own. -/
def readHelp : List String → Except UsageError Task
  | [] => .ok .help
  | name :: rest =>
    if !subcommands.contains name then .error (.unknownCommand name)
    else match rest with
      | [] => .ok .help
      | arg :: _ => .error (.unknownCommand arg)

/-- The task that a subcommand stands for. -/
def subcommand? (name : String) (args : List String) : Option (Except UsageError Task) :=
  match name with
  | "parse" => some (readTask parseShape args .parse)
  | "check" => some (readTask checkShape args fun files _ => .check files)
  | "highlight" => some (readTask highlightShape args fun files _ => .highlight (files.headD ""))
  | "info" => some (readTask infoShape args fun _ _ => .info)
  | "help" => some (readHelp args)
  | _ => none

/-- Reads what stands before the subcommand. -/
def readTop : Bool → Bool → List String → Except UsageError Task
  | _, seen, [] => .error (if seen then .noCommand else .noArguments)
  | true, _, arg :: args =>
    .error (if (subcommand? arg args).isSome then .unexpected arg else .unknownCommand arg)
  | false, seen, arg :: args =>
    match subcommand? arg args with
    | some task => task
    | none =>
      match Word.ofArg arg with
      | .escape => readTop true seen args
      | .plain word => .error (.unknownCommand word)
      | .long name value =>
        match readLong infoShape true name value ⟨.nothing, [], none⟩ with
        | .ok (.next _) => readTop false true args
        | .ok (.stop task) => .ok task
        | .error e => .error e
      | .short letters =>
        match readShort infoShape true letters ⟨.nothing, [], none⟩ with
        | .ok (.next _) => readTop false true args
        | .ok (.stop task) => .ok task
        | .error e => .error e

/-- The task that a command line stands for. -/
def Task.ofArgs (args : List String) : Except UsageError Task := readTop false false args

end MathProg.Command
