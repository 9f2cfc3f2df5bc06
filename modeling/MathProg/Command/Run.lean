import MathProg.Command.Arguments
import MathProg.Command.Folder
import MathProg.Config
import MathProg.Node.Outline
import MathProg.Session
import MathProg.Text.Quoted

/-!
What the subcommands print, and how they end.
-/

namespace MathProg.Command

/-- Why a task could not be carried out. -/
inductive Failure where
  | unreadable (file : String) (e : ReadError)
  | noGrammar (e : LanguageError)
  | refused (e : Refusal)
  deriving DecidableEq, Repr, Inhabited

/-- The message, with its cause on lines of its own. -/
def Failure.message : Failure → String
  | unreadable file e => "Error: failed to read " ++ file ++ "\n\nCaused by:\n    " ++ e.message
  | noGrammar e => "Error: Error loading Mathprog grammar\n\nCaused by:\n    " ++ e.message
  | refused e => "Error: " ++ e.message

/-- What a task printed, and how it ended: well or not, or in a failure. -/
structure Outcome where
  printed : String
  result : Except Failure Bool

/-- Where the texts of files come from. -/
abbrev Reader := String → Except ReadError (List Char)

/-- What the program finds where it runs: the files, and the runtime that its parser reads with. -/
structure Host where
  files : Reader
  runtime : Runtime

/-- Reads a file with the parser at hand, which is there again afterwards. -/
def parseFile (h : Host) (s : Session) (file : String) : Session × Except Failure Document :=
  match h.files file with
  | .error e => (s, .error (.unreadable file e))
  | .ok source =>
    let (s, d) := s.read h.runtime source
    (s, d.mapError .refused)

/-! ### The block of one file -/

def sexpBlock (several : Bool) (file : String) (d : Document) : String :=
  (if several then file ++ "\n" else "") ++ d.root.sexp ++ "\n"

def jsonBlock (file : String) (d : Document) : String :=
  let doc : Json := .object [("file", .string file), ("root", d.root.toJson),
    ("errors", .array (d.errors.map SyntaxError.toJson))]
  doc.sorted.pretty 0 ++ "\n"

def errorLine (file : String) (e : SyntaxError) : String :=
  file ++ ":" ++ e.location ++ ": " ++ e.message ++ "\n"

def checkBlock (file : String) (d : Document) : String :=
  String.join (d.errors.map (errorLine file))

def highlightLine (h : Highlight) : String :=
  toString h.start ++ ".." ++ toString h.stop ++ " " ++ h.scope.name ++ " "
    ++ String.ofList (Quoted.quote h.text) ++ "\n"

def highlightBlock (d : Document) : String := String.join (d.highlights.map highlightLine)

/-! ### Tasks -/

/-- Goes through the files in order, with one parser for all of them. What was printed stays, if a
file cannot be read. -/
def goThrough (h : Host) (block : String → Document → String) (isGood : Document → Bool) :
    Session → List String → Outcome
  | _, [] => ⟨"", .ok true⟩
  | s, file :: files =>
    match parseFile h s file with
    | (_, .error e) => ⟨"", .error e⟩
    | (s, .ok d) =>
      let rest := goThrough h block isGood s files
      ⟨block file d ++ rest.printed, rest.result.map (isGood d && ·)⟩

/-- Makes a parser, and goes through the files with it. -/
def overFiles (h : Host) (block : String → Document → String) (isGood : Document → Bool)
    (files : List String) : Outcome :=
  match Session.ready with
  | .ok s => goThrough h block isGood s files
  | .error e => ⟨"", .error (.noGrammar e)⟩

/-- The lines that describe the language. -/
def infoText (l : Language) (c : Config) : String :=
  "name: " ++ l.name.getD Language.grammarName ++ "\n"
    ++ "grammar: " ++ c.grammarName ++ "\n"
    ++ "scope: " ++ c.scope ++ "\n"
    ++ "abi version: " ++ toString l.version ++ "\n"
    ++ "node kinds: " ++ toString l.kindCount ++ "\n"
    ++ "file types: " ++ ", ".intercalate c.fileTypes ++ "\n"

def versionText : String := "mathprog 0.3.0\n"

def helpText : String :=
  "Parse and inspect GNU MathProg models\n\nUsage: mathprog [OPTIONS] <COMMAND>\n"

def Task.run (h : Host) : Task → Outcome
  | .parse files .sexp => overFiles h (sexpBlock (files.length > 1)) (fun _ => true) files
  | .parse files .json => overFiles h jsonBlock (fun _ => true) files
  | .check files => overFiles h checkBlock (·.errors.isEmpty) files
  | .highlight file => overFiles h (fun _ => highlightBlock) (fun _ => true) [file]
  | .info =>
    ⟨match Config.builtIn with
      | .ok c => infoText Language.mathprog c
      | .error _ => "", .ok true⟩
  | .version => ⟨versionText, .ok true⟩
  | .help => ⟨helpText, .ok true⟩

/-- What a caller of the program sees: the exit code, the output, and the message on the other
channel. -/
structure Exit where
  code : Nat
  output : String
  message : Option String
  deriving DecidableEq, Repr, Inhabited

/-- The code is 1 for findings and failures and 2 for arguments that make no sense. -/
def runOn (h : Host) (args : List String) : Exit :=
  match Task.ofArgs args with
  | .error e => ⟨2, "", e.message⟩
  | .ok task =>
    let o := task.run h
    match o.result with
    | .ok good => ⟨if good then 0 else 1, o.printed, none⟩
    | .error e => ⟨1, o.printed, some e.message⟩

/-- The program with the parser of this library. -/
def run (read : Reader) (args : List String) : Exit := runOn ⟨read, .builtIn⟩ args

end MathProg.Command
