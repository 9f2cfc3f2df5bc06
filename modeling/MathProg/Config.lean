import MathProg.Regex.Read
import MathProg.Text.FileName
import MathProg.Toml.Read

/-!
What editors want to know of the language: its names, its files, its comments, and how it is named
where it is embedded in other texts.
-/

namespace MathProg

/-- What opens and what closes a block comment. -/
structure BlockComment where
  opening : String
  closing : String
  deriving DecidableEq, Repr, Inhabited

structure Config where
  name : String
  grammar : Option String
  scope : String
  fileTypes : List String
  commentTokens : List String
  blockComment : Option BlockComment
  /-- The pattern for names of the language in other texts, and the expression that it stands
  for. -/
  injection : Option (String × Regex)
  deriving Repr, Inhabited

/-- Why a configuration cannot be used. -/
inductive ConfigError where
  | malformed
  | badPattern
  deriving DecidableEq, Repr, Inhabited

namespace Config

open Toml (Value Fields)

def stringOf : Value → Option String
  | .string s => some s
  | _ => none

def stringsOf : Value → Option (List String)
  | .array items => items.mapM stringOf
  | _ => none

def fieldsOf : Value → Option Fields
  | .table _ fields => some fields
  | _ => none

/-- A block comment is a table, or its two texts in an array. -/
def blockCommentOf : Value → Option BlockComment
  | .array (a :: b :: _) => do return ⟨← stringOf a, ← stringOf b⟩
  | v => do
    let fields ← fieldsOf v
    return ⟨← (fields.get? "start").bind stringOf, ← (fields.get? "end").bind stringOf⟩

/-- A key that may be left out. -/
def optional (read : Value → Option α) (fields : Fields) (key : String) : Option (Option α) :=
  match fields.get? key with
  | none => some none
  | some v => (read v).map some

/-- The configuration in a table, without its pattern being understood yet. Keys that are not known
are of no importance. -/
def ofFields? (fields : Fields) : Option (Config × Option String) := do
  let name ← (fields.get? "name").bind stringOf
  let scope ← (fields.get? "scope").bind stringOf
  let grammar ← optional stringOf fields "grammar"
  let fileTypes ← optional stringsOf fields "file-types"
  let commentTokens ← optional stringsOf fields "comment-tokens"
  let blockComment ← optional blockCommentOf fields "block-comment-tokens"
  let pattern ← optional stringOf fields "injection-regex"
  return (⟨name, grammar, scope, fileTypes.getD [], commentTokens.getD [], blockComment, none⟩,
    pattern)

/-- Reads a configuration. -/
def ofText (text : List Char) : Except ConfigError Config :=
  match (Toml.ofText? text).bind ofFields? with
  | none => .error .malformed
  | some (config, none) => .ok config
  | some (config, some pattern) =>
    match Regex.ofPattern? pattern.toList with
    | none => .error .badPattern
    | some r => .ok { config with injection := some (pattern, r) }

/-- The configuration of the language itself. -/
def text : String :=
  "# Language metadata for GNU MathProg.\n\n"
    ++ "name = \"mathprog\"\n"
    ++ "grammar = \"mathprog\"\n"
    ++ "scope = \"source.mathprog\"\n"
    ++ "file-types = [\"mod\", \"dat\", \"gmpl\"]\n"
    ++ "comment-tokens = [\"#\"]\n"
    ++ "block-comment-tokens = \x7b start = \"/*\", end = \"*/\" \x7d\n"
    ++ "injection-regex = \"^(mathprog|gmpl)$\"\n"

def builtIn : Except ConfigError Config := ofText text.toList

/-- The name of the grammar; the language's name, if no other is given. -/
def grammarName (c : Config) : String := c.grammar.getD c.name

/-- Whether a file is one of the language, by its extension. -/
def matchesPath (c : Config) (path : List Char) : Bool :=
  (FileName.extension? path).any fun e =>
    c.fileTypes.any fun t => FileName.sameExtension t.toList e

/-- Whether a marker names the language. -/
def matchesInjection (c : Config) (marker : List Char) : Bool :=
  c.injection.any fun (_, r) => r.isMatch marker

end Config

end MathProg
