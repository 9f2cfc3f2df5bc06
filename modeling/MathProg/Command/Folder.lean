/-!
Files to read, and the reasons why they cannot be read.
-/

namespace MathProg.Command

/-- Why a file cannot be read. -/
inductive ReadError where
  | missing
  | notFolder
  | isFolder
  | notText
  deriving DecidableEq, Repr, Inhabited

def ReadError.message : ReadError → String
  | missing => "No such file or directory (os error 2)"
  | notFolder => "Not a directory (os error 20)"
  | isFolder => "Is a directory (os error 21)"
  | notText => "stream did not contain valid UTF-8"

/-- The text in some bytes. -/
def textOf (bytes : ByteArray) : Except ReadError (List Char) :=
  match String.fromUTF8? bytes with
  | some s => .ok s.toList
  | none => .error .notText

/-- A folder with all that is below it: files and folders by their paths from here. Folders on the
way to a file need not be listed. -/
structure Folder where
  files : List (List String × ByteArray)
  folders : List (List String)

namespace Folder

/-- The parts of a path; empty parts name nothing. -/
def parts (path : String) : List String :=
  ((path.toList.splitOn '/').map String.ofList).filter (· != "")

def hasFolder (d : Folder) (path : List String) : Bool :=
  path.isEmpty || d.folders.any path.isPrefixOf
    || d.files.any fun (p, _) => path.isPrefixOf p && path.length < p.length

def file? (d : Folder) (path : List String) : Option ByteArray :=
  (d.files.find? (·.1 == path)).map (·.2)

/-- Adds a file, or a folder if the path ends in a slash. -/
def add (d : Folder) (path : String) (bytes : ByteArray) : Folder :=
  if path.toList.getLast? == some '/' then { d with folders := d.folders ++ [parts path] }
  else { d with files := d.files ++ [(parts path, bytes)] }

/-- Follows a path from a folder. -/
def resolve (d : Folder) : List String → List String → Except ReadError (List String)
  | here, [] => .ok here
  | here, part :: rest =>
    if (d.file? here).isSome then .error .notFolder
    else if part = "." then resolve d here rest
    else if part = ".." then resolve d here.dropLast rest
    else
      let next := here ++ [part]
      if d.hasFolder next || (d.file? next).isSome then resolve d next rest else .error .missing

/-- The text of a file. -/
def read (d : Folder) (path : String) : Except ReadError (List Char) :=
  if path.toList.head? == some '/' && !(parts path).isEmpty then .error .missing
  else
    match d.resolve [] (parts path) with
    | .error e => .error e
    | .ok found =>
      match d.file? found with
      | none => .error .isFolder
      | some bytes =>
        if path.toList.getLast? == some '/' then .error .notFolder else textOf bytes

end Folder

end MathProg.Command
