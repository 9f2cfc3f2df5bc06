/-!
Names of files in paths whose parts are separated by slashes.
-/

namespace MathProg.FileName

/-- The parts of a path between the slashes. -/
def parts (path : List Char) : List (List Char) := path.splitOn '/'

/-- The last part of a path that names something; empty parts and single dots name nothing. -/
def last? (path : List Char) : Option (List Char) :=
  ((parts path).filter fun p => !p.isEmpty && p != ['.']).getLast?

/-- What follows the last dot of a file's name. A name that begins with its only dot has no
extension, and neither has the parent directory. -/
def extension? (path : List Char) : Option (List Char) :=
  (last? path).bind fun name =>
    let tail := (name.reverse.takeWhile (· != '.')).reverse
    if name = ['.', '.'] || name.length ≤ tail.length + 1 then none else some tail

/-- Equality without regard to the case of ASCII letters. -/
def sameExtension (a b : List Char) : Bool := a.map Char.toLower == b.map Char.toLower

end MathProg.FileName
