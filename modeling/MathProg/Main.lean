import MathProg.Command.Run

/-!
The program: reads the files that the arguments name, and prints what the subcommand makes of them.
-/

namespace MathProg.Command

/-- Reads one file. -/
def readFile (file : String) : IO (Except ReadError (List Char)) := do
  try
    return textOf (← IO.FS.readBinFile file)
  catch
    | .inappropriateType _ code _ => return .error (if code = 21 then .isFolder else .notFolder)
    | _ => return .error .missing

/-- Reads files one after the other. -/
def readFiles (files : List String) : IO Reader := do
  let texts ← files.mapM fun file => return (file, ← readFile file)
  return fun file => ((texts.find? (·.1 == file)).map (·.2)).getD (.error .missing)

/-- Runs the program and answers with its exit code. -/
def execute (args : List String) : IO UInt32 := do
  let files := match Task.ofArgs args with
    | .ok task => task.files
    | .error _ => []
  let exit := run (← readFiles files) args
  IO.print exit.output
  match exit.message with
  | some m => IO.eprintln (if exit.code = 2 then "error: " ++ m else m)
  | none => if exit.code = 2 then IO.eprint helpText
  return UInt32.ofNat exit.code

end MathProg.Command

def main (args : List String) : IO UInt32 := MathProg.Command.execute args
