import MathProg.Symbol.Kind

/-!
Grammar tables as a parser is given them, and the check that they pass before it takes them.
-/

namespace MathProg

/-- Where a grammar table comes from: the table of this library; nowhere; or a table that holds
nothing but its version. -/
inductive Loader where
  | mathprog
  | null
  | blank (version : Nat)
  deriving DecidableEq, Repr, Inhabited

/-- A loaded grammar table. -/
structure Language where
  name : Option String
  version : Nat
  kindCount : Nat
  deriving DecidableEq, Repr, Inhabited

/-- Why a table cannot be used: there is none; or its version is not one that is understood, found
on loading or on handing it to a parser. -/
inductive LanguageError where
  | null
  | version (n : Nat)
  | rejected (n : Nat)
  deriving DecidableEq, Repr, Inhabited

namespace Language

/-- The least version that is understood. -/
def minVersion : Nat := 13

/-- The latest version that is understood. -/
def maxVersion : Nat := 15

/-- The name of the grammar. -/
def grammarName : String := "mathprog"

/-- The table of this library. -/
def mathprog : Language := ⟨some grammarName, 15, Symbol.count⟩

/-- The table that a loader yields. -/
def ofLoader? : Loader → Option Language
  | .mathprog => some mathprog
  | .null => none
  | .blank v => some ⟨none, v, 0⟩

def isUnderstood (l : Language) : Bool := minVersion ≤ l.version && l.version ≤ maxVersion

/-- Loads a table and checks its version. -/
def load (loader : Loader) : Except LanguageError Language :=
  match ofLoader? loader with
  | none => .error .null
  | some l => if l.isUnderstood then .ok l else .error (.version l.version)

/-- The check that a parser makes of its own. -/
def enlist (l : Language) : Except LanguageError Language :=
  if l.isUnderstood then .ok l else .error (.rejected l.version)

end Language

namespace LanguageError

/-- The versions that would have been understood. -/
def bounds : String :=
  "xpected minimum " ++ toString Language.minVersion ++ ", maximum " ++ toString Language.maxVersion

def message : LanguageError → String
  | null => "grammar loader returned a null language"
  | version n => "incompatible language version " ++ toString n ++ ", e" ++ bounds
  | rejected n =>
    "parser rejected the grammar: Incompatible language version " ++ toString n ++ ". E" ++ bounds

end LanguageError

end MathProg
