import MathProg.Symbol.Table

/-!
Names, visibility and look-up of symbols, the two error symbols included.
-/

namespace MathProg.Symbol

/-- The row of a symbol, if there is such a symbol. -/
def lookup? (s : Symbol) : Option Entry :=
  if s = error then some ⟨"ERROR", .named⟩
  else if s = skipped then some ⟨"_ERROR", .repetition⟩
  else table[s]?

/-- The name of a symbol, empty if there is no such symbol. -/
def name (s : Symbol) : String := (lookup? s).elim "" (·.name)

def isVisible (s : Symbol) : Bool := (lookup? s).elim false (·.form.isVisible)

def isNamed (s : Symbol) : Bool := (lookup? s).elim false (·.form.isNamed)

/-- How many symbols the grammar has. -/
def count : Nat := table.size

/-- The first visible symbol of a name, among the named ones or the literals. Asked for a named
symbol, every beginning of `ERROR` finds the error symbol. -/
def find? (name : String) (named : Bool) : Option Symbol :=
  if named && name.toList.isPrefixOf "ERROR".toList then some error
  else table.findIdx? fun e => e.form.isVisible && e.form.isNamed == named && e.name == name

end MathProg.Symbol
