import MathProg.Symbol.Basic

/-!
What the parser may read next: which values, and which tokens of fixed form.
-/

namespace MathProg

/-- The values asked for. While recovering every value is welcome, but words are not tried. -/
structure ValueSet where
  string : Bool
  number : Bool
  bareword : Bool
  recovering : Bool
  deriving DecidableEq, Repr, Inhabited

namespace ValueSet

def nothing : ValueSet := ⟨false, false, false, false⟩
def stringOrNumber : ValueSet := ⟨true, true, false, false⟩
def stringOnly : ValueSet := ⟨true, false, false, false⟩
def numberOnly : ValueSet := ⟨false, true, false, false⟩
/-- Strings, numbers and words: what may stand in the data section. -/
def data : ValueSet := ⟨true, true, true, false⟩
/-- Any value, asked for while recovering from an error. -/
def everything : ValueSet := ⟨true, true, true, true⟩

end ValueSet

/-- A way of reading: values are tried first, then the tokens of fixed form. -/
structure Mode where
  values : ValueSet
  tokens : List Symbol
  deriving DecidableEq, Repr, Inhabited

end MathProg
