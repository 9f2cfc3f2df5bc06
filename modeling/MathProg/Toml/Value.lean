/-!
TOML values. Numbers, truth values and dates are checked on reading, and then of no use.
-/

namespace MathProg.Toml

/-- How a table came to be, which decides who may still add to it: written between braces; under a
header; because a longer header passes through it; or because a dotted key does. -/
inductive Origin where
  | inline
  | header
  | implied
  | dotted
  deriving DecidableEq, Repr, Inhabited

inductive Value where
  | string (s : String)
  | scalar
  | array (items : List Value)
  | table (origin : Origin) (fields : List (String × Value))
  /-- Tables under headers in double brackets. -/
  | tables (ts : List (List (String × Value)))
  deriving Repr, Inhabited

/-- The keys and values of a table, in the order in which they are written. -/
abbrev Fields := List (String × Value)

namespace Fields

def get? (fs : Fields) (key : String) : Option Value := (fs.find? (·.1 == key)).map (·.2)

/-- Gives a key a value, in its old place if it has one. -/
def set (fs : Fields) (key : String) (v : Value) : Fields :=
  if fs.any (·.1 == key) then fs.map fun f => if f.1 == key then (key, v) else f
  else fs ++ [(key, v)]

/-- Adds a value under a dotted key. Only tables that dotted keys have made take the last part of
the key; no value is ever replaced. -/
def add (v : Value) : List String → Fields → Option Fields
  | [], _ => none
  | [key], fs => if (get? fs key).isSome then none else some (set fs key v)
  | key :: keys, fs =>
    match get? fs key with
    | none => (add v keys []).map fun sub => set fs key (.table .dotted sub)
    | some (.table origin sub) =>
      if origin = .dotted || (origin = .implied && keys.length > 1) then
        (add v keys sub).map fun sub => set fs key (.table origin sub)
      else none
    | some _ => none

/-- Changes what stands at the end of a header's path. The last of several tables under double
brackets is the one that is meant. -/
def alter (change : Option Value → Option Value) : List String → Fields → Option Fields
  | [], _ => none
  | [key], fs => (change (get? fs key)).map (set fs key)
  | key :: keys, fs =>
    match get? fs key with
    | none => (alter change keys []).map fun sub => set fs key (.table .implied sub)
    | some (.table .inline _) => none
    | some (.table origin sub) => (alter change keys sub).map fun sub => set fs key (.table origin sub)
    | some (.tables ts) =>
      (alter change keys (ts.getLast?.getD [])).map fun last =>
        set fs key (.tables (ts.dropLast ++ [last]))
    | some _ => none

end Fields

end MathProg.Toml
