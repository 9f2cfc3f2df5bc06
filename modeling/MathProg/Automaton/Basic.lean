import MathProg.Symbol.Basic

/-!
The shape of the automaton's data: rules, rows and what a state does with a token.
-/

namespace MathProg.Automaton

/-- A state, by number. -/
abbrev State := Nat

/-- Where reading starts. -/
def start : State := 1

/-- The state of a parser that is looking for a place to go on after an error. -/
def lost : State := 0

/-- The shape of a reduction: the symbol it makes, from how many children, and under which other
names some of them show. -/
structure Rule where
  symbol : Symbol
  length : Nat
  aliases : List (Nat × Symbol)
  deriving DecidableEq, Repr, Inhabited

/-- A state's row. All ways into a state are by one symbol, its entry; so the states that follow a
state tell by their entries on which symbol they are taken. A reduction is given by the numbers of
its rule and of its set of tokens. -/
structure Row where
  entry : Symbol
  mode : Nat
  reductions : List (Nat × Nat)
  successors : List State
  deriving DecidableEq, Repr, Inhabited

/-- What a state does with the next token. -/
inductive Action where
  | shift (target : State)
  | shiftExtra
  | reduce (rule : Rule)
  | accept
  | recover
  deriving DecidableEq, Repr, Inhabited

end MathProg.Automaton
