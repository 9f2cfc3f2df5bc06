import MathProg.Automaton.RuleTable
import MathProg.Automaton.StateTable
import MathProg.Token.ModeTable

/-!
Look-ups in the automaton. A token that calls for a reduction is never shifted there, even where
the state has a successor on it: such a successor only closes a repetition early.
-/

namespace MathProg.Automaton

def row? (s : State) : Option Row := (pages[s / 64]?).bind (·[s % 64]?)

def rule? (i : Nat) : Option Rule := rules[i]?

/-- The number of the mode in which a state reads. -/
def modeIndex (s : State) : Nat := (row? s).elim 0 (·.mode)

/-- How a state reads the next token. -/
def mode (s : State) : Mode := Mode.table[modeIndex s]?.getD default

/-- The reductions of a state, each with the tokens that call for it. -/
def reductions (s : State) : List (Rule × List Symbol) :=
  (row? s).elim [] fun r => r.reductions.filterMap fun (i, j) =>
    (rule? i).bind fun rule => (lookaheads[j]?).map fun ts => (rule, ts)

/-- The reduction that a token calls for. -/
def reduction? (s : State) (t : Symbol) : Option Rule :=
  ((reductions s).find? fun (_, ts) => ts.contains t).map (·.1)

/-- Where a state goes over a symbol. -/
def successor? (s : State) (x : Symbol) : Option State :=
  (row? s).bind fun r => r.successors.find? fun t => (row? t).any (·.entry == x)

/-- What a state does with a token; nothing, if the token does not fit. -/
def action? (s : State) (t : Symbol) : Option Action :=
  if t ≥ Symbol.tokenCount then none
  else if s = lost then some .recover
  else if t = Symbol.comment then some .shiftExtra
  else if (row? s).any (·.entry == Symbol.model) && t = Symbol.endOfText then some .accept
  else match reduction? s t with
    | some r => some (.reduce r)
    | none => (successor? s t).map .shift

/-- The state in which a symbol leaves the parser if it is taken as it stands: a comment leaves it
where it was. -/
def after? (s : State) (x : Symbol) : Option State :=
  if s = lost then none
  else if x = Symbol.comment then some s
  else successor? s x

end MathProg.Automaton
