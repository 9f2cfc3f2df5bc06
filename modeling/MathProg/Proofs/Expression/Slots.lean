import MathProg.Automaton.Action
import MathProg.Proofs.Expression.Spine
import MathProg.Proofs.Grammar.Rules
import MathProg.Proofs.Lexing.Words
import MathProg.Proofs.Parsing.Sketch

/-!
# Where operands stand

Of what is unfinished in front of an operand, the automaton remembers only the innermost part: its
operator, its sign, or that it is the step of a range. What the automaton does in such a slot, before
and behind the operand, is the rule of the levels. All of it is checked slot by slot.
-/

namespace MathProg.Expression

open Automaton

/-- What stands right before an operand of a displayed expression. -/
inductive Slot where
  | whole
  | right (level : Level) (words : List String)
  | under (level : Level) (word : String)
  | step
  deriving DecidableEq

def slots : List Slot :=
  [.whole, .step] ++ operators.map (fun o => .right o.1 o.2) ++ signs.map fun s => .under s.1 s.2

/-- The slot in which the last operand is missing. -/
def Open.slot : Open → Slot
  | left _ o => .right o.level o.words
  | under s => .under s.level s.word
  | bounded _ _ => .step

def slotOf : List Open → Slot
  | [] => .whole
  | c :: _ => c.slot

theorem slotOf_mem (cs : List Open) : slotOf cs ∈ slots := by
  cases cs with
  | nil => exact List.mem_cons_self
  | cons c cs =>
    cases c with
    | left l o =>
      exact List.mem_append_left _ (List.mem_append_right _ (List.mem_map.mpr ⟨_, o.known, rfl⟩))
    | under s => exact List.mem_append_right _ (List.mem_map.mpr ⟨_, s.known, rfl⟩)
    | bounded l r => exact List.mem_cons_of_mem _ List.mem_cons_self

theorem Open.slot_mem (c : Open) : c.slot ∈ slots := slotOf_mem [c]

/-- The state that some symbols lead to. -/
def follow (s : State) (xs : List Symbol) : State := xs.foldl (fun s x => (successor? s x).getD lost) s

/-- Behind the keyword of a display statement. -/
def displayState : State := follow start [Grammar.literal "display"]

/-- Behind the expression of a display statement. -/
def displayed : State := follow displayState [Grammar.expr]

namespace Slot

/-- The state before the operand. -/
def state : Slot → State
  | whole => displayState
  | right _ words => follow displayed (words.map Grammar.literal)
  | under _ word => follow displayState [Grammar.literal word]
  | step => follow displayed [Grammar.literal "..", Grammar.expr, Grammar.literal "by"]

/-- The state behind the operand. -/
def full (k : Slot) : State := follow k.state [Grammar.expr]

/-- Whether what is unfinished before an operand is closed by an operator behind it. -/
def closedBy (o : Level) : Slot → Bool
  | whole => false
  | right level _ | under level _ => level.closedBy o
  | step => Operator.range.level.closedBy o

/-- Whether it is closed by the `by` of a range. -/
def closedByStep : Slot → Bool
  | right _ words => words != [".."]
  | whole | under _ _ | step => true

/-- The names under which the parts of an expression show, up to the operand. -/
def names : Slot → List (Option Symbol)
  | whole => []
  | right _ words =>
    none :: words.map fun w => if w = ".." then none else some Grammar.operator
  | under _ _ => [some Grammar.operator]
  | step => [none, none, none, none]

end Slot

/-- The reduction that closes what is unfinished before an operand. -/
def Slot.rule (k : Slot) : Rule := ⟨Grammar.expr, k.names.length + 1, Tree.namedFrom 0 k.names⟩

def nameState : State := follow displayState [Symbol.symbolicName]
def numberState : State := follow displayState [Symbol.number]
def primaryState : State := follow displayState [Grammar.primary]

def primaryRule : Rule := ⟨Grammar.primary, 1, []⟩
def atomRule : Rule := ⟨Grammar.expr, 1, []⟩

/-- The words that may follow an operand. -/
def followers : List String := [";", "by"] ++ operators.filterMap fun o => o.2.head?

/-- The literals of displayed expressions. -/
def literals : List String :=
  ["display", ";", "by"] ++ operators.flatMap (·.2) ++ signs.map (·.2)

/-- Whether a state reads a literal. -/
def reads (s : State) (word : String) : Prop :=
  Grammar.literal word ∈ (mode s).tokens ∧ (mode s).values.bareword = false

instance (s : State) (word : String) : Decidable (reads s word) := inferInstanceAs (Decidable (_ ∧ _))

/-- A literal that a state reads and goes on over. -/
def Shifts (s : State) (word : String) (s' : State) : Prop :=
  reads s word ∧ action? s (Grammar.literal word) = some (.shift s')

instance (s s' : State) (word : String) : Decidable (Shifts s word s') :=
  inferInstanceAs (Decidable (_ ∧ _))

theorem literal_checked : ∀ word ∈ literals,
    (Grammar.literal word).IsLiteral ∧ (Grammar.literal word).name = word ∧
      Symbol.isVisible (Grammar.literal word) = true := by
  decide +kernel

theorem start_checked : Shifts start "display" displayState := by decide +kernel

/-- Before an operand. -/
theorem slot_checked : ∀ k ∈ slots,
    (successor? k.state Grammar.expr = some k.full ∧
      successor? k.state Grammar.primary = some primaryState) ∧
    ((mode k.state).values.bareword = false ∧ (mode k.state).values.number = true ∧
      Symbol.symbolicName ∈ (mode k.state).tokens) ∧
    (action? k.state Symbol.symbolicName = some (.shift nameState) ∧
      action? k.state Symbol.number = some (.shift numberState)) ∧
    ∀ s ∈ signs, Shifts k.state s.2 (Slot.under s.1 s.2).state := by
  decide +kernel

/-- Behind the token of an operand. -/
theorem operand_checked : ∀ word ∈ followers,
    (reads nameState word ∧ reads numberState word) ∧
    action? nameState (Grammar.literal word) = some (.reduce primaryRule) ∧
    action? numberState (Grammar.literal word) = some (.reduce primaryRule) ∧
    action? primaryState (Grammar.literal word) = some (.reduce atomRule) := by
  decide +kernel

/-- Behind an operand, before an operator. -/
theorem operator_checked : ∀ k ∈ slots, ∀ o ∈ operators, ∀ word ∈ o.2.head?,
    action? k.full (Grammar.literal word) =
      some (if k.closedBy o.1 then .reduce k.rule
        else .shift (follow displayed [Grammar.literal word])) := by
  decide +kernel

/-- An operator has one word, or a second one that follows the first. -/
theorem words_checked : ∀ o ∈ operators, (∃ word ∈ o.2.head?, o.2 = [word] ∨
    ∃ second ∈ o.2.getLast?, o.2 = [word, second] ∧
      Shifts (follow displayed [Grammar.literal word]) second (Slot.right o.1 o.2).state) := by
  decide +kernel

/-- Behind an operand, before the `by` of a range or the end of the statement. -/
theorem closing_checked : ∀ k ∈ slots,
    (k ≠ .whole → action? k.full (Grammar.literal "by") =
      some (if k.closedByStep then .reduce k.rule else .shift Slot.step.state)) ∧
    action? k.full (Grammar.literal ";") =
      some (if k = .whole then .shift (follow displayed [Grammar.literal ";"]) else .reduce k.rule) := by
  decide +kernel

-- A statement displays something.
example : action? displayState (Grammar.literal ";") = none := by decide +kernel

end MathProg.Expression
