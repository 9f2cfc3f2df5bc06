import MathProg.Proofs.Expression.Slots

/-!
# The nodes of expressions

An expression shows as a node with its operands and the words between them. The words of operators
show as `operator`, apart from the two of a range.
-/

namespace MathProg.Expression

open MathProg.Tree (Part)

/-- A word, perhaps under another name than its own. -/
def wordPart (name? : Option Symbol) (word : String) : Part :=
  ⟨name?, .leaf (name?.getD (Grammar.literal word)) word.toList⟩

theorem sketch_literal (word : String) :
    (wordPart none word).sketch = .leaf (Grammar.literal word) word.toList :=
  congrArg (Sketch.leaf · word.toList) Option.getD_none

def Operator.parts (o : Operator) : List Part :=
  o.words.map fun w => wordPart (if w = ".." then none else some Grammar.operator) w

def Sign.part (s : Sign) : Part := wordPart (some Grammar.operator) s.word

def Atom.sketch : Atom → Sketch
  | name text _ _ => .leaf Symbol.symbolicName text
  | number text _ => .leaf Symbol.number text

/-- What an expression looks like in a tree. -/
def Expr.sketch : Expr → Sketch
  | atom a => .node Grammar.expr [a.sketch]
  | signed s x => .node Grammar.expr [s.part.sketch, x.sketch]
  | binary o l r => .node Grammar.expr (l.sketch :: (o.parts.map (·.sketch) ++ [r.sketch]))
  | stepped l r s =>
    .node Grammar.expr [l.sketch, (wordPart none "..").sketch, r.sketch, (wordPart none "by").sketch,
      s.sketch]

def Expr.part (e : Expr) : Part := ⟨none, e.sketch⟩

/-- The parts of an expression before its last operand. -/
def Open.parts : Open → List Part
  | left l o => l.part :: o.parts
  | under s => [s.part]
  | bounded l r => [l.part, wordPart none "..", r.part, wordPart none "by"]

theorem Open.names_parts (c : Open) : c.parts.map (·.name?) = c.slot.names := by
  cases c with
  | left l o =>
    change none :: (o.words.map _).map _ = none :: _
    rw [List.map_map]
    rfl
  | under s => rfl
  | bounded l r => rfl

theorem Open.sketch_fill (c : Open) (e : Expr) :
    (c.fill e).sketch = .node Grammar.expr ((c.parts ++ [e.part]).map (·.sketch)) := by
  cases c with
  | left l o =>
    rw [fill, Expr.sketch, List.map_append]
    rfl
  | under s => rfl
  | bounded l r => rfl

theorem Open.rule_aliases (c : Open) (e : Expr) :
    c.slot.rule.aliases = Tree.namedFrom 0 ((c.parts ++ [e.part]).map (·.name?)) := by
  have happend : ∀ (ns : List (Option Symbol)) (i : Nat),
      Tree.namedFrom i (ns ++ [none]) = Tree.namedFrom i ns := by
    intro ns
    induction ns with
    | nil => exact fun _ => rfl
    | cons n ns ih =>
      intro i
      cases n with
      | none => exact ih (i + 1)
      | some x => exact congrArg ((i, x) :: ·) (ih (i + 1))
  rw [List.map_append, names_parts]
  exact (happend c.slot.names 0).symm

theorem Open.rule_length (c : Open) : c.slot.rule.length = c.parts.length + 1 := by
  change c.slot.names.length + 1 = _
  rw [← names_parts, List.length_map]

end MathProg.Expression
