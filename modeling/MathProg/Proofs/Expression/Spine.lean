import MathProg.Proofs.Expression.Reference

/-!
# Reading a chain with a stack

A reader that keeps what is unfinished on a stack, the innermost at the top, closes unfinished
expressions from the top down before it goes on. What it has read stands for the same expression at
every moment as the rule for chains gives.
-/

namespace MathProg.Expression

open MathProg.Expression.Expr

/-- An expression whose last operand is still to come. -/
inductive Open where
  | left (l : Expr) (o : Operator)
  | under (s : Sign)
  /-- A range up to the `by` of its step. -/
  | bounded (l r : Expr)

namespace Open

def level : Open → Level
  | left _ o => o.level
  | under s => s.level
  | bounded _ _ => Operator.range.level

/-- Fills in the last operand. -/
def fill : Open → Expr → Expr
  | left l o, x => binary o l x
  | under s, x => signed s x
  | bounded l r, x => stepped l r x

end Open

/-- What an expression may be followed by. -/
inductive Ask where
  | operator (o : Operator)
  | step
  | finish

namespace Open

/-- Whether an expression is closed by what follows it. -/
def closedBy (c : Open) : Ask → Bool
  | .operator o => c.level.closedBy o.level
  | .step =>
    match c with
    | left _ o => !o.isRange
    | under _ | bounded _ _ => true
  | .finish => true

end Open

/-- Fills in all unfinished expressions, from the innermost on. -/
def fillAll (cs : List Open) (e : Expr) : Expr := cs.foldl (fun e c => c.fill e) e

theorem fillAll_append (cs ds : List Open) (e : Expr) :
    fillAll (cs ++ ds) e = fillAll ds (fillAll cs e) := List.foldl_append

/-- Closes what is closed by what follows. -/
def settle (a : Ask) : List Open → Expr → List Open × Expr
  | [], e => ([], e)
  | c :: cs, e => if c.closedBy a then settle a cs (c.fill e) else (c :: cs, e)

theorem settle_finish (cs : List Open) (e : Expr) : settle .finish cs e = ([], fillAll cs e) := by
  induction cs generalizing e with
  | nil => rfl
  | cons c cs ih => exact ih (c.fill e)

/-- What stays open is not closed by what follows. -/
theorem settle_open {a : Ask} {cs ds : List Open} {c : Open} {e e' : Expr}
    (h : settle a cs e = (c :: ds, e')) : c.closedBy a = false := by
  induction cs generalizing e with
  | nil => cases h
  | cons b cs ih =>
    rw [settle] at h
    split at h
    · exact ih h
    · rename_i hb
      cases h
      exact eq_false_of_ne_true hb

variable {o : Operator} {x : Expr}

theorem take_fill (c : Open) (e : Expr) :
    (c.fill e).take o x = (takeLast c.level (e.take o x) e o x).map c.fill := by
  cases c <;> rfl

theorem take_fillAll (cs : List Open) {e e' : Expr} (h : e.take o x = some e') :
    (fillAll cs e).take o x = some (fillAll cs e') := by
  induction cs generalizing e e' with
  | nil => exact h
  | cons c cs ih =>
    refine ih ?_
    rw [take_fill, h]
    rfl

theorem take_fill_of_closed {c : Open} {e : Expr} (he : e.take o x = none) :
    (c.fill e).take o x =
      if c.closedBy (.operator o) then none else some (c.fill (binary o e x)) := by
  rw [take_fill, he, takeLast, Option.none_or]
  change (if c.closedBy (.operator o) then none else some (binary o e x)).map c.fill = _
  split <;> rfl

/-- An operator goes behind what is closed before it. -/
theorem attach_fillAll {cs ds : List Open} {e e' : Expr} (he : e.take o x = none)
    (h : settle (.operator o) cs e = (ds, e')) :
    (fillAll cs e).attach o x = fillAll ds (binary o e' x) := by
  induction cs generalizing e with
  | nil =>
    cases h
    rw [attach, fillAll, List.foldl_nil, he]
    rfl
  | cons c cs ih =>
    rw [settle] at h
    have hfill := take_fill_of_closed (c := c) he
    split at h
    · rename_i hc
      rw [if_pos hc] at hfill
      exact ih hfill h
    · rename_i hc
      cases h
      rw [if_neg hc] at hfill
      rw [attach, show fillAll (c :: cs) e' = fillAll cs (c.fill e') from rfl,
        take_fillAll cs hfill]
      rfl

theorem takeStep_fillAll (cs : List Open) {e e' : Expr} (h : e.takeStep x = some e') :
    (fillAll cs e).takeStep x = some (fillAll cs e') := by
  induction cs generalizing e e' with
  | nil => exact h
  | cons c cs ih =>
    refine ih ?_
    cases c with
    | left l p => exact congrArg (fun y => (Option.map (binary p l) y).or _) h
    | under s => exact congrArg (Option.map (signed s)) h
    | bounded l r => exact congrArg (Option.map (stepped l r)) h

theorem takeStep_fill {c : Open} {e : Expr} (he : e.takeStep x = none) (hc : c.closedBy .step = true) :
    (c.fill e).takeStep x = none := by
  cases c with
  | left l p =>
    have hp : p.isRange = false := Bool.not_eq_true' _ ▸ hc
    rw [Open.fill, takeStep, he, hp]
    rfl
  | under s =>
    rw [Open.fill, takeStep, he]
    rfl
  | bounded l r =>
    rw [Open.fill, takeStep, he]
    rfl

/-- Goes on with the step of the innermost unfinished range. -/
def step? : List Open × Expr → Option (List Open)
  | (.left l _ :: cs, e) => some (.bounded l e :: cs)
  | _ => none

/-- A step goes to the innermost range that is not closed. -/
theorem takeStep_settle {cs : List Open} {e : Expr} (he : e.takeStep x = none) :
    (fillAll cs e).takeStep x = (step? (settle .step cs e)).map (fillAll · x) := by
  induction cs generalizing e with
  | nil => exact he
  | cons c cs ih =>
    rw [settle]
    split
    · rename_i hc
      exact ih (takeStep_fill he hc)
    · rename_i hc
      cases c with
      | left l p =>
        have hp : p.isRange = true := by simpa [Open.closedBy] using hc
        have hfill : ((Open.left l p).fill e).takeStep x = some (stepped l e x) := by
          rw [Open.fill, takeStep, he, hp]
          rfl
        exact takeStep_fillAll cs hfill
      | under s => exact absurd rfl hc
      | bounded l r => exact absurd rfl hc

/-- What was read of a chain that ends in an operand. -/
structure Reader where
  open_ : List Open
  last : Atom

/-- The signs of an operand. -/
def Operand.opened (x : Operand) : List Open := (x.signs.map .under).reverse

theorem Operand.fillAll_opened (x : Operand) (cs : List Open) :
    fillAll (x.opened ++ cs) (.atom x.atom) = fillAll cs x.tree := by
  obtain ⟨signs, a⟩ := x
  rw [fillAll_append]
  congr 1
  induction signs with
  | nil => rfl
  | cons s signs ih =>
    rw [opened, List.map_cons, List.reverse_cons, fillAll_append]
    exact congrArg (signed s) ih

namespace Reader

/-- The expression that was read. -/
def tree (m : Reader) : Expr := fillAll m.open_ (.atom m.last)

def begin (x : Operand) : Reader := ⟨x.opened, x.atom⟩

/-- Reads one link more. -/
def next (m : Reader) : Link → Option Reader
  | .operator o x =>
    let (cs, e) := settle (.operator o) m.open_ (.atom m.last)
    some ⟨x.opened ++ .left e o :: cs, x.atom⟩
  | .step x => (step? (settle .step m.open_ (.atom m.last))).map fun cs => ⟨x.opened ++ cs, x.atom⟩

theorem tree_next (m : Reader) (link : Link) : (m.next link).map tree = link.extend m.tree := by
  cases link with
  | operator o x =>
    rw [Link.extend, tree, attach_fillAll rfl rfl]
    exact congrArg some (x.fillAll_opened _)
  | step x =>
    rw [Link.extend, tree, takeStep_settle rfl, next, Option.map_map]
    exact congrArg (Option.map · _) (funext fun cs => x.fillAll_opened cs)

/-- Reading all links gives the expression of the chain. -/
theorem tree_links (links : List Link) (m : Reader) :
    (links.foldlM next m).map tree = links.foldlM Link.extend m.tree := by
  induction links generalizing m with
  | nil => rfl
  | cons link links ih =>
    rw [List.foldlM_cons, List.foldlM_cons, ← tree_next]
    cases m.next link with
    | none => rfl
    | some m' => exact ih m'

theorem tree_chain (c : Chain) : (c.links.foldlM next (begin c.first)).map tree = c.tree := by
  rw [tree_links, Chain.tree, tree, begin, ← List.append_nil c.first.opened, Operand.fillAll_opened]
  rfl

end Reader

end MathProg.Expression
