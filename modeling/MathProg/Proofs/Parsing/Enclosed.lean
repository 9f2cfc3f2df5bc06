import MathProg.Tree

/-!
# Trees that show their errors

Text that is no token has no price of its own, and neither has a chain of skipped tokens inside a
tree. In a tree that shows its errors both stand only inside an error, which has a price and can be
seen.
-/

namespace MathProg.Tree

mutual

/-- Whether unreadable text and chains of skipped tokens stand only inside an error, and whether all
supplied tokens outside of errors can be seen. -/
def Enclosed : Tree → Prop
  | leaf l => l.symbol ≠ Symbol.error ∧ (l.origin = .supplied → Symbol.isVisible l.symbol = true)
  | node s _ cs _ => isErroneous s = true ∨ EnclosedAll cs

def EnclosedAll : List Tree → Prop
  | [] => True
  | c :: cs => c.symbol ≠ Symbol.skipped ∧ Enclosed c ∧ EnclosedAll cs

end

theorem enclosedAll_append {ts us : List Tree} :
    EnclosedAll (ts ++ us) ↔ EnclosedAll ts ∧ EnclosedAll us := by
  induction ts with
  | nil => exact (true_and _).symm.to_iff
  | cons t ts ih => rw [List.cons_append, EnclosedAll, EnclosedAll, ih, and_assoc, and_assoc]

/-- A token that was read shows that it is none. -/
theorem enclosed_read {l : Leaf} (ht : l.symbol < Symbol.tokenCount) (hr : l.origin = .read) :
    (leaf l).Enclosed := by
  constructor
  · exact Nat.ne_of_lt (Nat.lt_trans ht (by decide))
  · intro hs
    rw [hr] at hs
    cases hs

end MathProg.Tree
