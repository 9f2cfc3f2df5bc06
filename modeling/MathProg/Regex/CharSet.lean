import MathProg.Regex.CaseTable
import MathProg.Regex.ClassTable
import MathProg.Text.Blank

/-!
Sets of characters, as bracket expressions describe them.
-/

namespace MathProg

inductive CharSet where
  | ranges (rs : List (Nat × Nat))
  /-- The characters that differ from one of the set only in case, and the set itself. -/
  | anyCase (s : CharSet)
  | digit
  | space
  | word
  | compl (s : CharSet)
  | union (s t : CharSet)
  | inter (s t : CharSet)
  deriving DecidableEq, Repr, Inhabited

namespace CharSet

def single (c : Char) : CharSet := ranges [(c.toNat, c.toNat)]

def full : CharSet := ranges [(0, 0x10ffff)]

def none : CharSet := ranges []

def diff (s t : CharSet) : CharSet := inter s (compl t)

def symmDiff (s t : CharSet) : CharSet := union (diff s t) (diff t s)

def inRanges (rs : List (Nat × Nat)) (n : Nat) : Bool := rs.any fun (a, b) => a ≤ n && n ≤ b

/-- Whether a number is among those that a run starts from. -/
def CaseRun.starts (r : CaseRun) (n : Nat) : Bool :=
  r.first ≤ n && (n - r.first) % r.step == 0 && (n - r.first) / r.step < r.count

/-- The letters that differ from a letter only in case. -/
def caseVariants (n : Nat) : List Nat :=
  (caseRuns.filter (·.starts n)).map (n + ·.distance)
    ++ (caseRuns.filter fun r => r.distance ≤ n && r.starts (n - r.distance)).map (n - ·.distance)
    ++ ((caseGroups.filter (·.contains n)).flatMap fun g => g.filter (· != n))

def isWordChar (c : Char) : Bool :=
  if c.toNat < 0x80 then isNameChar c else inRanges wordRanges c.toNat

/-- Whether a set has a character. -/
def contains (n : Nat) : CharSet → Bool
  | ranges rs => inRanges rs n
  | anyCase s => contains n s || (caseVariants n).any fun m => containsExactly m s
  | digit => inRanges digitRanges n
  | space => isWhiteSpace (Char.ofNat n)
  | word => isWordChar (Char.ofNat n)
  | compl s => !contains n s
  | union s t => contains n s || contains n t
  | inter s t => contains n s && contains n t
where
  /-- Membership without regard to case variants. -/
  containsExactly (n : Nat) : CharSet → Bool
    | ranges rs => inRanges rs n
    | anyCase s => containsExactly n s
    | digit => inRanges digitRanges n
    | space => isWhiteSpace (Char.ofNat n)
    | word => isWordChar (Char.ofNat n)
    | compl s => !containsExactly n s
    | union s t => containsExactly n s || containsExactly n t
    | inter s t => containsExactly n s && containsExactly n t

end CharSet

end MathProg
