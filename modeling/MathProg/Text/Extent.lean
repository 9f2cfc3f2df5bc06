/-!
Measured text. Columns count UTF-8 bytes, rows count line feeds; a carriage return is an ordinary
character of its line.
-/

namespace MathProg

/-- A place in a text: the line feeds before it, and the bytes since the last of them. -/
structure Point where
  row : Nat
  column : Nat
  deriving DecidableEq, Repr, Inhabited

/-- How far a stretch of text reaches: its characters, its bytes, its line feeds, and the bytes
after the last line feed. -/
structure Extent where
  chars : Nat
  bytes : Nat
  rows : Nat
  column : Nat
  deriving DecidableEq, Repr, Inhabited

namespace Extent

/-- The extent of the empty text. -/
def zero : Extent := ⟨0, 0, 0, 0⟩

instance : Zero Extent := ⟨zero⟩

/-- The extent of two stretches, one after the other: a line feed in the second one ends the line
on which the first one stopped. -/
def add (a b : Extent) : Extent :=
  ⟨a.chars + b.chars, a.bytes + b.bytes, a.rows + b.rows,
    if b.rows = 0 then a.column + b.column else b.column⟩

instance : Add Extent := ⟨add⟩

def ofChar (c : Char) : Extent :=
  if c = '\n' then ⟨1, 1, 1, 0⟩ else ⟨1, c.utf8Size, 0, c.utf8Size⟩

def ofChars : List Char → Extent
  | [] => 0
  | c :: cs => ofChar c + ofChars cs

/-- Extents of a sequence of stretches, joined. -/
def sum : List Extent → Extent
  | [] => 0
  | a :: as => a + sum as

/-- The place where a stretch ends that begins at the start of a text. -/
def point (a : Extent) : Point := ⟨a.rows, a.column⟩

theorem add_def (a b : Extent) : a + b = add a b := rfl

theorem zero_add (a : Extent) : 0 + a = a := by
  show add zero a = a
  cases a with
  | mk c b r k => simp [add, zero]

theorem add_zero (a : Extent) : a + 0 = a := by
  show add a zero = a
  cases a with
  | mk c b r k => simp [add, zero]

theorem add_assoc (a b c : Extent) : a + b + c = a + (b + c) := by
  simp only [add_def, add]
  congr 1 <;> try omega
  by_cases hb : b.rows = 0 <;> by_cases hc : c.rows = 0 <;> simp [hb, hc, Nat.add_assoc]

theorem ofChars_append (s t : List Char) : ofChars (s ++ t) = ofChars s + ofChars t := by
  induction s with
  | nil => exact (zero_add _).symm
  | cons c s ih => simp only [List.cons_append, ofChars, ih, add_assoc]

theorem chars_ofChars (s : List Char) : (ofChars s).chars = s.length := by
  induction s with
  | nil => rfl
  | cons c s ih =>
    have h : (ofChar c).chars = 1 := by unfold ofChar; split <;> rfl
    simp only [ofChars, add_def, add, h, ih, List.length_cons]
    omega

end Extent

end MathProg
