import MathProg.Symbol.Kind

/-!
# Grammars with repetition and aliases

A right-hand side is built from symbols by sequence, choice, repetition and renaming. It stands for
finitely many words of symbols, since a repetition is a symbol with productions of its own, and for a
language of token strings, in which a repetition is nothing but one or more of what it repeats.
Precedences only choose between derivations; they are no part of a grammar here.
-/

namespace MathProg.Grammar

inductive Rhs where
  | blank
  | symbol (s : Symbol)
  | renamed (r : Rhs) (name : Symbol)
  | seq (first second : Rhs)
  | choice (first second : Rhs)
  /-- One or more of `r`; `s` is the symbol made for the repetition. -/
  | many (s : Symbol) (r : Rhs)
  deriving DecidableEq, Repr, Inhabited

/-- A symbol of a word, and the name it shows under in its place. -/
structure Part where
  symbol : Symbol
  shownAs : Option Symbol
  deriving DecidableEq, Repr, Inhabited

namespace Rhs

/-- The words that a right-hand side stands for. -/
def words : Rhs → List (List Part)
  | blank => [[]]
  | symbol s => [[⟨s, none⟩]]
  | renamed r name => r.words.map fun w => w.map fun p => ⟨p.symbol, some name⟩
  | seq a b => a.words.flatMap fun u => b.words.map (u ++ ·)
  | choice a b => a.words ++ b.words
  | many s _ => [[⟨s, none⟩]]

/-- The repetitions in a right-hand side, each with what it repeats. -/
def repetitions : Rhs → List (Symbol × Rhs)
  | blank | symbol _ => []
  | renamed r _ => r.repetitions
  | seq a b | choice a b => a.repetitions ++ b.repetitions
  | many s r => (s, r) :: r.repetitions

/-- The symbols that stand in a right-hand side by themselves. -/
def symbols : Rhs → List Symbol
  | blank => []
  | symbol s => [s]
  | renamed r _ | many _ r => r.symbols
  | seq a b | choice a b => a.symbols ++ b.symbols

/-- The productions of the repetition `s` of `r`: one `r`, or two repetitions in a row. -/
def repetitionWords (s : Symbol) (r : Rhs) : List (List Part) := r.words ++ [[⟨s, none⟩, ⟨s, none⟩]]

def inOrder (rs : List Rhs) : Rhs := rs.foldr seq blank

def oneOf : List Rhs → Rhs
  | [] => blank
  | [r] => r
  | r :: rs => choice r (oneOf rs)

def optional (r : Rhs) : Rhs := choice r blank

def anyNumber (s : Symbol) (r : Rhs) : Rhs := optional (many s r)

end Rhs

/-- A grammar: its rules in order, the start symbol's first. -/
abbrev Rules := List (Symbol × Rhs)

namespace Rules

/-- All productions of a grammar, those of the repetitions included. -/
def productions (g : Rules) : List (Symbol × List Part) :=
  g.flatMap fun (s, r) =>
    r.words.map (s, ·) ++ r.repetitions.flatMap fun (t, q) => (q.repetitionWords t).map (t, ·)

mutual

/-- The strings of tokens that a symbol derives; a symbol without a rule is a token. -/
inductive Derives (g : Rules) : Symbol → List Symbol → Prop
  | token {t : Symbol} (h : ∀ rule ∈ g, rule.1 ≠ t) : Derives g t [t]
  | rule {s : Symbol} {r : Rhs} {w : List Symbol} (h : (s, r) ∈ g) (hw : Matches g r w) : Derives g s w

/-- The strings of tokens that a right-hand side stands for. -/
inductive Matches (g : Rules) : Rhs → List Symbol → Prop
  | blank : Matches g .blank []
  | symbol {s : Symbol} {w : List Symbol} (h : Derives g s w) : Matches g (.symbol s) w
  | renamed {r : Rhs} {name : Symbol} {w : List Symbol} (h : Matches g r w) :
      Matches g (.renamed r name) w
  | seq {a b : Rhs} {u v : List Symbol} (ha : Matches g a u) (hb : Matches g b v) :
      Matches g (.seq a b) (u ++ v)
  | left {a b : Rhs} {w : List Symbol} (h : Matches g a w) : Matches g (.choice a b) w
  | right {a b : Rhs} {w : List Symbol} (h : Matches g b w) : Matches g (.choice a b) w
  | one {s : Symbol} {r : Rhs} {w : List Symbol} (h : Matches g r w) : Matches g (.many s r) w
  | more {s : Symbol} {r : Rhs} {u v : List Symbol} (hu : Matches g r u)
      (hv : Matches g (.many s r) v) : Matches g (.many s r) (u ++ v)

end

end Rules

end MathProg.Grammar
