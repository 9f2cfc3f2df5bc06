import MathProg.Node
import MathProg.Proofs.Grammar.Productions
import MathProg.Proofs.Lexing.Reading

/-!
# Trees that are derivations

A tree, hidden nodes included, is a derivation of the grammar if each node together with its children
is a production, aliases and all, and each leaf is a text of its token. Comments stand beside the
children that count. The tokens of a derivation are a string that its symbol derives, and the text is
made of them and what may stand between them.
-/

namespace MathProg

open Grammar (Part)

/-- The text from one place to another. -/
def slice (source : List Char) (a b : Nat) : List Char := (source.drop a).take (b - a)

namespace Leaf

/-- Where the text of a leaf begins, if what is skipped before it begins at `place`. -/
def begins (place : Nat) (l : Leaf) : Nat := place + l.padding.chars

def ends (place : Nat) (l : Leaf) : Nat := l.begins place + l.size.chars

/-- The text of a leaf. -/
def text (source : List Char) (place : Nat) (l : Leaf) : List Char :=
  slice source (l.begins place) (l.ends place)

/-- A leaf that is a token of the text, behind a gap. -/
structure IsToken (source : List Char) (place : Nat) (l : Leaf) : Prop where
  read : l.origin = .read
  token : l.symbol < Symbol.tokenCount
  gap : Gap (place == 0) (slice source place (l.begins place))
  lexeme : Lexeme l.symbol (l.text source place)
  attached : l.symbol = Symbol.suffix →
    ∀ c ∈ slice source place (l.begins place), isBlank c = false

end Leaf

namespace Tree

/-- The children that count, each with the name it shows under. -/
def parts (as : List (Nat × Symbol)) (i : Nat) : List Tree → List Part
  | [] => []
  | c :: cs =>
    if c.extra then parts as i cs else ⟨c.symbol, Node.aliasOf as i c⟩ :: parts as (i + 1) cs

mutual

/-- Whether a tree whose text begins at `place` is a derivation. -/
def Derived (source : List Char) (place : Nat) : Tree → Prop
  | leaf l => l.IsToken source place
  | node s as cs e =>
    e = false ∧ (s, parts as 0 cs) ∈ Grammar.rules.productions ∧ DerivedAll source place cs

/-- Derivations one after the other, with comments between them. -/
def DerivedAll (source : List Char) (place : Nat) : List Tree → Prop
  | [] => True
  | c :: cs =>
    (c.extra = true → c.symbol = Symbol.comment) ∧ Derived source place c ∧
      DerivedAll source (place + c.total.chars) cs

end

mutual

/-- The tokens of a tree with their texts, comments left out. -/
def tokens (source : List Char) (place : Nat) : Tree → List (Symbol × List Char)
  | leaf l => if l.extra then [] else [(l.symbol, l.text source place)]
  | node _ _ cs _ => tokensAll source place cs

def tokensAll (source : List Char) (place : Nat) : List Tree → List (Symbol × List Char)
  | [] => []
  | c :: cs => tokens source place c ++ tokensAll source (place + c.total.chars) cs

end

theorem chars_add (a b : Extent) : (a + b).chars = a.chars + b.chars := rfl

theorem totalAll_cons (c : Tree) (cs : List Tree) : totalAll (c :: cs) = c.total + totalAll cs := rfl

theorem totalAll_append (ts us : List Tree) : totalAll (ts ++ us) = totalAll ts + totalAll us := by
  induction ts with
  | nil => exact (Extent.zero_add _).symm
  | cons t ts ih => rw [List.cons_append, totalAll_cons, totalAll_cons, ih, Extent.add_assoc]

/-- A node reaches as far as its children do. -/
theorem total_node (s : Symbol) (as : List (Nat × Symbol)) (cs : List Tree) (e : Bool) :
    (node s as cs e).total = totalAll cs := by
  cases cs with
  | nil => exact Extent.zero_add 0
  | cons c cs => exact (Extent.add_assoc _ _ _).symm

theorem derivedAll_append {source : List Char} {place : Nat} {ts us : List Tree} :
    DerivedAll source place (ts ++ us) ↔
      DerivedAll source place ts ∧ DerivedAll source (place + (totalAll ts).chars) us := by
  induction ts generalizing place with
  | nil => simp only [List.nil_append, DerivedAll, true_and, totalAll]; exact Iff.rfl
  | cons t ts ih =>
    rw [List.cons_append, DerivedAll, DerivedAll, ih, totalAll_cons, chars_add, Nat.add_assoc,
      and_assoc, and_assoc]

theorem parts_append (as : List (Nat × Symbol)) (i : Nat) (ts us : List Tree) :
    parts as i (ts ++ us) =
      parts as i ts ++ parts as (i + (ts.filter fun t => !t.extra).length) us := by
  induction ts generalizing i with
  | nil => rfl
  | cons t ts ih =>
    rw [List.cons_append, parts, parts]
    by_cases he : t.extra = true
    · simp [he, ih]
    · simp [he, ih, Nat.add_assoc, Nat.add_comm]

theorem parts_extras {as : List (Nat × Symbol)} {i : Nat} {ts : List Tree}
    (h : ∀ t ∈ ts, t.extra = true) : parts as i ts = [] := by
  induction ts with
  | nil => rfl
  | cons t ts ih =>
    rw [parts, if_pos (h t List.mem_cons_self)]
    exact ih fun u hu => h u (List.mem_cons_of_mem _ hu)

variable {source : List Char}

mutual

theorem stands_of_derived : ∀ (t : Tree) {place : Nat}, t.Derived source place → t.extra = false →
    Grammar.rules.Stands t.symbol ((t.tokens source place).map Prod.fst)
  | leaf l, place, h, he => by
    have he : l.extra = false := he
    rw [tokens, he]
    exact Grammar.token_stands h.token
  | node s as cs e, place, h, _ => by
    obtain ⟨-, hprod, hall⟩ := h
    rw [tokens]
    exact Grammar.Rules.stands_of_production Grammar.rules_wellNamed hprod (reads_of_derived as 0 cs hall)

theorem reads_of_derived (as : List (Nat × Symbol)) : ∀ (i : Nat) (cs : List Tree) {place : Nat},
    DerivedAll source place cs →
    Grammar.rules.Reads (parts as i cs) ((tokensAll source place cs).map Prod.fst)
  | _, [], place, _ => .nil
  | i, c :: cs, place, h => by
    obtain ⟨hextra, hc, hcs⟩ := h
    rw [parts, tokensAll, List.map_append]
    by_cases he : c.extra = true
    · have hnone : tokens source place c = [] := by
        cases c with
        | leaf l =>
          have he : l.extra = true := he
          rw [tokens, he]
          rfl
        | node s as cs e =>
          have he : e = true := he
          exact absurd (hc.1.symm.trans he) (by decide)
      rw [if_pos he, hnone]
      exact reads_of_derived as i cs hcs
    · rw [if_neg he]
      exact .cons (stands_of_derived c hc (by simpa using he)) (reads_of_derived as (i + 1) cs hcs)

end

end Tree

/-- The text from one place to another consists of tokens, with gaps and comments between them. -/
inductive Written (source : List Char) : Nat → Nat → List (Symbol × List Char) → Prop
  | done (a : Nat) : Written source a a []
  | token {a p b c : Nat} {t : Symbol} {rest : List (Symbol × List Char)} (hap : a ≤ p) (hpb : p ≤ b)
      (hgap : Gap (a == 0) (slice source a p)) (hlex : Lexeme t (slice source p b))
      (hatt : t = Symbol.suffix → ∀ c ∈ slice source a p, isBlank c = false)
      (h : Written source b c rest) : Written source a c ((t, slice source p b) :: rest)
  | comment {a p b c : Nat} {rest : List (Symbol × List Char)} (hap : a ≤ p) (hpb : p ≤ b)
      (hgap : Gap (a == 0) (slice source a p)) (hcom : Lexeme.Comment (slice source p b))
      (h : Written source b c rest) : Written source a c rest

namespace Written

variable {source : List Char}

theorem append {a b c : Nat} {u v : List (Symbol × List Char)} (hu : Written source a b u)
    (hv : Written source b c v) : Written source a c (u ++ v) := by
  induction hu with
  | done => exact hv
  | token hap hpb hgap hlex hatt _ ih => exact .token hap hpb hgap hlex hatt (ih hv)
  | comment hap hpb hgap hcom _ ih => exact .comment hap hpb hgap hcom (ih hv)

end Written

namespace Tree

variable {source : List Char}

mutual

theorem written_of_derived : ∀ (t : Tree) {place : Nat}, t.Derived source place →
    (t.extra = true → t.symbol = Symbol.comment) →
    Written source place (place + t.total.chars) (t.tokens source place)
  | leaf l, place, h, he => by
    have hends : place + (leaf l).total.chars = l.ends place := (Nat.add_assoc _ _ _).symm
    rw [tokens, hends]
    by_cases hx : l.extra = true
    · rw [if_pos hx]
      have hc := h.lexeme
      have hs : l.symbol = Symbol.comment := he hx
      rw [hs] at hc
      exact .comment (Nat.le_add_right _ _) (Nat.le_add_right _ _) h.gap hc (.done _)
    · rw [if_neg hx]
      exact .token (Nat.le_add_right _ _) (Nat.le_add_right _ _) h.gap h.lexeme h.attached (.done _)
  | node s as cs e, place, h, _ => by
    rw [tokens, total_node]
    exact written_of_derivedAll cs h.2.2

theorem written_of_derivedAll : ∀ (cs : List Tree) {place : Nat}, DerivedAll source place cs →
    Written source place (place + (totalAll cs).chars) (tokensAll source place cs)
  | [], place, _ => .done _
  | c :: cs, place, h => by
    rw [tokensAll, totalAll_cons, chars_add, ← Nat.add_assoc]
    exact (written_of_derived c h.2.1 h.1).append (written_of_derivedAll cs h.2.2)

end

end Tree

/-- A tree of a whole text: a derivation from the start symbol, and the end of the text behind it. -/
structure IsDerivation (source : List Char) (t : Tree) : Prop where
  shape : ∃ as cs e, t = .node Symbol.model as (cs ++ [.leaf e]) false ∧
    Tree.Derived source 0 (.node Symbol.model as cs false) ∧
    e.extra = true ∧ e.symbol = Symbol.endOfText ∧ e.origin = .read ∧ e.size = 0 ∧
    Gap ((Tree.totalAll cs).chars == 0) (source.drop (Tree.totalAll cs).chars) ∧
    t.total.chars = source.length

/-- A text that is, token for token, a sentence of the grammar. -/
def IsSentence (source : List Char) : Prop :=
  ∃ stop tokens, Written source 0 stop tokens ∧ Gap (stop == 0) (source.drop stop) ∧
    Grammar.rules.Derives Symbol.model (tokens.map Prod.fst)

theorem IsDerivation.isSentence {source : List Char} {t : Tree} (h : IsDerivation source t) :
    IsSentence source := by
  obtain ⟨as, cs, e, rfl, hd, -, -, -, -, hgap, -⟩ := h.shape
  have hw := Tree.written_of_derived _ hd (fun he => absurd he Bool.false_ne_true)
  have hs := Tree.stands_of_derived _ hd rfl
  rw [Tree.total_node, Nat.zero_add] at hw
  exact ⟨_, _, hw, hgap, Grammar.model_derives hs⟩

end MathProg
