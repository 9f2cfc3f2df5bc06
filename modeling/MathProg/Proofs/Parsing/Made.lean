import MathProg.Proofs.Parsing.Path

/-!
# How trees are made

The moves of the parser that make a tree depend on the state in which its first token is taken and on the
token behind its last one, and on nothing else on the stack. So what becomes of a stretch of text can be
told from the tree alone: `Made` says that the automaton makes a tree between a state and a token, and
`readings` in which state each of its leaves is read.
-/

namespace MathProg.Tree

open Automaton (State action? successor? lost)

/-- The state that a tree leads to. -/
def goto (s : State) (t : Tree) : State := if t.extra then s else (successor? s t.symbol).getD lost

def gotoAll (s : State) (ts : List Tree) : State := ts.foldl goto s

mutual

/-- The state behind the last token of a tree, before any reduction. Before its first token the parser
is in the state `r`. -/
def pending (s r : State) : Tree → State
  | leaf l => if l.extra then r else goto s (leaf l)
  | node _ _ cs _ => pendingAll s r cs

def pendingAll (s r : State) : List Tree → State
  | [] => r
  | c :: cs => pendingAll (goto s c) (pending s r c) cs

end

mutual

/-- The leaves of a tree, each with the state that it is read in. -/
def readings (s r : State) : Tree → List (State × Leaf)
  | leaf l => [(r, l)]
  | node _ _ cs _ => readingsAll s r cs

def readingsAll (s r : State) : List Tree → List (State × Leaf)
  | [] => []
  | c :: cs => readings s r c ++ readingsAll (goto s c) (pending s r c) cs

end

mutual

/-- The first token of a tree that is no comment. -/
def first? : Tree → Option Symbol
  | leaf l => if l.extra then none else some l.symbol
  | node _ _ cs _ => firstAll? cs

def firstAll? : List Tree → Option Symbol
  | [] => none
  | c :: cs => (first? c).or (firstAll? cs)

end

/-- The next token before some trees that stand before the token `x`. -/
def ahead (ts : List Tree) (x : Symbol) : Symbol := (firstAll? ts).getD x

def IsComment : Tree → Prop
  | leaf l => l.extra = true ∧ l.symbol = Symbol.comment
  | node .. => False

mutual

/-- The automaton makes the tree in the state `s` before the token `x`. -/
def Made (s : State) (x : Symbol) : Tree → Prop
  | leaf l => l.extra = false ∧ action? s l.symbol = some (.shift (goto s (leaf l)))
  | node y as cs e => e = false ∧ (∃ c ds, cs = c :: ds ∧ c.extra = false) ∧ EndsCounted cs ∧
      MadeAll s x cs ∧ action? (gotoAll s cs) x = some (.reduce ⟨y, (counted cs).length, as⟩)

/-- Trees made one after the other, with comments between them. -/
def MadeAll (s : State) (x : Symbol) : List Tree → Prop
  | [] => True
  | c :: cs => (c.extra = true → c.IsComment) ∧ (c.extra = false → Made s (ahead cs x) c) ∧
      MadeAll (goto s c) x cs

end

variable {s r : State} {x : Symbol} {t : Tree} {ts us : List Tree}

theorem gotoAll_append (s : State) (ts us : List Tree) :
    gotoAll s (ts ++ us) = gotoAll (gotoAll s ts) us := List.foldl_append

theorem goto_extra (s : State) (h : t.extra = true) : goto s t = s := if_pos h

theorem gotoAll_extras (s : State) (h : ∀ t ∈ ts, t.extra = true) : gotoAll s ts = s := by
  induction ts with
  | nil => rfl
  | cons t ts ih =>
    change gotoAll (goto s t) ts = s
    rw [goto_extra s (h t List.mem_cons_self)]
    exact ih fun u hu => h u (List.mem_cons_of_mem _ hu)

theorem pendingAll_append (s r : State) (ts us : List Tree) :
    pendingAll s r (ts ++ us) = pendingAll (gotoAll s ts) (pendingAll s r ts) us := by
  induction ts generalizing s r with
  | nil => rfl
  | cons t ts ih =>
    rw [List.cons_append, pendingAll, ih, pendingAll]
    rfl

theorem readingsAll_append (s r : State) (ts us : List Tree) :
    readingsAll s r (ts ++ us) =
      readingsAll s r ts ++ readingsAll (gotoAll s ts) (pendingAll s r ts) us := by
  induction ts generalizing s r with
  | nil => rfl
  | cons t ts ih =>
    rw [List.cons_append, readingsAll, ih, readingsAll, pendingAll, List.append_assoc]
    rfl

theorem firstAll?_append (ts us : List Tree) :
    firstAll? (ts ++ us) = (firstAll? ts).or (firstAll? us) := by
  induction ts with
  | nil => rfl
  | cons t ts ih => rw [List.cons_append, firstAll?, ih, firstAll?, Option.or_assoc]

theorem ahead_append (ts us : List Tree) (x : Symbol) : ahead (ts ++ us) x = ahead ts (ahead us x) := by
  rw [ahead, firstAll?_append, ahead, ahead]
  cases firstAll? ts <;> rfl

theorem madeAll_append : MadeAll s x (ts ++ us) ↔
    MadeAll s (ahead us x) ts ∧ MadeAll (gotoAll s ts) x us := by
  induction ts generalizing s with
  | nil => exact (iff_of_eq (true_and _)).symm
  | cons t ts ih =>
    rw [List.cons_append, MadeAll, MadeAll, ih, ahead_append, and_assoc, and_assoc]
    rfl

theorem IsComment.extra (h : t.IsComment) : t.extra = true := by
  cases t with
  | leaf l => exact h.1
  | node => exact h.elim

theorem IsComment.eq_leaf (h : t.IsComment) :
    ∃ l, t = leaf l ∧ l.extra = true ∧ l.symbol = Symbol.comment := by
  cases t with
  | leaf l => exact ⟨l, rfl, h⟩
  | node => exact h.elim

theorem madeAll_extras (h : ∀ t ∈ ts, t.extra = true) : MadeAll s x ts ↔ ∀ t ∈ ts, t.IsComment := by
  induction ts with
  | nil => exact iff_of_true trivial fun t ht => absurd ht List.not_mem_nil
  | cons t ts ih =>
    have ht := h t List.mem_cons_self
    rw [MadeAll, goto_extra s ht, ih fun u hu => h u (List.mem_cons_of_mem _ hu),
      List.forall_mem_cons, ht]
    simp

/-- Before comments the next token is the one behind them. -/
theorem ahead_comments (h : ∀ t ∈ ts, t.IsComment) (x : Symbol) : ahead ts x = x := by
  have hnone : firstAll? ts = none := by
    induction ts with
    | nil => rfl
    | cons t ts ih =>
      obtain ⟨l, rfl, hl, -⟩ := (h t List.mem_cons_self).eq_leaf
      rw [firstAll?, first?, if_pos hl, ih fun u hu => h u (List.mem_cons_of_mem _ hu)]
      rfl
  rw [ahead, hnone]
  rfl

theorem pendingAll_comments (h : ∀ t ∈ ts, t.IsComment) (s r : State) : pendingAll s r ts = r := by
  induction ts generalizing s r with
  | nil => rfl
  | cons t ts ih =>
    obtain ⟨l, rfl, hl, -⟩ := (h t List.mem_cons_self).eq_leaf
    rw [pendingAll, ih (fun u hu => h u (List.mem_cons_of_mem _ hu)), pending, if_pos hl]

/-- What is made has a token, which is taken where the tree begins. -/
theorem Made.first : ∀ (t : Tree) {x : Symbol}, t.Made s x →
    ∃ y u, t.first? = some y ∧ action? s y = some (.shift u)
  | leaf l, _, h => ⟨l.symbol, _, by rw [first?, h.1]; rfl, h.2⟩
  | node _ _ [] _, _, h => by
    obtain ⟨c, ds, hnil, -⟩ := h.2.1
    cases hnil
  | node _ _ (c :: cs) _, _, h => by
    obtain ⟨c', ds, heq, hc⟩ := h.2.1
    obtain ⟨rfl, rfl⟩ := List.cons.inj heq
    obtain ⟨y, u, hy, hu⟩ := Made.first c (h.2.2.2.1.2.1 hc)
    exact ⟨y, u, by rw [first?, firstAll?, hy]; rfl, hu⟩

theorem Made.extra (h : t.Made s x) : t.extra = false := by
  cases t with
  | leaf l => exact h.1
  | node => exact h.1

/-- Behind a tree that counts, other trees do not see what follows it. -/
theorem ahead_made (h : t.Made s x) (ts : List Tree) (y z : Symbol) :
    ahead (t :: ts) y = ahead (t :: ts) z := by
  obtain ⟨u, -, hu, -⟩ := h.first
  rw [ahead, ahead, firstAll?, hu]
  rfl

end MathProg.Tree
