import MathProg.Proofs.Parsing.Leaf

/-!
# Trees that tile a text

The leaves of a tree lie one behind the other in the text, each behind a gap, and all of them can be
seen. Only a node that can be seen has no children, and every node is put together as the grammar has it
or is an error.
-/

namespace MathProg.Tree

/-- How a node is put together: by a production of the grammar, or as an error or a chain of skipped
tokens, where everything keeps its name. -/
def Built (s : Symbol) (as : List (Nat × Symbol)) (cs : List Tree) : Prop :=
  isErroneous s = true ∧ as = [] ∨ (s, parts as 0 cs) ∈ Grammar.rules.productions

mutual

/-- Whether a tree tiles the text from `place` on. -/
def Tiled (source : List Char) (place : Nat) : Tree → Prop
  | leaf l => l.Fits source place ∧ Symbol.isVisible l.symbol = true ∧
      (l.symbol < Symbol.tokenCount ∨ l.symbol = Symbol.error ∧ ∃ c, l.origin = .unreadable c)
  | node s as cs _ => (cs = [] → Symbol.isVisible s = true) ∧ Built s as cs ∧ TiledAll source place cs

def TiledAll (source : List Char) (place : Nat) : List Tree → Prop
  | [] => True
  | c :: cs => Tiled source place c ∧ TiledAll source (place + c.total.chars) cs

end

variable {source : List Char}

/-- A leaf is no model. -/
theorem Tiled.ne_model {place : Nat} {l : Leaf} (h : (leaf l).Tiled source place) :
    l.symbol ≠ Symbol.model := by
  rcases h.2.2 with ht | ⟨he, -⟩
  · exact Nat.ne_of_lt ht
  · rw [he]
    decide

theorem tiledAll_append {place : Nat} {ts us : List Tree} :
    TiledAll source place (ts ++ us) ↔
      TiledAll source place ts ∧ TiledAll source (place + (totalAll ts).chars) us := by
  induction ts generalizing place with
  | nil => simp only [List.nil_append, TiledAll, true_and, totalAll]; exact Iff.rfl
  | cons t ts ih =>
    rw [List.cons_append, TiledAll, TiledAll, ih, totalAll_cons, chars_add, Nat.add_assoc, and_assoc]

mutual

/-- The place behind a tree that tiles the text is a place. -/
theorem isPlace_add : ∀ (t : Tree) {e : Extent}, IsPlace source e → t.Tiled source e.chars →
    IsPlace source (e + t.total)
  | leaf l, e, he, h => by
    have hb := h.1.bound
    have ht : (leaf l).total.chars = l.padding.chars + l.size.chars := rfl
    rw [h.1.total]
    refine he.add ?_
    rw [ht]
    unfold Leaf.ends Leaf.begins at hb
    omega
  | node s as cs x, e, he, h => by
    rw [total_node]
    exact isPlace_addAll cs he h.2.2

theorem isPlace_addAll : ∀ (cs : List Tree) {e : Extent}, IsPlace source e →
    TiledAll source e.chars cs → IsPlace source (e + totalAll cs)
  | [], e, he, _ => by
    rw [totalAll, Extent.add_zero]
    exact he
  | c :: cs, e, he, h => by
    rw [totalAll_cons, ← Extent.add_assoc]
    exact isPlace_addAll cs (isPlace_add c he h.1) h.2

end

/-- Every token that has text can be seen. -/
theorem isVisible_of_le : ∀ s ≤ Symbol.bareword, s ≠ Symbol.endOfText → Symbol.isVisible s = true := by
  decide +kernel

end MathProg.Tree

namespace MathProg.Leaf.IsNext

variable {source : List Char} {place : Nat} {l : Leaf}

/-- A leaf that is not the end of the text is a tree that tiles it. -/
theorem tiled (h : l.IsNext source place) (hn : l.symbol ≠ Symbol.endOfText) (e : Bool) :
    (Tree.leaf { l with extra := e }).Tiled source place := by
  refine ⟨⟨h.fits.bound, h.fits.padding, h.fits.size, h.fits.gap, h.fits.recognized,
    h.fits.supplied⟩, ?_⟩
  change Symbol.isVisible l.symbol = true ∧ (l.symbol < Symbol.tokenCount ∨ l.symbol = Symbol.error ∧ _)
  rcases h.symbol with hle | he
  · exact ⟨Tree.isVisible_of_le _ hle hn, Or.inl (Nat.lt_of_le_of_lt hle (by decide))⟩
  · refine ⟨?_, Or.inr ⟨he, h.unread he⟩⟩
    rw [he]
    decide

end MathProg.Leaf.IsNext
