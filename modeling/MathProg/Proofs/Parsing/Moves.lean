import MathProg.Parse
import MathProg.Proofs.Lexing.Words
import MathProg.Proofs.Parsing.Sketch
import MathProg.Proofs.Parsing.Termination
import Mathlib.Logic.Relation

/-!
# Moves forward

A move is determined by the state on the stack and by the leaf that the parser looks at. Moves can be
put together to runs, and a run that ends is the parse of the text.
-/

namespace MathProg.Straight

open Automaton (State Rule action? successor?)

variable {source : List Char} {c c' : Config} {l : Leaf}

/-- The leaf that a parser looks at. -/
def Config.Sees (source : List Char) (c : Config) (l : Leaf) : Prop :=
  (c.lookahead.getD (read source c)).leaf = l

/-- Some moves lead from one parser to another. -/
def Reaches (source : List Char) : Config → Config → Prop :=
  Relation.ReflTransGen fun a b => step source a = .inl b

theorem Reaches.of_step (h : step source c = .inl c') : Reaches source c c' :=
  Relation.ReflTransGen.single h

theorem run_of_reaches (fuel : Nat) {out : Outcome} (h : Reaches source c c')
    (hrun : run source fuel c' = some out) : ∃ more, run source more c = some out := by
  induction h using Relation.ReflTransGen.head_induction_on with
  | refl => exact ⟨fuel, hrun⟩
  | head hstep _ ih =>
    obtain ⟨more, hmore⟩ := ih
    refine ⟨more + 1, ?_⟩
    rw [run, hstep]
    exact hmore

/-- A token that fits is put on the stack. -/
theorem reaches_shift {s : State} (h : c.Sees source l)
    (ha : action? (stateOf c.frames) l.symbol = some (.shift s)) :
    Reaches source c ⟨⟨s, .leaf l⟩ :: c.frames, c.position + (Tree.leaf l).total, none⟩ := by
  subst h
  refine .of_step ?_
  unfold step
  dsimp only
  rw [ha]

/-- A reduction leaves the parser looking at the same leaf. -/
theorem reaches_reduce {r : Rule} {fs : List Frame} (h : c.Sees source l)
    (ha : action? (stateOf c.frames) l.symbol = some (.reduce r)) (hred : reduce r c.frames = some fs) :
    ∃ look : Option Lookahead, Reaches source c ⟨fs, c.position, look⟩ ∧
      (⟨fs, c.position, look⟩ : Config).Sees source l := by
  subst h
  refine ⟨some (c.lookahead.getD (read source c)), .of_step ?_, rfl⟩
  unfold step
  dsimp only
  rw [ha]
  dsimp only
  rw [hred]

theorem step_accept (h : c.Sees source l) (ha : action? (stateOf c.frames) l.symbol = some .accept) :
    step source c = .inr ((Tree.root? (trees c.frames ++ [.leaf l])).map .accepted) := by
  subst h
  unfold step
  dsimp only
  rw [ha]
  rfl

/-- Trees on top of the stack that are all children. -/
theorem popFrames_append {top below : List Frame} (h : ∀ f ∈ top, f.tree.extra = false)
    (taken : List Tree) :
    popFrames (top ++ below) top.length taken = some (trees top ++ taken, below) := by
  induction top generalizing taken with
  | nil =>
    cases below <;> rfl
  | cons f top ih =>
    rw [List.cons_append, List.length_cons, popFrames, h f List.mem_cons_self,
      if_neg Bool.false_ne_true, ih (fun g hg => h g (List.mem_cons_of_mem _ hg)), trees_cons,
      List.append_assoc]
    rfl

theorem splitTrailingExtras_counted {ts : List Tree} (h : ∀ t ∈ ts, t.extra = false) :
    Tree.splitTrailingExtras ts = (ts, []) := by
  have hnone : ts.reverse.takeWhile Tree.extra = [] := by
    cases hr : ts.reverse with
    | nil => rfl
    | cons t us =>
      have ht : t ∈ ts := List.mem_reverse.mp (hr ▸ List.mem_cons_self)
      exact List.takeWhile_cons_of_neg (by rw [h t ht]; exact Bool.false_ne_true)
  rw [Tree.splitTrailingExtras, hnone]
  simp

/-- A reduction of as many trees as its rule has children. -/
theorem reduce_append (top below : List Frame) {r : Rule} {s : State}
    (h : ∀ t ∈ trees top, t.extra = false) (hlen : r.length = top.length)
    (hs : successor? (stateOf below) r.symbol = some s) :
    reduce r (top ++ below) = some (⟨s, Tree.ofRule r (trees top)⟩ :: below) := by
  have htop : ∀ f ∈ top, f.tree.extra = false := fun f hf =>
    h _ (List.mem_reverse.mpr (List.mem_map.mpr ⟨f, hf, rfl⟩))
  rw [reduce, hlen, popFrames_append htop, List.append_nil, Option.map_some]
  dsimp only
  rw [splitTrailingExtras_counted h, hs]
  rfl

/-- What is left of the text. -/
def Config.rest (source : List Char) (c : Config) : List Char := source.drop c.position.chars

theorem sees_word {t : Symbol} {g w rest : List Char} (hl : c.lookahead = none)
    (h : (Automaton.mode (stateOf c.frames)).ReadsWord t w) (hg : ∀ c ∈ g, isBlank c = true)
    (hends : Ends rest) (hrest : c.rest source = g ++ (w ++ rest)) :
    c.Sees source ⟨t, Extent.ofChars g, Extent.ofChars w, false, .read⟩ := by
  rw [Config.Sees, hl]
  change (Automaton.mode _).next _ (c.rest source) = _
  rw [hrest]
  exact Mode.next_word h hg hends _

theorem sees_end (hl : c.lookahead = none)
    (ht : Symbol.endOfText ∈ (Automaton.mode (stateOf c.frames)).tokens)
    (hg : ∀ d ∈ c.rest source, isBlank d = true) :
    c.Sees source ⟨Symbol.endOfText, Extent.ofChars (c.rest source), 0, true, .read⟩ := by
  rw [Config.Sees, hl]
  exact Mode.next_end (Mode.plain_mode _) ht (Or.inl hg)

end MathProg.Straight

namespace MathProg

/-- A text that is accepted is not handed over to recovery. -/
theorem parse_of_straight {source : List Char} {t : Tree}
    (h : Straight.parse source = some (.accepted t)) : parse source = some t := by
  unfold parse
  rw [h]

end MathProg
