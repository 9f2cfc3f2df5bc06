import MathProg.Proofs.Lexing.Context
import MathProg.Proofs.Parsing.Moves

/-!
# A parse token by token

A text without errors is read leaf by leaf: each leaf calls for some reductions and is then taken, and
the end of the text calls for the last ones.
-/

namespace MathProg.Straight

open Automaton (State Rule action? successor? reduction? lost)

variable {source : List Char} {fs gs hs : List Frame} {p q r : Extent} {x : Symbol} {l : Leaf}
  {ls ms : List (Extent × Leaf)} {t : Tree}

/-- The leaf that a parser without look-ahead sees. -/
def sight (source : List Char) (fs : List Frame) (p : Extent) : Leaf := (read source ⟨fs, p, none⟩).leaf

/-- The reductions that a token calls for, one after the other. -/
inductive Reduces (x : Symbol) : List Frame → List Frame → Prop
  | refl (fs : List Frame) : Reduces x fs fs
  | step {fs gs hs : List Frame} {r : Rule} (ha : action? (stateOf fs) x = some (.reduce r))
      (hr : reduce r fs = some gs) (h : Reduces x gs hs) : Reduces x fs hs

/-- A leaf is taken: as a token behind the reductions that it calls for, or beside what counts. -/
inductive Takes (l : Leaf) (fs : List Frame) : List Frame → Prop
  | token {gs : List Frame} {s : State} (h : Reduces l.symbol fs gs)
      (ha : action? (stateOf gs) l.symbol = some (.shift s)) : Takes l fs (⟨s, .leaf l⟩ :: gs)
  | comment (ha : action? (stateOf fs) l.symbol = some .shiftExtra) :
      Takes l fs (⟨stateOf fs, .leaf { l with extra := true }⟩ :: fs)

/-- Leaves are read and taken one after the other, each at the place that the parser has reached. -/
inductive Run (source : List Char) :
    List Frame → Extent → List (Extent × Leaf) → List Frame → Extent → Prop
  | nil (fs : List Frame) (p : Extent) : Run source fs p [] fs p
  | cons {fs gs hs : List Frame} {p q : Extent} {l : Leaf} {ls : List (Extent × Leaf)}
      (hl : sight source fs p = l) (h : Takes l fs gs)
      (hr : Run source gs (p + (Tree.leaf l).total) ls hs q) : Run source fs p ((p, l) :: ls) hs q

/-- The end of the text is seen, and with it the text is accepted. -/
structure Accepts (source : List Char) (fs : List Frame) (p : Extent) (t : Tree) : Prop where
  ended : (sight source fs p).symbol = Symbol.endOfText
  accepted : ∃ gs, Reduces Symbol.endOfText fs gs ∧
    action? (stateOf gs) Symbol.endOfText = some .accept ∧
      Tree.root? (trees gs ++ [.leaf (sight source fs p)]) = some t

theorem sees_sight (source : List Char) (fs : List Frame) (p : Extent) :
    (⟨fs, p, none⟩ : Config).Sees source (sight source fs p) := rfl

theorem Reduces.trans (h : Reduces x fs gs) (h' : Reduces x gs hs) : Reduces x fs hs := by
  induction h with
  | refl => exact h'
  | step ha hr _ ih => exact .step ha hr (ih h')

theorem Run.append (h : Run source fs p ls gs q) (h' : Run source gs q ms hs r) :
    Run source fs p (ls ++ ms) hs r := by
  induction h with
  | nil => exact h'
  | cons hl h _ ih => exact .cons hl h (ih h')

theorem Reduces.reaches (h : Reduces x fs gs) {look : Option Lookahead}
    (hl : (⟨fs, p, look⟩ : Config).Sees source l) (hx : l.symbol = x) :
    ∃ look', Reaches source ⟨fs, p, look⟩ ⟨gs, p, look'⟩ ∧
      (⟨gs, p, look'⟩ : Config).Sees source l := by
  induction h generalizing look with
  | refl fs => exact ⟨look, .refl, hl⟩
  | step ha hr _ ih =>
    subst hx
    obtain ⟨look', hreach, hl'⟩ := reaches_reduce hl ha hr
    obtain ⟨look'', hreach', hl''⟩ := ih hl'
    exact ⟨look'', hreach.trans hreach', hl''⟩

theorem reaches_shiftExtra {c : Config} (h : c.Sees source l)
    (ha : action? (stateOf c.frames) l.symbol = some .shiftExtra) :
    Reaches source c ⟨⟨stateOf c.frames, .leaf { l with extra := true }⟩ :: c.frames,
      c.position + (Tree.leaf l).total, none⟩ := by
  subst h
  refine .of_step ?_
  unfold step
  dsimp only
  rw [ha]
  rfl

theorem Takes.reaches (h : Takes l fs gs) {look : Option Lookahead}
    (hl : (⟨fs, p, look⟩ : Config).Sees source l) :
    Reaches source ⟨fs, p, look⟩ ⟨gs, p + (Tree.leaf l).total, none⟩ := by
  cases h with
  | token h ha =>
    obtain ⟨look', hreach, hl'⟩ := h.reaches hl rfl
    exact hreach.trans (reaches_shift hl' ha)
  | comment ha => exact reaches_shiftExtra hl ha

theorem Run.reaches (h : Run source fs p ls gs q) :
    Reaches source ⟨fs, p, none⟩ ⟨gs, q, none⟩ := by
  induction h with
  | nil => exact .refl
  | cons hl h _ ih => exact (h.reaches (hl ▸ sees_sight ..)).trans ih

/-- A text that is read to its end and accepted there has the tree that is made of it. -/
theorem parse_of_run (h : Run source [] 0 ls fs p) (ha : Accepts source fs p t) :
    parse source = some (.accepted t) := by
  obtain ⟨hend, gs, hred, hacc, hroot⟩ := ha
  obtain ⟨look, hreach, hl⟩ := hred.reaches (sees_sight source fs p) hend
  have hstep := step_accept hl (by rw [hend]; exact hacc)
  have hrun : run source 1 ⟨gs, p, look⟩ = some (.accepted t) := by
    rw [run, hstep]
    dsimp only
    rw [hroot]
    rfl
  obtain ⟨fuel, hfuel⟩ := run_of_reaches 1 (h.reaches.trans hreach) hrun
  exact parse_eq_of_run hfuel

/-- What becomes of a parser that sees a leaf, if the text is accepted. -/
def Ending (source : List Char) (fs : List Frame) (p : Extent) (l : Leaf) (t : Tree) : Prop :=
  (l.symbol = Symbol.endOfText ∧ ∃ gs, Reduces Symbol.endOfText fs gs ∧
      action? (stateOf gs) Symbol.endOfText = some .accept ∧
        Tree.root? (trees gs ++ [.leaf l]) = some t) ∨
    ∃ gs ls hs q, Takes l fs gs ∧ Run source gs (p + (Tree.leaf l).total) ls hs q ∧
      Accepts source hs q t

/-- A comment calls for no reduction. -/
theorem not_reduce_of_shiftExtra {s s' : State} {r : Rule}
    (h : action? s x = some .shiftExtra) : action? s' x ≠ some (.reduce r) := by
  obtain ⟨-, ⟨-, ha⟩ | ⟨-, ⟨hx, -⟩ | ⟨-, ha⟩ | ⟨_, -, ha⟩ | ⟨_, -, ha⟩⟩⟩ := Automaton.action_cases h
  · cases ha
  · subst hx
    unfold action?
    rw [if_neg (by decide), if_pos rfl]
    split
    · simp
    · simp
  · cases ha
  · cases ha
  · cases ha

theorem Ending.run (h : Ending source fs p (sight source fs p) t) :
    ∃ ls gs q, Run source fs p ls gs q ∧ Accepts source gs q t := by
  rcases h with ⟨hend, hacc⟩ | ⟨gs, ls, hs, q, htake, hrun, hacc⟩
  · exact ⟨[], fs, p, .nil fs p, hend, hacc⟩
  · exact ⟨_, hs, q, .cons rfl htake hrun, hacc⟩

theorem ending_of_run {fuel : Nat} {c : Config} (hl : c.Sees source l)
    (h : run source fuel c = some (.accepted t)) : Ending source c.frames c.position l t := by
  induction fuel generalizing c l with
  | zero => cases h
  | succ fuel ih =>
    subst hl
    rw [run] at h
    -- what is left to do after a leaf is taken
    have htaken : ∀ {gs : List Frame} {p : Extent}, run source fuel ⟨gs, p, none⟩ = some (.accepted t) →
        ∃ ls hs q, Run source gs p ls hs q ∧ Accepts source hs q t :=
      fun h => Ending.run (ih (sees_sight ..) h)
    unfold step at h
    dsimp only at h
    cases ha : action? (stateOf c.frames) (c.lookahead.getD (read source c)).leaf.symbol with
    | none =>
      rw [ha] at h
      cases h
    | some a =>
      rw [ha] at h
      cases a with
      | shift s =>
        obtain ⟨ls, hs, q, hrun, hacc⟩ := htaken h
        exact Or.inr ⟨_, ls, hs, q, .token (.refl _) ha, hrun, hacc⟩
      | shiftExtra =>
        obtain ⟨ls, hs, q, hrun, hacc⟩ := htaken h
        exact Or.inr ⟨_, ls, hs, q, .comment ha, hrun, hacc⟩
      | reduce r =>
        cases hred : reduce r c.frames with
        | none =>
          simp only [hred] at h
          cases h
        | some gs =>
          simp only [hred] at h
          rcases ih (c := ⟨gs, c.position, _⟩) rfl h with
            ⟨hend, hs, hreds, hacc⟩ | ⟨hs, ls, is, q, htake, hrun⟩
          · rw [Option.getD_some] at hend
            exact Or.inl ⟨hend, hs, .step (hend ▸ ha) hred hreds, hacc⟩
          · refine Or.inr ⟨hs, ls, is, q, ?_, hrun⟩
            cases htake with
            | token hreds hs => exact .token (.step ha hred hreds) hs
            | comment hx => exact absurd ha (not_reduce_of_shiftExtra hx)
      | accept =>
        have hend : (c.lookahead.getD (read source c)).leaf.symbol = Symbol.endOfText := by
          obtain ⟨-, ⟨-, ha⟩ | ⟨-, ⟨-, ha⟩ | ⟨⟨-, hend⟩, -⟩ | ⟨_, -, ha⟩ | ⟨_, -, ha⟩⟩⟩ :=
            Automaton.action_cases ha
          · cases ha
          · cases ha
          · exact hend
          · cases ha
          · cases ha
        obtain ⟨u, hroot, hu⟩ := Option.map_eq_some_iff.mp h
        cases hu
        exact Or.inl ⟨hend, _, .refl _, hend ▸ ha, hroot⟩
      | recover => cases h

/-- The parse of a text that is accepted, leaf by leaf. -/
theorem run_of_parse (h : parse source = some (.accepted t)) :
    ∃ ls fs p, Run source [] 0 ls fs p ∧ Accepts source fs p t :=
  Ending.run (ending_of_run (sees_sight source [] 0) h)

/-- Frames that are a path to a place, with the way not lost. -/
structure Standing (source : List Char) (fs : List Frame) (p : Extent) : Prop where
  stacked : Stacked source fs p
  going : stateOf fs ≠ lost

theorem reduction_of_action {s : State} {r : Rule} (h : action? s x = some (.reduce r)) :
    reduction? s x = some r := by
  obtain ⟨-, ⟨-, ha⟩ | ⟨-, ⟨-, ha⟩ | ⟨-, ha⟩ | ⟨_, hr, ha⟩ | ⟨_, -, ha⟩⟩⟩ := Automaton.action_cases h
  · cases ha
  · cases ha
  · cases ha
  · cases ha
    exact hr
  · cases ha

theorem successor_of_action {s u : State} (h : action? s x = some (.shift u)) :
    successor? s x = some u ∧ reduction? s x = none := by
  refine ⟨?_, ?_⟩
  · obtain ⟨-, ⟨-, ha⟩ | ⟨-, ⟨-, ha⟩ | ⟨-, ha⟩ | ⟨_, -, ha⟩ | ⟨_, hs, ha⟩⟩⟩ := Automaton.action_cases h
    · cases ha
    · cases ha
    · cases ha
    · cases ha
    · cases ha
      exact hs
  · unfold action? at h
    split at h
    · cases h
    · split at h
      · cases h
      · split at h
        · cases h
        · split at h
          · cases h
          · split at h
            · cases h
            · assumption

theorem shiftExtra_of_action {s : State} (h : action? s x = some .shiftExtra) : x = Symbol.comment := by
  obtain ⟨-, ⟨-, ha⟩ | ⟨-, ⟨hx, -⟩ | ⟨-, ha⟩ | ⟨_, -, ha⟩ | ⟨_, -, ha⟩⟩⟩ := Automaton.action_cases h
  · cases ha
  · exact hx
  · cases ha
  · cases ha
  · cases ha

theorem ne_endOfText_of_successor {s u : State} (h : successor? s x = some u) :
    x ≠ Symbol.endOfText := by
  rintro rfl
  rw [Automaton.successor_endOfText] at h
  cases h

namespace Standing

theorem initial (source : List Char) : Standing source [] 0 := ⟨.empty, by decide⟩

theorem reduce {r : Rule} (h : Standing source fs p) (ha : action? (stateOf fs) x = some (.reduce r))
    (hr : Straight.reduce r fs = some gs) : Standing source gs p :=
  ⟨h.stacked.reduce h.going (reduction_of_action ha) hr,
    (reduce_lt h.stacked h.going (reduction_of_action ha) hr).1⟩

theorem reduces (h : Standing source fs p) (hr : Reduces x fs gs) : Standing source gs p := by
  induction hr with
  | refl => exact h
  | step ha hr _ ih => exact ih (h.reduce ha hr)

theorem isNext (h : Standing source fs p) : (sight source fs p).IsNext source p.chars := by
  change ((Automaton.mode _).next (p.bytes == 0) (source.drop p.chars)).IsNext _ _
  rw [h.stacked.isPlace.atStart]
  exact Mode.next_isNext _ h.stacked.isPlace.bound

theorem takes (h : Standing source fs p) (hl : l.IsNext source p.chars) (ht : Takes l fs gs) :
    Standing source gs (p + (Tree.leaf l).total) := by
  cases ht with
  | @token gs s hr ha =>
    have hg := h.reduces hr
    have hs := (successor_of_action ha).1
    have hfalse : l = { l with extra := false } := by
      rw [← beq_eq_false_iff_ne.mpr (ne_endOfText_of_successor hs), ← hl.extra]
    have hleads := Spot.leads_token (a := ⟨stateOf gs, p⟩) (e := false) hl (Automaton.action_cases ha).1
      hg.going hs
    rw [← hfalse] at hleads
    exact ⟨.push hg.stacked hleads, Nat.ne_of_gt (Nat.zero_lt_of_lt (Automaton.start_lt_successor hs))⟩
  | comment ha =>
    exact ⟨.push h.stacked (Spot.leads_token (a := ⟨stateOf fs, p⟩) (e := true) hl
      (Automaton.action_cases ha).1 h.going ⟨shiftExtra_of_action ha, rfl⟩), h.going⟩

theorem run (h : Standing source fs p) (hr : Run source fs p ls gs q) : Standing source gs q := by
  induction hr with
  | nil => exact h
  | cons hl ht _ ih => exact ih (h.takes (hl ▸ h.isNext) ht)

end Standing

end MathProg.Straight
