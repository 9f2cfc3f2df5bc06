import Mathlib.Algebra.GroupWithZero.Nat
import MathProg.Proofs.Parsing.Straight

/-!
# Parsing without errors ends

The symbols on the stack weigh more the lower they are, and a single one weighs less than two. So
every reduction makes the stack lighter, and a token weighs less than what its text allows for. Hence
the moves that a text is given are enough, and with more of them the outcome is the same.
-/

namespace MathProg.Straight

open Automaton (State Rule lost start height maxHeight)
open Spot (Leads Path)

variable {source : List Char} {fs below : List Frame} {p : Extent} {c c' : Config} {out : Outcome}

theorem run_stable {fuel : Nat} (h : run source fuel c = some out) {more : Nat} (hle : fuel ≤ more) :
    run source more c = some out := by
  induction fuel generalizing c more with
  | zero => cases h
  | succ fuel ih =>
    cases more with
    | zero => omega
    | succ more =>
      rw [run] at h ⊢
      split at h
      · exact ih h (Nat.le_of_succ_le_succ hle)
      · exact h

/-- The trees of some frames in the order of the text. -/
def trees (fs : List Frame) : List Tree := (fs.map (·.tree)).reverse

theorem trees_cons (f : Frame) (fs : List Frame) : trees (f :: fs) = trees fs ++ [f.tree] := by
  rw [trees, List.map_cons, List.reverse_cons]
  rfl

theorem trees_pushAll (s : State) (fs : List Frame) (ts : List Tree) :
    trees (pushAll s fs ts) = trees fs ++ ts := by
  induction ts generalizing fs with
  | nil => exact (List.append_nil _).symm
  | cons t ts ih =>
    change trees (pushAll s (⟨s, t⟩ :: fs) ts) = _
    rw [ih, trees_cons, List.append_assoc]
    rfl

/-- Popping splits the trees. -/
theorem trees_pop {n : Nat} {taken ts : List Tree} (h : popFrames fs n taken = some (ts, below)) :
    trees fs ++ taken = trees below ++ ts := by
  induction fs generalizing n taken with
  | nil =>
    cases n with
    | zero =>
      cases h
      rfl
    | succ n => cases h
  | cons f fs ih =>
    cases n with
    | zero =>
      cases h
      rfl
    | succ n =>
      rw [trees_cons, List.append_assoc]
      exact ih h

/-- As many frames can be popped as there are trees that count. -/
theorem pop_isSome {n : Nat} (taken : List Tree) (h : n ≤ (Tree.counted (trees fs)).length) :
    (popFrames fs n taken).isSome = true := by
  induction fs generalizing n taken with
  | nil =>
    cases n with
    | zero => rfl
    | succ n => cases h
  | cons f fs ih =>
    cases n with
    | zero => rfl
    | succ n =>
      rw [trees_cons, Tree.counted_append, List.length_append, Tree.counted_cons] at h
      rw [popFrames]
      by_cases he : f.tree.extra = true
      · rw [if_pos he] at h ⊢
        exact ih _ (by simpa [Tree.counted] using h)
      · rw [if_neg he] at h ⊢
        exact ih _ (by simpa [Tree.counted] using h)

/-- A reduction is never short of trees. -/
theorem reduce_isSome {r : Rule} {x : Symbol} (h : Stacked source fs p) (hl : stateOf fs ≠ lost)
    (hr : Automaton.reduction? (stateOf fs) x = some r) : (reduce r fs).isSome = true := by
  obtain ⟨n, hpath⟩ := h.path (.here _)
  rw [List.append_nil] at hpath
  have htrail := (hpath.trail hl).2.length_le
  rw [show Automaton.trail Spot.origin.state = [] from Automaton.trail_start, List.append_nil,
    List.length_reverse] at htrail
  have hpop := pop_isSome [] (Nat.le_trans (Automaton.reduction_production hr).1 htrail)
  rw [reduce, Option.isSome_map]
  exact hpop

/-- What a symbol on the stack weighs. -/
def weigh (x : Symbol) : Nat := 2 * maxHeight + 1 - height x

def load (xs : List Symbol) : Nat := (xs.map weigh).sum

theorem load_append (xs ys : List Symbol) : load (xs ++ ys) = load xs + load ys := by
  rw [load, List.map_append, List.sum_append]
  rfl

theorem load_singleton (x : Symbol) : load [x] = weigh x := Nat.add_zero _

theorem weigh_bounds (x : Symbol) : maxHeight + 1 ≤ weigh x ∧ weigh x ≤ 2 * maxHeight + 1 := by
  have := Automaton.height_le x
  unfold weigh
  omega

theorem length_le_load (xs : List Symbol) : (maxHeight + 1) * xs.length ≤ load xs := by
  induction xs with
  | nil => exact Nat.le_refl _
  | cons x xs ih =>
    have hx := (weigh_bounds x).1
    have hload : load (x :: xs) = weigh x + load xs := rfl
    rw [hload, List.length_cons, Nat.mul_succ]
    omega

/-- What a reduction takes off the stack outweighs what it puts there. -/
theorem weigh_lt {r : Rule} {x : Symbol} {a b : Spot} {ts : List Tree}
    (hp : Path source a ts r.length b) (hb : b.state ≠ lost)
    (hr : Automaton.reduction? b.state x = some r) (hn : r.length ≠ 0) :
    weigh r.symbol < load (Tree.counted ts) := by
  by_cases h1 : r.length = 1
  · rw [h1] at hp
    obtain ⟨y, hy, hs⟩ := hp.single hb
    have hlt := Automaton.height_lt hr h1 hs
    have hle := Automaton.height_le r.symbol
    rw [hy, load_singleton, weigh, weigh]
    omega
  · have hload := length_le_load (Tree.counted ts)
    have hle := (weigh_bounds r.symbol).2
    have htwo : (maxHeight + 1) * 2 ≤ (maxHeight + 1) * r.length := Nat.mul_le_mul_left _ (by omega)
    rw [(hp.trail hb).1] at hload
    omega

/-- What an empty model may add. -/
def credit (s : State) : Nat := if s = start then 2 * maxHeight + 2 else 0

/-- A bound on the moves that are left. -/
def left (source : List Char) (c : Config) : Nat :=
  load (Tree.counted (trees c.frames)) + credit (stateOf c.frames) +
    (2 * maxHeight + 3) * (source.length - c.position.chars)

theorem stateOf_pushAll (s : State) (fs : List Frame) (t : Tree) (ts : List Tree) :
    stateOf (pushAll s fs (t :: ts)) = s := by
  induction ts generalizing fs t with
  | nil => rfl
  | cons u ts ih => exact ih (⟨s, t⟩ :: fs) u

/-- A reduction leads on, and makes the stack lighter. -/
theorem reduce_lt {r : Rule} {x : Symbol} {fs' : List Frame} (h : Stacked source fs p)
    (hl : stateOf fs ≠ lost) (hr : Automaton.reduction? (stateOf fs) x = some r)
    (hred : reduce r fs = some fs') :
    stateOf fs' ≠ lost ∧ load (Tree.counted (trees fs')) + credit (stateOf fs') <
      load (Tree.counted (trees fs)) + credit (stateOf fs) := by
  obtain ⟨⟨ts, below⟩, hpop, rfl⟩ := Option.map_eq_some_iff.mp hred
  obtain ⟨q, -, hpath⟩ := h.pop (.here _) hpop
  rw [Nat.zero_add] at hpath
  obtain ⟨s, hs⟩ := Option.isSome_iff_exists.mp (hpath.successor hl hr)
  have hsplit := trees_pop hpop
  rw [List.append_nil] at hsplit
  have hextra := (Tree.splitTrailingExtras_spec ts).2.2
  have hcounted : Tree.counted (Tree.ofRule r (Tree.splitTrailingExtras ts).1 ::
      (Tree.splitTrailingExtras ts).2) = [r.symbol] := by
    rw [Tree.counted_cons, if_neg (show ¬ (Tree.ofRule r _).extra = true from Bool.false_ne_true),
      Tree.counted_extras hextra]
    rfl
  have hlt := Automaton.start_lt_successor hs
  have hcredit : credit s = 0 := if_neg (Nat.ne_of_gt hlt)
  dsimp only at hs ⊢
  rw [hs, Option.getD_some, stateOf_pushAll, trees_pushAll, Tree.counted_append, hcounted,
    load_append, load_singleton, hsplit, Tree.counted_append, load_append, hcredit]
  refine ⟨Nat.ne_of_gt (Nat.zero_lt_of_lt hlt), ?_⟩
  by_cases hn : r.length = 0
  · rw [((Automaton.reduction_climbs hr).2 hn).1, credit, if_pos rfl]
    have := (weigh_bounds r.symbol).2
    omega
  · have := weigh_lt hpath hl hr hn
    omega

/-- A token that is taken has text. -/
theorem token_pos {l : Leaf} {place : Nat} (h : l.IsNext source place)
    (ht : l.symbol < Symbol.tokenCount) (hn : l.symbol ≠ Symbol.endOfText) :
    place < place + (Tree.leaf l).total.chars ∧
      place + (Tree.leaf l).total.chars ≤ source.length := by
  have hbound := h.fits.bound
  have hsize := congrArg Extent.chars h.fits.size
  have htotal : (Tree.leaf l).total.chars = l.padding.chars + l.size.chars := rfl
  have hle : l.symbol ≤ Symbol.bareword := h.symbol.resolve_right fun he => by
    rw [he] at ht
    exact absurd ht (by decide)
  have hne := List.length_pos_iff.mpr ((h.token ht).lexeme.ne_nil hle hn)
  rw [Extent.chars_ofChars] at hsize
  rw [Leaf.ends, Leaf.begins] at hbound
  omega

/-- A parser in a state of the automaton, with the way not lost. -/
structure Config.Steady (source : List Char) (c : Config) : Prop extends c.Sound source where
  going : stateOf c.frames ≠ lost

theorem left_take {l : Leaf} {s : State} {e : Bool}
    (hnext : l.IsNext source c.position.chars) (ht : l.symbol < Symbol.tokenCount)
    (hn : l.symbol ≠ Symbol.endOfText)
    (hs : if e then s = stateOf c.frames else s ≠ start) :
    left source ⟨⟨s, .leaf { l with extra := e }⟩ :: c.frames,
      c.position + (Tree.leaf l).total, none⟩ < left source c := by
  obtain ⟨hpos, hbound⟩ := token_pos hnext ht hn
  have hlength : (2 * maxHeight + 3) *
      (source.length - (c.position.chars + (Tree.leaf l).total.chars)) + (2 * maxHeight + 3) ≤
        (2 * maxHeight + 3) * (source.length - c.position.chars) := by
    rw [← Nat.mul_succ]
    exact Nat.mul_le_mul_left _ (by omega)
  have hstate : stateOf (⟨s, .leaf { l with extra := e }⟩ :: c.frames) = s := rfl
  rw [left, left, hstate, trees_cons, Tree.counted_append, load_append, Tree.chars_add]
  cases e with
  | true =>
    have hnone : Tree.counted [Tree.leaf { l with extra := true }] = [] := rfl
    rw [if_pos rfl] at hs
    rw [hnone, hs]
    change _ + 0 + _ + _ < _
    omega
  | false =>
    have hone : Tree.counted [Tree.leaf { l with extra := false }] = [l.symbol] := rfl
    have hw := (weigh_bounds l.symbol).2
    have hcredit : credit s = 0 := if_neg hs
    rw [hone, load_singleton, hcredit]
    omega

/-- A parser that stops hands over the frames that it has. -/
theorem step_stopped {look : Lookahead} (h : step source c = .inr (some (.stopped fs p look))) :
    c.frames = fs := by
  unfold step at h
  dsimp only at h
  split at h
  · cases h
  · cases h
  · split at h
    · cases h
    · cases h
  · obtain ⟨t, -, ht⟩ := Option.map_eq_some_iff.mp (Sum.inr.inj h)
    cases ht
  · cases h
    rfl
  · cases h
    rfl

/-- A parser that has not lost its way goes on, or ends. -/
theorem step_steady (h : c.Steady source) :
    (∃ c', step source c = .inl c' ∧ c'.Steady source ∧ left source c' < left source c) ∨
      ∃ out, step source c = .inr (some out) := by
  have hnext := h.next
  have hsound := step_sound h.toSound
  unfold step at hsound ⊢
  generalize c.lookahead.getD (read source c) = look at hnext hsound ⊢
  dsimp only at hsound ⊢
  cases ha : Automaton.action? (stateOf c.frames) look.leaf.symbol with
  | none => exact Or.inr ⟨_, rfl⟩
  | some a =>
    rw [ha] at hsound
    obtain ⟨ht, ⟨hl, rfl⟩ | ⟨-, ⟨hc, rfl⟩ | ⟨⟨hd, hend⟩, rfl⟩ | ⟨r, hr, rfl⟩ | ⟨u, hu, rfl⟩⟩⟩ :=
      Automaton.action_cases ha
    · exact absurd hl h.going
    · obtain ⟨c', he, hc'⟩ | ⟨o, he, -⟩ := hsound
      · cases he
        refine Or.inl ⟨_, rfl, ⟨hc', h.going⟩, left_take (e := true) hnext ht ?_ rfl⟩
        rw [hc]
        decide
      · cases he
    · obtain ⟨n, hpath⟩ := h.stacked.path (.here _)
      rw [List.append_nil] at hpath
      obtain ⟨t, hroot, -⟩ := hpath.whole hd hnext hend
      exact Or.inr ⟨.accepted t, by dsimp only; rw [hroot]; rfl⟩
    · obtain ⟨fs, hred⟩ := Option.isSome_iff_exists.mp (reduce_isSome h.stacked h.going hr)
      obtain ⟨hgoing, hlt⟩ := reduce_lt h.stacked h.going hr hred
      dsimp only at hsound ⊢
      rw [hred] at hsound ⊢
      obtain ⟨c', he, hc'⟩ | ⟨o, he, -⟩ := hsound
      · cases he
        exact Or.inl ⟨_, rfl, ⟨hc', hgoing⟩, Nat.add_lt_add_right hlt _⟩
      · cases he
    · have hn : look.leaf.symbol ≠ Symbol.endOfText := by
        rintro hn
        rw [hn, Automaton.successor_endOfText] at hu
        cases hu
      have hlt := Automaton.start_lt_successor hu
      have hx : look.leaf = { look.leaf with extra := false } := by
        rw [← beq_eq_false_iff_ne.mpr hn, ← hnext.extra]
      obtain ⟨c', he, hc'⟩ | ⟨o, he, -⟩ := hsound
      · cases he
        refine Or.inl ⟨_, rfl, ⟨hc', Nat.ne_of_gt (Nat.zero_lt_of_lt hlt)⟩, ?_⟩
        have htake := left_take (e := false) hnext ht hn (Nat.ne_of_gt hlt)
        rw [← hx] at htake
        exact htake
      · cases he

theorem run_isSome {fuel : Nat} (h : c.Steady source) (hf : left source c < fuel) :
    (run source fuel c).isSome = true := by
  induction fuel generalizing c with
  | zero => exact absurd hf (Nat.not_lt_zero _)
  | succ fuel ih =>
    rw [run]
    obtain ⟨c', he, hc', hlt⟩ | ⟨out, he⟩ := step_steady h
    · rw [he]
      exact ih hc' (by omega)
    · rw [he]
      rfl

/-- A parser that stops has not lost its way. -/
theorem run_stopped {fuel : Nat} {look : Lookahead} (h : c.Steady source)
    (hrun : run source fuel c = some (.stopped fs p look)) : stateOf fs ≠ lost := by
  induction fuel generalizing c with
  | zero => cases hrun
  | succ fuel ih =>
    rw [run] at hrun
    obtain ⟨c', he, hc', -⟩ | ⟨out, he⟩ := step_steady h
    · rw [he] at hrun
      exact ih hc' hrun
    · rw [he] at hrun
      cases hrun
      exact step_stopped he ▸ h.going

theorem initial_steady : Config.Steady source ⟨[], 0, none⟩ :=
  ⟨⟨.empty, fun _ hn => absurd hn (Option.not_mem_none _)⟩, by decide⟩

theorem parse_stopped {look : Lookahead} (h : parse source = some (.stopped fs p look)) :
    stateOf fs ≠ lost :=
  run_stopped initial_steady h

theorem parse_isSome (source : List Char) : (parse source).isSome = true := by
  refine run_isSome initial_steady ?_
  have hleft : left source ⟨[], 0, none⟩ = 10 + 11 * source.length := rfl
  rw [hleft, fuelFor]
  omega

/-- However many moves a run takes, it has the outcome of the parser. -/
theorem parse_eq_of_run {fuel : Nat} (h : run source fuel ⟨[], 0, none⟩ = some out) :
    parse source = some out := by
  obtain ⟨out', h'⟩ := Option.isSome_iff_exists.mp (parse_isSome source)
  rw [h']
  rcases Nat.le_total fuel (fuelFor source) with hle | hle
  · exact h'.symm.trans (run_stable h hle)
  · exact (run_stable h' hle).symm.trans h

end MathProg.Straight
