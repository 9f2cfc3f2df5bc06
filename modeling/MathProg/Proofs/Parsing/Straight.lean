import MathProg.Parse.Straight
import MathProg.Proofs.Parsing.Root

/-!
# Parsing without errors

The frames of the parser are a path from the start of the text, and every move keeps them one. So a
text that is accepted has a whole tree, and a parser that stops hands over a path.
-/

namespace MathProg.Straight

open Automaton (State Rule lost)
open Spot (Leads Path Climb)

variable {source : List Char} {fs : List Frame} {p : Extent}

/-- Frames that are a path to `p`, from the top down. -/
inductive Stacked (source : List Char) : List Frame → Extent → Prop
  | empty : Stacked source [] 0
  | push {fs : List Frame} {p q : Extent} {f : Frame} (h : Stacked source fs p)
      (hf : Leads source ⟨stateOf fs, p⟩ (some f.tree) ⟨f.state, q⟩) : Stacked source (f :: fs) q

theorem Stacked.isPlace (h : Stacked source fs p) : IsPlace source p := by
  induction h with
  | empty => exact .zero
  | @push fs p q f _ hf ih =>
    rw [show q = p + f.tree.total from hf.reach]
    exact Tree.isPlace_add _ ih (hf.tiled _ rfl)

/-- What is taken off the frames is the end of the path. -/
theorem Stacked.pop {n k : Nat} {taken ts : List Tree} {below : List Frame} {b : Spot}
    (h : Stacked source fs p) (hp : Path source ⟨stateOf fs, p⟩ taken k b)
    (hpop : popFrames fs n taken = some (ts, below)) :
    ∃ q, Stacked source below q ∧ Path source ⟨stateOf below, q⟩ ts (k + n) b := by
  induction fs generalizing n k taken p with
  | nil =>
    cases n with
    | zero =>
      cases hpop
      exact ⟨p, h, hp⟩
    | succ n => cases hpop
  | cons f fs ih =>
    cases n with
    | zero =>
      cases hpop
      exact ⟨p, h, hp⟩
    | succ n =>
      cases h with
      | push h hf =>
        have hdown := Path.down hf hp
        rw [popFrames] at hpop
        rw [Option.any_some, Option.toList_some, List.singleton_append] at hdown
        by_cases he : f.tree.extra = true
        · rw [if_pos he] at hpop hdown
          exact ih h hdown hpop
        · rw [if_neg he] at hpop hdown
          obtain ⟨q, hbelow, hts⟩ := ih h hdown hpop
          exact ⟨q, hbelow, by rwa [Nat.add_assoc, Nat.add_comm 1 n] at hts⟩

/-- All frames together are a path from the start. -/
theorem Stacked.path {k : Nat} {ts : List Tree} {b : Spot} (h : Stacked source fs p)
    (hp : Path source ⟨stateOf fs, p⟩ ts k b) :
    ∃ n, Path source .origin ((fs.map (·.tree)).reverse ++ ts) n b := by
  induction h generalizing k ts with
  | empty => exact ⟨k, hp⟩
  | @push fs p q f _ hf ih =>
    obtain ⟨n, hn⟩ := ih (.down hf hp)
    refine ⟨n, ?_⟩
    rw [List.map_cons, List.reverse_cons, List.append_assoc]
    exact hn

theorem Stacked.pushAll {s : State} {ts : List Tree} (h : Stacked source fs p)
    (hc : Climb source s ⟨stateOf fs, p⟩ ts) :
    Stacked source (pushAll s fs ts) (p + Tree.totalAll ts) := by
  induction ts generalizing fs p with
  | nil =>
    rw [Tree.totalAll, Extent.add_zero]
    exact h
  | cons t ts ih =>
    rw [Tree.totalAll_cons, ← Extent.add_assoc]
    exact ih (.push h hc.1) hc.2

/-- A reduction leaves the frames a path to the same place. -/
theorem Stacked.reduce {r : Rule} {x : Symbol} {fs' : List Frame} (h : Stacked source fs p)
    (hl : stateOf fs ≠ lost) (hr : Automaton.reduction? (stateOf fs) x = some r)
    (hred : reduce r fs = some fs') : Stacked source fs' p := by
  obtain ⟨⟨ts, below⟩, hpop, rfl⟩ := Option.map_eq_some_iff.mp hred
  obtain ⟨q, hbelow, hpath⟩ := h.pop (.here _) hpop
  rw [Nat.zero_add] at hpath
  have hall := hbelow.pushAll (hpath.reduce hl hr)
  have htotal : q + Tree.totalAll (Tree.ofRule r (Tree.splitTrailingExtras ts).1 ::
      (Tree.splitTrailingExtras ts).2) = p := by
    rw [Tree.totalAll_cons, Tree.ofRule, Tree.total_node, ← Tree.totalAll_append,
      (Tree.splitTrailingExtras_spec ts).1]
    exact hpath.reach.symm
  rw [htotal] at hall
  exact hall

/-- A parser whose frames are a path to its place, with the token that is next there. -/
structure Config.Sound (source : List Char) (c : Config) : Prop where
  stacked : Stacked source c.frames c.position
  lookahead : ∀ look ∈ c.lookahead, look.leaf.IsNext source c.position.chars

/-- The outcome of a sound run. -/
def Outcome.Sound (source : List Char) : Outcome → Prop
  | .accepted t => t.Whole source
  | .stopped fs p look => Stacked source fs p ∧ look.leaf.IsNext source p.chars

variable {c : Config}

theorem Config.Sound.next (h : c.Sound source) :
    (c.lookahead.getD (read source c)).leaf.IsNext source c.position.chars := by
  cases hl : c.lookahead with
  | some look => exact h.lookahead look hl
  | none =>
    have hplace := h.stacked.isPlace
    change ((Automaton.mode _).next (c.position.bytes == 0) (source.drop c.position.chars)).IsNext _ _
    rw [hplace.atStart]
    exact Mode.next_isNext _ hplace.bound

/-- Taking a token puts it behind what was read. -/
theorem Config.Sound.take {l : Leaf} {s : State} {e : Bool} (h : c.Sound source)
    (hl : Leads source ⟨stateOf c.frames, c.position⟩ (some (.leaf { l with extra := e }))
      ⟨s, c.position + (Tree.leaf l).total⟩) :
    Config.Sound source
      ⟨⟨s, .leaf { l with extra := e }⟩ :: c.frames, c.position + (Tree.leaf l).total, none⟩ :=
  ⟨.push h.stacked hl, fun _ hn => absurd hn (Option.not_mem_none _)⟩

/-- Every move keeps a parser sound, and if it is the last one, its outcome is sound. -/
theorem step_sound (h : c.Sound source) :
    (∃ c', step source c = .inl c' ∧ c'.Sound source) ∨
      ∃ o, step source c = .inr o ∧ ∀ out ∈ o, out.Sound source := by
  have hnext := h.next
  unfold step
  generalize c.lookahead.getD (read source c) = look at hnext ⊢
  dsimp only
  cases ha : Automaton.action? (stateOf c.frames) look.leaf.symbol with
  | none => exact Or.inr ⟨_, rfl, by rintro _ ⟨⟩; exact ⟨h.stacked, hnext⟩⟩
  | some a =>
    obtain ⟨ht, ⟨hl, rfl⟩ | ⟨hl, ⟨hc, rfl⟩ | ⟨⟨hd, hend⟩, rfl⟩ | ⟨r, hr, rfl⟩ | ⟨u, hu, rfl⟩⟩⟩ :=
      Automaton.action_cases ha
    · exact Or.inr ⟨_, rfl, by rintro _ ⟨⟩; exact ⟨h.stacked, hnext⟩⟩
    · exact Or.inl ⟨_, rfl, h.take (Spot.leads_token hnext ht hl (e := true) ⟨hc, rfl⟩)⟩
    · obtain ⟨n, hpath⟩ := h.stacked.path (.here _)
      rw [List.append_nil] at hpath
      obtain ⟨t, hroot, hwhole, -⟩ := hpath.whole hd hnext hend
      refine Or.inr ⟨_, rfl, ?_⟩
      rw [hroot]
      rintro _ ⟨⟩
      exact hwhole
    · cases hred : reduce r c.frames with
      | none =>
        simp only [hred]
        exact Or.inr ⟨_, rfl, by rintro _ ⟨⟩⟩
      | some fs =>
        simp only [hred]
        refine Or.inl ⟨_, rfl, h.stacked.reduce hl hr hred, ?_⟩
        rintro _ ⟨⟩
        exact hnext
    · have hfalse : look.leaf = { look.leaf with extra := false } := by
        have hx := hnext.extra
        have hn : look.leaf.symbol ≠ Symbol.endOfText := by
          rintro hn
          rw [hn, Automaton.successor_endOfText] at hu
          cases hu
        rw [beq_eq_false_iff_ne.mpr hn] at hx
        rw [← hx]
      have htake := h.take (Spot.leads_token hnext ht hl (e := false) hu)
      rw [← hfalse] at htake
      exact Or.inl ⟨_, rfl, htake⟩

theorem run_sound {fuel : Nat} {out : Outcome} (h : c.Sound source)
    (hrun : run source fuel c = some out) : out.Sound source := by
  induction fuel generalizing c with
  | zero => cases hrun
  | succ fuel ih =>
    rw [run] at hrun
    obtain ⟨c', hstep, hc⟩ | ⟨o, hstep, ho⟩ := step_sound h
    · rw [hstep] at hrun
      exact ih hc hrun
    · rw [hstep] at hrun
      exact ho out hrun

/-- What is read without errors has a sound outcome. -/
theorem parse_sound {out : Outcome} (h : parse source = some out) : out.Sound source :=
  run_sound ⟨.empty, fun _ hn => absurd hn (Option.not_mem_none _)⟩ h

end MathProg.Straight
