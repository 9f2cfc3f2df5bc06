import MathProg.Proofs.Lexing.Keywords
import MathProg.Proofs.Parsing.Termination

/-!
# Where tokens are read

While a text is read straight, a token is read in a state right behind another token, and that state can
go on with it.
-/

namespace MathProg

open Automaton (State row? action? successor?)

namespace Automaton

/-- A state behind a token, or at the start. -/
def IsFresh (s : State) : Prop := ∃ r, row? s = some r ∧ r.entry < Symbol.tokenCount

theorem isFresh_start : IsFresh start := by
  have h : (row? start).any (·.entry < Symbol.tokenCount) = true := by decide +kernel
  obtain ⟨r, hr, hlt⟩ := (Option.any_eq_true _ _).mp h
  exact ⟨r, hr, of_decide_eq_true hlt⟩

theorem isFresh_successor {s u : State} {t : Symbol} (h : successor? s t = some u)
    (ht : t < Symbol.tokenCount) : IsFresh u := by
  obtain ⟨-, r, hr, rfl⟩ := successor_some h
  exact ⟨r, hr, ht⟩

/-- A comment calls for no reduction. -/
theorem action_comment {s : State} {r : Rule} : action? s Symbol.comment ≠ some (.reduce r) := by
  intro h
  unfold action? at h
  split at h
  · cases h
  · split at h
    · cases h
    · rw [if_pos rfl] at h
      cases h

/-- Whether a state is not behind a token, or reads names, or has nothing to do with the inner
keywords. -/
def innerAt (s : State) : Bool :=
  (rowAt s).all fun r => Nat.ble Symbol.tokenCount r.entry ||
    (nth Mode.table.toList r.mode).any fun m =>
      m.tokens.any (Nat.beq Symbol.symbolicName) ||
        (r.successors.all fun u => (rowAt u).all fun q => !Symbol.innerKeywords.any (Nat.beq q.entry)) &&
          r.reductions.all fun p => (nth lookaheads.toList p.2).all fun ts =>
            Symbol.innerKeywords.all fun t => !ts.any (Nat.beq t)

theorem inner_checked : (List.range stateBound).all innerAt = true := by decide +kernel

/-- A state behind a token that does not read names has nothing to do with the inner keywords. -/
theorem action_inner {s : State} {t : Symbol} (hs : IsFresh s)
    (hnames : Symbol.symbolicName ∉ (mode s).tokens) (ht : t ∈ Symbol.innerKeywords) :
    action? s t = none := by
  obtain ⟨r, hr, hentry⟩ := hs
  have hcheck := of_all_states inner_checked hr
  have hrow := hr
  rw [row_eq] at hrow
  rw [innerAt, hrow, Option.all_some, Bool.or_eq_true] at hcheck
  obtain ⟨m, hm, hcheck⟩ := (Option.any_eq_true _ _).mp
    (hcheck.resolve_left fun hle => Nat.not_le_of_lt hentry (Nat.le_of_ble_eq_true hle))
  have hmode : mode s = m := by
    rw [nth_eq, Array.getElem?_toList] at hm
    rw [mode, modeIndex, hr, Option.elim_some, hm, Option.getD_some]
  rw [Bool.or_eq_true, Bool.and_eq_true] at hcheck
  obtain ⟨hsuccessors, hreductions⟩ := hcheck.resolve_left fun hany => hnames (by
    obtain ⟨x, hx, he⟩ := List.any_eq_true.mp hany
    rw [hmode, Nat.eq_of_beq_eq_true he]
    exact hx)
  cases ha : action? s t with
  | none => rfl
  | some a =>
    obtain ⟨-, ⟨hl, -⟩ | ⟨-, ⟨hc, -⟩ | ⟨⟨-, hend⟩, -⟩ | ⟨q, hq, -⟩ | ⟨u, hu, -⟩⟩⟩ := action_cases ha
    · rw [hl] at hnames
      exact absurd (by decide +kernel) hnames
    · rw [hc] at ht
      exact absurd ht (by decide)
    · rw [hend] at ht
      exact absurd ht (by decide)
    · obtain ⟨row, i, j, hrow', hij, -, ts, hts, hmem⟩ := reduction_some hq
      cases hr.symm.trans hrow'
      have hall := List.all_eq_true.mp hreductions _ hij
      rw [nth_eq, Array.getElem?_toList, hts, Option.all_some] at hall
      have hno := List.all_eq_true.mp hall t ht
      rw [Bool.not_eq_true', List.any_eq_false] at hno
      exact absurd (Nat.beq_refl t) (hno t hmem)
    · obtain ⟨⟨row, hrow', hmem⟩, q, hq, he⟩ := successor_some hu
      cases hr.symm.trans hrow'
      have hall := List.all_eq_true.mp hsuccessors u hmem
      rw [row_eq] at hq
      rw [hq, Option.all_some, Bool.not_eq_true', List.any_eq_false] at hall
      exact absurd (by rw [he]; exact Nat.beq_refl t) (hall t ht)

end Automaton

/-- A token that was read in a state behind a token which can go on with it, or else in the mode that
knows every token. -/
def Leaf.Expected (source : List Char) (place : Nat) (l : Leaf) : Prop :=
  (∃ s, Automaton.IsFresh s ∧ (action? s l.symbol).isSome = true ∧
    l.ReadIn source place (Automaton.mode s)) ∨ l.ReadIn source place Mode.anything

/-- What a state behind a token reads next was expected, if the state can go on with it. -/
theorem Mode.next_expected {source : List Char} {place : Nat} {s : State} (hs : Automaton.IsFresh s)
    (ha : (action? s ((Automaton.mode s).next (place == 0) (source.drop place)).symbol).isSome = true) :
    ((Automaton.mode s).next (place == 0) (source.drop place)).Expected source place := by
  unfold next at ha ⊢
  split
  · rename_i r hr
    rw [hr] at ha
    exact Or.inl ⟨s, hs, ha, leafOf_readIn (plain_mode s) hr⟩
  · rename_i hnone
    rw [hnone] at ha
    dsimp only at ha
    split
    · rename_i r hr
      exact Or.inr (leafOf_readIn plain_anything hr)
    · rename_i hnone'
      rw [hnone'] at ha
      obtain ⟨a, ha⟩ := Option.isSome_iff_exists.mp ha
      exact absurd (Automaton.action_cases ha).1 (by decide : ¬ Symbol.error < Symbol.tokenCount)

namespace Tree

variable {P : Nat → Leaf → Prop} {place : Nat}

mutual

/-- Whether something holds of each leaf at its place. -/
def Each (P : Nat → Leaf → Prop) (place : Nat) : Tree → Prop
  | leaf l => P place l
  | node _ _ cs _ => EachAll P place cs

def EachAll (P : Nat → Leaf → Prop) (place : Nat) : List Tree → Prop
  | [] => True
  | c :: cs => Each P place c ∧ EachAll P (place + c.total.chars) cs

end

theorem eachAll_append {ts us : List Tree} :
    EachAll P place (ts ++ us) ↔
      EachAll P place ts ∧ EachAll P (place + (totalAll ts).chars) us := by
  induction ts generalizing place with
  | nil => simp only [List.nil_append, EachAll, true_and, totalAll]; exact Iff.rfl
  | cons t ts ih =>
    rw [List.cons_append, EachAll, EachAll, ih, totalAll_cons, chars_add, Nat.add_assoc, and_assoc]

end Tree

namespace Straight

open MathProg.Tree (EachAll)

variable {source : List Char} {c : Config} {fs : List Frame} {p : Extent}

/-- A parser whose tokens were all expected where they were read, and that reads only behind a token. -/
structure Config.Fresh (source : List Char) (c : Config) : Prop where
  trees : EachAll (Leaf.Expected source) 0 (trees c.frames)
  state : c.lookahead = none → Automaton.IsFresh (stateOf c.frames)
  kept : ∀ look ∈ c.lookahead, look.leaf.Expected source c.position.chars ∧
    look.leaf.symbol ≠ Symbol.comment

/-- The trees on the stack reach as far as the parser has come. -/
theorem Stacked.position (h : Stacked source fs p) : p = Tree.totalAll (Straight.trees fs) := by
  obtain ⟨n, hpath⟩ := h.path (.here _)
  rw [List.append_nil] at hpath
  exact hpath.reach.trans (Extent.zero_add _)

/-- A reduction keeps the leaves. -/
theorem each_reduce {P : Nat → Leaf → Prop} {r : Automaton.Rule} {fs' : List Frame}
    (h : EachAll P 0 (Straight.trees fs)) (hred : reduce r fs = some fs') :
    EachAll P 0 (Straight.trees fs') := by
  obtain ⟨⟨ts, below⟩, hpop, rfl⟩ := Option.map_eq_some_iff.mp hred
  have hsplit := trees_pop hpop
  rw [List.append_nil] at hsplit
  rw [hsplit, Tree.eachAll_append] at h
  obtain ⟨hbelow, hts⟩ := h
  rw [trees_pushAll, Tree.eachAll_append]
  refine ⟨hbelow, ?_⟩
  rw [← (Tree.splitTrailingExtras_spec ts).1, Tree.eachAll_append] at hts
  refine ⟨hts.1, ?_⟩
  rw [Tree.ofRule, Tree.total_node]
  exact hts.2

theorem Config.Fresh.next (hf : c.Fresh source) (hs : c.Sound source)
    (ha : (action? (stateOf c.frames) (c.lookahead.getD (read source c)).leaf.symbol).isSome = true) :
    (c.lookahead.getD (read source c)).leaf.Expected source c.position.chars := by
  cases hl : c.lookahead with
  | some look => exact (hf.kept look hl).1
  | none =>
    rw [hl] at ha
    change (action? (stateOf c.frames) ((Automaton.mode _).next (c.position.bytes == 0)
      (source.drop c.position.chars)).symbol).isSome = true at ha
    change ((Automaton.mode _).next (c.position.bytes == 0) (source.drop c.position.chars)).Expected _ _
    rw [hs.stacked.isPlace.atStart] at ha ⊢
    exact Mode.next_expected (hf.state hl) ha

theorem Config.Fresh.take {l : Leaf} {s : State} {e : Bool} (hf : c.Fresh source) (hs : c.Sound source)
    (hl : l.Expected source c.position.chars) (hfresh : Automaton.IsFresh s) :
    Config.Fresh source
      ⟨⟨s, .leaf { l with extra := e }⟩ :: c.frames, c.position + (Tree.leaf l).total, none⟩ := by
  refine ⟨?_, fun _ => hfresh, fun _ hn => absurd hn (Option.not_mem_none _)⟩
  rw [trees_cons, Tree.eachAll_append, Nat.zero_add, ← hs.stacked.position]
  exact ⟨hf.trees, hl, trivial⟩

/-- Every move keeps it so. -/
theorem step_fresh {c' : Config} (hf : c.Fresh source) (hs : c.Sound source)
    (h : step source c = .inl c') : c'.Fresh source := by
  have hexpected := hf.next hs
  -- with a comment ahead, no reduction was made since the last token
  have hstate : (c.lookahead.getD (read source c)).leaf.symbol = Symbol.comment →
      Automaton.IsFresh (stateOf c.frames) := by
    intro hc
    cases hl : c.lookahead with
    | none => exact hf.state hl
    | some look =>
      rw [hl] at hc
      exact absurd hc (hf.kept look hl).2
  unfold step at h
  generalize c.lookahead.getD (read source c) = look at h hexpected hstate
  dsimp only at h
  cases ha : action? (stateOf c.frames) look.leaf.symbol with
  | none =>
    rw [ha] at h
    cases h
  | some a =>
    have hx := hexpected (by rw [ha]; rfl)
    rw [ha] at h
    obtain ⟨ht, ⟨-, rfl⟩ | ⟨-, ⟨hc, rfl⟩ | ⟨-, rfl⟩ | ⟨r, -, rfl⟩ | ⟨u, hu, rfl⟩⟩⟩ :=
      Automaton.action_cases ha
    · cases h
    · cases h
      exact hf.take (e := true) hs hx (hstate hc)
    · cases h
    · dsimp only at h
      cases hred : reduce r c.frames with
      | none =>
        rw [hred] at h
        cases h
      | some fs =>
        rw [hred] at h
        cases h
        refine ⟨each_reduce hf.trees hred, fun hn => absurd hn (Option.some_ne_none _), ?_⟩
        rintro _ ⟨⟩
        exact ⟨hx, fun hc => Automaton.action_comment (hc ▸ ha)⟩
    · cases h
      exact hf.take (e := look.leaf.extra) hs hx (Automaton.isFresh_successor hu ht)

/-- The last move makes a tree of the trees on the stack. -/
theorem step_accepted {t : Tree} (hf : c.Fresh source) (hs : c.Sound source)
    (h : step source c = .inr (some (.accepted t))) :
    ∃ s as cs e, t = .node s as (cs ++ [.leaf e]) false ∧ EachAll (Leaf.Expected source) 0 cs := by
  have hnext := hs.next
  unfold step at h
  generalize c.lookahead.getD (read source c) = look at h hnext
  dsimp only at h
  cases ha : action? (stateOf c.frames) look.leaf.symbol with
  | none =>
    rw [ha] at h
    cases h
  | some a =>
    rw [ha] at h
    obtain ⟨-, ⟨-, rfl⟩ | ⟨-, ⟨-, rfl⟩ | ⟨⟨hd, hend⟩, rfl⟩ | ⟨r, -, rfl⟩ | ⟨u, -, rfl⟩⟩⟩ :=
      Automaton.action_cases ha
    · cases h
    · cases h
    · simp only [Sum.inr.injEq, Option.map_eq_some_iff, Outcome.accepted.injEq, exists_eq_right] at h
      obtain ⟨n, hpath⟩ := hs.stacked.path (.here _)
      rw [List.append_nil] at hpath
      have htiled := hpath.tiled
      obtain ⟨before, u, after, htrees, -, hu, hmodel, hafter⟩ := hpath.arrive hd rfl
      have hextra : (Tree.leaf look.leaf).extra = true := by
        change look.leaf.extra = true
        rw [hnext.extra, hend]
        rfl
      have heach := hf.trees
      rw [Straight.trees, htrees] at heach
      rw [htrees] at h htiled
      cases u with
      | leaf k =>
        rw [Tree.tiledAll_append] at htiled
        exact absurd hmodel htiled.2.1.ne_model
      | node s as cs e =>
        have he : e = false := hu
        subst he
        have hafter' : ∀ t ∈ after ++ [.leaf look.leaf], t.extra = true :=
          List.forall_mem_append.mpr ⟨hafter, List.forall_mem_singleton.mpr hextra⟩
        rw [List.append_assoc, List.cons_append, Tree.root?_eq hafter'] at h
        refine ⟨s, as, before ++ cs ++ after, look.leaf, ?_, ?_⟩
        · rw [← Option.some.inj h, List.append_assoc (before ++ cs)]
        · rw [Tree.eachAll_append, Tree.EachAll, Tree.total_node] at heach
          rw [List.append_assoc, Tree.eachAll_append, Tree.eachAll_append]
          exact heach
    · dsimp only at h
      cases hred : reduce r c.frames with
      | none =>
        rw [hred] at h
        cases h
      | some fs =>
        rw [hred] at h
        cases h
    · cases h

/-- All leaves of a text that is read straight were expected where they were read. -/
theorem run_expected {fuel : Nat} {t : Tree} (hf : c.Fresh source) (hs : c.Sound source)
    (h : run source fuel c = some (.accepted t)) :
    ∃ s as cs e, t = .node s as (cs ++ [.leaf e]) false ∧ EachAll (Leaf.Expected source) 0 cs := by
  induction fuel generalizing c with
  | zero => cases h
  | succ fuel ih =>
    rw [run] at h
    obtain ⟨c', hstep, hc⟩ | ⟨o, hstep, -⟩ := step_sound hs
    · rw [hstep] at h
      exact ih (step_fresh hf hs hstep) hc h
    · rw [hstep] at h
      exact step_accepted hf hs (hstep.trans (congrArg Sum.inr h))

theorem parse_expected {t : Tree} (h : parse source = some (.accepted t)) :
    ∃ s as cs e, t = .node s as (cs ++ [.leaf e]) false ∧ EachAll (Leaf.Expected source) 0 cs :=
  have hfresh : Config.Fresh source ⟨[], 0, none⟩ :=
    ⟨trivial, fun _ => Automaton.isFresh_start, fun _ hn => absurd hn (Option.not_mem_none _)⟩
  run_expected hfresh ⟨.empty, fun _ hn => absurd hn (Option.not_mem_none _)⟩ h

end Straight

end MathProg
