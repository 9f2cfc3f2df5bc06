import MathProg.Proofs.Parsing.Fresh
import MathProg.Proofs.Parsing.Made
import MathProg.Proofs.Parsing.Spelled

/-!
# What a parse makes

The trees on the stack of a text that is accepted are made by the automaton, and their leaves make up the
text. While the parser has not read the next token, the trees are made whatever that will be.
-/

namespace MathProg

namespace Tree

open Automaton (State)

variable {s r : State} {ts : List Tree}

theorem readingsAll_comments (h : ∀ t ∈ ts, t.IsComment) (s s' r : State) :
    readingsAll s r ts = readingsAll s' r ts := by
  induction ts generalizing s s' with
  | nil => rfl
  | cons t ts ih =>
    obtain ⟨l, rfl, hl, -⟩ := (h t List.mem_cons_self).eq_leaf
    have hrest := ih (fun u hu => h u (List.mem_cons_of_mem _ hu)) (goto s (leaf l)) (goto s' (leaf l))
    simp only [readingsAll, readings, pending, if_pos hl, hrest]

theorem endsCounted_cons {c : Tree} {cs es : List Tree} (h : EndsCounted cs)
    (hes : ∀ e ∈ es, e.extra = true) (hc : c.extra = false) (heq : ∃ ds, cs ++ es = c :: ds) :
    ∃ ds, cs = c :: ds := by
  obtain ⟨ds, heq⟩ := heq
  cases cs with
  | nil =>
    have hextra := hes c (by rw [List.nil_append] at heq; rw [heq]; exact List.mem_cons_self)
    rw [hc] at hextra
    cases hextra
  | cons d cs => exact ⟨cs, by rw [(List.cons.inj heq).1]⟩

end Tree

namespace Straight

open Automaton (State Rule action? successor? lost start done)
open MathProg.Tree (goto gotoAll pendingAll readingsAll MadeAll counted EndsCounted)

variable {source : List Char} {fs gs below : List Frame} {p q : Extent} {x y : Symbol} {l : Leaf}
  {ls : List (Extent × Leaf)} {t : Tree} {ts es taken : List Tree} {ρ : Rule} {r : State} {n : Nat}

/-- Frames with the states that their trees lead to. -/
def Legal : List Frame → Prop
  | [] => True
  | f :: fs => f.state = f.tree.goto (stateOf fs) ∧ Legal fs

theorem Legal.stateOf (h : Legal fs) : Straight.stateOf fs = gotoAll start (trees fs) := by
  induction fs with
  | nil => rfl
  | cons f fs ih =>
    rw [trees_cons, Tree.gotoAll_append, ← ih h.2]
    exact h.1

theorem Legal.pop (h : Legal fs) (hp : popFrames fs n taken = some (ts, below)) : Legal below := by
  induction fs generalizing n taken with
  | nil =>
    cases n with
    | zero =>
      cases hp
      exact h
    | succ n => cases hp
  | cons f fs ih =>
    cases n with
    | zero =>
      cases hp
      exact h
    | succ n => exact ih h.2 hp

theorem Legal.pushAll (h : Legal fs) (hes : ∀ e ∈ es, e.extra = true) :
    Legal (Straight.pushAll (Straight.stateOf fs) fs es) := by
  induction es generalizing fs with
  | nil => exact h
  | cons e es ih =>
    have he := hes e List.mem_cons_self
    have hpushed : Legal (⟨Straight.stateOf fs, e⟩ :: fs) := ⟨(Tree.goto_extra _ he).symm, h⟩
    exact ih hpushed fun u hu => hes u (List.mem_cons_of_mem _ hu)

/-- As many trees are taken off as count, and the first of them counts. -/
theorem counted_pop (h : popFrames fs n taken = some (ts, below)) :
    (counted ts).length = n + (counted taken).length ∧
      (n ≠ 0 → ∃ c ds, ts = c :: ds ∧ c.extra = false) := by
  induction fs generalizing n taken with
  | nil =>
    cases n with
    | zero =>
      cases h
      exact ⟨(Nat.zero_add _).symm, fun hno => absurd rfl hno⟩
    | succ n => cases h
  | cons f fs ih =>
    cases n with
    | zero =>
      cases h
      exact ⟨(Nat.zero_add _).symm, fun hno => absurd rfl hno⟩
    | succ n =>
      rw [popFrames] at h
      obtain ⟨hlength, hfirst⟩ := ih h
      rw [Tree.counted_cons] at hlength
      by_cases hf : f.tree.extra = true
      · rw [if_pos hf] at hfirst
        rw [if_pos hf, if_pos hf] at hlength
        exact ⟨hlength, fun _ => hfirst (Nat.succ_ne_zero n)⟩
      · rw [if_neg hf] at hfirst h
        rw [if_neg hf, if_neg hf, List.length_cons] at hlength
        refine ⟨by omega, fun _ => ?_⟩
        cases n with
        | zero =>
          rw [popFrames] at h
          cases h
          exact ⟨_, _, rfl, eq_false_of_ne_true hf⟩
        | succ n => exact hfirst (Nat.succ_ne_zero n)

/-- Only the model leads to the end. -/
theorem goto_ne_done {s : State} {t : Tree} (he : t.extra = false) (ht : t.symbol ≠ Symbol.model) :
    goto s t ≠ done := by
  rw [goto, he, if_neg Bool.false_ne_true]
  cases hu : successor? s t.symbol with
  | none => decide
  | some u =>
    rintro rfl
    exact ht (Automaton.eq_start_of_successor_done hu).2

/-- What stands on a stack that has not left the start does not count. -/
theorem Legal.extras (h : Legal fs) (hs : Straight.stateOf fs = start) :
    ∀ t ∈ trees fs, t.extra = true := by
  induction fs with
  | nil => exact fun t ht => absurd ht List.not_mem_nil
  | cons f fs ih =>
    have hgoto : f.tree.goto (Straight.stateOf fs) = start := h.1.symm.trans hs
    have hextra : f.tree.extra = true := by
      by_contra hno
      rw [goto, if_neg hno] at hgoto
      cases hu : successor? (Straight.stateOf fs) f.tree.symbol with
      | none =>
        rw [hu] at hgoto
        cases hgoto
      | some u =>
        rw [hu, Option.getD_some] at hgoto
        exact absurd (Automaton.start_lt_successor hu) (by rw [hgoto]; exact Nat.lt_irrefl _)
    rw [Tree.goto_extra _ hextra] at hgoto
    rw [trees_cons]
    exact List.forall_mem_append.mpr
      ⟨ih h.2 hgoto, List.forall_mem_cons.mpr ⟨hextra, fun _ hno => absurd hno List.not_mem_nil⟩⟩

/-- The trees on the stack are made before the token `x`, and their leaves make up the text up to a place.
The next token is read in the state `r`. -/
structure Making (source : List Char) (fs : List Frame) (p : Extent) (x : Symbol) (r : State) : Prop where
  legal : Legal fs
  made : MadeAll start x (trees fs)
  read : Spelled true (readingsAll start start (trees fs)) source (source.drop p.chars)
  pending : pendingAll start start (trees fs) = r
  going : stateOf fs ≠ done

theorem length_of_action (ha : action? (stateOf fs) x = some (.reduce ρ))
    (hx : ρ.symbol ≠ Symbol.model) : ρ.length ≠ 0 :=
  (Automaton.reduction_model (reduction_of_action ha)).2 hx

/-- A reduction makes a node of what it takes off. -/
theorem Making.reduce (h : Making source fs p x r)
    (ha : action? (stateOf fs) x = some (.reduce ρ)) (hm : ρ.symbol ≠ Symbol.model)
    (hr : Straight.reduce ρ fs = some gs) : Making source gs p x r := by
  obtain ⟨⟨ts, below⟩, hpop, rfl⟩ := Option.map_eq_some_iff.mp hr
  have hsplit := trees_pop hpop
  obtain ⟨hlength, hfirst⟩ := counted_pop hpop
  obtain ⟨c, ds, hts, hc⟩ := hfirst (length_of_action ha hm)
  have hbelow := h.legal.pop hpop
  obtain ⟨happ, hcounted, hextra⟩ := Tree.splitTrailingExtras_spec ts
  dsimp only
  generalize (Tree.splitTrailingExtras ts).1 = cs at happ hcounted
  generalize (Tree.splitTrailingExtras ts).2 = es at happ hextra
  subst happ
  rw [List.append_nil] at hsplit
  have hmade := h.made
  have hread := h.read
  have hpending := h.pending
  have hstate := h.legal.stateOf
  rw [hsplit, Tree.madeAll_append, Tree.madeAll_append, Tree.madeAll_extras hextra] at hmade
  obtain ⟨hunder, hchildren, hcomments⟩ := hmade
  rw [Tree.ahead_comments hcomments] at hchildren
  rw [hsplit, Tree.readingsAll_append, Tree.readingsAll_append] at hread
  rw [hsplit, Tree.pendingAll_append, Tree.pendingAll_append,
    Tree.pendingAll_comments hcomments] at hpending
  rw [hsplit, Tree.gotoAll_append, Tree.gotoAll_append, Tree.gotoAll_extras _ hextra] at hstate
  have hrule : (⟨ρ.symbol, (counted cs).length, ρ.aliases⟩ : Rule) = ρ := by
    rw [Tree.counted_append, Tree.counted_extras hextra, List.append_nil] at hlength
    rw [hlength]
    rfl
  obtain ⟨ds', hcs⟩ := Tree.endsCounted_cons hcounted hextra hc ⟨ds, hts⟩
  have hnode : (Tree.ofRule ρ cs).Made (gotoAll start (trees below)) x := by
    refine ⟨rfl, ⟨c, ds', hcs, hc⟩, hcounted, hchildren, ?_⟩
    rw [hrule, ← hstate]
    exact ha
  have hahead : Tree.ahead (Tree.ofRule ρ cs :: es) x = Tree.ahead (cs ++ es) x := by
    rw [Tree.ahead, Tree.firstAll?, Tree.ahead, Tree.firstAll?_append]
    rfl
  have hlegal : Legal (⟨goto (stateOf below) (Tree.ofRule ρ cs), Tree.ofRule ρ cs⟩ :: below) :=
    ⟨rfl, hbelow⟩
  constructor
  · exact hlegal.pushAll hextra
  · rw [trees_pushAll, Tree.madeAll_append, hahead]
    refine ⟨hunder, fun hno => absurd hno Bool.false_ne_true, fun _ => ?_,
      (Tree.madeAll_extras hextra).mpr hcomments⟩
    rw [Tree.ahead_comments hcomments]
    exact hnode
  · rw [trees_pushAll, Tree.readingsAll_append, readingsAll, Tree.ofRule, Tree.readings, Tree.pending,
      Tree.readingsAll_comments hcomments _ (gotoAll (gotoAll start (trees below)) cs)]
    exact hread
  · rw [trees_pushAll, Tree.pendingAll_append, pendingAll, Tree.ofRule, Tree.pending,
      Tree.pendingAll_comments hcomments]
    exact hpending
  · rw [stateOf_pushAll]
    exact goto_ne_done (t := Tree.ofRule ρ cs) rfl hm

theorem Making.reduces (h : Making source fs p x r) (hr : Reduces x fs gs)
    (hx : x ≠ Symbol.endOfText) : Making source gs p x r := by
  induction hr with
  | refl => exact h
  | step ha hred _ ih =>
    have hmodel := (Automaton.reduction_model (reduction_of_action ha)).1
    exact ih (h.reduce ha (fun hno => hx (hmodel hno)) hred)

/-- One more leaf. -/
theorem Making.spell {g w rest : List Char} {e : Bool}
    (h : Making source fs p x r) (hst : Standing source gs p) (hs : Sighted source gs p l g w rest)
    (hr : stateOf gs = r) (hslash : w = ['/'] → rest.head? ≠ some '*') :
    Spelled true (readingsAll start start (trees fs ++ [.leaf { l with extra := e }])) source
      (source.drop (p + (Tree.leaf l).total).chars) := by
  rw [Tree.readingsAll_append, h.pending]
  refine h.read.append ?_
  obtain ⟨v, hv, hnil⟩ := h.read.exists_stretch
  have hplace : (true && (readingsAll start start (trees fs)).isEmpty) = (p.chars == 0) := by
    have hlength := congrArg List.length hv
    have hbound := hst.stacked.isPlace.bound
    rw [List.length_append, List.length_drop] at hlength
    rw [Bool.true_and, Bool.eq_iff_iff, List.isEmpty_iff, ← hnil, beq_iff_eq,
      ← List.length_eq_zero_iff]
    omega
  have hlegible := hs.toLegible
  have hfalse : l.extra = false := congrArg Leaf.extra hs.leaf
  rw [hr] at hlegible
  rw [hplace, hs.drop_total, hs.text]
  have hleaf : l = { { l with extra := e } with extra := false } := by rw [← hfalse]
  rw [hleaf] at hlegible
  exact .cons hlegible hslash (.nil _ _)

theorem Making.takes {g w rest : List Char} (h : ∀ x, Making source fs p x (stateOf fs))
    (hst : Standing source fs p) (hs : Sighted source fs p l g w rest) (ht : Takes l fs gs)
    (hslash : w = ['/'] → rest.head? ≠ some '*') (y : Symbol) :
    Making source gs (p + (Tree.leaf l).total) y (stateOf gs) := by
  have hfalse : l.extra = false := congrArg Leaf.extra hs.leaf
  cases ht with
  | @token is u hred ha =>
    have hm := (h l.symbol).reduces hred hs.ne_endOfText
    have hstate := hm.legal.stateOf
    have hgoto : goto (stateOf is) (.leaf l) = u := by
      rw [goto, Tree.extra, hfalse, if_neg Bool.false_ne_true, Tree.symbol,
        (successor_of_action ha).1, Option.getD_some]
    have hspell := hm.spell (e := false) hst hs rfl hslash
    rw [← hfalse] at hspell
    constructor
    · exact ⟨hgoto.symm, hm.legal⟩
    · rw [trees_cons, Tree.madeAll_append, ← hstate]
      refine ⟨?_, fun hno => absurd (hfalse.symm.trans hno) Bool.false_ne_true, fun _ => ⟨hfalse, ?_⟩,
        trivial⟩
      · have hahead : Tree.ahead [Tree.leaf l] y = l.symbol := by
          rw [Tree.ahead, Tree.firstAll?, Tree.first?, hfalse]
          rfl
        rw [hahead]
        exact hm.made
      · rw [hgoto]
        exact ha
    · rw [trees_cons]
      exact hspell
    · rw [trees_cons, Tree.pendingAll_append, ← hstate, pendingAll, Tree.pending, hfalse,
        if_neg Bool.false_ne_true, hgoto]
      rfl
    · change u ≠ done
      rw [← hgoto]
      refine goto_ne_done hfalse fun hno => ?_
      have htoken := (Automaton.action_cases ha).1
      rw [show l.symbol = Symbol.model from hno] at htoken
      exact absurd htoken (by decide)
  | comment ha =>
    have hm := h y
    have hspell := hm.spell (e := true) hst hs rfl hslash
    have hcomment : (Tree.leaf { l with extra := true }).IsComment := ⟨rfl, shiftExtra_of_action ha⟩
    constructor
    · exact ⟨(Tree.goto_extra _ rfl).symm, hm.legal⟩
    · rw [trees_cons, Tree.madeAll_append,
        Tree.ahead_comments (List.forall_mem_cons.mpr ⟨hcomment, fun _ hno => absurd hno List.not_mem_nil⟩)]
      exact ⟨hm.made, fun _ => hcomment, fun hno => absurd hno.symm Bool.false_ne_true, trivial⟩
    · rw [trees_cons]
      exact hspell
    · rw [trees_cons, Tree.pendingAll_append, hm.pending, pendingAll, Tree.pending, if_pos rfl]
      rfl
    · exact hm.going

theorem making_of_run (hr : Run source fs p ls gs q) (ha : Accepts source gs q t)
    (hst : Standing source fs p) (h : ∀ x, Making source fs p x (stateOf fs)) :
    ∀ x, Making source gs q x (stateOf gs) := by
  induction hr with
  | nil => exact h
  | @cons fs hs gs p q l ls hl ht hr ih =>
    obtain ⟨⟨a, hact⟩, hne⟩ := ht.acts
    obtain ⟨g, w, rest, hsight⟩ := hst.sighted hl hact hne
    refine ih ha (hst.takes (hl ▸ hst.isNext) ht) (Making.takes h hst hsight ht fun hw => ?_)
    subst hw
    exact hsight.not_star hst hl ht hr ha

/-- The model is made of all that counts. -/
theorem Legal.reduce_model (h : Legal fs) (hr : Straight.reduce ρ fs = some gs)
    (hd : Straight.stateOf gs = done) :
    ∃ before cs after, trees fs = before ++ cs ++ after ∧
      trees gs = before ++ Tree.ofRule ρ cs :: after ∧ (∀ t ∈ after, t.extra = true) ∧
        ρ.length = (counted (trees fs)).length := by
  obtain ⟨⟨ts, below⟩, hpop, rfl⟩ := Option.map_eq_some_iff.mp hr
  have hsplit := trees_pop hpop
  obtain ⟨hlength, -⟩ := counted_pop hpop
  obtain ⟨happ, -, hextra⟩ := Tree.splitTrailingExtras_spec ts
  dsimp only at hd ⊢
  rw [stateOf_pushAll] at hd
  have hbelow : Straight.stateOf below = start := by
    cases hu : successor? (Straight.stateOf below) ρ.symbol with
    | none =>
      rw [hu] at hd
      cases hd
    | some u =>
      rw [hu, Option.getD_some] at hd
      exact (Automaton.eq_start_of_successor_done (hd ▸ hu)).1
  refine ⟨trees below, _, _, ?_, trees_pushAll _ _ _, hextra, ?_⟩
  · rw [List.append_assoc, happ, ← hsplit, List.append_nil]
  · rw [List.append_nil] at hsplit
    rw [hsplit, Tree.counted_append, Tree.counted_extras ((h.pop hpop).extras hbelow), List.nil_append,
      hlength]
    rfl

/-- Behind the model nothing else is made. -/
theorem Reduces.of_done (hr : Reduces x fs gs) (hx : x = Symbol.endOfText)
    (hs : stateOf fs = done ∨ stateOf fs = lost) : gs = fs := by
  cases hr with
  | refl => rfl
  | step ha =>
    subst hx
    rcases hs with hs | hs
    · rw [hs, show action? done Symbol.endOfText = some .accept by decide +kernel] at ha
      cases ha
    · rw [hs, show action? lost Symbol.endOfText = some .recover by decide +kernel] at ha
      cases ha

/-- Before the end of the text all is made but the root, and then that is. -/
theorem Making.ends (h : Making source fs p x r) (hx : x = Symbol.endOfText) (hr : Reduces x fs gs)
    (hacc : action? (stateOf gs) Symbol.endOfText = some .accept) :
    ∃ is ρ, Making source is p x r ∧ ρ.symbol = Symbol.model ∧
      action? (stateOf is) x = some (.reduce ρ) ∧ Straight.reduce ρ is = some gs := by
  induction hr with
  | refl => exact absurd (Automaton.done_of_accept hacc) h.going
  | @step fs hs gs ρ ha hred hrest ih =>
    by_cases hm : ρ.symbol = Symbol.model
    · refine ⟨fs, ρ, h, hm, ha, ?_⟩
      obtain ⟨⟨ts, below⟩, -, hpush⟩ := Option.map_eq_some_iff.mp hred
      have hstate : stateOf hs = (successor? (stateOf below) ρ.symbol).getD lost := by
        rw [← hpush]
        exact stateOf_pushAll _ _ _ _
      have hend : stateOf hs = done ∨ stateOf hs = lost := by
        rw [hstate, hm]
        cases hu : successor? (stateOf below) Symbol.model with
        | none => exact Or.inr rfl
        | some u =>
          obtain ⟨-, row, hrow, he⟩ := Automaton.successor_some hu
          exact Or.inl ((Automaton.ends hrow).2.1.mp he)
      rw [hrest.of_done hx hend]
      exact hred
    · exact ih (h.reduce ha hm hred) hacc

/-- The children of a root: made one after the other up to the end of the text, and read from the text up
to a gap. -/
structure Parsed (source : List Char) (ts : List Tree) (as : List (Nat × Symbol)) (y : List Char) :
    Prop where
  made : MadeAll start Symbol.endOfText ts
  root : action? (gotoAll start ts) Symbol.endOfText =
    some (.reduce ⟨Symbol.model, (counted ts).length, as⟩)
  read : Spelled true (readingsAll start start ts) source y
  gap : Gap (readingsAll start start ts).isEmpty y

theorem parsed_of_parse (h : parse source = some (.accepted t)) :
    ∃ ts as e y, t = .node Symbol.model as (ts ++ [.leaf e]) false ∧ e.symbol = Symbol.endOfText ∧
      e.extra = true ∧ Parsed source ts as y := by
  obtain ⟨ls, fs, p, hrun, hend, gs, hreds, hacc, hroot⟩ := run_of_parse h
  have hst := (Standing.initial source).run hrun
  have hmaking := making_of_run hrun ⟨hend, gs, hreds, hacc, hroot⟩ (.initial source)
    (fun x => ⟨trivial, trivial, .nil _ _, rfl, by decide⟩) Symbol.endOfText
  obtain ⟨is, ρ, hm, hmodel, haction, hred⟩ := hmaking.ends rfl hreds hacc
  obtain ⟨before, cs, after, htrees, hgs, hafter, hlength⟩ :=
    hm.legal.reduce_model hred (Automaton.done_of_accept hacc)
  have hextra : (sight source fs p).extra = true := by
    rw [hst.isNext.extra, hend]
    rfl
  obtain ⟨v, hv, hnil⟩ := hm.read.exists_stretch
  have hempty : (readingsAll start start (trees is)).isEmpty = (p.chars == 0) := by
    have hlen := congrArg List.length hv
    have hbound := hst.stacked.isPlace.bound
    rw [List.length_append, List.length_drop] at hlen
    rw [Bool.eq_iff_iff, List.isEmpty_iff, ← hnil, beq_iff_eq, ← List.length_eq_zero_iff]
    omega
  refine ⟨trees is, ρ.aliases, sight source fs p, source.drop p.chars, ?_, hend, hextra, hm.made, ?_,
    hm.read, ?_⟩
  · have hafter' : ∀ u ∈ after ++ [Tree.leaf (sight source fs p)], u.extra = true :=
      List.forall_mem_append.mpr
        ⟨hafter, List.forall_mem_cons.mpr ⟨hextra, fun _ hno => absurd hno List.not_mem_nil⟩⟩
    rw [hgs, List.append_assoc, List.cons_append, Tree.ofRule, hmodel, Tree.root?_eq hafter'] at hroot
    rw [htrees, ← Option.some.inj hroot, List.append_assoc (before ++ cs)]
  · rw [← hm.legal.stateOf, ← hlength, ← hmodel]
    exact haction
  · rw [hempty]
    exact hst.gap_of_end hend

end Straight

end MathProg
