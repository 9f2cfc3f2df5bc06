import MathProg.Proofs.Parsing.Making

/-!
# Trees that are made are parsed

Where the leaves of some trees stand in a text that the automaton makes, the parser comes to these trees:
it reads each leaf in the state it is to be read in, and before the next token the stack settles. The
induction is on the trees; comments at the end of a tree are still on top of its last token when the
reductions begin, so what is below has to settle under them.
-/

namespace MathProg.Straight

open Automaton (State Rule action? successor? lost start done)
open MathProg.Tree (goto gotoAll pending pendingAll readings readingsAll Made MadeAll counted)

variable {source : List Char} {fs gs top P : List Frame} {p q : Extent} {x : Symbol} {s r : State}
  {ts cs es : List Tree} {y : List Char} {ρ : Rule}

/-- Trees put on the stack, each with the state that it leads to. -/
def grow (fs : List Frame) (ts : List Tree) : List Frame :=
  ts.foldl (fun fs t => ⟨t.goto (stateOf fs), t⟩ :: fs) fs

theorem grow_cons (fs : List Frame) (t : Tree) (ts : List Tree) :
    grow fs (t :: ts) = grow (⟨t.goto (stateOf fs), t⟩ :: fs) ts := rfl

theorem grow_append (fs : List Frame) (ts us : List Tree) :
    grow fs (ts ++ us) = grow (grow fs ts) us := List.foldl_append

theorem stateOf_grow (fs : List Frame) (ts : List Tree) :
    stateOf (grow fs ts) = gotoAll (stateOf fs) ts := by
  induction ts generalizing fs with
  | nil => rfl
  | cons t ts ih => exact ih _

theorem exists_grow (fs : List Frame) (ts : List Tree) :
    ∃ top, grow fs ts = top ++ fs ∧ trees top = ts := by
  induction ts generalizing fs with
  | nil => exact ⟨[], rfl, rfl⟩
  | cons t ts ih =>
    obtain ⟨top, htop, htrees⟩ := ih (⟨t.goto (stateOf fs), t⟩ :: fs)
    refine ⟨top ++ [⟨t.goto (stateOf fs), t⟩], by rw [grow_cons, htop, List.append_assoc]; rfl, ?_⟩
    rw [trees, List.map_append, List.reverse_append, ← htrees]
    rfl

theorem exists_pushAll (s : State) (top fs : List Frame) (es : List Tree) :
    ∃ top', pushAll s (top ++ fs) es = top' ++ fs ∧ trees top' = trees top ++ es := by
  induction es generalizing top with
  | nil => exact ⟨top, rfl, (List.append_nil _).symm⟩
  | cons e es ih =>
    obtain ⟨top', htop, htrees⟩ := ih (⟨s, e⟩ :: top)
    refine ⟨top', htop, ?_⟩
    rw [htrees, trees_cons, List.append_assoc]
    rfl

theorem stateOf_pushAll_self (fs : List Frame) (es : List Tree) :
    stateOf (pushAll (stateOf fs) fs es) = stateOf fs := by
  cases es with
  | nil => rfl
  | cons e es => exact stateOf_pushAll _ _ _ _

/-- Frames of which the lowest one counts are popped together. -/
theorem popFrames_top {c : Tree} {ds : List Tree} (hfirst : trees top = c :: ds) (hc : c.extra = false)
    (taken : List Tree) :
    popFrames (top ++ fs) (counted (trees top)).length taken = some (trees top ++ taken, fs) := by
  induction top generalizing taken c ds with
  | nil => cases hfirst
  | cons f top ih =>
    rw [trees_cons] at hfirst
    rw [trees_cons, Tree.counted_append, List.length_append, Tree.counted_cons, List.append_assoc]
    cases htop : trees top with
    | nil =>
      rw [htop] at hfirst
      obtain rfl : f.tree = c := (List.cons.inj hfirst).1
      obtain rfl : top = [] := by
        rw [trees, List.reverse_eq_nil_iff, List.map_eq_nil_iff] at htop
        exact htop
      rw [hc, if_neg Bool.false_ne_true]
      change popFrames (f :: fs) 1 taken = _
      rw [popFrames, hc, if_neg Bool.false_ne_true]
      cases fs <;> rfl
    | cons d us =>
      rw [htop, List.cons_append] at hfirst
      obtain rfl := (List.cons.inj hfirst).1
      have hpop := ih htop hc (f.tree :: taken)
      rw [htop] at hpop
      have hpos : (counted (d :: us)).length ≠ 0 := by
        rw [Tree.counted_cons, hc, if_neg Bool.false_ne_true]
        exact Nat.succ_ne_zero _
      by_cases hf : f.tree.extra = true
      · obtain ⟨n, hn⟩ := Nat.exists_eq_succ_of_ne_zero hpos
        rw [hn] at hpop
        rw [if_pos hf, hn]
        change popFrames (f :: (top ++ fs)) (n + 1) taken = _
        rw [popFrames, if_pos hf]
        exact hpop
      · rw [if_neg hf]
        change popFrames (f :: (top ++ fs)) ((counted (d :: us)).length + 1) taken = _
        rw [popFrames, if_neg hf]
        exact hpop

/-- A node is made of the trees on top, and extra trees come to stand behind it. -/
theorem reduce_top {c : Tree} {ds : List Tree} (hfirst : trees top = c :: ds) (hc : c.extra = false)
    (htrees : trees top = cs ++ es) (hcs : Tree.EndsCounted cs) (hes : ∀ e ∈ es, e.extra = true)
    (hlength : ρ.length = (counted cs).length) :
    reduce ρ (top ++ fs) =
      some (pushAll ((successor? (stateOf fs) ρ.symbol).getD lost) fs (Tree.ofRule ρ cs :: es)) := by
  have hpop : popFrames (top ++ fs) (counted (trees top)).length [] = some (trees top, fs) := by
    rw [popFrames_top hfirst hc, List.append_nil]
  rw [htrees, Tree.counted_append, Tree.counted_extras hes, List.append_nil] at hpop
  rw [reduce, hlength, hpop, Option.map_some]
  dsimp only
  rw [Tree.splitTrailingExtras_eq hcs hes]

/-- Before the token the parser comes from one stack to the other one, whatever extra trees there are on
top. -/
def Settles (x : Symbol) (P fs : List Frame) : Prop :=
  ∀ es : List Tree, (∀ e ∈ es, e.extra = true) →
    Reduces x (pushAll (stateOf P) P es) (pushAll (stateOf fs) fs es)

theorem Settles.refl (x : Symbol) (fs : List Frame) : Settles x fs fs := fun _ _ => .refl _

theorem Settles.reduces (h : Settles x P fs) : Reduces x P fs :=
  h [] fun _ hno => absurd hno List.not_mem_nil

theorem Settles.comment {c : Tree} (h : Settles x P fs) (hc : c.extra = true) :
    Settles x (⟨stateOf P, c⟩ :: P) (⟨c.goto (stateOf fs), c⟩ :: fs) := by
  intro es hes
  rw [Tree.goto_extra _ hc]
  exact h (c :: es) (List.forall_mem_cons.mpr ⟨hc, hes⟩)

/-- Children settle to their node. -/
theorem Settles.node {as : List (Nat × Symbol)} {z : Symbol} (h : Settles x P (grow fs cs))
    (hm : (Tree.node z as cs false).Made (stateOf fs) x) :
    Settles x P (⟨(Tree.node z as cs false).goto (stateOf fs), .node z as cs false⟩ :: fs) := by
  intro es hes
  obtain ⟨-, ⟨c, ds, hcs, hc⟩, hcounted, -, ha⟩ := hm
  refine (h es hes).trans (.step (r := ⟨z, (counted cs).length, as⟩) ?_ ?_ (.refl _))
  · rw [stateOf_pushAll_self, stateOf_grow]
    exact ha
  · obtain ⟨top, htop, htrees⟩ := exists_grow fs cs
    obtain ⟨top', htop', htrees'⟩ := exists_pushAll (stateOf (grow fs cs)) top fs es
    rw [htrees] at htrees'
    have hfirst : trees top' = c :: (ds ++ es) := by rw [htrees', hcs, List.cons_append]
    rw [htop] at htop' ⊢
    rw [htop', reduce_top hfirst hc htrees' hcounted hes rfl]
    rfl

/-- From a place in the text the parser comes to another one, and there the stack settles. -/
def Comes (source : List Char) (P : List Frame) (p : Extent) (x : Symbol) (r : State) (fs : List Frame)
    (q : Extent) (y : List Char) : Prop :=
  ∃ ls Q, Run source P p ls Q q ∧ stateOf Q = r ∧ r ≠ lost ∧ Settles x Q fs ∧ IsPlace source q ∧
    source.drop q.chars = y

theorem Comes.of_takes {l : Leaf} {ls : List (State × Leaf)} (hp : IsPlace source p)
    (hs : Spelled (p.chars == 0) ((stateOf P, l) :: ls) (source.drop p.chars) y)
    (ht : Takes { l with extra := false } P gs) (hg : stateOf gs = r) (hr : r ≠ lost)
    (hset : Settles x gs fs) :
    ∃ z, Comes source P p x r fs (p + (Tree.leaf l).total) z ∧
      Spelled ((p + (Tree.leaf l).total).chars == 0) ls z y := by
  generalize hx : source.drop p.chars = z at hs
  cases hs with
  | @cons _ _ _ _ g w rest _ h _ hs =>
    have hsight := h.sight hx hp.atStart
    have hleaf := h.leaf
    have htotal : (Tree.leaf l).total = Extent.ofChars (g ++ w) := by
      rw [Extent.ofChars_append]
      exact congrArg₂ (· + ·) (congrArg Leaf.padding hleaf) (congrArg Leaf.size hleaf)
    have hlength : (Tree.leaf l).total.chars = (g ++ w).length := by rw [htotal, Extent.chars_ofChars]
    have hpos : 0 < (g ++ w).length := by
      rw [List.length_append]
      exact Nat.add_pos_right _ (List.length_pos_of_ne_nil h.ne_nil)
    rw [← List.append_assoc] at hx
    have hplace : IsPlace source (p + (Tree.leaf l).total) := by
      have hbound := hp.bound
      have hlen := congrArg List.length hx
      rw [List.length_drop, List.length_append] at hlen
      have hadd := hp.add (n := (g ++ w).length) (by omega)
      rw [hx, List.take_left, ← htotal] at hadd
      exact hadd
    refine ⟨rest, ⟨_, gs, .cons hsight ht (.nil _ _), hg, hr, hset, hplace, ?_⟩, ?_⟩
    · rw [Tree.chars_add, hlength, ← List.drop_drop, hx, List.drop_left]
    · rw [beq_eq_false_iff_ne.mpr (by rw [Tree.chars_add]; omega)]
      exact hs

theorem Comes.trans {fs' : List Frame} {r' : State} {q' : Extent} {x' : Symbol} {y' : List Char}
    (h : Comes source P p x r fs q y)
    (h' : ∀ Q, stateOf Q = r → r ≠ lost → Settles x Q fs → IsPlace source q → source.drop q.chars = y →
      Comes source Q q x' r' fs' q' y') : Comes source P p x' r' fs' q' y' := by
  obtain ⟨ls, Q, hrun, hstate, hlost, hset, hplace, hdrop⟩ := h
  obtain ⟨ms, R, hrun', hR⟩ := h' Q hstate hlost hset hplace hdrop
  exact ⟨ls ++ ms, R, hrun.append hrun', hR⟩

mutual

theorem comes_tree : ∀ (t : Tree) {x : Symbol} {s : State} {P fs : List Frame} {p : Extent}
    {y : List Char}, t.Made s x → stateOf fs = s → stateOf P ≠ lost → Settles (Tree.ahead [t] x) P fs →
    IsPlace source p → Spelled (p.chars == 0) (readings s (stateOf P) t) (source.drop p.chars) y →
    Comes source P p x (pending s (stateOf P) t) (⟨t.goto s, t⟩ :: fs) (p + t.total) y
  | .leaf l, x, _, P, fs, p, y, hm, rfl, hP, hset, hp, hs => by
    have hfalse : l = { l with extra := false } := by rw [← hm.1]
    have hahead : Tree.ahead [Tree.leaf l] x = l.symbol := by
      rw [Tree.ahead, Tree.firstAll?, Tree.first?, hm.1]
      rfl
    rw [hahead] at hset
    rw [readings] at hs
    have htake : Takes { l with extra := false } P (⟨goto (stateOf fs) (.leaf l), .leaf l⟩ :: fs) := by
      rw [← hfalse]
      exact .token hset.reduces hm.2
    have hgoto : goto (stateOf fs) (.leaf l) ≠ lost :=
      Nat.ne_of_gt (Nat.zero_lt_of_lt (Automaton.start_lt_successor (successor_of_action hm.2).1))
    obtain ⟨z, hcomes, hz⟩ := Comes.of_takes hp hs htake rfl hgoto (.refl x _)
    cases hz
    rw [pending, hm.1, if_neg Bool.false_ne_true]
    exact hcomes
  | .node z as cs e, x, _, P, fs, p, y, hm, rfl, hP, hset, hp, hs => by
    obtain rfl : e = false := hm.1
    have hahead : Tree.ahead [Tree.node z as cs false] x = Tree.ahead cs x := by
      rw [Tree.ahead, Tree.firstAll?, Tree.first?, Tree.ahead, Tree.firstAll?, Option.or_none]
    rw [hahead] at hset
    rw [Tree.total_node, pending]
    refine (comes_trees cs hm.2.2.2.1 rfl hP hset hp hs).trans
      fun Q hstate hlost hsettles hplace hdrop => ?_
    exact ⟨[], Q, .nil _ _, hstate, hlost, hsettles.node hm, hplace, hdrop⟩

theorem comes_trees : ∀ (ts : List Tree) {x : Symbol} {s : State} {P fs : List Frame} {p : Extent}
    {y : List Char}, MadeAll s x ts → stateOf fs = s → stateOf P ≠ lost → Settles (Tree.ahead ts x) P fs →
    IsPlace source p → Spelled (p.chars == 0) (readingsAll s (stateOf P) ts) (source.drop p.chars) y →
    Comes source P p x (pendingAll s (stateOf P) ts) (grow fs ts) (p + Tree.totalAll ts) y
  | [], x, _, P, fs, p, y, hm, _, hP, hset, hp, hs => by
    cases hs
    rw [Tree.totalAll, Extent.add_zero]
    exact ⟨[], P, .nil _ _, rfl, hP, hset, hp, rfl⟩
  | c :: cs, x, _, P, fs, p, y, hm, rfl, hP, hset, hp, hs => by
    rw [readingsAll] at hs
    rw [Tree.totalAll_cons, ← Extent.add_assoc, pendingAll, grow_cons]
    obtain ⟨hextra, hcounts, hrest⟩ := hm
    have hcomes : ∃ z, Comes source P p (Tree.ahead cs x) (pending (stateOf fs) (stateOf P) c)
        (⟨c.goto (stateOf fs), c⟩ :: fs) (p + c.total) z ∧
        Spelled ((p + c.total).chars == 0)
          (readingsAll (goto (stateOf fs) c) (pending (stateOf fs) (stateOf P) c) cs) z y := by
      by_cases hc : c.extra = true
      · obtain ⟨l, rfl, hl, hcomment⟩ := (hextra hc).eq_leaf
        have hahead : Tree.ahead (Tree.leaf l :: cs) x = Tree.ahead cs x := by
          rw [Tree.ahead, Tree.firstAll?, Tree.first?, if_pos hl]
          rfl
        rw [hahead] at hset
        have haction : action? (stateOf P) Symbol.comment = some .shiftExtra := by
          rw [action?, if_neg (by decide), if_neg hP, if_pos rfl]
        have htake : Takes { l with extra := false } P (⟨stateOf P, .leaf l⟩ :: P) := by
          have htaken : Takes { l with extra := false } P
              (⟨stateOf P, .leaf { ({ l with extra := false } : Leaf) with extra := true }⟩ :: P) :=
            .comment (by rw [← haction, ← hcomment])
          rw [show ({ ({ l with extra := false } : Leaf) with extra := true } : Leaf) = l by rw [← hl]]
            at htaken
          exact htaken
        rw [pending, if_pos hl] at hs ⊢
        exact Comes.of_takes hp hs htake rfl hP (hset.comment hc)
      · have hc := eq_false_of_ne_true hc
        obtain ⟨z, hfirst, hspelled⟩ := hs.split
        have hsettles : Settles (Tree.ahead [c] (Tree.ahead cs x)) P fs := by
          rw [← Tree.ahead_append]
          exact hset
        have htree := comes_tree c (hcounts hc) rfl hP hsettles hp hfirst
        refine ⟨z, htree, ?_⟩
        obtain ⟨ls, Q, -, -, -, -, hplace, hdrop⟩ := htree
        obtain ⟨v, hv, hnil⟩ := hfirst.exists_stretch
        have hstart : ((p + c.total).chars == 0) =
            (p.chars == 0 && (readings (stateOf fs) (stateOf P) c).isEmpty) := by
          have hlength := congrArg List.length hv
          have hbound := hplace.bound
          rw [← hdrop, List.length_append, List.length_drop, List.length_drop] at hlength
          have hchars := Tree.chars_add p c.total
          rw [Bool.eq_iff_iff, Bool.and_eq_true, List.isEmpty_iff, ← hnil, beq_iff_eq, beq_iff_eq,
            ← List.length_eq_zero_iff]
          omega
        rw [hstart]
        exact hspelled
    obtain ⟨z, hfirst, hspelled⟩ := hcomes
    refine hfirst.trans fun Q hstate hlost hsettles hplace hdrop => ?_
    subst hdrop
    rw [← hstate] at hspelled ⊢
    exact comes_trees cs hrest rfl (hstate ▸ hlost) hsettles hplace hspelled

end

end MathProg.Straight
