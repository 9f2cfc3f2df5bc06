import MathProg.Proofs.Parsing.Trace

/-!
# Other leaves in the same places

What a parser does with the trees on its stack depends on their symbols alone. With other leaves of the
same symbols it makes the same moves, and makes the same trees of them but for the leaves. There may be
other frames below that it does not come down to.
-/

namespace MathProg

/-- A change of leaves by their places that leaves symbols as they are, and does not care whether a leaf
counts. -/
structure Relabeling where
  leaf : Nat → Leaf → Leaf
  symbol : ∀ place l, (leaf place l).symbol = l.symbol
  extra : ∀ place l e, leaf place { l with extra := e } = { leaf place l with extra := e }

namespace Relabeling

variable (φ : Relabeling)

mutual

/-- A tree with its leaves changed; places are counted in the tree as it was. -/
def tree (place : Nat) : Tree → Tree
  | .leaf l => .leaf (φ.leaf place l)
  | .node s as cs e => .node s as (treeAll place cs) e

def treeAll (place : Nat) : List Tree → List Tree
  | [] => []
  | c :: cs => tree place c :: treeAll (place + c.total.chars) cs

end

theorem leaf_extra (place : Nat) (l : Leaf) : (φ.leaf place l).extra = l.extra := by
  have h := congrArg Leaf.extra (φ.extra place l l.extra)
  exact h

theorem tree_symbol (place : Nat) (t : Tree) : (φ.tree place t).symbol = t.symbol := by
  cases t with
  | leaf l => exact φ.symbol place l
  | node s as cs e => rfl

theorem tree_extra (place : Nat) (t : Tree) : (φ.tree place t).extra = t.extra := by
  cases t with
  | leaf l => exact φ.leaf_extra place l
  | node s as cs e => rfl

theorem treeAll_append (place : Nat) (ts us : List Tree) :
    φ.treeAll place (ts ++ us) =
      φ.treeAll place ts ++ φ.treeAll (place + (Tree.totalAll ts).chars) us := by
  induction ts generalizing place with
  | nil => rfl
  | cons t ts ih =>
    rw [List.cons_append, treeAll, treeAll, ih, Tree.totalAll_cons, Tree.chars_add, Nat.add_assoc]
    rfl

theorem length_treeAll (place : Nat) (ts : List Tree) : (φ.treeAll place ts).length = ts.length := by
  induction ts generalizing place with
  | nil => rfl
  | cons t ts ih => rw [treeAll, List.length_cons, List.length_cons, ih]

theorem treeAll_extras (place : Nat) {ts : List Tree} (h : ∀ t ∈ ts, t.extra = true) :
    ∀ t ∈ φ.treeAll place ts, t.extra = true := by
  induction ts generalizing place with
  | nil => exact fun t ht => absurd ht List.not_mem_nil
  | cons t ts ih =>
    refine List.forall_mem_cons.mpr ⟨?_, ih _ fun u hu => h u (List.mem_cons_of_mem _ hu)⟩
    rw [tree_extra]
    exact h t List.mem_cons_self

/-- Extra trees are split off in the same place. -/
theorem splitTrailingExtras_treeAll (place : Nat) (ts : List Tree) :
    Tree.splitTrailingExtras (φ.treeAll place ts) =
      (φ.treeAll place (Tree.splitTrailingExtras ts).1,
        φ.treeAll (place + (Tree.totalAll (Tree.splitTrailingExtras ts).1).chars)
          (Tree.splitTrailingExtras ts).2) := by
  obtain ⟨happ, hends, hextra⟩ := Tree.splitTrailingExtras_spec ts
  have hcounted : Tree.EndsCounted (φ.treeAll place (Tree.splitTrailingExtras ts).1) := by
    rcases hends with hnil | ⟨us, t, hus, ht⟩
    · rw [hnil]
      exact Or.inl rfl
    · rw [hus, treeAll_append]
      exact Or.inr ⟨_, _, rfl, (φ.tree_extra _ t).trans ht⟩
  have hsplit := Tree.splitTrailingExtras_eq hcounted (φ.treeAll_extras
    (place + (Tree.totalAll (Tree.splitTrailingExtras ts).1).chars) hextra)
  rwa [← treeAll_append, happ] at hsplit

/-- The node of a reduction, with the extra trees behind it. -/
theorem treeAll_ofRule (place : Nat) (r : Automaton.Rule) (cs es : List Tree) :
    φ.treeAll place (Tree.ofRule r cs :: es) =
      Tree.ofRule r (φ.treeAll place cs) :: φ.treeAll (place + (Tree.totalAll cs).chars) es := by
  rw [treeAll, Tree.ofRule, Tree.total_node]
  rfl

end Relabeling

namespace Straight

open Automaton (State Rule action? successor? lost)

variable {φ : Relabeling} {fs fs' gs base below : List Frame} {ts : List Tree} {l : Leaf} {r : Rule}
  {n : Nat} {x : Symbol}

/-- A reduction does not change how far the trees reach. -/
theorem totalAll_reduce (hr : reduce r fs = some gs) :
    Tree.totalAll (trees gs) = Tree.totalAll (trees fs) := by
  obtain ⟨⟨ts, below⟩, hpop, rfl⟩ := Option.map_eq_some_iff.mp hr
  have hsplit := trees_pop hpop
  rw [List.append_nil] at hsplit
  rw [trees_pushAll, hsplit, Tree.totalAll_append, Tree.totalAll_append, Tree.totalAll_cons,
    Tree.ofRule, Tree.total_node, ← Tree.totalAll_append, (Tree.splitTrailingExtras_spec ts).1]

theorem totalAll_reduces (hr : Reduces x fs gs) :
    Tree.totalAll (trees gs) = Tree.totalAll (trees fs) := by
  induction hr with
  | refl => rfl
  | step _ hred _ ih => rw [ih, totalAll_reduce hred]

/-- Frames with other leaves, above some frames of their own. -/
structure Relabels (φ : Relabeling) (base fs fs' : List Frame) : Prop where
  states : fs'.map (·.state) = fs.map (·.state) ++ base.map (·.state)
  trees : trees fs' = trees base ++ φ.treeAll 0 (trees fs)

namespace Relabels

theorem refl (φ : Relabeling) (base : List Frame) : Relabels φ base [] base :=
  ⟨rfl, (List.append_nil _).symm⟩

theorem stateOf (h : Relabels φ base fs fs') :
    Straight.stateOf fs' = if fs = [] then Straight.stateOf base else Straight.stateOf fs := by
  have hhead : ∀ gs : List Frame, Straight.stateOf gs = (gs.map (·.state)).headD Automaton.start := by
    intro gs
    cases gs <;> rfl
  rw [hhead, h.states]
  cases fs with
  | nil => rw [if_pos rfl, List.map_nil, List.nil_append, ← hhead]
  | cons f fs => rfl

/-- Without frames of their own below, the states are the same. -/
theorem stateOf_nil (h : Relabels φ [] fs fs') : Straight.stateOf fs' = Straight.stateOf fs := by
  rw [h.stateOf]
  split
  · rename_i hfs
    rw [hfs]
  · rfl

theorem push {s : State} {t : Tree} (h : Relabels φ base fs fs') :
    Relabels φ base (⟨s, t⟩ :: fs) (⟨s, φ.tree (Tree.totalAll (Straight.trees fs)).chars t⟩ :: fs') := by
  constructor
  · rw [List.map_cons, h.states]
    rfl
  · rw [trees_cons, h.trees, trees_cons, φ.treeAll_append, Nat.zero_add, List.append_assoc]
    rfl

theorem pushAll {s : State} (h : Relabels φ base fs fs') (ts : List Tree) :
    Relabels φ base (Straight.pushAll s fs ts)
      (Straight.pushAll s fs' (φ.treeAll (Tree.totalAll (Straight.trees fs)).chars ts)) := by
  induction ts generalizing fs fs' with
  | nil => exact h
  | cons t ts ih =>
    have hpush := ih (h.push (s := s) (t := t))
    rw [trees_cons, Tree.totalAll_append, Tree.chars_add, Tree.totalAll_cons, Tree.totalAll,
      Extent.add_zero] at hpush
    exact hpush

/-- The same frames are popped. -/
theorem popFrames (h : Relabels φ base fs fs') (hp : Straight.popFrames fs n [] = some (ts, below)) :
    ∃ below', Straight.popFrames fs' n [] =
        some (φ.treeAll (Tree.totalAll (Straight.trees below)).chars ts, below') ∧
      Relabels φ base below below' := by
  -- the walk goes down both stacks at once, and takes a tree from both or from neither
  have hwalk : ∀ (fs : List Frame) (n : Nat) (taken taken' : List Tree) (fs' : List Frame),
      fs'.map (·.state) = fs.map (·.state) ++ base.map (·.state) →
      Straight.trees fs' = Straight.trees base ++ φ.treeAll 0 (Straight.trees fs) →
      ∀ ts below, Straight.popFrames fs n taken = some (ts, below) →
      ∃ ts' below', Straight.popFrames fs' n taken' = some (ts', below') ∧
        Relabels φ base below below' ∧ Straight.trees fs' ++ taken' = Straight.trees below' ++ ts' := by
    intro fs
    induction fs with
    | nil =>
      intro n taken taken' fs' hstates htrees ts below hp
      cases n with
      | zero =>
        cases hp
        exact ⟨taken', fs', by rw [Straight.popFrames], ⟨hstates, htrees⟩, rfl⟩
      | succ n => cases hp
    | cons f fs ih =>
      intro n taken taken' fs' hstates htrees ts below hp
      cases n with
      | zero =>
        cases hp
        exact ⟨taken', fs', by rw [Straight.popFrames], ⟨hstates, htrees⟩, rfl⟩
      | succ n =>
        cases fs' with
        | nil => cases hstates
        | cons f' fs' =>
          rw [List.map_cons, List.map_cons, List.cons_append, List.cons.injEq] at hstates
          rw [trees_cons, trees_cons, φ.treeAll_append, ← List.append_assoc] at htrees
          obtain ⟨htrees, htop⟩ := List.append_inj' htrees rfl
          have hextra : f'.tree.extra = f.tree.extra := by
            rw [(List.cons.inj htop).1, φ.tree_extra]
          rw [Straight.popFrames] at hp
          obtain ⟨ts', below', hp', hrel, happ⟩ := ih _ _ (f'.tree :: taken') fs' hstates.2 htrees _ _ hp
          refine ⟨ts', below', ?_, hrel, ?_⟩
          · rw [Straight.popFrames, hextra]
            exact hp'
          · rw [trees_cons, List.append_assoc]
            exact happ
  obtain ⟨ts', below', hp', hrel, happ⟩ := hwalk fs n [] [] fs' h.states h.trees ts below hp
  refine ⟨below', ?_, hrel⟩
  have hsplit := trees_pop hp
  rw [List.append_nil] at hsplit happ
  rw [h.trees, hsplit, φ.treeAll_append, Nat.zero_add, ← List.append_assoc, ← hrel.trees] at happ
  rw [hp', List.append_cancel_left happ]

/-- A reduction is made in the same way, if it ends in the same state where it comes down to the base. -/
theorem reduce (h : Relabels φ base fs fs') (hr : Straight.reduce r fs = some gs)
    (hbase : ∀ ts, Straight.popFrames fs r.length [] = some (ts, []) →
      successor? (Straight.stateOf base) r.symbol = successor? Automaton.start r.symbol) :
    ∃ gs', Straight.reduce r fs' = some gs' ∧ Relabels φ base gs gs' := by
  obtain ⟨⟨ts, below⟩, hpop, rfl⟩ := Option.map_eq_some_iff.mp hr
  obtain ⟨below', hpop', hrel⟩ := h.popFrames hpop
  have htarget : successor? (Straight.stateOf below') r.symbol =
      successor? (Straight.stateOf below) r.symbol := by
    rw [hrel.stateOf]
    split
    · rename_i hnil
      subst hnil
      exact hbase ts hpop
    · rfl
  refine ⟨_, by rw [Straight.reduce, hpop']; rfl, ?_⟩
  dsimp only
  rw [φ.splitTrailingExtras_treeAll]
  dsimp only
  rw [htarget, ← φ.treeAll_ofRule]
  exact hrel.pushAll _

/-- Where there is nothing below, reductions are made in the same way. -/
theorem reduces (h : Relabels φ [] fs fs') (hr : Reduces x fs gs) :
    ∃ gs', Reduces x fs' gs' ∧ Relabels φ [] gs gs' := by
  induction hr generalizing fs' with
  | refl => exact ⟨fs', .refl _, h⟩
  | step ha hred _ ih =>
    obtain ⟨hs, hred', hs'⟩ := h.reduce hred fun _ _ => rfl
    obtain ⟨gs', hreds, hgs'⟩ := ih hs'
    exact ⟨gs', .step (h.stateOf_nil ▸ ha) hred' hreds, hgs'⟩

/-- Where there is nothing below, a changed leaf is taken as the leaf was. -/
theorem takes (h : Relabels φ [] fs fs') (ht : Takes l fs gs) :
    ∃ gs', Takes (φ.leaf (Tree.totalAll (Straight.trees fs)).chars l) fs' gs' ∧
      Relabels φ [] gs gs' := by
  cases ht with
  | @token hs s hr ha =>
    obtain ⟨hs', hr', hrel⟩ := h.reduces hr
    rw [← totalAll_reduces hr]
    refine ⟨_, .token (s := s) ?_ ?_, hrel.push⟩
    · rw [φ.symbol]
      exact hr'
    · rw [φ.symbol, hrel.stateOf_nil]
      exact ha
  | comment ha =>
    refine ⟨_, .comment ?_, ?_⟩
    · rw [φ.symbol, h.stateOf_nil]
      exact ha
    · rw [h.stateOf_nil, ← φ.extra]
      exact h.push

end Relabels

end Straight

end MathProg
