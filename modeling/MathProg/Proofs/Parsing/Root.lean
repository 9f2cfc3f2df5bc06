import MathProg.Proofs.Parsing.Price
import Mathlib.Data.List.TakeDrop

/-!
# The tree of a whole text

At the end of the text the trees of a path and the end itself make the root. The root tiles the whole
text, and if it is without error it is a derivation.
-/

namespace MathProg

open Automaton (State done)

namespace Tree

/-- The last tree that is not extra becomes the root. -/
theorem root?_eq {before after cs : List Tree} {s : Symbol} {as : List (Nat × Symbol)}
    (h : ∀ t ∈ after, t.extra = true) :
    root? (before ++ node s as cs false :: after) =
      some (node s as (before ++ cs ++ after) false) := by
  have hafter : ∀ t ∈ after.reverse, t.extra = true := fun t ht => h t (List.mem_reverse.mp ht)
  have hrev : (before ++ node s as cs false :: after).reverse =
      after.reverse ++ node s as cs false :: before.reverse := by
    rw [List.reverse_append, List.reverse_cons, List.append_assoc, List.singleton_append]
  have hspan : (before ++ node s as cs false :: after).reverse.span extra =
      (after.reverse, node s as cs false :: before.reverse) := by
    rw [hrev, List.span_eq_takeWhile_dropWhile, List.takeWhile_append_of_pos hafter,
      List.dropWhile_append_of_pos hafter]
    simp [extra]
  rw [root?, hspan]
  simp only [List.reverse_reverse]

/-- A tree that tiles a whole text, with the end of the text as its last leaf, and shows its errors. -/
structure Whole (source : List Char) (t : Tree) : Prop where
  tiled : ∃ s as cs e, t = node s as (cs ++ [leaf e]) false ∧ TiledAll source 0 cs ∧
    e.IsNext source (totalAll cs).chars ∧ e.symbol = Symbol.endOfText
  derivation : t.cost = 0 → IsDerivation source t
  enclosed : EnclosedAll [t]
  built : ∀ s as cs e, t = node s as cs e → Built s as cs
  visible : t.isVisible = true

variable {source : List Char}

/-- With the end of the text behind it a derivation is one of the whole text. -/
theorem isDerivation_of_derived {as : List (Nat × Symbol)} {cs : List Tree} {e : Leaf}
    (hd : Derived source 0 (node Symbol.model as cs false))
    (he : e.IsNext source (totalAll cs).chars) (hend : e.symbol = Symbol.endOfText) :
    IsDerivation source (node Symbol.model as (cs ++ [leaf e]) false) := by
  obtain ⟨hsize, hends⟩ := he.ended hend
  have hread := (he.token (by rw [hend]; decide)).read
  have hextra : e.extra = true := by
    rw [he.extra, hend]
    rfl
  have htotal : (totalAll (cs ++ [leaf e])).chars = source.length := by
    rw [totalAll_append, chars_add, ← hends, Leaf.ends, Leaf.begins, Nat.add_assoc]
    rfl
  refine ⟨as, cs, e, rfl, hd, hextra, hend, hread, hsize, ?_, ?_⟩
  · have hall : slice source (totalAll cs).chars (e.begins (totalAll cs).chars) =
        source.drop (totalAll cs).chars := by
      have hb : e.begins (totalAll cs).chars = source.length := by
        rw [← hends, Leaf.ends, hsize]
        rfl
      rw [slice, hb, ← List.length_drop, List.take_length]
    rw [← hall]
    exact he.fits.gap
  · rw [total_node, htotal]

end Tree

namespace Spot

open MathProg.Tree (Whole)

variable {source : List Char} {b : Spot} {ts : List Tree} {n : Nat} {l : Leaf}

/-- A text that was read to its end has a tree, which costs what the trees on the path cost. -/
theorem Path.whole (hp : Path source origin ts n b) (hb : b.state = done)
    (hl : l.IsNext source b.position.chars) (hend : l.symbol = Symbol.endOfText) :
    ∃ t, Tree.root? (ts ++ [.leaf l]) = some t ∧ Whole source t ∧ t.cost = Tree.costs ts := by
  have hbl : b.state ≠ Automaton.lost := by
    rw [hb]
    decide
  have hreach := hp.reach
  have htiled := hp.tiled
  have hsound := hp.sound hbl
  obtain ⟨before, u, after, rfl, hbefore, hu, hmodel, hafter⟩ := hp.arrive hb rfl
  have hextra : l.extra = true := by
    rw [hl.extra, hend]
    rfl
  cases u with
  | leaf k =>
    rw [Tree.tiledAll_append] at htiled
    exact absurd hmodel htiled.2.1.ne_model
  | node s as cs e =>
    have hs : s = Symbol.model := hmodel
    have he : e = false := hu
    subst hs he
    have hafter' : ∀ t ∈ after ++ [.leaf l], t.extra = true :=
      List.forall_mem_append.mpr ⟨hafter, List.forall_mem_singleton.mpr hextra⟩
    have hplace : (Tree.totalAll (before ++ cs ++ after)).chars = b.position.chars := by
      rw [hreach, Tree.totalAll_append, Tree.totalAll_append, Tree.totalAll_append,
        Tree.totalAll_cons, Tree.total_node, Extent.add_assoc]
      exact congrArg Extent.chars (Extent.zero_add _).symm
    have hl' : l.IsNext source (Tree.totalAll (before ++ cs ++ after)).chars := hplace ▸ hl
    refine ⟨_, by rw [List.append_assoc, List.cons_append, Tree.root?_eq hafter'], ?_⟩
    rw [← List.append_assoc]
    rw [Tree.tiledAll_append, Tree.TiledAll, Tree.total_node] at htiled
    rw [soundAll_append, SoundAll, Tree.total_node] at hsound
    have hread := (hl.token (by rw [hend]; decide)).read
    have hroot : Tree.EnclosedAll cs := hsound.2.1.enclosed.resolve_left (by decide)
    have hends : Tree.EnclosedAll [.leaf l] :=
      ⟨by rw [Tree.symbol, hend]; decide, Tree.enclosed_read (by rw [hend]; decide) hread, trivial⟩
    have hall : Tree.EnclosedAll (before ++ cs ++ after ++ [.leaf l]) := by
      rw [Tree.enclosedAll_append, Tree.enclosedAll_append, Tree.enclosedAll_append]
      exact ⟨⟨⟨hsound.1.enclosed, hroot⟩, hsound.2.2.enclosed⟩, hends⟩
    have hbuilt : Tree.Built Symbol.model as (before ++ cs ++ after ++ [.leaf l]) := by
      rw [Tree.Built, List.append_assoc, Tree.parts_eq, Tree.counted_append, Tree.counted_append,
        Tree.counted_extras hbefore, Tree.counted_extras hafter', List.nil_append, List.append_nil,
        ← Tree.parts_eq]
      exact htiled.2.1.2.1
    refine ⟨⟨⟨_, _, _, _, rfl, ?_, hl', hend⟩, fun hcost => ?_,
      ⟨(by decide : Symbol.model ≠ Symbol.skipped), Or.inr hall, trivial⟩, ?_,
      (by decide +kernel : Symbol.isVisible Symbol.model = true)⟩, ?_⟩
    · rw [List.append_assoc, Tree.tiledAll_append, Tree.tiledAll_append]
      exact ⟨htiled.1, htiled.2.1.2.2, htiled.2.2⟩
    · refine Tree.isDerivation_of_derived ?_ hl' hend
      rw [Tree.cost, Nat.add_eq_zero_iff, List.append_assoc, List.append_assoc, Tree.costAll_append,
        Nat.add_eq_zero_iff, Tree.costAll_append, Nat.add_eq_zero_iff, Tree.costAll_append,
        Nat.add_eq_zero_iff] at hcost
      obtain ⟨⟨hb0, hc0, ha0, -⟩, hzero⟩ := hcost
      have hroot : (Tree.node Symbol.model as cs false).cost = 0 := by
        rw [Tree.cost, Nat.add_eq_zero_iff, if_neg (by decide)]
        exact ⟨hc0, rfl⟩
      obtain ⟨-, hprod, hcs⟩ := hsound.2.1.derived hroot
      refine ⟨rfl, ?_, ?_⟩
      · rw [Tree.parts_eq, Tree.counted_append, Tree.counted_append, Tree.counted_extras hbefore,
          Tree.counted_extras hafter, List.nil_append, List.append_nil, ← Tree.parts_eq]
        exact hprod
      · rw [List.append_assoc, Tree.derivedAll_append, Tree.derivedAll_append]
        exact ⟨costAll_eq_zero hsound.1 hb0, hcs, costAll_eq_zero hsound.2.2 ha0⟩
    · rintro _ _ _ _ ⟨⟩
      exact hbuilt
    · rw [Tree.cost_node _ _ _ (by decide), Tree.costAll_eq_costs hall]
      simp only [Tree.costs_append, Tree.costs_cons, Tree.costs_nil, Tree.cost_read hread,
        Tree.cost_node _ _ _ (by decide : Tree.isErroneous Symbol.model = false),
        Tree.costAll_eq_costs hroot]
      omega

/-- A text at whose end the way is lost has a tree all the same, an error. -/
theorem Path.whole_error (hp : Path source origin ts n b) (hl : l.IsNext source b.position.chars)
    (hend : l.symbol = Symbol.endOfText) :
    ∃ t, Tree.root? (ts ++ [Tree.ofError [] false, .leaf l]) = some t ∧ Whole source t ∧
      0 < t.cost := by
  have hextra : l.extra = true := by
    rw [hl.extra, hend]
    rfl
  have hplace : (Tree.totalAll ts).chars = b.position.chars := by
    rw [hp.reach]
    exact congrArg Extent.chars (Extent.zero_add _).symm
  have hpos : 0 < (Tree.node Symbol.error [] (ts ++ [] ++ [.leaf l]) false).cost :=
    Tree.cost_erroneous_pos _ _ _ (by decide)
  refine ⟨_, Tree.root?_eq (List.forall_mem_singleton.mpr hextra), ⟨⟨_, _, _, _, rfl, ?_, ?_, hend⟩,
    fun hcost => absurd hcost (Nat.ne_of_gt hpos),
    ⟨(by decide : Symbol.error ≠ Symbol.skipped), Or.inl (by decide), trivial⟩, ?_,
    (by decide : Symbol.isVisible Symbol.error = true)⟩, hpos⟩
  · rw [List.append_nil]
    exact hp.tiled
  · rw [List.append_nil, hplace]
    exact hl
  · rintro _ _ _ _ ⟨⟩
    exact Or.inl ⟨by decide, rfl⟩

end Spot

end MathProg
