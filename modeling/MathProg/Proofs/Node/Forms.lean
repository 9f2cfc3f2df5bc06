import MathProg.Proofs.Parsing.Lossless

/-!
# The nodes that trees show

A node that is not named is a token, and so is one that has text and no children. Under another name a
token shows only where the grammar renames one. This holds inside errors as well, where everything keeps
its name.
-/

namespace MathProg

namespace Symbol

/-- The kinds that a token can have where it shows under a name. -/
def tokenKinds : List Symbol := [comment, symbolicName, suffix, string, number, bareword, 193, 194, 195]

/-- The kinds that the grammar renames to. -/
def aliasKinds : List Symbol := [150, 155, 165, 193, 194, 195, 196]

theorem tokens_named : ∀ s < tokenCount, isVisible s = true → isNamed s = true → s ∈ tokenKinds := by
  decide +kernel

theorem aliases_named : ∀ a ∈ aliasKinds, isNamed a = true := by decide +kernel

/-- Only tokens are literals. -/
theorem named_of_visible {s : Symbol} (hs : tokenCount ≤ s) (hv : isVisible s = true) :
    isNamed s = true := by
  have hcount : ∀ k < count - tokenCount, isVisible (tokenCount + k) = true →
      isNamed (tokenCount + k) = true := by
    decide +kernel
  by_cases hlt : s < count
  · obtain ⟨k, rfl⟩ := Nat.exists_eq_add_of_le hs
    exact hcount k (Nat.lt_sub_iff_add_lt'.mpr hlt) hv
  · by_cases he : s = error
    · rw [he]
      rfl
    · have hnone : table[s]? = none := Array.getElem?_eq_none (Nat.le_of_not_lt hlt)
      rw [isVisible, lookup?, if_neg he, hnone] at hv
      split at hv <;> cases hv

end Symbol

namespace Grammar

/-- Whether a part shows under a name that the grammar renames to, and if it is a token, under the name
of a token. -/
def Part.renames (p : Part) : Bool :=
  p.shownAs.all fun a =>
    Symbol.aliasKinds.contains a && (Nat.ble Symbol.tokenCount p.symbol || Symbol.tokenKinds.contains a)

theorem productions_rename :
    (rules.productions.all fun rule => Nat.ble Symbol.tokenCount rule.1 && rule.2.all Part.renames) =
      true := by
  decide +kernel

theorem Part.named_of_renames {p : Part} {a : Symbol} (h : p.renames = true) (ha : a ∈ p.shownAs) :
    Symbol.isNamed a = true ∧ (p.symbol < Symbol.tokenCount → a ∈ Symbol.tokenKinds) := by
  rw [renames, Option.all_eq_true] at h
  have hp := h a ha
  rw [Bool.and_eq_true, Bool.or_eq_true, List.contains_iff_mem, List.contains_iff_mem, Nat.ble_eq] at hp
  exact ⟨Symbol.aliases_named a hp.1, fun ht => hp.2.resolve_left (Nat.not_le_of_lt ht)⟩

end Grammar

namespace Tree

variable {s : Symbol} {as : List (Nat × Symbol)} {cs : List Tree}

/-- What holds of all parts holds of the first tree if it can be renamed, and of the parts behind it. -/
theorem of_parts_cons {P : Grammar.Part → Prop} {i : Nat} {c : Tree}
    (h : ∀ p ∈ parts as i (c :: cs), P p) :
    (∀ a ∈ Node.aliasOf as i c, P ⟨c.symbol, Node.aliasOf as i c⟩) ∧
      ∀ p ∈ parts as (advance i c) cs, P p := by
  rw [parts] at h
  rw [advance]
  by_cases hc : c.extra = true
  · rw [if_pos hc] at h ⊢
    refine ⟨fun a ha => ?_, h⟩
    rw [Node.aliasOf, if_pos hc] at ha
    exact absurd ha (Option.not_mem_none a)
  · rw [if_neg hc] at h ⊢
    obtain ⟨hp, hps⟩ := List.forall_mem_cons.mp h
    exact ⟨fun _ _ => hp, hps⟩

/-- An error or a chain of skipped tokens renames nothing. -/
theorem parts_plain (i : Nat) (cs : List Tree) : ∀ p ∈ parts [] i cs, p.shownAs = none := by
  induction cs generalizing i with
  | nil => exact fun p hp => absurd hp List.not_mem_nil
  | cons c cs ih =>
    rw [parts]
    split
    · exact ih i
    · intro p hp
      rcases List.mem_cons.mp hp with rfl | hp
      · rename_i hc
        exact if_neg hc
      · exact ih (i + 1) p hp

theorem Built.renames (h : Built s as cs) : ∀ p ∈ parts as 0 cs, p.renames = true := by
  intro p hp
  rcases h with ⟨-, rfl⟩ | h
  · rw [Grammar.Part.renames, parts_plain 0 cs p hp]
    rfl
  · have hall := List.all_eq_true.mp Grammar.productions_rename _ h
    rw [Bool.and_eq_true] at hall
    exact List.all_eq_true.mp hall.2 p hp

/-- A node that is made can be seen only under a name. -/
theorem Built.named (h : Built s as cs) (hs : Symbol.isVisible s = true) : Symbol.isNamed s = true := by
  rcases h with ⟨hs', -⟩ | h
  · rw [isErroneous, Bool.or_eq_true, beq_iff_eq, beq_iff_eq] at hs'
    rcases hs' with rfl | rfl
    · decide
    · exact absurd hs (by decide)
  · have hall := List.all_eq_true.mp Grammar.productions_rename _ h
    rw [Bool.and_eq_true, Nat.ble_eq] at hall
    exact Symbol.named_of_visible hall.1 hs

end Tree

namespace Node

variable {source : List Char}

/-- What is known of a node whatever the text: where it begins and ends, and what it is if it has no name
or no children. -/
structure Formed (n : Node) : Prop where
  forward : n.start.bytes ≤ n.stop.bytes
  literal : n.isNamed = false → n.children = []
  token : n.children = [] → n.start.bytes < n.stop.bytes → n.isNamed = true → n.isError = false →
    n.symbol ∈ Symbol.tokenKinds
  unread : n.children = [] → n.start.bytes < n.stop.bytes → n.isError = true → n.info.stopped.isSome = true

theorem forward_infoOf (alias? : Option Symbol) (base : Extent) (t : Tree) :
    (infoOf alias? base t).start.bytes ≤ (infoOf alias? base t).stop.bytes := by
  change (base + t.padding).bytes ≤ (base + (t.padding + t.size)).bytes
  rw [Extent.bytes_add, Extent.bytes_add, Extent.bytes_add]
  omega

/-- What shows of a leaf has the form of a token. -/
theorem formed_leaf {l : Leaf} {base : Extent} {place : Nat} (alias? : Option Symbol)
    (h : (Tree.leaf l).Tiled source place)
    (halias : ∀ a ∈ alias?, Symbol.isNamed a = true ∧
      (l.symbol < Symbol.tokenCount → a ∈ Symbol.tokenKinds)) :
    (mk (infoOf alias? base (.leaf l)) []).Formed := by
  obtain ⟨-, hvisible, hsymbol⟩ := h
  refine ⟨forward_infoOf _ _ _, fun _ => rfl, fun _ _ hnamed herror => ?_, fun _ _ herror => ?_⟩
  · have hne : l.symbol ≠ Symbol.error := beq_eq_false_iff_ne.mp herror
    have ht : l.symbol < Symbol.tokenCount := hsymbol.resolve_right fun he => hne he.1
    cases alias? with
    | none => exact Symbol.tokens_named _ ht hvisible hnamed
    | some a => exact (halias a rfl).2 ht
  · have hl : l.symbol = Symbol.error := beq_iff_eq.mp herror
    have hno : ¬ Symbol.error < Symbol.tokenCount := by decide
    obtain ht | ⟨-, c, hc⟩ := hsymbol
    · exact absurd (hl ▸ ht) hno
    · obtain ⟨_, _, _, _, origin⟩ := l
      change origin = _ at hc
      rw [hc]
      rfl

/-- What shows of a node that was put together is named, and without children it has no text. -/
theorem formed_node {s : Symbol} {as : List (Nat × Symbol)} {cs : List Tree} {e : Bool} {base : Extent}
    {alias? : Option Symbol} {ns : List Node} (hbuilt : Tree.Built s as cs)
    (halias : ∀ a ∈ alias?, Symbol.isNamed a = true)
    (hvisible : (alias?.isSome || Symbol.isVisible s) = true)
    (hempty : ns = [] → (infoOf alias? base (.node s as cs e)).start =
      (infoOf alias? base (.node s as cs e)).stop) :
    (mk (infoOf alias? base (.node s as cs e)) ns).Formed := by
  have hnamed : (mk (infoOf alias? base (.node s as cs e)) ns).isNamed = true := by
    cases alias? with
    | none => exact hbuilt.named hvisible
    | some a => exact halias a rfl
  have htext : ns = [] → ¬ (infoOf alias? base (.node s as cs e)).start.bytes <
      (infoOf alias? base (.node s as cs e)).stop.bytes := by
    intro hns
    rw [hempty hns]
    exact Nat.lt_irrefl _
  refine ⟨forward_infoOf _ _ _, fun hno => ?_, fun hns hlt _ _ => ?_, fun hns hlt _ => ?_⟩
  · rw [hnamed] at hno
    cases hno
  · exact absurd hlt (htext hns)
  · exact absurd hlt (htext hns)

mutual

theorem formed_shown : ∀ (t : Tree) {base : Extent}, IsPlace source base →
    t.Tiled source base.chars → ∀ n ∈ preorderAll (shown base t), n.Formed
  | .leaf _, _, _, _ => fun _ hn => absurd hn List.not_mem_nil
  | .node _ _ cs _, _, hbase, h => formed_shownAmong cs hbase h.2.2 h.2.1.renames

/-- All that a stretch of trees shows has the form of nodes. -/
theorem formed_shownAmong : ∀ (cs : List Tree) {base : Extent} {as : List (Nat × Symbol)}
    {place : Nat}, IsPlace source base → Tree.TiledAll source base.chars cs →
    (∀ p ∈ Tree.parts as place cs, p.renames = true) →
    ∀ n ∈ preorderAll (shownAmong as place base cs), n.Formed
  | [], _, _, _, _, _, _ => fun _ hn => absurd hn List.not_mem_nil
  | c :: cs, base, as, place, hbase, h, hparts => by
    intro n hn
    have hinside := formed_shown c hbase h.1
    obtain ⟨hrenames, htail⟩ := Tree.of_parts_cons hparts
    have hhead : ∀ a ∈ aliasOf as place c, Symbol.isNamed a = true ∧
        (c.symbol < Symbol.tokenCount → a ∈ Symbol.tokenKinds) :=
      fun a ha => Grammar.Part.named_of_renames (hrenames a ha) ha
    rw [shownAmong_cons, preorderAll_append, List.mem_append] at hn
    rcases hn with hn | hn
    · rw [shownAs] at hn
      split at hn
      · rename_i hvisible
        rw [preorderAll, preorderAll, List.append_nil, preorder, List.mem_cons] at hn
        rcases hn with rfl | hn
        · cases c with
          | leaf l => exact formed_leaf _ h.1 hhead
          | node s bs ds e =>
            refine formed_node h.1.2.1 (fun a ha => (hhead a ha).1) hvisible fun hns => ?_
            have hds : ds = [] := by
              by_contra hds
              exact (shows_all ds bs 0 hbase h.1.2.2 hds).ne hns
            subst hds
            rfl
        · exact hinside n hn
      · exact hinside n hn
    · exact formed_shownAmong cs (Tree.isPlace_add c hbase h.1) h.2 htail n hn

end

/-- The root of a whole tree shows what stands before the end of the text, and has no text if that shows
nothing. -/
theorem root_shape {t : Tree} (h : t.Whole source) :
    ∃ s as cs e, t = .node s as (cs ++ [.leaf e]) false ∧ Tree.TiledAll source 0 cs ∧
      Tree.parts as 0 (cs ++ [.leaf e]) = Tree.parts as 0 cs ∧
      shown 0 t = shownAmong as 0 0 cs ∧ (shown 0 t = [] → (ofTree t).start = (ofTree t).stop) := by
  obtain ⟨s, as, cs, e, rfl, htiled, he, hend⟩ := h.tiled
  have hextra : e.extra = true := by
    rw [he.extra, hend]
    rfl
  have hshown : shown 0 (.node s as (cs ++ [.leaf e]) false) = shownAmong as 0 0 cs :=
    shownAmong_end as 0 0 cs hend hextra
  refine ⟨s, as, cs, e, rfl, htiled, ?_, hshown, fun hnil => ?_⟩
  · rw [Tree.parts_append, Tree.parts_extras (List.forall_mem_singleton.mpr (show (Tree.leaf e).extra = true from hextra)), List.append_nil]
  · have hcs : cs = [] := by
      by_contra hcs
      exact (shows_all cs as 0 IsPlace.zero htiled hcs).ne (hshown ▸ hnil)
    subst hcs
    have htotal : (Tree.leaf e).total = e.padding := by
      rw [Tree.total, show (Tree.leaf e).size = e.size from rfl, (he.ended hend).1, Extent.add_zero]
      rfl
    change 0 + e.padding = 0 + (Tree.node s as [.leaf e] false).total
    rw [Tree.total_node, Tree.totalAll_cons, Tree.totalAll, Extent.add_zero, htotal]

theorem root_named {t : Tree} (h : t.Whole source) : (ofTree t).isNamed = true := by
  obtain ⟨s, as, cs, e, rfl, -⟩ := root_shape h
  exact (h.built _ _ _ _ rfl).named h.visible

/-- Every node in the tree of a text has the form of a node. -/
theorem formed_of_whole {t : Tree} (h : t.Whole source) : ∀ n ∈ (ofTree t).preorder, n.Formed := by
  obtain ⟨s, as, cs, e, rfl, htiled, hparts, hshown, hempty⟩ := root_shape h
  have hbuilt := h.built _ _ _ _ rfl
  have hrenames := hbuilt.renames
  rw [hparts] at hrenames
  intro n hn
  rw [ofTree, preorder, List.mem_cons] at hn
  rcases hn with rfl | hn
  · exact formed_node hbuilt (fun a ha => absurd ha (Option.not_mem_none a)) h.visible hempty
  · rw [hshown] at hn
    exact formed_shownAmong cs IsPlace.zero htiled hrenames n hn

end Node

end MathProg
