import MathProg.Proofs.Parsing.Whole

/-!
# No character is lost

The leaves that can be seen cover the text: what lies between them is white space, and every other
node reaches from its first child to its last one. This holds of every tree that a text has, with
errors or without.
-/

namespace MathProg

/-- Two gaps, one behind the other, are a gap. -/
theorem Gap.append {source : List Char} {a b c : Nat} (hab : a ≤ b) (hbc : b ≤ c)
    (h : Gap (a == 0) (slice source a b)) (h' : Gap (b == 0) (slice source b c)) :
    Gap (a == 0) (slice source a c) := by
  have hsplit : slice source a c = slice source a b ++ slice source b c := by
    rw [slice, slice, slice, show c - a = (b - a) + (c - b) by omega, List.take_add, List.drop_drop,
      Nat.add_sub_of_le hab]
  by_cases hb : b = 0
  · subst hb
    have ha : a = 0 := Nat.le_zero.mp hab
    subst ha
    exact h'
  · have hblank : ∀ x ∈ slice source b c, isBlank x = true := by
      rcases h' with h' | ⟨h', -⟩
      · exact h'
      · exact absurd (beq_iff_eq.mp h') hb
    rw [hsplit]
    rcases h with h | ⟨h, v, hv, hv'⟩
    · exact Or.inl (List.forall_mem_append.mpr ⟨h, hblank⟩)
    · exact Or.inr ⟨h, v ++ slice source b c, by rw [hv]; rfl,
        List.forall_mem_append.mpr ⟨hv', hblank⟩⟩

namespace Node

variable {source : List Char}

/-- A node without children that has text. -/
def isTextLeaf (n : Node) : Bool := n.children.isEmpty && n.start.bytes < n.stop.bytes

/-- The leaves that have text, in the order of the text. -/
def leaves (n : Node) : List Node := n.preorder.filter isTextLeaf

def leavesAll (ns : List Node) : List Node := (preorderAll ns).filter isTextLeaf

/-- A node reaches from its first child to its last one. -/
structure Spans (n : Node) : Prop where
  first : ∀ c ∈ n.children.head?, n.start = c.start
  last : ∀ c ∈ n.children.getLast?, n.stop = c.stop

theorem preorderAll_append (ns ms : List Node) :
    preorderAll (ns ++ ms) = preorderAll ns ++ preorderAll ms := by
  induction ns with
  | nil => rfl
  | cons n ns ih => rw [List.cons_append, preorderAll, preorderAll, ih, List.append_assoc]

theorem leavesAll_append (ns ms : List Node) :
    leavesAll (ns ++ ms) = leavesAll ns ++ leavesAll ms := by
  rw [leavesAll, preorderAll_append, List.filter_append]
  rfl

/-- A node with children has the leaves of its children. -/
theorem leaves_of_children {i : Info} {cs : List Node} (h : cs ≠ []) :
    (mk i cs).leaves = leavesAll cs := by
  cases cs with
  | nil => exact absurd rfl h
  | cons c cs => rfl

theorem leavesAll_singleton (n : Node) : leavesAll [n] = n.leaves := by
  rw [leavesAll, preorderAll, preorderAll, List.append_nil]
  rfl

/-- Nodes that lie one behind the other between two places of the text, with gaps between them. -/
def Tiling (source : List Char) : Nat → List Node → Nat → Prop
  | a, [], b => a ≤ b ∧ Gap (a == 0) (slice source a b)
  | a, n :: ns, b => ∃ i j, (a ≤ i ∧ i < j ∧ j ≤ source.length) ∧
      n.start = Extent.ofChars (source.take i) ∧ n.stop = Extent.ofChars (source.take j) ∧
        Gap (a == 0) (slice source a i) ∧ Tiling source j ns b

/-- A gap before the nodes may be longer. -/
theorem Tiling.gap {a b c : Nat} {ns : List Node} (hab : a ≤ b)
    (hgap : Gap (a == 0) (slice source a b)) (h : Tiling source b ns c) : Tiling source a ns c := by
  cases ns with
  | nil => exact ⟨Nat.le_trans hab h.1, hgap.append hab h.1 h.2⟩
  | cons n ns =>
    obtain ⟨i, j, ⟨hbi, hij, hj⟩, hs, he, hgap', hrest⟩ := h
    exact ⟨i, j, ⟨Nat.le_trans hab hbi, hij, hj⟩, hs, he, hgap.append hab hbi hgap', hrest⟩

theorem Tiling.append {a b c : Nat} {ns ms : List Node} (h : Tiling source a ns b)
    (h' : Tiling source b ms c) : Tiling source a (ns ++ ms) c := by
  induction ns generalizing a with
  | nil => exact .gap h.1 h.2 h'
  | cons n ns ih =>
    obtain ⟨i, j, hij, hs, he, hgap, hrest⟩ := h
    exact ⟨i, j, hij, hs, he, hgap, ih hrest⟩

/-- Nodes that show a stretch of text. -/
structure Shows (source : List Char) (base padding total : Extent) (ns : List Node) : Prop where
  ne : ns ≠ []
  first : ∀ n ∈ ns.head?, n.start = base + padding
  last : ∀ n ∈ ns.getLast?, n.stop = base + total
  tiling : Tiling source base.chars (leavesAll ns) (base + total).chars
  spans : ∀ m ∈ preorderAll ns, m.Spans

theorem Shows.append {base padding padding' total total' : Extent} {ns ms : List Node}
    (h : Shows source base padding total ns) (h' : Shows source (base + total) padding' total' ms) :
    Shows source base padding (total + total') (ns ++ ms) := by
  refine ⟨List.append_ne_nil_of_left_ne_nil h.ne _, fun n hn => ?_, fun n hn => ?_, ?_, ?_⟩
  · obtain ⟨x, xs, rfl⟩ := List.exists_cons_of_ne_nil h.ne
    exact h.first n hn
  · rw [List.getLast?_append, List.getLast?_eq_some_getLast h'.ne] at hn
    rw [h'.last n (List.getLast?_eq_some_getLast h'.ne ▸ hn), Extent.add_assoc]
  · rw [leavesAll_append, ← Extent.add_assoc]
    exact h.tiling.append h'.tiling
  · rw [preorderAll_append]
    exact List.forall_mem_append.mpr ⟨h.spans, h'.spans⟩

/-- What shows of a child under an alias. -/
def shownAs (alias? : Option Symbol) (base : Extent) (t : Tree) : List Node :=
  if alias?.isSome || t.isVisible then [mk (infoOf alias? base t) (shown base t)] else shown base t

theorem shownAmong_cons (as : List (Nat × Symbol)) (place : Nat) (base : Extent) (c : Tree)
    (cs : List Tree) : shownAmong as place base (c :: cs) =
      shownAs (aliasOf as place c) base c ++
        shownAmong as (Tree.advance place c) (base + c.total) cs := rfl

/-- A node without text, or the end of the text, is no leaf. -/
theorem leaves_of_empty {i : Info} (h : i.start = i.stop) : (mk i []).leaves = [] := by
  have hno : (mk i []).isTextLeaf = false := by
    change (true && decide (i.start.bytes < i.stop.bytes)) = false
    rw [h]
    simp
  rw [leaves, preorder, preorderAll, List.filter_cons, hno]
  rfl

theorem gap_nil {a : Nat} : Gap (a == 0) (slice source a a) := by
  rw [slice, Nat.sub_self, List.take_zero]
  exact Or.inl fun c hc => absurd hc List.not_mem_nil

theorem slice_add (a n : Nat) : slice source a (a + n) = (source.drop a).take n := by
  rw [slice, Nat.add_sub_cancel_left]

/-- The node of a leaf shows its text. -/
theorem shows_leaf {l : Leaf} {base : Extent} (alias? : Option Symbol) (hbase : IsPlace source base)
    (h : l.Fits source base.chars) :
    Shows source base l.padding (Tree.leaf l).total
      [mk (infoOf alias? base (.leaf l)) []] := by
  have htotal : (Tree.leaf l).total = l.padding + l.size := rfl
  refine ⟨List.cons_ne_nil _ _, ?_, ?_, ?_, ?_⟩
  · rintro n ⟨⟩
    rfl
  · rintro n ⟨⟩
    rfl
  · have hpad := h.padding
    have hb := h.bound
    rw [Leaf.ends, Leaf.begins] at hb
    rw [Leaf.begins, slice_add] at hpad
    have hstart : IsPlace source (base + l.padding) := by
      rw [hpad]
      exact hbase.add (by omega)
    have hstop : IsPlace source (base + (Tree.leaf l).total) := by
      rw [h.total]
      refine hbase.add ?_
      rw [htotal, Tree.chars_add]
      omega
    rw [leavesAll_singleton]
    by_cases hsize : l.size.chars = 0
    · -- a leaf without text leaves its gap
      have hzero : l.size = 0 := by
        rw [h.size, Leaf.text, Leaf.ends, hsize, Nat.add_zero, slice, Nat.sub_self, List.take_zero]
        rfl
      rw [leaves_of_empty (by rw [infoOf, htotal, hzero, Extent.add_zero]; rfl), htotal, hzero,
        Extent.add_zero]
      exact ⟨Nat.le_add_right _ _, h.gap⟩
    · have hbytes : 0 < l.size.bytes := by
        refine Nat.pos_of_ne_zero fun hz => hsize ?_
        rw [h.size] at hz ⊢
        exact (Extent.bytes_eq_zero_iff _).mp hz
      have hleaf : (mk (infoOf alias? base (.leaf l)) []).leaves =
          [mk (infoOf alias? base (.leaf l)) []] := by
        have hyes : (mk (infoOf alias? base (.leaf l)) []).isTextLeaf = true := by
          change (true && decide ((base + l.padding).bytes < (base + (l.padding + l.size)).bytes)) = true
          rw [← Extent.add_assoc, Extent.bytes_add (base + l.padding)]
          simpa using hbytes
        rw [leaves, preorder, preorderAll, List.filter_cons, hyes]
        rfl
      rw [hleaf]
      refine ⟨l.begins base.chars, l.ends base.chars, ⟨Nat.le_add_right _ _, ?_, ?_⟩, ?_, ?_, h.gap,
        Nat.le_of_eq ?_, ?_⟩
      · rw [Leaf.ends]
        omega
      · exact h.bound
      · exact hstart.extent
      · rw [Leaf.ends, Leaf.begins, Nat.add_assoc]
        exact hstop.extent
      · rw [Leaf.ends, Leaf.begins, htotal, Tree.chars_add, Tree.chars_add, Nat.add_assoc]
      · have hend : l.ends base.chars = (base + (Tree.leaf l).total).chars := by
          rw [Leaf.ends, Leaf.begins, htotal, Tree.chars_add, Tree.chars_add, Nat.add_assoc]
        rw [hend]
        exact gap_nil
  · intro m hm
    rw [preorderAll, preorderAll, preorder, preorderAll, List.append_nil, List.mem_singleton] at hm
    rw [hm]
    exact ⟨fun _ hc => absurd hc (Option.not_mem_none _), fun _ hc => absurd hc (Option.not_mem_none _)⟩

mutual

/-- What a tree shows is the text it reaches over. -/
theorem shows_tree : ∀ (t : Tree) {base : Extent} (alias? : Option Symbol), IsPlace source base →
    t.Tiled source base.chars → Shows source base t.padding t.total (shownAs alias? base t)
  | .leaf l, base, alias?, hbase, h => by
    have hvisible : (alias?.isSome || (Tree.leaf l).isVisible) = true := by
      rw [Bool.or_eq_true]
      exact Or.inr h.2.1
    rw [shownAs, if_pos hvisible]
    exact shows_leaf alias? hbase h.1
  | .node s as cs e, base, alias?, hbase, h => by
    by_cases hcs : cs = []
    · -- a node without children can be seen, and has no text
      subst hcs
      have hvisible : (alias?.isSome || (Tree.node s as [] e).isVisible) = true := by
        rw [Bool.or_eq_true]
        exact Or.inr (h.1 rfl)
      rw [shownAs, if_pos hvisible]
      refine ⟨List.cons_ne_nil _ _, ?_, ?_, ?_, ?_⟩
      · rintro n ⟨⟩
        rfl
      · rintro n ⟨⟩
        rfl
      · have htotal : (Tree.node s as [] e).total = 0 := Tree.total_node s as [] e
        rw [leavesAll_singleton, shown, shownAmong, leaves_of_empty (by rw [infoOf, htotal]; rfl),
          htotal, Extent.add_zero]
        exact ⟨Nat.le_refl _, gap_nil⟩
      · intro m hm
        rw [preorderAll, preorderAll, shown, shownAmong, preorder, preorderAll, List.append_nil,
          List.mem_singleton] at hm
        rw [hm]
        exact ⟨fun _ hc => absurd hc (Option.not_mem_none _),
          fun _ hc => absurd hc (Option.not_mem_none _)⟩
    · have hinside := shows_all cs as 0 hbase h.2.2 hcs
      rw [shownAs, Tree.total_node]
      change Shows source base (Tree.paddingFirst cs) (Tree.totalAll cs) _
      split
      · change Shows _ _ _ _ [mk _ (shownAmong as 0 base cs)]
        refine ⟨List.cons_ne_nil _ _, ?_, ?_, ?_, ?_⟩
        · rintro n ⟨⟩
          rfl
        · rintro n ⟨⟩
          change base + (Tree.node s as cs e).total = _
          rw [Tree.total_node]
        · rw [leavesAll_singleton, leaves_of_children hinside.ne]
          exact hinside.tiling
        · intro m hm
          rw [preorderAll, preorderAll, preorder, List.append_nil] at hm
          rcases List.mem_cons.mp hm with rfl | hm
          · refine ⟨fun c hc => (hinside.first c hc).symm, fun c hc => ?_⟩
            change base + (Tree.node s as cs e).total = _
            rw [Tree.total_node, hinside.last c hc]
          · exact hinside.spans m hm
      · exact hinside

theorem shows_all : ∀ (ts : List Tree) {base : Extent} (as : List (Nat × Symbol)) (place : Nat),
    IsPlace source base → Tree.TiledAll source base.chars ts → ts ≠ [] →
    Shows source base (Tree.paddingFirst ts) (Tree.totalAll ts) (shownAmong as place base ts)
  | [], _, _, _, _, _, hne => absurd rfl hne
  | c :: cs, base, as, place, hbase, h, _ => by
    have hc := shows_tree c (aliasOf as place c) hbase h.1
    rw [shownAmong_cons, Tree.totalAll_cons]
    change Shows source base c.padding _ _
    by_cases hcs : cs = []
    · subst hcs
      rw [shownAmong, List.append_nil, Tree.totalAll, Extent.add_zero]
      exact hc
    · exact hc.append (shows_all cs as _ (Tree.isPlace_add c hbase h.1) h.2 hcs)

end

/-- Whether character number `k` of the text belongs to a node. -/
def holds (k : Nat) (n : Node) : Bool := n.start.chars ≤ k && k < n.stop.chars

/-- A character that is skipped before a token. -/
def IsSkipped (k : Nat) (c : Char) : Prop := isBlank c = true ∨ k = 0 ∧ c = byteOrderMark

/-- A node whose leaves hold the text, each character once, apart from what is skipped. -/
structure Lossless (source : List Char) (n : Node) : Prop where
  bounded : ∀ m ∈ n.leaves, ∃ i j, (i < j ∧ j ≤ source.length) ∧
    m.start = Extent.ofChars (source.take i) ∧ m.stop = Extent.ofChars (source.take j)
  ordered : n.leaves.Pairwise fun l m => l.stop.bytes ≤ m.start.bytes
  covered : ∀ k c, source[k]? = some c → n.leaves.countP (holds k) = 1 ∨
    n.leaves.countP (holds k) = 0 ∧ IsSkipped k c
  ends : n.stop = Extent.ofChars source
  spans : ∀ m ∈ preorderAll n.children, m.Spans

theorem chars_take {i : Nat} (hi : i ≤ source.length) :
    (Extent.ofChars (source.take i)).chars = i := by
  rw [Extent.chars_ofChars, List.length_take, Nat.min_eq_left hi]

theorem bytes_take_le {i j : Nat} (h : i ≤ j) :
    (Extent.ofChars (source.take i)).bytes ≤ (Extent.ofChars (source.take j)).bytes := by
  rw [← Nat.add_sub_of_le h, List.take_add, Extent.ofChars_append, Extent.bytes_add]
  exact Nat.le_add_right _ _

/-- All nodes of a stretch lie in it. -/
theorem Tiling.bounded {a b : Nat} {ns : List Node} (h : Tiling source a ns b) :
    ∀ n ∈ ns, ∃ i j, (a ≤ i ∧ i < j ∧ j ≤ source.length) ∧
      n.start = Extent.ofChars (source.take i) ∧ n.stop = Extent.ofChars (source.take j) := by
  induction ns generalizing a with
  | nil => exact fun n hn => absurd hn List.not_mem_nil
  | cons m ns ih =>
    obtain ⟨i, j, hij, hs, he, -, hrest⟩ := h
    refine List.forall_mem_cons.mpr ⟨⟨i, j, hij, hs, he⟩, fun n hn => ?_⟩
    obtain ⟨i', j', hij', hs', he'⟩ := ih hrest n hn
    exact ⟨i', j', by omega, hs', he'⟩

theorem Tiling.ordered {a b : Nat} {ns : List Node} (h : Tiling source a ns b) :
    ns.Pairwise fun l m => l.stop.bytes ≤ m.start.bytes := by
  induction ns generalizing a with
  | nil => exact .nil
  | cons m ns ih =>
    obtain ⟨i, j, -, -, he, -, hrest⟩ := h
    refine .cons (fun n hn => ?_) (ih hrest)
    obtain ⟨i', j', hij', hs', -⟩ := hrest.bounded n hn
    rw [he, hs']
    exact bytes_take_le hij'.1

/-- No node holds a character before the stretch. -/
theorem Tiling.not_holds {a b k : Nat} {ns : List Node} (h : Tiling source a ns b) (hk : k < a) :
    ns.countP (holds k) = 0 := by
  rw [List.countP_eq_zero]
  intro n hn
  obtain ⟨i, j, hij, hs, -⟩ := h.bounded n hn
  rw [holds, hs, chars_take (by omega)]
  simp
  omega

theorem isSkipped_of_gap {a b k : Nat} {c : Char} (h : Gap (a == 0) (slice source a b)) (ha : a ≤ k)
    (hb : k < b) (hc : source[k]? = some c) : IsSkipped k c := by
  have hget : (slice source a b)[k - a]? = some c := by
    rw [slice, List.getElem?_take_of_lt (by omega), List.getElem?_drop, Nat.add_sub_of_le ha, hc]
  rcases h with h | ⟨h, v, hv, hv'⟩
  · exact Or.inl (h c (List.mem_of_getElem? hget))
  · have ha0 : a = 0 := beq_iff_eq.mp h
    subst ha0
    rw [hv] at hget
    cases k with
    | zero =>
      cases hget
      exact Or.inr ⟨rfl, rfl⟩
    | succ k => exact Or.inl (hv' c (List.mem_of_getElem? hget))

theorem Tiling.covered {a b k : Nat} {ns : List Node} {c : Char} (h : Tiling source a ns b)
    (ha : a ≤ k) (hb : k < b) (hc : source[k]? = some c) :
    ns.countP (holds k) = 1 ∨ ns.countP (holds k) = 0 ∧ IsSkipped k c := by
  induction ns generalizing a with
  | nil => exact Or.inr ⟨rfl, isSkipped_of_gap h.2 ha hb hc⟩
  | cons n ns ih =>
    obtain ⟨i, j, ⟨hai, hij, hj⟩, hs, he, hgap, hrest⟩ := h
    have hholds : holds k n = (decide (i ≤ k) && decide (k < j)) := by
      rw [holds, hs, he, chars_take (by omega), chars_take hj]
    rw [List.countP_cons, hholds]
    by_cases hki : k < i
    · right
      rw [hrest.not_holds (by omega)]
      exact ⟨by simp; omega, isSkipped_of_gap hgap ha hki hc⟩
    · by_cases hkj : k < j
      · left
        rw [hrest.not_holds hkj]
        simp
        omega
      · have hno : (decide (i ≤ k) && decide (k < j)) = false := by simp [hkj]
        rw [hno]
        exact ih hrest (Nat.le_of_not_lt hkj)

/-- The end of the text shows nothing. -/
theorem shownAmong_end (as : List (Nat × Symbol)) (place : Nat) (base : Extent) (cs : List Tree)
    {e : Leaf} (he : e.symbol = Symbol.endOfText) (hx : e.extra = true) :
    shownAmong as place base (cs ++ [.leaf e]) = shownAmong as place base cs := by
  induction cs generalizing place base with
  | nil =>
    have hhidden : (Tree.leaf e).isVisible = false := by
      change Symbol.isVisible e.symbol = false
      rw [he]
      decide +kernel
    have hno : aliasOf as place (.leaf e) = none := if_pos hx
    rw [List.nil_append, shownAmong_cons, shownAs, hno, hhidden]
    rfl
  | cons c cs ih => rw [List.cons_append, shownAmong_cons, shownAmong_cons, ih]

/-- The leaves tile the text up to its end. -/
theorem tiling_of_whole {t : Tree} (h : t.Whole source) :
    Tiling source 0 (ofTree t).leaves source.length ∧ (∀ m ∈ preorderAll (ofTree t).children, m.Spans) ∧
      (ofTree t).stop = Extent.ofChars source := by
  obtain ⟨s, as, cs, e, rfl, htiled, he, hend⟩ := h.tiled
  obtain ⟨hsize, hends⟩ := he.ended hend
  have hextra : e.extra = true := by
    rw [he.extra, hend]
    rfl
  have hchildren : (ofTree (.node s as (cs ++ [.leaf e]) false)).children = shownAmong as 0 0 cs :=
    shownAmong_end as 0 0 cs hend hextra
  have hplace := Tree.isPlace_addAll cs IsPlace.zero htiled
  rw [Extent.zero_add] at hplace
  have htotal : (Tree.node s as (cs ++ [.leaf e]) false).total =
      Tree.totalAll cs + (Tree.leaf e).total := by
    rw [Tree.total_node, Tree.totalAll_append, Tree.totalAll_cons, Tree.totalAll, Extent.add_zero]
  have hlength : (Tree.totalAll cs + (Tree.leaf e).total).chars = source.length := by
    rw [← hends, Leaf.ends, Leaf.begins, Tree.chars_add, Nat.add_assoc]
    rfl
  have hgap : Gap ((Tree.totalAll cs).chars == 0)
      (slice source (Tree.totalAll cs).chars source.length) := by
    have hb : e.begins (Tree.totalAll cs).chars = source.length := by
      rw [← hends, Leaf.ends, hsize]
      rfl
    have hgap := he.fits.gap
    rwa [hb] at hgap
  have hstop : (ofTree (.node s as (cs ++ [.leaf e]) false)).stop = Extent.ofChars source := by
    have hplace' : IsPlace source (Tree.totalAll cs + (Tree.leaf e).total) := by
      rw [he.fits.total]
      refine hplace.add ?_
      rw [← hlength, Tree.chars_add]
    change 0 + (Tree.node s as (cs ++ [.leaf e]) false).total = _
    rw [Extent.zero_add, htotal, hplace'.extent, hlength, List.take_length]
  by_cases hcs : cs = []
  · subst hcs
    have hempty : (ofTree (.node s as [.leaf e] false)).leaves = [] := by
      have hnode : ofTree (.node s as [.leaf e] false) =
          mk (infoOf none 0 (.node s as [.leaf e] false)) [] := congrArg (mk _) hchildren
      rw [hnode]
      refine leaves_of_empty ?_
      have hpadding : (Tree.node s as [.leaf e] false).total = e.padding := by
        rw [Tree.total_node, Tree.totalAll_cons, Tree.totalAll, Extent.add_zero, Tree.total,
          show (Tree.leaf e).size = e.size from rfl, hsize, Extent.add_zero]
        rfl
      rw [infoOf, hpadding]
      rfl
    refine ⟨?_, ?_, hstop⟩
    · rw [List.nil_append, hempty]
      exact ⟨Nat.zero_le _, hgap⟩
    · rw [hchildren]
      exact fun m hm => absurd hm List.not_mem_nil
  · have hshows := shows_all cs as 0 IsPlace.zero htiled hcs
    have hleaves : (ofTree (.node s as (cs ++ [.leaf e]) false)).leaves =
        leavesAll (shownAmong as 0 0 cs) := by
      have hnode : ofTree (.node s as (cs ++ [.leaf e]) false) =
          mk (infoOf none 0 (.node s as (cs ++ [.leaf e]) false)) (shownAmong as 0 0 cs) :=
        congrArg (mk _) hchildren
      rw [hnode]
      exact leaves_of_children hshows.ne
    refine ⟨?_, ?_, hstop⟩
    · have htil := hshows.tiling
      rw [Extent.zero_add] at htil
      rw [hleaves, ← List.append_nil (leavesAll _)]
      exact htil.append ⟨hplace.bound, hgap⟩
    · rw [hchildren]
      exact hshows.spans

theorem lossless_of_whole {t : Tree} (h : t.Whole source) : (ofTree t).Lossless source := by
  obtain ⟨htiling, hspans, hstop⟩ := tiling_of_whole h
  refine ⟨fun m hm => ?_, htiling.ordered, fun k c hc => ?_, hstop, hspans⟩
  · obtain ⟨i, j, hij, hse⟩ := htiling.bounded m hm
    exact ⟨i, j, hij.2, hse⟩
  · exact htiling.covered (Nat.zero_le k) (List.getElem?_eq_some_iff.mp hc).1 hc

/-- The tree of a text, valid or broken, loses none of its characters. -/
theorem lossless_of_parse {t : Tree} (h : parse source = some t) : (ofTree t).Lossless source :=
  lossless_of_whole (parse_whole h)

theorem lossless_of_parse_broken :
    ∃ t, parse "set é/*c*/".toList = some t ∧ t.hasError = true ∧
      (ofTree t).Lossless "set é/*c*/".toList := by
  have h : (parse "set é/*c*/".toList).any (·.hasError) = true := by
    decide +kernel
  obtain ⟨t, ht, herror⟩ := (Option.any_eq_true _ _).mp h
  exact ⟨t, ht, herror, lossless_of_parse ht⟩

end Node

end MathProg
