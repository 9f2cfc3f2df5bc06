import MathProg.Proofs.Node.Statements
import MathProg.Proofs.Parsing.Interrupted

/-!
# Comments do not matter

A comment in a block that is put between the leaves of a text without errors is one more node, and nothing
else changes. The nodes behind it have moved, and those around it reach further; none has got another kind, and
none has other nodes above or below it.
-/

namespace MathProg

open Straight (blockLeaf)

namespace Tree

variable {c : Leaf} {b b' p d : Extent} {whole : Bool} {ts ts' : List Tree}

theorem Regular.padding_lt : ∀ t : Tree, t.Regular → t.padding.chars < t.total.chars
  | leaf l, h => by
    have hsize := h.2
    change l.padding.chars < (l.padding + l.size).chars
    rw [chars_add]
    omega
  | node _ _ [] _, h => absurd rfl h.2.1
  | node s as (t :: ts) e, h => by
    have hfirst := Regular.padding_lt t h.2.2.1
    rw [total_node, totalAll_cons, chars_add]
    change t.padding.chars < _
    omega

theorem RegularAll.behindAll (h : RegularAll ts) (p : Extent) : RegularAll (Tree.behindAll p ts) := by
  cases ts with
  | nil => trivial
  | cons t ts => exact ⟨h.1.behind p, h.2⟩

/-- Trees behind another gap stop where they did, if they stand accordingly. -/
theorem totalAll_behindAll (h : RegularAll ts) (hne : ts ≠ []) (hb : b' + p = b + paddingFirst ts) :
    b' + totalAll (behindAll p ts) = b + totalAll ts := by
  cases ts with
  | nil => exact absurd rfl hne
  | cons t ts =>
    rw [behindAll, totalAll_cons, totalAll_cons, ← Extent.add_assoc, (total_behind t h.1 hb).2,
      Extent.add_assoc]

namespace Interrupted

theorem ne_nil (h : Interrupted c p whole d ts ts') : ts' ≠ [] := by
  cases h with
  | among => exact List.append_ne_nil_of_right_ne_nil _ (List.cons_ne_nil _ _)
  | inside => exact List.append_ne_nil_of_right_ne_nil _ (List.cons_ne_nil _ _)

theorem regular (hc : (leaf c).Regular) (h : Interrupted c p whole d ts ts') :
    RegularAll ts → RegularAll ts' := by
  induction h with
  | among us vs _ _ =>
    intro hr
    obtain ⟨hus, hvs⟩ := regularAll_append.mp hr
    exact regularAll_append.mpr ⟨hus, hc, hvs.behindAll p⟩
  | inside us y as vs h ih =>
    intro hr
    obtain ⟨hus, hnode, hvs⟩ := regularAll_append.mp hr
    exact regularAll_append.mpr ⟨hus, ⟨hnode.1, h.ne_nil, ih hnode.2.2⟩, hvs⟩

/-- Inside of a node there is text before a comment and behind it, and what is behind it moves by the length of
the comment. -/
theorem total (h : Interrupted c p whole d ts ts') : whole = false → RegularAll ts →
    (Tree.paddingFirst ts).chars < d.chars ∧ ∃ x : Extent, 0 < x.chars ∧ totalAll ts = d + x ∧
      totalAll ts' = d + (c.size + x) := by
  induction h with
  | among us vs h hp =>
    rintro rfl hr
    obtain ⟨hus, hvs⟩ := h.resolve_left Bool.false_ne_true
    obtain ⟨hrus, hrvs⟩ := regularAll_append.mp hr
    have htotal : totalAll us + c.padding + totalAll (behindAll p vs) = totalAll us + totalAll vs :=
      totalAll_behindAll hrvs hvs (by rw [hp hvs, Extent.add_assoc])
    refine ⟨?_, totalAll (behindAll p vs), ?_, ?_, ?_⟩
    · obtain ⟨u, us, rfl⟩ := List.exists_cons_of_ne_nil hus
      have hfirst := hrus.1.padding_lt
      change u.padding.chars < (u.total + totalAll us + c.padding).chars
      rw [chars_add, chars_add]
      omega
    · obtain ⟨v, vs, rfl⟩ := List.exists_cons_of_ne_nil hvs
      have hfirst := (hrvs.1.behind p).padding_lt
      rw [behindAll, totalAll_cons, chars_add]
      omega
    · rw [totalAll_append, htotal]
    · rw [totalAll_append, totalAll_cons, Extent.add_assoc (totalAll us), ← Extent.add_assoc c.padding]
      rfl
  | @inside _ d cs cs' us y as vs h ih =>
    rintro - hr
    obtain ⟨hrus, hnode, -⟩ := regularAll_append.mp hr
    obtain ⟨hlt, x, hx, htotal, htotal'⟩ := ih rfl hnode.2.2
    refine ⟨?_, x + totalAll vs, ?_, ?_, ?_⟩
    · cases us with
      | nil =>
        rw [totalAll, Extent.zero_add]
        exact hlt
      | cons u us =>
        have hfirst := hrus.1.padding_lt
        change u.padding.chars < (u.total + totalAll us + d).chars
        rw [chars_add, chars_add]
        omega
    · rw [chars_add]
      omega
    · rw [totalAll_append, totalAll_cons, total_node, htotal, Extent.add_assoc, Extent.add_assoc]
    · rw [totalAll_append, totalAll_cons, total_node, htotal', Extent.add_assoc, Extent.add_assoc,
        Extent.add_assoc]

end Interrupted

end Tree

namespace Extent

variable {a w rest : List Char} {e x : Extent}

/-- Where a node begins that began at `e`, when `w` is put in at the byte `k`. -/
def startPast (result w : List Char) (k : Nat) (e : Extent) : Extent :=
  if e.bytes < k then e else e.shifted result w

/-- Where a node stops that stopped at `e`, when `w` is put in at the byte `k`. -/
def stopPast (result w : List Char) (k : Nat) (e : Extent) : Extent :=
  if e.bytes ≤ k then e else e.shifted result w

theorem startPast_before (h : IsPlace (a ++ (w ++ rest)) e) (hlt : e.chars < a.length) :
    e.startPast (a ++ (w ++ rest)) w (utf8 a).length = e := by
  have hsplit := h.split_iff
  exact if_pos (by omega)

theorem stopPast_before (h : IsPlace (a ++ (w ++ rest)) e) (hle : e.chars ≤ a.length) :
    e.stopPast (a ++ (w ++ rest)) w (utf8 a).length = e :=
  if_pos (h.split_iff.1.mpr hle)

/-- What stood `x` behind the place stands `x` behind what is put in there. -/
theorem shifted_behind (h : IsPlace (a ++ (w ++ rest)) (ofChars a + (ofChars w + x))) :
    (ofChars a + x).shifted (a ++ (w ++ rest)) w = ofChars a + (ofChars w + x) := by
  have hbytes : (ofChars a + x).bytes + (utf8 w).length = (ofChars a + (ofChars w + x)).bytes := by
    rw [length_utf8, bytes_add, bytes_add, bytes_add]
    omega
  have hchars : (ofChars a + x).chars + w.length = (ofChars a + (ofChars w + x)).chars := by
    rw [Tree.chars_add, Tree.chars_add, Tree.chars_add, chars_ofChars w]
    omega
  have hpoint := h.point
  rw [← hbytes] at hpoint
  rw [shifted, ← hpoint, hbytes, hchars]
  rfl

theorem startPast_behind (h : IsPlace (a ++ (w ++ rest)) (ofChars a + (ofChars w + x))) :
    (ofChars a + x).startPast (a ++ (w ++ rest)) w (utf8 a).length = ofChars a + (ofChars w + x) := by
  rw [startPast, if_neg, shifted_behind h]
  rw [length_utf8, bytes_add]
  omega

theorem stopPast_behind (h : IsPlace (a ++ (w ++ rest)) (ofChars a + (ofChars w + x)))
    (hx : 0 < x.chars) :
    (ofChars a + x).stopPast (a ++ (w ++ rest)) w (utf8 a).length = ofChars a + (ofChars w + x) := by
  have hbytes : 0 < x.bytes := by
    rw [← List.append_assoc] at h
    have hsplit := h.split_iff.1
    rw [length_utf8, ofChars_append, bytes_add, bytes_add, bytes_add, Tree.chars_add, Tree.chars_add,
      chars_ofChars, chars_ofChars, List.length_append] at hsplit
    omega
  rw [stopPast, if_neg, shifted_behind h]
  rw [length_utf8, bytes_add]
  omega

end Extent

namespace Node

open Extent (startPast stopPast ofChars)
open MathProg.Tree (Interrupted RegularAll totalAll)

/-- A node that is put among some nodes, or among those below one of them. -/
inductive Among (m : Node) : List Node → List Node → Prop
  | here (ns ks : List Node) : Among m (ns ++ ks) (ns ++ m :: ks)
  | inside (ns : List Node) (i : Info) (cs cs' ks : List Node) (h : Among m cs cs') :
      Among m (ns ++ mk i cs :: ks) (ns ++ mk i cs' :: ks)

theorem Among.within {m : Node} {ns ms : List Node} (h : Among m ns ms) (xs ys : List Node) :
    Among m (xs ++ (ns ++ ys)) (xs ++ (ms ++ ys)) := by
  cases h with
  | here ns ks =>
    rw [List.append_assoc, ← List.append_assoc xs, List.append_assoc ns, ← List.append_assoc xs]
    exact .here (xs ++ ns) (ks ++ ys)
  | inside ns i cs cs' ks h =>
    rw [List.append_assoc, ← List.append_assoc xs, List.append_assoc ns, ← List.append_assoc xs]
    exact .inside (xs ++ ns) i cs cs' (ks ++ ys) h

/-- The node of a comment in a block behind the text `a`. -/
def ofBlock (a t : List Char) : Node :=
  mk { symbol := Symbol.comment, missing := false, error := false, extra := true, hasError := false,
       start := ofChars a, stop := ofChars (a ++ Symbol.block t), stopped := none } []

section

variable {start stop start' stop' : Extent → Extent}

mutual

theorem moved_fixed : ∀ n : Node, (∀ m ∈ n.preorder, start m.start = m.start ∧ stop m.stop = m.stop) →
    n.moved start stop = n
  | mk i cs, h => by
    obtain ⟨hstart, hstop⟩ := h _ List.mem_cons_self
    change start i.start = i.start at hstart
    change stop i.stop = i.stop at hstop
    rw [moved, hstart, hstop, movedAll_fixed cs fun m hm => h m (List.mem_cons_of_mem _ hm)]

/-- Nodes that are where they are moved to do not change. -/
theorem movedAll_fixed : ∀ ns : List Node,
    (∀ m ∈ preorderAll ns, start m.start = m.start ∧ stop m.stop = m.stop) → movedAll start stop ns = ns
  | [], _ => rfl
  | n :: ns, h => by
    rw [movedAll, moved_fixed n fun m hm => h m (List.mem_append_left _ hm),
      movedAll_fixed ns fun m hm => h m (List.mem_append_right _ hm)]

end

mutual

theorem moved_moved : ∀ n : Node, (n.moved start' stop').moved start stop =
    n.moved (start ∘ start') (stop ∘ stop')
  | mk i cs => by
    rw [moved, moved, moved, movedAll_movedAll cs]
    rfl

theorem movedAll_movedAll : ∀ ns : List Node, movedAll start stop (movedAll start' stop' ns) =
    movedAll (start ∘ start') (stop ∘ stop') ns
  | [] => rfl
  | n :: ns => by rw [movedAll, movedAll, movedAll, moved_moved n, movedAll_movedAll ns]

end

end

mutual

theorem preorder_moved (start stop : Extent → Extent) : ∀ n : Node,
    (n.moved start stop).preorder = n.preorder.map (moved start stop)
  | mk i cs => by
    rw [moved, preorder, preorderAll_movedAll start stop cs, preorder, List.map_cons, moved]

theorem preorderAll_movedAll (start stop : Extent → Extent) : ∀ ns : List Node,
    preorderAll (movedAll start stop ns) = (preorderAll ns).map (moved start stop)
  | [] => rfl
  | n :: ns => by
    rw [movedAll, preorderAll, preorderAll, List.map_append, preorder_moved start stop n,
      preorderAll_movedAll start stop ns]

end

/-- A node that has text and lies between two places. -/
structure Within (p q : Extent) (m : Node) : Prop where
  start : p.chars ≤ m.start.chars
  forward : m.start.chars < m.stop.chars
  stop : m.stop.chars ≤ q.chars

theorem within_shownAs (alias? : Option Symbol) {b : Extent} {t : Tree} (hr : t.Regular)
    (h : ∀ m ∈ preorderAll (shown b t), m.Within (b + t.padding) (b + t.total)) :
    ∀ m ∈ preorderAll (shownAs alias? b t), m.Within (b + t.padding) (b + t.total) := by
  rw [shownAs]
  split
  · rw [preorderAll_singleton, preorder]
    refine List.forall_mem_cons.mpr ⟨⟨Nat.le_refl _, ?_, Nat.le_refl _⟩, h⟩
    have hlt := hr.padding_lt
    change (b + t.padding).chars < (b + t.total).chars
    rw [Tree.chars_add, Tree.chars_add]
    omega
  · exact h

mutual

theorem within_shown : ∀ (t : Tree) (b : Extent), t.Regular →
    ∀ m ∈ preorderAll (shown b t), m.Within (b + t.padding) (b + t.total)
  | .leaf _, _, _ => fun _ hm => absurd hm List.not_mem_nil
  | .node _ as cs _, b, hr => by
    rw [Tree.total_node]
    exact within_shownAmong cs as 0 b hr.2.2

/-- The nodes that trees show lie where the trees do. -/
theorem within_shownAmong : ∀ (ts : List Tree) (as : List (Nat × Symbol)) (i : Nat) (b : Extent),
    RegularAll ts → ∀ m ∈ preorderAll (shownAmong as i b ts),
      m.Within (b + Tree.paddingFirst ts) (b + totalAll ts)
  | [], _, _, _, _ => fun _ hm => absurd hm List.not_mem_nil
  | t :: ts, as, i, b, hr => by
    have hfirst := within_shownAs (aliasOf as i t) hr.1 (within_shown t b hr.1)
    have hrest := within_shownAmong ts as (Tree.advance i t) (b + t.total) hr.2
    have hlt := hr.1.padding_lt
    rw [shownAmong_cons, preorderAll_append, List.forall_mem_append, Tree.totalAll_cons, ← Extent.add_assoc]
    refine ⟨fun m hm => ⟨(hfirst m hm).start, (hfirst m hm).forward, ?_⟩,
      fun m hm => ⟨?_, (hrest m hm).forward, (hrest m hm).stop⟩⟩
    · have hstop := (hfirst m hm).stop
      rw [Tree.chars_add (b + t.total)]
      omega
    · have hstart := (hrest m hm).start
      change (b + t.padding).chars ≤ _
      rw [Tree.chars_add, Tree.chars_add] at hstart
      rw [Tree.chars_add]
      omega

end

theorem exists_shownAmong_append (as : List (Nat × Symbol)) (us : List Tree) (i : Nat) :
    ∃ j, ∀ (b : Extent) (ts : List Tree), shownAmong as i b (us ++ ts) =
      shownAmong as i b us ++ shownAmong as j (b + totalAll us) ts := by
  induction us generalizing i with
  | nil =>
    refine ⟨i, fun b ts => ?_⟩
    rw [totalAll, Extent.add_zero]
    rfl
  | cons u us ih =>
    obtain ⟨j, hj⟩ := ih (Tree.advance i u)
    refine ⟨j, fun b ts => ?_⟩
    rw [List.cons_append, shownAmong_cons, shownAmong_cons, hj, Tree.totalAll_cons, Extent.add_assoc,
      List.append_assoc]

section

variable {a w rest : List Char} {x : Extent} {ts : List Tree} {as : List (Nat × Symbol)} {i : Nat}

/-- Nodes that stop before the place stand where they stood. -/
theorem movedAll_before {b : Extent} (hr : RegularAll ts) (hle : (b + totalAll ts).chars ≤ a.length)
    (hplaced : ∀ m ∈ preorderAll (shownAmong as i b ts), m.Placed (a ++ (w ++ rest))) :
    movedAll (startPast (a ++ (w ++ rest)) w (utf8 a).length) (stopPast (a ++ (w ++ rest)) w (utf8 a).length)
      (shownAmong as i b ts) = shownAmong as i b ts := by
  refine movedAll_fixed _ fun m hm => ?_
  have hwithin := within_shownAmong ts as i b hr m hm
  have hforward := hwithin.forward
  have hstop := hwithin.stop
  exact ⟨Extent.startPast_before (hplaced m hm).start (by omega),
    Extent.stopPast_before (hplaced m hm).stop (by omega)⟩

/-- Nodes behind the place have moved by what is put in there. -/
theorem movedAll_behind (hr : RegularAll ts)
    (hplaced : ∀ m ∈ preorderAll (shownAmong as i (ofChars a + (ofChars w + x)) ts),
      m.Placed (a ++ (w ++ rest))) :
    movedAll (startPast (a ++ (w ++ rest)) w (utf8 a).length) (stopPast (a ++ (w ++ rest)) w (utf8 a).length)
      (shownAmong as i (ofChars a + x) ts) = shownAmong as i (ofChars a + (ofChars w + x)) ts := by
  rw [← Extent.add_assoc, shownAmong_further] at hplaced
  rw [← Extent.add_assoc, shownAmong_further, shownAmong_further, movedAll_movedAll]
  refine movedAll_congr _ fun m hm => ?_
  have hwithin := within_shownAmong ts as i x hr m hm
  have hforward := hwithin.forward
  rw [preorderAll_movedAll, List.forall_mem_map] at hplaced
  obtain ⟨hstart, hstop⟩ := hplaced m hm
  have hstart' : (moved (ofChars a + ofChars w + ·) (ofChars a + ofChars w + ·) m).start =
      ofChars a + (ofChars w + m.start) := by
    obtain ⟨i, cs⟩ := m
    exact Extent.add_assoc _ _ _
  have hstop' : (moved (ofChars a + ofChars w + ·) (ofChars a + ofChars w + ·) m).stop =
      ofChars a + (ofChars w + m.stop) := by
    obtain ⟨i, cs⟩ := m
    exact Extent.add_assoc _ _ _
  rw [hstart'] at hstart
  rw [hstop'] at hstop
  constructor
  · rw [Extent.add_assoc]
    exact Extent.startPast_behind hstart
  · rw [Extent.add_assoc]
    exact Extent.stopPast_behind hstop (by omega)

end

variable {a g t rest : List Char} {p d : Extent} {whole : Bool} {ts ts' : List Tree}

theorem regular_block (g t : List Char) : (Tree.leaf (blockLeaf g t)).Regular := by
  refine ⟨rfl, ?_⟩
  change 0 < (ofChars (Symbol.block t)).chars
  rw [Extent.chars_ofChars]
  exact Nat.succ_pos _

theorem shownAs_block {b : Extent} (hb : b + ofChars g = ofChars a) (as : List (Nat × Symbol)) (i : Nat) :
    shownAs (aliasOf as i (.leaf (blockLeaf g t))) b (.leaf (blockLeaf g t)) = [ofBlock a t] := by
  have hvisible : (Tree.leaf (blockLeaf g t)).isVisible = true := Symbol.visible_pieces.1
  have hstart : b + (Tree.leaf (blockLeaf g t)).padding = ofChars a := hb
  have hstop : b + (Tree.leaf (blockLeaf g t)).total = ofChars (a ++ Symbol.block t) := by
    change b + (ofChars g + ofChars (Symbol.block t)) = _
    rw [← Extent.add_assoc, hb, Extent.ofChars_append]
  have hcost : (Tree.leaf (blockLeaf g t)).hasError = false :=
    Tree.hasError_eq_false.mpr (regular_block g t).cost
  rw [shownAs, if_pos (by rw [hvisible, Bool.or_true]), infoOf, hstart, hstop, hcost]
  rfl

section

variable {b : Extent} {y : Symbol} {as : List (Nat × Symbol)} {cs cs' : List Tree}

/-- A node with a comment inside of it begins where it did, which is before the comment. -/
theorem start_of_interrupted (alias? : Option Symbol) (h : Interrupted (blockLeaf g t) p false d cs cs')
    (hr : RegularAll cs) (hb : b + d = ofChars a)
    (hstart : IsPlace (a ++ (Symbol.block t ++ rest)) (infoOf alias? b (.node y as cs' false)).start) :
    (infoOf alias? b (.node y as cs false)).start.startPast (a ++ (Symbol.block t ++ rest))
      (Symbol.block t) (utf8 a).length = (infoOf alias? b (.node y as cs' false)).start := by
  have hfirst := (h.paddingFirst []).resolve_right fun hno => Bool.false_ne_true hno.1
  rw [List.append_nil, List.append_nil] at hfirst
  have hsame : (infoOf alias? b (.node y as cs' false)).start =
      (infoOf alias? b (.node y as cs false)).start := congrArg (b + ·) hfirst
  rw [hsame] at hstart ⊢
  refine Extent.startPast_before hstart ?_
  have hlt := (h.total rfl hr).1
  have hchars := congrArg Extent.chars hb
  rw [Tree.chars_add, Extent.chars_ofChars] at hchars
  change (b + Tree.paddingFirst cs).chars < _
  rw [Tree.chars_add]
  omega

/-- A node with a comment inside of it reaches further by the comment. -/
theorem stop_of_interrupted (alias? : Option Symbol) (h : Interrupted (blockLeaf g t) p false d cs cs')
    (hr : RegularAll cs) (hb : b + d = ofChars a)
    (hstop : IsPlace (a ++ (Symbol.block t ++ rest)) (infoOf alias? b (.node y as cs' false)).stop) :
    (infoOf alias? b (.node y as cs false)).stop.stopPast (a ++ (Symbol.block t ++ rest))
      (Symbol.block t) (utf8 a).length = (infoOf alias? b (.node y as cs' false)).stop := by
  obtain ⟨-, x, hx, htotal, htotal'⟩ := h.total rfl hr
  have hbefore : (infoOf alias? b (.node y as cs false)).stop = ofChars a + x := by
    change b + (Tree.node y as cs false).total = _
    rw [Tree.total_node, htotal, ← Extent.add_assoc, hb]
  have hbehind : (infoOf alias? b (.node y as cs' false)).stop =
      ofChars a + (ofChars (Symbol.block t) + x) := by
    change b + (Tree.node y as cs' false).total = _
    rw [Tree.total_node, htotal', ← Extent.add_assoc, hb]
    rfl
  rw [hbehind] at hstop ⊢
  rw [hbefore]
  exact Extent.stopPast_behind hstop hx

theorem infoOf_interrupted (alias? : Option Symbol) (h : Interrupted (blockLeaf g t) p false d cs cs')
    (hr : (Tree.node y as cs false).Regular) (hb : b + d = ofChars a)
    (hstart : IsPlace (a ++ (Symbol.block t ++ rest)) (infoOf alias? b (.node y as cs' false)).start)
    (hstop : IsPlace (a ++ (Symbol.block t ++ rest)) (infoOf alias? b (.node y as cs' false)).stop) :
    infoOf alias? b (.node y as cs' false) =
      { infoOf alias? b (.node y as cs false) with
        start := (infoOf alias? b (.node y as cs false)).start.startPast (a ++ (Symbol.block t ++ rest))
          (Symbol.block t) (utf8 a).length
        stop := (infoOf alias? b (.node y as cs false)).stop.stopPast (a ++ (Symbol.block t ++ rest))
          (Symbol.block t) (utf8 a).length } := by
  have hr' : (Tree.node y as cs' false).Regular :=
    ⟨hr.1, h.ne_nil, h.regular (regular_block g t) hr.2.2⟩
  have herror : (Tree.node y as cs' false).hasError = (Tree.node y as cs false).hasError := by
    rw [Tree.hasError, Tree.hasError, hr'.cost, hr.cost]
  rw [start_of_interrupted alias? h hr.2.2 hb hstart, stop_of_interrupted alias? h hr.2.2 hb hstop, infoOf,
    infoOf, herror]
  rfl

end

/-- What trees show with a comment between two of them. -/
theorem among_between {us vs : List Tree} {b : Extent} (as : List (Nat × Symbol)) (i : Nat)
    (hrus : RegularAll us) (hrvs : RegularAll vs) (hb : b + totalAll us + ofChars g = ofChars a)
    (hp : vs ≠ [] → Tree.paddingFirst vs = ofChars g + p)
    (hplaced : ∀ m ∈ preorderAll (shownAmong as i b (us ++ .leaf (blockLeaf g t) :: Tree.behindAll p vs)),
      m.Placed (a ++ (Symbol.block t ++ rest))) :
    Among (ofBlock a t)
      (movedAll (startPast (a ++ (Symbol.block t ++ rest)) (Symbol.block t) (utf8 a).length)
        (stopPast (a ++ (Symbol.block t ++ rest)) (Symbol.block t) (utf8 a).length)
        (shownAmong as i b (us ++ vs)))
      (shownAmong as i b (us ++ .leaf (blockLeaf g t) :: Tree.behindAll p vs)) := by
  obtain ⟨j, hj⟩ := exists_shownAmong_append as us i
  have hextra : (Tree.leaf (blockLeaf g t)).extra = true := rfl
  have hreach : b + totalAll us + (Tree.leaf (blockLeaf g t)).total =
      ofChars a + (ofChars (Symbol.block t) + 0) := by
    change b + totalAll us + (ofChars g + ofChars (Symbol.block t)) = _
    rw [← Extent.add_assoc, hb, Extent.add_zero]
  have hbehind : shownAmong as j (b + totalAll us) vs =
      shownAmong as j (ofChars a + 0) (Tree.behindAll p vs) := by
    cases vs with
    | nil => rfl
    | cons v vs =>
      refine (shownAmong_behindAll as j hrvs ?_).symm
      rw [hp (List.cons_ne_nil _ _), Extent.add_zero, ← hb, Extent.add_assoc]
  have hle : (b + totalAll us).chars ≤ a.length := by
    have hchars := congrArg Extent.chars hb
    rw [Tree.chars_add, Extent.chars_ofChars, Extent.chars_ofChars] at hchars
    omega
  rw [hj, shownAmong_cons, shownAs_block hb, Tree.advance, if_pos hextra, hreach, preorderAll_append,
    List.forall_mem_append, preorderAll_append, List.forall_mem_append] at hplaced
  obtain ⟨hbefore, -, hplaced⟩ := hplaced
  rw [hj, hj, movedAll_append, movedAll_before hrus hle hbefore, hbehind,
    movedAll_behind (hrvs.behindAll p) hplaced, shownAmong_cons, shownAs_block hb, Tree.advance,
    if_pos hextra, hreach]
  exact .here _ _

/-- What a tree shows with a comment inside of it, if the trees below it show what they should. -/
theorem among_inside {b : Extent} {y : Symbol} {as : List (Nat × Symbol)} {alias? : Option Symbol}
    {cs cs' : List Tree} (h : Interrupted (blockLeaf g t) p false d cs cs')
    (hr : (Tree.node y as cs false).Regular) (hb : b + d = ofChars a)
    (hchildren : (∀ m ∈ preorderAll (shownAmong as 0 b cs'), m.Placed (a ++ (Symbol.block t ++ rest))) →
      Among (ofBlock a t)
        (movedAll (startPast (a ++ (Symbol.block t ++ rest)) (Symbol.block t) (utf8 a).length)
          (stopPast (a ++ (Symbol.block t ++ rest)) (Symbol.block t) (utf8 a).length) (shownAmong as 0 b cs))
        (shownAmong as 0 b cs'))
    (hplaced : ∀ m ∈ preorderAll (shownAs alias? b (.node y as cs' false)),
      m.Placed (a ++ (Symbol.block t ++ rest))) :
    Among (ofBlock a t)
      (movedAll (startPast (a ++ (Symbol.block t ++ rest)) (Symbol.block t) (utf8 a).length)
        (stopPast (a ++ (Symbol.block t ++ rest)) (Symbol.block t) (utf8 a).length)
        (shownAs alias? b (.node y as cs false)))
      (shownAs alias? b (.node y as cs' false)) := by
  have hvisible : (Tree.node y as cs' false).isVisible = (Tree.node y as cs false).isVisible := rfl
  rw [shownAs, hvisible] at hplaced
  rw [shownAs, shownAs, hvisible]
  split
  · rename_i hshown
    rw [if_pos hshown, preorderAll_singleton, preorder, List.forall_mem_cons] at hplaced
    have hinfo := infoOf_interrupted alias? h hr hb hplaced.1.start hplaced.1.stop
    rw [movedAll, moved, ← hinfo]
    exact .inside [] _ _ _ [] (hchildren hplaced.2)
  · rename_i hhidden
    rw [if_neg hhidden] at hplaced
    exact hchildren hplaced

/-- What trees show with a comment among them: the comment is one of the nodes, and the others have moved. -/
theorem among_of_interrupted (h : Interrupted (blockLeaf g t) p whole d ts ts') :
    ∀ {b : Extent} (as : List (Nat × Symbol)) (i : Nat), RegularAll ts → b + d = ofChars a →
    (∀ m ∈ preorderAll (shownAmong as i b ts'), m.Placed (a ++ (Symbol.block t ++ rest))) →
    Among (ofBlock a t)
      (movedAll (startPast (a ++ (Symbol.block t ++ rest)) (Symbol.block t) (utf8 a).length)
        (stopPast (a ++ (Symbol.block t ++ rest)) (Symbol.block t) (utf8 a).length) (shownAmong as i b ts))
      (shownAmong as i b ts') := by
  induction h with
  | among us vs h hp =>
    intro b as i hr hb hplaced
    obtain ⟨hrus, hrvs⟩ := Tree.regularAll_append.mp hr
    exact among_between as i hrus hrvs ((Extent.add_assoc _ _ _).trans hb) hp hplaced
  | @inside _ d cs cs' us y as' vs h ih =>
    intro b as i hr hb hplaced
    obtain ⟨hrus, hnode, hrvs⟩ := Tree.regularAll_append.mp hr
    obtain ⟨j, hj⟩ := exists_shownAmong_append as us i
    have hgap : b + totalAll us + d = ofChars a := (Extent.add_assoc _ _ _).trans hb
    obtain ⟨-, x, -, htotal, htotal'⟩ := h.total rfl hnode.2.2
    have hreach : b + totalAll us + (Tree.node y as' cs false).total = ofChars a + x := by
      rw [Tree.total_node, htotal, ← Extent.add_assoc, hgap]
    have hreach' : b + totalAll us + (Tree.node y as' cs' false).total =
        ofChars a + (ofChars (Symbol.block t) + x) := by
      rw [Tree.total_node, htotal', ← Extent.add_assoc, hgap]
      rfl
    have hadvance : ∀ ds, Tree.advance j (.node y as' ds false) = j + 1 := fun _ => rfl
    have hle : (b + totalAll us).chars ≤ a.length := by
      have hchars := congrArg Extent.chars hgap
      rw [Tree.chars_add, Extent.chars_ofChars] at hchars
      omega
    rw [hj, shownAmong_cons, hadvance, hreach', preorderAll_append, List.forall_mem_append,
      preorderAll_append, List.forall_mem_append] at hplaced
    obtain ⟨hbefore, hinside, hbehind⟩ := hplaced
    rw [hj, hj, movedAll_append, movedAll_before hrus hle hbefore, shownAmong_cons, shownAmong_cons, hadvance,
      hadvance, hreach, hreach', movedAll_append, movedAll_behind hrvs hbehind]
    exact (among_inside h hnode hgap (ih as' 0 hnode.2.2 hgap) hinside).within _ _

/-- The root of a text with a leaf has trees below it. -/
theorem ne_nil_of_leaf {source : List Char} {s : Symbol} {as : List (Nat × Symbol)} {e : Leaf} {n : Node}
    (h : (Tree.node s as (ts ++ [.leaf e]) false).Whole source)
    (hn : n ∈ (ofTree (.node s as (ts ++ [.leaf e]) false)).leaves) : ts ≠ [] := by
  rintro rfl
  obtain ⟨_, _, cs, _, heq, -, he, hend⟩ := h.tiled
  obtain ⟨-, -, hcs, -⟩ := Tree.node.inj heq
  obtain ⟨rfl, hlast⟩ := List.append_inj' hcs rfl
  obtain rfl := Tree.leaf.inj (List.cons.inj hlast).1
  have hextra : e.extra = true := by
    rw [he.extra, hend]
    rfl
  have hroot : ofTree (.node s as ([] ++ [.leaf e]) false) =
      mk (infoOf none 0 (.node s as ([] ++ [.leaf e]) false)) [] :=
    congrArg (mk _) (shownAmong_end as 0 0 [] hend hextra)
  have hempty : (infoOf none 0 (.node s as ([] ++ [.leaf e]) false)).start =
      (infoOf none 0 (.node s as ([] ++ [.leaf e]) false)).stop := by
    change 0 + e.padding = 0 + (Tree.node s as ([] ++ [.leaf e]) false).total
    rw [Tree.total_node, List.nil_append, Tree.totalAll_cons, Tree.totalAll, Extent.add_zero, Tree.total,
      show (Tree.leaf e).size = 0 from (he.ended hend).1, Extent.add_zero]
    rfl
  rw [hroot, leaves_of_empty hempty] at hn
  exact List.not_mem_nil hn

/-- The root of a text reaches to its end, so it goes on to do that when something is put in. -/
theorem Lossless.stop_shifted {a w b : List Char} {n n' : Node} (h : n.Lossless (a ++ b))
    (h' : n'.Lossless (a ++ (w ++ b))) : n'.stop = n.stop.shifted (a ++ (w ++ b)) w := by
  have hreach : ofChars (a ++ (w ++ b)) = ofChars a + (ofChars w + ofChars b) := by
    rw [Extent.ofChars_append, Extent.ofChars_append]
  have hall : IsPlace (a ++ (w ++ b)) (ofChars (a ++ (w ++ b))) :=
    ⟨by rw [Extent.chars_ofChars], by rw [Extent.chars_ofChars, List.take_length]⟩
  rw [hreach] at hall
  rw [h.ends, h'.ends, Extent.ofChars_append a b, Extent.shifted_behind hall, hreach]

/-- The root goes on to begin where it did when a comment is put at a boundary of one of its leaves. -/
theorem start_interrupted {b : List Char} {as : List (Nat × Symbol)} {e e' : Leaf}
    (h : Interrupted (blockLeaf g t) p true (ofChars a) ts ts')
    (hwhole : (Tree.node Symbol.model as (ts ++ [.leaf e]) false).Whole (a ++ b)) (hr : RegularAll ts)
    (hend : e.symbol = Symbol.endOfText) (hextra : e.extra = true)
    (hplace : ∃ n ∈ (ofTree (.node Symbol.model as (ts ++ [.leaf e]) false)).leaves,
      n.start.bytes = (utf8 a).length ∨ n.stop.bytes = (utf8 a).length) :
    (ofTree (.node Symbol.model as (ts' ++ [.leaf e']) false)).start =
      (ofTree (.node Symbol.model as (ts ++ [.leaf e]) false)).start := by
  obtain ⟨n, hn, hboundary⟩ := hplace
  have hne := ne_nil_of_leaf hwhole hn
  have hfirst : ∀ es, Tree.paddingFirst (ts ++ es) = Tree.paddingFirst ts := by
    intro es
    obtain ⟨t, ts, rfl⟩ := List.exists_cons_of_ne_nil hne
    rfl
  have hstart : (ofTree (.node Symbol.model as (ts ++ [.leaf e]) false)).start =
      0 + Tree.paddingFirst ts := congrArg (0 + ·) (hfirst _)
  change 0 + Tree.paddingFirst (ts' ++ [.leaf e']) = _
  rcases h.paddingFirst [.leaf e'] with hsame | ⟨-, hcomment, hbehind⟩
  · rw [hsame, hfirst, hstart]
  · -- the comment comes first, so the leaf at its place is the first one
    have hplaced := placed_of_whole hwhole
    have hroot : IsPlace (a ++ b) (ofTree (.node Symbol.model as (ts ++ [.leaf e]) false)).start :=
      (hplaced _ List.mem_cons_self).start
    obtain ⟨hmem, htext⟩ := List.mem_filter.mp hn
    rw [isTextLeaf, Bool.and_eq_true, decide_eq_true_eq] at htext
    have hle : (ofTree (.node Symbol.model as (ts ++ [.leaf e]) false)).start.chars ≤ n.start.chars := by
      have hnode : ofTree (.node Symbol.model as (ts ++ [.leaf e]) false) = mk _ (shownAmong as 0 0 ts) :=
        congrArg (mk _) (shownAmong_end as 0 0 ts hend hextra)
      rw [hnode, preorder, List.mem_cons] at hmem
      rcases hmem with rfl | hmem
      · exact Nat.le_refl _
      · rw [hstart]
        exact (within_shownAmong ts as 0 0 hr n hmem).start
    have hbytes := (hroot.bytes_le_iff (hplaced n (List.mem_filter.mp hn).1).start).mpr hle
    have hsplit := hroot.split_iff.1.mp (by omega)
    have hchars : (ofTree (.node Symbol.model as (ts ++ [.leaf e]) false)).start.chars = a.length := by
      refine Nat.le_antisymm hsplit ?_
      rw [hstart, hbehind hne, Extent.zero_add, Tree.chars_add, Extent.chars_ofChars]
      exact Nat.le_add_right _ _
    rw [hcomment, Extent.zero_add, hroot.extent, hchars, List.take_left]

end Node

/-- A comment in a block that is put at a boundary of a leaf of a text without errors, not right behind a comment
up to the end of its line and not before a byte order mark at the start, makes a text without errors. Its tree
has the node of the comment in one place, and is for the rest the tree that there was, in which what stands
behind the comment has moved. -/
theorem Document.comment_insignificant {a b t : List Char} {d : Document}
    (h : Document.ofText? (a ++ b) = some d) (hvalid : d.root.hasError = false)
    (hplace : ∃ n ∈ d.root.leaves, n.start.bytes = (utf8 a).length ∨ n.stop.bytes = (utf8 a).length)
    (hcomment : ∀ n ∈ d.root.leaves, n.kind = "comment" → (n.text (a ++ b)).head? = some '#' →
      n.stop.bytes ≠ (utf8 a).length)
    (hmark : a = [] → b.head? ≠ some byteOrderMark) (ht : ¬ ['*', '/'] <:+: t) (hnull : '\x00' ∉ t) :
    ∃ d', Document.ofText? (a ++ Symbol.block t ++ b) = some d' ∧ d'.root.hasError = false ∧
      d'.root.info = { d.root.info with
        stop := d.root.stop.shifted (a ++ Symbol.block t ++ b) (Symbol.block t) } ∧
      Node.Among (Node.ofBlock a t)
        (d.root.spread (a ++ Symbol.block t ++ b) (Symbol.block t) (utf8 a).length).children
        d'.root.children := by
  obtain ⟨tree, htree, rfl⟩ := Option.map_eq_some_iff.mp h
  dsimp only at hvalid hplace hcomment ⊢
  have hwhole := parse_whole htree
  have hlossless := Node.lossless_of_whole hwhole
  obtain ⟨ts, as, e, y, rfl, hend, hextra, hparsed⟩ :=
    Straight.parsed_of_parse (parse_eq_accepted htree hvalid)
  obtain ⟨hregular, hapart⟩ : Tree.RegularAll ts ∧ Tree.EachAll (Leaf.Apart (a ++ b) a.length) 0 ts :=
    Node.eachAll_of_leaves hwhole hvalid fun n hn hplaced htext _ _ hleaf => hleaf.apart hplaced htext
      (hlossless.apart_boundary (Or.inr (Or.inr hplace)) n hn) (hcomment n hn)
  obtain ⟨g, p, ts', y', hinterrupted, hparsed'⟩ := hparsed.interrupted hapart hmark ht hnull
  obtain ⟨e', haccepted, hend', hextra', hread'⟩ := Straight.parse_of_parsed hparsed'
  have hparse : parse (a ++ (Symbol.block t ++ b)) =
      some (.node Symbol.model as (ts' ++ [.leaf e']) false) := by
    unfold parse
    rw [haccepted]
  have hwhole' := parse_whole hparse
  have hlossless' := Node.lossless_of_whole hwhole'
  have hvalid' : (Tree.node Symbol.model as (ts' ++ [.leaf e']) false).hasError = false :=
    Tree.hasError_root as (by decide) (hinterrupted.regular (Node.regular_block g t) hregular) hread'
  have hchildren : (Node.ofTree (.node Symbol.model as (ts ++ [.leaf e]) false)).children =
      Node.shownAmong as 0 0 ts := Node.shownAmong_end as 0 0 ts hend hextra
  have hchildren' : (Node.ofTree (.node Symbol.model as (ts' ++ [.leaf e']) false)).children =
      Node.shownAmong as 0 0 ts' := Node.shownAmong_end as 0 0 ts' hend' hextra'
  rw [List.append_assoc a]
  refine ⟨⟨a ++ (Symbol.block t ++ b), Node.ofTree (.node Symbol.model as (ts' ++ [.leaf e']) false)⟩,
    ?_, ?_, ?_, ?_⟩
  · rw [Document.ofText?, hparse, Option.map_some]
  · exact hvalid'
  · have hstart : (Node.ofTree (.node Symbol.model as (ts' ++ [.leaf e']) false)).start =
        (Node.ofTree (.node Symbol.model as (ts ++ [.leaf e]) false)).start :=
      Node.start_interrupted hinterrupted hwhole hregular hend hextra hplace
    have hstop := hlossless.stop_shifted hlossless'
    have hinfo : (Node.ofTree (.node Symbol.model as (ts' ++ [.leaf e']) false)).info =
        { (Node.ofTree (.node Symbol.model as (ts ++ [.leaf e]) false)).info with
          hasError := (Tree.node Symbol.model as (ts' ++ [.leaf e']) false).hasError
          start := (Node.ofTree (.node Symbol.model as (ts' ++ [.leaf e']) false)).start
          stop := (Node.ofTree (.node Symbol.model as (ts' ++ [.leaf e']) false)).stop } := rfl
    have hsame : (Tree.node Symbol.model as (ts' ++ [.leaf e']) false).hasError =
        (Tree.node Symbol.model as (ts ++ [.leaf e]) false).hasError := hvalid'.trans hvalid.symm
    rw [hinfo, hstart, hstop, hsame]
    rfl
  · have hplaced : ∀ m ∈ Node.preorderAll (Node.shownAmong as 0 0 ts'),
        m.Placed (a ++ (Symbol.block t ++ b)) := by
      intro m hm
      rw [← hchildren'] at hm
      exact Node.placed_of_whole hwhole' m (List.mem_cons_of_mem _ hm)
    have hamong := Node.among_of_interrupted hinterrupted as 0 hregular (Extent.zero_add _) hplaced
    rw [← hchildren, ← hchildren'] at hamong
    exact hamong

/-- A comment with a star, a semicolon and a line feed in it, between a name and its suffix. -/
theorem Document.comment_insignificant_suffix :
    ∃ d d', Document.ofText? ("var x; display x".toList ++ ".lb;# c".toList) = some d ∧
      d.root.hasError = false ∧
      Document.ofText? ("var x; display x".toList ++ Symbol.block "*;\n".toList ++ ".lb;# c".toList) =
        some d' ∧ d'.root.hasError = false ∧
      Node.Among (Node.ofBlock "var x; display x".toList "*;\n".toList)
        (d.root.spread ("var x; display x".toList ++ Symbol.block "*;\n".toList ++ ".lb;# c".toList)
          (Symbol.block "*;\n".toList) (utf8 "var x; display x".toList).length).children
        d'.root.children := by
  have h : (Document.ofText? ("var x; display x".toList ++ ".lb;# c".toList)).any (fun d => decide
      (d.root.hasError = false ∧ (∃ n ∈ d.root.leaves, n.start.bytes = 16 ∨ n.stop.bytes = 16) ∧
        ∀ n ∈ d.root.leaves, n.kind = "comment" → n.stop.bytes ≠ 16)) = true := by
    decide +kernel
  obtain ⟨d, hd, hcheck⟩ := (Option.any_eq_true _ _).mp h
  obtain ⟨hvalid, hplace, hcomment⟩ := of_decide_eq_true hcheck
  obtain ⟨d', hd', hvalid', -, hamong⟩ := comment_insignificant (t := "*;\n".toList) hd hvalid hplace
    (fun n hn hkind _ => hcomment n hn hkind) (fun hno => by cases hno) (by decide) (by decide)
  exact ⟨d, d', hd, hvalid, hd', hvalid', hamong⟩

end MathProg
