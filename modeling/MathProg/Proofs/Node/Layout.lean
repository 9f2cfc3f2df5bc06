import MathProg.Proofs.Lexing.Written
import MathProg.Proofs.Node.Positions
import MathProg.Proofs.Parsing.Sketch
import MathProg.Proofs.Grammar.Rules

/-!
# Where the nodes of a tree lie

What a tree looks like and the places of its words in the text tell where each of its nodes begins and
ends. So trees that look alike, over the same words in texts that differ before them only, lie alike.
-/

namespace MathProg

/-- The kind of a node, where a linear expression is taken for an expression. -/
def plainKind (x : Symbol) : Symbol := if x = Grammar.linearExpression then Grammar.expr else x

namespace Sketch

mutual

/-- The texts of the leaves. -/
def texts : Sketch → List (List Char)
  | leaf _ t => [t]
  | node _ ss => textsAll ss

def textsAll : List Sketch → List (List Char)
  | [] => []
  | s :: ss => texts s ++ textsAll ss

end

mutual

/-- Without the difference between linear expressions and others. -/
def plain : Sketch → Sketch
  | leaf x t => leaf (plainKind x) t
  | node x ss => node (plainKind x) (plainAll ss)

def plainAll : List Sketch → List Sketch
  | [] => []
  | s :: ss => plain s :: plainAll ss

end

theorem textsAll_eq (ss : List Sketch) : textsAll ss = ss.flatMap texts := by
  induction ss with
  | nil => rfl
  | cons s ss ih => rw [textsAll, ih, List.flatMap_cons]

theorem plainAll_eq (ss : List Sketch) : plainAll ss = ss.map plain := by
  induction ss with
  | nil => rfl
  | cons s ss ih => rw [plainAll, ih, List.map_cons]

end Sketch

/-- The kinds of a node and of all below it, and where they begin and end. -/
inductive Layout where
  | mk (kind : Symbol) (start stop : Nat) (below : List Layout)

/-- A place and the place behind it, counted from the beginning of a text. -/
abbrev Range := Nat × Nat

namespace Node

/-- The characters of a node, counted from some place. -/
def range (base : Nat) (n : Node) : Range := (n.start.chars - base, n.stop.chars - base)

mutual

/-- How a node lies in the text, counted from some place. -/
def layout (base : Nat) : Node → Layout
  | mk i cs => .mk (plainKind i.symbol) (i.start.chars - base) (i.stop.chars - base) (layoutAll base cs)

def layoutAll (base : Nat) : List Node → List Layout
  | [] => []
  | c :: cs => layout base c :: layoutAll base cs

end

mutual

/-- The nodes without children, in the order of the text. -/
def tips : Node → List Node
  | mk i [] => [mk i []]
  | mk _ (c :: cs) => tipsAll (c :: cs)

def tipsAll : List Node → List Node
  | [] => []
  | c :: cs => tips c ++ tipsAll cs

end

end Node

namespace Sketch

mutual

/-- How a node lies that looks like this, if its leaves lie at some places. -/
def lay : Sketch → List Range → Layout
  | leaf x _, rs => .mk x (rs.headD (0, 0)).1 (rs.getLastD (0, 0)).2 []
  | node x ss, rs => .mk x (rs.headD (0, 0)).1 (rs.getLastD (0, 0)).2 (layAll ss rs)

def layAll : List Sketch → List Range → List Layout
  | [], _ => []
  | s :: ss, rs => lay s (rs.take s.texts.length) :: layAll ss (rs.drop s.texts.length)

end

end Sketch

namespace Sketch

mutual

theorem texts_plain : ∀ s : Sketch, s.plain.texts = s.texts
  | leaf _ _ => rfl
  | node _ ss => by rw [plain, texts, texts, textsAll_plain ss]

theorem textsAll_plain : ∀ ss : List Sketch, textsAll (plainAll ss) = textsAll ss
  | [] => rfl
  | s :: ss => by rw [plainAll, textsAll, textsAll, texts_plain s, textsAll_plain ss]

end

end Sketch

namespace Node

variable {source : List Char} {base : Nat}

mutual

theorem texts_sketch (source : List Char) : ∀ n : Node, (n.sketch source).texts = n.tips.map (text source)
  | mk i [] => rfl
  | mk i (c :: cs) => by
    rw [sketch, Sketch.texts, tips]
    exact texts_sketchAll source (c :: cs)

theorem texts_sketchAll (source : List Char) : ∀ ns : List Node,
    Sketch.textsAll (sketchAll source ns) = (tipsAll ns).map (text source)
  | [] => rfl
  | n :: ns => by
    rw [sketchAll, Sketch.textsAll, texts_sketch source n, texts_sketchAll source ns, tipsAll,
      List.map_append]

end

theorem tips_ne_nil (n : Node) : n.tips ≠ [] := by
  match n with
  | mk i [] => exact List.cons_ne_nil _ _
  | mk i (c :: cs) =>
    rw [tips, tipsAll]
    exact List.append_ne_nil_of_left_ne_nil (tips_ne_nil c) _

theorem tipsAll_ne_nil {ns : List Node} (h : ns ≠ []) : tipsAll ns ≠ [] := by
  cases ns with
  | nil => exact absurd rfl h
  | cons n ns =>
    rw [tipsAll]
    exact List.append_ne_nil_of_left_ne_nil (tips_ne_nil n) _

/-- A node reaches over its leaves. -/
structure Reaches (n : Node) (first last : Option Node) : Prop where
  start : ∀ m ∈ first, m.start = n.start
  stop : ∀ m ∈ last, m.stop = n.stop

mutual

theorem reaches_tips : ∀ n : Node, (∀ m ∈ n.preorder, m.Spans) → n.Reaches n.tips.head? n.tips.getLast?
  | mk i [], _ => ⟨fun _ h => by cases h; rfl, fun _ h => by cases h; rfl⟩
  | mk i (c :: cs), h => by
    have hspans := h _ List.mem_cons_self
    have hchildren : ∀ m ∈ preorderAll (c :: cs), m.Spans := fun m hm => h m (List.mem_cons_of_mem _ hm)
    constructor
    · intro m hm
      rw [tips, tipsAll, List.head?_append_of_ne_nil _ (tips_ne_nil c)] at hm
      have hfirst := (reaches_tips c fun m hm => hchildren m (List.mem_append_left _ hm)).start m hm
      rw [hfirst]
      exact (hspans.first c rfl).symm
    · intro m hm
      rw [tips] at hm
      obtain ⟨d, hd, hstop⟩ := stop_tipsAll (c :: cs) hchildren m hm
      rw [hstop]
      exact (hspans.last d hd).symm

theorem stop_tipsAll : ∀ ns : List Node, (∀ m ∈ preorderAll ns, m.Spans) → ∀ m ∈ (tipsAll ns).getLast?,
    ∃ d ∈ ns.getLast?, m.stop = d.stop
  | [], _, m, hm => by cases hm
  | n :: ns, h, m, hm => by
    have hn := reaches_tips n fun m hm => h m (List.mem_append_left _ hm)
    rw [tipsAll] at hm
    cases ns with
    | nil =>
      rw [tipsAll, List.append_nil] at hm
      exact ⟨n, rfl, hn.stop m hm⟩
    | cons c cs =>
      rw [List.getLast?_append_of_ne_nil _ (tipsAll_ne_nil (List.cons_ne_nil c cs))] at hm
      obtain ⟨d, hd, hstop⟩ := stop_tipsAll (c :: cs) (fun m hm => h m (List.mem_append_right _ hm)) m hm
      exact ⟨d, by rwa [List.getLast?_cons_cons], hstop⟩

end

theorem headD_range (base : Nat) {n : Node} (h : ∀ m ∈ n.preorder, m.Spans) :
    ((n.tips.map (range base)).headD (0, 0)).1 = n.start.chars - base ∧
      ((n.tips.map (range base)).getLastD (0, 0)).2 = n.stop.chars - base := by
  obtain ⟨hstart, hstop⟩ := reaches_tips n h
  obtain ⟨m, ms, hm⟩ := List.exists_cons_of_ne_nil (tips_ne_nil n)
  have hlast := List.getLast?_eq_some_getLast (tips_ne_nil n)
  constructor
  · rw [hm] at hstart ⊢
    exact congrArg (fun e : Extent => e.chars - base) (hstart m rfl)
  · rw [List.getLastD_eq_getLast?, List.getLast?_map, hlast]
    exact congrArg (fun e : Extent => e.chars - base) (hstop _ hlast)

mutual

/-- How a node lies is told by what it looks like and by where its leaves are. -/
theorem layout_eq (source : List Char) (base : Nat) : ∀ n : Node, (∀ m ∈ n.preorder, m.Spans) →
    n.layout base = (n.sketch source).plain.lay (n.tips.map (range base))
  | mk i [], _ => rfl
  | mk i (c :: cs), h => by
    obtain ⟨hstart, hstop⟩ := headD_range base h
    have hbelow := layoutAll_eq source base (c :: cs) fun m hm => h m (List.mem_cons_of_mem _ hm)
    rw [sketch, Sketch.plain, Sketch.lay, hstart, hstop, layout, hbelow, tips]
    rfl

theorem layoutAll_eq (source : List Char) (base : Nat) : ∀ ns : List Node, (∀ m ∈ preorderAll ns, m.Spans) →
    layoutAll base ns = Sketch.layAll (Sketch.plainAll (sketchAll source ns))
      ((tipsAll ns).map (range base))
  | [], _ => rfl
  | n :: ns, h => by
    have hlen : (n.sketch source).plain.texts.length = (n.tips.map (range base)).length := by
      rw [Sketch.texts_plain, texts_sketch, List.length_map, List.length_map]
    rw [layoutAll, layout_eq source base n fun m hm => h m (List.mem_append_left _ hm),
      layoutAll_eq source base ns fun m hm => h m (List.mem_append_right _ hm), sketchAll, Sketch.plainAll,
      Sketch.layAll, tipsAll, List.map_append, hlen, List.take_left, List.drop_left]

end

mutual

theorem mem_tips : ∀ (n : Node) {m : Node}, m ∈ n.tips → m ∈ n.preorder ∧ m.children = []
  | mk i [], m, h => by
    obtain rfl := List.mem_singleton.mp h
    exact ⟨List.mem_cons_self, rfl⟩
  | mk i (c :: cs), m, h => by
    rw [tips] at h
    obtain ⟨hm, hc⟩ := mem_tipsAll (c :: cs) h
    exact ⟨List.mem_cons_of_mem _ hm, hc⟩

theorem mem_tipsAll : ∀ (ns : List Node) {m : Node}, m ∈ tipsAll ns → m ∈ preorderAll ns ∧ m.children = []
  | [], m, h => by cases h
  | n :: ns, m, h => by
    rw [tipsAll, List.mem_append] at h
    rcases h with h | h
    · exact ⟨List.mem_append_left _ (mem_tips n h).1, (mem_tips n h).2⟩
    · exact ⟨List.mem_append_right _ (mem_tipsAll ns h).1, (mem_tipsAll ns h).2⟩

end

mutual

/-- Where all leaves have text, none is left out. -/
theorem leaves_eq_tips : ∀ n : Node, (∀ m ∈ n.tips, m.isTextLeaf = true) → n.leaves = n.tips
  | mk i [], h => by
    have hleaf := h _ (List.mem_singleton_self _)
    rw [leaves, preorder, preorderAll, List.filter_cons, if_pos hleaf]
    rfl
  | mk i (c :: cs), h => by
    rw [leaves_of_children (List.cons_ne_nil _ _), tips]
    exact leavesAll_eq_tipsAll (c :: cs) h

theorem leavesAll_eq_tipsAll : ∀ ns : List Node, (∀ m ∈ tipsAll ns, m.isTextLeaf = true) →
    leavesAll ns = tipsAll ns
  | [], _ => rfl
  | n :: ns, h => by
    have hsplit : leavesAll (n :: ns) = n.leaves ++ leavesAll ns := by
      rw [← leavesAll_singleton n, ← leavesAll_append]
      rfl
    rw [hsplit, tipsAll, leaves_eq_tips n fun m hm => h m (List.mem_append_left _ hm),
      leavesAll_eq_tipsAll ns fun m hm => h m (List.mem_append_right _ hm)]

end

/-- A node with text reaches over some bytes. -/
theorem bytes_of_text {n : Node} (h : n.Placed source) (hne : text source n ≠ []) :
    n.start.bytes < n.stop.bytes := by
  have hsplit : source.take n.stop.chars = source.take n.start.chars ++ text source n := by
    have hle : n.start.chars ≤ n.stop.chars := by
      by_contra hlt
      rw [text, Nat.sub_eq_zero_of_le (by omega), List.take_zero] at hne
      exact hne rfl
    rw [text, ← List.take_add, Nat.add_sub_of_le hle]
  have hpos : (Extent.ofChars (text source n)).bytes ≠ 0 := by
    rw [Ne, Extent.bytes_eq_zero_iff, Extent.chars_ofChars]
    exact fun h => hne (List.eq_nil_of_length_eq_zero h)
  rw [h.stop.extent, hsplit, Extent.ofChars_append, Extent.bytes_add, ← h.start.extent]
  omega

/-- Where some texts lie that stand one behind the other, with blanks before them. -/
def places : Nat → List (List Char) → List Char → List Range
  | _, [], _ => []
  | a, t :: ts, cs =>
    (a + blankLength cs, a + (blankLength cs + t.length)) ::
      places (a + (blankLength cs + t.length)) ts (cs.drop (blankLength cs + t.length))

/-- How far they reach. -/
def reach : List (List Char) → List Char → Nat
  | [], _ => 0
  | t :: ts, cs => blankLength cs + t.length + reach ts (cs.drop (blankLength cs + t.length))

theorem places_append (a : Nat) (ts us : List (List Char)) (cs : List Char) :
    places a (ts ++ us) cs = places a ts cs ++ places (a + reach ts cs) us (cs.drop (reach ts cs)) := by
  induction ts generalizing a cs with
  | nil => rfl
  | cons t ts ih =>
    rw [List.cons_append, places, ih, places, reach, List.cons_append, List.drop_drop, Nat.add_assoc]

theorem places_add (a b : Nat) (ts : List (List Char)) (cs : List Char) :
    places (a + b) ts cs = (places b ts cs).map fun r => (a + r.1, a + r.2) := by
  induction ts generalizing b cs with
  | nil => rfl
  | cons t ts ih =>
    rw [places, places, List.map_cons, Nat.add_assoc, Nat.add_assoc, ih]

theorem length_places (a : Nat) (ts : List (List Char)) (cs : List Char) :
    (places a ts cs).length = ts.length := by
  induction ts generalizing a cs with
  | nil => rfl
  | cons t ts ih => rw [places, List.length_cons, ih, List.length_cons]

/-- Leaves that tile a text lie where their texts do. -/
theorem Tiling.ranges {a b : Nat} {ns : List Node} (h : Tiling source a ns b)
    (hmark : source.head? ≠ some byteOrderMark)
    (hfirst : ∀ n ∈ ns, ∃ c ∈ (text source n).head?, isBlank c = false) :
    ns.map (range 0) = places a (ns.map (text source)) (source.drop a) := by
  induction ns generalizing a with
  | nil => rfl
  | cons n ns ih =>
    obtain ⟨i, j, ⟨hai, hij, hj⟩, hstart, hstop, hgap, hrest⟩ := h
    have hstart : n.start.chars = i := by rw [hstart, chars_take (by omega)]
    have hstop : n.stop.chars = j := by rw [hstop, chars_take hj]
    have hlength : (text source n).length = j - i := by
      rw [text, hstart, hstop, List.length_take, List.length_drop]
      omega
    have hblanks : ∀ c ∈ slice source a i, isBlank c = true := by
      rcases hgap with h | ⟨ha, v, hv, -⟩
      · exact h
      · -- the mark would be the first character
        obtain rfl : a = 0 := beq_iff_eq.mp ha
        rw [slice, List.drop_zero] at hv
        refine absurd ?_ hmark
        rw [← List.take_append_drop (i - 0) source, hv]
        rfl
    have hblank : blankLength (source.drop a) = i - a := by
      obtain ⟨c, hc, hvisible⟩ := hfirst n List.mem_cons_self
      have hdrop : source.drop a = slice source a i ++ source.drop i := by
        have htail : source.drop i = (source.drop a).drop (i - a) := by
          rw [List.drop_drop, Nat.add_sub_of_le hai]
        rw [slice, htail, List.take_append_drop]
      have hhead : (source.drop i).head? = some c := by
        rwa [text, hstart, hstop, List.head?_take, if_neg (by omega)] at hc
      have hnone : (source.drop i).takeWhile isBlank = [] := by
        obtain ⟨v, hv⟩ := List.head?_eq_some_iff.mp hhead
        rw [hv, List.takeWhile_cons_of_neg (by rw [hvisible]; exact Bool.false_ne_true)]
      have hlen : (slice source a i).length = i - a := by
        rw [slice, List.length_take, List.length_drop]
        omega
      rw [blankLength, hdrop, List.takeWhile_append_of_pos hblanks, hnone, List.append_nil, hlen]
    have hplace : a + (blankLength (source.drop a) + (text source n).length) = j := by omega
    rw [List.map_cons, List.map_cons, places, hplace, List.drop_drop, hblank, hlength,
      show a + (i - a + (j - i)) = j by omega, show a + (i - a) = i by omega,
      ← ih hrest fun m hm => hfirst m (List.mem_cons_of_mem _ hm)]
    exact congrArg (· :: _) (Prod.ext hstart hstop)

/-- The leaves of a text lie where their texts do, if each of them has one. -/
theorem ranges_of_parse {tree : Tree} (h : parse source = some tree)
    (hmark : source.head? ≠ some byteOrderMark)
    (hfirst : ∀ t ∈ ((ofTree tree).sketch source).texts, ∃ c ∈ t.head?, isBlank c = false) :
    (ofTree tree).tips.map (range 0) = places 0 ((ofTree tree).sketch source).texts source := by
  have hwhole := parse_whole h
  have hvisible : ∀ m ∈ (ofTree tree).tips, ∃ c ∈ (text source m).head?, isBlank c = false := by
    intro m hm
    apply hfirst
    rw [texts_sketch]
    exact List.mem_map_of_mem hm
  have hleaves : (ofTree tree).leaves = (ofTree tree).tips := by
    refine leaves_eq_tips _ fun m hm => ?_
    obtain ⟨hmem, hchildren⟩ := mem_tips _ hm
    obtain ⟨c, hc, -⟩ := hvisible m hm
    have hne : text source m ≠ [] := by
      intro hnil
      rw [hnil] at hc
      cases hc
    rw [isTextLeaf, hchildren]
    exact decide_eq_true (bytes_of_text (placed_of_whole hwhole m hmem) hne)
  obtain ⟨htiling, -⟩ := tiling_of_whole hwhole
  rw [hleaves] at htiling
  rw [htiling.ranges hmark hvisible, texts_sketch, List.drop_zero]

theorem tipsAll_append (ns ms : List Node) : tipsAll (ns ++ ms) = tipsAll ns ++ tipsAll ms := by
  induction ns with
  | nil => rfl
  | cons n ns ih => rw [List.cons_append, tipsAll, tipsAll, ih, List.append_assoc]

theorem children_of_sketch {n : Node} {x : Symbol} {ss : List Sketch} (h : n.sketch source = .node x ss) :
    n.children.map (sketch source) = ss ∧ n.tips = tipsAll n.children := by
  match n with
  | mk i [] => cases h
  | mk i (c :: cs) =>
    rw [sketch, sketchAll_eq] at h
    cases h
    exact ⟨rfl, rfl⟩

/-- The node of a part of a statement. -/
theorem exists_part {root : Node} {x y : Symbol} {before behind : List Sketch} {s : Sketch}
    (h : root.sketch source = .node x [.node y (before ++ s :: behind)]) :
    ∃ us n vs, root.descend [0, before.length] = .ok n ∧ n.sketch source = s ∧
      us.map (sketch source) = before ∧ root.tips = tipsAll us ++ (n.tips ++ tipsAll vs) ∧
      ∀ m ∈ n.preorder, m ∈ preorderAll root.children := by
  obtain ⟨hroot, htips⟩ := children_of_sketch h
  obtain ⟨m, hm, hstatement⟩ := List.map_eq_singleton_iff.mp hroot
  obtain ⟨hparts, hinner⟩ := children_of_sketch hstatement
  obtain ⟨us, rest, hsplit, hus, hrest⟩ := List.map_eq_append_iff.mp hparts
  obtain ⟨n, vs, rfl, hn, -⟩ := List.map_eq_cons_iff.mp hrest
  have hfirst : root.children[0]? = some m := by rw [hm]; rfl
  have hsecond : m.children[before.length]? = some n := by
    rw [hsplit, ← hus, List.length_map, List.getElem?_append_right (Nat.le_refl _), Nat.sub_self]
    rfl
  refine ⟨us, n, vs, ?_, hn, hus, ?_, ?_⟩
  · rw [descend, hfirst]
    change m.descend [before.length] = _
    rw [descend, hsecond]
    rfl
  · rw [htips, hm, tipsAll, tipsAll, List.append_nil, hinner, hsplit, tipsAll_append, tipsAll]
  · intro k hk
    cases m with
    | mk i cs =>
      rw [hm, preorderAll_singleton, preorder, show cs = us ++ n :: vs from hsplit, preorderAll_append,
        preorderAll]
      exact List.mem_cons_of_mem _ (List.mem_append_right _ (List.mem_append_left _ hk))

/-- In a statement, what stands behind its beginning lies as its text does, wherever the statement
begins. -/
theorem layout_of_parse {tree : Tree} {front tail : List Char} {x y : Symbol} {before behind : List Sketch}
    {s : Sketch} (h : parse (front ++ tail) = some tree)
    (hmark : (front ++ tail).head? ≠ some byteOrderMark)
    (hsketch : (ofTree tree).sketch (front ++ tail) = .node x [.node y (before ++ s :: behind)])
    (hfirst : ∀ t ∈ ((ofTree tree).sketch (front ++ tail)).texts, ∃ c ∈ t.head?, isBlank c = false)
    (hreach : reach (before.flatMap Sketch.texts) (front ++ tail) = front.length) :
    ∃ n, (ofTree tree).descend [0, before.length] = .ok n ∧ n.sketch (front ++ tail) = s ∧
      n.layout n.start.chars =
        s.plain.lay
          ((places 0 s.texts tail).map fun r => (r.1 - blankLength tail, r.2 - blankLength tail)) := by
  have hranges := ranges_of_parse h hmark hfirst
  obtain ⟨us, n, vs, hdescend, hn, hus, htips, hmem⟩ := exists_part hsketch
  have hspans : ∀ m ∈ n.preorder, m.Spans := fun m hm => (tiling_of_whole (parse_whole h)).2.1 m (hmem m hm)
  have hn' : n.tips.map (text (front ++ tail)) = s.texts := by rw [← texts_sketch, hn]
  -- the leaves before the part and those of the part
  have htexts : ((ofTree tree).sketch (front ++ tail)).texts =
      before.flatMap Sketch.texts ++ (s.texts ++ behind.flatMap Sketch.texts) := by
    rw [hsketch]
    simp [Sketch.texts, Sketch.textsAll, Sketch.textsAll_eq]
  have hlength : ((tipsAll us).map (range 0)).length =
      (places 0 (before.flatMap Sketch.texts) (front ++ tail)).length := by
    rw [length_places, List.length_map, ← hus, ← Sketch.textsAll_eq, ← sketchAll_eq, texts_sketchAll,
      List.length_map]
  have hplaces : n.tips.map (range 0) = places front.length s.texts tail := by
    rw [htips, htexts, places_append, hreach, Nat.zero_add, List.drop_left, places_append, List.map_append,
      List.map_append] at hranges
    have hrest := (List.append_inj hranges hlength).2
    refine (List.append_inj hrest ?_).1
    rw [length_places, List.length_map, ← hn', List.length_map]
  -- counted from the beginning of the part
  have hstart : n.start.chars = front.length + blankLength tail := by
    have hhead := (headD_range 0 hspans).1
    rw [hplaces, Nat.sub_zero] at hhead
    rw [← hhead]
    cases ht : s.texts with
    | nil => exact absurd (List.map_eq_nil_iff.mp (hn'.trans ht)) (tips_ne_nil n)
    | cons t ts => rfl
  have hcounted : n.tips.map (range n.start.chars) =
      (places 0 s.texts tail).map fun r => (r.1 - blankLength tail, r.2 - blankLength tail) := by
    have hshift : n.tips.map (range n.start.chars) =
        (n.tips.map (range 0)).map fun r => (r.1 - n.start.chars, r.2 - n.start.chars) := by
      rw [List.map_map]
      rfl
    rw [hshift, hplaces, hstart, ← Nat.add_zero front.length, places_add, List.map_map, Nat.add_zero]
    refine List.map_congr_left fun r _ => ?_
    exact Prod.ext (Nat.add_sub_add_left _ _ _) (Nat.add_sub_add_left _ _ _)
  exact ⟨n, hdescend, hn, by rw [layout_eq (front ++ tail) n.start.chars n hspans, hn, hcounted]⟩

end Node

end MathProg
