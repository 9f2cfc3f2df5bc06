import MathProg.Node
import MathProg.Proofs.Parsing.Leaf

/-!
# What a tree looks like

The visible part of a tree without its places: symbols, and the texts of the leaves. Trees that stand
side by side look like the parts that they were built for, if each of them does.
-/

namespace MathProg

/-- A visible node: its symbol, and its text or its children. -/
inductive Sketch where
  | leaf (symbol : Symbol) (text : List Char)
  | node (symbol : Symbol) (children : List Sketch)

namespace Node

mutual

def sketch (source : List Char) : Node → Sketch
  | mk i [] => .leaf i.symbol (text source (mk i []))
  | mk i (c :: cs) => .node i.symbol (sketchAll source (c :: cs))

def sketchAll (source : List Char) : List Node → List Sketch
  | [] => []
  | c :: cs => sketch source c :: sketchAll source cs

end

theorem sketchAll_eq (source : List Char) (ns : List Node) :
    sketchAll source ns = ns.map (sketch source) := by
  induction ns with
  | nil => rfl
  | cons n ns ih => rw [sketchAll, ih, List.map_cons]

theorem sketch_mk {source : List Char} {i : Info} {ns : List Node} (h : ns ≠ []) :
    sketch source (mk i ns) = .node i.symbol (ns.map (sketch source)) := by
  cases ns with
  | nil => exact absurd rfl h
  | cons n ns => rw [sketch, sketchAll_eq]

end Node

namespace Tree

variable {source : List Char} {p : Extent}

/-- What a tree at a place looks like under a name: it shows as one node, or as its children. -/
def look (source : List Char) (name? : Option Symbol) (p : Extent) (t : Tree) : List Sketch :=
  if name?.isSome || t.isVisible then [(Node.mk (Node.infoOf name? p t) (Node.shown p t)).sketch source]
  else (Node.shown p t).map (Node.sketch source)

/-- What trees side by side look like. -/
def looks (source : List Char) (as : List (Nat × Symbol)) (place : Nat) (p : Extent) (ts : List Tree) :
    List Sketch :=
  (Node.shownAmong as place p ts).map (Node.sketch source)

theorem looks_cons (as : List (Nat × Symbol)) (place : Nat) (t : Tree) (ts : List Tree) :
    looks source as place p (t :: ts) =
      look source (Node.aliasOf as place t) p t ++
        looks source as (advance place t) (p + t.total) ts := by
  unfold looks look
  rw [Node.shownAmong, List.map_append]
  split <;> rfl

/-- What a visible tree looks like at the beginning of the text. -/
theorem look_root {t : Tree} (h : t.isVisible = true) :
    look source none 0 t = [(Node.ofTree t).sketch source] := by
  rw [look, if_pos (by rw [h]; rfl)]
  rfl

theorem shown_node (s : Symbol) (as : List (Nat × Symbol)) (cs : List Tree) (e : Bool) :
    Node.shown p (node s as cs e) = Node.shownAmong as 0 p cs := by rw [Node.shown]

/-- A visible node looks like its children in a row. -/
theorem look_visible {s : Symbol} {as : List (Nat × Symbol)} {cs : List Tree} {e : Bool}
    (hs : Symbol.isVisible s = true) (hne : looks source as 0 p cs ≠ []) :
    look source none p (node s as cs e) = [.node s (looks source as 0 p cs)] := by
  have hv : (Option.isSome (none : Option Symbol) || (node s as cs e).isVisible) = true := hs
  rw [look, if_pos hv, Node.sketch_mk]
  · rw [shown_node]
    rfl
  · rw [shown_node]
    rintro h
    exact hne (by rw [looks, h, List.map_nil])

/-- A hidden node shows as its children. -/
theorem look_hidden {s : Symbol} {as : List (Nat × Symbol)} {cs : List Tree} {e : Bool}
    (hs : Symbol.isVisible s = false) :
    look source none p (node s as cs e) = looks source as 0 p cs := by
  have hv : ¬ (Option.isSome (none : Option Symbol) || (node s as cs e).isVisible) = true := by
    rw [show (node s as cs e).isVisible = false from hs]
    exact Bool.false_ne_true
  rw [look, if_neg hv, shown_node]
  rfl

theorem look_leaf {name? : Option Symbol} {l : Leaf}
    (hv : (name?.isSome || Symbol.isVisible l.symbol) = true) :
    look source name? p (leaf l) =
      [.leaf (name?.getD l.symbol)
        ((source.drop (p.chars + l.padding.chars)).take l.size.chars)] := by
  rw [look, if_pos (show (name?.isSome || (leaf l).isVisible) = true from hv), Node.shown, Node.sketch]
  refine congrArg (fun n => [Sketch.leaf _ (List.take n _)]) ?_
  change (p + (l.padding + l.size)).chars - (p + l.padding).chars = l.size.chars
  simp only [chars_add]
  omega

/-- What a part of a node shows: under another name, perhaps, than its own. -/
structure Part where
  name? : Option Symbol
  sketch : Sketch

/-- A tree without errors that shows a part of a node. -/
structure Fits (source : List Char) (p : Extent) (t : Tree) (part : Part) : Prop where
  counted : t.extra = false
  free : t.cost = 0
  look : t.look source part.name? p = [part.sketch]

/-- Trees in a row, from one place to another, that show the parts of a node. -/
inductive Laid (source : List Char) : Extent → List Tree → List Part → Extent → Prop
  | nil (p : Extent) : Laid source p [] [] p
  | cons {p q : Extent} {t : Tree} {ts : List Tree} {part : Part} {parts : List Part}
      (ht : t.Fits source p part) (h : Laid source (p + t.total) ts parts q) :
      Laid source p (t :: ts) (part :: parts) q

namespace Laid

variable {q : Extent} {ts : List Tree} {parts : List Part}

theorem append {r : Extent} {us : List Tree} {more : List Part} (h : Laid source p ts parts q)
    (hu : Laid source q us more r) : Laid source p (ts ++ us) (parts ++ more) r := by
  induction h with
  | nil => exact hu
  | cons ht _ ih => exact .cons ht (ih hu)

theorem snoc {t : Tree} {part : Part} (h : Laid source p ts parts q) (ht : t.Fits source q part) :
    Laid source p (ts ++ [t]) (parts ++ [part]) (q + t.total) := h.append (.cons ht (.nil _))

theorem length_eq (h : Laid source p ts parts q) : ts.length = parts.length := by
  induction h with
  | nil => rfl
  | cons _ _ ih => rw [List.length_cons, List.length_cons, ih]

theorem counted (h : Laid source p ts parts q) : ∀ t ∈ ts, t.extra = false := by
  induction h with
  | nil => exact fun _ ht => absurd ht List.not_mem_nil
  | cons ht _ ih =>
    intro u hu
    rcases List.mem_cons.mp hu with rfl | hu
    · exact ht.counted
    · exact ih u hu

theorem reach (h : Laid source p ts parts q) : q = p + totalAll ts := by
  induction h with
  | nil p => exact (Extent.add_zero p).symm
  | cons _ _ ih => rw [ih, totalAll_cons, Extent.add_assoc]

theorem free (h : Laid source p ts parts q) : costAll ts = 0 := by
  induction h with
  | nil => rfl
  | cons ht _ ih =>
    rw [costAll, ih, ht.free]
    split <;> rfl

/-- Trees in a row look like their parts, if they have the names of the parts. -/
theorem looks {as : List (Nat × Symbol)} {place : Nat} (h : Laid source p ts parts q)
    (has : ∀ i part, parts[i]? = some part → aliasAt as (place + i) = part.name?) :
    Tree.looks source as place p ts = parts.map (·.sketch) := by
  induction h generalizing place with
  | nil => rfl
  | @cons p q t ts part parts ht _ ih =>
    have hname : Node.aliasOf as place t = part.name? := by
      rw [Node.aliasOf, ht.counted, if_neg Bool.false_ne_true]
      exact has 0 part rfl
    rw [looks_cons, hname, ht.look, advance, ht.counted, if_neg Bool.false_ne_true,
      ih fun i part hi => by rw [Nat.add_assoc, Nat.add_comm 1]; exact has (i + 1) part hi]
    rfl

end Laid

/-- The places of the parts that show under other names. -/
def namedFrom (place : Nat) : List (Option Symbol) → List (Nat × Symbol)
  | [] => []
  | none :: ns => namedFrom (place + 1) ns
  | some x :: ns => (place, x) :: namedFrom (place + 1) ns

theorem aliasAt_cons (place i : Nat) (x : Symbol) (as : List (Nat × Symbol)) :
    aliasAt ((place, x) :: as) i = if place = i then some x else aliasAt as i := by
  rw [aliasAt, aliasAt, List.find?_cons]
  by_cases h : place = i
  · rw [if_pos h, beq_iff_eq.mpr h]
    rfl
  · rw [if_neg h, beq_eq_false_iff_ne.mpr h]

theorem aliasAt_namedFrom_lt {place i : Nat} (ns : List (Option Symbol)) (h : i < place) :
    aliasAt (namedFrom place ns) i = none := by
  induction ns generalizing place with
  | nil => rfl
  | cons n ns ih =>
    cases n with
    | none => exact ih (Nat.lt_succ_of_lt h)
    | some x =>
      rw [namedFrom, aliasAt_cons, if_neg (Nat.ne_of_gt h)]
      exact ih (Nat.lt_succ_of_lt h)

theorem aliasAt_namedFrom {place i : Nat} {ns : List (Option Symbol)} {n : Option Symbol}
    (h : ns[i]? = some n) : aliasAt (namedFrom place ns) (place + i) = n := by
  induction ns generalizing place i with
  | nil => cases h
  | cons m ns ih =>
    cases i with
    | zero =>
      obtain rfl : m = n := Option.some.inj h
      cases m with
      | none => exact aliasAt_namedFrom_lt ns (Nat.lt_succ_self _)
      | some x => rw [namedFrom, aliasAt_cons, if_pos (Nat.add_zero _).symm]
    | succ i =>
      have hi : aliasAt (namedFrom (place + 1) ns) (place + 1 + i) = n := ih h
      rw [Nat.add_assoc, Nat.add_comm 1] at hi
      cases m with
      | none => exact hi
      | some x => rwa [namedFrom, aliasAt_cons, if_neg (by omega)]

/-- The node of trees in a row shows its parts. -/
theorem Laid.node {q : Extent} {ts : List Tree} {parts : List Part} (h : Laid source p ts parts q)
    (hne : parts ≠ []) {r : Automaton.Rule} (hr : r.aliases = namedFrom 0 (parts.map (·.name?)))
    (hv : Symbol.isVisible r.symbol = true) (he : isErroneous r.symbol = false) :
    (ofRule r ts).Fits source p ⟨none, .node r.symbol (parts.map (·.sketch))⟩ := by
  have hlooks : Tree.looks source r.aliases 0 p ts = parts.map (·.sketch) := by
    refine h.looks fun i part hi => ?_
    rw [hr]
    exact aliasAt_namedFrom (by rw [List.getElem?_map, hi]; rfl)
  refine ⟨rfl, ?_, ?_⟩
  · rw [ofRule, cost, h.free, he]
    rfl
  · rw [ofRule, look_visible hv (by rw [hlooks]; simpa using hne), hlooks]

/-- A hidden node around one tree shows what the tree does. -/
theorem Fits.hidden {t : Tree} {sketch : Sketch} (h : t.Fits source p ⟨none, sketch⟩)
    {r : Automaton.Rule} (hr : r.aliases = []) (hv : Symbol.isVisible r.symbol = false)
    (he : isErroneous r.symbol = false) : (ofRule r [t]).Fits source p ⟨none, sketch⟩ := by
  have hlaid : Laid source p [t] [⟨none, sketch⟩] (p + t.total) := .cons h (.nil _)
  refine ⟨rfl, ?_, ?_⟩
  · rw [ofRule, cost, hlaid.free, he]
    rfl
  · rw [ofRule, look_hidden hv, hr]
    exact hlaid.looks fun i part hi => by
      cases i with
      | zero => cases hi; rfl
      | succ i => cases hi

/-- A token that was read shows its text. -/
theorem fits_leaf {t : Symbol} {g w rest : List Char} (name? : Option Symbol)
    (hp : source.drop p.chars = g ++ (w ++ rest)) (hv : (name?.isSome || Symbol.isVisible t) = true) :
    (leaf ⟨t, Extent.ofChars g, Extent.ofChars w, false, .read⟩).Fits source p
      ⟨name?, .leaf (name?.getD t) w⟩ ∧
    source.drop (p + (leaf ⟨t, Extent.ofChars g, Extent.ofChars w, false, .read⟩).total).chars =
      rest := by
  have hdrop : source.drop (p.chars + g.length) = w ++ rest := by
    rw [← List.drop_drop, hp, List.drop_left]
  refine ⟨⟨rfl, rfl, ?_⟩, ?_⟩
  · rw [look_leaf hv]
    simp only [Extent.chars_ofChars, hdrop, List.take_left]
  · have htotal : (p + (leaf ⟨t, Extent.ofChars g, Extent.ofChars w, false, .read⟩).total).chars =
        p.chars + g.length + w.length := by
      change p.chars + ((Extent.ofChars g).chars + (Extent.ofChars w).chars) = _
      rw [Extent.chars_ofChars, Extent.chars_ofChars, Nat.add_assoc]
    rw [htotal, ← List.drop_drop, hdrop, List.drop_left]

end Tree

end MathProg
