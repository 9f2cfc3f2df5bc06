import MathProg.Proofs.Expression.Display
import MathProg.Proofs.Lexing.Written

/-!
# Reading a stretch of words

What the automaton does with a stretch of words depends on the state before it and on the token behind
it only. The moves over a stretch are put together here without a text: each stands for the moves of
the parser in every text that is written in these words, and the trees that it makes show what is
noted on the stack.
-/

namespace MathProg

/-- What a tree shows: a token, or the parts of a node. -/
inductive View where
  | token (w : Word)
  | node (symbol : Symbol) (parts : List Sketch)

namespace View

/-- What is seen under a name: a hidden node that has none shows its parts. -/
def under (name? : Option Symbol) : View → List Sketch
  | token w => [.leaf (name?.getD w.symbol) w.text]
  | node x parts =>
    if name?.isSome || Symbol.isVisible x then [.node (name?.getD x) parts] else parts

/-- What children in a row show. -/
def row (as : List (Nat × Symbol)) (place : Nat) : List View → List Sketch
  | [] => []
  | v :: vs => v.under (Tree.aliasAt as place) ++ row as (place + 1) vs

end View

namespace Tree

variable {source : List Char} {p q : Extent}

/-- A tree without errors that shows a view, whatever its name. -/
structure Shows (source : List Char) (p : Extent) (t : Tree) (v : View) : Prop where
  counted : t.extra = false
  free : t.cost = 0
  look : ∀ name?, t.look source name? p = v.under name?

/-- Trees in a row, from one place to another, that show some views. -/
inductive Row (source : List Char) : Extent → List Tree → List View → Extent → Prop
  | nil (p : Extent) : Row source p [] [] p
  | cons {p q : Extent} {t : Tree} {ts : List Tree} {v : View} {vs : List View}
      (ht : t.Shows source p v) (h : Row source (p + t.total) ts vs q) : Row source p (t :: ts) (v :: vs) q

namespace Row

variable {ts : List Tree} {vs : List View}

theorem append {r : Extent} {us : List Tree} {more : List View} (h : Row source p ts vs q)
    (hu : Row source q us more r) : Row source p (ts ++ us) (vs ++ more) r := by
  induction h with
  | nil => exact hu
  | cons ht _ ih => exact .cons ht (ih hu)

/-- A row is put together from what shows the first views and what shows the others. -/
theorem split {more : List View} (h : Row source p ts (vs ++ more) q) :
    ∃ us ws r, ts = us ++ ws ∧ us.length = vs.length ∧ Row source p us vs r ∧ Row source r ws more q := by
  induction vs generalizing p ts with
  | nil => exact ⟨[], ts, p, rfl, rfl, .nil p, h⟩
  | cons v vs ih =>
    cases h with
    | cons ht h =>
      obtain ⟨us, ws, r, rfl, hlen, hus, hws⟩ := ih h
      exact ⟨_ :: us, ws, r, rfl, congrArg (· + 1) hlen, .cons ht hus, hws⟩

theorem counted (h : Row source p ts vs q) : ∀ t ∈ ts, t.extra = false := by
  induction h with
  | nil => simp
  | cons ht _ ih =>
    intro u hu
    rcases List.mem_cons.mp hu with rfl | hu
    · exact ht.counted
    · exact ih u hu

theorem reach (h : Row source p ts vs q) : q = p + totalAll ts := by
  induction h with
  | nil p => exact (Extent.add_zero p).symm
  | cons _ _ ih => rw [ih, totalAll_cons, Extent.add_assoc]

theorem free (h : Row source p ts vs q) : costAll ts = 0 := by
  induction h with
  | nil => rfl
  | cons ht _ ih =>
    rw [costAll, ih, ht.free]
    split <;> rfl

theorem looks {as : List (Nat × Symbol)} {place : Nat} (h : Row source p ts vs q) :
    Tree.looks source as place p ts = View.row as place vs := by
  induction h generalizing place with
  | nil => rfl
  | @cons p q t ts v vs ht _ ih =>
    have hname : Node.aliasOf as place t = aliasAt as place := by
      rw [Node.aliasOf, ht.counted, if_neg Bool.false_ne_true]
    rw [looks_cons, hname, ht.look, advance, ht.counted, if_neg Bool.false_ne_true, ih]
    rfl

/-- The node of trees in a row shows what they show. -/
theorem node {r : Automaton.Rule} (h : Row source p ts vs q) (hne : View.row r.aliases 0 vs ≠ [])
    (he : isErroneous r.symbol = false) :
    (ofRule r ts).Shows source p (.node r.symbol (View.row r.aliases 0 vs)) := by
  have hlooks : Tree.looks source r.aliases 0 p ts = View.row r.aliases 0 vs := h.looks
  refine ⟨rfl, ?_, fun name? => ?_⟩
  · rw [ofRule, cost, h.free, he]
    rfl
  · have hshown : Node.shown p (ofRule r ts) ≠ [] := by
      intro hnil
      rw [ofRule, shown_node] at hnil
      apply hne
      rw [← hlooks, Tree.looks, hnil, List.map_nil]
    rw [Tree.look, View.under]
    by_cases hv : (name?.isSome || Symbol.isVisible r.symbol) = true
    · rw [if_pos hv, if_pos (show (name?.isSome || (ofRule r ts).isVisible) = true from hv),
        Node.sketch_mk hshown, ← hlooks]
      rfl
    · rw [if_neg hv, if_neg (show ¬ (name?.isSome || (ofRule r ts).isVisible) = true from hv), ← hlooks]
      rfl

end Row

/-- A token that was read shows its text. -/
theorem shows_leaf {w : Word} {g rest : List Char} (hp : source.drop p.chars = g ++ (w.text ++ rest))
    (hv : Symbol.isVisible w.symbol = true) :
    (leaf ⟨w.symbol, Extent.ofChars g, Extent.ofChars w.text, false, .read⟩).Shows source p (.token w) := by
  refine ⟨rfl, rfl, fun name? => ?_⟩
  have hvisible : (name?.isSome || Symbol.isVisible w.symbol) = true := by rw [hv, Bool.or_true]
  exact (fits_leaf name? hp hvisible).1.look

end Tree

namespace Straight

open Automaton (State Rule action? successor? mode)
open MathProg.Tree (Row)

variable {source : List Char} {c : Config}

/-- The token that comes next, if `t` stands behind the words. -/
def ahead (t : Symbol) : List Word → Symbol
  | [] => t
  | w :: _ => w.symbol

theorem ahead_append (t : Symbol) (ws vs : List Word) : ahead t (ws ++ vs) = ahead (ahead t vs) ws := by
  cases ws <;> rfl

/-- A parser that looks at the first of the words that are left, or at the end of the text. -/
def Config.Faces (source : List Char) (c : Config) : List Word → Prop
  | [] => ∃ l, c.Sees source l ∧ l.symbol = Symbol.endOfText ∧ l.extra = true ∧ l.origin = .read
  | w :: ws => ∃ g rest, c.rest source = g ++ (w.text ++ rest) ∧ Writes ws rest ∧
      Symbol.isVisible w.symbol = true ∧
      c.Sees source ⟨w.symbol, Extent.ofChars g, Extent.ofChars w.text, false, .read⟩

/-- A parser that looks at the next word, or will do so if its state has a use for it. -/
def Config.Awaits (source : List Char) (c : Config) (ws : List Word) : Prop :=
  (c.lookahead = none ∧ (mode (stateOf c.frames)).ReadsModel ∧ Writes ws (c.rest source)) ∨
    c.Faces source ws

theorem lost_checked : ¬ (mode Automaton.lost).ReadsModel := by decide +kernel

theorem Config.Awaits.faces {ws : List Word} {a : Automaton.Action} (h : c.Awaits source ws)
    (ha : action? (stateOf c.frames) (ahead Symbol.endOfText ws) = some a) : c.Faces source ws := by
  rcases h with ⟨hlookahead, hmode, hwrites⟩ | h
  · have hlost : stateOf c.frames ≠ Automaton.lost := by
      intro hs
      rw [hs] at hmode
      exact lost_checked hmode
    have hhas := Automaton.has_of_action ha hlost
    cases ws with
    | nil =>
      have htokens : Symbol.endOfText ∈ (mode (stateOf c.frames)).tokens := by
        rcases Mode.has_iff.mp hhas with hmem | ⟨hs, -⟩ | ⟨hs, -⟩ | ⟨hs, -⟩
        · exact hmem
        all_goals exact absurd hs (by decide)
      exact ⟨_, sees_end hlookahead htokens hwrites, rfl, rfl, rfl⟩
    | cons w ws =>
      obtain ⟨g, rest, hrest, hmore, hnext⟩ :=
        hwrites.next hmode (Mode.plain_mode _) hhas (c.position.bytes == 0)
      refine ⟨g, rest, hrest, hmore, hwrites.visible.1, ?_⟩
      rw [Config.Sees, hlookahead]
      exact hnext
  · exact h

/-- A reduction leaves the parser looking at the same word. -/
theorem Config.Faces.reduce {ws : List Word} {r : Rule} {fs : List Frame} (h : c.Faces source ws)
    (ha : action? (stateOf c.frames) (ahead Symbol.endOfText ws) = some (.reduce r))
    (hred : Straight.reduce r c.frames = some fs) :
    ∃ look : Option Lookahead, Reaches source c ⟨fs, c.position, look⟩ ∧
      (⟨fs, c.position, look⟩ : Config).Faces source ws := by
  cases ws with
  | nil =>
    obtain ⟨l, hsees, hl⟩ := h
    obtain ⟨look, hreach, hsees'⟩ := reaches_reduce hsees (by rw [hl.1]; exact ha) hred
    exact ⟨look, hreach, l, hsees', hl⟩
  | cons w ws =>
    obtain ⟨g, rest, hrest, hwrites, hvisible, hsees⟩ := h
    obtain ⟨look, hreach, hsees'⟩ := reaches_reduce hsees ha hred
    exact ⟨look, hreach, g, rest, hrest, hwrites, hvisible, hsees'⟩

/-- What is noted of a tree on the stack. -/
structure Item where
  state : State
  view : View

/-- The state behind some items, the last one first. -/
def topOf (s : State) : List Item → State
  | [] => s
  | i :: _ => i.state

/-- What the items show, in the order of the text. -/
def views (items : List Item) : List View := (items.map (·.view)).reverse

theorem views_cons (i : Item) (items : List Item) : views (i :: items) = views items ++ [i.view] := by
  simp [views]

/-- From state `s` the automaton reads some words, and in front of `t` it has made items of them; the
last item is the first one in the list. -/
inductive Reads (s : State) : List Word → Symbol → List Item → Prop
  | nil (t : Symbol) : Reads s [] t []
  | shift {u : State} {t : Symbol} {w : Word} {ws : List Word} {items : List Item}
      (h : Reads s ws w.symbol items) (ha : action? (topOf s items) w.symbol = some (.shift u))
      (hu : (mode u).ReadsModel) : Reads s (ws ++ [w]) t (⟨u, .token w⟩ :: items)
  | reduce {u : State} {t : Symbol} {r : Rule} {ws : List Word} {top below : List Item}
      (h : Reads s ws t (top ++ below)) (ha : action? (topOf s (top ++ below)) t = some (.reduce r))
      (hlen : r.length = top.length) (hu : successor? (topOf s below) r.symbol = some u)
      (hne : View.row r.aliases 0 (views top) ≠ []) :
      Reads s ws t (⟨u, .node r.symbol (View.row r.aliases 0 (views top))⟩ :: below)

/-- Frames whose trees show some items. -/
structure Shown (source : List Char) (items : List Item) (fs : List Frame) (p q : Extent) : Prop where
  states : fs.map (·.state) = items.map (·.state)
  row : Row source p (trees fs) (views items) q

variable {s : State} {t : Symbol} {ws : List Word} {items : List Item} {fs below : List Frame}
  {p q : Extent}

theorem Shown.stateOf (h : Shown source items fs p q) : stateOf (fs ++ below) =
    topOf (stateOf below) items := by
  have hstates := h.states
  cases fs with
  | nil =>
    cases items with
    | nil => rfl
    | cons i items => cases hstates
  | cons f fs =>
    cases items with
    | nil => cases hstates
    | cons i items => exact (List.cons.inj hstates).1

/-- Frames that show items split as the items do. -/
theorem Shown.split {top rest : List Item} (h : Shown source (top ++ rest) fs p q) :
    ∃ fs' fs'' r, fs = fs' ++ fs'' ∧ fs'.length = top.length ∧ Shown source rest fs'' p r ∧
      Shown source top fs' r q := by
  obtain ⟨hstates, hrow⟩ := h
  rw [List.map_append] at hstates
  obtain ⟨fs', fs'', rfl, htop, hrest⟩ := List.map_eq_append_iff.mp hstates
  have hlen : fs'.length = top.length := by simpa using congrArg List.length htop
  have htrees : trees (fs' ++ fs'') = trees fs'' ++ trees fs' := by
    simp [trees]
  have hviews : views (top ++ rest) = views rest ++ views top := by
    simp [views]
  rw [htrees, hviews] at hrow
  obtain ⟨us, vs, r, hsplit, hlength, hus, hvs⟩ := hrow.split
  have hrestlen : us.length = (trees fs'').length := by
    rw [hlength]
    simpa [views, trees] using (congrArg List.length hrest).symm
  obtain ⟨rfl, rfl⟩ := List.append_inj hsplit hrestlen.symm
  exact ⟨fs', fs'', r, rfl, hlen, ⟨hrest, hus⟩, htop, hvs⟩

/-- Rules make no errors. -/
theorem not_erroneous {r : Rule} (ha : action? s t = some (.reduce r)) :
    Tree.isErroneous r.symbol = false := by
  obtain ⟨-, ⟨-, h⟩ | ⟨-, ⟨-, h⟩ | ⟨-, h⟩ | ⟨r', hr, h⟩ | ⟨u, -, h⟩⟩⟩ := Automaton.action_cases ha
  · cases h
  · cases h
  · cases h
  · cases h
    have hlt := (Automaton.reduction_symbol hr).1
    have hskipped : r.symbol ≠ Symbol.skipped := Nat.ne_of_lt hlt
    have herror : r.symbol ≠ Symbol.error := by
      intro he
      rw [he] at hlt
      exact absurd hlt (by decide)
    simp [Tree.isErroneous, hskipped, herror]
  · cases h

/-- What the automaton reads, the parser reads in every text that is written in the words. -/
theorem Reads.reaches (h : Reads s ws t items) {rest : List Word} (hs : Straight.stateOf c.frames = s)
    (hc : c.Awaits source (ws ++ rest)) (ht : ahead Symbol.endOfText rest = t) :
    ∃ c' fs, Straight.Reaches source c c' ∧ c'.frames = fs ++ c.frames ∧
      Shown source items fs c.position c'.position ∧ c'.Awaits source rest := by
  induction h generalizing rest with
  | nil t => exact ⟨c, [], .refl, rfl, ⟨rfl, .nil _⟩, hc⟩
  | @shift u t w ws items h ha hu ih =>
    rw [List.append_assoc] at hc
    obtain ⟨c₁, fs, hreach, hframes, hshown, hawaits⟩ := ih hc rfl
    have hstate : Straight.stateOf c₁.frames = topOf s items := by
      rw [hframes, hshown.stateOf, hs]
    obtain ⟨g, tail, hrest, hwrites, hvisible, hsees⟩ :=
      hawaits.faces (by rw [hstate]; exact ha)
    have hshift := reaches_shift hsees (by rw [hstate]; exact ha)
    refine ⟨_, ⟨u, _⟩ :: fs, hreach.trans hshift, by rw [hframes]; rfl, ⟨?_, ?_⟩, Or.inl ⟨rfl, hu, ?_⟩⟩
    · simp [hshown.states]
    · rw [trees_cons, views_cons]
      exact hshown.row.append (.cons (Tree.shows_leaf hrest hvisible) (.nil _))
    · rw [Config.rest, (Tree.fits_leaf none hrest (by rw [hvisible, Bool.or_true])).2]
      exact hwrites
  | @reduce u t r ws top below h ha hlen hu hne ih =>
    obtain ⟨c₁, fs, hreach, hframes, hshown, hawaits⟩ := ih hc ht
    have hstate : Straight.stateOf c₁.frames = topOf s (top ++ below) := by
      rw [hframes, hshown.stateOf, hs]
    have hfaces := hawaits.faces (by rw [hstate, ht]; exact ha)
    obtain ⟨fs', fs'', q, rfl, hlength, hbelow, htop⟩ := hshown.split
    have hred : Straight.reduce r c₁.frames =
        some (⟨u, Tree.ofRule r (trees fs')⟩ :: (fs'' ++ c.frames)) := by
      rw [hframes, List.append_assoc]
      apply reduce_append fs' _ htop.row.counted (by rw [hlen, hlength])
      rw [hbelow.stateOf, hs]
      exact hu
    have hnode := htop.row.node hne (not_erroneous ha)
    have hshown' : Shown source (⟨u, .node r.symbol (View.row r.aliases 0 (views top))⟩ :: below)
        (⟨u, Tree.ofRule r (trees fs')⟩ :: fs'') c.position c₁.position := by
      refine ⟨by simp [hbelow.states], ?_⟩
      rw [trees_cons, views_cons]
      apply hbelow.row.append
      rw [htop.row.reach, ← Tree.total_node]
      exact .cons hnode (.nil _)
    obtain ⟨look, hreduce, hfaces'⟩ := hfaces.reduce (by rw [hstate, ht]; exact ha) hred
    exact ⟨_, ⟨u, _⟩ :: fs'', hreach.trans hreduce, rfl, hshown', Or.inr hfaces'⟩

namespace Reads

/-- Two stretches, one behind the other. -/
theorem append {x : Symbol} {vs : List Word} {more : List Item} (h : Reads s ws x items)
    (h' : Reads (topOf s items) vs t more) (hx : ahead t vs = x) :
    Reads s (ws ++ vs) t (more ++ items) := by
  have htop : ∀ more : List Item, topOf s (more ++ items) = topOf (topOf s items) more := by
    intro more
    cases more <;> rfl
  subst hx
  induction h' with
  | nil t => simpa [ahead] using h
  | @shift u t w vs more h' ha hu ih =>
    have hfirst : ahead t (vs ++ [w]) = ahead w.symbol vs := by rw [ahead_append]; rfl
    have hread := ih (by rw [← hfirst]; exact h)
    rw [← List.append_assoc]
    apply hread.shift _ hu
    rw [htop]
    exact ha
  | @reduce u t r vs top below h' ha hlen hu hne ih =>
    have hread := ih h
    rw [List.append_assoc] at hread
    apply hread.reduce (r := r) _ hlen _ hne
    · rw [← List.append_assoc, htop]
      exact ha
    · rw [htop]
      exact hu

/-- One word. -/
theorem word {u : State} {w : Word} (ha : action? s w.symbol = some (.shift u)) (hu : (mode u).ReadsModel) :
    Reads s [w] t [⟨u, .token w⟩] :=
  (Reads.nil w.symbol).shift ha hu

/-- All that was read becomes one node. -/
theorem all {u : State} {r : Rule} (h : Reads s ws t items)
    (ha : action? (topOf s items) t = some (.reduce r)) (hlen : r.length = items.length)
    (hu : successor? s r.symbol = some u) (hne : View.row r.aliases 0 (views items) ≠ []) :
    Reads s ws t [⟨u, .node r.symbol (View.row r.aliases 0 (views items))⟩] := by
  rw [← List.append_nil items] at h ha
  exact h.reduce ha hlen hu hne

end Reads

end Straight

end MathProg
