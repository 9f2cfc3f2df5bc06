import MathProg.Proofs.Automaton.Sections
import MathProg.Proofs.Parsing.Trace
import MathProg.Proofs.Parsing.Made

/-!
# The pieces of a text

A text is a row of pieces: statements, the head of the data section and comments. The parser puts the
statements together to repetitions, and what becomes of a statement depends on the section it is in and on
nothing before it, and not on which token comes behind it.
-/

namespace MathProg

namespace Grammar

open Automaton (Section)

/-- Whether a production of what is not a joint begins with none, and repetitions are made of statements. -/
def Part.jointed (rule : Symbol × List Part) : Bool :=
  Nat.ble Symbol.tokenCount rule.1 &&
    ((rule.2.head?.all fun p => !Section.joints.contains p.symbol) ||
      Section.wholes.contains rule.1) &&
    [Section.model, Section.data].all fun σ => rule.1 != σ.repetition ||
      rule.2.all fun p => p.symbol == σ.statement || p.symbol == σ.repetition

theorem productions_jointed : rules.productions.all Part.jointed = true := by decide +kernel

variable {x : Symbol} {p : Part} {ps : List Part}

theorem tokenCount_le_of_production (h : (x, ps) ∈ rules.productions) : Symbol.tokenCount ≤ x := by
  have hall := List.all_eq_true.mp productions_jointed _ h
  rw [Part.jointed, Bool.and_eq_true, Bool.and_eq_true, Nat.ble_eq] at hall
  exact hall.1.1

theorem not_joint_of_production (h : (x, p :: ps) ∈ rules.productions)
    (hx : x ∉ Section.wholes) :
    p.symbol ∉ Section.joints := by
  have hall := List.all_eq_true.mp productions_jointed _ h
  rw [Part.jointed, Bool.and_eq_true, Bool.and_eq_true, Bool.or_eq_true, List.contains_iff_mem] at hall
  have hfirst := hall.1.2.resolve_right hx
  rw [List.head?_cons, Option.all_some, Bool.not_eq_true', ← Bool.not_eq_true, List.contains_iff_mem]
    at hfirst
  exact hfirst

theorem repeated_of_production {σ : Section} (h : (σ.repetition, ps) ∈ rules.productions) :
    ∀ p ∈ ps, p.symbol = σ.statement ∨ p.symbol = σ.repetition := by
  have hall := List.all_eq_true.mp productions_jointed _ h
  rw [Part.jointed, Bool.and_eq_true] at hall
  have hσ := List.all_eq_true.mp hall.2 σ (by cases σ <;> decide)
  rw [Bool.or_eq_true, bne_self_eq_false] at hσ
  intro p hp
  have hp := List.all_eq_true.mp (hσ.resolve_left Bool.false_ne_true) p hp
  rw [Bool.or_eq_true, beq_iff_eq, beq_iff_eq] at hp
  exact hp

end Grammar

namespace Tree

open Automaton (State Rule Section action? successor? reduction? lost trail start)
open Straight (reduction_of_action successor_of_action)

variable {s s' r u : State} {x y z : Symbol} {t c : Tree} {ts us cs : List Tree} {as : List (Nat × Symbol)}
  {σ : Section}

theorem successor_lost (x : Symbol) : successor? lost x = none := by
  cases h : successor? lost x with
  | none => rfl
  | some u =>
    obtain ⟨⟨row, hrow, hu⟩, -⟩ := Automaton.successor_some h
    have hrow' : Automaton.row? lost = some ⟨0, 0, [], []⟩ := by decide +kernel
    rw [hrow'] at hrow
    cases hrow
    exact absurd hu List.not_mem_nil

theorem goto_of_successor (hc : t.extra = false) (h : successor? s t.symbol = some u) : goto s t = u := by
  rw [goto, hc, if_neg Bool.false_ne_true, h, Option.getD_some]

theorem successor_of_goto (hc : t.extra = false) (h : goto s t ≠ lost) :
    successor? s t.symbol = some (goto s t) := by
  rw [goto, hc, if_neg Bool.false_ne_true] at h ⊢
  cases hu : successor? s t.symbol with
  | none =>
    rw [hu] at h
    exact absurd rfl h
  | some u => rfl

theorem gotoAll_lost (ts : List Tree) : gotoAll lost ts = lost := by
  induction ts with
  | nil => rfl
  | cons t ts ih =>
    have hgo : goto lost t = lost := by
      rw [goto, successor_lost]
      split <;> rfl
    change gotoAll (goto lost t) ts = lost
    rw [hgo, ih]

/-- What has been taken since a state is on top of the trail. -/
theorem trail_gotoAll (h : gotoAll s ts ≠ lost) :
    trail (gotoAll s ts) <+: (counted ts).reverse ++ trail s := by
  induction ts generalizing s with
  | nil => exact List.prefix_rfl
  | cons t ts ih =>
    have hrest := ih (s := goto s t) h
    change trail (gotoAll (goto s t) ts) <+: _
    rw [counted_cons]
    by_cases ht : t.extra = true
    · rw [if_pos ht]
      rwa [goto_extra s ht] at hrest ⊢
    · rw [if_neg ht, List.reverse_cons, List.append_assoc]
      have hgo : goto s t ≠ lost := by
        intro hlost
        apply h
        change gotoAll (goto s t) ts = lost
        rw [hlost, gotoAll_lost]
      have htrail := Automaton.trail_successor (successor_of_goto (eq_false_of_ne_true ht) hgo)
      exact hrest.trans (List.prefix_append_right_inj _ |>.mpr htrail)

/-- What a reduction makes of trees is a production. -/
theorem production_of_reduce
    (h : action? (gotoAll s cs) x = some (.reduce ⟨z, (counted cs).length, as⟩)) :
    (z, parts as 0 cs) ∈ Grammar.rules.productions := by
  have hlost : gotoAll s cs ≠ lost := by
    intro hlost
    rw [hlost] at h
    obtain ⟨-, ⟨-, ha⟩ | ⟨hno, -⟩⟩ := Automaton.action_cases h
    · cases ha
    · exact hno rfl
  obtain ⟨hle, hproduction⟩ := Automaton.reduction_production (reduction_of_action h)
  have htake : (trail (gotoAll s cs)).take (counted cs).length = (counted cs).reverse := by
    obtain ⟨rest, hrest⟩ := trail_gotoAll hlost
    have htop := congrArg (List.take (counted cs).length) hrest
    rw [List.take_append_of_le_length hle, List.take_left' (List.length_reverse)] at htop
    exact htop
  rw [htake, List.reverse_reverse] at hproduction
  rw [parts_eq]
  exact hproduction

theorem Made.production {e : Bool} (h : (node z as cs e).Made s x) :
    (z, parts as 0 cs) ∈ Grammar.rules.productions :=
  production_of_reduce h.2.2.2.2

/-- Only a leaf is a token. -/
theorem Made.eq_leaf (h : t.Made s x) (ht : t.symbol < Symbol.tokenCount) :
    ∃ l, t = leaf l ∧ l.extra = false := by
  cases t with
  | leaf l => exact ⟨l, rfl, h.1⟩
  | node z as cs e =>
    exact absurd ht (Nat.not_lt_of_le (Grammar.tokenCount_le_of_production h.production))

/-- What begins where a statement may begin is made and read in the same way everywhere where one may. -/
theorem Made.alike (hs : s ∈ σ.begins) (hs' : s' ∈ σ.begins) : ∀ (t : Tree) {x : Symbol},
    t.Made s x → t.symbol ∉ Section.wholes →
    t.Made s' x ∧ (∀ r, readings s r t = readings s' r t) ∧ ∀ r, pending s r t = pending s' r t
  | leaf l, _, h, _ => by
    obtain ⟨hl, ha⟩ := h
    have ha' := (Section.shift_alike hs ha).2 s' hs'
    have hgoto : goto s' (leaf l) = goto s (leaf l) :=
      goto_of_successor hl (successor_of_action ha').1
    refine ⟨⟨hl, by rw [hgoto]; exact ha'⟩, fun r => rfl, fun r => ?_⟩
    rw [pending, pending, hgoto]
  | node _ _ [] _, _, h, _ => by
    obtain ⟨c, ds, hnil, -⟩ := h.2.1
    cases hnil
  | node z as (c :: cs) e, x, h, hz => by
    have hproduction := h.production
    obtain ⟨he, hfirst, hcounted, hall, ha⟩ := h
    obtain ⟨c', ds, heq, hc⟩ := hfirst
    obtain ⟨rfl, rfl⟩ := List.cons.inj heq
    obtain ⟨-, hmade, hrest⟩ := hall
    have hjoint : c.symbol ∉ Section.joints := by
      rw [parts, if_neg (by rw [hc]; exact Bool.false_ne_true)] at hproduction
      exact Grammar.not_joint_of_production hproduction hz
    have hgoto : goto s c = goto s' c := by
      rw [goto, goto, hc, Section.successor_alike hs hs' hjoint]
      rfl
    obtain ⟨hmade', hreadings, hpending⟩ := Made.alike hs hs' c (hmade hc) fun hno =>
      hjoint (List.mem_cons_of_mem _ hno)
    have hstate : gotoAll s (c :: cs) = gotoAll s' (c :: cs) := by
      change gotoAll (goto s c) cs = gotoAll (goto s' c) cs
      rw [hgoto]
    refine ⟨⟨he, ⟨c, cs, rfl, hc⟩, hcounted, ⟨fun hno => ?_, fun _ => hmade', hgoto ▸ hrest⟩,
      hstate ▸ ha⟩, fun r => ?_, fun r => ?_⟩
    · rw [hc] at hno
      cases hno
    · rw [readings, readings, readingsAll, readingsAll, hreadings, hpending, hgoto]
    · rw [pending, pending, pendingAll, pendingAll, hpending, hgoto]

/-- What may end with a statement does so before each of the tokens that may follow. Its last token closes
a statement, and what comes then is read in one of a few modes. -/
theorem Made.ends : ∀ (t : Tree) {s : State} {x : Symbol}, t.Made s x → t.symbol ∈ σ.ends →
    (∀ y ∈ σ.follows, t.Made s y) ∧
      (∀ r, ∃ m, (readings s r t).getLast? = some m ∧
        (m.2.symbol = Symbol.semicolon ∨ m.2.symbol = Symbol.closingBrace)) ∧
        ∀ r, Automaton.modeIndex (pending s r t) ∈ σ.modes
  | leaf l, s, x, h, ht => by
    have htoken := (Automaton.action_cases h.2).1
    exact absurd htoken (Nat.not_lt_of_le (σ.ends_checked l.symbol ht))
  | node z as cs e, s, x, h, ht => by
    obtain ⟨he, hfirst, hcounted, hall, ha⟩ := h
    obtain ⟨us, d, hcs, hd⟩ : ∃ us d, cs = us ++ [d] ∧ d.extra = false := by
      refine hcounted.resolve_left ?_
      obtain ⟨c, ds, rfl, -⟩ := hfirst
      exact List.cons_ne_nil _ _
    have hlt : sizeOf d < sizeOf (node z as cs e) := by
      have hmem : d ∈ cs := hcs ▸ List.mem_append_right us (List.mem_singleton_self d)
      have hlist := List.sizeOf_lt_of_mem hmem
      rw [node.sizeOf_spec]
      omega
    rw [hcs] at hfirst hcounted hall ha ⊢
    rw [madeAll_append] at hall
    obtain ⟨hbefore, -, hmade, -⟩ := hall
    have hd' := hmade hd
    have hstate : gotoAll s (us ++ [d]) = goto (gotoAll s us) d := by
      rw [gotoAll_append]
      rfl
    have hgo : goto (gotoAll s us) d ≠ lost := by
      rw [← hstate]
      intro hlost
      rw [hlost] at ha
      obtain ⟨-, ⟨-, ha⟩ | ⟨hno, -⟩⟩ := Automaton.action_cases ha
      · cases ha
      · exact hno rfl
    obtain ⟨-, row, hrow, hentry⟩ := Automaton.successor_some (successor_of_goto hd hgo)
    rw [hstate] at ha
    obtain ⟨hfollows, htoken, hrest⟩ := Section.closes (reduction_of_action ha) ht hrow
    rw [hentry] at htoken hrest
    -- what is before the last child does not see what is behind it
    have hnode : (∀ y ∈ σ.follows, d.Made (gotoAll s us) y) →
        ∀ y ∈ σ.follows, (node z as (us ++ [d]) e).Made s y := by
      intro hlast y hy
      refine ⟨he, hfirst, hcounted, ?_, by rw [hstate]; exact hfollows y hy⟩
      rw [madeAll_append, ahead_made hd' [] y x]
      refine ⟨hbefore, fun hno => ?_, fun _ => hlast y hy, trivial⟩
      rw [hd] at hno
      cases hno
    by_cases hd'' : d.symbol < Symbol.tokenCount
    · obtain ⟨hsymbol, hmode⟩ := htoken hd''
      obtain ⟨l, rfl, hl⟩ := hd'.eq_leaf hd''
      refine ⟨hnode fun y _ => ⟨hd'.1, hd'.2⟩, fun r => ⟨(pendingAll s r us, l), ?_, hsymbol⟩, fun r => ?_⟩
      · rw [readings, readingsAll_append, readingsAll, readings, readingsAll, List.append_nil,
          List.getLast?_append]
        rfl
      · rw [pending, pendingAll_append, pendingAll, pending, hl, if_neg Bool.false_ne_true]
        exact hmode
    · have hends := hrest (Nat.le_of_not_lt hd'')
      obtain ⟨hlast, hreadings, hpending⟩ := Made.ends d hd' hends
      refine ⟨hnode hlast, fun r => ?_, fun r => ?_⟩
      · obtain ⟨m, hm, hsymbol⟩ := hreadings (pendingAll s r us)
        refine ⟨m, ?_, hsymbol⟩
        rw [readings, readingsAll_append, readingsAll, readingsAll, List.append_nil,
          List.getLast?_append, hm]
        rfl
      · rw [pending, pendingAll_append]
        exact hpending _
termination_by t => sizeOf t
decreasing_by exact hlt

/-- The state in which a piece may be taken to begin. -/
def entry (t : Tree) : State := (Section.of t.symbol).entry

/-- Pieces that the automaton makes one after the other, each as if there were none before it. -/
def PiecesMade (x : Symbol) : List Tree → Prop
  | [] => True
  | u :: us => (u.extra = true → u.IsComment) ∧ (u.extra = false → u.Made u.entry (ahead us x)) ∧
      PiecesMade x us

/-- The leaves of some pieces, the first of which is read in the state `r`. -/
def pieceReadings (r : State) : List Tree → List (State × Leaf)
  | [] => []
  | u :: us => readings u.entry r u ++ pieceReadings (pending u.entry r u) us

/-- The state in which the token behind some pieces is read. -/
def piecePending (r : State) : List Tree → State
  | [] => r
  | u :: us => piecePending (pending u.entry r u) us

/-- Whether all pieces that count are statements of a section. -/
def OfSection (σ : Section) (us : List Tree) : Prop := ∀ u ∈ us, u.extra = false → u.symbol = σ.statement

theorem pieceReadings_append (r : State) (us vs : List Tree) :
    pieceReadings r (us ++ vs) = pieceReadings r us ++ pieceReadings (piecePending r us) vs := by
  induction us generalizing r with
  | nil => rfl
  | cons u us ih => rw [List.cons_append, pieceReadings, ih, pieceReadings, List.append_assoc]; rfl

theorem piecePending_append (r : State) (us vs : List Tree) :
    piecePending r (us ++ vs) = piecePending (piecePending r us) vs := by
  induction us generalizing r with
  | nil => rfl
  | cons u us ih => exact ih _

theorem piecesMade_append : PiecesMade x (ts ++ us) ↔ PiecesMade (ahead us x) ts ∧ PiecesMade x us := by
  induction ts with
  | nil => exact (iff_of_eq (true_and _)).symm
  | cons t ts ih => rw [List.cons_append, PiecesMade, PiecesMade, ih, ahead_append, and_assoc, and_assoc]

theorem OfSection.append (h : OfSection σ ts) (h' : OfSection σ us) : OfSection σ (ts ++ us) :=
  fun u hu => (List.mem_append.mp hu).elim (h u) (h' u)

theorem entry_of_statement (ht : t.symbol = σ.statement) : t.entry = σ.entry := by
  rw [entry, ht, σ.of_statement]

theorem entry_of_head (ht : t.symbol = Grammar.dataHead) : t.entry = Section.model.entry := by
  rw [entry, ht]
  rfl

mutual

/-- What a tree consists of: if it is a repetition of statements, what that is made of, and else it is
one piece. -/
def pieces : Tree → List Tree
  | leaf l => [leaf l]
  | node z as cs e =>
    if z = Section.model.repetition ∨ z = Section.data.repetition then piecesAll cs
    else [node z as cs e]

def piecesAll : List Tree → List Tree
  | [] => []
  | c :: cs => pieces c ++ piecesAll cs

end

theorem pieces_of_extra (ht : t.IsComment) : pieces t = [t] := by
  obtain ⟨l, rfl, -⟩ := ht.eq_leaf
  rfl

theorem pieces_of_statement (ht : t.symbol = σ.statement) : pieces t = [t] := by
  cases t with
  | leaf l => rfl
  | node z as cs e =>
    obtain rfl : z = σ.statement := ht
    rw [pieces, if_neg (by cases σ <;> decide)]

theorem pieces_repetition (as : List (Nat × Symbol)) (cs : List Tree) (e : Bool) :
    pieces (node σ.repetition as cs e) = piecesAll cs := by
  rw [pieces, if_pos (by cases σ <;> decide)]

theorem piecesAll_append (ts us : List Tree) : piecesAll (ts ++ us) = piecesAll ts ++ piecesAll us := by
  induction ts with
  | nil => rfl
  | cons t ts ih => rw [List.cons_append, piecesAll, ih, piecesAll, List.append_assoc]

theorem piecesAll_singleton (t : Tree) : piecesAll [t] = pieces t := List.append_nil _

theorem piecesAll_comments (h : ∀ t ∈ ts, t.IsComment) : piecesAll ts = ts := by
  induction ts with
  | nil => rfl
  | cons t ts ih =>
    rw [piecesAll, pieces_of_extra (h t List.mem_cons_self),
      ih fun u hu => h u (List.mem_cons_of_mem _ hu)]
    rfl

/-- Trees and their pieces: these are made and read as those are, and show the same nodes. -/
structure Unfolded (s : State) (x : Symbol) (ts us : List Tree) : Prop where
  made : PiecesMade x us
  first : firstAll? us = firstAll? ts
  readings : ∀ r, pieceReadings r us = readingsAll s r ts
  pending : ∀ r, piecePending r us = pendingAll s r ts
  total : totalAll us = totalAll ts
  shown : ∀ i j base, Node.shownAmong [] i base us = Node.shownAmong [] j base ts

/-- Without other names, it does not matter at which place a child stands. -/
theorem shownAmong_place (us : List Tree) (i j : Nat) (base : Extent) :
    Node.shownAmong [] i base us = Node.shownAmong [] j base us := by
  induction us generalizing i j base with
  | nil => rfl
  | cons u us ih =>
    have halias : ∀ k, Node.aliasOf [] k u = none := fun k => by
      rw [Node.aliasOf]
      split <;> rfl
    rw [Node.shownAmong, Node.shownAmong, ih (advance i u) (advance j u), halias, halias]

theorem shownAmong_nil_append (i j : Nat) (base : Extent) (ts us : List Tree) :
    Node.shownAmong [] i base (ts ++ us) =
      Node.shownAmong [] i base ts ++ Node.shownAmong [] j (base + totalAll ts) us := by
  induction ts generalizing i base with
  | nil =>
    rw [List.nil_append, totalAll, Extent.add_zero, shownAmong_place us i j]
    rfl
  | cons t ts ih =>
    rw [List.cons_append, Node.shownAmong, ih, Node.shownAmong, totalAll_cons, Extent.add_assoc,
      List.append_assoc]

namespace Unfolded

theorem nil (s : State) (x : Symbol) : Unfolded s x [] [] :=
  ⟨trivial, rfl, fun _ => rfl, fun _ => rfl, rfl, fun _ _ _ => rfl⟩

theorem append {ts' us' : List Tree} (h : Unfolded s (ahead ts' x) ts us)
    (h' : Unfolded (gotoAll s ts) x ts' us') : Unfolded s x (ts ++ ts') (us ++ us') := by
  constructor
  · rw [piecesMade_append, ahead, h'.first]
    exact ⟨h.made, h'.made⟩
  · rw [firstAll?_append, firstAll?_append, h.first, h'.first]
  · intro r
    rw [pieceReadings_append, readingsAll_append, h.readings, h.pending, h'.readings]
  · intro r
    rw [piecePending_append, pendingAll_append, h.pending, h'.pending]
  · rw [totalAll_append, totalAll_append, h.total, h'.total]
  · intro i j base
    rw [shownAmong_nil_append i j, shownAmong_nil_append j j, h.shown i j, h.total, h'.shown j j]

theorem comment (s : State) (x : Symbol) (h : t.IsComment) : Unfolded s x [t] [t] := by
  obtain ⟨l, rfl, hl, -⟩ := h.eq_leaf
  refine ⟨⟨fun _ => h, fun hno => ?_, trivial⟩, rfl, fun r => rfl, fun r => ?_, rfl,
    fun i j base => shownAmong_place _ i j base⟩
  · rw [h.extra] at hno
    cases hno
  · rw [piecePending, piecePending, pendingAll, pendingAll, Tree.pending, Tree.pending, if_pos hl, if_pos hl]

/-- What begins where it is taken to begin is a piece. -/
theorem piece (hs : s ∈ σ.begins) (hentry : t.entry ∈ σ.begins) (ht : t.symbol ∉ Section.wholes)
    (h : t.Made s x) : Unfolded s x [t] [t] := by
  obtain ⟨hmade, hreadings, hpending⟩ := h.alike hs hentry t ht
  refine ⟨⟨fun hno => ?_, fun _ => hmade, trivial⟩, rfl, fun r => ?_, fun r => ?_, rfl,
    fun i j base => shownAmong_place _ i j base⟩
  · rw [h.extra] at hno
    cases hno
  · rw [pieceReadings, pieceReadings, readingsAll, readingsAll, hreadings]
  · rw [piecePending, piecePending, pendingAll, pendingAll, hpending]

/-- A repetition is what its children are. -/
theorem repetition {e : Bool} (h : Unfolded s x cs us) :
    Unfolded s x [node σ.repetition [] cs e] us := by
  have hhidden : Symbol.isVisible σ.repetition = false := by cases σ <;> decide +kernel
  refine ⟨h.made, ?_, fun r => ?_, fun r => ?_, ?_, fun i j base => ?_⟩
  · rw [h.first, firstAll?, first?, firstAll?, Option.or_none]
  · rw [h.readings, readingsAll, Tree.readings, readingsAll, List.append_nil]
  · rw [h.pending, pendingAll, Tree.pending, pendingAll]
  · rw [h.total, totalAll_cons, total_node, totalAll, Extent.add_zero]
  · have halias : Node.aliasOf [] j (node σ.repetition [] cs e) = none := by
      rw [Node.aliasOf]
      split <;> rfl
    rw [h.shown i 0, Node.shownAmong, Node.shownAmong, halias, List.append_nil]
    rw [isVisible, symbol, hhidden]
    rfl

end Unfolded

theorem exists_part (as : List (Nat × Symbol)) (i : Nat) (hc : c ∈ cs) (he : c.extra = false) :
    ∃ p ∈ parts as i cs, p.symbol = c.symbol := by
  rw [parts_eq]
  have hmem : c.symbol ∈ counted cs :=
    List.mem_map_of_mem (List.mem_filter.mpr ⟨hc, by rw [he]; rfl⟩)
  generalize counted cs = xs at hmem
  induction xs generalizing i with
  | nil => exact absurd hmem List.not_mem_nil
  | cons x xs ih =>
    rw [Automaton.partsFrom]
    rcases List.mem_cons.mp hmem with rfl | hmem
    · exact ⟨_, List.mem_cons_self, rfl⟩
    · obtain ⟨p, hp, hsymbol⟩ := ih (i + 1) hmem
      exact ⟨p, List.mem_cons_of_mem _ hp, hsymbol⟩

mutual

theorem unfold_tree (σ : Section) : ∀ (t : Tree) {s : State} {x : Symbol}, t.Made s x → s ∈ σ.begins →
    (t.symbol = σ.statement ∨ t.symbol = σ.repetition) →
    Unfolded s x [t] (pieces t) ∧ OfSection σ (pieces t)
  | leaf l, s, x, h, hs, ht => by
    have htoken := (Automaton.action_cases h.2).1
    rcases ht with ht | ht
    · rw [show l.symbol = _ from ht] at htoken
      exact absurd htoken (by cases σ <;> decide)
    · rw [show l.symbol = _ from ht] at htoken
      exact absurd htoken (by cases σ <;> decide)
  | node z as cs e, s, x, h, hs, ht => by
    rcases ht with ht | ht
    · rw [pieces_of_statement ht]
      have hwhole : (node z as cs e).symbol ∉ Section.wholes := by
        rw [ht]
        exact σ.statement_not_whole
      exact ⟨.piece hs (entry_of_statement ht ▸ σ.entry_mem) hwhole h,
        List.forall_mem_singleton.mpr fun _ => ht⟩
    · obtain rfl : z = σ.repetition := ht
      have hproduction := h.production
      have haliases : as = [] := Section.aliases_of_joint (reduction_of_action h.2.2.2.2)
        σ.repetition_mem
      obtain ⟨hunfolded, hsection⟩ := unfold_trees σ cs h.2.2.2.1 (Or.inl hs) fun c hc he => by
        obtain ⟨p, hp, hsymbol⟩ := exists_part as 0 hc he
        rw [← hsymbol]
        exact Grammar.repeated_of_production hproduction p hp
      subst haliases
      rw [pieces_repetition]
      exact ⟨hunfolded.repetition, hsection⟩

/-- Statements and repetitions of them, taken apart. Nothing is made behind a statement that is not yet
part of a repetition, or behind two repetitions that are not yet one. -/
theorem unfold_trees (σ : Section) : ∀ (ts : List Tree) {s : State} {x : Symbol}, MadeAll s x ts →
    (s ∈ σ.begins ∨ ∀ y u, action? s y ≠ some (.shift u)) →
    (∀ c ∈ ts, c.extra = false → c.symbol = σ.statement ∨ c.symbol = σ.repetition) →
    Unfolded s x ts (piecesAll ts) ∧ OfSection σ (piecesAll ts)
  | [], s, x, _, _, _ => ⟨.nil s x, fun u hu => absurd hu List.not_mem_nil⟩
  | c :: cs, s, x, h, hs, hsymbols => by
    obtain ⟨hcomment, hmade, hrest⟩ := h
    have hsymbols' := fun d hd => hsymbols d (List.mem_cons_of_mem _ hd)
    by_cases hc : c.extra = true
    · have hc' := hcomment hc
      rw [goto_extra s hc] at hrest
      obtain ⟨hunfolded, hsection⟩ := unfold_trees σ cs hrest hs hsymbols'
      have hstate : gotoAll s [c] = s := goto_extra s hc
      rw [piecesAll, pieces_of_extra hc']
      refine ⟨Unfolded.append (.comment s _ hc') (by rw [hstate]; exact hunfolded), ?_⟩
      refine OfSection.append (List.forall_mem_singleton.mpr fun hno => ?_) hsection
      rw [hc] at hno
      cases hno
    · have hc := eq_false_of_ne_true hc
      have hmade := hmade hc
      have hs : s ∈ σ.begins := hs.resolve_right fun hno => by
        obtain ⟨y, u, -, hu⟩ := hmade.first
        exact hno y u hu
      have hnext : goto s c ∈ σ.begins ∨ ∀ y u, action? (goto s c) y ≠ some (.shift u) := by
        rcases hsymbols c List.mem_cons_self hc with hstatement | hrepetition
        · have hgo : goto s c = σ.closed := goto_of_successor hc (by
            rw [hstatement]
            exact σ.successor_statement s hs)
          rw [hgo]
          exact Or.inr (Section.of_repeatsAt σ.repeats_checked.1).2
        · have hall := σ.successor_repetition s hs
          cases hu : successor? s σ.repetition with
          | none =>
            have hgo : goto s c = lost := by
              rw [goto, hc, if_neg Bool.false_ne_true, hrepetition, hu]
              rfl
            rw [hgo]
            refine Or.inr fun y u hno => ?_
            have hno := (successor_of_action hno).1
            rw [successor_lost] at hno
            cases hno
          | some u =>
            rw [hu, Option.all_some, decide_eq_true_eq] at hall
            have hgo : goto s c = u := goto_of_successor hc (by rw [hrepetition]; exact hu)
            rw [hgo]
            refine hall.imp_right fun hrepeated => ?_
            rw [hrepeated]
            exact (Section.of_repeatsAt σ.repeats_checked.2).2
      obtain ⟨hfirst, hsection⟩ := unfold_tree σ c hmade hs (hsymbols c List.mem_cons_self hc)
      obtain ⟨hunfolded, hsection'⟩ := unfold_trees σ cs hrest hnext hsymbols'
      exact ⟨hfirst.append hunfolded, hsection.append hsection'⟩

end

end Tree

end MathProg
