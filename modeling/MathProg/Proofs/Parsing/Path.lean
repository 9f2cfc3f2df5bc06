import MathProg.Proofs.Automaton.Begun
import MathProg.Proofs.Parsing.Enclosed
import MathProg.Proofs.Parsing.Tiling

/-!
# Paths of the parser

A path leads from spot to spot, a spot being a state at a place of the text. While the way is not
lost, each tree on it is taken by the automaton, and a tree without error is a derivation. So the
trees that a reduction takes from the end of a path make one more such tree.
-/

namespace MathProg

open Automaton (State Rule lost start done trail successor? reduction? partsFrom)

namespace Tree

/-- A tree that the automaton may take: it is no chain of skipped tokens, it shows its errors, and if
it is without error, it is a comment or a derivation. -/
structure Sound (source : List Char) (place : Nat) (t : Tree) : Prop where
  whole : t.symbol ≠ Symbol.skipped
  enclosed : t.Enclosed
  comment : t.cost = 0 → t.extra = true → t.symbol = Symbol.comment
  derived : t.cost = 0 → t.Derived source place

/-- A list of trees with a last one that counts, if there is any. -/
def EndsCounted (ts : List Tree) : Prop := ts = [] ∨ ∃ us t, ts = us ++ [t] ∧ t.extra = false

/-- An error is a node, and the last of its children counts. -/
def Wrapped (t : Tree) : Prop :=
  t.symbol = Symbol.error → t.children ≠ [] ∧ EndsCounted t.children

/-- The symbols of the trees that count. -/
def counted (ts : List Tree) : List Symbol := (ts.filter fun t => !t.extra).map symbol

theorem counted_cons (t : Tree) (ts : List Tree) :
    counted (t :: ts) = if t.extra then counted ts else t.symbol :: counted ts := by
  unfold counted
  by_cases he : t.extra = true
  · simp [he]
  · simp [he]

theorem counted_append (ts us : List Tree) : counted (ts ++ us) = counted ts ++ counted us := by
  rw [counted, List.filter_append, List.map_append]
  rfl

theorem counted_extras {ts : List Tree} (h : ∀ t ∈ ts, t.extra = true) : counted ts = [] := by
  induction ts with
  | nil => rfl
  | cons t ts ih =>
    rw [counted_cons, if_pos (h t List.mem_cons_self)]
    exact ih fun u hu => h u (List.mem_cons_of_mem _ hu)

/-- The parts of a node are given by the symbols of the children that count. -/
theorem parts_eq (as : List (Nat × Symbol)) (i : Nat) (ts : List Tree) :
    parts as i ts = partsFrom as i (counted ts) := by
  induction ts generalizing i with
  | nil => rfl
  | cons t ts ih =>
    rw [parts, counted_cons]
    by_cases he : t.extra = true
    · rw [if_pos he, if_pos he]
      exact ih i
    · rw [if_neg he, if_neg he, partsFrom, ih, Node.aliasOf, if_neg he]

/-- Extra trees are split off where the rest ends with one that counts. -/
theorem splitTrailingExtras_eq {ts us : List Tree} (hts : EndsCounted ts)
    (hus : ∀ u ∈ us, u.extra = true) : splitTrailingExtras (ts ++ us) = (ts, us) := by
  have hrev : ∀ u ∈ us.reverse, u.extra = true := fun u hu => hus u (List.mem_reverse.mp hu)
  have hstop : ts.reverse.takeWhile extra = [] := by
    rcases hts with rfl | ⟨vs, t, rfl, ht⟩
    · rfl
    · rw [List.reverse_append, List.reverse_singleton, List.singleton_append, List.takeWhile_cons, ht]
      rfl
  rw [splitTrailingExtras, List.reverse_append, List.takeWhile_append_of_pos hrev, hstop,
    List.append_nil]
  rw [List.length_append, List.length_reverse, Nat.add_sub_cancel, List.take_left,
    List.reverse_reverse]

theorem EndsCounted.append {ts us : List Tree} (hts : EndsCounted ts) (hus : EndsCounted us) :
    EndsCounted (ts ++ us) := by
  rcases hus with rfl | ⟨vs, t, rfl, ht⟩
  · rwa [List.append_nil]
  · exact Or.inr ⟨ts ++ vs, t, (List.append_assoc _ _ _).symm, ht⟩

theorem splitTrailingExtras_spec (ts : List Tree) :
    (splitTrailingExtras ts).1 ++ (splitTrailingExtras ts).2 = ts ∧
      EndsCounted (splitTrailingExtras ts).1 ∧
        ∀ t ∈ (splitTrailingExtras ts).2, t.extra = true := by
  have hts : (ts.reverse.dropWhile extra).reverse ++ (ts.reverse.takeWhile extra).reverse = ts := by
    rw [← List.reverse_append, List.takeWhile_append_dropWhile, List.reverse_reverse]
  have hextra : ∀ t ∈ (ts.reverse.takeWhile extra).reverse, t.extra = true := fun t ht =>
    List.mem_takeWhile_imp (List.mem_reverse.mp ht)
  have hlast : EndsCounted (ts.reverse.dropWhile extra).reverse := by
    cases hd : ts.reverse.dropWhile extra with
    | nil => exact Or.inl rfl
    | cons t us =>
      have hne : ts.reverse.dropWhile extra ≠ [] := by
        rw [hd]
        exact List.cons_ne_nil _ _
      have hhead := List.head_dropWhile_not extra hne
      simp only [hd, List.head_cons] at hhead
      exact Or.inr ⟨us.reverse, t, List.reverse_cons, hhead⟩
  have hsplit := splitTrailingExtras_eq hlast hextra
  rw [hts] at hsplit
  rw [hsplit]
  exact ⟨hts, hlast, hextra⟩

end Tree

/-- A state at a place of the text. -/
structure Spot where
  state : State
  position : Extent

namespace Spot

/-- Where every path begins. -/
def origin : Spot := ⟨start, 0⟩

variable {source : List Char} {a b m : Spot} {t : Option Tree} {ts : List Tree} {n : Nat}

/-- A tree, or none, leads from one spot to another. Only where the way is lost, the automaton has no
say. -/
structure Leads (source : List Char) (a : Spot) (t : Option Tree) (b : Spot) : Prop where
  reach : b.position = a.position + t.elim 0 Tree.total
  tiled : ∀ u ∈ t, u.Tiled source a.position.chars
  wrapped : ∀ u ∈ t, u.Wrapped
  spare : ∀ u ∈ t, u.extra = true → u.Sound source a.position.chars
  taken : b.state ≠ lost → a.state ≠ lost ∧ ∃ u, t = some u ∧ u.Sound source a.position.chars ∧
    if u.extra then b.state = a.state else successor? a.state u.symbol = some b.state

/-- A path with its trees, and the number of steps that count. -/
inductive Path (source : List Char) : Spot → List Tree → Nat → Spot → Prop
  | here (a : Spot) : Path source a [] 0 a
  | down {a m b : Spot} {t : Option Tree} {ts : List Tree} {n : Nat} (h : Leads source a t m)
      (hp : Path source m ts n b) :
      Path source a (t.toList ++ ts) (if t.any Tree.extra then n else n + 1) b

/-- Trees put one behind the other that all lead to one state. -/
def Climb (source : List Char) (s : State) (a : Spot) : List Tree → Prop
  | [] => True
  | t :: ts => Leads source a (some t) ⟨s, a.position + t.total⟩ ∧
      Climb source s ⟨s, a.position + t.total⟩ ts

theorem Path.reach (hp : Path source a ts n b) : b.position = a.position + Tree.totalAll ts := by
  induction hp with
  | here a => exact (Extent.add_zero _).symm
  | @down a m b t ts n h _ ih =>
    rw [ih, h.reach, Extent.add_assoc]
    cases t with
    | none =>
      rw [Option.elim_none, Extent.zero_add]
      rfl
    | some u => rfl

theorem Path.tiled (hp : Path source a ts n b) : Tree.TiledAll source a.position.chars ts := by
  induction hp with
  | here a => trivial
  | @down a m b t ts n h _ ih =>
    rw [h.reach] at ih
    cases t with
    | none =>
      rw [Option.elim_none, Extent.add_zero] at ih
      exact ih
    | some u => exact ⟨h.tiled u rfl, ih⟩

theorem Path.wrapped (hp : Path source a ts n b) : ∀ u ∈ ts, u.Wrapped := by
  induction hp with
  | here a => exact fun u hu => absurd hu List.not_mem_nil
  | @down a m b t ts n h _ ih =>
    intro u hu
    rcases List.mem_append.mp hu with hu | hu
    · exact h.wrapped u (Option.mem_toList.mp hu)
    · exact ih u hu

theorem Path.not_lost (hp : Path source a ts n b) (hb : b.state ≠ lost) : a.state ≠ lost := by
  induction hp with
  | here a => exact hb
  | down h _ ih => exact (h.taken (ih hb)).1

/-- Trees that follow each other, all of them sound. -/
def SoundAll (source : List Char) (place : Nat) : List Tree → Prop
  | [] => True
  | t :: ts => t.Sound source place ∧ SoundAll source (place + t.total.chars) ts

theorem soundAll_append {place : Nat} {ts us : List Tree} : SoundAll source place (ts ++ us) ↔
    SoundAll source place ts ∧ SoundAll source (place + (Tree.totalAll ts).chars) us := by
  induction ts generalizing place with
  | nil => simp only [List.nil_append, SoundAll, true_and, Tree.totalAll]; exact Iff.rfl
  | cons t ts ih =>
    rw [List.cons_append, SoundAll, SoundAll, ih, Tree.totalAll_cons, Tree.chars_add, Nat.add_assoc,
      and_assoc]

/-- Trees that follow each other, of which those are sound that do not count. -/
def SpareAll (source : List Char) (place : Nat) : List Tree → Prop
  | [] => True
  | t :: ts => (t.extra = true → t.Sound source place) ∧ SpareAll source (place + t.total.chars) ts

theorem spareAll_append {place : Nat} {ts us : List Tree} : SpareAll source place (ts ++ us) ↔
    SpareAll source place ts ∧ SpareAll source (place + (Tree.totalAll ts).chars) us := by
  induction ts generalizing place with
  | nil => simp only [List.nil_append, SpareAll, true_and, Tree.totalAll]; exact Iff.rfl
  | cons t ts ih =>
    rw [List.cons_append, SpareAll, SpareAll, ih, Tree.totalAll_cons, Tree.chars_add, Nat.add_assoc,
      and_assoc]

theorem SpareAll.sound {place : Nat} {ts : List Tree} (h : SpareAll source place ts)
    (hx : ∀ t ∈ ts, t.extra = true) : SoundAll source place ts := by
  induction ts generalizing place with
  | nil => trivial
  | cons t ts ih =>
    obtain ⟨ht, hts⟩ := List.forall_mem_cons.mp hx
    exact ⟨h.1 ht, ih h.2 hts⟩

theorem Path.spare (hp : Path source a ts n b) : SpareAll source a.position.chars ts := by
  induction hp with
  | here a => trivial
  | @down a m b t ts n h _ ih =>
    rw [h.reach] at ih
    cases t with
    | none =>
      rw [Option.elim_none, Extent.add_zero] at ih
      exact ih
    | some u => exact ⟨h.spare u rfl, ih⟩

theorem Path.sound (hp : Path source a ts n b) (hb : b.state ≠ lost) :
    SoundAll source a.position.chars ts := by
  induction hp with
  | here a => trivial
  | @down a m b t ts n h hp ih =>
    obtain ⟨-, u, rfl, hu, -⟩ := h.taken (hp.not_lost hb)
    have hts := ih hb
    rw [h.reach] at hts
    exact ⟨hu, hts⟩

/-- The trail of the last state is found in the symbols on the way to it. -/
theorem Path.trail (hp : Path source a ts n b) (hb : b.state ≠ lost) :
    (Tree.counted ts).length = n ∧
      Automaton.trail b.state <+: (Tree.counted ts).reverse ++ Automaton.trail a.state := by
  induction hp with
  | here a => exact ⟨rfl, List.prefix_rfl⟩
  | @down a m b t ts n h hp ih =>
    obtain ⟨-, u, rfl, -, hu⟩ := h.taken (hp.not_lost hb)
    obtain ⟨hn, htrail⟩ := ih hb
    rw [Option.toList_some, List.singleton_append, Tree.counted_cons, Option.any_some]
    by_cases he : u.extra = true
    · rw [if_pos he] at hu
      rw [if_pos he, if_pos he, ← hu]
      exact ⟨hn, htrail⟩
    · rw [if_neg he] at hu
      rw [if_neg he, if_neg he, List.length_cons, hn, List.reverse_cons, List.append_assoc]
      exact ⟨rfl, htrail.trans ((List.prefix_append_right_inj _).mpr (Automaton.trail_successor hu))⟩

/-- Steps that do not count leave the state as it is. -/
theorem Path.state_eq (hp : Path source a ts 0 b) (hb : b.state ≠ lost) : a.state = b.state := by
  generalize hn : 0 = n at hp
  induction hp with
  | here a => rfl
  | @down a m b t ts n h hp ih =>
    obtain ⟨-, u, rfl, -, hu⟩ := h.taken (hp.not_lost hb)
    rw [Option.any_some] at hn
    by_cases he : u.extra = true
    · rw [if_pos he] at hn hu
      exact hu.symm.trans (ih hb hn)
    · rw [if_neg he] at hn
      cases hn

/-- One step that counts is a step of the automaton. -/
theorem Path.single (hp : Path source a ts 1 b) (hb : b.state ≠ lost) :
    ∃ x, Tree.counted ts = [x] ∧ successor? a.state x = some b.state := by
  generalize hn : 1 = n at hp
  induction hp with
  | here a => cases hn
  | @down a m b t ts n h hp ih =>
    obtain ⟨-, u, rfl, -, hu⟩ := h.taken (hp.not_lost hb)
    rw [Option.any_some] at hn
    rw [Option.toList_some, List.singleton_append, Tree.counted_cons]
    by_cases he : u.extra = true
    · rw [if_pos he] at hn hu
      rw [if_pos he, ← hu]
      exact ih hb hn
    · rw [if_neg he] at hn hu
      cases hn
      have hlen := (hp.trail hb).1
      rw [if_neg he, List.eq_nil_of_length_eq_zero hlen, ← hp.state_eq hb]
      exact ⟨_, rfl, hu⟩

/-- A node that is being made at the end of a path was begun further down. -/
theorem Path.begun {x : Symbol} {k : Nat} (hp : Path source a ts n b) (hb : b.state ≠ lost)
    (hx : (x, n + k) ∈ Automaton.begun b.state) :
    (k ≠ 0 → (x, k) ∈ Automaton.begun a.state) ∧
      (k = 0 → n ≠ 0 → (successor? a.state x).isSome = true) := by
  induction hp generalizing k with
  | here a =>
    rw [Nat.zero_add] at hx
    exact ⟨fun _ => hx, fun _ hn => absurd rfl hn⟩
  | @down a m b t ts n h hp ih =>
    obtain ⟨-, u, rfl, -, hu⟩ := h.taken (hp.not_lost hb)
    rw [Option.any_some] at hx ⊢
    by_cases he : u.extra = true
    · rw [if_pos he] at hu hx ⊢
      rw [← hu]
      exact ih hb hx
    · rw [if_neg he] at hu hx ⊢
      rw [Nat.add_assoc, Nat.add_comm 1] at hx
      have hstep := Automaton.begun_successor hu ((ih hb hx).1 (Nat.succ_ne_zero k))
      refine ⟨fun hk => ?_, fun hk _ => ?_⟩
      · rwa [if_neg hk] at hstep
      · rwa [if_pos hk] at hstep

/-- What a reduction makes of the end of a path can be taken where that begins. -/
theorem Path.successor {r : Rule} {x : Symbol} (hp : Path source a ts r.length b)
    (hb : b.state ≠ lost) (hr : reduction? b.state x = some r) :
    (successor? a.state r.symbol).isSome = true := by
  by_cases hn : r.length = 0
  · obtain ⟨hstart, hmodel⟩ := (Automaton.reduction_climbs hr).2 hn
    rw [hn] at hp
    rw [hp.state_eq hb, hstart, hmodel, Automaton.successor_model]
    rfl
  · exact (hp.begun (k := 0) hb (Automaton.reduction_begun hr hn)).2 rfl hn

/-- A token that fits is sound as it stands, and a comment beside what counts. -/
theorem sound_leaf {place : Nat} {l : Leaf} (h : l.IsNext source place)
    (ht : l.symbol < Symbol.tokenCount) {e : Bool} (he : e = true → l.symbol = Symbol.comment) :
    (Tree.leaf { l with extra := e }).Sound source place := by
  obtain ⟨hread, ht, hgap, hlex, hatt⟩ := h.token ht
  have hs : l.symbol ≠ Symbol.skipped := Nat.ne_of_lt (Nat.lt_trans ht (by decide))
  exact ⟨hs, Tree.enclosed_read ht hread, fun _ hx => he hx, fun _ => ⟨hread, ht, hgap, hlex, hatt⟩⟩

theorem leads_token {l : Leaf} {s : State} {e : Bool} (h : l.IsNext source a.position.chars)
    (ht : l.symbol < Symbol.tokenCount) (hl : a.state ≠ lost)
    (he : if e then l.symbol = Symbol.comment ∧ s = a.state
      else successor? a.state l.symbol = some s) :
    Leads source a (some (.leaf { l with extra := e })) ⟨s, a.position + (Tree.leaf l).total⟩ := by
  have hn : l.symbol ≠ Symbol.endOfText := by
    cases e with
    | true =>
      rw [he.1]
      decide
    | false =>
      rintro hn
      rw [if_neg Bool.false_ne_true, hn, Automaton.successor_endOfText] at he
      cases he
  have hsound : (Tree.leaf { l with extra := e }).Sound source a.position.chars := by
    refine sound_leaf h ht fun hx => ?_
    rw [if_pos hx] at he
    exact he.1
  refine ⟨rfl, ?_, ?_, ?_, fun _ => ⟨hl, _, rfl, hsound, ?_⟩⟩
  · rintro u hu
    cases hu
    exact h.tiled hn e
  · rintro u hu hk
    cases hu
    exact absurd hk (Nat.ne_of_lt (Nat.lt_trans ht (by decide)))
  · rintro u hu -
    cases hu
    exact hsound
  · change if e = true then s = a.state else successor? a.state l.symbol = some s
    cases e with
    | true => exact he.2
    | false => exact he

theorem costAll_eq_zero {place : Nat} {ts : List Tree} (h : SoundAll source place ts)
    (hc : Tree.costAll ts = 0) : Tree.DerivedAll source place ts := by
  induction ts generalizing place with
  | nil => trivial
  | cons t ts ih =>
    rw [Tree.costAll, if_neg (by simpa using h.1.whole), Nat.add_eq_zero_iff] at hc
    exact ⟨h.1.comment hc.1, h.1.derived hc.1, ih h.2 hc.2⟩

theorem SoundAll.enclosed {place : Nat} {ts : List Tree} (h : SoundAll source place ts) :
    Tree.EnclosedAll ts := by
  induction ts generalizing place with
  | nil => trivial
  | cons t ts ih => exact ⟨h.1.whole, h.1.enclosed, ih h.2⟩

/-- The node that a reduction makes of its children is made by a production. -/
theorem production_ofRule {r : Rule} {s : State} {x : Symbol} {children : List Tree}
    (hr : reduction? s x = some r) (hlen : (Tree.counted children).length = r.length)
    (htrail : Automaton.trail s <+: (Tree.counted children).reverse ++ Automaton.trail a.state) :
    (r.symbol, Tree.parts r.aliases 0 children) ∈ Grammar.rules.productions := by
  obtain ⟨hle, hprod⟩ := Automaton.reduction_production hr
  have htake : ((Automaton.trail s).take r.length).reverse = Tree.counted children := by
    have hl : ((Automaton.trail s).take r.length).length = (Tree.counted children).reverse.length := by
      rw [List.length_take, Nat.min_eq_left hle, List.length_reverse, hlen]
    have htop := List.prefix_of_prefix_length_le ((List.take_prefix r.length _).trans htrail)
      (List.prefix_append _ _) (Nat.le_of_eq hl)
    rw [htop.eq_of_length hl, List.reverse_reverse]
  rw [Tree.parts_eq, ← htake]
  exact hprod

/-- The node that a reduction makes of its children is sound. -/
theorem sound_ofRule {place : Nat} {r : Rule} {s : State} {x : Symbol} {children : List Tree}
    (hr : reduction? s x = some r)
    (hprod : (r.symbol, Tree.parts r.aliases 0 children) ∈ Grammar.rules.productions)
    (h : SoundAll source place children) : (Tree.ofRule r children).Sound source place := by
  refine ⟨Nat.ne_of_lt (Automaton.reduction_symbol hr).1, Or.inr h.enclosed, fun _ he => ?_,
    fun hc => ?_⟩
  · exact absurd he Bool.false_ne_true
  · rw [Tree.ofRule, Tree.cost, Nat.add_eq_zero_iff] at hc
    exact ⟨rfl, hprod, costAll_eq_zero h hc.1⟩

/-- Extra trees leave the parser where it was. -/
theorem climb_extras {s : State} {p : Extent} {us : List Tree} (hx : ∀ u ∈ us, u.extra = true)
    (ht : Tree.TiledAll source p.chars us) (hw : ∀ u ∈ us, u.Wrapped)
    (hs : SoundAll source p.chars us) : Climb source s ⟨s, p⟩ us := by
  induction us generalizing p with
  | nil => trivial
  | cons u us ih =>
    refine ⟨⟨rfl, ?_, ?_, ?_, fun hn => ⟨hn, u, rfl, hs.1, ?_⟩⟩, ?_⟩
    · rintro v hv
      cases hv
      exact ht.1
    · rintro v hv
      cases hv
      exact hw u List.mem_cons_self
    · rintro v hv -
      cases hv
      exact hs.1
    · rw [if_pos (hx u List.mem_cons_self)]
    · exact ih (fun v hv => hx v (List.mem_cons_of_mem _ hv)) ht.2
        (fun v hv => hw v (List.mem_cons_of_mem _ hv)) hs.2

/-- Where a reduction leads from below what it takes off. -/
def target (a : Spot) (r : Rule) : State := (successor? a.state r.symbol).getD lost

/-- After a reduction the node and the extra trees behind it reach from where the children began to
where the path ended. -/
theorem Path.reduce {r : Rule} {x : Symbol} (hp : Path source a ts r.length b) (hb : b.state ≠ lost)
    (hr : reduction? b.state x = some r) :
    Climb source (a.target r) a
      (Tree.ofRule r (Tree.splitTrailingExtras ts).1 :: (Tree.splitTrailingExtras ts).2) := by
  obtain ⟨hsplit, -, hextra⟩ := Tree.splitTrailingExtras_spec ts
  obtain ⟨hlen, htrail⟩ := hp.trail hb
  have htiled := hp.tiled
  have hsound := hp.sound hb
  have hwrapped := hp.wrapped
  have hcounted : Tree.counted ts = Tree.counted (Tree.splitTrailingExtras ts).1 := by
    conv_lhs => rw [← hsplit]
    rw [Tree.counted_append, Tree.counted_extras hextra, List.append_nil]
  rw [← hsplit, Tree.tiledAll_append] at htiled
  rw [← hsplit, soundAll_append] at hsound
  rw [← hsplit, List.forall_mem_append] at hwrapped
  rw [hcounted] at hlen htrail
  have hbuilt := production_ofRule hr hlen htrail
  have hnode := sound_ofRule hr hbuilt hsound.1
  have htotal : (Tree.ofRule r (Tree.splitTrailingExtras ts).1).total =
      Tree.totalAll (Tree.splitTrailingExtras ts).1 := Tree.total_node _ _ _ _
  refine ⟨⟨rfl, ?_, ?_, ?_, fun hn => ⟨hp.not_lost hb, _, rfl, hnode, ?_⟩⟩, ?_⟩
  · rintro u hu
    cases hu
    refine ⟨fun hnil => (Automaton.reduction_symbol hr).2 ?_, Or.inr hbuilt, htiled.1⟩
    rw [← hlen, hnil]
    rfl
  · rintro u hu he
    cases hu
    exact absurd he (Nat.ne_of_lt (Nat.lt_trans (Automaton.reduction_symbol hr).1 (by decide)))
  · rintro u hu he
    cases hu
    exact absurd he Bool.false_ne_true
  · rw [if_neg (show ¬ (Tree.ofRule r _).extra = true from Bool.false_ne_true)]
    change (successor? a.state r.symbol).getD lost ≠ lost at hn
    change successor? a.state r.symbol = some ((successor? a.state r.symbol).getD lost)
    cases hs : successor? a.state r.symbol with
    | none =>
      rw [hs] at hn
      exact absurd rfl hn
    | some t => rfl
  · rw [htotal]
    exact climb_extras hextra htiled.2 hwrapped.2 hsound.2

/-- The trees that are dropped on the way back: an error around them, if there are any, and the extra
trees behind it. -/
def dropped (ts : List Tree) : List Tree :=
  (if (Tree.splitTrailingExtras ts).1.isEmpty then []
    else [Tree.ofError (Tree.splitTrailingExtras ts).1 true]) ++ (Tree.splitTrailingExtras ts).2

/-- An error is an extra tree that no derivation has. -/
theorem sound_ofError {place : Nat} {ts : List Tree} {x : Bool} :
    (Tree.ofError ts x).Sound source place := by
  have hcost : (Tree.ofError ts x).cost ≠ 0 := by
    rw [Tree.ofError, Tree.cost, if_pos (by decide)]
    intro h
    rw [Nat.add_eq_zero_iff, Nat.add_eq_zero_iff, Nat.add_eq_zero_iff] at h
    exact absurd h.2.1.2 (by decide)
  refine ⟨?_, Or.inl (by decide), fun hc => absurd hc hcost, fun hc => absurd hc hcost⟩
  change Symbol.error ≠ Symbol.skipped
  decide

/-- What is dropped on the way back, together with an error `es` that stood there already, leaves the
parser in the state it goes back to. -/
theorem Path.goBack {c : Spot} {es : List Tree} (hp : Path source c ts n b)
    (hc : c.position = a.position + Tree.totalAll es) (hes : Tree.TiledAll source a.position.chars es)
    (hend : Tree.EndsCounted es) :
    Climb source a.state a (dropped (es ++ ts)) := by
  obtain ⟨hsplit, hcounted, hextra⟩ := Tree.splitTrailingExtras_spec ts
  generalize (Tree.splitTrailingExtras ts).1 = front at hsplit hcounted
  generalize (Tree.splitTrailingExtras ts).2 = extras at hsplit hextra
  have hcounted' := hend.append hcounted
  have hsplit' : Tree.splitTrailingExtras (es ++ ts) = (es ++ front, extras) := by
    rw [← hsplit, ← List.append_assoc]
    exact Tree.splitTrailingExtras_eq hcounted' hextra
  have htiled := hp.tiled
  have hwrapped := hp.wrapped
  have hspare := hp.spare
  rw [← hsplit, Tree.tiledAll_append, hc] at htiled
  rw [← hsplit, spareAll_append, hc] at hspare
  rw [← hsplit, List.forall_mem_append] at hwrapped
  have hplace : a.position.chars + (Tree.totalAll (es ++ front)).chars =
      (a.position + Tree.totalAll es).chars + (Tree.totalAll front).chars := by
    rw [Tree.totalAll_append, Tree.chars_add, Tree.chars_add, Nat.add_assoc]
  have hfront : Tree.TiledAll source a.position.chars (es ++ front) :=
    Tree.tiledAll_append.mpr ⟨hes, htiled.1⟩
  rw [dropped, hsplit']
  dsimp only
  split
  · rename_i h
    rw [List.isEmpty_iff.mp h, Tree.totalAll] at hplace
    rw [← hplace] at htiled hspare
    exact climb_extras hextra htiled.2 hwrapped.2 (hspare.2.sound hextra)
  · rename_i h
    have hne : es ++ front ≠ [] := fun hnil => h (List.isEmpty_iff.mpr hnil)
    refine ⟨⟨rfl, ?_, ?_, ?_, fun hn => ⟨hn, _, rfl, sound_ofError, rfl⟩⟩, ?_⟩
    · rintro u hu
      cases hu
      exact ⟨fun hnil => absurd hnil hne, Or.inl ⟨by decide, rfl⟩, hfront⟩
    · rintro u hu -
      cases hu
      exact ⟨hne, hcounted'⟩
    · rintro u hu -
      cases hu
      exact sound_ofError
    · have htotal : (a.position + (Tree.ofError (es ++ front) true).total).chars =
          (a.position + Tree.totalAll es).chars + (Tree.totalAll front).chars := by
        rw [← hplace, Tree.ofError, Tree.total_node]
        rfl
      rw [← htotal] at htiled hspare
      exact climb_extras hextra htiled.2 hwrapped.2 (hspare.2.sound hextra)

/-- A path that stays behind the start arrives at the end only if it stands there already. -/
theorem Path.stay (hp : Path source a ts n b) (hb : b.state = done) (ha : start < a.state) :
    a.state = done ∧ ∀ t ∈ ts, t.extra = true := by
  induction hp with
  | here a => exact ⟨hb, fun t ht => absurd ht List.not_mem_nil⟩
  | @down a m b t ts n h hp ih =>
    have hbl : b.state ≠ lost := by
      rw [hb]
      decide
    obtain ⟨-, u, rfl, -, hu⟩ := h.taken (hp.not_lost hbl)
    by_cases he : u.extra = true
    · rw [if_pos he] at hu
      obtain ⟨hm, hts⟩ := ih hb (hu ▸ ha)
      exact ⟨hu ▸ hm, List.forall_mem_cons.mpr ⟨he, hts⟩⟩
    · rw [if_neg he] at hu
      obtain ⟨hm, -⟩ := ih hb (Automaton.start_lt_successor hu)
      rw [hm] at hu
      exact absurd (Automaton.eq_start_of_successor_done hu).1 (Nat.ne_of_gt ha)

/-- A path from the start to the end has one tree that counts, the model. -/
theorem Path.arrive (hp : Path source a ts n b) (hb : b.state = done) (ha : a.state = start) :
    ∃ before u after, ts = before ++ u :: after ∧ (∀ t ∈ before, t.extra = true) ∧
      u.extra = false ∧ u.symbol = Symbol.model ∧ ∀ t ∈ after, t.extra = true := by
  induction hp with
  | here a => exact absurd (ha.symm.trans hb) (by decide)
  | @down a m b t ts n h hp ih =>
    have hbl : b.state ≠ lost := by
      rw [hb]
      decide
    obtain ⟨-, u, rfl, -, hu⟩ := h.taken (hp.not_lost hbl)
    by_cases he : u.extra = true
    · rw [if_pos he] at hu
      obtain ⟨before, v, after, rfl, hbefore, hv, hs, hafter⟩ := ih hb (hu.trans ha)
      exact ⟨u :: before, v, after, rfl, List.forall_mem_cons.mpr ⟨he, hbefore⟩, hv, hs, hafter⟩
    · rw [if_neg he] at hu
      obtain ⟨hm, hafter⟩ := hp.stay hb (Automaton.start_lt_successor hu)
      rw [hm] at hu
      exact ⟨[], u, ts, rfl, fun t ht => absurd ht List.not_mem_nil, by simpa using he,
        (Automaton.eq_start_of_successor_done hu).2, hafter⟩

end Spot

end MathProg
