import MathProg.Parse
import MathProg.Proofs.Parsing.Reductions
import MathProg.Proofs.Parsing.Straight

/-!
# Recovering from errors

Whatever a reading supplies, drops or skips after an error, what it has read stays a path from the
start of the text.
-/

namespace MathProg

open Automaton (State Rule lost done reduction?)
open Spot (Leads Path Climb)

namespace Stack

variable {source : List Char} {T : Terms} {g g' : Stack} {v n k u w : Nat} {p q : Extent}

theorem unmoved_progress : Unmoved g (g.progress v).2 := by
  unfold progress
  dsimp only
  split
  · exact .modify fun r => ⟨rfl, rfl⟩
  · exact .rfl

theorem unmoved_standing : Unmoved g (g.standing v).2 := unmoved_progress

theorem unmoved_hasBetter {s : Standing} {place fuel i : Nat} :
    Unmoved g (g.hasBetter v s place fuel i).2 := by
  induction fuel generalizing g i with
  | zero => exact .rfl
  | succ fuel ih =>
    rw [hasBetter]
    split
    · exact .rfl
    · split
      · exact ih
      · dsimp only
        split
        · exact unmoved_standing
        · split
          · exact unmoved_standing
          · exact unmoved_standing.trans ih
        · exact unmoved_standing.trans ih

theorem readings_halt : (g.halt v).readings = g.readings.set v ((g.version v).top, .halted) := by
  by_cases hlt : v < g.size
  · exact readings_modify (reading_of_lt hlt) fun r hr => by rw [(Prod.mk.inj hr).1]
  · have hle : g.versions.length ≤ v := Nat.le_of_not_lt hlt
    rw [List.set_eq_of_length_le (by rwa [readings_length, size])]
    simp only [readings, Stack.halt, modify, List.modify_eq_self hle]

/-- Giving a reading up. -/
theorem Sound.halt (hs : g.Sound source T) : (g.halt v).Sound source T := by
  refine hs.of_vertices rfl fun f hf => ?_
  rw [readings_halt] at hf
  rcases List.mem_or_eq_of_mem_set hf with hmem | rfl
  · exact Or.inl hmem
  · exact Or.inr fun hn => by cases hn

theorem vertex_pushAll {ts : List Tree} {s : State} {i : Nat} (hi : i < g.vertices.size) :
    (g.pushAll v ts s).vertex i = g.vertex i ∧ i < (g.pushAll v ts s).vertices.size := by
  induction ts generalizing g with
  | nil => exact ⟨rfl, hi⟩
  | cons t ts ih =>
    have hi' : i < (g.push v (some t) s).vertices.size := by
      rw [size_push]
      exact Nat.lt_succ_of_lt hi
    obtain ⟨hv, hlt⟩ := ih hi'
    exact ⟨hv.trans (vertex_push_lt hi), hlt⟩

theorem readings_pushAll (ts : List Tree) {s : State} {x : Nat} {st : Status}
    (h : g.readings[v]? = some (x, st)) :
    ∃ y, (g.pushAll v ts s).readings = g.readings.set v (y, st) := by
  obtain ⟨hlt, hx⟩ := List.getElem?_eq_some_iff.mp h
  induction ts generalizing g x with
  | nil => exact ⟨x, by rw [← hx, List.set_getElem_self]; rfl⟩
  | cons t ts ih =>
    have hread := readings_push (t := some t) (s := s) h
    have hnew : (g.push v (some t) s).readings[v]? = some (g.vertices.size, st) := by
      rw [hread, List.getElem?_set, if_pos rfl, if_pos hlt]
    obtain ⟨hlt', hx'⟩ := List.getElem?_eq_some_iff.mp hnew
    obtain ⟨y, hy⟩ := ih hnew hlt' hx'
    refine ⟨y, hy.trans ?_⟩
    rw [hread, List.set_set]

/-- A stack on which all readings but one have paid what is asked. -/
structure SoundBut (source : List Char) (T : Terms) (v : Nat) (g : Stack) : Prop where
  sound : g.Sound source T.loose
  held : ∀ i f, i ≠ v → g.readings[i]? = some f → g.Held source T f

theorem Sound.but (hs : g.Sound source T) : g.SoundBut source T v :=
  ⟨hs.loose, fun _ f _ hf => hs.held f (List.mem_of_getElem? hf)⟩

/-- If the one reading has paid as well, all have. -/
theorem SoundBut.all (hs : g.SoundBut source T v)
    (hv : ∀ f, g.readings[v]? = some f → g.Held source T f) : g.Sound source T := by
  refine ⟨hs.sound.woven.terms rfl, fun f hf => ?_⟩
  obtain ⟨i, hi⟩ := List.mem_iff_getElem?.mp hf
  by_cases he : i = v
  · exact hv f (he ▸ hi)
  · exact hs.held i f he hi

/-- The other readings have paid if each of them was there before or has paid now. -/
theorem SoundBut.change (hs : g.SoundBut source T v) (hs' : g'.Sound source T.loose)
    (he : Extends T g g') (hr : ∀ i f, i ≠ v → g'.readings[i]? = some f →
      (∃ j, j ≠ v ∧ g.readings[j]? = some f) ∨ g'.Held source T f) : g'.SoundBut source T v := by
  refine ⟨hs', fun i f hi hf => ?_⟩
  rcases hr i f hi hf with ⟨j, hj, hf'⟩ | hheld
  · exact (hs.held j f hj hf').extend he
  · exact hheld

theorem SoundBut.unmoved (hs : g.SoundBut source T v) (h : Unmoved g g') :
    g'.SoundBut source T v := by
  refine hs.change (h.sound hs.sound) h.extends fun i f hi hf => Or.inl ⟨i, hi, ?_⟩
  rw [← h.readings]
  exact hf

theorem SoundBut.halt (hs : g.SoundBut source T v) : (g.halt v).Sound source T := by
  have hread := readings_halt (g := g) (v := v)
  refine SoundBut.all (v := v) (hs.change hs.sound.halt (.of_vertices rfl) fun i f hi hf => ?_) ?_
  · rw [hread, List.getElem?_set_ne (Ne.symm hi)] at hf
    exact Or.inl ⟨i, hi, hf⟩
  · intro f hf
    rw [hread, List.getElem?_set, if_pos rfl] at hf
    split at hf
    · cases hf
      exact fun hn => by cases hn
    · cases hf

/-- The vertices that were added are set aside as well. -/
def Beyond (T : Terms) (g g' : Stack) : Terms :=
  { T with closed := fun i => T.closed i ∨ g.vertices.size ≤ i ∧ i < g'.vertices.size }

/-- A reading that ends takes its last trees aside. -/
theorem SoundBut.close {ts : List Tree} {s : State} (hbut : g.SoundBut source T v)
    (hv : g.Stands T.loose v p) :
    ((g.pushAll v ts s).halt v).Sound source (Beyond T g ((g.pushAll v ts s).halt v)) ∧
      ((g.pushAll v ts s).halt v).size = g.size := by
  have hs := hbut.sound
  obtain ⟨x, hf, -⟩ := hv.spot_eq
  obtain ⟨y, hy⟩ := readings_pushAll ts (s := s) hf
  have hread : ∃ z, ((g.pushAll v ts s).halt v).readings = g.readings.set v (z, .halted) := by
    refine ⟨((g.pushAll v ts s).version v).top, ?_⟩
    rw [readings_halt, hy, List.set_set]
  generalize hg' : (g.pushAll v ts s).halt v = g' at hread ⊢
  have hvertex : ∀ i, i < g.vertices.size → g'.vertex i = g.vertex i ∧ i < g'.vertices.size := by
    intro i hi
    rw [← hg']
    exact vertex_pushAll hi
  have hspot : ∀ i, i < g.vertices.size → g'.spot i = g.spot i := fun i hi => by
    rw [spot, (hvertex i hi).1]
    rfl
  have hout : ∀ i, g.Inner T i → g'.Inner (Beyond T g g') i := by
    intro i hi
    refine ⟨(hvertex i hi.1).2, ?_⟩
    rintro (hc | ⟨hle, -⟩)
    · exact hi.2 hc
    · exact absurd hi.1 (Nat.not_lt_of_le hle)
  have hin : ∀ i, g'.Inner (Beyond T g g') i → g.Inner T i := by
    intro i hi
    refine ⟨?_, fun hc => hi.2 (Or.inl hc)⟩
    by_contra hge
    exact hi.2 (Or.inr ⟨Nat.le_of_not_lt hge, hi.1⟩)
  obtain ⟨z, hz⟩ := hread
  refine ⟨⟨⟨hout 0 hs.woven.root, fun i hc => ?_, fun i hi => ?_, ?_, fun i hi hnil => ?_,
    fun i hi l hl => ?_⟩, fun f hfm => ?_⟩, ?_⟩
  · rcases hc with hc | ⟨-, hlt⟩
    · exact (hvertex i (hs.woven.bound i hc)).2
    · exact hlt
  · rw [hspot i (hin i hi).1]
    exact hs.woven.place i (hin i hi)
  · rw [hspot 0 hs.woven.root.1, (hvertex 0 hs.woven.root.1).1]
    exact hs.woven.base
  · rw [(hvertex i (hin i hi).1).1] at hnil
    exact hs.woven.bottom i (hin i hi) hnil
  · rw [(hvertex i (hin i hi).1).1] at hl
    obtain ⟨hb, hlead, hprice, hfree⟩ := hs.woven.links i (hin i hi) l hl
    refine ⟨hout _ hb, ?_, ?_, ?_⟩
    · rw [hspot i (hin i hi).1, hspot _ hb.1]
      exact hlead
    · rw [(hvertex i (hin i hi).1).1, (hvertex _ hb.1).1]
      exact hprice
    · rw [hspot i (hin i hi).1, (hvertex i (hin i hi).1).1, hspot _ hb.1]
      exact hfree
  · rw [hz] at hfm
    obtain ⟨i, hi⟩ := List.mem_iff_getElem?.mp hfm
    rw [List.getElem?_set] at hi
    intro hn
    split at hi
    · split at hi
      · cases hi
        cases hn
      · cases hi
    · rename_i hne
      obtain ⟨hinner, hasks, hlook⟩ := hbut.held i f (fun he => hne he.symm) hi hn
      refine ⟨hout _ hinner, ?_, ?_⟩
      · rw [hspot _ hinner.1, (hvertex _ hinner.1).1]
        exact hasks
      · rw [hspot _ hinner.1]
        exact hlook
  · rw [← readings_length, hz, List.length_set, readings_length]

end Stack

/-- A parse in progress on `source`: the stack is sound, the token that is known was read at a place of
the text, and the tree that was found is a whole one and has errors. -/
structure Recovery.Sound (source : List Char) (T : Terms) (m : Recovery) : Prop where
  text : m.source = source
  stack : m.stack.Sound source T
  known : ∀ k ∈ m.known, ∃ e, IsPlace source e ∧ e.bytes = k.place ∧ k.leaf.IsNext source e.chars
  finished : ∀ t ∈ m.finished, t.Whole source ∧ 0 < t.cost

namespace Recovery

open Stack

variable {source : List Char} {T : Terms} {m : Recovery} {v n k u w : Nat} {p : Extent} {look : Leaf}

theorem Sound.with_stack {g : Stack} (hm : m.Sound source T) {T' : Terms}
    (hg : g.Sound source T') : Sound source T' { m with stack := g } :=
  ⟨hm.text, hg, hm.known, hm.finished⟩

/-- What is left after a reading was dealt with: a sound parse in which all readings have paid
something and the reading still has its place. -/
def Settled (source : List Char) (v : Nat) (m : Recovery) : Prop :=
  (∃ closed, m.Sound source (.paid closed)) ∧ v < m.stack.size

/-- The better one of two trees is one of them. -/
theorem finished_spec {Q : Tree → Prop} (roots : List Tree) (best : Option Tree)
    (hroots : ∀ t ∈ roots, Q t) (hbest : ∀ t ∈ best, Q t) :
    ∀ t ∈ roots.foldl (fun best root => match best with
      | some t => if Tree.prefersSecond t root then some root else some t
      | none => some root) best, Q t := by
  induction roots generalizing best with
  | nil => exact hbest
  | cons root roots ih =>
    obtain ⟨hroot, hroots⟩ := List.forall_mem_cons.mp hroots
    refine ih _ hroots fun t ht => ?_
    cases best with
    | none =>
      cases ht
      exact hroot
    | some b =>
      dsimp only at ht
      split at ht
      · cases ht
        exact hroot
      · exact hbest t ht

theorem accept_spec {closed : Nat → Prop} {closing : List Tree}
    (hm : m.Sound source (Terms.paid closed).loose)
    (hbut : m.stack.SoundBut source (.paid closed) v)
    (hv : m.stack.Stands (Terms.paid closed).loose v p)
    (hroot : ∀ ts n, Path source .origin ts n ⟨m.stack.state v, p⟩ →
      (m.stack.top v).cost = Tree.costs ts →
      ∃ t, Tree.root? (ts ++ closing) = some t ∧ t.Whole source ∧ 0 < t.cost) :
    Settled source v (m.accept v closing) := by
  obtain ⟨x, hf, htop, hinner, hspot⟩ := hv.spot_eq
  obtain ⟨slices, xs, hpop, hall, hxs⟩ := hm.stack.woven.popAll (htop ▸ hinner)
  have hroots : ∀ t ∈ slices.filterMap (fun sl => Tree.root? (sl.trees ++ closing)),
      t.Whole source ∧ 0 < t.cost := by
    intro t ht
    obtain ⟨sl, hsl, hroot'⟩ := List.mem_filterMap.mp ht
    obtain ⟨-, hprice, n, hpath⟩ := hall sl hsl
    rw [htop, hspot] at hpath
    obtain ⟨t', ht', hwhole⟩ := hroot _ _ hpath hprice
    rw [ht'] at hroot'
    cases hroot'
    exact hwhole
  -- what is left of the new readings is none
  have hend : ∀ (g : Stack) (best : Option Tree) (count : Nat), Unmoved m.stack g →
      (∀ t ∈ best, t.Whole source ∧ 0 < t.cost) → Settled source v
        ⟨m.source, (g.pushAll v closing Automaton.start).halt v, m.known, best, count⟩ := by
    intro g best count hun hbest
    obtain ⟨hclose, hsize⟩ := (hbut.unmoved hun).close (hun.stands hv).1
    exact ⟨⟨_, hm.text, hclose, hm.known, hbest⟩, hsize ▸ (hun.stands hv).1.lt⟩
  have hfinished := finished_spec _ m.finished hroots hm.finished
  rw [accept, hpop]
  rcases hxs with ⟨rfl, rfl⟩ | ⟨hne, rfl⟩
  · have hun : Unmoved m.stack (m.stack.sliced (m.stack.version v) []) :=
      ⟨rfl, by rw [readings_sliced]; exact List.append_nil _⟩
    exact hend _ _ _ hun hfinished
  · obtain ⟨sl, rest, rfl⟩ := List.exists_cons_of_ne_nil hne
    have hun : Unmoved m.stack ((m.stack.sliced (m.stack.version v) [0]).remove sl.version) := by
      refine ⟨rfl, ?_⟩
      rw [readings_remove, readings_sliced, (hall sl List.mem_cons_self).1,
        List.eraseIdx_append_of_length_le (Nat.le_of_eq (readings_length _)), readings_length,
        Nat.sub_self]
      exact List.append_nil _
    exact hend _ _ _ hun hfinished

/-- Taking an error off a reading leaves it below, where what the error held begins. -/
theorem popError_spec {g : Stack} {y : Nat} (hs : g.Sound source T.loose)
    (hf : g.readings[w]? = some (y, .active)) (hy : g.Inner T y) (hl : g.state w ≠ lost) :
    ∃ x, (g.popError w).2.Sound source T.loose ∧ Extends T g (g.popError w).2 ∧
      (g.popError w).2.readings = g.readings.set w (x, .active) ∧ g.Inner T x ∧
      (g.spot x).state = g.state w ∧
      (g.spot y).position =
        (g.spot x).position + Tree.totalAll ((g.popError w).1.elim [] Tree.children) ∧
      Tree.TiledAll source (g.spot x).position.chars ((g.popError w).1.elim [] Tree.children) ∧
      Tree.EndsCounted ((g.popError w).1.elim [] Tree.children) ∧
      (x = y ∨ (g.popError w).1.elim [] Tree.children ≠ []) := by
  obtain ⟨htop, -⟩ := version_of_reading hf
  have hstate : (g.spot y).state = g.state w := by
    rw [state, top, htop]
    rfl
  unfold popError
  split
  · rename_i l hfound
    have hmem := List.mem_of_find?_eq_some hfound
    have herror := List.find?_some hfound
    rw [top, htop] at hmem
    obtain ⟨hx, hlead, -, -⟩ := hs.woven.links y hy l hmem
    obtain ⟨t, ht, hsymbol⟩ := (Option.any_eq_true _ _).mp herror
    have hsymbol : t.symbol = Symbol.error := by simpa [Tree.isError] using hsymbol
    obtain ⟨hne, hend⟩ := hlead.wrapped t ht hsymbol
    have hread : (g.modify w fun r => { r with top := l.below }).readings =
        g.readings.set w (l.below, .active) :=
      readings_modify hf fun r hr => by rw [(Prod.mk.inj hr).2]
    have htiled := hlead.tiled t ht
    obtain ⟨-, u, hu, -, hext⟩ := hlead.taken (hstate ▸ hl)
    rw [ht] at hu
    cases hu
    have hextra : t.extra = true := by
      by_contra he
      rw [if_neg he, hsymbol] at hext
      exact absurd (Automaton.successor_symbol hext).1 (by decide)
    rw [if_pos hextra] at hext
    cases t with
    | leaf k => exact absurd rfl hne
    | node s as cs e =>
      refine ⟨l.below, hs.of_vertices rfl fun f hf' => ?_, .of_vertices rfl, hread, hx,
        hext.symm.trans hstate, ?_, ?_, ?_, Or.inr ?_⟩
      · rw [hread] at hf'
        rcases List.mem_or_eq_of_mem_set hf' with hmem' | rfl
        · exact Or.inl hmem'
        · exact Or.inr fun _ => ⟨hx, trivial, fun _ hlook => by cases hlook⟩
      · rw [hlead.reach, ht]
        exact congrArg _ (Tree.total_node s as cs e)
      · rw [ht]
        exact htiled.2.2
      · rw [ht]
        exact hend
      · rw [ht]
        exact hne
  · refine ⟨y, hs, .rfl, ?_, hy, hstate, (Extent.add_zero _).symm, trivial, Or.inl rfl, Or.inl rfl⟩
    obtain ⟨hlt, he⟩ := List.getElem?_eq_some_iff.mp hf
    rw [← he, List.set_getElem_self]

/-- What is dropped on the way back was paid for before, or is now. -/
theorem costs_returned_pos {es ts : List Tree} {c : Nat} (hes : Tree.EndsCounted es)
    (h : es ≠ [] ∨ 0 < c + Tree.costs ts ∨ ∃ t ∈ ts, t.extra = false) :
    0 < c + Tree.costs (Spot.dropped (es ++ ts)) := by
  have hcounted : (∃ t ∈ es ++ ts, t.extra = false) →
      0 < c + Tree.costs (Spot.dropped (es ++ ts)) := fun h =>
    Nat.lt_of_lt_of_le (Spot.costs_dropped_pos (Or.inr h)) (Nat.le_add_left _ _)
  rcases hes with rfl | ⟨us, t, rfl, ht⟩
  · rcases h with hne | hpos | ⟨t, hmem, ht⟩
    · exact absurd rfl hne
    · rw [List.nil_append]
      rcases Nat.eq_zero_or_pos c with hc | hc
      · rw [hc, Nat.zero_add] at hpos ⊢
        exact Spot.costs_dropped_pos (Or.inl hpos)
      · exact Nat.lt_of_lt_of_le hc (Nat.le_add_right _ _)
    · exact hcounted ⟨t, hmem, ht⟩
  · exact hcounted ⟨t, by simp, ht⟩

/-- The outcome of going back in one slice. -/
theorem returnSlice_spec {g : Stack} {goal : State} {y : Nat} {sl : Slice} {previous : Option Nat}
    {b : Spot} (hgoal : goal ≠ lost) (hs : g.Sound source T.loose)
    (hf : g.readings[sl.version]? = some (y, .active)) (hy : g.Inner T y)
    (hp : Path source (g.spot y) sl.trees n b)
    (hpaid : 0 < (g.vertex y).cost + Tree.costs sl.trees ∨ ∃ t ∈ sl.trees, t.extra = false)
    (hprevious : previous ≠ some sl.version) :
    ∃ o g' z, returnSlice goal (previous, g) sl = (o, g') ∧ g'.Sound source T.loose ∧
      Extends T g g' ∧
      (o = some sl.version ∧ g'.readings = g.readings.set sl.version (z, .active) ∧
          g'.Inner T z ∧ 0 < (g'.vertex z).cost ∨
        o = previous ∧ g'.state sl.version ≠ goal ∧
          g'.readings = g.readings.set sl.version (z, .halted)) := by
  rw [returnSlice]
  dsimp only
  rw [if_neg (by simpa using hprevious)]
  split
  · rename_i hne
    refine ⟨previous, _, _, rfl, hs.halt, .of_vertices rfl, Or.inr ⟨rfl, ?_, readings_halt⟩⟩
    have hkeep : (g.halt sl.version).state sl.version = g.state sl.version := by
      obtain ⟨htop, -⟩ := version_of_reading hf
      have hnew : (g.halt sl.version).readings[sl.version]? = some (y, .halted) := by
        rw [readings_halt, List.getElem?_set, if_pos rfl,
          if_pos (List.getElem?_eq_some_iff.mp hf).1, htop]
      rw [state, top, (version_of_reading hnew).1, state, top, htop]
      rfl
    rw [hkeep]
    simpa using hne
  · rename_i heq
    have hstate : g.state sl.version = goal := by simpa using heq
    obtain ⟨x, hs₁, hext, hread, hx, hxstate, hpos, htiled, hend, hcase⟩ :=
      popError_spec hs hf hy (hstate ▸ hgoal)
    generalize g.popError sl.version = popped at hs₁ hext hread hpos htiled hend hcase ⊢
    obtain ⟨error, g₁⟩ := popped
    dsimp only at hs₁ hext hread hpos htiled hend hcase ⊢
    have hnew : g₁.readings[sl.version]? = some (x, .active) := by
      rw [hread, List.getElem?_set, if_pos rfl, if_pos (List.getElem?_eq_some_iff.mp hf).1]
    obtain ⟨htop₁, -⟩ := version_of_reading hnew
    have hstate₁ : (⟨g₁.state sl.version, (g.spot x).position⟩ : Spot) = g.spot x := by
      rw [state, top, htop₁, ← hext.spot x hx]
      rfl
    have hclimb := hp.goBack hpos htiled hend
    rw [hxstate, hstate, ← hstate₁] at hclimb
    have hpush := hs₁.pushAll
      ⟨_, hnew, rfl, hext.inner x hx, trivial, congrArg Spot.position (hext.spot x hx)⟩ hclimb hgoal
      fun _ => (congrArg Spot.state hstate₁).trans (hxstate.trans hstate)
    obtain ⟨z, hz, hinner, -, hcost⟩ := hpush.top
    have hprice : 0 < (g₁.top sl.version).cost +
        Tree.costs (Spot.dropped (error.elim [] Tree.children ++ sl.trees)) := by
      refine costs_returned_pos hend ?_
      rcases hcase with rfl | hne
      · rw [top, htop₁, hext.cost x hx]
        exact Or.inr hpaid
      · exact Or.inl hne
    rw [hread, List.set_set] at hz
    exact ⟨_, _, z, rfl, hpush.sound, hext.trans hpush.ext.tight,
      Or.inl ⟨rfl, hz, hinner, hcost ▸ hprice⟩⟩

/-- The other slices of a reading that was dealt with change nothing. -/
theorem returnSlice_again {goal : State} {o : Option Nat} {same : List Slice} {g : Stack}
    (hsame : ∀ sl ∈ same, sl.version = k)
    (hdone : o = some k ∨ g.state k ≠ goal ∧ ∃ z, g.readings[k]? = some (z, .halted)) :
    ∃ g', same.foldl (returnSlice goal) (o, g) = (o, g') ∧ Unmoved g g' := by
  induction same generalizing g with
  | nil => exact ⟨g, rfl, .rfl⟩
  | cons sl same ih =>
    obtain ⟨hk, hsame⟩ := List.forall_mem_cons.mp hsame
    rw [List.foldl_cons, returnSlice, hk]
    dsimp only
    rcases hdone with rfl | ⟨hne, z, hz⟩
    · rw [if_pos (beq_self_eq_true _)]
      exact ih hsame (Or.inl rfl)
    · split
      · exact ih hsame (Or.inr ⟨hne, z, hz⟩)
      · rw [if_pos (by simpa using hne)]
        have hhalt : Unmoved g (g.halt k) := by
          refine ⟨rfl, ?_⟩
          obtain ⟨hlt, he⟩ := List.getElem?_eq_some_iff.mp hz
          rw [readings_halt, (version_of_reading hz).1, ← he, List.set_getElem_self]
        have hkeep : (g.halt k).state k = g.state k := by
          rw [state, top, (version_of_reading (hhalt.readings ▸ hz)).1, state, top,
            (version_of_reading hz).1]
          rfl
        obtain ⟨g', hfold, hun⟩ := ih (g := g.halt k) hsame
          (Or.inr ⟨hkeep ▸ hne, z, hhalt.readings ▸ hz⟩)
        exact ⟨g', hfold, hhalt.trans hun⟩

theorem returnSlices_spec {g g₀ : Stack} {goal : State} {top : Nat} {slices : List Slice}
    {xs : List Nat} {front : List (Nat × Status)} {previous : Option Nat} (hgoal : goal ≠ lost)
    (hs : g.Sound source T.loose) (hext : Extends T g₀ g) (hread : g.readings = front ++ raws xs)
    (hcut : Stack.Cut (g₀.Spans source T top n) k slices xs)
    (hpaid : 0 < (g₀.vertex top).cost ∨ (g₀.spot top).state = lost ∧ 2 ≤ n)
    (hk : front.length = k) (hprevious : ∀ j ∈ previous, j < k) :
    ∃ o g', slices.foldl (returnSlice goal) (previous, g) = (o, g') ∧ g'.Sound source T.loose ∧
      Extends T g g' ∧ ∃ more, g'.readings = front ++ more ∧
        ∀ f ∈ more, f.2.isHalted = false → g'.Inner T f.1 ∧ 0 < (g'.vertex f.1).cost := by
  induction hcut generalizing g front previous with
  | none k => exact ⟨previous, g, rfl, hs, .rfl, [], hread, fun f hf => absurd hf List.not_mem_nil⟩
  | @group k y sl same rest xs hsame hrest ih =>
    obtain ⟨hversion, hspans⟩ := hsame sl List.mem_cons_self
    have hinner := hspans.inner
    have hf : g.readings[sl.version]? = some (y, .active) := by
      rw [hread, hversion, ← hk, List.getElem?_append_right (Nat.le_refl _), Nat.sub_self]
      rfl
    have hne : previous ≠ some sl.version := by
      rintro rfl
      exact absurd (hprevious _ rfl) (by rw [hversion]; exact Nat.lt_irrefl _)
    have hpos : 0 < (g.vertex y).cost + Tree.costs sl.trees ∨ ∃ t ∈ sl.trees, t.extra = false := by
      rw [hext.cost y hinner, ← hspans.price]
      rcases Nat.eq_zero_or_pos (g₀.vertex top).cost with hzero | hpos
      · rcases hpaid with hpos | ⟨hl, hn⟩
        · exact Or.inl hpos
        · exact Or.inr (hspans.exists_counted hl hzero hn)
      · exact Or.inl hpos
    obtain ⟨o, g₁, z, heq, hs₁, he₁, hcases⟩ := returnSlice_spec hgoal hs hf
      (hext.inner y hinner) (by rw [hext.spot y hinner]; exact hspans.path) hpos hne
    have hset : ∀ st, g.readings.set sl.version (z, st) = (front ++ [(z, st)]) ++ raws xs := by
      intro st
      rw [hread, hversion, ← hk, List.set_append_right _ _ (Nat.le_refl _), Nat.sub_self,
        List.append_assoc]
      rfl
    have hat : ∀ st, g₁.readings = g.readings.set sl.version (z, st) →
        g₁.readings[k]? = some (z, st) := by
      intro st h
      rw [h, ← hversion, List.getElem?_set, if_pos rfl, if_pos (List.getElem?_eq_some_iff.mp hf).1]
    have hdone : o = some k ∨ g₁.state k ≠ goal ∧ ∃ z, g₁.readings[k]? = some (z, .halted) := by
      rcases hcases with ⟨ho, -⟩ | ⟨-, hst, hr⟩
      · exact Or.inl (hversion ▸ ho)
      · exact Or.inr ⟨hversion ▸ hst, z, hat _ hr⟩
    obtain ⟨g₂, hfold, hun⟩ := returnSlice_again
      (fun s hs => (hsame s (List.mem_cons_of_mem _ hs)).1) hdone
    have hread₁ : ∃ st, g₁.readings = (front ++ [(z, st)]) ++ raws xs ∧
        (st.isHalted = false → g₁.Inner T z ∧ 0 < (g₁.vertex z).cost) := by
      rcases hcases with ⟨-, hr, hpaid⟩ | ⟨-, -, hr⟩
      · exact ⟨_, hr.trans (hset _), fun _ => hpaid⟩
      · exact ⟨_, hr.trans (hset _), fun hn => by cases hn⟩
    obtain ⟨st, hread₁, hpaid₁⟩ := hread₁
    have ho : ∀ j ∈ o, j < k + 1 := by
      intro j hj
      rcases hcases with ⟨rfl, -⟩ | ⟨rfl, -⟩
      · cases hj
        omega
      · exact Nat.lt_succ_of_lt (hprevious j hj)
    have he₂ : Extends T g g₂ := he₁.trans hun.extends
    obtain ⟨o', g', hfold', hs', he', more, hmore, hall⟩ := ih (hun.sound hs₁) (hext.trans he₂)
      (hun.readings.trans hread₁) (by rw [List.length_append, hk]; rfl) ho
    refine ⟨o', g', ?_, hs', he₂.trans he', (z, st) :: more, ?_, ?_⟩
    · rw [List.cons_append, List.foldl_cons, heq, List.foldl_append, hfold, hfold']
    · rw [hmore, List.append_assoc]
      rfl
    · refine List.forall_mem_cons.mpr ⟨fun hn => ?_, hall⟩
      obtain ⟨hz, hpos⟩ := hpaid₁ hn
      have he : Extends T g₁ g' := hun.extends.trans he'
      exact ⟨he.inner z hz, by rw [he.cost z hz]; exact hpos⟩

/-- Going back leaves the readings that were there alone, and the new ones have paid for it. -/
theorem returnTo_spec {g : Stack} {closed : Nat → Prop} (depth : Nat) {goal : State}
    (hgoal : goal ≠ lost) (hs : g.SoundBut source (.paid closed) v)
    (hv : g.Stands (Terms.paid closed).loose v p)
    (hpaid : 0 < (g.top v).cost ∨ g.state v = lost ∧ 2 ≤ depth) :
    ∃ b g', returnTo g v depth goal = (b, g') ∧ g'.SoundBut source (.paid closed) v ∧
      Extends (.paid closed) g g' ∧ ∃ more, g'.readings = g.readings ++ more := by
  obtain ⟨x, hf, htop, hinner, hspot⟩ := hv.spot_eq
  have hw : g.Woven source (.paid closed) := hs.sound.woven.terms rfl
  obtain ⟨slices, xs, hpop, hcut⟩ := hw.popCount (htop ▸ hinner) depth
  have hsliced : (g.sliced (g.version v) xs).Sound source (Terms.paid closed).loose := by
    refine hs.sound.sliced fun y hy => ?_
    obtain ⟨ts, hts⟩ := hcut.exists_slice y hy
    exact hts.inner
  have he₀ : Extends (.paid closed) g (g.sliced (g.version v) xs) := .of_vertices rfl
  obtain ⟨o, g', hfold, hs', he', more, hmore, hall⟩ := returnSlices_spec hgoal hsliced he₀
    (readings_sliced _ _) hcut hpaid (readings_length g)
    fun j hj => absurd hj (Option.not_mem_none j)
  have he := he₀.trans he'
  have hlt := hv.lt
  refine ⟨o.isSome, g', ?_, hs.change hs' he fun i f hi hf => ?_, he, more, hmore⟩
  · rw [returnTo, hpop]
    dsimp only
    rw [hfold]
  · rw [hmore] at hf
    by_cases hig : i < g.readings.length
    · rw [List.getElem?_append_left hig] at hf
      exact Or.inl ⟨i, hi, hf⟩
    · rw [List.getElem?_append_right (Nat.le_of_not_lt hig)] at hf
      have hmem := List.mem_of_getElem? hf
      refine Or.inr fun hn => ?_
      obtain ⟨hz, hpos⟩ := hall f hmem hn
      refine ⟨hz, hpos, (hs'.held f ?_ hn).next⟩
      rw [hmore]
      exact List.mem_append_right _ hmem

theorem isBeaten_spec {cost : Nat} :
    ∃ b g, m.isBeaten v cost = (b, { m with stack := g }) ∧ Unmoved m.stack g := by
  unfold isBeaten
  split
  · exact ⟨true, m.stack, rfl, .rfl⟩
  · exact ⟨_, _, rfl, unmoved_progress.trans unmoved_hasBetter⟩

/-- A reading has paid something, or it has only just lost its way and none of the waypoints is at a
place where nothing would be dropped. -/
def Wary (g : Stack) (v : Nat) (ws : List Waypoint) : Prop :=
  0 < (g.top v).cost ∨ g.state v = lost ∧ ∀ w ∈ ws,
    w.state = lost ∨ w.position.bytes = (g.position v).bytes ∨ 2 ≤ w.depth

theorem Wary.tail {g : Stack} {w : Waypoint} {ws : List Waypoint} (h : Wary g v (w :: ws)) :
    Wary g v ws :=
  h.imp_right fun ⟨hl, hall⟩ => ⟨hl, fun w' hw' => hall w' (List.mem_cons_of_mem _ hw')⟩

theorem Wary.same {g g' : Stack} {ws : List Waypoint} (h : Wary g v ws)
    (hspot : g'.spot (g'.version v).top = g.spot (g.version v).top)
    (hcost : (g'.top v).cost = (g.top v).cost) : Wary g' v ws := by
  have hstate : g'.state v = g.state v := congrArg Spot.state hspot
  have hposition : g'.position v = g.position v := congrArg Spot.position hspot
  rw [Wary, hcost, hstate, hposition]
  exact h

/-- A reading that is left alone stands at the same spot, with the same price. -/
theorem same_of_extends {g g' : Stack} (hv : g.Stands T v p) (he : Extends T g g')
    (hr : g'.readings[v]? = g.readings[v]?) :
    g'.spot (g'.version v).top = g.spot (g.version v).top ∧ (g'.top v).cost = (g.top v).cost := by
  obtain ⟨x, hf, htop, hinner, -⟩ := hv.spot_eq
  obtain ⟨htop', -⟩ := version_of_reading (hr.trans hf)
  rw [top, top, htop, htop']
  exact ⟨he.spot x hinner, he.cost x hinner⟩

/-- Trying the waypoints adds readings behind those that are there. -/
theorem tryWaypoints_spec {closed : Nat → Prop} {moved : Bool} {cost before : Nat}
    {ws : List Waypoint} (hs : m.stack.SoundBut source (.paid closed) v)
    (hv : m.stack.Stands (Terms.paid closed).loose v p) (hw : Wary m.stack v ws)
    (hb : before ≤ m.stack.size) :
    ∃ b g', tryWaypoints v look moved cost before ws m = (b, { m with stack := g' }) ∧
      g'.SoundBut source (.paid closed) v ∧ g'.Stands (Terms.paid closed).loose v p ∧
      before ≤ g'.size := by
  induction ws generalizing m with
  | nil => exact ⟨false, m.stack, rfl, hs, hv, hb⟩
  | cons w ws ih =>
    rw [tryWaypoints]
    dsimp only
    split
    · exact ih hs hv hw.tail hb
    · rename_i hskip
      simp only [Bool.or_eq_true, not_or, beq_iff_eq] at hskip
      have hgoal : w.state ≠ lost := hskip.1.1
      obtain ⟨b, g, heq, hun⟩ := isBeaten_spec (m := m) (v := v)
      rw [heq]
      dsimp only
      have hs₁ := hs.unmoved hun
      have hv₁ := (hun.stands hv).1
      have hb₁ : before ≤ g.size := hun.size ▸ hb
      obtain ⟨hspot₁, hcost₁⟩ := same_of_extends hv hun.extends (by rw [hun.readings])
      have hw₁ := hw.same hspot₁ hcost₁
      split
      · exact ⟨false, g, rfl, hs₁, hv₁, hb₁⟩
      · split
        · have hdepth : 0 < (g.top v).cost ∨
              g.state v = lost ∧ 2 ≤ if moved = true then w.depth + 1 else w.depth := by
            refine hw₁.imp_right fun ⟨hl, hall⟩ => ⟨hl, ?_⟩
            have hposition : g.position v = m.stack.position v := congrArg Spot.position hspot₁
            rcases hall w List.mem_cons_self with hlost | hplace | hdepth
            · exact absurd hlost hgoal
            · rw [hposition] at hplace
              exact absurd hplace hskip.1.2
            · split
              · exact Nat.le_succ_of_le hdepth
              · exact hdepth
          obtain ⟨done, g₂, heq₂, hs₂, he₂, more, hmore⟩ :=
            returnTo_spec (if moved = true then w.depth + 1 else w.depth) hgoal hs₁ hv₁ hdepth
          rw [heq₂]
          dsimp only
          have hlt := hv₁.lt
          rw [← readings_length] at hlt
          have hkeep : g₂.readings[v]? = g.readings[v]? := by
            rw [hmore, List.getElem?_append_left hlt]
          have hv₂ := (hv₁.extend he₂.loose hkeep).1
          obtain ⟨hspot₂, hcost₂⟩ := same_of_extends hv₁ he₂.loose hkeep
          have hb₂ : before ≤ g₂.size := by
            rw [← readings_length, hmore, List.length_append, readings_length]
            exact Nat.le_trans hb₁ (Nat.le_add_right _ _)
          split
          · exact ⟨true, g₂, rfl, hs₂, hv₂, hb₂⟩
          · exact ih (m := { m with stack := g₂ }) hs₂ hv₂ (hw₁.tail.same hspot₂ hcost₂) hb₂
        · exact ih (m := { m with stack := g }) hs₁ hv₁ hw₁.tail hb₁

theorem goBack_spec {closed : Nat → Prop} (look : Leaf) (moved : Bool)
    (hs : m.stack.SoundBut source (.paid closed) v)
    (hv : m.stack.Stands (Terms.paid closed).loose v p)
    (hw : ∀ ws ∈ (m.stack.version v).waypoints, Wary m.stack v ws) :
    ∃ b g', m.goBack v look moved = (b, { m with stack := g' }) ∧
      g'.SoundBut source (.paid closed) v ∧ g'.Stands (Terms.paid closed).loose v p ∧
      m.stack.size ≤ g'.size := by
  rw [goBack]
  split
  · rename_i ws hws
    split
    · exact ⟨false, m.stack, rfl, hs, hv, Nat.le_refl _⟩
    · exact tryWaypoints_spec hs hv (hw ws hws) (Nat.le_refl _)
  · exact ⟨false, m.stack, rfl, hs, hv, Nat.le_refl _⟩

theorem dropInactive_spec {closed : Nat → Prop} {g : Stack} {before : Nat}
    (hs : g.SoundBut source (.paid closed) v) (hv : g.Stands (Terms.paid closed).loose v p)
    (hlt : v < before) (hle : before ≤ g.size) :
    (dropInactive g before).SoundBut source (.paid closed) v ∧
      (dropInactive g before).Stands (Terms.paid closed).loose v p := by
  have hfront : ∀ i < before, (dropInactive g before).readings[i]? = g.readings[i]? := by
    intro i hi
    have hlen : i < (g.versions.take before).length := by
      rw [List.length_take]
      exact Nat.lt_min.mpr ⟨hi, Nat.lt_of_lt_of_le hi hle⟩
    rw [readings, readings, List.getElem?_map, List.getElem?_map, dropInactive,
      List.getElem?_append_left hlen, List.getElem?_take_of_lt hi]
  have hback : ∀ i f, before ≤ i → (dropInactive g before).readings[i]? = some f →
      ∃ j, before ≤ j ∧ g.readings[j]? = some f := by
    intro i f hi hf
    have hlen : (g.versions.take before).length = before := by
      rw [List.length_take]
      exact Nat.min_eq_left hle
    rw [readings, List.getElem?_map, dropInactive,
      List.getElem?_append_right (by rw [hlen]; exact hi)] at hf
    obtain ⟨r, hr, rfl⟩ := Option.map_eq_some_iff.mp hf
    have hmem := (List.mem_filter.mp (List.mem_of_getElem? hr)).1
    obtain ⟨j, hj⟩ := List.mem_iff_getElem?.mp hmem
    rw [List.getElem?_drop] at hj
    refine ⟨before + j, Nat.le_add_right _ _, ?_⟩
    rw [readings, List.getElem?_map, hj]
    rfl
  have hsound : (dropInactive g before).Sound source (Terms.paid closed).loose := by
    refine hs.sound.of_vertices rfl fun f hf => Or.inl ?_
    obtain ⟨i, hi⟩ := List.mem_iff_getElem?.mp hf
    rcases Nat.lt_or_ge i before with hlt | hge
    · exact List.mem_of_getElem? (hfront i hlt ▸ hi)
    · obtain ⟨j, -, hj⟩ := hback i f hge hi
      exact List.mem_of_getElem? hj
  have he : Extends (Terms.paid closed) g (dropInactive g before) := .of_vertices rfl
  refine ⟨hs.change hsound he fun i f hi hf => Or.inl ?_, (hv.extend he.loose (hfront v hlt)).1⟩
  rcases Nat.lt_or_ge i before with hlt' | hge
  · exact ⟨i, hi, hfront i hlt' ▸ hf⟩
  · obtain ⟨j, hj, hf'⟩ := hback i f hge hf
    exact ⟨j, by omega, hf'⟩

/-- A chain of skipped tokens leads to where the way is lost. -/
theorem leads_skipped {a : Spot} {ts : List Tree} (hne : ts ≠ [])
    (ht : Tree.TiledAll source a.position.chars ts) :
    Leads source a (some (Tree.ofSkipped ts)) ⟨lost, a.position + Tree.totalAll ts⟩ := by
  refine ⟨?_, ?_, ?_, ?_, fun hn => absurd rfl hn⟩
  · change a.position + Tree.totalAll ts = a.position + (Tree.ofSkipped ts).total
    rw [Tree.ofSkipped, Tree.total_node]
  · rintro u hu
    cases hu
    exact ⟨fun hnil => absurd hnil hne, Or.inl ⟨by decide, rfl⟩, ht⟩
  · rintro u hu he
    cases hu
    exact absurd (show Symbol.skipped = Symbol.error from he) (by decide)
  · rintro u hu he
    cases hu
    exact absurd he Bool.false_ne_true

theorem review_unmoved (g : Stack) (fuel i : Nat) : Unmoved g (review g fuel i) := by
  induction fuel generalizing g i with
  | zero => exact .rfl
  | succ fuel ih =>
    rw [review]
    split
    · exact .rfl
    · dsimp only
      split
      · exact unmoved_standing.trans (ih _ _)
      · exact unmoved_standing

/-- The reading that a chain goes back to takes the place of the one that it grows on. -/
theorem skip_back {g g₁ : Stack} {y : Nat} (hs : g.Sound source T.loose)
    (hv : g.Stands T.loose v p) (hy : g.Inner T y) (h : g₁.vertices = g.vertices)
    (hread : g₁.readings = g.readings ++ [(y, .active)]) :
    (g₁.replace v g.size).Sound source T.loose ∧
      (g₁.replace v g.size).Stands T.loose v (g.spot y).position ∧
      Extends T g (g₁.replace v g.size) ∧
      (g₁.replace v g.size).readings = g.readings.set v (y, .active) := by
  have hlt := hv.lt
  have hne : v ≠ g.size := Nat.ne_of_lt hlt
  have hw : g₁.readings[g.size]? = some (y, .active) := by
    rw [hread, List.getElem?_append_right (Nat.le_of_eq (readings_length g)), readings_length,
      Nat.sub_self]
    rfl
  have hreplace : (g₁.replace v g.size).readings = g.readings.set v (y, .active) := by
    rw [readings_replace hw hne, hread, List.set_append_left _ _ (by rwa [readings_length]),
      List.eraseIdx_append_of_length_le (by rw [List.length_set, readings_length]), List.length_set,
      readings_length, Nat.sub_self]
    exact List.append_nil _
  have hvertices : (g₁.replace v g.size).vertices = g.vertices := by
    rw [Stack.replace, if_neg hne]
    exact h
  have hext : Extends T g (g₁.replace v g.size) := .of_vertices hvertices
  refine ⟨hs.of_vertices hvertices fun f hf => ?_,
    ⟨(y, .active), ?_, rfl, hext.inner y hy, trivial, ?_⟩, hext, hreplace⟩
  · rw [hreplace] at hf
    rcases List.mem_or_eq_of_mem_set hf with hmem | rfl
    · exact Or.inl hmem
    · exact Or.inr fun _ => ⟨hy, trivial, fun _ hl => by cases hl⟩
  · rw [hreplace, List.getElem?_set, if_pos rfl, if_pos (by rwa [readings_length])]
  · rw [hext.spot y hy]

/-- A chain of skipped tokens is paid for, and takes the place of what it grows on. -/
structure Skipped (source : List Char) (closed : Nat → Prop) (v : Nat) (g g' : Stack) : Prop where
  sound : g'.Sound source (Terms.paid closed).loose
  ext : Extends (.paid closed) g g'
  top : ∃ x, g'.readings = g.readings.set v (x, .active) ∧ g'.Inner (.paid closed) x ∧
    0 < (g'.vertex x).cost

/-- After a token was skipped all readings have paid something. -/
theorem Skipped.all {closed : Nat → Prop} {g g' : Stack} (h : Skipped source closed v g g')
    (hs : g.SoundBut source (.paid closed) v) : g'.Sound source (.paid closed) := by
  obtain ⟨x, hx, hinner, hpos⟩ := h.top
  refine SoundBut.all (v := v) (hs.change h.sound h.ext fun i f hi hf => ?_) fun f hf => ?_
  · rw [hx, List.getElem?_set_ne (Ne.symm hi)] at hf
    exact Or.inl ⟨i, hi, hf⟩
  · rw [hx, List.getElem?_set, if_pos rfl] at hf
    split at hf
    · cases hf
      exact fun _ => ⟨hinner, hpos, fun _ hl => by cases hl⟩
    · cases hf

theorem Skipped.size {closed : Nat → Prop} {g g' : Stack} (h : Skipped source closed v g g') :
    g'.size = g.size := by
  obtain ⟨x, hx, -⟩ := h.top
  rw [← readings_length, hx, List.length_set, readings_length]

theorem skip_spec {closed : Nat → Prop} {g : Stack} (moved : Bool)
    (hs : g.Sound source (Terms.paid closed).loose) (hv : g.Stands (Terms.paid closed).loose v p)
    (hlook : look.IsNext source p.chars) (hend : look.symbol ≠ Symbol.endOfText) :
    Skipped source closed v g (skip g v look moved) := by
  obtain ⟨x, hf, htop, hinner, hspot⟩ := hv.spot_eq
  have htoken : Tree.TiledAll source p.chars
      [(Tree.leaf look).withExtra (look.extra || look.symbol == Symbol.comment)] :=
    ⟨hlook.tiled hend _, trivial⟩
  have hpush : ∀ {g' : Stack} {q : Extent} {ts : List Tree} {y : Nat},
      g'.Sound source (Terms.paid closed).loose →
      g'.Stands (Terms.paid closed).loose v q → Extends (.paid closed) g g' →
      g'.readings = g.readings.set v (y, .active) → ts ≠ [] → Tree.TiledAll source q.chars ts →
      Skipped source closed v g (g'.push v (some (Tree.ofSkipped ts)) lost) := by
    intro g' q ts y hs' hv' he' hread hne ht
    have hprice : 0 < (Tree.ofSkipped ts).cost := Tree.cost_erroneous_pos _ _ _ (by decide)
    have hpaid : 0 < (g'.top v).cost + (Tree.ofSkipped ts).cost :=
      Nat.lt_of_lt_of_le hprice (Nat.le_add_left _ _)
    have hpush := hs'.push hv' (leads_skipped hne ht) trivial
      fun _ hzero => absurd hzero (Nat.ne_of_gt hpaid)
    obtain ⟨x, hx, hinner, -, hcost⟩ := hpush.top
    rw [hread, List.set_set] at hx
    exact ⟨hpush.sound, he'.trans hpush.ext.tight, x, hx, hinner, by rw [hcost]; exact hpaid⟩
  have hsame : g.readings = g.readings.set v (x, .active) := by
    obtain ⟨hlt, he⟩ := List.getElem?_eq_some_iff.mp hf
    rw [← he, List.set_getElem_self]
  rw [skip]
  dsimp only
  split
  · have hw : g.Woven source (.paid closed) := hs.woven.terms rfl
    obtain ⟨slices, xs, hpop, hcut⟩ := hw.popCount (htop ▸ hinner) 1
    rw [hpop]
    cases hcut with
    | none =>
      have hun : Unmoved g (g.sliced (g.version v) []) :=
        ⟨rfl, by rw [readings_sliced]; exact List.append_nil _⟩
      exact hpush (hun.sound hs) (hun.stands hv).1 hun.extends (hun.readings.trans hsame)
        (List.cons_ne_nil _ _) htoken
    | @group _ y sl same rest xs hsame hrest =>
      obtain ⟨hversion, hy, hpath, -⟩ := hsame sl List.mem_cons_self
      rw [htop, hspot] at hpath
      rw [List.cons_append]
      dsimp only
      rw [hversion]
      have hraws : (g.sliced (g.version v) (y :: xs)).readings = g.readings ++ raws (y :: xs) :=
        readings_sliced _ _
      have hone : ∀ g₁ : Stack, g₁ = (if (same ++ rest).isEmpty = true then
          g.sliced (g.version v) (y :: xs)
          else ⟨g.vertices, (g.sliced (g.version v) (y :: xs)).versions.take (g.size + 1)⟩) →
          g₁.vertices = g.vertices ∧ g₁.readings = g.readings ++ [(y, .active)] := by
        rintro g₁ rfl
        split
        · rename_i hnil
          rw [List.isEmpty_iff, List.append_eq_nil_iff] at hnil
          rw [hnil.2] at hrest
          cases hrest
          exact ⟨rfl, hraws⟩
        · refine ⟨rfl, ?_⟩
          change ((g.sliced (g.version v) (y :: xs)).versions.take (g.size + 1)).map _ = _
          rw [List.map_take]
          change (g.sliced (g.version v) (y :: xs)).readings.take (g.size + 1) = _
          rw [hraws, ← readings_length, List.take_length_add_append]
          rfl
      obtain ⟨hvertices, hread⟩ := hone _ rfl
      obtain ⟨hs₁, hv₁, he₁, hread₁⟩ := skip_back hs hv hy hvertices hread
      refine hpush hs₁ hv₁ he₁ hread₁ (List.append_ne_nil_of_right_ne_nil _ (List.cons_ne_nil _ _)) ?_
      have hreach := congrArg Extent.chars hpath.reach
      rw [Tree.chars_add] at hreach
      refine Tree.tiledAll_append.mpr ⟨hpath.tiled, ?_⟩
      rw [← hreach]
      exact ⟨⟨fun hnil => absurd hnil (List.cons_ne_nil _ _), Or.inl ⟨by decide, rfl⟩, htoken⟩, trivial⟩
  · exact hpush hs hv .rfl hsame (List.cons_ne_nil _ _) htoken

theorem Sound.settled {closed : Nat → Prop} (hm : m.Sound source (.paid closed))
    (hlt : v < m.stack.size) : Settled source v m := ⟨⟨closed, hm⟩, hlt⟩

theorem size_halt {g : Stack} : (g.halt v).size = g.size := by
  rw [← readings_length, readings_halt, List.length_set, readings_length]

theorem waypoints_progress {g : Stack} :
    ((g.progress v).2.version v).waypoints = (g.version v).waypoints := by
  unfold progress
  dsimp only
  split
  · simp only [version, Stack.modify, List.getElem?_modify]
    cases g.versions[v]? with
    | none => rfl
    | some r => simp
  · rfl

/-- Whatever becomes of a lost reading, the parse stays sound, and all readings have paid. -/
theorem recover_spec {closed : Nat → Prop} (hm : m.Sound source (Terms.paid closed).loose)
    (hbut : m.stack.SoundBut source (.paid closed) v)
    (hv : m.stack.Stands (Terms.paid closed).loose v p)
    (hw : ∀ ws ∈ (m.stack.version v).waypoints, Wary m.stack v ws)
    (hlook : look.IsNext source p.chars) : Settled source v (m.recover v look) := by
  have hun : Unmoved m.stack (m.stack.progress v).2 := unmoved_progress
  have hways : ((m.stack.progress v).2.version v).waypoints = (m.stack.version v).waypoints :=
    waypoints_progress
  rw [recover]
  dsimp only
  generalize (m.stack.progress v).2 = g at hun hways ⊢
  generalize (m.stack.progress v).1 = progress
  obtain ⟨hspot, hcost⟩ := same_of_extends hv hun.extends (by rw [hun.readings])
  obtain ⟨b, g₁, heq, hs₁, hv₁, hle⟩ := goBack_spec (m := { m with stack := g }) look
    (decide (progress > 0)) (hbut.unmoved hun) (hun.stands hv).1
    fun ws hws => (hw ws (hways ▸ hws)).same hspot hcost
  rw [heq]
  dsimp only at hle ⊢
  rw [hun.size] at hle
  obtain ⟨hs₂, hv₂⟩ := dropInactive_spec hs₁ hv₁ hv.lt hle
  generalize dropInactive g₁ m.stack.size = g₂ at hs₂ hv₂ ⊢
  split
  · rename_i hend
    exact accept_spec (hm.with_stack hs₂.sound) hs₂ hv₂ fun ts n hpath _ =>
      hpath.whole_error hlook (by simpa using hend)
  · rename_i hend
    split
    · exact Sound.settled (hm.with_stack hs₂.halt) (size_halt.symm ▸ hv₂.lt)
    · obtain ⟨beaten, g₃, heq₃, hun₃⟩ := isBeaten_spec (m := { m with stack := g₂ }) (v := v)
      rw [heq₃]
      dsimp only
      have hs₃ := hs₂.unmoved hun₃
      have hv₃ := (hun₃.stands hv₂).1
      split
      · exact Sound.settled (hm.with_stack hs₃.halt) (size_halt.symm ▸ hv₃.lt)
      · have hskip := skip_spec (decide (progress > 0)) hs₃.sound hv₃ hlook (by simpa using hend)
        have hrev := review_unmoved (skip g₃ v look (decide (progress > 0)))
          (skip g₃ v look (decide (progress > 0))).size 0
        refine Sound.settled (hm.with_stack (hrev.sound (hskip.all hs₃))) ?_
        rw [hrev.size, hskip.size]
        exact hv₃.lt

theorem recordWaypoints_unmoved {g : Stack} : Unmoved g (g.recordWaypoints v) :=
  .modify fun _ => ⟨rfl, rfl⟩

/-- Dealing with a token that does not fit, in a reading that has paid before. -/
theorem handleError_spec {closed : Nat → Prop} (hm : m.Sound source (.paid closed))
    (hv : m.stack.Stands (.paid closed) v p) (hlook : look.IsNext source p.chars) :
    Settled source v (m.handleError v look) := by
  have hlt := hv.lt
  obtain ⟨b, g₁, heq₁, hc₁⟩ := reduceAll_spec (t := Symbol.endOfText) reductionFuel 0 false
    (Stands.crowd hm.stack.loose hv) (Nat.le_refl _) (Or.inl rfl) (Or.inl rfl)
  have hall : m.allReductions v Symbol.endOfText = (b, { m with stack := g₁ }) := heq₁
  rw [handleError, hall]
  dsimp only
  obtain ⟨g₂, heq₂, hc₂⟩ := loseWay_spec (m := { m with stack := g₁ }) look (g₁.size + 1)
    false hc₁ (Nat.le_refl _) (Or.inl rfl)
  rw [heq₂]
  dsimp only
  have hmerges : ∀ (is : List Nat) (g : Stack),
      g.Crowd source (.paid closed) v m.stack.size p m.stack →
      (is.foldl (fun g _ => (g.merge? v m.stack.size).getD g) g).Crowd source (.paid closed) v
        m.stack.size p m.stack := by
    intro is
    induction is with
    | nil => exact fun _ hc => hc
    | cons i is ih =>
      intro g hc
      refine ih _ ?_
      dsimp only
      cases hmerge : g.merge? v m.stack.size with
      | none => exact hc
      | some g' =>
        obtain ⟨hs, he, hread⟩ := hc.sound.merge hmerge
        exact hc.erase hs he.tight hread (Nat.le_refl _)
  have hc₃ := (hmerges (List.range (g₁.size - m.stack.size)) g₂ hc₂).unmoved
    (recordWaypoints_unmoved (v := v))
  have hs₃ := hc₃.tight hm.stack
  have hv₃ := hc₃.stands (Or.inl rfl) (Nat.lt_of_lt_of_le hlt hc₃.bound)
  exact recover_spec (hm.with_stack hs₃.loose) hs₃.but hv₃.loose (fun _ _ => Or.inl hv₃.asks) hlook

end Recovery

end MathProg
