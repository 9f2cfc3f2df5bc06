import MathProg.Parse.Stack
import MathProg.Proofs.Parsing.Root

/-!
# The stack of many readings

Every link of the stack leads from a spot to a spot, so that every way down is a path to the start.
Readings that ended have vertices of their own on top, which are set aside: no other reading gets
there. The operations below keep the stack sound and leave the spots of its vertices alone.
-/

namespace MathProg

open Automaton (State lost)
open Spot (Leads Path Climb)

/-- Two places with as many bytes before them are one. -/
theorem IsPlace.eq_of_bytes {source : List Char} {a b : Extent} (ha : IsPlace source a)
    (hb : IsPlace source b) (h : a.bytes = b.bytes) : a = b := by
  -- the text between the two places has no bytes, so it is empty
  have key : ∀ {a b : Extent}, IsPlace source a → IsPlace source b → a.bytes = b.bytes →
      a.chars ≤ b.chars → a = b := by
    intro a b ha hb h hle
    have hsplit : Extent.ofChars (source.take b.chars) = a +
        Extent.ofChars ((source.drop a.chars).take (b.chars - a.chars)) := by
      conv_lhs => rw [← Nat.add_sub_of_le hle]
      rw [List.take_add, Extent.ofChars_append, ← ha.extent]
    rw [← hb.extent] at hsplit
    have hbytes := congrArg Extent.bytes hsplit
    have hchars := congrArg Extent.chars hsplit
    rw [Extent.bytes_add] at hbytes
    rw [Tree.chars_add, (Extent.bytes_eq_zero_iff _).mp (by omega), Nat.add_zero] at hchars
    rw [ha.extent, hb.extent, hchars]
  rcases Nat.le_total a.chars b.chars with hle | hle
  · exact key ha hb h hle
  · exact (key hb ha h.symm hle).symm

/-- What is agreed on for the readings of a stack: which vertices are set aside, and what a reading has
to have paid. A price that was enough stays enough wherever the way is not lost. -/
structure Terms where
  closed : Nat → Prop
  asks : State → Nat → Prop
  keeps : ∀ {s s' : State} {c : Nat}, asks s c → s' ≠ lost → asks s' c

namespace Terms

/-- Nothing is asked of the readings. -/
def loose (T : Terms) : Terms := ⟨T.closed, fun _ _ => True, fun _ _ => trivial⟩

/-- Every reading has paid something. -/
def paid (closed : Nat → Prop) : Terms := ⟨closed, fun _ c => 0 < c, fun h _ => h⟩

/-- No reading has lost its way or paid anything. -/
def free (closed : Nat → Prop) : Terms :=
  ⟨closed, fun s c => s ≠ lost ∧ c = 0, fun h hs => ⟨hs, h.2⟩⟩

end Terms

namespace Stack

variable {source : List Char} {T : Terms} {g g' : Stack} {v : Nat} {p q : Extent}

def spot (g : Stack) (i : Nat) : Spot := ⟨(g.vertex i).state, (g.vertex i).position⟩

/-- Where the readings stand, and whether they go on. -/
def readings (g : Stack) : List (Nat × Status) := g.versions.map fun r => (r.top, r.status)

/-- A vertex that is not set aside. -/
def Inner (T : Terms) (g : Stack) (i : Nat) : Prop := i < g.vertices.size ∧ ¬ T.closed i

/-- A link that may lead down from vertex `i`: the tree leads from spot to spot, the price adds up, and
as long as nothing was paid, the way is lost only where there is no tree. -/
structure Fits (source : List Char) (T : Terms) (g : Stack) (i : Nat) (l : Link) : Prop where
  below : g.Inner T l.below
  leads : Leads source (g.spot l.below) l.tree (g.spot i)
  price : (g.vertex i).cost = (g.vertex l.below).cost + l.tree.elim 0 Tree.cost
  free : (g.spot i).state = lost → (g.vertex i).cost = 0 →
    l.tree = none ∧ (g.spot l.below).state ≠ lost

/-- A stack whose links lead from spot to spot. -/
structure Woven (source : List Char) (T : Terms) (g : Stack) : Prop where
  root : g.Inner T 0
  bound : ∀ i, T.closed i → i < g.vertices.size
  place : ∀ i, g.Inner T i → IsPlace source (g.spot i).position
  base : g.spot 0 = .origin ∧ (g.vertex 0).cost = 0
  bottom : ∀ i, g.Inner T i → (g.vertex i).links = [] → i = 0
  links : ∀ i, g.Inner T i → ∀ l ∈ (g.vertex i).links, g.Fits source T i l

/-- A reading that is not given up stands on the stack and has paid what is asked, and if it waits, it
waits with its next token. -/
structure Alive (source : List Char) (T : Terms) (g : Stack) (f : Nat × Status) : Prop where
  inner : g.Inner T f.1
  asks : T.asks (g.spot f.1).state (g.vertex f.1).cost
  next : ∀ look, f.2 = .paused look → look.IsNext source (g.spot f.1).position.chars

/-- A reading that is given up may stand anywhere. -/
def Held (source : List Char) (T : Terms) (g : Stack) (f : Nat × Status) : Prop :=
  f.2.isHalted = false → g.Alive source T f

/-- A stack whose links lead from spot to spot and whose readings stand on it. -/
structure Sound (source : List Char) (T : Terms) (g : Stack) : Prop where
  woven : g.Woven source T
  held : ∀ f ∈ g.readings, g.Held source T f

/-- A stack that grew out of another one. -/
structure Extends (T : Terms) (g g' : Stack) : Prop where
  inner : ∀ i, g.Inner T i → g'.Inner T i
  spot : ∀ i, g.Inner T i → g'.spot i = g.spot i
  cost : ∀ i, g.Inner T i → (g'.vertex i).cost = (g.vertex i).cost

/-- A reading that goes on, has paid what is asked, and has come to `p`. -/
structure Arrived (T : Terms) (g : Stack) (p : Extent) (f : Nat × Status) : Prop where
  active : f.2 = .active
  inner : g.Inner T f.1
  asks : T.asks (g.spot f.1).state (g.vertex f.1).cost
  position : (g.spot f.1).position = p

/-- Reading `v` goes on and has come to `p`. -/
def Stands (T : Terms) (g : Stack) (v : Nat) (p : Extent) : Prop :=
  ∃ f, g.readings[v]? = some f ∧ g.Arrived T p f

theorem Extends.rfl : Extends T g g := ⟨fun _ h => h, fun _ _ => Eq.refl _, fun _ _ => Eq.refl _⟩

theorem Extends.trans {g₁ g₂ g₃ : Stack} (h : Extends T g₁ g₂) (h' : Extends T g₂ g₃) :
    Extends T g₁ g₃ :=
  ⟨fun i hi => h'.inner i (h.inner i hi), fun i hi => (h'.spot i (h.inner i hi)).trans (h.spot i hi),
    fun i hi => (h'.cost i (h.inner i hi)).trans (h.cost i hi)⟩

theorem Extends.of_vertices (h : g'.vertices = g.vertices) : Extends T g g' := by
  obtain ⟨vs, rs⟩ := g
  obtain ⟨vs', rs'⟩ := g'
  cases h
  exact ⟨fun _ hi => hi, fun _ _ => Eq.refl _, fun _ _ => Eq.refl _⟩

theorem Woven.of_vertices (hw : g.Woven source T) (h : g'.vertices = g.vertices) :
    g'.Woven source T := by
  obtain ⟨vs, rs⟩ := g
  obtain ⟨vs', rs'⟩ := g'
  cases h
  exact ⟨hw.root, hw.bound, hw.place, hw.base, hw.bottom, fun i hi l hl => by
    obtain ⟨hbelow, hleads, hprice, hfree⟩ := hw.links i hi l hl
    exact ⟨hbelow, hleads, hprice, hfree⟩⟩

theorem Held.extend {f : Nat × Status} (hf : g.Held source T f) (h : Extends T g g') :
    g'.Held source T f := by
  intro hn
  obtain ⟨hi, hasks, hlook⟩ := hf hn
  refine ⟨h.inner _ hi, ?_, ?_⟩
  · rw [h.spot _ hi, h.cost _ hi]
    exact hasks
  · rw [h.spot _ hi]
    exact hlook

theorem Arrived.extend {f : Nat × Status} (hf : g.Arrived T p f) (h : Extends T g g') :
    g'.Arrived T p f :=
  ⟨hf.active, h.inner _ hf.inner, by rw [h.spot _ hf.inner, h.cost _ hf.inner]; exact hf.asks,
    by rw [h.spot _ hf.inner, hf.position]⟩

theorem Arrived.held {f : Nat × Status} (hf : g.Arrived T p f) : g.Held source T f := by
  intro _
  refine ⟨hf.inner, hf.asks, fun look hl => ?_⟩
  rw [hf.active] at hl
  cases hl

/-- A stack with the same vertices is sound if its readings are some that are held. -/
theorem Sound.of_vertices (hs : g.Sound source T) (h : g'.vertices = g.vertices)
    (hr : ∀ f ∈ g'.readings, f ∈ g.readings ∨ g.Held source T f) : g'.Sound source T := by
  refine ⟨hs.woven.of_vertices h, fun f hf => ?_⟩
  rcases hr f hf with hmem | hheld
  · exact (hs.held f hmem).extend (.of_vertices h)
  · exact hheld.extend (.of_vertices h)

/-- The links have to do with the vertices that are set aside, and not with what is asked. -/
theorem Woven.terms {T' : Terms} (hw : g.Woven source T) (h : T'.closed = T.closed) :
    g.Woven source T' := by
  obtain ⟨closed, asks, keeps⟩ := T
  obtain ⟨closed', asks', keeps'⟩ := T'
  cases h
  refine ⟨hw.root, hw.bound, hw.place, hw.base, hw.bottom, fun i hi l hl => ?_⟩
  obtain ⟨hbelow, hleads, hprice, hfree⟩ := hw.links i hi l hl
  exact ⟨hbelow, hleads, hprice, hfree⟩

theorem Sound.loose (hs : g.Sound source T) : g.Sound source T.loose := by
  refine ⟨hs.woven.terms rfl, fun f hf hn => ?_⟩
  obtain ⟨hinner, -, hnext⟩ := hs.held f hf hn
  exact ⟨hinner, trivial, hnext⟩

theorem Extends.tight (h : Extends T.loose g g') : Extends T g g' := ⟨h.inner, h.spot, h.cost⟩

theorem Extends.loose (h : Extends T g g') : Extends T.loose g g' := ⟨h.inner, h.spot, h.cost⟩

theorem Arrived.loose {f : Nat × Status} (h : g.Arrived T p f) : g.Arrived T.loose p f :=
  ⟨h.active, h.inner, trivial, h.position⟩

theorem Stands.loose (h : g.Stands T v p) : g.Stands T.loose v p := by
  obtain ⟨f, hf, harr⟩ := h
  exact ⟨f, hf, harr.loose⟩

theorem readings_length (g : Stack) : g.readings.length = g.size := List.length_map _

theorem version_of_reading {f : Nat × Status} (h : g.readings[v]? = some f) :
    (g.version v).top = f.1 ∧ (g.version v).status = f.2 := by
  obtain ⟨r, hr, rfl⟩ := List.getElem?_map .. ▸ h |> Option.map_eq_some_iff.mp
  rw [version, hr]
  exact ⟨rfl, rfl⟩

theorem reading_of_lt (h : v < g.size) :
    g.readings[v]? = some ((g.version v).top, (g.version v).status) := by
  rw [readings, List.getElem?_map, version, List.getElem?_eq_getElem h]
  rfl

/-- A reading that is not given up stands on an inner vertex. -/
theorem Sound.inner_top (hs : g.Sound source T) (hv : g.isHalted v = false) :
    g.Inner T (g.version v).top := by
  by_cases hlt : v < g.size
  · exact (hs.held _ (List.mem_of_getElem? (reading_of_lt hlt)) hv).inner
  · have hnone : g.versions[v]? = none := List.getElem?_eq_none (Nat.le_of_not_lt hlt)
    have htop : (g.version v).top = 0 := by
      rw [version, hnone]
      rfl
    rw [htop]
    exact hs.woven.root

theorem Stands.spot_eq (hv : g.Stands T v p) :
    ∃ x, g.readings[v]? = some (x, .active) ∧ (g.version v).top = x ∧ g.Inner T x ∧
      g.spot x = ⟨g.state v, p⟩ := by
  obtain ⟨⟨x, st⟩, hf, hact, hinner, -, hpos⟩ := hv
  obtain ⟨htop, -⟩ := version_of_reading hf
  cases hact
  refine ⟨x, hf, htop, hinner, ?_⟩
  rw [state, top, htop, ← hpos]
  rfl

/-- A reading that stands has paid what is asked. -/
theorem Stands.asks (hv : g.Stands T v p) : T.asks (g.state v) (g.top v).cost := by
  obtain ⟨f, hf, harr⟩ := hv
  obtain ⟨htop, -⟩ := version_of_reading hf
  rw [state, top, htop]
  exact harr.asks

theorem Stands.lt (hv : g.Stands T v p) : v < g.size := by
  obtain ⟨f, hf, -⟩ := hv
  rw [← readings_length]
  exact (List.getElem?_eq_some_iff.mp hf).1

/-- An active reading stands where it is. -/
theorem Sound.stands (hs : g.Sound source T) (hv : v < g.size) (ha : g.isActive v = true) :
    g.Stands T v (g.position v) := by
  have hact : (g.version v).status = .active := by
    change (g.version v).status.isActive = true at ha
    cases hst : (g.version v).status with
    | active => rfl
    | paused look => rw [hst] at ha; cases ha
    | halted => rw [hst] at ha; cases ha
  have hlive : (g.version v).status.isHalted = false := by
    rw [hact]
    rfl
  have hheld := hs.held _ (List.mem_of_getElem? (reading_of_lt hv)) hlive
  exact ⟨_, reading_of_lt hv, hact, hheld.inner, hheld.asks, rfl⟩

theorem readings_modify_same {k : Version → Version}
    (hk : ∀ r, (k r).top = r.top ∧ (k r).status = r.status) : (g.modify v k).readings = g.readings := by
  apply List.ext_getElem?
  intro i
  simp only [readings, modify, List.getElem?_map, List.getElem?_modify]
  cases g.versions[i]? with
  | none => rfl
  | some r =>
    by_cases h : v = i
    · simp [h, hk r]
    · simp [h]

theorem readings_modify {k : Version → Version} {f f' : Nat × Status} (h : g.readings[v]? = some f)
    (hk : ∀ r : Version, (r.top, r.status) = f → ((k r).top, (k r).status) = f') :
    (g.modify v k).readings = g.readings.set v f' := by
  have hlt : v < g.readings.length := (List.getElem?_eq_some_iff.mp h).1
  apply List.ext_getElem?
  intro i
  rw [List.getElem?_set]
  by_cases hi : v = i
  · subst hi
    rw [if_pos rfl, if_pos hlt]
    rw [readings, List.getElem?_map] at h
    obtain ⟨r, hr, hf⟩ := Option.map_eq_some_iff.mp h
    simp only [readings, modify, List.getElem?_map, List.getElem?_modify, hr, if_true]
    exact congrArg some (hk r hf)
  · rw [if_neg hi]
    simp only [readings, modify, List.getElem?_map, List.getElem?_modify, if_neg hi]
    cases g.versions[i]? <;> rfl

theorem readings_remove : (g.remove v).readings = g.readings.eraseIdx v := by
  simp only [readings, remove, List.eraseIdx_eq_take_drop_succ, List.map_append, List.map_take,
    List.map_drop]

theorem vertex_push_lt {t : Option Tree} {s : State} {i : Nat} (hi : i < g.vertices.size) :
    (g.push v t s).vertex i = g.vertex i := by
  change ((g.vertices.push _)[i]?).getD default = (g.vertices[i]?).getD default
  rw [Array.getElem?_push_lt hi, Array.getElem?_eq_getElem hi]

theorem vertex_push_size {t : Option Tree} {s : State} :
    (g.push v t s).vertex g.vertices.size =
      ⟨s, g.position v + t.elim 0 Tree.total, [⟨(g.version v).top, t⟩],
        (g.top v).cost + t.elim 0 Tree.cost, (g.top v).weight + t.elim 0 Tree.weight⟩ := by
  change ((g.vertices.push _)[g.vertices.size]?).getD default = _
  rw [Array.getElem?_push_size]
  rfl

theorem size_push {t : Option Tree} {s : State} :
    (g.push v t s).vertices.size = g.vertices.size + 1 := Array.size_push _

theorem extends_push {t : Option Tree} {s : State} : Extends T g (g.push v t s) := by
  constructor
  · intro i hi
    refine ⟨?_, hi.2⟩
    rw [size_push]
    exact Nat.lt_succ_of_lt hi.1
  · intro i hi
    rw [spot, vertex_push_lt hi.1]
    rfl
  · intro i hi
    rw [vertex_push_lt hi.1]

/-- What a push changes: reading `v` stands on a vertex of its own, at the spot `b` and with the price
`c`. -/
structure Pushed (source : List Char) (T : Terms) (g : Stack) (v : Nat) (b : Spot) (c : Nat)
    (g' : Stack) : Prop where
  sound : g'.Sound source T
  ext : Extends T g g'
  top : ∃ x, g'.readings = g.readings.set v (x, .active) ∧ g'.Inner T x ∧ g'.spot x = b ∧
    (g'.vertex x).cost = c

theorem Pushed.size {b : Spot} {c : Nat} (h : g.Pushed source T v b c g') : g'.size = g.size := by
  obtain ⟨x, hx, -⟩ := h.top
  rw [← readings_length, ← readings_length, hx, List.length_set]

theorem Pushed.loose {b : Spot} {c : Nat} (h : g.Pushed source T v b c g') :
    g.Pushed source T.loose v b c g' := by
  obtain ⟨x, hx, hinner, hat⟩ := h.top
  exact ⟨h.sound.loose, h.ext.loose, x, hx, hinner, hat⟩

/-- After a push reading `v` has arrived, if it has paid what is asked. -/
theorem Pushed.arrived {b : Spot} {c : Nat} (h : g.Pushed source T.loose v b c g')
    (ha : T.asks b.state c) : ∃ x, g'.readings = g.readings.set v (x, .active) ∧
      g'.Arrived T b.position (x, .active) := by
  obtain ⟨x, hx, hinner, hspot, hcost⟩ := h.top
  exact ⟨x, hx, rfl, hinner, by rw [hspot, hcost]; exact ha, by rw [hspot]⟩

theorem Pushed.lookup {b : Spot} {c : Nat} (h : g.Pushed source T v b c g') (hv : v < g.size) :
    ∃ x, g'.readings[v]? = some (x, .active) ∧ g'.Inner T x ∧ g'.spot x = b ∧
      (g'.vertex x).cost = c := by
  obtain ⟨x, hx, h⟩ := h.top
  refine ⟨x, ?_, h⟩
  rw [hx, List.getElem?_set, if_pos rfl, if_pos (by rwa [readings_length])]

theorem Pushed.stands {b : Spot} {c : Nat} (h : g.Pushed source T v b c g') (hv : v < g.size) :
    g'.Stands T v b.position := by
  obtain ⟨x, hx, hinner, hspot, hcost⟩ := h.lookup hv
  have hheld := h.sound.held _ (List.mem_of_getElem? hx) rfl
  exact ⟨_, hx, rfl, hinner, hheld.asks, by rw [hspot]⟩

theorem Pushed.state {b : Spot} {c : Nat} (h : g.Pushed source T v b c g') (hv : v < g.size) :
    g'.state v = b.state ∧ (g'.top v).cost = c := by
  obtain ⟨x, hx, -, hspot, hcost⟩ := h.lookup hv
  obtain ⟨htop, -⟩ := version_of_reading hx
  rw [Stack.state, Stack.top, htop]
  exact ⟨congrArg Spot.state hspot, hcost⟩

theorem readings_push {t : Option Tree} {s : State} {x : Nat} {st : Status}
    (h : g.readings[v]? = some (x, st)) :
    (g.push v t s).readings = g.readings.set v (g.vertices.size, st) := by
  refine readings_modify (g := { g with vertices := g.vertices.push _ }) h ?_
  intro r hr
  obtain ⟨-, hst⟩ := Prod.mk.inj hr
  simp only [Array.size_push, Nat.add_sub_cancel, hst]

/-- Pushing a tree that leads on. -/
theorem Sound.push {t : Option Tree} {s : State} (hs : g.Sound source T)
    (hv : g.Stands T v p) (hl : Leads source ⟨g.state v, p⟩ t ⟨s, q⟩)
    (ha : T.asks s ((g.top v).cost + t.elim 0 Tree.cost))
    (hfree : s = lost → (g.top v).cost + t.elim 0 Tree.cost = 0 → t = none ∧ g.state v ≠ lost) :
    g.Pushed source T v ⟨s, q⟩ ((g.top v).cost + t.elim 0 Tree.cost) (g.push v t s) := by
  obtain ⟨x, hf, htop, hinner, hspot⟩ := hv.spot_eq
  have hread := readings_push (t := t) (s := s) hf
  have hext : Extends T g (g.push v t s) := extends_push
  have hnew : (g.push v t s).Inner T g.vertices.size :=
    ⟨by rw [size_push]; exact Nat.lt_succ_self _, fun hc => Nat.lt_irrefl _ (hs.woven.bound _ hc)⟩
  have hreach : q = p + t.elim 0 Tree.total := hl.reach
  have hpos : g.position v = p := by
    rw [position, top, htop]
    exact congrArg Spot.position hspot
  have hspotNew : (g.push v t s).spot g.vertices.size = ⟨s, q⟩ := by
    rw [spot, vertex_push_size, hpos, hreach]
  have hcostNew : ((g.push v t s).vertex g.vertices.size).cost =
      (g.top v).cost + t.elim 0 Tree.cost := by
    rw [vertex_push_size]
  have hplace : IsPlace source q := by
    have hp := hs.woven.place x hinner
    rw [hspot] at hp
    rw [hreach]
    cases t with
    | none =>
      rw [Option.elim_none, Extent.add_zero]
      exact hp
    | some u => exact Tree.isPlace_add u hp (hl.tiled u rfl)
  have hold : ∀ i, (g.push v t s).Inner T i → i ≠ g.vertices.size → g.Inner T i := by
    intro i hi hne
    have hlt := hi.1
    rw [size_push] at hlt
    exact ⟨by omega, hi.2⟩
  have hwoven : (g.push v t s).Woven source T := by
    refine ⟨hext.inner _ hs.woven.root, fun i hc => ?_, fun i hi => ?_, ?_, fun i hi hnil => ?_,
      fun i hi l hl' => ?_⟩
    · rw [size_push]
      exact Nat.lt_succ_of_lt (hs.woven.bound i hc)
    · by_cases he : i = g.vertices.size
      · rw [he, hspotNew]
        exact hplace
      · rw [hext.spot i (hold i hi he)]
        exact hs.woven.place i (hold i hi he)
    · rw [hext.spot 0 hs.woven.root, hext.cost 0 hs.woven.root]
      exact hs.woven.base
    · by_cases he : i = g.vertices.size
      · rw [he, vertex_push_size] at hnil
        cases hnil
      · rw [vertex_push_lt (hold i hi he).1] at hnil
        exact hs.woven.bottom i (hold i hi he) hnil
    · by_cases he : i = g.vertices.size
      · rw [he, vertex_push_size, List.mem_singleton] at hl'
        rw [hl', he]
        refine ⟨?_, ?_, ?_, ?_⟩
        · rw [htop]
          exact hext.inner x hinner
        · rw [hspotNew, htop, hext.spot x hinner, hspot]
          exact hl
        · rw [hcostNew, htop, hext.cost x hinner, top, htop]
        · rw [hspotNew, hcostNew, htop, hext.spot x hinner, hspot]
          exact hfree
      · rw [vertex_push_lt (hold i hi he).1] at hl'
        obtain ⟨hb, hlead, hprice, hfree'⟩ := hs.woven.links i (hold i hi he) l hl'
        refine ⟨hext.inner _ hb, ?_, ?_, ?_⟩
        · rw [hext.spot i (hold i hi he), hext.spot _ hb]
          exact hlead
        · rw [hext.cost i (hold i hi he), hext.cost _ hb]
          exact hprice
        · rw [hext.spot i (hold i hi he), hext.cost i (hold i hi he), hext.spot _ hb]
          exact hfree'
  refine ⟨⟨hwoven, fun f hfm => ?_⟩, hext, _, hread, hnew, hspotNew, hcostNew⟩
  rw [hread] at hfm
  rcases List.mem_or_eq_of_mem_set hfm with hmem | rfl
  · exact (hs.held f hmem).extend hext
  · exact fun _ => ⟨hnew, by rw [hspotNew, hcostNew]; exact ha, fun _ hl => by cases hl⟩

/-- Pushing trees one behind the other, where the way is not lost. -/
theorem Sound.pushAll {s : State} {ts : List Tree} (hs : g.Sound source T.loose)
    (hv : g.Stands T.loose v p) (hc : Climb source s ⟨g.state v, p⟩ ts) (hl : s ≠ lost)
    (hnil : ts = [] → g.state v = s) :
    g.Pushed source T.loose v ⟨s, p + Tree.totalAll ts⟩ ((g.top v).cost + Tree.costs ts)
      (g.pushAll v ts s) := by
  induction ts generalizing g p with
  | nil =>
    obtain ⟨x, hf, htop, hinner, hspot⟩ := hv.spot_eq
    rw [Tree.totalAll, Extent.add_zero, Tree.costs_nil, Nat.add_zero]
    refine ⟨hs, .rfl, x, ?_, hinner, ?_, ?_⟩
    · obtain ⟨hlt, he⟩ := List.getElem?_eq_some_iff.mp hf
      rw [Stack.pushAll, List.foldl_nil, ← he, List.set_getElem_self]
    · rw [← hnil rfl]
      exact hspot
    · rw [top, htop]
      rfl
  | cons t ts ih =>
    have hpush := hs.push hv hc.1 trivial fun he => absurd he hl
    obtain ⟨hstate, hcost⟩ := hpush.state hv.lt
    have hrest : Climb source s ⟨(g.push v (some t) s).state v, p + t.total⟩ ts := by
      rw [hstate]
      exact hc.2
    have hall := ih hpush.sound (hpush.stands hv.lt) hrest fun _ => hstate
    rw [hcost, Nat.add_assoc] at hall
    rw [Tree.totalAll_cons, ← Extent.add_assoc]
    obtain ⟨x, hx, -⟩ := hpush.top
    obtain ⟨y, hy, hat⟩ := hall.top
    rw [hx, List.set_set] at hy
    exact ⟨hall.sound, hpush.ext.trans hall.ext, y, hy, hat⟩

/-- A stack of the same vertices and readings, perhaps with more links. -/
structure Relinked (g g' : Stack) : Prop where
  size : g'.vertices.size = g.vertices.size
  spot : ∀ i, g'.spot i = g.spot i
  cost : ∀ i, (g'.vertex i).cost = (g.vertex i).cost
  readings : g'.readings = g.readings

theorem Relinked.rfl : Relinked g g :=
  ⟨Eq.refl _, fun _ => Eq.refl _, fun _ => Eq.refl _, Eq.refl _⟩

theorem Relinked.trans {g₁ g₂ g₃ : Stack} (h : Relinked g₁ g₂) (h' : Relinked g₂ g₃) :
    Relinked g₁ g₃ :=
  ⟨h'.size.trans h.size, fun i => (h'.spot i).trans (h.spot i),
    fun i => (h'.cost i).trans (h.cost i), h'.readings.trans h.readings⟩

theorem Relinked.inner {i : Nat} (h : Relinked g g') (hi : g.Inner T i) : g'.Inner T i :=
  ⟨h.size ▸ hi.1, hi.2⟩

theorem Relinked.extends (h : Relinked g g') : Extends T g g' :=
  ⟨fun _ hi => h.inner hi, fun i _ => h.spot i, fun i _ => h.cost i⟩

theorem Relinked.fits {i : Nat} {l : Link} (h : Relinked g g') (hl : g.Fits source T i l) :
    g'.Fits source T i l := by
  refine ⟨h.inner hl.below, ?_, ?_, ?_⟩
  · rw [h.spot, h.spot]
    exact hl.leads
  · rw [h.cost, h.cost]
    exact hl.price
  · rw [h.spot, h.spot, h.cost]
    exact hl.free

/-- What fits one vertex fits another one at the same spot with the same price. -/
theorem Fits.move {i j : Nat} {l : Link} (hl : g.Fits source T i l) (hspot : g.spot j = g.spot i)
    (hcost : (g.vertex j).cost = (g.vertex i).cost) : g.Fits source T j l := by
  obtain ⟨hbelow, hleads, hprice, hfree⟩ := hl
  rw [← hspot] at hleads hfree
  rw [← hcost] at hprice hfree
  exact ⟨hbelow, hleads, hprice, hfree⟩

theorem vertex_modify {i j : Nat} {k : Vertex → Vertex} (hi : i < g.vertices.size) :
    ({ g with vertices := g.vertices.modify i k } : Stack).vertex j =
      if i = j then k (g.vertex j) else g.vertex j := by
  change ((g.vertices.modify i k)[j]?).getD default = _
  rw [Array.getElem?_modify]
  by_cases h : i = j
  · subst h
    rw [if_pos rfl, if_pos rfl, vertex, Array.getElem?_eq_getElem hi]
    rfl
  · rw [if_neg h, if_neg h]
    rfl

/-- A link more at vertex `i`, which then weighs at least `w`. -/
def linked (g : Stack) (i : Nat) (l : Link) (w : Nat) : Stack :=
  { g with vertices :=
      g.vertices.modify i fun u => { u with links := u.links ++ [l], weight := max u.weight w } }

/-- A link that fits keeps the stack woven. -/
theorem Woven.linked {i : Nat} {l : Link} {w : Nat} (hw : g.Woven source T)
    (hi : g.Inner T i) (hl : g.Fits source T i l) :
    (g.linked i l w).Woven source T ∧ Relinked g (g.linked i l w) := by
  have hvertex : ∀ j, (g.linked i l w).vertex j = if i = j then
      { g.vertex j with links := (g.vertex j).links ++ [l], weight := max (g.vertex j).weight w }
      else g.vertex j := fun j => vertex_modify hi.1
  have hspot : ∀ j, (g.linked i l w).spot j = g.spot j := by
    intro j
    rw [spot, spot, hvertex]
    by_cases h : i = j
    · rw [if_pos h]
    · rw [if_neg h]
  have hcost : ∀ j, ((g.linked i l w).vertex j).cost = (g.vertex j).cost := by
    intro j
    rw [hvertex]
    by_cases h : i = j
    · rw [if_pos h]
    · rw [if_neg h]
  have hre : Relinked g (g.linked i l w) := ⟨Array.size_modify, hspot, hcost, rfl⟩
  refine ⟨⟨hre.inner hw.root, fun j hc => ?_, fun j hj => ?_, ?_, fun j hj hnil => ?_,
    fun j hj m hm => ?_⟩, hre⟩
  · rw [hre.size]
    exact hw.bound j hc
  · rw [hspot]
    exact hw.place j ⟨hre.size ▸ hj.1, hj.2⟩
  · rw [hspot, hcost]
    exact hw.base
  · rw [hvertex] at hnil
    by_cases h : i = j
    · rw [if_pos h] at hnil
      exact absurd hnil (List.append_ne_nil_of_right_ne_nil _ (List.cons_ne_nil _ _))
    · rw [if_neg h] at hnil
      exact hw.bottom j ⟨hre.size ▸ hj.1, hj.2⟩ hnil
  · have hj' : g.Inner T j := ⟨hre.size ▸ hj.1, hj.2⟩
    rw [hvertex] at hm
    by_cases h : i = j
    · rw [if_pos h] at hm
      rcases List.mem_append.mp hm with hm | hm
      · exact hre.fits (hw.links j hj' m hm)
      · rw [List.mem_singleton.mp hm, ← h]
        exact hre.fits hl
    · rw [if_neg h] at hm
      exact hre.fits (hw.links j hj' m hm)

/-- Vertices that are alike are the same spot and cost the same. -/
theorem Woven.eq_of_alike {i j : Nat} (hw : g.Woven source T) (hi : g.Inner T i)
    (hj : g.Inner T j) (h : alike (g.vertex i) (g.vertex j) = true) :
    g.spot i = g.spot j ∧ (g.vertex i).cost = (g.vertex j).cost := by
  simp only [alike, Bool.and_eq_true, beq_iff_eq] at h
  have hp := (hw.place i hi).eq_of_bytes (hw.place j hj) h.1.2
  refine ⟨?_, h.2⟩
  rw [spot, spot, h.1.1]
  exact congrArg (Spot.mk _) hp

/-- If a step keeps the stack woven for each link that fits, so do many of them. -/
theorem Woven.foldl_links {i : Nat} {k : Stack → Link → Stack} {ls : List Link}
    (hk : ∀ (g : Stack) (l : Link), g.Woven source T → g.Inner T i →
      g.Fits source T i l → (k g l).Woven source T ∧ Relinked g (k g l))
    (hw : g.Woven source T) (hi : g.Inner T i)
    (hl : ∀ l ∈ ls, g.Fits source T i l) :
    (ls.foldl k g).Woven source T ∧ Relinked g (ls.foldl k g) := by
  induction ls generalizing g with
  | nil => exact ⟨hw, .rfl⟩
  | cons l ls ih =>
    obtain ⟨hw', hre⟩ := hk g l hw hi (hl l List.mem_cons_self)
    obtain ⟨hw'', hre'⟩ := ih hw' (hre.inner hi) fun m hm => hre.fits (hl m (List.mem_cons_of_mem _ hm))
    exact ⟨hw'', hre.trans hre'⟩

theorem Woven.addLink {fuel i : Nat} {l : Link} (hw : g.Woven source T)
    (hi : g.Inner T i) (hl : g.Fits source T i l) :
    (g.addLink fuel i l).Woven source T ∧ Relinked g (g.addLink fuel i l) := by
  induction fuel generalizing g i l with
  | zero => exact ⟨hw, .rfl⟩
  | succ fuel ih =>
    rw [Stack.addLink]
    split
    · exact ⟨hw, .rfl⟩
    · dsimp only
      split
      · rename_i e he
        split
        · exact ⟨hw, .rfl⟩
        · rename_i hne
          have hfound := List.find?_some he
          simp only [hne, Bool.false_or, Bool.and_eq_true] at hfound
          have hbelow := (hw.links i hi e (List.mem_of_find?_eq_some he)).below
          obtain ⟨hspot, hcost⟩ := hw.eq_of_alike hbelow hl.below hfound.2
          -- the links that are joined lead to the same spot as before
          refine hw.foldl_links (fun g l hw hi hl => ih hw hi hl) hbelow fun m hm => ?_
          exact (hw.links _ hl.below m hm).move hspot hcost
      · split
        · exact ⟨hw, .rfl⟩
        · exact hw.linked hi hl

theorem not_halted_of_active (h : g.isActive v = true) : g.isHalted v = false := by
  change (g.version v).status.isHalted = false
  change (g.version v).status.isActive = true at h
  cases hst : (g.version v).status with
  | active => rfl
  | paused look => rfl
  | halted => rw [hst] at h; cases h

/-- Joining two readings that have met drops the later one, and nothing else. -/
theorem Sound.merge {w : Nat} (hs : g.Sound source T) (h : g.merge? v w = some g') :
    g'.Sound source T ∧ Extends T g g' ∧ g'.readings = g.readings.eraseIdx w := by
  unfold merge? at h
  split at h
  · rename_i hcan
    simp only [canMerge, Bool.and_eq_true] at hcan
    have hiv := hs.inner_top (not_halted_of_active hcan.1.1)
    have hiw := hs.inner_top (not_halted_of_active hcan.1.2)
    obtain ⟨hspot, hcost⟩ := hs.woven.eq_of_alike hiv hiw hcan.2
    have hall : ∀ m ∈ (g.top w).links, g.Fits source T (g.version v).top m := fun m hm =>
      (hs.woven.links _ hiw m hm).move hspot hcost
    obtain ⟨hw', hre⟩ := hs.woven.foldl_links
      (k := fun g' l => g'.addLink (g'.vertices.size + 1) (g.version v).top l)
      (fun _ _ hw hi hl => hw.addLink hi hl) hiv hall
    dsimp only at h hw' hre
    generalize (g.top w).links.foldl _ g = g₁ at h hw' hre
    rw [Option.some.injEq] at h
    have hread : g'.readings = g.readings.eraseIdx w := by
      rw [← h, readings_remove, ← hre.readings]
      split
      · rw [readings_modify_same]
        exact fun r => ⟨rfl, rfl⟩
      · rfl
    have hvertices : g'.vertices = g₁.vertices := by
      rw [← h]
      split <;> rfl
    have hext : Extends T g g' := hre.extends.trans (.of_vertices hvertices)
    refine ⟨⟨hw'.of_vertices hvertices, fun f hf => ?_⟩, hext, hread⟩
    rw [hread] at hf
    exact (hs.held f (List.mem_of_mem_eraseIdx hf)).extend hext
  · cases h

end Stack

end MathProg
