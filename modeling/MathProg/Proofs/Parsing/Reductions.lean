import MathProg.Parse.Recovery
import MathProg.Proofs.Parsing.Walk

/-!
# Reductions of a reading

A reduction turns the slices of a reading into new readings at the same place of the text. All the
readings that come of one by reductions, by supplying a token or by losing the way make a crowd that
stands at one place.
-/

namespace MathProg

open Automaton (State Rule lost reduction?)
open Spot (Leads Path Climb)

namespace Stack

variable {source : List Char} {T : Terms} {g g' : Stack} {v n u w : Nat} {p q : Extent}
  {g₀ : Stack}

/-- A stack of the same vertices and the same readings. -/
structure Unmoved (g g' : Stack) : Prop where
  vertices : g'.vertices = g.vertices
  readings : g'.readings = g.readings

theorem Unmoved.rfl : Unmoved g g := ⟨Eq.refl _, Eq.refl _⟩

theorem Unmoved.trans {g₁ g₂ g₃ : Stack} (h : Unmoved g₁ g₂) (h' : Unmoved g₂ g₃) :
    Unmoved g₁ g₃ :=
  ⟨h'.vertices.trans h.vertices, h'.readings.trans h.readings⟩

theorem Unmoved.extends (h : Unmoved g g') : Extends T g g' := .of_vertices h.vertices

theorem Unmoved.sound (h : Unmoved g g') (hs : g.Sound source T) : g'.Sound source T :=
  hs.of_vertices h.vertices fun _ hf => Or.inl (h.readings ▸ hf)

theorem Unmoved.size (h : Unmoved g g') : g'.size = g.size := by
  rw [← readings_length, ← readings_length, h.readings]

theorem Unmoved.modify {f : Version → Version}
    (hf : ∀ r, (f r).top = r.top ∧ (f r).status = r.status) : Unmoved g (g.modify v f) :=
  ⟨Eq.refl _, readings_modify_same hf⟩

/-- A reading keeps standing while the stack grows and the reading is left alone. -/
theorem Stands.extend (hv : g.Stands T v p) (h : Extends T g g')
    (hr : g'.readings[v]? = g.readings[v]?) : g'.Stands T v p ∧ g'.state v = g.state v := by
  obtain ⟨x, hf, htop, hinner, -⟩ := hv.spot_eq
  obtain ⟨f, hf', harr⟩ := hv
  refine ⟨⟨f, hr.trans hf', harr.extend h⟩, ?_⟩
  obtain ⟨htop', -⟩ := version_of_reading (hr.trans hf)
  rw [state, top, htop', state, top, htop]
  exact congrArg Spot.state (h.spot x hinner)

theorem Stands.of_vertices (hv : g.Stands T v p) (h : g'.vertices = g.vertices)
    (hr : g'.readings[v]? = g.readings[v]?) : g'.Stands T v p :=
  (hv.extend (.of_vertices h) hr).1

theorem Unmoved.stands (h : Unmoved g g') (hv : g.Stands T v p) :
    g'.Stands T v p ∧ g'.state v = g.state v :=
  hv.extend h.extends (by rw [h.readings])

/-- Reading `v` and all readings from `n` on stand at `p`; the others are as they were in `g₀`. -/
structure Crowd (source : List Char) (T : Terms) (v n : Nat) (p : Extent) (g g₀ : Stack) : Prop where
  sound : g.Sound source T.loose
  ext : Extends T g₀ g
  bound : n ≤ g.size
  kept : ∀ i < n, i ≠ v → g.readings[i]? = g₀.readings[i]?
  here : ∀ i f, g.readings[i]? = some f → i = v ∨ n ≤ i → g.Arrived T p f

theorem Crowd.stands (h : g.Crowd source T v n p g₀) (hu : u = v ∨ n ≤ u) (hlt : u < g.size) :
    g.Stands T u p :=
  ⟨_, reading_of_lt hlt, h.here u _ (reading_of_lt hlt) hu⟩

/-- One reading that has arrived is a crowd. -/
theorem Stands.crowd (hs : g.Sound source T.loose) (hv : g.Stands T v p) :
    g.Crowd source T v g.size p g := by
  refine ⟨hs, .rfl, Nat.le_refl _, fun _ _ _ => rfl, fun i f hf hi => ?_⟩
  have hlt : i < g.size := by
    rw [← readings_length]
    exact (List.getElem?_eq_some_iff.mp hf).1
  obtain ⟨f', hf', harr⟩ := hv
  rcases hi with rfl | hi
  · rw [hf] at hf'
    cases hf'
    exact harr
  · omega

/-- If all readings before had paid what is asked, all have. -/
theorem Crowd.tight (h : g.Crowd source T v n p g₀) (hs : g₀.Sound source T) : g.Sound source T := by
  refine ⟨h.sound.woven.terms rfl, fun f hf => ?_⟩
  obtain ⟨i, hi⟩ := List.mem_iff_getElem?.mp hf
  by_cases hc : i = v ∨ n ≤ i
  · exact (h.here i f hi hc).held
  · rw [h.kept i (by omega) (by omega)] at hi
    exact (hs.held f (List.mem_of_getElem? hi)).extend h.ext

/-- A crowd stays one if every reading of it was there before or has come to the same place. -/
theorem Crowd.change (h : g.Crowd source T v n p g₀) (hs : g'.Sound source T.loose)
    (he : Extends T g g') (hb : n ≤ g'.size)
    (hk : ∀ i < n, i ≠ v → g'.readings[i]? = g.readings[i]?)
    (hr : ∀ i f, g'.readings[i]? = some f → i = v ∨ n ≤ i →
      (∃ j, g.readings[j]? = some f ∧ (j = v ∨ n ≤ j)) ∨ g'.Arrived T p f) :
    g'.Crowd source T v n p g₀ := by
  refine ⟨hs, h.ext.trans he, hb, fun i hi hv => (hk i hi hv).trans (h.kept i hi hv),
    fun i f hf hi => ?_⟩
  rcases hr i f hf hi with ⟨j, hj, hjn⟩ | harr
  · exact (h.here j f hj hjn).extend he
  · exact harr

theorem Crowd.unmoved (h : g.Crowd source T v n p g₀) (hu : Unmoved g g') :
    g'.Crowd source T v n p g₀ := by
  refine h.change (hu.sound h.sound) hu.extends (hu.size ▸ h.bound)
    (fun i _ _ => by rw [hu.readings]) fun i f hf hi => Or.inl ⟨i, ?_, hi⟩
  rw [← hu.readings]
  exact hf

theorem Crowd.append {more : List (Nat × Status)} (h : g.Crowd source T v n p g₀)
    (hs : g'.Sound source T.loose) (he : Extends T g g') (hr : g'.readings = g.readings ++ more)
    (hmore : ∀ f ∈ more, g'.Arrived T p f) : g'.Crowd source T v n p g₀ := by
  have hbound := h.bound
  rw [← readings_length] at hbound
  refine h.change hs he ?_ (fun i hi _ => ?_) fun i f hf hi => ?_
  · rw [← readings_length, hr, List.length_append]
    exact Nat.le_trans hbound (Nat.le_add_right _ _)
  · rw [hr, List.getElem?_append_left (Nat.lt_of_lt_of_le hi hbound)]
  · rw [hr] at hf
    by_cases hlt : i < g.readings.length
    · rw [List.getElem?_append_left hlt] at hf
      exact Or.inl ⟨i, hf, hi⟩
    · rw [List.getElem?_append_right (Nat.le_of_not_lt hlt)] at hf
      exact Or.inr (hmore f (List.mem_of_getElem? hf))

theorem Crowd.erase (h : g.Crowd source T v n p g₀) (hs : g'.Sound source T.loose) (he : Extends T g g')
    (hr : g'.readings = g.readings.eraseIdx u) (hu : n ≤ u) : g'.Crowd source T v n p g₀ := by
  refine h.change hs he ?_ (fun i hi _ => ?_) fun i f hf hi => Or.inl ?_
  · have hb := h.bound
    rw [← readings_length, hr, List.length_eraseIdx, readings_length]
    split <;> omega
  · rw [hr, List.getElem?_eraseIdx_of_lt (Nat.lt_of_lt_of_le hi hu)]
  · rw [hr, List.getElem?_eraseIdx] at hf
    split at hf
    · exact ⟨i, hf, hi⟩
    · exact ⟨i + 1, hf, Or.inr (by omega)⟩

theorem Sound.remove (hs : g.Sound source T) : (g.remove v).Sound source T :=
  hs.of_vertices rfl fun _ hf => Or.inl (List.mem_of_mem_eraseIdx (readings_remove ▸ hf))

theorem Crowd.remove (h : g.Crowd source T v n p g₀) (hu : n ≤ u) :
    (g.remove u).Crowd source T v n p g₀ :=
  h.erase h.sound.remove (.of_vertices rfl) readings_remove hu

theorem Crowd.pushed {s : State} {c : Nat} (h : g.Crowd source T v n p g₀) (hu : u = v ∨ n ≤ u)
    (hpush : g.Pushed source T.loose u ⟨s, p⟩ c g') (ha : T.asks s c) :
    g'.Crowd source T v n p g₀ := by
  obtain ⟨x, hx, harr⟩ := hpush.arrived ha
  refine h.change hpush.sound hpush.ext.tight (hpush.size ▸ h.bound) (fun i hi hv => ?_)
    fun i f hf hi => ?_
  · rw [hx, List.getElem?_set_ne (by omega)]
  · rw [hx, List.getElem?_set] at hf
    split at hf
    · split at hf
      · cases hf
        exact Or.inr harr
      · cases hf
    · exact Or.inl ⟨i, hf, hi⟩

theorem readings_replace {f : Nat × Status} (h : g.readings[w]? = some f) (hne : u ≠ w) :
    (g.replace u w).readings = (g.readings.set u f).eraseIdx w := by
  obtain ⟨htop, hst⟩ := version_of_reading h
  rw [replace, if_neg hne]
  dsimp only
  simp only [readings, List.eraseIdx_eq_take_drop_succ, List.map_append, List.map_take, List.map_drop,
    List.map_set, htop, hst]

/-- Putting a reading of the crowd in the place of another one. -/
theorem Crowd.replace (h : g.Crowd source T v n p g₀) (hu : u = v ∨ n ≤ u) (hw : n ≤ w)
    (hlt : w < g.size) : (g.replace u w).Crowd source T v n p g₀ := by
  by_cases hne : u = w
  · rw [Stack.replace, if_pos hne]
    exact h
  · have hf := reading_of_lt hlt
    have harr := h.here w _ hf (Or.inr hw)
    have hr := readings_replace hf hne
    have hvertices : (g.replace u w).vertices = g.vertices := by
      rw [Stack.replace, if_neg hne]
    have he : Extends T g (g.replace u w) := .of_vertices hvertices
    refine h.change (h.sound.of_vertices hvertices fun f' hf' => ?_) he ?_ (fun i hi hv => ?_)
      fun i f' hf' hi => ?_
    · rw [hr] at hf'
      rcases List.mem_or_eq_of_mem_set (List.mem_of_mem_eraseIdx hf') with hmem | rfl
      · exact Or.inl hmem
      · exact Or.inr harr.loose.held
    · rw [← readings_length, hr, List.length_eraseIdx, List.length_set, readings_length]
      split <;> omega
    · rw [hr, List.getElem?_eraseIdx_of_lt (Nat.lt_of_lt_of_le hi hw),
        List.getElem?_set_ne (by omega)]
    · have hold : ∀ j, (g.readings.set u ((g.version w).top, (g.version w).status))[j]? = some f' →
          (j = v ∨ n ≤ j) → (∃ j, g.readings[j]? = some f' ∧ (j = v ∨ n ≤ j)) ∨
            (g.replace u w).Arrived T p f' := by
        intro j hj hjn
        rw [List.getElem?_set] at hj
        split at hj
        · split at hj
          · cases hj
            exact Or.inr (harr.extend he)
          · cases hj
        · exact Or.inl ⟨j, hj, hjn⟩
      rw [hr, List.getElem?_eraseIdx] at hf'
      split at hf'
      · exact hold i hf' hi
      · exact hold (i + 1) hf' (Or.inr (by omega))

end Stack

namespace Recovery

open Stack

variable {source : List Char} {T : Terms} {m : Recovery} {v n u w : Nat} {p : Extent}
  {g₀ : Stack}

/-- The node and the extra trees of some slices are those of one of them. -/
theorem bestChildren_spec (r : Rule) (first : List Tree) (others : List (List Tree)) :
    ∃ ts ∈ first :: others, bestChildren r (Tree.splitTrailingExtras first) others =
      (Tree.ofRule r (Tree.splitTrailingExtras ts).1, (Tree.splitTrailingExtras ts).2) := by
  have hfold : ∀ (others : List (List Tree)) (ts : List Tree), ∃ us ∈ ts :: others,
      bestChildren r (Tree.splitTrailingExtras ts) others =
        (Tree.ofRule r (Tree.splitTrailingExtras us).1, (Tree.splitTrailingExtras us).2) := by
    intro others
    induction others with
    | nil => exact fun ts => ⟨ts, List.mem_cons_self, rfl⟩
    | cons next others ih =>
      intro ts
      by_cases hbetter : Tree.prefersSecond (Tree.ofRule r (Tree.splitTrailingExtras ts).1)
          (.node r.symbol [] (Tree.splitTrailingExtras next).1 false) = true
      · obtain ⟨us, hmem, heq⟩ := ih next
        refine ⟨us, List.mem_cons_of_mem _ hmem, ?_⟩
        rw [← heq]
        simp only [bestChildren, List.foldl_cons, hbetter, if_true]
      · obtain ⟨us, hmem, heq⟩ := ih ts
        refine ⟨us, ?_, ?_⟩
        · rcases List.mem_cons.mp hmem with rfl | hmem
          · exact List.mem_cons_self
          · exact List.mem_cons_of_mem _ (List.mem_cons_of_mem _ hmem)
        · rw [← heq]
          simp only [bestChildren, List.foldl_cons, hbetter, if_false, Bool.false_eq_true]
  exact hfold others first

/-- Joining a reading into one of some others drops it. -/
theorem mergeInto_spec {g g' : Stack} {others : List Nat} (hs : g.Sound source T)
    (h : mergeInto g others w = some g') :
    g'.Sound source T ∧ Extends T g g' ∧ g'.readings = g.readings.eraseIdx w := by
  obtain ⟨j, -, hj⟩ := List.exists_of_findSome?_eq_some h
  exact hs.merge hj

/-- The slices of one reading, and those behind it. -/
theorem takeWhile_group (sl : Slice) {same rest : List Slice}
    (hsame : ∀ s ∈ same, s.version = sl.version) (hrest : ∀ s ∈ rest, sl.version < s.version) :
    (same ++ rest).takeWhile (·.version == sl.version) = same ∧
      (same ++ rest).dropWhile (·.version == sl.version) = rest := by
  have hall : ∀ s ∈ same, (s.version == sl.version) = true := fun s hs => beq_iff_eq.mpr (hsame s hs)
  rw [List.takeWhile_append_of_pos hall, List.dropWhile_append_of_pos hall]
  cases rest with
  | nil => exact ⟨List.append_nil _, rfl⟩
  | cons s rest =>
    have hne : (s.version == sl.version) = false :=
      beq_false_of_ne (Nat.ne_of_gt (hrest s List.mem_cons_self))
    rw [List.takeWhile_cons, List.dropWhile_cons, hne]
    exact ⟨List.append_nil _, rfl⟩

/-- The new readings on some vertices. -/
def raws (xs : List Nat) : List (Nat × Status) := xs.map fun x => (x, .active)

/-- Behind the readings `front` there are now some that have come to `p`. -/
structure Grown (source : List Char) (T : Terms) (p : Extent) (front : List (Nat × Status))
    (g g' : Stack) : Prop where
  sound : g'.Sound source T.loose
  ext : Extends T g g'
  more : ∃ more, g'.readings = front ++ more ∧ ∀ f ∈ more, g'.Arrived T p f

theorem Grown.after {g g₁ g' : Stack} {front : List (Nat × Status)} (he : Extends T g g₁)
    (h : Grown source T p front g₁ g') : Grown source T p front g g' :=
  ⟨h.sound, he.trans h.ext, h.more⟩

/-- If all readings before had paid what is asked, all have. -/
theorem Grown.tight {g g' : Stack} (h : Grown source T p g.readings g g')
    (hs : g.Sound source T) : g'.Sound source T := by
  obtain ⟨more, hmore, hall⟩ := h.more
  refine ⟨h.sound.woven.terms rfl, fun f hf => ?_⟩
  rw [hmore] at hf
  rcases List.mem_append.mp hf with hf | hf
  · exact (hs.held f hf).extend h.ext
  · exact (hall f hf).held

theorem Grown.kept {g g' : Stack} (h : Grown source T p g.readings g g') (hu : u < g.size) :
    g'.readings[u]? = g.readings[u]? ∧ g.size ≤ g'.size := by
  obtain ⟨more, hmore, -⟩ := h.more
  refine ⟨?_, ?_⟩
  · rw [hmore, List.getElem?_append_left (by rwa [readings_length])]
  · rw [← readings_length, ← readings_length, hmore, List.length_append]
    exact Nat.le_add_right _ _

/-- The first of the new readings is where its slices lead. -/
theorem reduceSlice_spec {r : Rule} {x : Symbol} {b : Spot} {g : Stack} {y c : Nat} {ts : List Tree}
    {xs : List Nat} {front : List (Nat × Status)} (hb : b.state ≠ lost)
    (hr : reduction? b.state x = some r) (ha : T.asks b.state c) (hs : g.Sound source T.loose)
    (hy : g.Inner T y) (hread : g.readings = front ++ raws (y :: xs))
    (hp : Path source (g.spot y) ts r.length b) (hprice : c = (g.vertex y).cost + Tree.costs ts) :
    let g' := g.pushAll front.length
      (Tree.ofRule r (Tree.splitTrailingExtras ts).1 :: (Tree.splitTrailingExtras ts).2)
      ((Automaton.successor? (g.state front.length) r.symbol).getD lost)
    g'.Sound source T.loose ∧ Extends T g g' ∧
      ∃ z, g'.readings = front ++ (z, .active) :: raws xs ∧
        g'.Arrived T b.position (z, .active) := by
  have hf : g.readings[front.length]? = some (y, .active) := by
    rw [hread, List.getElem?_append_right (Nat.le_refl _), Nat.sub_self]
    rfl
  obtain ⟨htop, -⟩ := version_of_reading hf
  have hat : (⟨g.state front.length, (g.spot y).position⟩ : Spot) = g.spot y := by
    rw [state, top, htop]
    rfl
  have htarget := hp.target_ne_lost hb hr
  have hclimb := hp.reduce hb hr
  rw [← hat] at hclimb htarget
  have hpush := hs.pushAll ⟨_, hf, rfl, hy, trivial, rfl⟩ hclimb htarget
    fun hnil => absurd hnil (List.cons_ne_nil _ _)
  have hpos : (g.spot y).position + Tree.totalAll
      (Tree.ofRule r (Tree.splitTrailingExtras ts).1 :: (Tree.splitTrailingExtras ts).2) =
        b.position := by
    rw [Tree.totalAll_cons, Tree.ofRule, Tree.total_node, ← Tree.totalAll_append,
      (Tree.splitTrailingExtras_spec ts).1]
    exact hp.reach.symm
  have hcost : (g.top front.length).cost + Tree.costs
      (Tree.ofRule r (Tree.splitTrailingExtras ts).1 :: (Tree.splitTrailingExtras ts).2) = c := by
    rw [Spot.costs_reduce hr (hp.sound hb), top, htop, hprice]
  rw [hpos, hcost] at hpush
  obtain ⟨z, hz, harr⟩ := hpush.arrived (T.keeps ha htarget)
  rw [hread, List.set_append_right _ _ (Nat.le_refl _), Nat.sub_self] at hz
  exact ⟨hpush.sound, hpush.ext.tight, z, hz, harr⟩

/-- Every new reading comes back to where the reduced one was, if it is not dropped or joined. -/
theorem reduceSlices_spec {r : Rule} {x : Symbol} {g₀ : Stack} {top : Nat}
    (hb : (g₀.spot top).state ≠ lost) (hr : reduction? (g₀.spot top).state x = some r)
    (ha : T.asks (g₀.spot top).state (g₀.vertex top).cost) {fuel : Nat} {slices : List Slice}
    {xs : List Nat} {removed k : Nat} {front : List (Nat × Status)} {g : Stack}
    (hs : g.Sound source T.loose) (hext : Extends T g₀ g) (hread : g.readings = front ++ raws xs)
    (hcut : Stack.Cut (g₀.Spans source T top r.length) k slices xs)
    (hk : front.length + removed = k) (hfuel : slices.length < fuel) :
    Grown source T (g₀.spot top).position front g (reduceSlices r v fuel slices removed g) := by
  induction fuel generalizing slices xs removed k front g with
  | zero => exact absurd hfuel (Nat.not_lt_zero _)
  | succ fuel ih =>
    cases hcut with
    | none =>
      rw [reduceSlices]
      exact ⟨hs, .rfl, [], hread, fun f hf => absurd hf List.not_mem_nil⟩
    | @group _ y sl same rest xs hsame hrest =>
      obtain ⟨hversion, hspans⟩ := hsame sl List.mem_cons_self
      have hinner := hspans.inner
      obtain ⟨htake, hdrop⟩ := takeWhile_group sl
        (fun s hs => (hsame s (List.mem_cons_of_mem _ hs)).1.trans hversion.symm)
        (fun s hs => hversion ▸ (hrest.bounds s hs).1)
      have hw : sl.version - removed = front.length := by omega
      have hfuel' : rest.length < fuel := by
        rw [List.length_append, List.length_cons] at hfuel
        omega
      -- dropping the reading leaves those behind it
      have hdrops : ∀ z, (front ++ (z, Status.active) :: raws xs).eraseIdx front.length =
          front ++ raws xs := by
        intro z
        rw [List.eraseIdx_append_of_length_le (Nat.le_refl _), Nat.sub_self]
        rfl
      rw [List.cons_append, reduceSlices]
      dsimp only
      rw [htake, hdrop, hw]
      split
      · have hext' : Extends T g (g.remove front.length) := .of_vertices rfl
        have hread' : (g.remove front.length).readings = front ++ raws xs := by
          rw [readings_remove, hread]
          exact hdrops y
        exact .after hext' (ih hs.remove (hext.trans hext') hread' hrest (by omega) hfuel')
      · obtain ⟨ts, hts, hbest⟩ := bestChildren_spec r sl.trees (same.map (·.trees))
        have hspans' : g₀.Spans source T top r.length y ts := by
          rw [← List.map_cons (f := Slice.trees)] at hts
          obtain ⟨s, hs, rfl⟩ := List.mem_map.mp hts
          exact (hsame s hs).2
        have hprice := hspans'.price
        rw [← hext.cost y hinner] at hprice
        have hslice := reduceSlice_spec hb hr ha hs (hext.inner y hinner) hread
          (by rw [hext.spot y hinner]; exact hspans'.path) hprice
        rw [hbest]
        dsimp only at hslice ⊢
        generalize g.pushAll front.length _ _ = g₁ at hslice ⊢
        obtain ⟨hs₁, he₁, z, hz, harr⟩ := hslice
        split
        · rename_i g₂ hmerge
          obtain ⟨hs₂, he₂, hread₂⟩ := mergeInto_spec hs₁ hmerge
          rw [hz, hdrops] at hread₂
          exact .after (he₁.trans he₂.tight)
            (ih hs₂ (hext.trans (he₁.trans he₂.tight)) hread₂ hrest (by omega) hfuel')
        · have hread₁ : g₁.readings = (front ++ [(z, .active)]) ++ raws xs := by
            rw [hz, List.append_assoc, List.singleton_append]
          have hlen : (front ++ [(z, Status.active)]).length + removed = k + 1 := by
            rw [List.length_append, List.length_singleton]
            omega
          obtain ⟨hs', he', more, hmore, hall⟩ :=
            ih hs₁ (hext.trans he₁) hread₁ hrest hlen hfuel'
          refine ⟨hs', he₁.trans he', (z, .active) :: more, ?_, ?_⟩
          · rw [hmore, List.append_assoc, List.singleton_append]
          · exact List.forall_mem_cons.mpr ⟨harr.extend he', hall⟩

/-- A reduction adds readings at the place of the one that is reduced. -/
theorem reduce_spec {r : Rule} {x : Symbol} (hs : m.stack.Sound source T.loose)
    (hu : m.stack.Stands T u p) (hl : m.stack.state u ≠ lost)
    (hr : reduction? (m.stack.state u) x = some r) :
    ∃ o g', m.reduce u r = (o, { m with stack := g' }) ∧
      Grown source T p m.stack.readings m.stack g' ∧
      ∀ w ∈ o, m.stack.size ≤ w ∧ w < g'.size := by
  obtain ⟨y, hf, htop, hinner, hspot⟩ := hu.spot_eq
  have hasks : T.asks (m.stack.spot y).state (m.stack.vertex y).cost := by
    rw [← htop]
    exact hu.asks
  have hw : m.stack.Woven source T := hs.woven.terms rfl
  obtain ⟨slices, xs, hpop, hcut⟩ := hw.popCount (htop ▸ hinner) r.length
  rw [htop] at hcut
  have hsliced : (m.stack.sliced (m.stack.version u) xs).Sound source T.loose := by
    refine hs.sliced fun x hx => ?_
    obtain ⟨ts, hts⟩ := hcut.exists_slice x hx
    exact hts.inner
  have hext : Extends T m.stack (m.stack.sliced (m.stack.version u) xs) := .of_vertices rfl
  have hgrown := reduceSlices_spec (v := u) (by rw [hspot]; exact hl) (by rw [hspot]; exact hr) hasks
    hsliced hext (readings_sliced _ _) hcut (by rw [readings_length, Nat.add_zero])
    (Nat.lt_succ_self _)
  rw [hspot] at hgrown
  refine ⟨_, _, by rw [reduce, hpop], .after hext hgrown, fun w hw => ?_⟩
  split at hw
  · rename_i hlt
    cases hw
    exact ⟨Nat.le_refl _, hlt⟩
  · cases hw

theorem mem_reductionsOn {s : State} {ts : List Symbol} {r : Rule} (h : r ∈ reductionsOn s ts) :
    s ≠ lost ∧ ∃ x, reduction? s x = some r := by
  have hfold : ∀ f : List Rule → Symbol → List Rule,
      (∀ rs t, r ∈ f rs t → r ∈ rs ∨ ∃ t, Automaton.action? s t = some (.reduce r)) →
      ∀ (ts : List Symbol) (rs : List Rule), r ∈ ts.foldl f rs →
        r ∈ rs ∨ ∃ t, Automaton.action? s t = some (.reduce r) := by
    intro f hf ts
    induction ts with
    | nil => exact fun rs h => Or.inl h
    | cons t ts ih =>
      intro rs h
      rcases ih _ h with hmem | hact
      · exact hf rs t hmem
      · exact Or.inr hact
  obtain hmem | ⟨t, ht⟩ := hfold _ (fun rs t hmem => by
    split at hmem
    · rename_i q hq
      split at hmem
      · rcases List.mem_append.mp hmem with hmem | hmem
        · exact Or.inl hmem
        · rw [List.mem_singleton] at hmem
          exact Or.inr ⟨t, hmem ▸ hq⟩
      · exact Or.inl hmem
    · exact Or.inl hmem) ts [] h
  · cases hmem
  · obtain ⟨-, ⟨-, he⟩ | ⟨hl, ⟨-, he⟩ | ⟨-, he⟩ | ⟨q, hq, he⟩ | ⟨_, -, he⟩⟩⟩ :=
      Automaton.action_cases ht
    · cases he
    · cases he
    · cases he
    · cases he
      exact ⟨hl, t, hq⟩
    · cases he

/-- All reductions of a reading of the crowd add to the crowd. -/
theorem reduceEach_spec (rs : List Rule) (hc : m.stack.Crowd source T v n p g₀)
    (hu : u = v ∨ n ≤ u) (hlt : u < m.stack.size)
    (hr : ∀ r ∈ rs, m.stack.state u ≠ lost ∧ ∃ x, reduction? (m.stack.state u) x = some r) :
    ∃ o g', m.reduceEach u rs = (o, { m with stack := g' }) ∧
      g'.Crowd source T v n p g₀ ∧ u < g'.size ∧ ∀ w ∈ o, m.stack.size ≤ w ∧ w < g'.size := by
  have hfold : ∀ (rs : List Rule) (o : Option Nat) (g : Stack), g.Crowd source T v n p g₀ →
      g.state u = m.stack.state u → m.stack.size ≤ g.size →
      (∀ r ∈ rs, m.stack.state u ≠ lost ∧ ∃ x, reduction? (m.stack.state u) x = some r) →
      (∀ w ∈ o, m.stack.size ≤ w ∧ w < g.size) →
      ∃ o' g', rs.foldl (fun x r => x.2.reduce u r) (o, { m with stack := g }) =
          (o', { m with stack := g' }) ∧ g'.Crowd source T v n p g₀ ∧ u < g'.size ∧
        ∀ w ∈ o', m.stack.size ≤ w ∧ w < g'.size := by
    intro rs
    induction rs with
    | nil => exact fun o g hc _ hle _ ho => ⟨o, g, rfl, hc, Nat.lt_of_lt_of_le hlt hle, ho⟩
    | cons r rs ih =>
      intro o g hc hstate hle hr ho
      obtain ⟨hl, x, hx⟩ := hr r List.mem_cons_self
      have hlt' : u < g.size := Nat.lt_of_lt_of_le hlt hle
      have hstands := hc.stands hu hlt'
      obtain ⟨o₁, g₁, heq, hgrown, ho₁⟩ := reduce_spec (m := { m with stack := g }) hc.sound hstands
        (hstate ▸ hl) (hstate ▸ hx)
      obtain ⟨hkeep, hle'⟩ := hgrown.kept hlt'
      obtain ⟨more, hmore, hall⟩ := hgrown.more
      rw [List.foldl_cons]
      change ∃ o' g', rs.foldl _ (reduce { m with stack := g } u r) = _ ∧ _
      rw [heq]
      refine ih o₁ g₁ (hc.append hgrown.sound hgrown.ext hmore hall) ?_
        (Nat.le_trans hle hle') (fun r hr' => hr r (List.mem_cons_of_mem _ hr')) fun w hw => ?_
      · rw [(hstands.extend hgrown.ext hkeep).2, hstate]
      · exact ⟨Nat.le_trans hle (ho₁ w hw).1, (ho₁ w hw).2⟩
  exact hfold rs none m.stack hc rfl (Nat.le_refl _) hr fun w hw => absurd hw (Option.not_mem_none w)

/-- Reducing without regard to the next token leaves a crowd. -/
theorem reduceAll_spec {t : Symbol} {initial : Nat} (fuel round : Nat) (found : Bool)
    (hc : m.stack.Crowd source T v n p g₀) (hinitial : n ≤ initial)
    (ht : t = Symbol.endOfText ∨ n ≤ v) (hu : u = v ∨ n ≤ u) :
    ∃ b g', reduceAll t v initial fuel round u found m = (b, { m with stack := g' }) ∧
      g'.Crowd source T v n p g₀ := by
  induction fuel generalizing m round u found with
  | zero => exact ⟨found, m.stack, rfl, hc⟩
  | succ fuel ih =>
    rw [reduceAll]
    dsimp only
    split
    · exact ⟨found, m.stack, rfl, hc⟩
    · rename_i hge
      have hlt : u < m.stack.size := Nat.lt_of_not_le hge
      have hnext : ∀ j, n ≤ j → (if u == v then j else u + 1) = v ∨
          n ≤ if u == v then j else u + 1 := by
        intro j hj
        split
        · exact Or.inr hj
        · rename_i hne
          rcases hu with rfl | hu
          · exact absurd (beq_self_eq_true u) hne
          · exact Or.inr (Nat.le_succ_of_le hu)
      split
      · -- a reading that is joined into another one is not below the crowd's bound
        rename_i g hmerge
        obtain ⟨hs, he, hread⟩ := mergeInto_spec hc.sound hmerge
        have hnu : n ≤ u := by
          obtain ⟨j, hj, -⟩ := List.exists_of_findSome?_eq_some hmerge
          obtain ⟨i, hi, -⟩ := List.mem_drop_iff_getElem.mp hj
          rw [List.length_range] at hi
          omega
        exact ih (m := { m with stack := g }) _ _ (hc.erase hs he.tight hread hnu) hu
      · obtain ⟨o, g, heq, hc', hlt', ho⟩ :=
          reduceEach_spec (reductionsOn (m.stack.state u) (tokensOf t)) hc hu hlt fun r hr =>
            mem_reductionsOn hr
        rw [heq]
        dsimp only
        have hdrop : (if (t == Symbol.endOfText) = true then g else g.remove u).Crowd source T
            v n p g₀ := by
          split
          · exact hc'
          · rename_i hne
            refine hc'.remove ?_
            rcases ht with rfl | ht
            · exact absurd rfl hne
            · rcases hu with rfl | hu
              · exact ht
              · exact hu
        have hcount := hnext _ hc.bound
        split
        · exact ih (m := { m with stack := g }) _ _ hc' hcount
        · split
          · rename_i w
            split
            · obtain ⟨hw, hwlt⟩ := ho w rfl
              exact ih (m := { m with stack := g.replace u w }) _ _
                (hc'.replace hu (Nat.le_trans hc.bound hw) hwlt) hu
            · exact ih (m := { m with stack := _ }) _ _ hdrop hcount
          · exact ih (m := { m with stack := _ }) _ _ hdrop hcount

theorem readings_copy {g : Stack} {f : Nat × Status} (h : g.readings[u]? = some f) :
    (g.copy u).readings = g.readings ++ [f] := by
  obtain ⟨htop, hst⟩ := version_of_reading h
  simp only [readings, copy, List.map_append, List.map_cons, List.map_nil, htop, hst]

/-- A token that the text lacks leads on. -/
theorem leads_missing {s s' : State} {t : Symbol} (hplace : p.chars ≤ source.length)
    (ht : t < Symbol.tokenCount) (hl : s ≠ lost) (hs : Automaton.successor? s t = some s') :
    Leads source ⟨s, p⟩ (some (Tree.missing t)) ⟨s', p⟩ := by
  have hempty : ∀ a, slice source a a = [] := fun a => by rw [slice, Nat.sub_self, List.take_zero]
  have hfits : Leaf.Fits source p.chars ⟨t, 0, 0, false, .supplied⟩ := by
    refine ⟨hplace, ?_, ?_, Or.inl ?_, (by rintro ⟨⟩), fun _ => rfl⟩
    · change (0 : Extent) = Extent.ofChars (slice source p.chars p.chars)
      rw [hempty]
      rfl
    · change (0 : Extent) = Extent.ofChars (slice source p.chars p.chars)
      rw [hempty]
      rfl
    · change ∀ c ∈ slice source p.chars p.chars, isBlank c = true
      rw [hempty]
      exact fun c hc => absurd hc List.not_mem_nil
  have hvisible := (Automaton.successor_symbol hs).2 ht
  refine ⟨(Extent.add_zero p).symm, ?_, ?_, ?_, fun _ => ⟨hl, _, rfl, ⟨?_, ?_, ?_, ?_⟩, ?_⟩⟩
  · rintro u hu
    cases hu
    exact ⟨hfits, hvisible, Or.inl ht⟩
  · rintro u hu he
    cases hu
    exact absurd he (Nat.ne_of_lt (Nat.lt_trans ht (by decide)))
  · rintro u hu he
    cases hu
    exact absurd he Bool.false_ne_true
  · exact Nat.ne_of_lt (Nat.lt_trans ht (by decide))
  · exact ⟨Nat.ne_of_lt (Nat.lt_trans ht (by decide)), fun _ => hvisible⟩
  · exact fun hc => absurd hc (by decide : Tree.prices.missing + Tree.prices.recovery ≠ 0)
  · exact fun hc => absurd hc (by decide : Tree.prices.missing + Tree.prices.recovery ≠ 0)
  · exact hs

/-- Supplying a token adds readings that have paid for it. -/
theorem supply_spec {t : Symbol} (look : Leaf) (hs : m.stack.Sound source T.loose)
    (hu : m.stack.Stands T u p) (ht : t < Symbol.tokenCount) :
    ∃ b g', m.supply u t look = (b, { m with stack := g' }) ∧
      Grown source (.paid T.closed) p m.stack.readings m.stack g' := by
  have hsame : Grown source (.paid T.closed) p m.stack.readings m.stack m.stack :=
    ⟨hs, .rfl, [], (List.append_nil _).symm, fun f hf => absurd hf List.not_mem_nil⟩
  rw [supply]
  dsimp only
  split
  · exact ⟨false, m.stack, rfl, hsame⟩
  · rename_i s' hafter
    split
    · exact ⟨false, m.stack, rfl, hsame⟩
    · rename_i hne
      obtain ⟨x, hf, htop, hinner, hspot⟩ := hu.spot_eq
      have hread := readings_copy hf
      have hgoal : m.stack.state u ≠ lost ∧
          Automaton.successor? (m.stack.state u) t = some s' := by
        unfold Automaton.after? at hafter
        split at hafter
        · cases hafter
        · rename_i hl
          split at hafter
          · cases hafter
            simp at hne
          · exact ⟨hl, hafter⟩
      have hplace : p.chars ≤ source.length := by
        have hp := (hs.woven.place x hinner).bound
        rwa [hspot] at hp
      have hlead := leads_missing hplace ht hgoal.1 hgoal.2
      generalize hg : m.stack.copy u = g at hread
      have hvertices : g.vertices = m.stack.vertices := by rw [← hg]; rfl
      have hext : Extends T.loose m.stack g := .of_vertices hvertices
      have hnew : g.readings[m.stack.size]? = some (x, .active) := by
        rw [hread, List.getElem?_append_right (Nat.le_of_eq (readings_length _)), readings_length,
          Nat.sub_self]
        rfl
      have hstands : g.Stands T.loose m.stack.size p :=
        ⟨_, hnew, rfl, hext.inner x hinner, trivial, by rw [hext.spot x hinner, hspot]⟩
      have hsound : g.Sound source T.loose := by
        refine hs.of_vertices hvertices fun f hf' => ?_
        rw [hread] at hf'
        rcases List.mem_append.mp hf' with hf' | hf'
        · exact Or.inl hf'
        · rw [List.mem_singleton.mp hf']
          exact Or.inr fun _ => ⟨hinner, trivial, fun _ hl => by cases hl⟩
      have hstate : g.state m.stack.size = m.stack.state u := by
        obtain ⟨htop', -⟩ := version_of_reading hnew
        rw [state, top, htop', state, top, htop, vertex, hvertices]
        rfl
      have hsize : g.size = m.stack.size + 1 := by
        rw [← readings_length, hread, List.length_append, readings_length]
        rfl
      rw [← hstate] at hlead
      have hprice : 0 < (Tree.missing t).cost := by
        change 0 < Tree.prices.missing + Tree.prices.recovery
        decide
      have hgoing : s' ≠ lost :=
        Nat.ne_of_gt (Nat.zero_lt_of_lt (Automaton.start_lt_successor hgoal.2))
      have hpush := hsound.push hstands hlead trivial fun hl => absurd hl hgoing
      generalize g.push m.stack.size (some (Tree.missing t)) s' = g₁ at hpush
      obtain ⟨y, hy, harr⟩ := hpush.arrived (T := .paid T.closed)
        (Nat.lt_of_lt_of_le hprice (Nat.le_add_left _ _))
      -- the new reading is the last one, and makes a crowd of its own
      have hy' : g₁.readings = m.stack.readings ++ [(y, .active)] := by
        rw [hy, hread, List.set_append_right _ _ (Nat.le_of_eq (readings_length _)),
          readings_length, Nat.sub_self]
        rfl
      have hcrowd : g₁.Crowd source (.paid T.closed) m.stack.size m.stack.size p m.stack := by
        have he := hext.trans hpush.ext
        refine ⟨hpush.sound, ⟨he.inner, he.spot, he.cost⟩, ?_, fun i hi _ => ?_, fun i f hf' hi => ?_⟩
        · rw [hpush.size, hsize]
          exact Nat.le_succ _
        · rw [hy', List.getElem?_append_left (by rwa [readings_length])]
        · rw [hy', List.getElem?_append_right (by rw [readings_length]; omega)] at hf'
          rw [List.mem_singleton.mp (List.mem_of_getElem? hf')]
          exact harr
      obtain ⟨b, g', heq, hc⟩ := reduceAll_spec (m := { m with stack := g₁ }) (t := look.symbol)
        reductionFuel 0 false hcrowd hcrowd.bound (Or.inr (Nat.le_refl _)) (Or.inl rfl)
      have hfront : g'.readings.take m.stack.size = m.stack.readings := by
        apply List.ext_getElem?
        intro i
        rw [List.getElem?_take]
        split
        · rename_i hi
          exact hc.kept i hi (Nat.ne_of_lt hi)
        · rename_i hi
          rw [List.getElem?_eq_none (by rw [readings_length]; omega)]
      refine ⟨b, g', heq, hc.sound, hc.ext, g'.readings.drop m.stack.size, ?_, fun f hf' => ?_⟩
      · conv_rhs => rw [← hfront]
        exact (List.take_append_drop _ _).symm
      · obtain ⟨i, hi⟩ := List.mem_iff_getElem?.mp hf'
        rw [List.getElem?_drop] at hi
        exact hc.here _ f hi (Or.inr (Nat.le_add_right _ _))

theorem supplyFirst_spec {ts : List Symbol} {look : Leaf} (hs : m.stack.Sound source T.loose)
    (hu : m.stack.Stands T u p) (ht : ∀ t ∈ ts, t < Symbol.tokenCount) :
    ∃ b g', m.supplyFirst u look ts = (b, { m with stack := g' }) ∧
      Grown source (.paid T.closed) p m.stack.readings m.stack g' := by
  induction ts generalizing m with
  | nil =>
    exact ⟨false, m.stack, rfl, hs, .rfl, [], (List.append_nil _).symm,
      fun f hf => absurd hf List.not_mem_nil⟩
  | cons t ts ih =>
    obtain ⟨ht, hts⟩ := List.forall_mem_cons.mp ht
    obtain ⟨b, g, heq, hg⟩ := supply_spec look hs hu ht
    rw [supplyFirst, heq]
    dsimp only
    split
    · exact ⟨true, g, rfl, hg⟩
    · have he : Extends T m.stack g := ⟨hg.ext.inner, hg.ext.spot, hg.ext.cost⟩
      obtain ⟨b', g', heq', hg'⟩ := ih (m := { m with stack := g }) hg.sound
        (hu.extend he (hg.kept hu.lt).1).1 hts
      obtain ⟨more, hmore, hall⟩ := hg.more
      obtain ⟨more', hmore', hall'⟩ := hg'.more
      refine ⟨b', g', heq', hg'.sound, hg.ext.trans hg'.ext, more ++ more', ?_, ?_⟩
      · rw [hmore', hmore, List.append_assoc]
      · exact List.forall_mem_append.mpr ⟨fun f hf => (hall f hf).extend hg'.ext, hall'⟩

/-- Losing the way leaves a reading at its place. -/
theorem leads_lost {s : State} : Leads source ⟨s, p⟩ none ⟨lost, p⟩ :=
  ⟨(Extent.add_zero p).symm, fun _ hu => absurd hu (Option.not_mem_none _),
    fun _ hu => absurd hu (Option.not_mem_none _), fun _ hu => absurd hu (Option.not_mem_none _),
    fun hn => absurd rfl hn⟩

/-- Supplying a token in a reading unless that worked before. -/
theorem supplyOnce_spec (look : Leaf) (supplied : Bool) (hs : m.stack.Sound source T.loose)
    (hu : m.stack.Stands T u p) :
    ∃ b g', (if supplied then (true, m)
        else m.supplyFirst u look ((List.range Symbol.tokenCount).drop 1)) =
          (b, { m with stack := g' }) ∧
      Grown source (.paid T.closed) p m.stack.readings m.stack g' := by
  split
  · exact ⟨true, m.stack, rfl, hs, .rfl, [], (List.append_nil _).symm,
      fun f hf => absurd hf List.not_mem_nil⟩
  · exact supplyFirst_spec hs hu fun t ht => List.mem_range.mp (List.mem_of_mem_drop ht)

/-- Readings that have paid something and lose their way stay where they are. -/
theorem loseWay_spec {closed : Nat → Prop} {k : Nat} (look : Leaf) (fuel : Nat) (supplied : Bool)
    (hc : m.stack.Crowd source (.paid closed) v n p g₀) (hk : k ≤ m.stack.size)
    (hu : u = v ∨ n ≤ u) :
    ∃ g', loseWay v n k look fuel u supplied m = { m with stack := g' } ∧
      g'.Crowd source (.paid closed) v n p g₀ := by
  induction fuel generalizing m u supplied with
  | zero => exact ⟨m.stack, rfl, hc⟩
  | succ fuel ih =>
    rw [loseWay]
    split
    · exact ⟨m.stack, rfl, hc⟩
    · rename_i hge
      have hlt : u < m.stack.size := Nat.lt_of_lt_of_le (Nat.lt_of_not_le hge) hk
      have hstands := hc.stands hu hlt
      obtain ⟨b, g, heq, hg⟩ := supplyOnce_spec look supplied hc.sound hstands
      obtain ⟨more, hmore, hall⟩ := hg.more
      have hc' : g.Crowd source (.paid closed) v n p g₀ := hc.append hg.sound hg.ext hmore hall
      have hlt' : u < g.size := Nat.lt_of_lt_of_le hlt (hg.kept hlt).2
      have hstands' := hc'.stands hu hlt'
      have hpaid : 0 < (g.top u).cost := hstands'.asks
      rw [heq]
      dsimp only
      have hpush := hc'.sound.push hstands'.loose leads_lost trivial
        fun _ hfree => absurd hfree (Nat.ne_of_gt (Nat.lt_of_lt_of_le hpaid (Nat.le_add_right _ _)))
      refine ih (m := { m with stack := g.push u none lost }) _
        (hc'.pushed hu hpush (Nat.lt_of_lt_of_le hpaid (Nat.le_add_right _ _))) ?_ ?_
      · rw [hpush.size]
        exact Nat.le_trans hk (hg.kept hlt).2
      · split
        · exact Or.inr (Nat.le_refl _)
        · rename_i hne
          rcases hu with rfl | hu
          · exact absurd (beq_self_eq_true u) hne
          · exact Or.inr (Nat.le_succ_of_le hu)

end Recovery

end MathProg
