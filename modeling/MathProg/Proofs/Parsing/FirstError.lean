import MathProg.Proofs.Parsing.Recovery

/-!
# The first error

At the first error nothing has been paid yet. All the readings that come of the one there is lose their
way at the same place and join, those that supply a token pay for it, and each way back that drops
nothing is known to lead nowhere. So whatever becomes of the error is paid for.
-/

namespace MathProg

open Automaton (State lost)
open Spot (Leads)

namespace Recovery

open Stack

variable {source : List Char} {closed : Nat → Prop} {m : Recovery} {v n k u : Nat} {p : Extent}
  {look : Leaf}

/-- A reading that has lost its way at `p`, before anything was paid. -/
structure Lapsed (closed : Nat → Prop) (p : Extent) (g : Stack) (f : Nat × Status) : Prop where
  active : f.2 = .active
  inner : g.Inner (.paid closed) f.1
  spot : g.spot f.1 = ⟨lost, p⟩
  cost : (g.vertex f.1).cost = 0

theorem Lapsed.extend {g g' : Stack} {f : Nat × Status} (h : Lapsed closed p g f)
    (he : Extends (.paid closed) g g') : Lapsed closed p g' f :=
  ⟨h.active, he.inner _ h.inner, (he.spot _ h.inner).trans h.spot, (he.cost _ h.inner).trans h.cost⟩

/-- Readings in a row: some have lost their way, some are still going, and some have paid. -/
structure Parted (source : List Char) (closed : Nat → Prop) (p : Extent)
    (gone going more : List (Nat × Status)) (g : Stack) : Prop where
  sound : g.Sound source (Terms.paid closed).loose
  readings : g.readings = gone ++ (going ++ more)
  gone : ∀ f ∈ gone, Lapsed closed p g f
  going : ∀ f ∈ going, g.Arrived (.free closed) p f
  more : ∀ f ∈ more, g.Arrived (.paid closed) p f

theorem Parted.grow {gone going more : List (Nat × Status)} {g g' : Stack}
    (h : Parted source closed p gone going more g)
    (hg : Grown source (.paid closed) p g.readings g g') :
    ∃ more', Parted source closed p gone going more' g' := by
  obtain ⟨hs, he, new, hnew, hall⟩ := hg
  have he' : Extends (.free closed) g g' := ⟨he.inner, he.spot, he.cost⟩
  refine ⟨more ++ new, hs, ?_, fun f hf => (h.gone f hf).extend he,
    fun f hf => (h.going f hf).extend he', ?_⟩
  · rw [hnew, h.readings, List.append_assoc, List.append_assoc]
  · exact List.forall_mem_append.mpr ⟨fun f hf => (h.more f hf).extend he, hall⟩

/-- The next reading loses its way. -/
theorem Parted.lose {gone going more : List (Nat × Status)} {f : Nat × Status} {g : Stack}
    (h : Parted source closed p gone (f :: going) more g) :
    ∃ f', Parted source closed p (gone ++ [f']) going more (g.push gone.length none lost) := by
  have hf : g.readings[gone.length]? = some f := by
    rw [h.readings, List.getElem?_append_right (Nat.le_refl _), Nat.sub_self]
    rfl
  have harr := h.going f List.mem_cons_self
  obtain ⟨htop, -⟩ := version_of_reading hf
  have hstate : g.state gone.length ≠ lost := by
    rw [state, top, htop]
    exact harr.asks.1
  have hcost : (g.top gone.length).cost + Option.elim none 0 Tree.cost = 0 := by
    rw [top, htop, harr.asks.2]
    rfl
  have hstands : g.Stands (Terms.paid closed).loose gone.length p :=
    ⟨f, hf, harr.active, harr.inner, trivial, harr.position⟩
  have hpush := h.sound.push hstands leads_lost trivial fun _ _ => ⟨rfl, hstate⟩
  obtain ⟨x, hx, hinner, hspot, hprice⟩ := hpush.top
  have he : Extends (.paid closed) g (g.push gone.length none lost) := hpush.ext.tight
  have he' : Extends (.free closed) g (g.push gone.length none lost) := ⟨he.inner, he.spot, he.cost⟩
  refine ⟨(x, .active), hpush.sound, ?_, ?_, fun f' hf' => ?_, fun f' hf' => ?_⟩
  · rw [hx, h.readings, List.set_append_right _ _ (Nat.le_refl _), Nat.sub_self, List.append_assoc]
    rfl
  · refine List.forall_mem_append.mpr ⟨fun f' hf' => (h.gone f' hf').extend he, ?_⟩
    exact List.forall_mem_singleton.mpr ⟨rfl, hinner, hspot, hprice.trans hcost⟩
  · exact (h.going f' (List.mem_cons_of_mem _ hf')).extend he'
  · exact (h.more f' hf').extend he

/-- One after the other the readings lose their way. -/
theorem loseWay_first {gone going more : List (Nat × Status)} (look : Leaf) (fuel : Nat)
    (supplied : Bool) (h : Parted source closed p gone going more m.stack) (hk : gone.length + going.length = k)
    (hfuel : going.length < fuel) :
    ∃ g' gone' more', loseWay 0 1 k look fuel gone.length supplied m = { m with stack := g' } ∧
      Parted source closed p gone' [] more' g' ∧ gone'.length = k := by
  induction going generalizing m gone more fuel supplied with
  | nil =>
    obtain ⟨fuel, rfl⟩ := Nat.exists_eq_succ_of_ne_zero (Nat.ne_of_gt hfuel)
    refine ⟨m.stack, gone, more, ?_, h, hk⟩
    rw [List.length_nil, Nat.add_zero] at hk
    rw [loseWay, if_pos (Nat.le_of_eq hk.symm)]
  | cons f going ih =>
    obtain ⟨fuel, rfl⟩ := Nat.exists_eq_succ_of_ne_zero (Nat.ne_of_gt (Nat.zero_lt_of_lt hfuel))
    rw [List.length_cons] at hk hfuel
    have hf : m.stack.readings[gone.length]? = some f := by
      rw [h.readings, List.getElem?_append_right (Nat.le_refl _), Nat.sub_self]
      rfl
    have harr := h.going f List.mem_cons_self
    have hstands : m.stack.Stands (Terms.paid closed).loose gone.length p :=
      ⟨f, hf, harr.active, harr.inner, trivial, harr.position⟩
    obtain ⟨b, g, heq, hg⟩ :=
      supplyOnce_spec (T := (Terms.paid closed).loose) look supplied h.sound hstands
    obtain ⟨more', hparted⟩ := h.grow hg
    obtain ⟨f', hlost⟩ := hparted.lose
    have hnext : (if (gone.length == 0) = true then 1 else gone.length + 1) =
        (gone ++ [f']).length := by
      rw [List.length_append, List.length_singleton]
      split
      · rename_i hzero
        rw [beq_iff_eq.mp hzero]
      · rfl
    have hlt : ¬ gone.length ≥ k := by omega
    rw [loseWay, if_neg hlt, heq]
    dsimp only
    rw [hnext]
    refine ih (m := { m with stack := g.push gone.length none lost }) _ _ hlost ?_ (by omega)
    rw [List.length_append, List.length_singleton]
    omega

theorem isActive_of_reading {g : Stack} {f : Nat × Status} (h : g.readings[v]? = some f)
    (hf : f.2 = .active) : g.isActive v = true := by
  obtain ⟨-, hst⟩ := version_of_reading h
  rw [Stack.isActive, hst, hf]
  rfl

/-- Two readings that have lost their way at the same place have met. -/
theorem merge_lapsed {g : Stack} {f f' : Nat × Status} {w : Nat} (hv : g.readings[v]? = some f)
    (hw : g.readings[w]? = some f') (hf : Lapsed closed p g f) (hf' : Lapsed closed p g f') :
    ∃ g', g.merge? v w = some g' := by
  have halike : alike (g.top v) (g.top w) = true := by
    rw [top, top, (version_of_reading hv).1, (version_of_reading hw).1, alike, hf.cost, hf'.cost]
    have hspot := hf.spot.trans hf'.spot.symm
    have hstate : (g.vertex f.1).state = (g.vertex f'.1).state := congrArg Spot.state hspot
    have hposition : (g.vertex f.1).position = (g.vertex f'.1).position :=
      congrArg Spot.position hspot
    rw [hstate, hposition]
    simp
  rw [merge?, canMerge, isActive_of_reading hv hf.active, isActive_of_reading hw hf'.active, halike]
  exact ⟨_, rfl⟩

/-- All readings that have lost their way become one. -/
theorem mergeAll_lapsed {f : Nat × Status} {gone more : List (Nat × Status)} {g : Stack}
    (is : List Nat) (h : Parted source closed p (f :: gone) [] more g) (hlen : is.length = gone.length) :
    Parted source closed p [f] [] more (is.foldl (fun g _ => (g.merge? 0 1).getD g) g) := by
  induction is generalizing g gone with
  | nil =>
    rw [List.eq_nil_of_length_eq_zero hlen.symm] at h
    exact h
  | cons i is ih =>
    obtain ⟨f', gone, rfl⟩ : ∃ f' gone', gone = f' :: gone' :=
      List.exists_cons_of_ne_nil fun hnil => by rw [hnil] at hlen; cases hlen
    have hzero : g.readings[0]? = some f := by rw [h.readings]; rfl
    have hone : g.readings[1]? = some f' := by rw [h.readings]; rfl
    obtain ⟨hf, hrest⟩ := List.forall_mem_cons.mp h.gone
    obtain ⟨hf', hgone⟩ := List.forall_mem_cons.mp hrest
    obtain ⟨g', hmerge⟩ := merge_lapsed hzero hone hf hf'
    obtain ⟨hs, he, hread⟩ := h.sound.merge hmerge
    have he' := he.tight
    rw [List.foldl_cons, hmerge, Option.getD_some]
    have hparted : Parted source closed p (f :: gone) [] more g' := by
      refine ⟨hs, ?_, ?_, fun f hf => absurd hf List.not_mem_nil,
        fun f hf => (h.more f hf).extend he'⟩
      · rw [hread, h.readings]
        rfl
      · exact List.forall_mem_cons.mpr ⟨hf.extend he', fun f hf => (hgone f hf).extend he'⟩
    exact ih hparted (Nat.succ.inj hlen)

/-- What is noted of a vertex on the way down. -/
def note (g : Stack) (ws : List Waypoint) (w : Walk) : Visit × List Waypoint :=
  if w.depth > maxDepth then (⟨false, true⟩, ws)
  else if knownWaypoint ws w.depth (g.vertex w.vertex).state then (⟨false, false⟩, ws)
  else (⟨false, false⟩,
    ws ++ [⟨(g.vertex w.vertex).position, w.depth, (g.vertex w.vertex).state⟩])

theorem recordWaypoints_eq {g : Stack} : g.recordWaypoints v =
    g.modify v fun r => { r with waypoints := some (g.walkFrom v (note g) (fun ws _ => ws) []) } := rfl

theorem note_report (g : Stack) (ws : List Waypoint) (w : Walk) : (note g ws w).1.report = false := by
  unfold note
  split
  · rfl
  · split <;> rfl

/-- One round notes the vertices in turn. -/
theorem stepWalks_notes {g : Stack} (walks kept added : List Walk) (ws : List Waypoint) :
    (g.stepWalks (note g) (fun ws _ => ws) walks kept added ws).2 =
      walks.foldl (fun ws w => (note g ws w).2) ws := by
  induction walks generalizing kept added ws with
  | nil => rfl
  | cons w walks ih =>
    rw [stepWalks, List.foldl_cons]
    dsimp only
    rw [note_report, if_neg Bool.false_ne_true]
    split
    · exact ih _ _ _
    · split
      · exact ih _ _ _
      · exact ih _ _ _

/-- Waypoints of a reading that has just lost its way at `p`: those nearest to it are there as well, and
the states `K` are among them. -/
structure Noted (p : Extent) (K : State → Prop) (ws : List Waypoint) : Prop where
  shape : ∃ rest, ws = ⟨p, 0, lost⟩ :: rest ∧
    (∀ e ∈ rest, 1 ≤ e.depth ∧ (e.depth = 1 → e.position = p)) ∧
    ∀ s, K s → ∃ e ∈ rest, e.depth = 1 ∧ e.state = s

theorem Noted.known {K : State → Prop} {ws : List Waypoint} (h : Noted p K ws) (s : State) :
    knownWaypoint ws 1 s = true ↔ ∃ e ∈ ws, e.depth = 1 ∧ e.state = s := by
  obtain ⟨rest, rfl, hrest, -⟩ := h.shape
  have hall : ∀ e ∈ rest.reverse, (!decide (e.depth < 1)) = true := fun e he => by
    have := (hrest e (List.mem_reverse.mp he)).1
    simp; omega
  rw [knownWaypoint, List.reverse_cons, List.takeWhile_append_of_pos hall, List.any_append]
  simp

/-- A vertex at the place itself is noted, if its state is not among the waypoints yet. -/
theorem Noted.near {g : Stack} {K : State → Prop} {ws : List Waypoint} {w : Walk}
    (h : Noted p K ws) (hd : w.depth = 1) (hp : (g.vertex w.vertex).position = p) :
    Noted p (fun s => K s ∨ s = (g.vertex w.vertex).state) (note g ws w).2 := by
  have hknown := h.known (g.vertex w.vertex).state
  obtain ⟨rest, rfl, hrest, hK⟩ := h.shape
  rw [note, hd, if_neg (by decide)]
  split
  · rename_i hk
    obtain ⟨e, he, hde, hse⟩ := hknown.mp hk
    refine ⟨rest, rfl, hrest, ?_⟩
    rintro s (hs | rfl)
    · exact hK s hs
    · rcases List.mem_cons.mp he with rfl | he
      · cases hde
      · exact ⟨e, he, hde, hse⟩
  · refine ⟨rest ++ [_], rfl, ?_, ?_⟩
    · exact List.forall_mem_append.mpr ⟨hrest, List.forall_mem_singleton.mpr ⟨Nat.le_refl _, fun _ => hp⟩⟩
    · rintro s (hs | rfl)
      · obtain ⟨e, he, h⟩ := hK s hs
        exact ⟨e, List.mem_append_left _ he, h⟩
      · exact ⟨_, List.mem_append_right _ (List.mem_singleton_self _), rfl, rfl⟩

/-- A walk that has come further, or to a state that is known. -/
def Further (g : Stack) (K : State → Prop) (w : Walk) : Prop :=
  2 ≤ w.depth ∨ w.depth = 1 ∧ K (g.vertex w.vertex).state ∧ (g.vertex w.vertex).state ≠ lost

theorem Noted.further {g : Stack} {K : State → Prop} {ws : List Waypoint} {w : Walk}
    (h : Noted p K ws) (hw : Further g K w) : Noted p K (note g ws w).2 := by
  rw [note]
  split
  · exact h
  · split
    · exact h
    · rename_i hnew
      obtain ⟨rest, rfl, hrest, hK⟩ := h.shape
      rcases hw with hd | ⟨hd, hs, -⟩
      · refine ⟨rest ++ [_], rfl, ?_, fun s hs => ?_⟩
        · refine List.forall_mem_append.mpr ⟨hrest, List.forall_mem_singleton.mpr ⟨?_, fun hone => ?_⟩⟩
          · exact Nat.le_of_succ_le hd
          · exact absurd hd (by rw [show w.depth = 1 from hone]; decide)
        · obtain ⟨e, he, h⟩ := hK s hs
          exact ⟨e, List.mem_append_left _ he, h⟩
      · obtain ⟨e, he, h'⟩ := hK _ hs
        rw [hd] at hnew
        exact absurd ((h.known _).mpr ⟨e, List.mem_cons_of_mem _ he, h'⟩) hnew

/-- Extra trees do not change the state, so that a walk goes further or stays where states are known. -/
theorem further_down {g : Stack} {T : Terms} {K : State → Prop} (hw : g.Woven source T) :
    g.Downward fun w => g.Inner T w.vertex ∧ Further g K w := by
  rintro w ⟨hi, hw'⟩ l hl
  obtain ⟨hb, hlead, -, -⟩ := hw.links _ hi l hl
  refine ⟨hb, ?_⟩
  rcases hw' with hd | ⟨hd, hs, hgoing⟩
  · refine Or.inl ?_
    rw [Walk.down]
    dsimp only
    split <;> omega
  · obtain ⟨-, t, ht, -, hstep⟩ := hlead.taken hgoing
    rw [Walk.down, Further]
    dsimp only
    rw [ht, Option.any_some, hd]
    split
    · rename_i he
      rw [if_pos he] at hstep
      have hsame : (g.vertex l.below).state = (g.vertex w.vertex).state := hstep.symm
      rw [hsame]
      exact Or.inr ⟨rfl, hs, hgoing⟩
    · exact Or.inl (Nat.le_refl 2)

/-- The walks that are nearest are noted in turn. -/
theorem Noted.nearest {g : Stack} {K : State → Prop} {ws : List Waypoint} {walks : List Walk}
    (h : Noted p K ws) (hnear : ∀ w ∈ walks, w.depth = 1 ∧ (g.vertex w.vertex).position = p) :
    Noted p (fun s => K s ∨ ∃ w ∈ walks, s = (g.vertex w.vertex).state)
      (walks.foldl (fun ws w => (note g ws w).2) ws) := by
  induction walks generalizing ws K with
  | nil =>
    obtain ⟨rest, rfl, hrest, hK⟩ := h.shape
    refine ⟨rest, rfl, hrest, ?_⟩
    rintro s (hs | ⟨w, hw, -⟩)
    · exact hK s hs
    · exact absurd hw List.not_mem_nil
  | cons w walks ih =>
    obtain ⟨⟨hd, hp⟩, hnear⟩ := List.forall_mem_cons.mp hnear
    obtain ⟨rest, heq, hrest, hK⟩ := (ih (h.near hd hp) hnear).shape
    refine ⟨rest, heq, hrest, ?_⟩
    rintro s (hs | ⟨w', hw', rfl⟩)
    · exact hK s (Or.inl (Or.inl hs))
    · rcases List.mem_cons.mp hw' with rfl | hw'
      · exact hK _ (Or.inl (Or.inr rfl))
      · exact hK _ (Or.inr ⟨w', hw', rfl⟩)

/-- From the nearest vertices on only what is further down is noted. -/
theorem Noted.walk {g : Stack} {K : State → Prop} {ws : List Waypoint} {walks : List Walk} {fuel : Nat}
    (hw : g.Woven source (.paid closed)) (h : Noted p K ws)
    (hnear : ∀ w ∈ walks, w.depth = 1 ∧ g.Inner (.paid closed) w.vertex ∧
      (g.vertex w.vertex).position = p ∧ (g.vertex w.vertex).state ≠ lost) :
    ∃ K', Noted p K' (g.walk (note g) (fun ws _ => ws) fuel walks ws) := by
  cases fuel with
  | zero => exact ⟨K, h⟩
  | succ fuel =>
    rw [Stack.walk]
    split
    · exact ⟨K, h⟩
    · have hround := h.nearest fun w hw => ⟨(hnear w hw).1, (hnear w hw).2.2.1⟩
      rw [← stepWalks_notes walks [] []] at hround
      generalize hK : (fun s => K s ∨ ∃ w ∈ walks, s = (g.vertex w.vertex).state) = K' at hround
      have hcollect : Collects (fun w => g.Inner (.paid closed) w.vertex ∧ Further g K' w)
          (Noted p K') (note g) fun ws _ => ws := fun ws w hws hw =>
        ⟨hws.further hw.2, fun _ => hws.further hw.2⟩
      have hfurther : ∀ w ∈ walks, g.Inner (.paid closed) w.vertex ∧ Further g K' w := by
        intro w hw
        obtain ⟨hd, hinner, -, hgoing⟩ := hnear w hw
        exact ⟨hinner, Or.inr ⟨hd, hK ▸ Or.inr ⟨w, hw, rfl⟩, hgoing⟩⟩
      have hnone : ∀ w ∈ ([] : List Walk), g.Inner (.paid closed) w.vertex ∧ Further g K' w :=
        fun w hw => absurd hw List.not_mem_nil
      refine ⟨K', walk_spec (further_down hw) hcollect ?_ hround⟩
      exact (stepWalks_spec (S := fun _ => True) (further_down hw)
        (fun _ _ _ _ => ⟨trivial, fun _ => trivial⟩) hfurther hnone hnone trivial).1

/-- A reading that has just lost its way has its waypoints where it stands, or further down. -/
theorem notes_lapsed {g : Stack} {f : Nat × Status} (hw : g.Woven source (.paid closed))
    (hv : g.readings[v]? = some f) (hf : Lapsed closed p g f) :
    ∃ K, Noted p K (g.walkFrom v (note g) (fun ws _ => ws) []) := by
  obtain ⟨htop, -⟩ := version_of_reading hv
  have hstate : (g.vertex f.1).state = lost := congrArg Spot.state hf.spot
  have hposition : (g.vertex f.1).position = p := congrArg Spot.position hf.spot
  have hfirst : (note g [] ⟨f.1, [], 0⟩) = (⟨false, false⟩, [⟨p, 0, lost⟩]) := by
    rw [note, if_neg (Nat.not_lt_zero _), hstate, hposition]
    rfl
  have hnoted : Noted p (fun _ => False) [⟨p, 0, lost⟩] :=
    ⟨[], rfl, fun e he => absurd he List.not_mem_nil, fun s hs => hs.elim⟩
  -- below the place where the way was lost nothing is lost yet
  have hbelow : ∀ l ∈ (g.vertex f.1).links, (Walk.down ⟨f.1, [], 0⟩ l).depth = 1 ∧
      g.Inner (.paid closed) l.below ∧ (g.vertex l.below).position = p ∧
      (g.vertex l.below).state ≠ lost := by
    intro l hl
    obtain ⟨hinner, hlead, -, hfree⟩ := hw.links _ hf.inner l hl
    obtain ⟨hnone, hgoing⟩ := hfree (congrArg Spot.state hf.spot) hf.cost
    have hreach := hlead.reach
    rw [hnone, hf.spot] at hreach
    exact ⟨by rw [Walk.down, hnone]; rfl, hinner, (hreach.trans (Extent.add_zero _)).symm, hgoing⟩
  rw [walkFrom, htop, Stack.walk]
  dsimp only [List.isEmpty_cons]
  rw [if_neg Bool.false_ne_true]
  have hround : ∀ w ∈ (g.stepWalks (note g) (fun ws _ => ws) [⟨f.1, [], 0⟩] [] [] []).1,
      ∃ l ∈ (g.vertex f.1).links, w = Walk.down ⟨f.1, [], 0⟩ l := by
    intro w hmem
    rw [stepWalks, hfirst] at hmem
    dsimp only at hmem
    split at hmem
    · exact absurd hmem List.not_mem_nil
    · rename_i first others hlinks
      rw [hlinks]
      rw [if_neg Bool.false_ne_true, stepWalks] at hmem
      rcases List.mem_cons.mp hmem with rfl | hmem
      · exact ⟨first, List.mem_cons_self, rfl⟩
      · obtain ⟨l, hl, rfl⟩ := List.mem_map.mp hmem
        exact ⟨l, List.mem_cons_of_mem _ (List.mem_of_mem_take hl), rfl⟩
  have hnotes := stepWalks_notes (g := g) [⟨f.1, [], 0⟩] [] [] []
  rw [List.foldl_cons, hfirst, List.foldl_nil] at hnotes
  rw [hnotes]
  refine hnoted.walk hw fun w hmem => ?_
  obtain ⟨l, hl, rfl⟩ := hround w hmem
  exact hbelow l hl

/-- What was noted leaves no way back for nothing. -/
theorem Noted.wary {g : Stack} {f : Nat × Status} {K : State → Prop} {ws : List Waypoint}
    (h : Noted p K ws) (hv : g.readings[v]? = some f) (hf : Lapsed closed p g f) : Wary g v ws := by
  obtain ⟨htop, -⟩ := version_of_reading hv
  refine Or.inr ⟨?_, fun w hw => ?_⟩
  · rw [state, top, htop]
    exact congrArg Spot.state hf.spot
  · obtain ⟨rest, rfl, hrest, -⟩ := h.shape
    rcases List.mem_cons.mp hw with rfl | hw
    · exact Or.inl rfl
    · obtain ⟨hone, hplace⟩ := hrest w hw
      rcases Nat.lt_or_ge w.depth 2 with hlt | hge
      · refine Or.inr (Or.inl ?_)
        rw [hplace (by omega), position, top, htop]
        exact congrArg (fun s => Extent.bytes (Spot.position s)) hf.spot.symm
      · exact Or.inr (Or.inr hge)

/-- A parse that has one reading pays for its error. -/
theorem firstError_spec {x : Nat} (hm : m.Sound source (Terms.paid closed).loose)
    (hone : m.stack.readings = [(x, .active)]) (hp : (m.stack.spot x).position = p)
    (hgoing : (m.stack.spot x).state ≠ lost) (hlook : look.IsNext source p.chars) :
    Settled source 0 (m.handleError 0 look) := by
  have hinner : m.stack.Inner (.paid closed) x :=
    (hm.stack.held (x, .active) (by rw [hone]; exact List.mem_singleton_self _) rfl).inner
  have hread : m.stack.readings[0]? = some (x, .active) := by rw [hone]; rfl
  have hsize : m.stack.size = 1 := by rw [← readings_length, hone]; rfl
  rcases Nat.eq_zero_or_pos (m.stack.vertex x).cost with hzero | hpos
  · have hstands : m.stack.Stands (.free closed) 0 p := ⟨_, hread, rfl, hinner, ⟨hgoing, hzero⟩, hp⟩
    obtain ⟨b, g₁, heq₁, hc₁⟩ := reduceAll_spec (T := .free closed) (t := Symbol.endOfText)
      reductionFuel 0 false (Stands.crowd hm.stack hstands) (Nat.le_refl _) (Or.inl rfl) (Or.inl rfl)
    have hall : m.allReductions 0 Symbol.endOfText = (b, { m with stack := g₁ }) := heq₁
    have hbound := hc₁.bound
    rw [hsize] at hc₁ hbound
    -- before the first reading loses its way, none has paid
    have hparted : Parted source closed p [] g₁.readings [] g₁ := by
      refine ⟨hc₁.sound, by rw [List.append_nil]; rfl, fun f hf => absurd hf List.not_mem_nil,
        fun f hf => ?_, fun f hf => absurd hf List.not_mem_nil⟩
      obtain ⟨i, hi⟩ := List.mem_iff_getElem?.mp hf
      exact hc₁.here i f hi (by omega)
    rw [handleError, hall, hsize]
    dsimp only
    obtain ⟨g₂, gone, more, heq₂, hparted₂, hlen⟩ := loseWay_first (m := { m with stack := g₁ })
      (k := g₁.size) look (g₁.size + 1) false hparted (by rw [readings_length]; exact Nat.zero_add _)
      (by rw [readings_length]; exact Nat.lt_succ_self _)
    rw [List.length_nil] at heq₂
    rw [heq₂]
    dsimp only
    obtain ⟨f, gone, rfl⟩ := List.exists_cons_of_ne_nil (l := gone) fun hnil => by
      rw [hnil, List.length_nil] at hlen
      omega
    rw [List.length_cons] at hlen
    have hparted₃ := mergeAll_lapsed (List.range (g₁.size - 1)) hparted₂
      (by rw [List.length_range]; omega)
    generalize (List.range (g₁.size - 1)).foldl _ g₂ = g₃ at hparted₃ ⊢
    have hread₃ : g₃.readings[0]? = some f := by rw [hparted₃.readings]; rfl
    have hf := hparted₃.gone f (List.mem_singleton_self _)
    have hun : Unmoved g₃ (g₃.recordWaypoints 0) := recordWaypoints_unmoved
    obtain ⟨K, hnoted⟩ := notes_lapsed (hparted₃.sound.woven.terms rfl) hread₃ hf
    have hwary := hnoted.wary hread₃ hf
    have hstands₃ : g₃.Stands (Terms.paid closed).loose 0 p :=
      ⟨f, hread₃, hf.active, hf.inner, trivial, congrArg Spot.position hf.spot⟩
    obtain ⟨hspot, hcost⟩ := same_of_extends hstands₃ hun.extends (by rw [hun.readings])
    have hbut : g₃.SoundBut source (.paid closed) 0 := by
      refine ⟨hparted₃.sound, fun i f' hi hf' => ?_⟩
      rw [hparted₃.readings] at hf'
      cases i with
      | zero => exact absurd rfl hi
      | succ i => exact (hparted₃.more f' (List.mem_of_getElem? hf')).held
    refine recover_spec (hm.with_stack (hun.sound hparted₃.sound)) (hbut.unmoved hun)
      (hun.stands hstands₃).1 (fun ws hws => ?_) hlook
    · have hways : (Stack.version (g₃.recordWaypoints 0) 0).waypoints =
          some (g₃.walkFrom 0 (note g₃) (fun ws _ => ws) []) := by
        obtain ⟨r, hr⟩ : ∃ r, g₃.versions[0]? = some r :=
          ⟨_, List.getElem?_eq_getElem hstands₃.lt⟩
        rw [recordWaypoints_eq, version, Stack.modify, List.getElem?_modify, hr]
        rfl
      dsimp only at hws
      rw [hways] at hws
      cases hws
      exact hwary.same hspot hcost
  · -- something was paid before
    have hstands : m.stack.Stands (.paid closed) 0 p := ⟨_, hread, rfl, hinner, hpos, hp⟩
    refine handleError_spec ⟨hm.text, ?_, hm.known, hm.finished⟩ hstands hlook
    refine SoundBut.all (v := 0) ⟨hm.stack, fun i f hi hf => ?_⟩ fun f hf _ => ?_
    · rw [hone, List.getElem?_eq_none (by rw [List.length_singleton]; omega)] at hf
      cases hf
    · rw [hread] at hf
      cases hf
      exact ⟨hinner, hpos, fun _ hl => by cases hl⟩

end Recovery

end MathProg
