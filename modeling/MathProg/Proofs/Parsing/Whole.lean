import MathProg.Proofs.Parsing.FirstError
import MathProg.Proofs.Parsing.Termination

/-!
# Whole trees

The readings of a text go on in turn, and the better ones are kept, until one of them reaches the
end. Each tree that comes of it tiles the whole text, and one without errors is a derivation.
-/

namespace MathProg

open Automaton (State lost)
open Spot (Leads)

namespace Recovery

open Stack

variable {source : List Char} {T : Terms} {closed : Nat → Prop} {m : Recovery} {v n k u w : Nat}
  {p : Extent} {look : Leaf}

/-- The next token of a reading, be it read now or known from before. -/
theorem lookahead_spec (hm : m.Sound source T) (hv : m.stack.Stands T v p) :
    ∃ look m', m.lookahead v = (look, m') ∧ m'.Sound source T ∧ m'.stack = m.stack ∧
      look.IsNext source p.chars := by
  obtain ⟨x, hf, htop, hinner, hspot⟩ := hv.spot_eq
  have hpos : m.stack.position v = p := by
    rw [position, top, htop]
    exact congrArg Spot.position hspot
  have hplace : IsPlace source p := by
    have hp := hm.stack.woven.place x hinner
    rwa [hspot] at hp
  rw [lookahead]
  dsimp only
  split
  · rename_i k hk
    obtain ⟨hmem, huse⟩ := Option.filter_eq_some_iff.mp hk
    refine ⟨_, m, rfl, hm, rfl, ?_⟩
    obtain ⟨e, he, hbytes, hnext⟩ := hm.known k hmem
    rw [Bool.and_eq_true, beq_iff_eq, hpos, ← hbytes] at huse
    rw [← he.eq_of_bytes hplace huse.1]
    exact hnext
  · have hnext : ((Automaton.mode (m.stack.state v)).next ((m.stack.position v).bytes == 0)
        (m.source.drop (m.stack.position v).chars)).IsNext source p.chars := by
      rw [hpos, hm.text, hplace.atStart]
      exact Mode.next_isNext _ hplace.bound
    refine ⟨_, _, rfl, ⟨hm.text, hm.stack, ?_, hm.finished⟩, rfl, hnext⟩
    rintro k ⟨⟩
    exact ⟨p, hplace, by rw [hpos], hnext⟩

theorem readings_pause {g : Stack} {f : Nat × Status} (hf : g.readings[v]? = some f) :
    (g.pause v look).readings = g.readings.set v (f.1, .paused look) :=
  readings_modify hf fun r hr => by rw [← hr]

/-- A reading that waits keeps its place, and its token is next there. -/
theorem Sound.pause (hm : m.Sound source T) (hv : m.stack.Stands T v p)
    (hlook : look.IsNext source p.chars) :
    Sound source T { m with stack := m.stack.pause v look } := by
  obtain ⟨f, hf, harr⟩ := hv
  refine hm.with_stack (hm.stack.of_vertices rfl fun f' hf' => ?_)
  rw [readings_pause hf] at hf'
  rcases List.mem_or_eq_of_mem_set hf' with hmem | rfl
  · exact Or.inl hmem
  · refine Or.inr fun _ => ⟨harr.inner, harr.asks, ?_⟩
    rintro _ ⟨⟩
    rw [harr.position]
    exact hlook

/-- A reading that takes a token has paid as much as before. -/
theorem push_settled {t : Tree} {s : State} {q : Extent} (hm : m.Sound source (.paid closed))
    (hv : m.stack.Stands (.paid closed) v p)
    (hl : Leads source ⟨m.stack.state v, p⟩ (some t) ⟨s, q⟩) :
    Settled source v { m with stack := m.stack.push v (some t) s } := by
  have hpaid : 0 < (m.stack.top v).cost + t.cost :=
    Nat.lt_of_lt_of_le hv.asks (Nat.le_add_right _ _)
  have hpush := hm.stack.push hv hl hpaid fun _ hfree => absurd hfree (Nat.ne_of_gt hpaid)
  exact (hm.with_stack hpush.sound).settled (hpush.size.symm ▸ hv.lt)

theorem advanceWith_spec {fuel : Nat} (hm : m.Sound source (.paid closed))
    (hv : m.stack.Stands (.paid closed) v p) (hlook : look.IsNext source p.chars) :
    Settled source v (advanceWith v look fuel m) := by
  induction fuel generalizing m with
  | zero => exact hm.settled hv.lt
  | succ fuel ih =>
    rw [advanceWith]
    dsimp only
    cases ha : Automaton.action? (m.stack.state v) look.symbol with
    | none =>
      refine (hm.pause hv hlook).settled ?_
      obtain ⟨f, hf, -⟩ := hv
      rw [← readings_length, readings_pause hf, List.length_set]
      exact (List.getElem?_eq_some_iff.mp hf).1
    | some a =>
      obtain ⟨ht, ⟨hl, rfl⟩ | ⟨hl, ⟨hc, rfl⟩ | ⟨⟨hd, hend⟩, rfl⟩ | ⟨r, hr, rfl⟩ | ⟨u, hu, rfl⟩⟩⟩ :=
        Automaton.action_cases ha
      · have hs : m.Sound source (Terms.paid closed).loose := hm.with_stack hm.stack.loose
        exact recover_spec hs hm.stack.but hv.loose (fun _ _ => Or.inl hv.asks) hlook
      · exact push_settled hm hv (Spot.leads_token hlook ht hl (e := true) ⟨hc, rfl⟩)
      · refine accept_spec (hm.with_stack hm.stack.loose) hm.stack.but hv.loose
          fun ts n hpath hprice => ?_
        obtain ⟨t, hroot, hwhole, hcost⟩ := hpath.whole hd hlook hend
        exact ⟨t, hroot, hwhole, hcost ▸ hprice ▸ hv.asks⟩
      · obtain ⟨o, g, heq, hgrown, ho⟩ := reduce_spec hm.stack.loose hv hl hr
        dsimp only
        rw [heq]
        have hs := hgrown.tight hm.stack
        obtain ⟨hkeep, hle⟩ := hgrown.kept hv.lt
        have hvg := (hv.extend hgrown.ext hkeep).1
        cases o with
        | none => exact (hm.with_stack hs.halt).settled (size_halt.symm ▸ hvg.lt)
        | some w =>
          obtain ⟨hw, hwlt⟩ := ho w rfl
          obtain ⟨more, hmore, hall⟩ := hgrown.more
          have hcrowd : g.Crowd source (.paid closed) v m.stack.size p m.stack :=
            (Stands.crowd hm.stack.loose hv).append hgrown.sound hgrown.ext hmore hall
          have hreplace := hcrowd.replace (u := v) (Or.inl rfl) hw hwlt
          exact ih (hm.with_stack (hreplace.tight hm.stack))
            (hreplace.stands (Or.inl rfl) (Nat.lt_of_lt_of_le hv.lt hreplace.bound))
      · exact push_settled hm hv (Spot.leads_token hlook ht hl (e := false) hu)

theorem advance_spec (hm : m.Sound source (.paid closed)) (hv : m.stack.Stands (.paid closed) v p) :
    Settled source v (m.advance v) := by
  obtain ⟨look, m', heq, hm', hstack, hlook⟩ := lookahead_spec hm hv
  rw [advance, heq]
  exact advanceWith_spec hm' (hstack ▸ hv) hlook

theorem advanceUntil_spec (fuel furthest : Nat) (hm : Settled source v m) :
    ∃ furthest' m', advanceUntil v fuel furthest m = (furthest', m') ∧ Settled source v m' := by
  induction fuel generalizing m furthest with
  | zero => exact ⟨furthest, m, rfl, hm⟩
  | succ fuel ih =>
    rw [advanceUntil]
    split
    · rename_i hactive
      obtain ⟨⟨closed, hs⟩, hlt⟩ := hm
      have hadv := advance_spec hs (hs.stack.stands hlt hactive)
      dsimp only
      split
      · exact ⟨_, _, rfl, hadv⟩
      · exact ih _ hadv
    · exact ⟨furthest, m, rfl, hm⟩

/-- A parse that is sound and in which all readings have paid something, whatever was set aside. -/
def Good (source : List Char) (m : Recovery) : Prop := ∃ closed, m.Sound source (.paid closed)

theorem advanceAll_spec (fuel furthest : Nat) (hm : Good source m) :
    ∃ furthest' m', advanceAll fuel v furthest m = (furthest', m') ∧ Good source m' := by
  induction fuel generalizing m v furthest with
  | zero => exact ⟨furthest, m, rfl, hm⟩
  | succ fuel ih =>
    rw [advanceAll]
    split
    · exact ⟨furthest, m, rfl, hm⟩
    · rename_i hlt
      obtain ⟨furthest', m', heq, hm', -⟩ :=
        advanceUntil_spec (1000 * (m.source.length + 10)) furthest ⟨hm, Nat.lt_of_not_le hlt⟩
      rw [heq]
      exact ih _ hm'

theorem sound_swap {g : Stack} {i j : Nat} (hs : g.Sound source T) (hi : i < g.size)
    (hj : j < g.size) : (g.swap i j).Sound source T := by
  have hmem : ∀ u < g.size, ((g.version u).top, (g.version u).status) ∈ g.readings := fun u hu =>
    List.mem_of_getElem? (reading_of_lt hu)
  refine hs.of_vertices rfl fun f hf => ?_
  obtain ⟨r, hr, rfl⟩ := List.mem_map.mp hf
  rcases List.mem_or_eq_of_mem_set hr with hr | rfl
  · rcases List.mem_or_eq_of_mem_set hr with hr | rfl
    · exact Or.inl (List.mem_map_of_mem hr)
    · exact Or.inl (hmem j hj)
  · exact Or.inl (hmem i hi)

theorem rankAgainst_sound {s : Standing} {fuel i j : Nat} {g : Stack} (hs : g.Sound source T)
    (hi : i < g.size) : (rankAgainst s fuel i j g).2.Sound source T := by
  induction fuel generalizing i j g with
  | zero => exact hs
  | succ fuel ih =>
    rw [rankAgainst]
    split
    · exact hs
    · rename_i hj
      have hun : Unmoved g (g.standing j).2 := unmoved_standing
      have hs' := hun.sound hs
      have hi' : i < (g.standing j).2.size := hun.size.symm ▸ hi
      dsimp only
      generalize (g.standing j).2 = g' at hs' hi' ⊢
      split
      · exact hs'.remove
      · split
        · rename_i hmerge
          exact (hs'.merge hmerge).1
        · exact ih hs' hi'
      · split
        · rename_i hmerge
          exact (hs'.merge hmerge).1
        · exact ih hs' hi'
      · split
        · rename_i hmerge
          exact (hs'.merge hmerge).1
        · refine ih (sound_swap hs' hi' (by omega)) ?_
          rw [size, Stack.swap, List.length_set, List.length_set]
          exact hi'
      · refine ih hs'.remove ?_
        rw [← readings_length, readings_remove, List.length_eraseIdx, readings_length]
        split <;> omega

theorem rank_sound (fuel i : Nat) (least : Option Nat) {g : Stack} (hs : g.Sound source T) :
    (rank fuel i least g).2.Sound source T := by
  induction fuel generalizing i least g with
  | zero => exact hs
  | succ fuel ih =>
    rw [rank]
    split
    · exact hs
    · rename_i hi
      split
      · exact ih _ _ hs.remove
      · have hun : Unmoved g (g.standing i).2 := unmoved_standing
        have hs' := hun.sound hs
        have hi' : i < (g.standing i).2.size := hun.size.symm ▸ Nat.lt_of_not_le hi
        dsimp only
        generalize (g.standing i).1 = s
        generalize (g.standing i).2 = g' at hs' hi' ⊢
        exact ih _ _ (rankAgainst_sound hs' hi')

theorem readings_resume {g : Stack} {f : Nat × Status} (hf : g.readings[v]? = some f) :
    (g.resume v).readings = g.readings.set v (f.1, .active) :=
  readings_modify hf fun r hr => by rw [← hr]

theorem lt_of_paused {g : Stack} (hv : (g.version v).status = .paused look) : v < g.size := by
  by_contra hge
  have hnone : g.versions[v]? = none := List.getElem?_eq_none (Nat.le_of_not_lt hge)
  rw [version, hnone] at hv
  cases hv

/-- A waiting reading that goes on stands where its token is next. -/
theorem resume_stands {g : Stack} (hs : g.Sound source T)
    (hv : (g.version v).status = .paused look) :
    (g.resume v).Sound source T ∧
      ∃ p, (g.resume v).Stands T v p ∧ look.IsNext source p.chars := by
  have hf := reading_of_lt (lt_of_paused hv)
  have hheld := hs.held _ (List.mem_of_getElem? hf)
  rw [hv] at hf hheld
  obtain ⟨hinner, hasks, hlook⟩ := hheld rfl
  have hread := readings_resume hf
  refine ⟨hs.of_vertices rfl fun f hf' => ?_, (g.spot (g.version v).top).position,
    ⟨((g.version v).top, .active), ?_, rfl, hinner, hasks, rfl⟩, hlook look rfl⟩
  · rw [hread] at hf'
    rcases List.mem_or_eq_of_mem_set hf' with hmem | rfl
    · exact Or.inl hmem
    · exact Or.inr fun _ => ⟨hinner, hasks, fun _ hl => by cases hl⟩
  · rw [hread, List.getElem?_set, if_pos rfl, if_pos (List.getElem?_eq_some_iff.mp hf).1]

theorem resumeFirst_good {fuel i j : Nat} {going : Bool} {least : Option Nat} (hm : Good source m) :
    Good source (resumeFirst fuel i j going least m).2 := by
  induction fuel generalizing m i j going least with
  | zero => exact hm
  | succ fuel ih =>
    obtain ⟨closed, hs⟩ := hm
    rw [resumeFirst]
    split
    · exact ⟨closed, hs⟩
    · split
      · rename_i look hpaused
        split
        · obtain ⟨hs', p, hstands, hlook⟩ := resume_stands hs.stack hpaused
          exact ih (handleError_spec (hs.with_stack hs') hstands hlook).1
        · exact ih ⟨closed, hs.with_stack hs.stack.remove⟩
      · exact ih ⟨closed, hs⟩

theorem condense_good (hm : Good source m) : Good source m.condense.2 := by
  obtain ⟨closed, hs⟩ := hm
  have hrank := rank_sound (2 * m.stack.size + 2) 0 none hs.stack
  refine resumeFirst_good ⟨closed, hs.with_stack (hrank.of_vertices rfl fun f hf => Or.inl ?_)⟩
  obtain ⟨r, hr, rfl⟩ := List.mem_map.mp hf
  exact List.mem_map_of_mem (List.mem_of_mem_take hr)

/-- Every tree that recovery ends with is a whole one, and has errors. -/
theorem loop_whole {fuel furthest : Nat} {t : Tree} (hm : Good source m.condense.2)
    (h : loop fuel furthest m = some t) : t.Whole source ∧ 0 < t.cost := by
  induction fuel generalizing m furthest with
  | zero => cases h
  | succ fuel ih =>
    rw [loop] at h
    generalize m.condense = condensed at hm h
    obtain ⟨least, m'⟩ := condensed
    dsimp only at hm h
    split at h
    · obtain ⟨closed, hs⟩ := hm
      exact hs.finished t h
    · split at h
      · obtain ⟨closed, hs⟩ := hm
        exact hs.finished t h
      · obtain ⟨furthest', m'', heq, hm''⟩ := advanceAll_spec
          (maxVersions * 100 + m'.stack.size) furthest (v := 0) hm
        rw [heq] at h
        exact ih (condense_good hm'') h

theorem initial_sound : Stack.initial.Sound source (Terms.paid fun _ => False).loose := by
  have hzero : ∀ i, Stack.initial.Inner (Terms.paid fun _ => False).loose i → i = 0 := by
    intro i hi
    exact Nat.lt_one_iff.mp hi.1
  refine ⟨⟨⟨Nat.one_pos, fun h => h⟩, fun _ h => h.elim, fun i hi => ?_, ⟨rfl, rfl⟩,
    fun i hi _ => hzero i hi, fun i hi l hl => ?_⟩, fun f hf => ?_⟩
  · rw [hzero i hi]
    exact .zero
  · rw [hzero i hi] at hl
    cases hl
  · rw [List.mem_singleton.mp hf]
    exact fun _ => ⟨⟨Nat.one_pos, fun h => h⟩, trivial, fun _ hl => by cases hl⟩

/-- The frames of a parser that stopped become the one reading there is. -/
theorem ofFrames {fs : List Straight.Frame} (h : Straight.Stacked source fs p)
    (hgoing : Straight.stateOf fs ≠ lost) :
    let g := fs.foldr (fun f g => g.push 0 (some f.tree) f.state) Stack.initial
    g.Sound source (Terms.paid fun _ => False).loose ∧
      ∃ x, g.readings = [(x, .active)] ∧ g.Inner (.paid fun _ => False) x ∧
        g.spot x = ⟨Straight.stateOf fs, p⟩ := by
  induction h with
  | empty => exact ⟨initial_sound, 0, rfl, ⟨Nat.one_pos, fun h => h⟩, rfl⟩
  | @push fs p q f _ hf ih =>
    obtain ⟨hbelow, -⟩ := hf.taken hgoing
    obtain ⟨hs, x, hone, hinner, hspot⟩ := ih hbelow
    dsimp only [List.foldr_cons] at hs hone hinner hspot ⊢
    generalize fs.foldr _ Stack.initial = g at hs hone hinner hspot ⊢
    have hzero : g.readings[0]? = some (x, .active) := by rw [hone]; rfl
    obtain ⟨htop, -⟩ := version_of_reading hzero
    have hstate : g.state 0 = Straight.stateOf fs := by
      rw [state, top, htop]
      exact congrArg Spot.state hspot
    have hpush := hs.push (s := f.state) ⟨_, hzero, rfl, hinner, trivial, congrArg Spot.position hspot⟩
      (hstate ▸ hf) trivial fun hl => absurd hl hgoing
    obtain ⟨y, hy, hinner', hspot', -⟩ := hpush.top
    rw [hone] at hy
    exact ⟨hpush.sound, y, hy, hinner', hspot'⟩

/-- The one reading that waits goes on, and pays for the error. -/
theorem condense_first {x : Nat} (hm : m.Sound source (Terms.paid closed).loose)
    (hone : m.stack.readings = [(x, .paused look)]) (hgoing : (m.stack.spot x).state ≠ lost)
    (hfinished : m.finishedCount = 0) : Good source m.condense.2 := by
  have hsize : m.stack.size = 1 := by rw [← readings_length, hone]; rfl
  -- nothing is dropped or joined
  have hrank : Unmoved m.stack (rank (2 * m.stack.size + 2) 0 none m.stack).2 := by
    have hun : Unmoved m.stack (m.stack.standing 0).2 := unmoved_standing
    have hlive : m.stack.isHalted 0 = false := by
      rw [isHalted, (version_of_reading (v := 0) (by rw [hone]; rfl)).2]
      rfl
    have hless : ¬ 0 ≥ m.stack.size := by rw [hsize]; decide
    rw [hsize, rank, if_neg hless, hlive, if_neg Bool.false_ne_true]
    dsimp only
    have hagainst : ∀ s fuel (g : Stack), rankAgainst s (fuel + 1) 0 0 g = (0, g) := fun s fuel g => by
      rw [rankAgainst, if_pos (Nat.le_refl 0)]
    have hmore : 0 + 1 ≥ (m.stack.standing 0).2.size := by rw [hun.size, hsize]
    rw [hagainst]
    dsimp only
    rw [rank, if_pos hmore]
    exact hun
  rw [condense]
  dsimp only
  generalize (rank (2 * m.stack.size + 2) 0 none m.stack).2 = g at hrank ⊢
  have hg : g.size = 1 := hrank.size.trans hsize
  have htake : g.versions.take maxVersions = g.versions :=
    List.take_of_length_le (Nat.le_trans (Nat.le_of_eq hg) (by decide))
  have hread : g.readings[0]? = some (x, .paused look) := by rw [hrank.readings, hone]; rfl
  obtain ⟨-, hpaused⟩ := version_of_reading hread
  rw [htake]
  change Good source (resumeFirst (g.size + 1) 0 g.size false _ { m with stack := g }).2
  rw [hg, resumeFirst, if_neg (by decide)]
  dsimp only
  rw [hpaused]
  dsimp only
  rw [if_pos (by rw [hfinished]; decide)]
  have hs := hrank.sound hm.stack
  have hresume := readings_resume hread
  rw [hrank.readings, hone] at hresume
  have hspot : (g.resume 0).spot x = m.stack.spot x := by
    rw [spot, spot, vertex, vertex, ← hrank.vertices]
    rfl
  have hresumed : Sound source (Terms.paid closed).loose { m with stack := g.resume 0 } :=
    hm.with_stack (resume_stands hs hpaused).1
  have hlook : look.IsNext source (m.stack.spot x).position.chars :=
    (hm.stack.held (x, .paused look) (by rw [hone]; exact List.mem_singleton_self _) rfl).next look rfl
  have hgood := (firstError_spec hresumed hresume (congrArg Spot.position hspot)
    (congrArg Spot.state hspot ▸ hgoing) hlook).1
  exact resumeFirst_good hgood

theorem condense_ofStopped {fs : List Straight.Frame} {look : Straight.Lookahead}
    (h : Straight.Stacked source fs p) (hgoing : Straight.stateOf fs ≠ lost)
    (hlook : look.leaf.IsNext source p.chars) :
    Good source (ofStopped source fs look).condense.2 := by
  obtain ⟨hs, x, hone, hinner, hspot⟩ := ofFrames h hgoing
  unfold ofStopped
  dsimp only at hs hone hinner hspot ⊢
  generalize fs.foldr _ Stack.initial = g at hs hone hinner hspot ⊢
  have hzero : g.readings[0]? = some (x, .active) := by rw [hone]; rfl
  have hstands : g.Stands (Terms.paid fun _ => False).loose 0 p :=
    ⟨_, hzero, rfl, hinner, trivial, congrArg Spot.position hspot⟩
  have hpos : g.position 0 = p := by
    rw [position, top, (version_of_reading hzero).1]
    exact congrArg Spot.position hspot
  have hknown : Sound source (Terms.paid fun _ => False).loose
      ⟨source, g, some ⟨look.leaf, (g.position 0).bytes, look.readIn⟩, none, 0⟩ := by
    refine ⟨rfl, hs, ?_, fun _ ht => absurd ht (Option.not_mem_none _)⟩
    rintro k ⟨⟩
    exact ⟨p, h.isPlace, by rw [hpos], hlook⟩
  have hread : (g.pause 0 look.leaf).readings = g.readings.set 0 (x, .paused look.leaf) :=
    readings_pause hzero
  rw [hone] at hread
  refine condense_first (hknown.pause hstands hlook) hread ?_ rfl
  change (g.spot x).state ≠ lost
  rw [hspot]
  exact hgoing

end Recovery

/-- A text that cannot be read straight has a whole tree, if it has one, and that has errors. -/
theorem run_ofStopped {source : List Char} {fs : List Straight.Frame} {p : Extent}
    {look : Straight.Lookahead} {t : Tree}
    (hs : Straight.parse source = some (.stopped fs p look))
    (h : (Recovery.ofStopped source fs look).run = some t) : t.Whole source ∧ 0 < t.cost := by
  obtain ⟨hstacked, hlook⟩ := Straight.parse_sound hs
  exact Recovery.loop_whole
    (Recovery.condense_ofStopped hstacked (Straight.parse_stopped hs) hlook) h

/-- Every text that has a tree has a whole one. -/
theorem parse_whole {source : List Char} {t : Tree} (h : parse source = some t) :
    t.Whole source := by
  unfold parse at h
  split at h
  · rename_i tree hs
    cases h
    exact Straight.parse_sound hs
  · rename_i frames p look hs
    exact (run_ofStopped hs h).1
  · cases h

theorem Tree.hasError_eq_false {t : Tree} : t.hasError = false ↔ t.cost = 0 := by
  rw [Tree.hasError]
  simp

/-- A text has a tree without errors only if it can be read straight. -/
theorem parse_eq_accepted {source : List Char} {t : Tree} (h : parse source = some t)
    (he : t.hasError = false) : Straight.parse source = some (.accepted t) := by
  unfold parse at h
  split at h
  · rename_i tree hs
    cases h
    exact hs
  · rename_i frames p look hs
    exact absurd (Tree.hasError_eq_false.mp he) (Nat.ne_of_gt (run_ofStopped hs h).2)
  · cases h

/-- A tree without errors is a derivation of the grammar, and its text a sentence. -/
theorem derivation_of_parse {source : List Char} {t : Tree} (h : parse source = some t)
    (he : t.hasError = false) : IsDerivation source t ∧ IsSentence source := by
  have hd := (parse_whole h).derivation (Tree.hasError_eq_false.mp he)
  exact ⟨hd, hd.isSentence⟩

theorem derivation_of_parse_declarations :
    ∃ t, parse "set S;param a{i in S},>=0;".toList = some t ∧ t.hasError = false ∧
      IsDerivation "set S;param a{i in S},>=0;".toList t ∧
      IsSentence "set S;param a{i in S},>=0;".toList := by
  have h : (parse "set S;param a{i in S},>=0;".toList).any (!·.hasError) = true := by
    decide +kernel
  obtain ⟨t, ht, he⟩ := (Option.any_eq_true _ _).mp h
  have he : t.hasError = false := by simpa using he
  exact ⟨t, ht, he, derivation_of_parse ht he⟩

end MathProg
