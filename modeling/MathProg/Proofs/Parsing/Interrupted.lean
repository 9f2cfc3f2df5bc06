import MathProg.Proofs.Parsing.Interruption

/-!
# Trees with a comment among them

A comment between two leaves stands in the outermost list of trees in which one of the leaves ends a tree and
the other one begins the next. Whatever the automaton makes without the comment it makes with it, as a comment
counts nowhere.
-/

namespace MathProg

open Automaton (State start mode)
open Straight (blockLeaf)

namespace Tree

open Straight (behindFirst)

variable {s r : State} {x : Symbol} {c : Leaf} {p d : Extent} {whole : Bool} {t : Tree}
  {ts ts' us vs cs cs' : List Tree} {ks ms : List (State × Leaf)}

/-- A leaf put among the trees of a list at the distance `d`, or among those of a node there. At the ends of
the list it may stand only in a whole text. What it is put before stands behind the gap `p`. -/
inductive Interrupted (c : Leaf) (p : Extent) : Bool → Extent → List Tree → List Tree → Prop
  | among {whole : Bool} (us vs : List Tree) (h : whole = true ∨ us ≠ [] ∧ vs ≠ [])
      (hp : vs ≠ [] → paddingFirst vs = c.padding + p) :
      Interrupted c p whole (totalAll us + c.padding) (us ++ vs) (us ++ leaf c :: behindAll p vs)
  | inside {whole : Bool} {d : Extent} {cs cs' : List Tree} (us : List Tree) (y : Symbol)
      (as : List (Nat × Symbol)) (vs : List Tree) (h : Interrupted c p false d cs cs') :
      Interrupted c p whole (totalAll us + d) (us ++ node y as cs false :: vs)
        (us ++ node y as cs' false :: vs)

mutual

/-- The leaves of what is made are read in states that the parser goes on to. -/
theorem Made.calm : ∀ (t : Tree) {s r : State} {x : Symbol}, t.Made s x →
    (mode r).values.recovering = false → (∀ m ∈ readings s r t, (mode m.1).values.recovering = false) ∧
      (mode (pending s r t)).values.recovering = false
  | leaf l, s, r, x, h, hr => by
    refine ⟨List.forall_mem_singleton.mpr hr, ?_⟩
    rw [pending, h.1, if_neg Bool.false_ne_true]
    exact Automaton.calm_of_successor (Straight.successor_of_action h.2).1
  | node _ _ cs _, s, r, x, h, hr => MadeAll.calm cs h.2.2.2.1 hr

theorem MadeAll.calm : ∀ (ts : List Tree) {s r : State} {x : Symbol}, MadeAll s x ts →
    (mode r).values.recovering = false →
    (∀ m ∈ readingsAll s r ts, (mode m.1).values.recovering = false) ∧
      (mode (pendingAll s r ts)).values.recovering = false
  | [], _, _, _, _, hr => ⟨fun m hm => absurd hm List.not_mem_nil, hr⟩
  | t :: ts, s, r, x, ⟨hcomment, hcounts, hrest⟩, hr => by
    have hfirst : (∀ m ∈ readings s r t, (mode m.1).values.recovering = false) ∧
        (mode (pending s r t)).values.recovering = false := by
      by_cases ht : t.extra = true
      · rw [pending_comment (hcomment ht)]
        obtain ⟨l, rfl, -⟩ := (hcomment ht).eq_leaf
        exact ⟨List.forall_mem_singleton.mpr hr, hr⟩
      · exact Made.calm t (hcounts (eq_false_of_ne_true ht)) hr
    obtain ⟨hreadings, hpending⟩ := MadeAll.calm ts hrest hfirst.2
    exact ⟨List.forall_mem_append.mpr ⟨hfirst.1, hreadings⟩, hpending⟩

end

theorem madeAll_behindAll (h : MadeAll s x ts) : MadeAll s x (behindAll p ts) := by
  cases ts with
  | nil => exact h
  | cons t ts =>
    obtain ⟨hcomment, hcounts, hrest⟩ := h
    refine ⟨fun ht => ?_, fun ht => ?_, ?_⟩
    · rw [extra_behind] at ht
      exact isComment_behind (hcomment ht)
    · rw [extra_behind] at ht
      exact (hcounts ht).behind p
    · rw [goto_behind]
      exact hrest

theorem first?_behind (p : Extent) : ∀ t : Tree, (behind p t).first? = t.first?
  | leaf _ => rfl
  | node _ _ [] _ => rfl
  | node _ _ (c :: cs) _ => by
    rw [behind, behindAll, first?, first?, firstAll?, firstAll?, first?_behind p c]

theorem ahead_behindAll (p : Extent) (ts : List Tree) (y : Symbol) : ahead (behindAll p ts) y = ahead ts y := by
  cases ts with
  | nil => rfl
  | cons t ts => rw [behindAll, ahead, ahead, firstAll?, firstAll?, first?_behind]

/-- The first leaf of a tree is read in the state before it, and only that leaf is another one behind another
gap. -/
theorem exists_first (hcomment : t.extra = true → t.IsComment) (hcounts : t.extra = false → t.Made s x)
    (r : State) (p : Extent) : ∃ l ls, readings s r t = (r, l) :: ls ∧
      readings s r (behind p t) = (r, { l with padding := p }) :: ls ∧
        pending s r (behind p t) = pending s r t ∧ l.padding = t.padding := by
  by_cases ht : t.extra = true
  · have hpending := pending_comment (hcomment ht) s r
    have hpending' := pending_comment (isComment_behind (p := p) (hcomment ht)) s r
    obtain ⟨l, rfl, -⟩ := (hcomment ht).eq_leaf
    exact ⟨l, [], rfl, rfl, hpending'.trans hpending.symm, rfl⟩
  · obtain ⟨l, ls, hbegins⟩ := (hcounts (eq_false_of_ne_true ht)).begins
    refine ⟨l, ls, ?_, hbegins.readings r p, hbegins.pending r r p, hbegins.padding.symm⟩
    have hsame := hbegins.readings r l.padding
    rwa [hbegins.same] at hsame

theorem readings_behindAll (h : MadeAll s x ts) (r : State) (p : Extent) :
    readingsAll s r (behindAll p ts) = behindFirst p (readingsAll s r ts) ∧
      pendingAll s r (behindAll p ts) = pendingAll s r ts := by
  cases ts with
  | nil => exact ⟨rfl, rfl⟩
  | cons t ts =>
    obtain ⟨l, ls, hl, hl', hpending, -⟩ := exists_first h.1 h.2.1 r p
    rw [behindAll, readingsAll, readingsAll, pendingAll, pendingAll, goto_behind, hl, hl', hpending]
    exact ⟨rfl, rfl⟩

theorem exists_head (h : MadeAll s x ts) (hne : ts ≠ []) (r : State) :
    ∃ l ls, readingsAll s r ts = (r, l) :: ls ∧ l.padding = paddingFirst ts := by
  cases ts with
  | nil => exact absurd rfl hne
  | cons t ts =>
    obtain ⟨l, ls, hl, -, -, hpadding⟩ := exists_first h.1 h.2.1 r 0
    exact ⟨l, _, by rw [readingsAll, hl]; rfl, hpadding⟩

theorem behindFirst_append (hne : ks ≠ []) (p : Extent) (ms : List (State × Leaf)) :
    behindFirst p (ks ++ ms) = behindFirst p ks ++ ms := by
  cases ks with
  | nil => exact absurd rfl hne
  | cons k ks => rfl

namespace Interrupted

theorem cons (h : Interrupted c p whole d ts ts') (t : Tree) :
    Interrupted c p whole (t.total + d) (t :: ts) (t :: ts') := by
  cases h with
  | among us vs h hp =>
    have hcons : Interrupted c p whole _ _ _ :=
      .among (t :: us) vs (h.imp_right fun hne => ⟨List.cons_ne_nil _ _, hne.2⟩) hp
    rwa [totalAll_cons, Extent.add_assoc] at hcons
  | inside us y as vs h =>
    have hcons : Interrupted c p whole _ _ _ := .inside (t :: us) y as vs h
    rwa [totalAll_cons, Extent.add_assoc] at hcons

theorem weaken (h : Interrupted c p false d ts ts') : Interrupted c p true d ts ts' := by
  cases h with
  | among us vs h hp => exact .among us vs (Or.inl rfl) hp
  | inside us y as vs h => exact .inside us y as vs h

end Interrupted

/-- The leaves, if a comment is put among trees. -/
theorem readings_among (us vs : List Tree) (hc : c.extra = true) (h : MadeAll s x (us ++ vs)) (r : State) :
    readingsAll s r (us ++ leaf c :: behindAll p vs) = readingsAll s r us ++
        (pendingAll s r us, c) :: behindFirst p (readingsAll (gotoAll s us) (pendingAll s r us) vs) ∧
      pendingAll s r (us ++ leaf c :: behindAll p vs) = pendingAll s r (us ++ vs) := by
  obtain ⟨hreadings, hpending⟩ := readings_behindAll (madeAll_append.mp h).2 (pendingAll s r us) p
  have hgoto : goto (gotoAll s us) (leaf c) = gotoAll s us := if_pos hc
  have hstays : pending (gotoAll s us) (pendingAll s r us) (leaf c) = pendingAll s r us := if_pos hc
  rw [readingsAll_append, readingsAll, hgoto, hstays, hreadings, pendingAll_append, pendingAll, hgoto, hstays,
    hpending, pendingAll_append]
  exact ⟨rfl, rfl⟩

mutual

/-- Between two leaves of a tree there is a place for a comment. -/
theorem exists_interrupted (hc : c.extra = true) : ∀ (t : Tree) {s r : State} {x : Symbol}
    {ks ms : List (State × Leaf)}, t.Made s x → readings s r t = ks ++ ms → ks ≠ [] → ms ≠ [] →
    (∀ m ∈ ms.head?, m.2.padding = c.padding + p) →
    ∃ y as cs cs' q, t = node y as cs false ∧ Interrupted c p false (reach ks + c.padding) cs cs' ∧
      readingsAll s r cs' = ks ++ (q, c) :: behindFirst p ms ∧ pendingAll s r cs' = pendingAll s r cs
  | leaf l, s, r, x, ks, ms, h, hread, hks, hms, hp => by
    have hlength := congrArg List.length hread
    have hpos := List.length_pos_of_ne_nil hks
    have hpos' := List.length_pos_of_ne_nil hms
    rw [readings, List.length_append, List.length_singleton] at hlength
    omega
  | node y as cs e, s, r, x, ks, ms, h, hread, hks, hms, hp => by
    obtain ⟨rfl, -, -, hall, -⟩ := h
    obtain ⟨cs', q, h⟩ := exists_interruptedAll hc cs hall hread hks hms hp
    exact ⟨y, as, cs, cs', q, rfl, h⟩

theorem exists_interruptedAll (hc : c.extra = true) : ∀ (ts : List Tree) {s r : State} {x : Symbol}
    {ks ms : List (State × Leaf)}, MadeAll s x ts → readingsAll s r ts = ks ++ ms → ks ≠ [] → ms ≠ [] →
    (∀ m ∈ ms.head?, m.2.padding = c.padding + p) →
    ∃ ts' q, Interrupted c p false (reach ks + c.padding) ts ts' ∧
      readingsAll s r ts' = ks ++ (q, c) :: behindFirst p ms ∧ pendingAll s r ts' = pendingAll s r ts
  | [], s, r, x, ks, ms, h, hread, hks, hms, hp =>
    absurd (List.append_eq_nil_iff.mp hread.symm).1 hks
  | t :: ts, s, r, x, ks, ms, h, hread, hks, hms, hp => by
    have hreach : reach (readings s r t) = t.total := reach_readings s r t
    rw [readingsAll] at hread
    by_cases hbetween : ks = readings s r t
    · -- the place is right behind the first tree
      subst hbetween
      obtain rfl := List.append_cancel_left hread
      have hts : ts ≠ [] := by
        rintro rfl
        exact hms rfl
      obtain ⟨l, ls, hl, hpadding⟩ := exists_head h.2.2 hts (pending s r t)
      have hamong : Interrupted c p false (totalAll [t] + c.padding) ([t] ++ ts) _ :=
        .among [t] ts (Or.inr ⟨List.cons_ne_nil _ _, hts⟩) fun _ => by
          rw [← hpadding]
          exact hp (pending s r t, l) (by rw [hl]; rfl)
      obtain ⟨hreadings, hpending⟩ := readings_among (p := p) [t] ts hc h r
      rw [totalAll_cons, totalAll, Extent.add_zero] at hamong
      refine ⟨_, pending s r t, hreach.symm ▸ hamong, ?_, hpending⟩
      rw [hreadings, readingsAll, readingsAll, List.append_nil]
      rfl
    · rcases List.append_eq_append_iff.mp hread with ⟨as, rfl, hrest⟩ | ⟨bs, hfirst, rfl⟩
      · -- the place is further on
        have has : as ≠ [] := by
          rintro rfl
          exact hbetween (List.append_nil _)
        obtain ⟨ts', q, hinterrupted, hreadings, hpending⟩ :=
          exists_interruptedAll hc ts h.2.2 hrest has hms hp
        refine ⟨t :: ts', q, ?_, ?_, ?_⟩
        · rw [reach_append, hreach, Extent.add_assoc]
          exact hinterrupted.cons t
        · rw [readingsAll, hreadings, List.append_assoc]
        · rw [pendingAll, pendingAll, hpending]
      · -- the place is inside of the first tree
        have hbs : bs ≠ [] := by
          rintro rfl
          exact hbetween (by rw [hfirst, List.append_nil])
        have hextra : t.extra = false := by
          by_contra hextra
          obtain ⟨l, rfl, -⟩ := (h.1 (by simpa using hextra)).eq_leaf
          have hlength := congrArg List.length hfirst
          have hpos := List.length_pos_of_ne_nil hks
          have hpos' := List.length_pos_of_ne_nil hbs
          rw [readings, List.length_append, List.length_singleton] at hlength
          omega
        have hhead : ∀ m ∈ bs.head?, m.2.padding = c.padding + p := by
          intro m hm
          refine hp m ?_
          rw [List.head?_append, hm]
          rfl
        obtain ⟨y, as, cs, cs', q, rfl, hinterrupted, hreadings, hpending⟩ :=
          exists_interrupted hc t (h.2.1 hextra) hfirst hks hbs hhead
        have hinside : Interrupted c p false (totalAll [] + (reach ks + c.padding)) _ _ :=
          .inside [] y as ts hinterrupted
        rw [totalAll, Extent.zero_add] at hinside
        refine ⟨_, q, hinside, ?_, ?_⟩
        · rw [List.nil_append, readingsAll, readings, hreadings, pending, hpending, behindFirst_append hbs,
            List.append_assoc]
          rfl
        · rw [List.nil_append, pendingAll, pending, hpending, pendingAll]
          rfl

end

/-- Between any two leaves of a text there is a place for a comment, and so there is at its ends. -/
theorem exists_interrupted_whole (hc : c.extra = true) (h : MadeAll s x ts)
    (hread : readingsAll s r ts = ks ++ ms) (hp : ∀ m ∈ ms.head?, m.2.padding = c.padding + p) :
    ∃ ts' q, Interrupted c p true (reach ks + c.padding) ts ts' ∧
      readingsAll s r ts' = ks ++ (q, c) :: behindFirst p ms := by
  by_cases hks : ks = []
  · subst hks
    have hpadding : ts ≠ [] → paddingFirst ts = c.padding + p := by
      intro hts
      obtain ⟨l, ls, hl, hpadding⟩ := exists_head h hts r
      rw [List.nil_append] at hread
      rw [← hpadding]
      exact hp (r, l) (by rw [← hread, hl]; rfl)
    have hamong : Interrupted c p true (totalAll [] + c.padding) ([] ++ ts) _ := .among [] ts (Or.inl rfl) hpadding
    refine ⟨_, r, hamong, ?_⟩
    rw [(readings_among [] ts hc h r).1]
    exact congrArg (fun ls => (r, c) :: behindFirst p ls) hread
  by_cases hms : ms = []
  · subst hms
    have hamong : Interrupted c p true (totalAll ts + c.padding) (ts ++ []) _ :=
      .among ts [] (Or.inl rfl) fun hno => absurd rfl hno
    rw [List.append_nil] at hread hamong
    rw [← reach_readingsAll s r ts, hread] at hamong
    refine ⟨_, pendingAll s r ts, hamong, ?_⟩
    rw [(readings_among ts [] hc (by rwa [List.append_nil]) r).1, hread]
    rfl
  obtain ⟨ts', q, hinterrupted, hreadings, -⟩ := exists_interruptedAll hc ts h hread hks hms hp
  exact ⟨ts', q, hinterrupted.weaken, hreadings⟩

theorem endsCounted_iff : EndsCounted ts ↔ ∀ t ∈ ts.getLast?, t.extra = false := by
  rcases List.eq_nil_or_concat ts with rfl | ⟨us, t, rfl⟩
  · exact iff_of_true (Or.inl rfl) fun t ht => by cases ht
  · rw [List.concat_eq_append, List.getLast?_concat, EndsCounted]
    constructor
    · rintro (hnil | ⟨vs, u, hsplit, hu⟩)
      · exact absurd hnil (List.append_ne_nil_of_right_ne_nil _ (List.cons_ne_nil _ _))
      · rintro _ ⟨⟩
        rw [(List.cons.inj (List.append_inj' hsplit rfl).2).1]
        exact hu
    · exact fun h => Or.inr ⟨us, t, rfl, h t rfl⟩

theorem endsCounted_append (hvs : vs ≠ []) : EndsCounted (us ++ vs) ↔ EndsCounted vs := by
  rw [endsCounted_iff, endsCounted_iff, List.getLast?_append, List.getLast?_eq_some_getLast hvs, Option.some_or]

namespace Interrupted

/-- A comment does not count among the children of a node. -/
theorem counted (hc : c.extra = true) (h : Interrupted c p whole d ts ts') :
    Tree.counted ts' = Tree.counted ts := by
  cases h with
  | among us vs _ _ =>
    have hextra : (leaf c).extra = true := hc
    rw [counted_append, counted_append, counted_cons, if_pos hextra, counted_behindAll]
  | inside us y as vs _ =>
    rw [counted_append, counted_append, counted_cons, counted_cons]
    rfl

/-- The parser does not look at a comment for its next move. -/
theorem firstAll? (hc : c.extra = true) (h : Interrupted c p whole d ts ts') :
    Tree.firstAll? ts' = Tree.firstAll? ts := by
  induction h with
  | among us vs _ _ =>
    have hnone : (leaf c).first? = none := if_pos hc
    have hsame : Tree.firstAll? (behindAll p vs) = Tree.firstAll? vs := by
      cases vs with
      | nil => rfl
      | cons v vs => rw [behindAll, Tree.firstAll?, Tree.firstAll?, first?_behind]
    rw [firstAll?_append, firstAll?_append, Tree.firstAll?, hnone, Option.none_or, hsame]
  | inside us y as vs _ ih =>
    rw [firstAll?_append, firstAll?_append, Tree.firstAll?, Tree.firstAll?, first?, first?, ih]

theorem ahead (hc : c.extra = true) (h : Interrupted c p whole d ts ts') (x : Symbol) :
    Tree.ahead ts' x = Tree.ahead ts x := by
  rw [Tree.ahead, Tree.ahead, h.firstAll? hc]

/-- A node goes on to begin and to end with a child that counts. -/
theorem bounds (h : Interrupted c p false d ts ts') :
    ((∃ t us, ts = t :: us ∧ t.extra = false) → ∃ t us, ts' = t :: us ∧ t.extra = false) ∧
      (EndsCounted ts → EndsCounted ts') := by
  cases h with
  | among us vs h _ =>
    obtain ⟨hus, hvs⟩ := h.resolve_left Bool.false_ne_true
    obtain ⟨u, us, rfl⟩ := List.exists_cons_of_ne_nil hus
    refine ⟨?_, fun hends => ?_⟩
    · rintro ⟨t, _, ⟨⟩, ht⟩
      exact ⟨u, _, rfl, ht⟩
    · have hlast := endsCounted_behindAll (p := p) ((endsCounted_append hvs).mp hends)
      have hbehind : behindAll p vs ≠ [] := by
        obtain ⟨v, vs, rfl⟩ := List.exists_cons_of_ne_nil hvs
        exact List.cons_ne_nil _ _
      have hall : u :: us ++ leaf c :: behindAll p vs = (u :: us ++ [leaf c]) ++ behindAll p vs :=
        List.append_cons _ _ _
      rw [hall]
      exact (endsCounted_append hbehind).mpr hlast
  | inside us y as vs _ =>
    refine ⟨?_, fun hends => ?_⟩
    · cases us with
      | nil => exact fun _ => ⟨_, vs, rfl, rfl⟩
      | cons u us =>
        rintro ⟨t, _, ⟨⟩, ht⟩
        exact ⟨u, _, rfl, ht⟩
    · rw [endsCounted_append (List.cons_ne_nil _ _)] at hends ⊢
      rw [endsCounted_iff, List.getLast?_cons] at hends ⊢
      cases hlast : vs.getLast? with
      | none =>
        rintro _ ⟨⟩
        rfl
      | some v =>
        rw [hlast] at hends
        exact hends

/-- Whatever the automaton makes it makes with a comment among it. -/
theorem made (hc : (leaf c).IsComment) (h : Interrupted c p whole d ts ts') :
    ∀ {s : State} {x : Symbol}, MadeAll s x ts → MadeAll s x ts' := by
  induction h with
  | among us vs _ _ =>
    intro s x hmade
    obtain ⟨hus, hvs⟩ := madeAll_append.mp hmade
    have hahead : Tree.ahead (leaf c :: behindAll p vs) x = Tree.ahead vs x := by
      rw [Tree.ahead, Tree.firstAll?, show (leaf c).first? = none from if_pos hc.1, Option.none_or]
      exact ahead_behindAll p vs x
    refine madeAll_append.mpr ⟨hahead.symm ▸ hus, fun _ => hc, fun hno => ?_, ?_⟩
    · exact absurd (hc.1.symm.trans hno) Bool.noConfusion
    · rw [goto_extra _ (show (leaf c).extra = true from hc.1)]
      exact madeAll_behindAll hvs
  | @inside _ _ cs cs' us y as vs h ih =>
    intro s x hmade
    obtain ⟨hus, -, hnode, hvs⟩ := madeAll_append.mp hmade
    obtain ⟨-, hfirst, hends, hall, haction⟩ := hnode rfl
    have hahead : Tree.ahead (node y as cs' false :: vs) x = Tree.ahead (node y as cs false :: vs) x := by
      rw [Tree.ahead, Tree.ahead, Tree.firstAll?, Tree.firstAll?, first?, first?, h.firstAll? hc.1]
    refine madeAll_append.mpr ⟨hahead.symm ▸ hus, fun hno => ?_, fun _ => ?_, hvs⟩
    · exact absurd hno Bool.false_ne_true
    · refine ⟨rfl, h.bounds.1 hfirst, h.bounds.2 hends, ih hall, ?_⟩
      rw [gotoAll_eq_walk, h.counted hc.1, ← gotoAll_eq_walk]
      exact haction

/-- A node goes on to begin where its first child does, unless the comment is put before all of a text. -/
theorem paddingFirst (h : Interrupted c p whole d ts ts') : ∀ es : List Tree,
    Tree.paddingFirst (ts' ++ es) = Tree.paddingFirst (ts ++ es) ∨
      whole = true ∧ Tree.paddingFirst (ts' ++ es) = d ∧ (ts ≠ [] → Tree.paddingFirst ts = d + p) := by
  induction h with
  | among us vs h hp =>
    intro es
    cases us with
    | nil =>
      rw [totalAll, Extent.zero_add]
      exact Or.inr ⟨h.resolve_right fun hno => hno.1 rfl, rfl, hp⟩
    | cons u us => exact Or.inl rfl
  | @inside _ _ cs cs' us y as vs _ ih =>
    intro es
    cases us with
    | nil =>
      have hinside := ih []
      rw [List.append_nil, List.append_nil] at hinside
      exact Or.inl (hinside.resolve_right fun hno => Bool.false_ne_true hno.1)
    | cons u us => exact Or.inl rfl

end Interrupted

variable {P : Nat → Leaf → Prop}

theorem row_append (ks ms : List (State × Leaf)) : row (ks ++ ms) = row ks ++ row ms := List.map_append

theorem totalAll_row (ls : List (State × Leaf)) : totalAll (row ls) = reach ls := by
  induction ls with
  | nil => rfl
  | cons l ls ih =>
    change (leaf l.2).total + totalAll (row ls) = _
    rw [ih]
    rfl

mutual

/-- What holds of each leaf of a tree holds of each of its leaves in a row. -/
theorem eachAll_row : ∀ (t : Tree) (s r : State) {k : Nat}, t.Each P k → EachAll P k (row (readings s r t))
  | leaf _, _, _, _, h => ⟨h, trivial⟩
  | node _ _ cs _, s, r, _, h => eachAll_rowAll cs s r h

theorem eachAll_rowAll : ∀ (ts : List Tree) (s r : State) {k : Nat}, EachAll P k ts →
    EachAll P k (row (readingsAll s r ts))
  | [], _, _, _, _ => trivial
  | t :: ts, s, r, _, h => by
    rw [readingsAll, row_append, eachAll_append, totalAll_row, reach_readings]
    exact ⟨eachAll_row t s r h.1, eachAll_rowAll ts _ _ h.2⟩

end

end Tree

namespace Straight

open MathProg.Tree (Interrupted)

variable {a b t y : List Char} {ts : List Tree} {as : List (Nat × Symbol)}

/-- A text with a comment in a block between its leaves is accepted, and its trees are those of the text with
the comment among them. -/
theorem Parsed.interrupted (h : Parsed (a ++ b) ts as y)
    (hapart : Tree.EachAll (Leaf.Apart (a ++ b) a.length) 0 ts)
    (hmark : a = [] → b.head? ≠ some byteOrderMark) (ht : ¬ ['*', '/'] <:+: t) (hnull : '\x00' ∉ t) :
    ∃ g p ts' y', Interrupted (blockLeaf g t) p true (Extent.ofChars a) ts ts' ∧
      Parsed (a ++ (Symbol.block t ++ b)) ts' as y' := by
  have hcalm : (mode start).values.recovering = false := by decide +kernel
  obtain ⟨ks, ms, g, v, y', hsplit, hextent, hpadding, hgap, hread⟩ :=
    h.read.interrupted h.gap (Tree.MadeAll.calm ts h.made hcalm).1 (Tree.eachAll_rowAll ts _ _ hapart) hmark
      ht hnull
  have hcomment : (Tree.leaf (blockLeaf g t)).IsComment := ⟨rfl, rfl⟩
  obtain ⟨ts', q, hinterrupted, hreadings⟩ :=
    Tree.exists_interrupted_whole (c := blockLeaf g t) rfl h.made hsplit hpadding
  rw [hextent]
  refine ⟨g, _, ts', y', hinterrupted, hinterrupted.made hcomment h.made, ?_, ?_, ?_⟩
  · rw [Tree.gotoAll_eq_walk, hinterrupted.counted rfl, ← Tree.gotoAll_eq_walk]
    exact h.root
  · rw [hreadings]
    exact hread q
  · have hfull : (Tree.readingsAll start start ts').isEmpty = false := by
      rw [hreadings]
      exact List.isEmpty_eq_false_iff.mpr (List.append_ne_nil_of_right_ne_nil _ (List.cons_ne_nil _ _))
    rw [hfull]
    exact hgap

end Straight

end MathProg
