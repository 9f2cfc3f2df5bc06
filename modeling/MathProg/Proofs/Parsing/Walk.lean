import MathProg.Proofs.Parsing.Graph

/-!
# Walking down the stack

What is popped off a reading is the end of a path. The slices of one vertex stand together, and each
vertex that a walk ends at is the top of a new reading.
-/

namespace MathProg.Stack

open Automaton (State lost)
open Spot (Leads Path Climb)

variable {source : List Char} {T : Terms} {g g' : Stack} {v : Nat} {p q : Extent}

section

variable {σ : Type} {P : Walk → Prop} {S : σ → Prop} {visit : σ → Walk → Visit × σ}
  {report : σ → Walk → σ}

/-- What holds of a walk holds of the walks that go on from it. -/
def Downward (g : Stack) (P : Walk → Prop) : Prop :=
  ∀ w, P w → ∀ l ∈ (g.vertex w.vertex).links, P (w.down l)

/-- What holds so far holds after a walk was seen, and reported if it is. -/
def Collects (P : Walk → Prop) (S : σ → Prop) (visit : σ → Walk → Visit × σ)
    (report : σ → Walk → σ) : Prop :=
  ∀ s w, S s → P w → S (visit s w).2 ∧ ((visit s w).1.report = true → S (report (visit s w).2 w))

theorem stepWalks_spec (hdown : g.Downward P) (hcollect : Collects P S visit report)
    {ws kept added : List Walk} {s : σ} (hws : ∀ w ∈ ws, P w) (hkept : ∀ w ∈ kept, P w)
    (hadded : ∀ w ∈ added, P w) (hs : S s) :
    (∀ w ∈ (g.stepWalks visit report ws kept added s).1, P w) ∧
      S (g.stepWalks visit report ws kept added s).2 := by
  induction ws generalizing kept added s with
  | nil =>
    refine ⟨fun w hw => ?_, hs⟩
    rcases List.mem_append.mp hw with hw | hw
    · exact hkept w (List.mem_reverse.mp hw)
    · exact hadded w hw
  | cons w rest ih =>
    obtain ⟨hw, hrest⟩ := List.forall_mem_cons.mp hws
    obtain ⟨hseen, hreport⟩ := hcollect s w hs hw
    have hs' : S (if (visit s w).1.report = true then report (visit s w).2 w else (visit s w).2) := by
      split
      · rename_i hr
        exact hreport hr
      · exact hseen
    rw [stepWalks]
    dsimp only
    split
    · exact ih hrest hkept hadded hs'
    · rename_i first others hlinks
      split
      · exact ih hrest hkept hadded hs'
      · have hall := hdown w hw
        rw [hlinks] at hall
        refine ih hrest (List.forall_mem_cons.mpr ⟨hall first List.mem_cons_self, hkept⟩) ?_ hs'
        refine List.forall_mem_append.mpr ⟨hadded, fun w' hw' => ?_⟩
        obtain ⟨l, hl, rfl⟩ := List.mem_map.mp hw'
        exact hall l (List.mem_cons_of_mem _ (List.mem_of_mem_take hl))

theorem walk_spec (hdown : g.Downward P) (hcollect : Collects P S visit report) {fuel : Nat}
    {ws : List Walk} {s : σ} (hws : ∀ w ∈ ws, P w) (hs : S s) :
    S (g.walk visit report fuel ws s) := by
  induction fuel generalizing ws s with
  | zero => exact hs
  | succ fuel ih =>
    rw [walk]
    split
    · exact hs
    · obtain ⟨hws', hs'⟩ := stepWalks_spec hdown hcollect hws
        (fun _ hw => absurd hw List.not_mem_nil) (fun _ hw => absurd hw List.not_mem_nil) hs
      exact ih hws' hs'

end

/-- The trees `ts`, `n` of which count, lead from vertex `x` to vertex `top` and make up the
difference in price. Where the way was lost at the top, for the first time, there is no tree. -/
structure Spans (source : List Char) (T : Terms) (g : Stack) (top n x : Nat) (ts : List Tree) :
    Prop where
  inner : g.Inner T x
  path : Path source (g.spot x) ts n (g.spot top)
  price : (g.vertex top).cost = (g.vertex x).cost + Tree.costs ts
  gap : (g.spot top).state = lost → (g.vertex top).cost = 0 →
    x = top ∧ n = 0 ∧ ts = [] ∨ (g.spot x).state ≠ lost ∧ n = (Tree.counted ts).length + 1

/-- Further down than where the way was lost there are trees that count. -/
theorem Spans.exists_counted {top n x : Nat} {ts : List Tree} (h : g.Spans source T top n x ts)
    (hl : (g.spot top).state = lost) (hfree : (g.vertex top).cost = 0) (hn : 2 ≤ n) :
    ∃ t ∈ ts, t.extra = false := by
  rcases h.gap hl hfree with ⟨-, rfl, -⟩ | ⟨-, hlen⟩
  · exact absurd hn (by decide)
  · by_contra hnone
    push Not at hnone
    have hextra : ∀ t ∈ ts, t.extra = true := fun t ht => by simpa using hnone t ht
    rw [Tree.counted_extras hextra] at hlen
    exact absurd hn (by rw [hlen]; decide)

/-- A walk from `top` has passed the end of a path. -/
def Passed (source : List Char) (T : Terms) (g : Stack) (top : Nat) (w : Walk) : Prop :=
  g.Spans source T top w.depth w.vertex w.trees

theorem Woven.downward {top : Nat} (hw : g.Woven source T) :
    g.Downward (g.Passed source T top) := by
  intro w ⟨hi, hp, hcost, hgap⟩ l hl
  obtain ⟨hb, hlead, hprice, hfree⟩ := hw.links _ hi l hl
  refine ⟨hb, .down hlead hp, ?_, fun hlost hzero => Or.inr ?_⟩
  · rw [hcost, hprice, Nat.add_assoc]
    change _ = _ + Tree.costs (l.tree.toList ++ w.trees)
    cases l.tree with
    | none =>
      rw [Option.elim_none, Nat.zero_add]
      rfl
    | some t => rfl
  · rcases hgap hlost hzero with ⟨hx, hn, hnil⟩ | ⟨hgoing, hn⟩
    · -- the first step down leads over the place where the way was lost
      rw [hx] at hfree
      obtain ⟨hnone, hgoing⟩ := hfree hlost hzero
      refine ⟨hgoing, ?_⟩
      rw [Walk.down, hnone, hn, hnil]
      rfl
    · obtain ⟨hgoing', u, hu, -, -⟩ := hlead.taken hgoing
      refine ⟨hgoing', ?_⟩
      rw [Walk.down, hu]
      change (if u.extra = true then w.depth else w.depth + 1) =
        (Tree.counted (u :: w.trees)).length + 1
      rw [Tree.counted_cons, hn]
      split <;> rfl

theorem Woven.walkFrom {σ : Type} {S : σ → Prop} {visit : σ → Walk → Visit × σ}
    {report : σ → Walk → σ} {s : σ} (hw : g.Woven source T)
    (htop : g.Inner T (g.version v).top)
    (hcollect : Collects (g.Passed source T (g.version v).top) S visit report) (hs : S s) :
    S (g.walkFrom v visit report s) :=
  walk_spec hw.downward hcollect (List.forall_mem_singleton.mpr ⟨htop, .here _, rfl, fun _ _ => Or.inl ⟨rfl, rfl, rfl⟩⟩) hs

/-- Slices in groups: the readings from `k` on stand on the vertices `xs`, and each has one or more
slices, which satisfy `Q` there. -/
inductive Cut (Q : Nat → List Tree → Prop) : Nat → List Slice → List Nat → Prop
  | none (k : Nat) : Cut Q k [] []
  | group {k x : Nat} {sl : Slice} {same rest : List Slice} {xs : List Nat}
      (hsame : ∀ s ∈ sl :: same, s.version = k ∧ Q x s.trees) (hrest : Cut Q (k + 1) rest xs) :
      Cut Q k (sl :: same ++ rest) (x :: xs)

variable {Q : Nat → List Tree → Prop} {k : Nat} {slices : List Slice} {xs : List Nat}

theorem Cut.bounds (h : Cut Q k slices xs) : ∀ s ∈ slices, k ≤ s.version ∧
    s.version < k + xs.length := by
  induction h with
  | none => exact fun s hs => absurd hs List.not_mem_nil
  | group hsame _ ih =>
    intro s hs
    rw [List.length_cons]
    rcases List.mem_append.mp hs with hs | hs
    · have := (hsame s hs).1
      omega
    · have := ih s hs
      omega

/-- A slice of a vertex of its own. -/
theorem Cut.snoc {x : Nat} {ts : List Tree} (h : Cut Q k slices xs) (hq : Q x ts) :
    Cut Q k (slices ++ [⟨ts, k + xs.length⟩]) (xs ++ [x]) := by
  induction h with
  | none k =>
    have hone : ∀ s ∈ [(⟨ts, k⟩ : Slice)], s.version = k ∧ Q x s.trees :=
      List.forall_mem_singleton.mpr ⟨rfl, hq⟩
    exact .group hone (.none _)
  | @group k y sl same rest xs hsame _ ih =>
    rw [List.length_cons, Nat.add_comm xs.length, ← Nat.add_assoc, List.append_assoc]
    exact .group hsame ih

/-- A slice more of the vertex that the last slice before it belongs to. -/
theorem Cut.insert {x : Nat} {s : Slice} {ts : List Tree} {pre post : List Slice}
    {top : Slice → Nat} (h : Cut Q k (pre ++ s :: post) xs)
    (htop : ∀ s' ∈ pre ++ s :: post, xs[s'.version - k]? = some (top s')) (hs : top s = x)
    (hpost : ∀ s' ∈ post, top s' ≠ x) (hq : Q x ts) :
    Cut Q k (pre ++ s :: ⟨ts, s.version⟩ :: post) xs := by
  generalize hall : pre ++ s :: post = slices at h htop
  induction h generalizing pre with
  | none => exact absurd hall (List.append_ne_nil_of_right_ne_nil _ (List.cons_ne_nil _ _))
  | @group k y sl same rest xs hsame hrest ih =>
    have hsplit : (∃ mid, pre = sl :: same ++ mid ∧ rest = mid ++ s :: post) ∨
        ∃ mid, sl :: same = pre ++ s :: mid ∧ post = mid ++ rest := by
      rcases List.append_eq_append_iff.mp hall with ⟨mid, hleft, hright⟩ | ⟨mid, hleft, hright⟩
      · cases mid with
        | nil =>
          rw [List.append_nil] at hleft
          exact Or.inl ⟨[], by rw [List.append_nil, hleft], hright.symm⟩
        | cons m mid =>
          obtain ⟨rfl, hpost'⟩ := List.cons_eq_cons.mp hright
          exact Or.inr ⟨mid, hleft, hpost'⟩
      · exact Or.inl ⟨mid, hleft, hright⟩
    rcases hsplit with ⟨mid, rfl, rfl⟩ | ⟨mid, hgroup, rfl⟩
    · rw [List.append_assoc]
      refine .group hsame (ih rfl fun s' hs' => ?_)
      have hlt := (hrest.bounds s' hs').1
      have ht := htop s' (List.mem_append_right _ hs')
      rwa [show s'.version - k = s'.version - (k + 1) + 1 by omega, List.getElem?_cons_succ] at ht
    · -- the new slice belongs to the first group, and `s` is the last one of that
      have hgroupTop : ∀ s' ∈ sl :: same, top s' = y := by
        intro s' hs'
        have ht := htop s' (List.mem_append_left _ hs')
        rw [(hsame s' hs').1, Nat.sub_self, List.getElem?_cons_zero, Option.some.injEq] at ht
        exact ht.symm
      have hmem : s ∈ sl :: same := by
        rw [hgroup]
        exact List.mem_append_right _ List.mem_cons_self
      have hy : y = x := (hgroupTop s hmem).symm.trans hs
      have hmid : mid = [] := by
        cases mid with
        | nil => rfl
        | cons m mid =>
          have hm : m ∈ sl :: same := by
            rw [hgroup]
            exact List.mem_append_right _ (List.mem_cons_of_mem _ List.mem_cons_self)
          exact absurd ((hgroupTop m hm).trans hy) (hpost m List.mem_cons_self)
      subst hmid hy
      have hnew : pre ++ s :: ⟨ts, s.version⟩ :: ([] ++ rest) =
          sl :: (same ++ [⟨ts, s.version⟩]) ++ rest := by
        rw [show sl :: (same ++ [⟨ts, s.version⟩]) = sl :: same ++ [⟨ts, s.version⟩] from rfl, hgroup]
        simp only [List.append_assoc, List.cons_append, List.nil_append]
      rw [hnew]
      refine .group (fun s' hs' => ?_) hrest
      rcases (List.mem_append (s := sl :: same)).mp hs' with hs' | hs'
      · exact hsame s' hs'
      · rw [List.mem_singleton.mp hs']
        exact ⟨(hsame s hmem).1, hq⟩

theorem Cut.exists_slice (h : Cut Q k slices xs) : ∀ x ∈ xs, ∃ ts, Q x ts := by
  induction h with
  | none => exact fun x hx => absurd hx List.not_mem_nil
  | group hsame _ ih =>
    exact List.forall_mem_cons.mpr ⟨⟨_, (hsame _ List.mem_cons_self).2⟩, ih⟩

/-- Every vertex has a slice of its reading. -/
theorem Cut.exists_version (h : Cut Q k slices xs) {j : Nat} (hj : j < xs.length) :
    ∃ s ∈ slices, s.version = k + j := by
  induction h generalizing j with
  | none => exact absurd hj (Nat.not_lt_zero _)
  | @group k x sl same rest xs hsame _ ih =>
    cases j with
    | zero => exact ⟨sl, List.mem_append_left _ List.mem_cons_self, (hsame sl List.mem_cons_self).1⟩
    | succ j =>
      obtain ⟨s, hs, he⟩ := ih (Nat.lt_of_succ_lt_succ hj)
      exact ⟨s, List.mem_append_right _ hs, by omega⟩

/-- New readings on the vertices `xs`. -/
def sliced (g : Stack) (like : Version) (xs : List Nat) : Stack :=
  { g with versions := g.versions ++ xs.map fun x => ⟨x, none, like.weightAtError, .active⟩ }

theorem readings_sliced (like : Version) (xs : List Nat) :
    (g.sliced like xs).readings = g.readings ++ xs.map fun x => (x, .active) := by
  simp only [readings, sliced, List.map_append, List.map_map]
  rfl

theorem Sound.sliced {like : Version} (hs : g.Sound source T)
    (hx : ∀ x ∈ xs, g.Inner T x) : (g.sliced like xs).Sound source T.loose := by
  refine hs.loose.of_vertices rfl fun f hf => ?_
  rw [readings_sliced] at hf
  rcases List.mem_append.mp hf with hf | hf
  · exact Or.inl hf
  · obtain ⟨x, hxs, rfl⟩ := List.mem_map.mp hf
    exact Or.inr fun _ => ⟨hx x hxs, trivial, fun _ hl => by cases hl⟩

/-- A walk that is reported adds its slice, with a reading of its own if its vertex has none. -/
theorem addSlice_spec {like : Version} {w : Walk} (h : Cut Q g.size slices xs) (hx : xs.Nodup)
    (hq : Q w.vertex w.trees) : ∃ slices' xs',
      addSlice like (slices, g.sliced like xs) w = (slices', g.sliced like xs') ∧
        Cut Q g.size slices' xs' ∧ xs'.Nodup := by
  have htop : ∀ s ∈ slices,
      xs[s.version - g.size]? = some ((g.sliced like xs).version s.version).top := by
    intro s hs
    obtain ⟨hge, hlt⟩ := h.bounds s hs
    have hi : s.version - g.size < xs.length := by omega
    have hver : (g.sliced like xs).versions[s.version]? =
        (xs[s.version - g.size]?).map fun x => ⟨x, none, like.weightAtError, .active⟩ := by
      rw [Stack.sliced, List.getElem?_append_right hge, List.getElem?_map]
      rfl
    rw [version, hver, List.getElem?_eq_getElem hi]
    rfl
  unfold addSlice
  dsimp only
  split
  · rename_i j hj
    obtain ⟨hlt, hfound, hbefore⟩ := List.findIdx?_eq_some_iff_getElem.mp hj
    generalize hL : slices.reverse = L at hlt hfound hbefore
    -- the slice found is the last one of its vertex
    have hsplit : slices = (L.drop (j + 1)).reverse ++ L[j] :: (L.take j).reverse := by
      rw [← List.reverse_reverse slices, hL]
      conv_lhs => rw [← List.take_append_drop j L, List.drop_eq_getElem_cons hlt]
      rw [List.reverse_append, List.reverse_cons, List.append_assoc, List.singleton_append]
    have hpre : slices.length - j = (L.drop (j + 1)).reverse.length + 1 := by
      rw [List.length_reverse, List.length_drop, ← hL, List.length_reverse]
      rw [← hL, List.length_reverse] at hlt
      omega
    refine ⟨_, xs, rfl, ?_⟩
    rw [hpre, Nat.add_sub_cancel]
    generalize hpreL : (L.drop (j + 1)).reverse = pre at hsplit
    have hpost : ∀ s ∈ (L.take j).reverse,
        ((g.sliced like xs).version s.version).top ≠ w.vertex := by
      intro s hs
      obtain ⟨i, hi, rfl⟩ := List.mem_take_iff_getElem.mp (List.mem_reverse.mp hs)
      simpa using hbefore i (by omega)
    generalize (L.take j).reverse = post at hsplit hpost
    generalize L[j] = s at hsplit hfound
    subst hsplit
    rw [List.getElem?_append_right (Nat.le_refl _), Nat.sub_self, List.getElem?_cons_zero,
      Option.getD_some, List.take_length_add_append, List.drop_length_add_append]
    rw [List.take_succ_cons, List.take_zero, List.append_assoc, List.singleton_append]
    exact ⟨h.insert htop (by simpa using hfound) hpost hq, hx⟩
  · rename_i hnone
    have hnew : w.vertex ∉ xs := by
      intro hmem
      obtain ⟨j, hj, he⟩ := List.mem_iff_getElem.mp hmem
      obtain ⟨s, hs, hversion⟩ := h.exists_version hj
      have ht := htop s hs
      rw [hversion, Nat.add_sub_cancel_left, List.getElem?_eq_getElem hj, he,
        Option.some.injEq] at ht
      have hmiss := List.findIdx?_eq_none_iff.mp hnone s (List.mem_reverse.mpr hs)
      rw [hversion, ← ht, beq_self_eq_true] at hmiss
      cases hmiss
    refine ⟨_, xs ++ [w.vertex], ?_, h.snoc hq, ?_⟩
    · have hsize : (g.sliced like xs).size = g.size + xs.length := by
        simp only [size, Stack.sliced, List.length_append, List.length_map]
      rw [hsize]
      simp only [Stack.sliced, List.map_append, List.append_assoc, List.map_cons, List.map_nil]
    · rw [List.nodup_append]
      refine ⟨hx, List.pairwise_singleton _ _, fun a ha b hb => ?_⟩
      rw [List.mem_singleton.mp hb]
      rintro rfl
      exact hnew ha

/-- What a way of popping reports is cut into slices. -/
theorem Woven.pop (visit : List Slice × Stack → Walk → Visit × (List Slice × Stack))
    (like : Version) (hw : g.Woven source T) (htop : g.Inner T (g.version v).top)
    (hkeep : ∀ s w, (visit s w).2 = s)
    (hreport : ∀ s w, g.Passed source T (g.version v).top w →
      (visit s w).1.report = true → Q w.vertex w.trees) : ∃ slices xs,
      g.walkFrom v visit (addSlice like) ([], g) = (slices, g.sliced like xs) ∧
        Cut Q g.size slices xs ∧ xs.Nodup := by
  have hcollect : Collects (g.Passed source T (g.version v).top)
      (fun s : List Slice × Stack => ∃ xs, s.2 = g.sliced like xs ∧ Cut Q g.size s.1 xs ∧ xs.Nodup)
      visit (addSlice like) := by
    rintro ⟨slices, g'⟩ w ⟨xs, hg, hcut, hx⟩ hpassed
    dsimp only at hg hcut
    subst hg
    rw [hkeep]
    refine ⟨⟨xs, rfl, hcut, hx⟩, fun hr => ?_⟩
    obtain ⟨slices', xs', heq, hcut', hx'⟩ := addSlice_spec hcut hx (hreport _ w hpassed hr)
    exact ⟨xs', congrArg Prod.snd heq, (congrArg Prod.fst heq) ▸ hcut', hx'⟩
  have hempty : g.sliced like [] = g := by
    simp only [Stack.sliced, List.map_nil, List.append_nil]
  obtain ⟨xs, hg, hcut, hx⟩ := hw.walkFrom htop hcollect (s := ([], g))
    ⟨[], hempty.symm, .none _, List.nodup_nil⟩
  exact ⟨_, xs, Prod.ext rfl hg, hcut, hx⟩

theorem Woven.popCount (hw : g.Woven source T) (htop : g.Inner T (g.version v).top) (n : Nat) :
    ∃ slices xs, g.popCount v n = (slices, g.sliced (g.version v) xs) ∧
      Cut (g.Spans source T (g.version v).top n) g.size slices xs := by
  obtain ⟨slices, xs, heq, hcut, -⟩ := hw.pop (Q := g.Spans source T (g.version v).top n)
    (fun s w => (⟨w.depth == n, w.depth == n⟩, s)) (g.version v) htop (fun _ _ => rfl) fun s w hpassed hr => by
      have hn : w.depth = n := by simpa using hr
      exact hn ▸ hpassed
  exact ⟨slices, xs, heq, hcut⟩

/-- The trees of a whole way down from reading `v`. -/
structure Descends (source : List Char) (g : Stack) (v : Nat) (ts : List Tree) : Prop where
  price : (g.top v).cost = Tree.costs ts
  path : ∃ n, Path source .origin ts n (g.spot (g.version v).top)

/-- All ways down end at one vertex, and leave one reading there. -/
theorem Woven.popAll (hw : g.Woven source T) (htop : g.Inner T (g.version v).top) :
    ∃ slices xs, g.popAll v = (slices, g.sliced (g.version v) xs) ∧
      (∀ sl ∈ slices, sl.version = g.size ∧ g.Descends source v sl.trees) ∧
      (slices = [] ∧ xs = [] ∨ slices ≠ [] ∧ xs = [0]) := by
  obtain ⟨slices, xs, heq, hcut, hx⟩ := hw.pop
    (Q := fun x ts => x = 0 ∧ g.Descends source v ts)
    (fun s w => (⟨(g.vertex w.vertex).links.isEmpty, false⟩, s)) (g.version v) htop
    (fun _ _ => rfl) fun s w ⟨hinner, hpath, hprice, _⟩ hr => by
      have hzero := hw.bottom _ hinner (by simpa using hr)
      rw [hzero, hw.base.1] at hpath
      rw [hzero, hw.base.2, Nat.zero_add] at hprice
      exact ⟨hzero, hprice, w.depth, hpath⟩
  have hall : ∀ x ∈ xs, x = 0 := fun x hx => by
    obtain ⟨ts, hts⟩ := hcut.exists_slice x hx
    exact hts.1
  refine ⟨slices, xs, heq, ?_⟩
  cases hcut with
  | none => exact ⟨fun sl hsl => absurd hsl List.not_mem_nil, Or.inl ⟨rfl, rfl⟩⟩
  | @group _ x sl same rest xs hsame hrest =>
    have hxs : xs = [] := by
      cases xs with
      | nil => rfl
      | cons y xs =>
        obtain ⟨hx0, hy, -⟩ := List.forall_mem_cons.mp hall |>.imp id List.forall_mem_cons.mp
        rw [hx0, hy] at hx
        exact absurd List.mem_cons_self (List.nodup_cons.mp hx).1
    subst hxs
    cases hrest
    rw [List.append_nil]
    refine ⟨fun s hs => ⟨(hsame s hs).1, (hsame s hs).2.2⟩, Or.inr ⟨List.cons_ne_nil _ _, ?_⟩⟩
    rw [hall x List.mem_cons_self]

end MathProg.Stack
