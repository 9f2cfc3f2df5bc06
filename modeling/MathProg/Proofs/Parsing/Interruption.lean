import MathProg.Proofs.Lexing.Comment
import MathProg.Proofs.Parsing.Joining

/-!
# A comment between leaves

A comment in a block is put into a text between two leaves of it. The leaves before it are read before the
comment, and those behind it behind a gap that begins there.
-/

namespace MathProg

open Automaton (State mode)
open MathProg.Tree (reach)

/-- Leaves in a row, without the states that they are read in. -/
def Tree.row (ls : List (State × Leaf)) : List Tree := ls.map fun m => leaf m.2

theorem Gap.split {atStart : Bool} {g v : List Char} (h : Gap atStart (g ++ v))
    (hmark : atStart = true → g = [] → v.head? ≠ some byteOrderMark) :
    Gap atStart g ∧ ∀ c ∈ v, isBlank c = true := by
  rcases h with hblank | ⟨hstart, u, hu, hblank⟩
  · obtain ⟨hg, hv⟩ := List.forall_mem_append.mp hblank
    exact ⟨Or.inl hg, hv⟩
  · cases g with
    | nil =>
      rw [List.nil_append] at hu
      exact absurd (by rw [hu]; rfl) (hmark hstart rfl)
    | cons c g =>
      obtain ⟨rfl, rfl⟩ := List.cons.inj hu
      obtain ⟨hg, hv⟩ := List.forall_mem_append.mp hblank
      exact ⟨Or.inr ⟨hstart, g, rfl, hg⟩, hv⟩

namespace Straight

variable {source : List Char} {n : Nat} {atStart : Bool} {s : State} {l : Leaf}
  {ls ms : List (State × Leaf)} {a b g w rest x y z : List Char}

theorem Legible.extents (h : Legible s atStart { l with extra := false } g w rest) :
    l.padding = Extent.ofChars g ∧ l.size = Extent.ofChars w :=
  ⟨congrArg Leaf.padding h.leaf, congrArg Leaf.size h.leaf⟩

/-- A point before a place between leaves is not followed by another one. -/
theorem Spelled.not_points (h : Spelled false ls ('.' :: b) y) (hy : ∀ c ∈ y, isBlank c = true) {k : Nat}
    (hapart : Tree.EachAll (Leaf.Apart source (k + 1)) k (Tree.row ls)) :
    b.head? ≠ some '.' := by
  generalize hx : '.' :: b = x at h
  cases h with
  | nil =>
    have hpoint := hy '.' (by rw [← hx]; exact List.mem_cons_self)
    cases hpoint
  | @cons _ s l ls g w rest _ h hslash hs =>
    obtain rfl : g = [] := Gap.eq_nil h.gap hx.symm (by decide) (by decide)
    obtain ⟨hpadding, hsize⟩ := h.extents
    obtain ⟨c, w, rfl⟩ := List.exists_cons_of_ne_nil h.ne_nil
    obtain ⟨rfl, hb⟩ := List.cons.inj hx
    have hends := hapart.1.apart
    rw [Leaf.ends, Leaf.begins, hpadding, hsize, Extent.chars_ofChars, Extent.chars_ofChars,
      List.length_nil, List.length_cons] at hends
    obtain rfl : w = [] := List.eq_nil_of_length_eq_zero (by omega)
    rw [hb]
    exact h.not_point

/-- A leaf is read again before a comment that follows somewhere behind it. -/
theorem Legible.before_comment (h : Legible s atStart l g w (a ++ b)) (hcalm : (mode s).values.recovering = false)
    (hslash : w = ['/'] → (a ++ b).head? ≠ some '*') (hpoint : b.head? = some '.' → a ≠ ['.'])
    (hline : w.head? = some '#' → a ≠ []) : Legible s atStart l g w (a ++ '/' :: z) := by
  have hcontext : (mode s).Context (mode s) (g.countP isBlank) (g.countP isBlank) l.symbol w (a ++ b)
      (a ++ '/' :: z) := by
    constructor
    · refine .mk a ?_ hpoint
      rintro _ ⟨⟩
      exact Or.inr rfl
    · refine ⟨fun hw => ?_, hslash⟩
      obtain ⟨c, v, rfl⟩ := List.exists_cons_of_ne_nil (hline hw)
      exact (h.line hw).2
    · exact Mode.alike_comment (Automaton.mode_mem s) (Mode.plain_mode _) hcalm a h.read
    · rfl
    · exact fun u hu => Or.inl hu
    · exact h.candidate
  have hagain := h.again h.gap hcontext
  have hleaf := h.leaf
  rwa [show Extent.ofChars g = l.padding from (congrArg Leaf.padding hleaf).symm] at hagain

/-- A place that no leaf is around parts the leaves: those before it are read before a comment there, and
the gap of the first one behind it reaches to the place or begins before it. -/
theorem Spelled.part (h : Spelled atStart ls x y) {a b : List Char} (hx : x = a ++ b)
    (hgap : Gap (atStart && ls.isEmpty) y) {k : Nat} (hdrop : source.drop k = x)
    (hcalm : ∀ m ∈ ls, (mode m.1).values.recovering = false)
    (hapart : Tree.EachAll (Leaf.Apart source (k + a.length)) k (Tree.row ls)) :
    ∃ ks ms g, ls = ks ++ ms ∧ Spelled (atStart && ks.isEmpty) ms (g ++ b) y ∧
      (∀ m ∈ ms.head?, g.length ≤ m.2.padding.chars) ∧
        ∀ z, Spelled atStart ks (a ++ '/' :: z) (g ++ '/' :: z) := by
  induction h generalizing a k with
  | nil atStart y =>
    subst hx
    refine ⟨[], [], a, rfl, ?_, fun m hm => ?_, fun z => .nil _ _⟩
    · exact .nil _ _
    · cases hm
  | @cons atStart s l ls g w rest y h hslash hs ih =>
    obtain ⟨hpadding, hsize⟩ := h.extents
    have hbegins : l.begins k = k + g.length := by
      rw [Leaf.begins, hpadding, Extent.chars_ofChars]
    have hends : l.ends k = k + g.length + w.length := by
      rw [Leaf.ends, hbegins, hsize, Extent.chars_ofChars]
    obtain ⟨hleaf, hrest⟩ : l.Apart source (k + a.length) k ∧ Tree.EachAll
        (Leaf.Apart source (k + a.length)) (k + (Tree.leaf l).total.chars) (Tree.row ls) :=
      hapart
    rcases hleaf.apart with hle | hge
    · -- the leaf stands before the place
      obtain ⟨a, rfl⟩ : g ++ w <+: a := by
        have hprefix : g ++ w <+: a ++ b := by
          rw [← hx, ← List.append_assoc]
          exact List.prefix_append _ _
        refine List.prefix_of_prefix_length_le hprefix (List.prefix_append a b) ?_
        rw [List.length_append]
        omega
      have hrest' : rest = a ++ b := by
        rw [← List.append_assoc, List.append_assoc (g ++ w)] at hx
        exact List.append_cancel_left hx
      have hblank : ∀ c ∈ y, isBlank c = true := by
        refine hgap.resolve_right fun hno => ?_
        rw [List.isEmpty_cons, Bool.and_false] at hno
        exact Bool.false_ne_true hno.1
      have hplace : k + (Tree.leaf l).total.chars = k + (g ++ w).length := by
        change k + (l.padding + l.size).chars = _
        rw [Tree.chars_add, hpadding, hsize, Extent.chars_ofChars, Extent.chars_ofChars, List.length_append]
      rw [hplace, @List.length_append _ (g ++ w), ← Nat.add_assoc] at hrest
      have hdrop' : source.drop (k + (g ++ w).length) = rest := by
        rw [← List.drop_drop, hdrop, ← List.append_assoc, List.drop_left]
      obtain ⟨ks, ms, g', hls, hms, hhead, hks⟩ := ih hrest' (Or.inl hblank) hdrop'
        (fun m hm => hcalm m (List.mem_cons_of_mem _ hm)) hrest
      refine ⟨(s, l) :: ks, ms, g', by rw [hls]; rfl, ?_, hhead, fun z => ?_⟩
      · rw [List.isEmpty_cons, Bool.and_false]
        exact hms
      · rw [List.append_assoc, List.append_assoc]
        rw [hrest'] at h hslash
        have hpoint : b.head? = some '.' → a ≠ ['.'] := by
          rintro hb rfl
          refine (Spelled.not_points (k := k + (g ++ w).length) ?_ hblank hrest) hb
          rw [hrest'] at hs
          exact hs
        have hline : w.head? = some '#' → a ≠ [] := by
          rintro hw rfl
          have hhash : source[l.begins k]? = some '#' := by
            rw [hbegins, ← List.getElem?_drop, hdrop, List.getElem?_append_right (Nat.le_refl _),
              Nat.sub_self, ← List.head?_eq_getElem?, List.head?_append, hw]
            rfl
          refine hleaf.line (h.line hw).1 hhash ?_
          rw [hends, List.append_nil, List.length_append, Nat.add_assoc]
        refine .cons (h.before_comment (hcalm _ List.mem_cons_self) hslash hpoint hline) (fun hw => ?_) (hks z)
        cases a with
        | nil => exact fun hstar => absurd (Option.some.inj hstar) (by decide)
        | cons c a => exact hslash hw
    · -- the place is in the gap before the leaf
      refine ⟨[], (s, l) :: ls, a, rfl, ?_, fun m hm => ?_, fun z => .nil _ _⟩
      · rw [← hx, List.isEmpty_nil, Bool.and_true]
        exact .cons h hslash hs
      · cases hm
        rw [hpadding, Extent.chars_ofChars]
        omega

theorem mem_candidates_of_le {m : Mode} {t : Symbol} {i j : Nat} (h : t ∈ m.candidates i) (hle : j ≤ i) :
    t ∈ m.candidates j := by
  unfold Mode.candidates at h ⊢
  by_cases hj : j = 0
  · rw [if_pos hj]
    exact Mode.mem_tokens_of_candidates h
  · rw [if_neg (by omega)] at h
    rw [if_neg hj]
    exact h

/-- The first leaf behind a place in the gap before it is read behind what is left of the gap. -/
theorem Spelled.behind_comment (h : Spelled atStart ((s, l) :: ls) (g ++ b) y)
    (hcalm : (mode s).values.recovering = false) (hle : g.length ≤ l.padding.chars)
    (hmark : atStart = true → g = [] → b.head? ≠ some byteOrderMark) :
    ∃ v, Gap atStart g ∧ l.padding = Extent.ofChars g + Extent.ofChars v ∧
      Spelled false ((s, { l with padding := Extent.ofChars v }) :: ls) b y := by
  generalize hx : g ++ b = x at h
  cases h with
  | @cons _ _ _ _ g₀ w rest _ h hslash hs =>
    obtain ⟨hpadding, -⟩ := h.extents
    rw [hpadding, Extent.chars_ofChars] at hle
    obtain ⟨v, rfl⟩ : g <+: g₀ :=
      List.prefix_of_prefix_length_le (hx ▸ List.prefix_append g b) (List.prefix_append _ _) hle
    obtain rfl : b = v ++ (w ++ rest) := by
      rw [List.append_assoc] at hx
      exact List.append_cancel_left hx
    obtain ⟨hg, hv⟩ := h.gap.split fun hstart hnil hmem => hmark hstart hnil (by
      obtain ⟨v, rfl⟩ := List.head?_eq_some_iff.mp hmem
      rfl)
    have hcount : v.countP isBlank ≤ (g ++ v).countP isBlank := by
      rw [List.countP_append]
      exact Nat.le_add_left _ _
    have hcontext : (mode s).Context (mode s) ((g ++ v).countP isBlank) (v.countP isBlank) l.symbol w rest
        rest := by
      constructor
      · exact .refl rest
      · exact ⟨fun hw => (h.line hw).2, hslash⟩
      · exact fun _ => Value.alike_of_visible fun _ => rfl
      · rfl
      · intro u hu
        by_cases hold : u ∈ (mode s).candidates ((g ++ v).countP isBlank)
        · exact Or.inl hold
        · -- only a suffix may come up, as it is read behind fewer blanks
          have htokens := Mode.mem_tokens_of_candidates hu
          obtain rfl : u = Symbol.suffix := by
            by_contra hne
            exact hold (Mode.mem_candidates htokens hne _)
          refine Or.inr (Mode.no_suffix (Automaton.mode_mem s) (Mode.plain_mode _) hcalm htokens h.read ?_
            h.ne_nil)
          intro hsymbol
          have hcandidate := h.candidate (by rw [hsymbol]; decide)
          rw [hsymbol] at hcandidate
          exact hold hcandidate
      · exact fun hfixed => mem_candidates_of_le (h.candidate hfixed) hcount
    refine ⟨v, hg, by rw [hpadding, Extent.ofChars_append], ?_⟩
    exact .cons (h.again (Or.inl hv) hcontext) hslash hs

/-- The leaf of a comment in a block. -/
def blockLeaf (g t : List Char) : Leaf :=
  ⟨Symbol.comment, Extent.ofChars g, Extent.ofChars (Symbol.block t), true, .read⟩

theorem legible_block {t : List Char} (ht : ¬ ['*', '/'] <:+: t) (hnull : '\x00' ∉ t) (s : State)
    (hgap : Gap atStart g) (rest : List Char) :
    Legible s atStart { blockLeaf g t with extra := false } g (Symbol.block t) rest := by
  have hlexeme := (Lexeme.munch_some (by decide) (Symbol.comment?_block ht hnull rest)).1
  rw [List.take_left] at hlexeme
  exact ⟨rfl, hgap, ⟨'/', rfl, by decide⟩, hlexeme,
    Mode.token?_block (Mode.plain_mode _) (Automaton.comment_mem_tokens s) ht hnull _ rest⟩

/-- A row of leaves whose first one stands behind another gap. -/
def behindFirst (p : Extent) : List (State × Leaf) → List (State × Leaf)
  | [] => []
  | (s, l) :: ls => (s, { l with padding := p }) :: ls

/-- A comment that is put between the leaves of a text is one more leaf, and only the gap that it is put into
changes. -/
theorem Spelled.interrupted {t : List Char} (h : Spelled true ls (a ++ b) y) (hgap : Gap ls.isEmpty y)
    (hcalm : ∀ m ∈ ls, (mode m.1).values.recovering = false)
    (hapart : Tree.EachAll (Leaf.Apart (a ++ b) a.length) 0 (Tree.row ls))
    (hmark : a = [] → b.head? ≠ some byteOrderMark) (ht : ¬ ['*', '/'] <:+: t) (hnull : '\x00' ∉ t) :
    ∃ ks ms g v y', ls = ks ++ ms ∧ Extent.ofChars a = reach ks + Extent.ofChars g ∧
      (∀ m ∈ ms.head?, m.2.padding = Extent.ofChars g + Extent.ofChars v) ∧ Gap false y' ∧
        ∀ q, Spelled true (ks ++ (q, blockLeaf g t) :: behindFirst (Extent.ofChars v) ms)
          (a ++ (Symbol.block t ++ b)) y' := by
  obtain ⟨ks, ms, g, rfl, hms, hhead, hks⟩ := h.part rfl hgap rfl hcalm
    (by rw [Nat.zero_add]; exact hapart)
  rw [Bool.true_and] at hms
  have hbefore : Spelled true ks (a ++ (Symbol.block t ++ b)) (g ++ (Symbol.block t ++ b)) := hks _
  obtain ⟨u, hu, hnil⟩ := hbefore.exists_stretch
  obtain rfl : a = u ++ g := by
    rw [← List.append_assoc u] at hu
    exact List.append_cancel_right hu
  have hextent : Extent.ofChars (u ++ g) = reach ks + Extent.ofChars g := by
    rw [List.append_assoc] at hbefore
    rw [Extent.ofChars_append, hbefore.extent]
  have hmark' : ks.isEmpty = true → g = [] → b.head? ≠ some byteOrderMark := by
    intro hempty hg
    refine hmark ?_
    rw [hg, List.append_nil]
    exact hnil.mpr (List.isEmpty_iff.mp hempty)
  have hafter : ∃ v y', Gap ks.isEmpty g ∧ (∀ m ∈ ms.head?, m.2.padding = Extent.ofChars g + Extent.ofChars v) ∧
      Gap false y' ∧ Spelled false (behindFirst (Extent.ofChars v) ms) b y' := by
    cases ms with
    | nil =>
      cases hms
      rw [List.append_nil] at hgap
      obtain ⟨hg, hb⟩ := hgap.split hmark'
      exact ⟨[], b, hg, (fun m hm => by cases hm), Or.inl hb, .nil _ _⟩
    | cons m ms =>
      obtain ⟨v, hg, hpadding, hread⟩ := hms.behind_comment
        (hcalm m (List.mem_append_right _ List.mem_cons_self)) (hhead m rfl) hmark'
      refine ⟨v, y, hg, fun k hk => ?_, ?_, hread⟩
      · cases hk
        exact hpadding
      · have hfull : (ks ++ m :: ms).isEmpty = false :=
          List.isEmpty_eq_false_iff.mpr (List.append_ne_nil_of_right_ne_nil _ (List.cons_ne_nil _ _))
        rwa [hfull] at hgap
  obtain ⟨v, y', hg, hpadding, hgap', hread⟩ := hafter
  refine ⟨ks, ms, g, v, y', rfl, hextent, hpadding, hgap', fun q => hbefore.append ?_⟩
  rw [Bool.true_and]
  exact .cons (legible_block ht hnull q hg b) (fun hno => by cases hno) hread

end Straight

end MathProg
