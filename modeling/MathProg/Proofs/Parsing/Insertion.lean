import MathProg.Proofs.Parsing.Fresh
import MathProg.Proofs.Parsing.Relabel
import MathProg.Proofs.Parsing.Sight

/-!
# Blanks between tokens

Blanks that are put between the tokens of a text that is read straight are read as part of the gap that
they are put into. All tokens are found again behind them, and the parser makes the same moves.
-/

namespace MathProg

theorem slice_append {source : List Char} {a b c : Nat} (hab : a ≤ b) (hbc : b ≤ c) :
    slice source a b ++ slice source b c = slice source a c := by
  have hlength : c - a = (b - a) + (c - b) := by omega
  rw [slice, slice, slice, hlength, List.take_add, List.drop_drop, Nat.add_sub_cancel' hab]

theorem drop_eq_slice {source : List Char} {a b : Nat} (hab : a ≤ b) :
    source.drop a = slice source a b ++ source.drop b := by
  have hdrop : source.drop b = (source.drop a).drop (b - a) := by
    rw [List.drop_drop, Nat.add_sub_cancel' hab]
  rw [slice, hdrop, List.take_append_drop]

/-- Behind a stretch from a place is a place. -/
theorem IsPlace.add_stretch {source x y : List Char} {e : Extent} (h : IsPlace source e)
    (hx : source.drop e.chars = x ++ y) :
    e + Extent.ofChars x = Extent.ofChars (source.take (e.chars + x.length)) := by
  rw [List.take_add, hx, List.take_left, Extent.ofChars_append, ← h.extent]

/-- Blanks that are put into a text, not before the mark that may open it. -/
structure Insertion where
  before : List Char
  blanks : List Char
  behind : List Char
  blank : ∀ c ∈ blanks, isBlank c = true
  nonempty : blanks ≠ []
  mark : before = [] → behind.head? ≠ some byteOrderMark

namespace Insertion

variable (i : Insertion)

def source : List Char := i.before ++ i.behind

def result : List Char := i.before ++ (i.blanks ++ i.behind)

/-- Where the blanks are put in. -/
def place : Nat := i.before.length

def width : Nat := i.blanks.length

theorem place_le : i.place ≤ i.source.length := by
  rw [source, List.length_append]
  exact Nat.le_add_right _ _

theorem length_result : i.result.length = i.source.length + i.width := by
  rw [result, source, width, List.length_append, List.length_append, List.length_append]
  omega

theorem take_result {k : Nat} (h : k ≤ i.place) : i.result.take k = i.source.take k := by
  rw [result, source, List.take_append_of_le_length h, List.take_append_of_le_length h]

theorem drop_result {k : Nat} (h : i.place ≤ k) : i.result.drop (k + i.width) = i.source.drop k := by
  obtain ⟨n, rfl⟩ := Nat.exists_eq_add_of_le h
  have hresult : i.result = (i.before ++ i.blanks) ++ i.behind := (List.append_assoc _ _ _).symm
  have hlength : i.place + n + i.width = (i.before ++ i.blanks).length + n := by
    rw [List.length_append, place, width]
    omega
  rw [hresult, hlength, ← List.drop_drop, List.drop_left, source, place, ← List.drop_drop,
    List.drop_left]

theorem slice_place {k : Nat} (h : k ≤ i.place) : slice i.source k i.place = i.before.drop k := by
  rw [slice, source, List.drop_append_of_le_length h, place, List.take_left' (List.length_drop ..)]

theorem drop_source {k : Nat} (h : k ≤ i.place) :
    i.source.drop k = slice i.source k i.place ++ i.behind := by
  rw [i.slice_place h, source, List.drop_append_of_le_length h]

/-- Before the blanks the text goes on as it was up to them. -/
theorem drop_result_before {k : Nat} (h : k ≤ i.place) :
    i.result.drop k = slice i.source k i.place ++ (i.blanks ++ i.behind) := by
  rw [i.slice_place h, result, List.drop_append_of_le_length h]

/-- A stretch that has the blanks put in. -/
theorem slice_result {a b : Nat} (ha : a ≤ i.place) (hb : i.place ≤ b) :
    slice i.result a (b + i.width) =
      slice i.source a i.place ++ (i.blanks ++ slice i.source i.place b) := by
  have hlength : b + i.width - a =
      (slice i.source a i.place).length + (i.blanks.length + (b - i.place)) := by
    rw [i.slice_place ha, List.length_drop, width]
    change b + i.blanks.length - a = i.place - a + (i.blanks.length + (b - i.place))
    omega
  have hbehind : slice i.source i.place b = i.behind.take (b - i.place) := by
    rw [slice, source, place, List.drop_left]
  rw [slice, i.drop_result_before ha, hlength, List.take_length_add_append,
    List.take_length_add_append, hbehind]

/-- A place behind the blanks. -/
def moved (e : Extent) : Extent := Extent.ofChars (i.result.take (e.chars + i.width))

/-- The place at which something begins that began at `e`. -/
def start (e : Extent) : Extent := if e.chars < i.place then e else i.moved e

/-- The place at which something stops that stopped at `e`. -/
def stop (e : Extent) : Extent := if e.chars ≤ i.place then e else i.moved e

theorem chars_moved {e : Extent} (h : IsPlace i.source e) : (i.moved e).chars = e.chars + i.width := by
  rw [moved, Extent.chars_ofChars, List.length_take, i.length_result,
    Nat.min_eq_left (Nat.add_le_add_right h.bound _)]

theorem isPlace_before {e : Extent} (h : IsPlace i.source e) (hle : e.chars ≤ i.place) :
    IsPlace i.result e := by
  refine ⟨?_, ?_⟩
  · rw [i.length_result]
    exact Nat.le_add_right_of_le h.bound
  · rw [i.take_result hle]
    exact h.extent

theorem isPlace_moved {e : Extent} (h : IsPlace i.source e) : IsPlace i.result (i.moved e) := by
  refine ⟨?_, ?_⟩
  · rw [i.chars_moved h, i.length_result]
    exact Nat.add_le_add_right h.bound _
  · rw [i.chars_moved h]
    rfl

/-- A leaf and the blanks do not touch: the blanks are not inside of it, not before it if it is a suffix,
and not behind it if it is a comment up to the end of the line. -/
structure Clear (place : Nat) (l : Leaf) : Prop where
  apart : l.ends place ≤ i.place ∨ i.place ≤ l.begins place
  suffix : l.symbol = Symbol.suffix → l.begins place ≠ i.place
  line : l.symbol = Symbol.comment → i.source[l.begins place]? = some '#' → l.ends place ≠ i.place

/-- The leaf whose gap the blanks are put into gets a longer one. -/
def widened (place : Nat) (l : Leaf) : Leaf :=
  if place ≤ i.place ∧ i.place ≤ l.begins place then
    { l with padding := Extent.ofChars (slice i.result place (l.begins place + i.width)) }
  else l

def relabeling : Relabeling where
  leaf := i.widened
  symbol place l := by
    unfold widened
    split <;> rfl
  extra place l e := by
    unfold widened Leaf.begins
    dsimp only
    split <;> rfl

/-- Further on the text is as it was. -/
theorem slice_result_of_le {a b : Nat} (h : i.place ≤ a) :
    slice i.result (a + i.width) (b + i.width) = slice i.source a b := by
  rw [slice, slice, i.drop_result h, Nat.add_sub_add_right]

/-- A changed leaf begins where the leaf began, or behind the blanks. -/
theorem stop_add_padding {p : Extent} {l : Leaf} (hl : l.Fits i.source p.chars)
    (hp : IsPlace i.source p) : i.stop p + (i.widened p.chars l).padding = i.start (p + l.padding) := by
  have hends : l.ends p.chars = l.begins p.chars + l.size.chars := rfl
  have hbegins : (p + l.padding).chars = l.begins p.chars := rfl
  have hbound := hl.bound
  have hle : p.chars ≤ l.begins p.chars := Nat.le_add_right _ _
  have hslice : ∀ (s : List Char) (e : Extent) (b : Nat), IsPlace s e → e.chars ≤ b → b ≤ s.length →
      e + Extent.ofChars (slice s e.chars b) = Extent.ofChars (s.take b) := by
    intro s e b he heb hbs
    have hlength : (slice s e.chars b).length = b - e.chars := by
      rw [slice, List.length_take, List.length_drop]
      omega
    rw [he.add_stretch (drop_eq_slice heb), hlength, Nat.add_sub_cancel' heb]
  by_cases hbehind : i.place ≤ l.begins p.chars
  · have hstart : i.start (p + l.padding) =
        Extent.ofChars (i.result.take (l.begins p.chars + i.width)) :=
      if_neg (by rw [hbegins]; exact Nat.not_lt_of_le hbehind)
    have hwidth := i.length_result
    rw [hstart, stop]
    by_cases hplace : p.chars ≤ i.place
    · rw [if_pos hplace, widened, if_pos ⟨hplace, hbehind⟩]
      exact hslice _ _ _ (i.isPlace_before hp hplace) (by omega) (by omega)
    · have hchars := i.chars_moved hp
      have hmoved := hslice _ _ (l.begins p.chars + i.width) (i.isPlace_moved hp) (by omega) (by omega)
      rw [hchars, i.slice_result_of_le (by omega), ← hl.padding] at hmoved
      rw [if_neg hplace, widened, if_neg fun hno => hplace hno.1]
      exact hmoved
  · rw [start, stop, hbegins, if_pos (by omega), if_pos (by omega), widened,
      if_neg fun hno => hbehind hno.2]

/-- A changed leaf stops where the leaf stopped, or that much further on. -/
theorem stop_add_total {p : Extent} {l : Leaf} (hl : l.Fits i.source p.chars)
    (hp : IsPlace i.source p) (hc : i.Clear p.chars l) (hpos : 0 < l.size.chars) :
    i.stop p + (Tree.leaf (i.widened p.chars l)).total = i.stop (p + (Tree.leaf l).total) := by
  have hsize : (i.widened p.chars l).size = l.size := by
    unfold widened
    split <;> rfl
  have htotal : (p + (Tree.leaf l).total).chars = l.ends p.chars := (Nat.add_assoc _ _ _).symm
  have hbegins : (p + l.padding).chars = l.begins p.chars := rfl
  have hends : l.ends p.chars = l.begins p.chars + l.size.chars := rfl
  have hbound := hl.bound
  change i.stop p + ((i.widened p.chars l).padding + (i.widened p.chars l).size) = _
  rw [← Extent.add_assoc, i.stop_add_padding hl hp, hsize, start, stop, htotal, hbegins]
  rcases hc.apart with hbefore | hbehind
  · rw [if_pos (by omega), if_pos hbefore, Extent.add_assoc]
    rfl
  · rw [if_neg (by omega), if_neg (by omega), moved, moved, htotal, hbegins, hl.size, Leaf.text,
      ← i.slice_result_of_le hbehind, ← Extent.ofChars_append]
    refine congrArg Extent.ofChars ?_
    have htake : ∀ (s : List Char) (a b : Nat), a ≤ b → s.take a ++ slice s a b = s.take b := by
      intro s a b hab
      rw [slice, ← List.take_add, Nat.add_sub_cancel' hab]
    exact htake _ _ _ (by omega)

theorem blanks_ends : Ends (i.blanks ++ i.behind) := by
  obtain ⟨c, cs, hcs⟩ := List.exists_cons_of_ne_nil i.nonempty
  rw [hcs]
  rintro _ ⟨⟩
  exact i.blank c (by rw [hcs]; exact List.mem_cons_self)

theorem firstVisible_blanks :
    Value.firstVisible (i.blanks ++ i.behind) = Value.firstVisible i.behind := by
  rw [Value.firstVisible, List.dropWhile_append_of_pos i.blank, Value.firstVisible]

end Insertion

namespace Straight

open Automaton (mode action?)

variable {i : Insertion} {fs fs' gs : List Frame} {p q : Extent} {l : Leaf} {g w rest : List Char}
  {ls : List (Extent × Leaf)} {t : Tree}

theorem Sighted.ends_eq {source : List Char} (h : Sighted source fs p l g w rest) :
    l.begins p.chars = p.chars + g.length ∧ l.ends p.chars = p.chars + g.length + w.length ∧
      0 < w.length := by
  have hb : l.begins p.chars = p.chars + g.length := by
    rw [h.leaf]
    exact congrArg (p.chars + ·) (Extent.chars_ofChars g)
  have he : l.size.chars = w.length := by
    rw [h.leaf]
    exact Extent.chars_ofChars w
  refine ⟨hb, by rw [Leaf.ends, hb, he], ?_⟩
  obtain ⟨c, hc, -⟩ := h.first
  obtain ⟨v, rfl⟩ := List.head?_eq_some_iff.mp hc
  exact Nat.succ_pos _

theorem Sighted.padding_eq {source : List Char} (h : Sighted source fs p l g w rest) :
    { l with padding := Extent.ofChars g } = l := by
  rw [h.leaf]

/-- A token before the blanks is seen as it was. -/
theorem Sighted.before (h : Sighted i.source fs p l g w rest) (hs : stateOf fs' = stateOf fs)
    (hp : IsPlace i.source p) (hc : i.Clear p.chars l) (hle : l.ends p.chars ≤ i.place)
    (hslash : w = ['/'] → rest.head? ≠ some '*')
    (hpoint : i.behind.head? = some '.' → slice i.source (l.ends p.chars) i.place ≠ ['.']) :
    sight i.result fs' p = l := by
  obtain ⟨hbegins, hends, hpos⟩ := h.ends_eq
  have hplace : p.chars ≤ i.place := by omega
  have hgw : p.chars + (g ++ w).length = l.ends p.chars := by rw [hends, List.length_append]; omega
  have hrest : rest = slice i.source (l.ends p.chars) i.place ++ i.behind := by
    rw [← i.drop_source hle, ← hgw, ← List.drop_drop, h.text, ← List.append_assoc, List.drop_left]
  have htext : i.result.drop p.chars =
      g ++ (w ++ (slice i.source (l.ends p.chars) i.place ++ (i.blanks ++ i.behind))) := by
    have hsame : slice i.source p.chars (l.ends p.chars) = g ++ w := by
      rw [slice, h.text, ← List.append_assoc, ← hgw, Nat.add_sub_cancel_left, List.take_left]
    rw [i.drop_result_before hplace, ← slice_append (by omega) hle, hsame, List.append_assoc,
      List.append_assoc]
  have hagain : sight i.result fs' p = { l with padding := Extent.ofChars g } := by
    refine h.again (i.isPlace_before hp hplace) htext h.gap ?_
    rw [hs]
    constructor
    · rw [hrest]
      exact .mk _ i.blanks_ends.cut hpoint
    · constructor
      · intro hw
        obtain ⟨hcomment, hline⟩ := h.line hw
        cases hslice : slice i.source (l.ends p.chars) i.place with
        | nil =>
          have hhash : i.source[l.begins p.chars]? = some '#' := by
            rw [hbegins, ← List.getElem?_drop, h.text, List.getElem?_append_right (Nat.le_refl _),
              Nat.sub_self, ← List.head?_eq_getElem?, List.head?_append, hw]
            rfl
          rw [i.slice_place hle, List.drop_eq_nil_iff] at hslice
          exact absurd (Nat.le_antisymm hle hslice) (hc.line hcomment hhash)
        | cons c cs =>
          rintro _ ⟨⟩
          exact hline c (by rw [hrest, hslice]; rfl)
      · exact hslash
    · intro _
      rw [hrest]
      exact Value.alike_of_visible fun _ => Value.firstVisible_append _ i.firstVisible_blanks
    · rfl
    · exact fun u hu => Or.inl hu
    · exact h.candidate
  rw [hagain, h.padding_eq]

/-- What the blanks make of a gap is a gap. -/
theorem gap_blanks {a b : Nat} (ha : a ≤ i.place) (hb : i.place ≤ b)
    (hg : Gap (a == 0) (slice i.source a b)) : Gap (a == 0) (slice i.result a (b + i.width)) := by
  rw [i.slice_result ha hb]
  rw [← slice_append ha hb] at hg
  rcases hg with hblank | ⟨ha0, v, hv, hblank⟩
  · obtain ⟨h1, h2⟩ := List.forall_mem_append.mp hblank
    exact Or.inl (List.forall_mem_append.mpr ⟨h1, List.forall_mem_append.mpr ⟨i.blank, h2⟩⟩)
  · obtain rfl := beq_iff_eq.mp ha0
    cases hslice : slice i.source 0 i.place with
    | nil =>
      -- the mark stands right behind the blanks
      exfalso
      rw [hslice, List.nil_append] at hv
      rw [i.slice_place ha, List.drop_zero] at hslice
      have hbehind : slice i.source i.place b = i.behind.take (b - i.place) := by
        rw [slice, Insertion.source, Insertion.place, List.drop_left]
      refine i.mark hslice ?_
      rw [hbehind] at hv
      cases hbeh : i.behind with
      | nil =>
        rw [hbeh, List.take_nil] at hv
        cases hv
      | cons c cs =>
        rw [hbeh] at hv
        cases hn : b - i.place with
        | zero =>
          rw [hn] at hv
          cases hv
        | succ n =>
          rw [hn] at hv
          exact congrArg some (List.cons.inj hv).1
    | cons c cs =>
      rw [hslice, List.cons_append] at hv
      obtain ⟨rfl, rfl⟩ := List.cons.inj hv
      obtain ⟨h1, h2⟩ := List.forall_mem_append.mp hblank
      exact Or.inr ⟨rfl, _, rfl,
        List.forall_mem_append.mpr ⟨h1, List.forall_mem_append.mpr ⟨i.blank, h2⟩⟩⟩

theorem Sighted.gap_eq {source : List Char} (h : Sighted source fs p l g w rest) :
    slice source p.chars (l.begins p.chars) = g := by
  rw [h.ends_eq.1, slice, h.text, Nat.add_sub_cancel_left, List.take_left]

/-- A suffix that the blanks are put before has them right before it. -/
theorem Sighted.not_suffix (h : Sighted i.source fs p l g w rest) (hc : i.Clear p.chars l)
    (hle : p.chars ≤ i.place) (hge : i.place ≤ l.begins p.chars) : l.symbol ≠ Symbol.suffix := by
  intro hsuffix
  have hlt := Nat.lt_of_le_of_ne hge (hc.suffix hsuffix).symm
  have hmem := h.candidate (hsuffix ▸ by decide)
  have hnone : g.countP isBlank = 0 := by
    by_contra hsome
    rw [Mode.candidates, if_neg hsome, List.mem_filter, hsuffix, bne_self_eq_false] at hmem
    exact Bool.false_ne_true hmem.2
  have hg := h.gap_eq
  rw [← slice_append hle hge] at hg
  have hlater : ∀ c ∈ slice i.source i.place (l.begins p.chars), isBlank c = false := by
    intro c hc
    rw [← hg, List.countP_append, Nat.add_eq_zero_iff, List.countP_eq_zero] at hnone
    exact Bool.not_eq_true _ ▸ List.countP_eq_zero.mp hnone.2 c hc
  obtain ⟨c, cs, hcs⟩ : ∃ c cs, slice i.source i.place (l.begins p.chars) = c :: cs := by
    refine List.exists_cons_of_ne_nil fun hnil => ?_
    have hlength := congrArg List.length hg
    rw [hnil, List.append_nil, i.slice_place hle, List.length_drop] at hlength
    have hbegins := h.ends_eq.1
    change i.place - p.chars = g.length at hlength
    omega
  have hc := hlater c (hcs ▸ List.mem_cons_self)
  rw [hcs] at hg
  rcases h.gap with hblank | ⟨hzero, v, rfl, hblank⟩
  · rw [hblank c (hg ▸ List.mem_append_right _ List.mem_cons_self)] at hc
    cases hc
  · cases hfirst : slice i.source p.chars i.place with
    | cons d ds =>
      rw [hfirst, List.cons_append] at hg
      rw [hblank c ((List.cons.inj hg).2 ▸ List.mem_append_right _ List.mem_cons_self)] at hc
      cases hc
    | nil =>
      rw [beq_iff_eq] at hzero
      rw [i.slice_place hle, hzero, List.drop_zero] at hfirst
      have htext := h.text
      rw [hzero, List.drop_zero, Insertion.source, hfirst, List.nil_append] at htext
      exact i.mark hfirst (htext ▸ rfl)

theorem Sighted.behind_text (h : Sighted i.source fs p l g w rest) (hle : p.chars ≤ i.place)
    (hge : i.place ≤ l.begins p.chars) : i.result.drop p.chars =
      slice i.result p.chars (l.begins p.chars + i.width) ++ (w ++ rest) := by
  rw [drop_eq_slice (b := l.begins p.chars + i.width) (by omega), i.drop_result hge,
    h.ends_eq.1, ← List.drop_drop, h.text, List.drop_left]

/-- The token behind the blanks is seen behind a longer gap. -/
theorem Sighted.behind (h : Sighted i.source fs p l g w rest) (hs : stateOf fs' = stateOf fs)
    (hp : IsPlace i.source p) (hc : i.Clear p.chars l) (hle : p.chars ≤ i.place)
    (hge : i.place ≤ l.begins p.chars) (hslash : w = ['/'] → rest.head? ≠ some '*') :
    sight i.result fs' p = { l with
      padding := Extent.ofChars (slice i.result p.chars (l.begins p.chars + i.width)) } := by
  have hg := h.gap_eq
  have hgap := gap_blanks hle hge (by rw [hg]; exact h.gap)
  have hblanks : (slice i.result p.chars (l.begins p.chars + i.width)).countP isBlank ≠ 0 := by
    obtain ⟨c, cs, hcs⟩ := List.exists_cons_of_ne_nil i.nonempty
    have hc : c ∈ i.blanks := by rw [hcs]; exact List.mem_cons_self
    refine Nat.ne_of_gt (List.countP_pos_iff.mpr ⟨c, ?_, i.blank c hc⟩)
    rw [i.slice_result hle hge]
    exact List.mem_append_right _ (List.mem_append_left _ hc)
  refine h.again (i.isPlace_before hp hle) (h.behind_text hle hge) hgap ?_
  rw [hs]
  constructor
  · exact .refl rest
  · exact ⟨fun hw => (h.line hw).2, hslash⟩
  · exact fun _ => Value.alike_of_visible fun _ => rfl
  · rfl
  · intro u hu
    rw [Mode.candidates, if_neg hblanks, List.mem_filter, bne_iff_ne] at hu
    exact Or.inl (Mode.mem_candidates hu.1 hu.2 _)
  · intro hl
    have hmem := h.candidate hl
    exact Mode.mem_candidates (Mode.mem_tokens_of_candidates hmem)
      (h.not_suffix hc hle hge) _

/-- A token further on is seen as it was. -/
theorem Sighted.further (h : Sighted i.source fs p l g w rest) (hs : stateOf fs' = stateOf fs)
    (hp : IsPlace i.source p) (hlt : i.place < p.chars) : sight i.result fs' (i.moved p) = l := by
  have hchars := i.chars_moved hp
  have htext : i.result.drop (i.moved p).chars = g ++ (w ++ rest) := by
    rw [hchars, i.drop_result (Nat.le_of_lt hlt), h.text]
  have hgap : Gap ((i.moved p).chars == 0) g := by
    refine Or.inl (h.gap.resolve_right fun hmark => ?_)
    rw [beq_iff_eq] at hmark
    omega
  have hlegible : Legible (stateOf fs') ((i.moved p).chars == 0) l g w rest :=
    hs ▸ { h.toLegible with gap := hgap }
  exact hlegible.sight htext (i.isPlace_moved hp).atStart

theorem each_of_reduce {P : Nat → Leaf → Prop} {r : Automaton.Rule}
    (h : Tree.EachAll P 0 (trees gs)) (hred : reduce r fs = some gs) :
    Tree.EachAll P 0 (trees fs) := by
  obtain ⟨⟨ts, below⟩, hpop, rfl⟩ := Option.map_eq_some_iff.mp hred
  have hsplit := trees_pop hpop
  rw [List.append_nil] at hsplit
  rw [trees_pushAll, Tree.eachAll_append, Tree.EachAll, Tree.ofRule, Tree.total_node] at h
  rw [hsplit, Tree.eachAll_append]
  refine ⟨h.1, ?_⟩
  rw [← (Tree.splitTrailingExtras_spec ts).1, Tree.eachAll_append]
  exact h.2

theorem each_of_reduces {P : Nat → Leaf → Prop} {x : Symbol} (h : Tree.EachAll P 0 (trees gs))
    (hr : Reduces x fs gs) : Tree.EachAll P 0 (trees fs) := by
  induction hr with
  | refl => exact h
  | step _ hred _ ih => exact each_of_reduce (ih h) hred

/-- What holds of the leaves that are on the stack holds of the one that was taken last. -/
theorem each_of_takes {P : Nat → Leaf → Prop} (hP : ∀ k l e, P k { l with extra := e } → P k l)
    (h : Tree.EachAll P 0 (trees gs)) (ht : Takes l fs gs) :
    Tree.EachAll P 0 (trees fs) ∧ P (Tree.totalAll (trees fs)).chars l := by
  cases ht with
  | token hr ha =>
    rw [trees_cons, Tree.eachAll_append, Nat.zero_add, totalAll_reduces hr] at h
    exact ⟨each_of_reduces h.1 hr, h.2.1⟩
  | comment ha =>
    rw [trees_cons, Tree.eachAll_append, Nat.zero_add] at h
    exact ⟨h.1, hP _ _ _ h.2.1⟩

theorem each_of_run {P : Nat → Leaf → Prop} {source : List Char}
    (hP : ∀ k l e, P k { l with extra := e } → P k l) (h : Tree.EachAll P 0 (trees gs))
    (hr : Run source fs p ls gs q) : Tree.EachAll P 0 (trees fs) := by
  induction hr with
  | nil => exact h
  | cons _ ht _ ih => exact (each_of_takes hP (ih h) ht).1

/-- A point before the blanks is not followed by another one behind them. -/
theorem not_points (hst : Standing i.source fs p) (hr : Run i.source fs p ls gs q)
    (ha : Accepts i.source gs q t) (hclear : Tree.EachAll i.Clear 0 (trees gs))
    (hle : p.chars ≤ i.place) (hbehind : i.behind.head? = some '.') :
    slice i.source p.chars i.place ≠ ['.'] := by
  intro hslice
  obtain ⟨a, hact⟩ := hr.acts ha
  obtain ⟨hne, w, rest, hs, hw⟩ := hst.sighted_here (c := '.') (y := i.behind)
    (by rw [i.drop_source hle, hslice]; rfl) (by decide) (by decide) hact
  cases hr with
  | nil => exact hne ha.ended
  | cons hl ht hr =>
    have hc := (each_of_takes (fun _ _ _ h => ⟨h.apart, h.suffix, h.line⟩)
      (each_of_run (fun _ _ _ h => ⟨h.apart, h.suffix, h.line⟩) hclear hr) ht).2
    rw [← hst.stacked.position, ← hl] at hc
    obtain ⟨hbegins, hends, hpos⟩ := hs.ends_eq
    have hplace : i.place = p.chars + 1 := by
      have hlength := congrArg List.length hslice
      rw [i.slice_place hle, List.length_drop] at hlength
      change i.place - p.chars = 1 at hlength
      omega
    have hone : w.length = 1 := by
      rcases hc.apart with h | h
      · rw [List.length_nil] at hends
        omega
      · rw [List.length_nil] at hbegins
        omega
    obtain ⟨v, rfl⟩ := List.head?_eq_some_iff.mp hw
    obtain rfl : v = [] := List.eq_nil_of_length_eq_zero (Nat.succ.inj hone)
    refine hs.not_point ?_
    have htext := hs.text
    rw [i.drop_source hle, hslice] at htext
    have hrest : i.behind = rest := (List.cons.inj htext).2
    rw [← hrest]
    exact hbehind

/-- Each token is seen again. -/
theorem Sighted.widened (h : Sighted i.source fs p l g w rest) (hs : stateOf fs' = stateOf fs)
    (hp : IsPlace i.source p) (hc : i.Clear p.chars l) (hslash : w = ['/'] → rest.head? ≠ some '*')
    (hpoint : l.ends p.chars ≤ i.place → i.behind.head? = some '.' →
      slice i.source (l.ends p.chars) i.place ≠ ['.']) :
    sight i.result fs' (i.stop p) = i.widened p.chars l := by
  obtain ⟨hbegins, hends, hpos⟩ := h.ends_eq
  rcases hc.apart with hle | hge
  · rw [Insertion.stop, if_pos (by omega), Insertion.widened, if_neg fun hno => by omega]
    exact h.before hs hp hc hle hslash (hpoint hle)
  · rw [Insertion.stop, Insertion.widened]
    by_cases hle : p.chars ≤ i.place
    · rw [if_pos hle, if_pos ⟨hle, hge⟩]
      exact h.behind hs hp hc hle hge hslash
    · rw [if_neg hle, if_neg fun hno => hle hno.1]
      exact h.further hs hp (Nat.lt_of_not_le hle)

/-- The text with the blanks is run through in the same way. -/
theorem Run.widened (hr : Run i.source fs p ls gs q) (ha : Accepts i.source gs q t)
    (hst : Standing i.source fs p) (hclear : Tree.EachAll i.Clear 0 (trees gs))
    (hrel : Relabels i.relabeling [] fs fs') :
    ∃ ls' gs', Run i.result fs' (i.stop p) ls' gs' (i.stop q) ∧
      Relabels i.relabeling [] gs gs' := by
  induction hr generalizing fs' with
  | nil => exact ⟨[], fs', .nil _ _, hrel⟩
  | @cons fs hs gs p q l ls hl ht hr ih =>
    have hnext := hst.takes (hl ▸ hst.isNext) ht
    have hc := (each_of_takes (fun _ _ _ h => ⟨h.apart, h.suffix, h.line⟩)
      (each_of_run (fun _ _ _ h => ⟨h.apart, h.suffix, h.line⟩) hclear hr) ht).2
    rw [← hst.stacked.position] at hc
    obtain ⟨⟨a, hact⟩, hne⟩ := ht.acts
    obtain ⟨g, w, rest, hsight⟩ := hst.sighted hl hact hne
    obtain ⟨-, hends, -⟩ := hsight.ends_eq
    have hreach : (p + (Tree.leaf l).total).chars = l.ends p.chars := by
      rw [Tree.chars_add, Leaf.ends, Leaf.begins, Nat.add_assoc]
      rfl
    have hagain := hsight.widened hrel.stateOf_nil hst.stacked.isPlace hc
      (fun hw => by subst hw; exact hsight.not_star hst hl ht hr ha)
      (fun hle hbehind => by
        rw [← hreach] at hle ⊢
        exact not_points hnext hr ha hclear hle hbehind)
    obtain ⟨hs', htakes, hrel'⟩ := hrel.takes ht
    rw [← hst.stacked.position] at htakes
    obtain ⟨ls', gs', hrun, hlast⟩ := ih ha hnext hclear hrel'
    have hpos : 0 < l.size.chars := by
      have hends : l.ends p.chars = l.begins p.chars + l.size.chars := rfl
      have hsame := hsight.ends_eq
      omega
    rw [← i.stop_add_total (hl ▸ hst.isNext).fits hst.stacked.isPlace hc hpos] at hrun
    exact ⟨_, gs', .cons hagain htakes hrun, hlast⟩

/-- The end of the text is seen again, behind a gap with the blanks if they are put into it. -/
theorem sight_end_widened (hst : Standing i.source fs p)
    (hend : (sight i.source fs p).symbol = Symbol.endOfText) :
    sight i.result fs' (i.stop p) = i.widened p.chars (sight i.source fs p) := by
  have hp := hst.stacked.isPlace
  have hgap := hst.gap_of_end hend
  have hslice : ∀ (s : List Char) a, slice s a s.length = s.drop a := fun s a => by
    rw [slice, ← List.length_drop, List.take_length]
  have hbegins : Leaf.begins p.chars
      ⟨Symbol.endOfText, Extent.ofChars (i.source.drop p.chars), 0, true, .read⟩ = i.source.length := by
    rw [Leaf.begins, Extent.chars_ofChars, List.length_drop]
    exact Nat.add_sub_cancel' hp.bound
  have hsight : sight i.source fs p = _ := sight_end (hp.atStart ▸ hgap)
  rw [hsight, Insertion.stop, Insertion.widened, hbegins]
  by_cases hle : p.chars ≤ i.place
  · have hgap' := gap_blanks hle i.place_le (by rw [hslice]; exact hgap)
    rw [if_pos hle, if_pos ⟨hle, i.place_le⟩]
    rw [← i.length_result, hslice] at hgap' ⊢
    exact sight_end (hp.atStart ▸ hgap')
  · have htext : i.result.drop (i.moved p).chars = i.source.drop p.chars := by
      rw [i.chars_moved hp, i.drop_result (by omega)]
    rw [if_neg hle, if_neg fun hno => hle hno.1, ← htext]
    refine sight_end (Or.inl ?_)
    rw [htext]
    exact hgap.resolve_right fun hmark => by rw [beq_iff_eq] at hmark; omega

/-- The trees on the stack at the end of the text, and the tree that is made of them. -/
theorem root_of_trees {source : List Char} (hst : Standing source fs p)
    (hdone : stateOf fs = Automaton.done) (hextra : l.extra = true)
    (hroot : Tree.root? (trees fs ++ [.leaf l]) = some t) :
    ∃ before s as cs after, trees fs = before ++ .node s as cs false :: after ∧
      (∀ v ∈ after ++ [.leaf l], v.extra = true) ∧
        t = .node s as ((before ++ cs ++ after) ++ [.leaf l]) false := by
  obtain ⟨n, hpath⟩ := hst.stacked.path (.here _)
  rw [List.append_nil] at hpath
  have htiled := hpath.tiled
  obtain ⟨before, u, after, htrees, -, hu, hmodel, hafter⟩ := hpath.arrive hdone rfl
  have hall : ∀ v ∈ after ++ [.leaf l], v.extra = true :=
    List.forall_mem_append.mpr ⟨hafter, List.forall_mem_singleton.mpr hextra⟩
  rw [trees, htrees, List.append_assoc, List.cons_append] at hroot
  rw [htrees] at htiled
  cases u with
  | leaf k =>
    rw [Tree.tiledAll_append] at htiled
    exact absurd hmodel htiled.2.1.ne_model
  | node s as cs e =>
    obtain rfl : e = false := hu
    rw [Tree.root?_eq hall, ← List.append_assoc] at hroot
    exact ⟨before, s, as, cs, after, htrees, hall, (Option.some.inj hroot).symm⟩

/-- With changed leaves, the trees on the stack make the tree with the changed leaves. -/
theorem root_treeAll (φ : Relabeling) (s : Symbol) (as : List (Nat × Symbol)) (before cs : List Tree)
    {after : List Tree} (hextra : ∀ v ∈ after ++ [.leaf l], v.extra = true) :
    Tree.root? (φ.treeAll 0 ((before ++ .node s as cs false :: after) ++ [.leaf l])) =
      some (φ.tree 0 (.node s as ((before ++ cs ++ after) ++ [.leaf l]) false)) := by
  rw [List.append_assoc, List.cons_append, φ.treeAll_append, Relabeling.treeAll, Relabeling.tree,
    Tree.root?_eq (φ.treeAll_extras _ hextra), Tree.total_node, Relabeling.tree,
    List.append_assoc (before ++ cs), φ.treeAll_append 0 (before ++ cs), φ.treeAll_append 0 before,
    Tree.totalAll_append, Tree.chars_add, Nat.zero_add, Nat.zero_add]

/-- The text with the blanks is read as the text was, but for the gap that they are put into. -/
theorem parse_widened {s : Symbol} {as : List (Nat × Symbol)} {cs : List Tree} {e : Leaf}
    (h : parse i.source = some (.accepted (.node s as (cs ++ [.leaf e]) false)))
    (hclear : Tree.EachAll i.Clear 0 cs) :
    parse i.result =
      some (.accepted (i.relabeling.tree 0 (.node s as (cs ++ [.leaf e]) false))) := by
  obtain ⟨ls, fs, p, hrun, hacc⟩ := run_of_parse h
  obtain ⟨hend, gs, hreds, haction, hroot⟩ := hacc
  have hst := (Standing.initial _).run hrun
  have hnext := hst.isNext
  have hextra : (sight i.source fs p).extra = true := by
    rw [hnext.extra, hend]
    rfl
  obtain ⟨before, s', as', cs', after, htrees, hall, ht⟩ := root_of_trees (hst.reduces hreds)
    (Automaton.done_of_accept haction) hextra hroot
  obtain ⟨rfl, rfl, hcs, -⟩ := Tree.node.inj ht
  obtain ⟨rfl, he⟩ := List.append_inj' hcs rfl
  rw [Tree.eachAll_append, Tree.eachAll_append] at hclear
  have hlast : Tree.EachAll i.Clear 0 (trees fs) := by
    refine each_of_reduces ?_ hreds
    rw [htrees, Tree.eachAll_append, Tree.EachAll, Tree.Each, Tree.total_node]
    rw [Tree.totalAll_append, Tree.chars_add, ← Nat.add_assoc] at hclear
    exact ⟨hclear.1.1, hclear.1.2, hclear.2⟩
  obtain ⟨ls', fs', hrun', hrel⟩ := hrun.widened ⟨hend, gs, hreds, haction, hroot⟩
    (Standing.initial _) hlast (.refl _ [])
  obtain ⟨gs', hreds', hrel'⟩ := hrel.reduces hreds
  have hstart : i.stop 0 = 0 := if_pos (Nat.zero_le _)
  rw [hstart] at hrun'
  refine parse_of_run hrun' ⟨?_, gs', hreds', ?_, ?_⟩
  · rw [sight_end_widened hst hend]
    exact (i.relabeling.symbol _ _).trans hend
  · rw [hrel'.stateOf_nil]
    exact haction
  · rw [hrel'.trees, sight_end_widened hst hend]
    have hplace : (Tree.totalAll (trees gs)).chars = p.chars := by
      rw [totalAll_reduces hreds, ← hst.stacked.position]
    have htree := root_treeAll i.relabeling s as before cs' hall
    rw [← htrees, i.relabeling.treeAll_append, Nat.zero_add, hplace] at htree
    rw [he]
    exact htree

end Straight

end MathProg
