import MathProg.Proofs.Node.Errors
import MathProg.Proofs.Parsing.Lossless

/-!
# Positions

The parser adds up how far each piece of text reaches, and never looks at the text again. What comes out
of the sums is where a node stands: the line feeds before its first byte and the bytes since the last of
them, counted in the bytes of the text itself.
-/

namespace MathProg

/-- The bytes of a text. -/
def utf8 (cs : List Char) : List UInt8 := cs.flatMap String.utf8EncodeChar

namespace Point

def lineFeed : UInt8 := 10

/-- The place behind a stretch of bytes: its line feeds, and the bytes since the last of them. -/
def ofBytes (bs : List UInt8) : Point :=
  ⟨bs.count lineFeed, (bs.reverse.takeWhile (· != lineFeed)).length⟩

/-- The place of a byte of a text, by its number. -/
def atByte (source : List Char) (offset : Nat) : Point := ofBytes ((utf8 source).take offset)

theorem column_of_not_mem {bs : List UInt8} (h : lineFeed ∉ bs) : (ofBytes bs).column = bs.length := by
  have hall : ∀ b ∈ bs.reverse, (b != lineFeed) = true := by
    intro b hb
    rw [bne_iff_ne]
    rintro rfl
    exact h (List.mem_reverse.mp hb)
  simp only [ofBytes, List.takeWhile_eq_self_iff.mpr hall, List.length_reverse]

/-- A line feed in the second stretch ends the line on which the first one stopped. -/
theorem ofBytes_append (as bs : List UInt8) :
    ofBytes (as ++ bs) = ⟨(ofBytes as).row + (ofBytes bs).row,
      if (ofBytes bs).row = 0 then (ofBytes as).column + (ofBytes bs).column
      else (ofBytes bs).column⟩ := by
  have hcolumn : (ofBytes (as ++ bs)).column =
      if (ofBytes bs).row = 0 then (ofBytes as).column + (ofBytes bs).column
      else (ofBytes bs).column := by
    by_cases h : lineFeed ∈ bs
    · have hrow : (ofBytes bs).row ≠ 0 := (List.count_pos_iff.mpr h).ne'
      have hstop : (bs.reverse.takeWhile (· != lineFeed)).length ≠ bs.reverse.length := by
        intro hlen
        have hself := (List.takeWhile_prefix _).eq_of_length hlen
        have hne := List.takeWhile_eq_self_iff.mp hself lineFeed (List.mem_reverse.mpr h)
        simp at hne
      rw [if_neg hrow]
      simp only [ofBytes, List.reverse_append, List.takeWhile_append, if_neg hstop]
    · have hrow : (ofBytes bs).row = 0 := List.count_eq_zero.mpr h
      have hwhole := column_of_not_mem h
      have hlen : (bs.reverse.takeWhile (· != lineFeed)).length = bs.reverse.length := by
        rw [List.length_reverse]
        exact hwhole
      rw [if_pos hrow, hwhole]
      change ((as ++ bs).reverse.takeWhile (· != lineFeed)).length = _
      rw [List.reverse_append, List.takeWhile_append, if_pos hlen, List.length_append,
        List.length_reverse, Nat.add_comm]
      rfl
  rw [← hcolumn]
  simp only [ofBytes, List.count_append]

end Point

/-- Every byte of a character of more than one byte is above the range of ASCII. -/
theorem lineFeed_mem_utf8EncodeChar (c : Char) :
    Point.lineFeed ∈ String.utf8EncodeChar c ↔ c = '\n' := by
  constructor
  · intro h
    have hbyte : ∀ n, 128 ≤ n → n < 256 → Point.lineFeed ≠ UInt8.ofNat n := by
      intro n hle hlt heq
      have hten := congrArg UInt8.toNat heq
      rw [UInt8.toNat_ofNat_of_lt' hlt, Point.lineFeed] at hten
      change 10 = n at hten
      omega
    unfold String.utf8EncodeChar at h
    dsimp only at h
    split at h
    · rename_i hle
      rw [List.mem_singleton] at h
      have hten := congrArg UInt8.toNat h
      rw [UInt8.toNat_ofNat_of_lt' (by change _ < 256; omega), Point.lineFeed] at hten
      change 10 = c.val.toNat at hten
      exact Char.ext (UInt32.toNat_inj.mp hten.symm)
    · exfalso
      split at h
      · simp only [List.mem_cons, List.not_mem_nil, or_false] at h
        rcases h with h | h
        all_goals exact hbyte _ (by omega) (by omega) h
      · split at h
        · simp only [List.mem_cons, List.not_mem_nil, or_false] at h
          rcases h with h | h | h
          all_goals exact hbyte _ (by omega) (by omega) h
        · simp only [List.mem_cons, List.not_mem_nil, or_false] at h
          rcases h with h | h | h | h
          all_goals exact hbyte _ (by omega) (by omega) h
  · rintro rfl
    decide

theorem point_ofChar (c : Char) : (Extent.ofChar c).point = Point.ofBytes (String.utf8EncodeChar c) := by
  unfold Extent.ofChar
  split
  · rename_i hc
    rw [hc]
    decide
  · rename_i hc
    have hnone := mt (lineFeed_mem_utf8EncodeChar c).mp hc
    have hcolumn := Point.column_of_not_mem hnone
    have hrow : (Point.ofBytes (String.utf8EncodeChar c)).row = 0 := List.count_eq_zero.mpr hnone
    rw [String.length_utf8EncodeChar] at hcolumn
    change (⟨0, c.utf8Size⟩ : Point) = _
    rw [← hrow, ← hcolumn]

namespace Extent

theorem length_utf8 (cs : List Char) : (utf8 cs).length = (ofChars cs).bytes := by
  induction cs with
  | nil => rfl
  | cons c cs ih =>
    have hc : (ofChar c).bytes = c.utf8Size := by
      unfold ofChar
      split
      · rename_i h
        rw [h]
        rfl
      · rfl
    rw [utf8, List.flatMap_cons, List.length_append, String.length_utf8EncodeChar, ofChars, bytes_add,
      hc, ← ih]
    rfl

/-- What is added up is what can be counted in the bytes. -/
theorem point_ofChars (cs : List Char) : (ofChars cs).point = Point.ofBytes (utf8 cs) := by
  induction cs with
  | nil => rfl
  | cons c cs ih =>
    have hc := point_ofChar c
    rw [utf8, List.flatMap_cons, Point.ofBytes_append, ← hc]
    change _ = (⟨_ + (Point.ofBytes (utf8 cs)).row, if (Point.ofBytes (utf8 cs)).row = 0 then
      _ + (Point.ofBytes (utf8 cs)).column else (Point.ofBytes (utf8 cs)).column⟩ : Point)
    rw [← ih]
    rfl

end Extent

theorem utf8_append (s t : List Char) : utf8 (s ++ t) = utf8 s ++ utf8 t := List.flatMap_append

/-- A place of the text is the point that its bytes give. -/
theorem IsPlace.point {source : List Char} {e : Extent} (h : IsPlace source e) :
    e.point = Point.atByte source e.bytes := by
  have hbytes : e.bytes = (utf8 (source.take e.chars)).length := by
    rw [Extent.length_utf8, ← h.extent]
  have hsplit : utf8 source = utf8 (source.take e.chars) ++ utf8 (source.drop e.chars) := by
    rw [← utf8_append, List.take_append_drop]
  rw [Point.atByte, hbytes, hsplit, List.take_left, ← Extent.point_ofChars, ← h.extent]

namespace Node

variable {source : List Char}

/-- A node that begins and ends at places of the text. -/
structure Placed (source : List Char) (n : Node) : Prop where
  start : IsPlace source n.start
  stop : IsPlace source n.stop

theorem preorderAll_singleton (n : Node) : preorderAll [n] = n.preorder := List.append_nil _

/-- The first token of trees that tile the text begins at a place. -/
theorem isPlace_padding {base : Extent} (hbase : IsPlace source base) :
    ∀ t : Tree, t.Tiled source base.chars → IsPlace source (base + t.padding)
  | .leaf l, h => by
    have hpad := h.1.padding
    have hbound := h.1.bound
    rw [Leaf.ends, Leaf.begins] at hbound
    rw [Leaf.begins, slice_add] at hpad
    change IsPlace source (base + l.padding)
    rw [hpad]
    exact hbase.add (by omega)
  | .node _ _ [] _, _ => by
    change IsPlace source (base + 0)
    rw [Extent.add_zero]
    exact hbase
  | .node _ _ (c :: _) _, h => isPlace_padding hbase c h.2.2.1

/-- A node that tells of a tree in the text. -/
def TellsOf (source : List Char) (n : Node) : Prop :=
  ∃ (t : Tree) (base : Extent) (alias? : Option Symbol), (IsPlace source base ∧ t.Tiled source base.chars) ∧
    n.info = infoOf alias? base t

mutual

theorem tellsOf_shown : ∀ (t : Tree) {base : Extent}, IsPlace source base →
    t.Tiled source base.chars → ∀ n ∈ preorderAll (shown base t), n.TellsOf source
  | .leaf _, _, _, _ => fun _ hn => absurd hn List.not_mem_nil
  | .node _ as cs _, _, hbase, h => tellsOf_shownAmong cs as 0 hbase h.2.2

/-- Each node that a stretch of trees shows tells of a tree in it. -/
theorem tellsOf_shownAmong : ∀ (cs : List Tree) {base : Extent} (as : List (Nat × Symbol))
    (place : Nat), IsPlace source base → Tree.TiledAll source base.chars cs →
    ∀ n ∈ preorderAll (shownAmong as place base cs), n.TellsOf source
  | [], _, _, _, _, _ => fun _ hn => absurd hn List.not_mem_nil
  | c :: cs, base, as, place, hbase, h => by
    intro n hn
    have hinside := tellsOf_shown c hbase h.1
    rw [shownAmong_cons, preorderAll_append, List.mem_append] at hn
    rcases hn with hn | hn
    · rw [shownAs] at hn
      split at hn
      · rw [preorderAll_singleton, preorder, List.mem_cons] at hn
        rcases hn with rfl | hn
        · exact ⟨c, base, _, ⟨hbase, h.1⟩, rfl⟩
        · exact hinside n hn
      · exact hinside n hn
    · exact tellsOf_shownAmong cs as _ (Tree.isPlace_add c hbase h.1) h.2 n hn

end

/-- A node that tells of a tree in the text begins and ends at places. -/
theorem TellsOf.placed {n : Node} (h : n.TellsOf source) : n.Placed source := by
  obtain ⟨t, base, alias?, ⟨hbase, ht⟩, hinfo⟩ := h
  have hstart : n.start = base + t.padding := congrArg Info.start hinfo
  have hstop : n.stop = base + t.total := congrArg Info.stop hinfo
  exact ⟨hstart ▸ isPlace_padding hbase t ht, hstop ▸ Tree.isPlace_add t hbase ht⟩

/-- A token that the text lacks has no text. -/
theorem TellsOf.empty {n : Node} (h : n.TellsOf source) (hmissing : n.isMissing = true) :
    n.start = n.stop := by
  obtain ⟨t, base, alias?, ⟨hbase, ht⟩, hinfo⟩ := h
  have hsupplied : t.isMissing = true := (congrArg Info.missing hinfo).symm.trans hmissing
  cases t with
  | node => cases hsupplied
  | leaf l =>
    have hsize : l.size = 0 := ht.1.supplied (beq_iff_eq.mp hsupplied)
    have hstart : n.start = base + l.padding := congrArg Info.start hinfo
    have hstop : n.stop = base + (l.padding + l.size) := congrArg Info.stop hinfo
    rw [hstart, hstop, hsize, Extent.add_zero]

theorem tellsOf_of_whole {t : Tree} (h : t.Whole source) :
    ∀ n ∈ preorderAll (shown 0 t), n.TellsOf source := by
  obtain ⟨s, as, cs, e, rfl, htiled, he, hend⟩ := h.tiled
  have hextra : e.extra = true := by
    rw [he.extra, hend]
    rfl
  have hchildren : shown 0 (.node s as (cs ++ [.leaf e]) false) = shownAmong as 0 0 cs :=
    shownAmong_end as 0 0 cs hend hextra
  rw [hchildren]
  exact tellsOf_shownAmong cs as 0 IsPlace.zero htiled

/-- Every node in the tree of a text begins and ends at a place of the text. -/
theorem placed_of_whole {t : Tree} (h : t.Whole source) : ∀ n ∈ (ofTree t).preorder, n.Placed source := by
  have hinner := tellsOf_of_whole h
  have hstop : (ofTree t).stop = Extent.ofChars source := (lossless_of_whole h).ends
  intro n hn
  rw [ofTree, preorder, List.mem_cons] at hn
  rcases hn with rfl | hn
  · rw [← ofTree]
    constructor
    · obtain ⟨s, as, cs, e, rfl, htiled, he, hend⟩ := h.tiled
      change IsPlace source (0 + Tree.paddingFirst (cs ++ [.leaf e]))
      cases cs with
      | nil =>
        have hpad := he.fits.padding
        have hbound := he.fits.bound
        rw [Leaf.ends, Leaf.begins] at hbound
        rw [Leaf.begins, slice_add] at hpad
        change IsPlace source (0 + e.padding)
        rw [hpad]
        exact IsPlace.zero.add (by simpa [Tree.totalAll] using Nat.le_of_add_right_le hbound)
      | cons c cs => exact isPlace_padding IsPlace.zero c htiled.1
    · rw [hstop]
      constructor
      · rw [Extent.chars_ofChars]
      · rw [Extent.chars_ofChars, List.take_length]
  · exact (hinner n hn).placed

/-- In the tree of a text the tokens that the text lacks have no text. -/
theorem empty_of_whole {t : Tree} (h : t.Whole source) {n : Node} (hn : n ∈ (ofTree t).preorder)
    (hmissing : n.isMissing = true) : n.start = n.stop := by
  rw [ofTree, preorder, List.mem_cons] at hn
  rcases hn with rfl | hn
  · obtain ⟨s, as, cs, e, rfl, -⟩ := h.tiled
    cases hmissing
  · exact (tellsOf_of_whole h n hn).empty hmissing

end Node

namespace SyntaxError

variable {source : List Char} {e : SyntaxError}

mutual

/-- An error is reported at a node. -/
theorem mem_reportAll : ∀ n : Node, e ∈ reportAll source n →
    ∃ m ∈ n.preorder, ∃ message, e = atNode m message
  | .mk i cs, h => by
    rw [reportAll] at h
    split at h
    · exact ⟨_, List.mem_cons_self, _, List.mem_singleton.mp h⟩
    · split at h
      · exact ⟨_, List.mem_cons_self, _, List.mem_singleton.mp h⟩
      · obtain ⟨m, hm, hmessage⟩ := mem_reportEach cs h
        exact ⟨m, List.mem_cons_of_mem _ hm, hmessage⟩

theorem mem_reportEach : ∀ ns : List Node, e ∈ reportEach source ns →
    ∃ m ∈ Node.preorderAll ns, ∃ message, e = atNode m message
  | [], h => absurd h List.not_mem_nil
  | n :: ns, h => by
    rw [reportEach, List.mem_append] at h
    rw [Node.preorderAll]
    rcases h with h | h
    · obtain ⟨m, hm, hmessage⟩ := mem_reportAll n h
      exact ⟨m, List.mem_append_left _ hm, hmessage⟩
    · obtain ⟨m, hm, hmessage⟩ := mem_reportEach ns h
      exact ⟨m, List.mem_append_right _ hm, hmessage⟩

end

end SyntaxError

/-- Whatever the text, the points of each node are those of its first byte and of the byte behind it, and
an error is at the point of its first byte, which its location gives counted from one. -/
theorem Document.positions_right {source : List Char} {d : Document}
    (h : Document.ofText? source = some d) :
    (∀ n ∈ d.root.preorder, n.start.point = Point.atByte source n.start.bytes ∧
      n.stop.point = Point.atByte source n.stop.bytes) ∧
    ∀ e ∈ d.errors, e.point = Point.atByte source e.start ∧
      (∃ n ∈ d.root.preorder, e.start = n.start.bytes ∧ e.stop = n.stop.bytes) ∧
      e.location = toString ((Point.atByte source e.start).row + 1) ++ ":" ++
        toString ((Point.atByte source e.start).column + 1) := by
  have hall := errors_eq_reportAll h
  obtain ⟨t, ht, rfl⟩ := Option.map_eq_some_iff.mp h
  have hplaced := Node.placed_of_whole (parse_whole ht)
  constructor
  · intro n hn
    exact ⟨(hplaced n hn).start.point, (hplaced n hn).stop.point⟩
  · intro e he
    rw [hall] at he
    obtain ⟨m, hm, message, rfl⟩ := SyntaxError.mem_reportAll _ he
    have hpoint := (hplaced m hm).start.point
    refine ⟨hpoint, ⟨m, hm, rfl, rfl⟩, ?_⟩
    change toString (m.start.point.row + 1) ++ ":" ++ toString (m.start.point.column + 1) = _
    rw [hpoint]
    rfl

theorem Document.positions_right_lines :
    ∃ d, Document.ofText? "\ufeffset I 'é\n';/*\n*/ set".toList = some d ∧ d.root.hasError = true ∧
      (∀ n ∈ d.root.preorder,
        n.start.point = Point.atByte "\ufeffset I 'é\n';/*\n*/ set".toList n.start.bytes ∧
          n.stop.point = Point.atByte "\ufeffset I 'é\n';/*\n*/ set".toList n.stop.bytes) ∧
      ∀ e ∈ d.errors, e.point = Point.atByte "\ufeffset I 'é\n';/*\n*/ set".toList e.start ∧
        (∃ n ∈ d.root.preorder, e.start = n.start.bytes ∧ e.stop = n.stop.bytes) ∧
        e.location =
          toString ((Point.atByte "\ufeffset I 'é\n';/*\n*/ set".toList e.start).row + 1) ++ ":" ++
            toString ((Point.atByte "\ufeffset I 'é\n';/*\n*/ set".toList e.start).column + 1) := by
  have h : (Document.ofText? "\ufeffset I 'é\n';/*\n*/ set".toList).any (·.root.hasError) = true := by
    decide +kernel
  obtain ⟨d, hd, herror⟩ := (Option.any_eq_true _ _).mp h
  exact ⟨d, hd, herror, positions_right hd⟩

end MathProg
