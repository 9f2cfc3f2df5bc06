import MathProg.Proofs.Parsing.Derivation

/-!
# The leaf that is read at a place

Whatever mode is read in, the next leaf begins with a gap and lies in the text, and it is either a
token or text that is no token.
-/

namespace MathProg

namespace Extent

theorem bytes_add (a b : Extent) : (a + b).bytes = a.bytes + b.bytes := rfl

theorem chars_le_bytes (cs : List Char) : (ofChars cs).chars ≤ (ofChars cs).bytes := by
  induction cs with
  | nil => exact Nat.le_refl _
  | cons c cs ih =>
    have hc : (ofChar c).chars ≤ (ofChar c).bytes := by
      unfold ofChar
      split
      · exact Nat.le_refl _
      · exact c.utf8Size_pos
    exact Nat.add_le_add hc ih

/-- A stretch of text has no bytes only if it has no characters. -/
theorem bytes_eq_zero_iff (cs : List Char) : (ofChars cs).bytes = 0 ↔ (ofChars cs).chars = 0 := by
  constructor
  · intro h
    have := chars_le_bytes cs
    omega
  · intro h
    rw [chars_ofChars] at h
    rw [List.eq_nil_of_length_eq_zero h]
    rfl

end Extent

/-- A place in a text is reached by the characters before it. -/
structure IsPlace (source : List Char) (e : Extent) : Prop where
  bound : e.chars ≤ source.length
  extent : e = Extent.ofChars (source.take e.chars)

namespace IsPlace

variable {source : List Char}

theorem zero : IsPlace source 0 := ⟨Nat.zero_le _, rfl⟩

theorem atStart {e : Extent} (h : IsPlace source e) : (e.bytes == 0) = (e.chars == 0) := by
  rw [Bool.eq_iff_iff, beq_iff_eq, beq_iff_eq, h.extent, Extent.bytes_eq_zero_iff]

/-- The place behind a stretch of text is a place. -/
theorem add {e : Extent} (h : IsPlace source e) {n : Nat} (hn : e.chars + n ≤ source.length) :
    IsPlace source (e + Extent.ofChars ((source.drop e.chars).take n)) := by
  have hl : (Extent.ofChars ((source.drop e.chars).take n)).chars = n := by
    rw [Extent.chars_ofChars, List.length_take, List.length_drop]
    omega
  refine ⟨by rw [Tree.chars_add, hl]; exact hn, ?_⟩
  rw [Tree.chars_add, hl, List.take_add, Extent.ofChars_append, ← h.extent]

end IsPlace

/-- A leaf that the place `n` of the text is not inside of, nor right behind of if it is a comment up to the
end of its line. -/
structure Leaf.Apart (source : List Char) (n place : Nat) (l : Leaf) : Prop where
  apart : l.ends place ≤ n ∨ n ≤ l.begins place
  line : l.symbol = Symbol.comment → source[l.begins place]? = some '#' → l.ends place ≠ n

/-- A mode reads the leaf where it begins. -/
def Leaf.ReadIn (source : List Char) (place : Nat) (m : Mode) (l : Leaf) : Prop :=
  ∃ blanks, m.token? blanks (source.drop (l.begins place)) = some (l.symbol, l.size.chars)

/-- Some mode of the table reads the leaf. -/
def Leaf.Recognized (source : List Char) (place : Nat) (l : Leaf) : Prop :=
  ∃ m ∈ Mode.table.toList, l.ReadIn source place m

/-- A leaf that lies in the text behind a gap, both measured rightly. A supplied one has no text. -/
structure Leaf.Fits (source : List Char) (place : Nat) (l : Leaf) : Prop where
  bound : l.ends place ≤ source.length
  padding : l.padding = Extent.ofChars (slice source place (l.begins place))
  size : l.size = Extent.ofChars (l.text source place)
  gap : Gap (place == 0) (slice source place (l.begins place))
  recognized : l.origin = .read → l.Recognized source place
  supplied : l.origin = .supplied → l.size = 0

namespace Leaf.Fits

variable {source : List Char} {place : Nat}

theorem total {l : Leaf} (h : l.Fits source place) :
    (Tree.leaf l).total = Extent.ofChars ((source.drop place).take (Tree.leaf l).total.chars) := by
  have ht : (Tree.leaf l).total = l.padding + l.size := rfl
  have hp : l.begins place - place = l.padding.chars := by unfold Leaf.begins; omega
  have hs : l.ends place - l.begins place = l.size.chars := by unfold Leaf.ends; omega
  rw [ht, Tree.chars_add, List.take_add, Extent.ofChars_append]
  conv_lhs => rw [h.padding, h.size]
  rw [slice, hp, Leaf.text, slice, hs, Leaf.begins, List.drop_drop]

/-- A leaf built from two stretches of the text fits, if the first one is a gap. -/
theorem of_lengths {l : Leaf} {p n : Nat} (hp : p ≤ (source.drop place).length)
    (hpad : l.padding = Extent.ofChars ((source.drop place).take p))
    (hsize : l.size = Extent.ofChars (((source.drop place).drop p).take n))
    (hgap : Gap (place == 0) ((source.drop place).take p)) (hplace : place ≤ source.length)
    (hread : l.origin = .read → l.Recognized source place) (horigin : l.origin ≠ .supplied) :
    l.Fits source place ∧ l.padding.chars = p ∧
      l.text source place = ((source.drop place).drop p).take n := by
  have hpc : l.padding.chars = p := by
    rw [hpad, Extent.chars_ofChars, List.length_take]
    omega
  have hsc : l.size.chars = min n (source.length - place - p) := by
    rw [hsize, Extent.chars_ofChars, List.length_take, List.length_drop, List.length_drop]
  have hgapText : slice source place (l.begins place) = (source.drop place).take p := by
    rw [slice, Leaf.begins, Nat.add_sub_cancel_left, hpc]
  have htext : l.text source place = ((source.drop place).drop p).take n := by
    rw [Leaf.text, slice, Leaf.ends, Nat.add_sub_cancel_left, Leaf.begins, hpc, List.drop_drop, hsc]
    rw [← List.take_take, List.take_of_length_le (l := List.drop (place + p) source)]
    rw [List.length_drop]
    omega
  rw [List.length_drop] at hp
  refine ⟨⟨?_, by rw [hgapText, hpad], by rw [htext, hsize], by rw [hgapText]; exact hgap,
    hread, fun h => absurd h horigin⟩, hpc, htext⟩
  rw [Leaf.ends, Leaf.begins, hpc, hsc]
  omega

end Leaf.Fits

/-- What is known of the next leaf at a place. Only the end of the text is an extra leaf, and only text
that no mode reads is an error. -/
structure Leaf.IsNext (source : List Char) (place : Nat) (l : Leaf) : Prop where
  fits : l.Fits source place
  token : l.symbol < Symbol.tokenCount → l.IsToken source place
  symbol : l.symbol ≤ Symbol.bareword ∨ l.symbol = Symbol.error
  extra : l.extra = (l.symbol == Symbol.endOfText)
  ended : l.symbol = Symbol.endOfText → l.size = 0 ∧ l.ends place = source.length
  unread : l.symbol = Symbol.error → ∃ c, l.origin = .unreadable c

namespace Mode

variable {source : List Char} {place : Nat}

/-- A state that reads something reads it in a mode of the table. -/
theorem mem_table_of_token {s : Automaton.State} {blanks : Nat} {cs : List Char}
    {found : Symbol × Nat} (h : (Automaton.mode s).token? blanks cs = some found) :
    Automaton.mode s ∈ table.toList := by
  rw [Automaton.mode] at h ⊢
  cases hm : table[Automaton.modeIndex s]? with
  | some m => exact Array.mem_toList_iff.mpr (Array.mem_of_getElem? hm)
  | none =>
    have hnone : (⟨.nothing, []⟩ : Mode).token? blanks cs = none := by
      simp [token?, ValueSet.read, ValueSet.nothing, munch, candidates]
    rw [hm, Option.getD_none, show (default : Mode) = ⟨.nothing, []⟩ from rfl, hnone] at h
    cases h

/-- The leaf that a mode reads is read in it. -/
theorem leafOf_readIn {m : Mode} (hm : m.Plain) {r : Reading}
    (hr : m.read (place == 0) (source.drop place) = some r) :
    (leafOf (source.drop place) r).ReadIn source place m := by
  have hbound := (read_sound hm hr).bound
  obtain ⟨hskip, ht⟩ := read_some hr
  have hbegins : (leafOf (source.drop place) r).begins place = place + r.skipped := by
    change place + (Extent.ofChars ((source.drop place).take r.skipped)).chars = _
    rw [Extent.chars_ofChars, List.length_take, Nat.min_eq_left (by omega)]
  have hsize : (leafOf (source.drop place) r).size.chars = r.length := by
    change (Extent.ofChars (((source.drop place).drop r.skipped).take r.length)).chars = _
    rw [Extent.chars_ofChars, List.length_take, List.length_drop, Nat.min_eq_left (by omega)]
  rw [List.drop_drop, ← hskip, ← hbegins] at ht
  exact ⟨_, by rw [hsize]; exact ht⟩

/-- The leaf that a state reads is a token that fits. -/
theorem leafOf_isNext {s : Automaton.State} {r : Reading} (hplace : place ≤ source.length)
    (hr : (Automaton.mode s).read (place == 0) (source.drop place) = some r) :
    (leafOf (source.drop place) r).IsNext source place := by
  have h := read_sound (plain_mode s) hr
  have hb := h.bound
  have hread := leafOf_readIn (plain_mode s) hr
  obtain ⟨hfits, hpc, htext⟩ := Leaf.Fits.of_lengths (l := leafOf (source.drop place) r)
    (by omega) rfl rfl h.gap hplace (fun _ => ⟨_, mem_table_of_token hread.choose_spec, hread⟩)
    (by rintro ⟨⟩)
  refine ⟨hfits, fun ht => ⟨rfl, ht, hfits.gap, ?_, fun hs => ?_⟩, Or.inl h.symbol, rfl, fun he => ?_,
    fun he => ?_⟩
  · rw [htext]
    exact h.lexeme
  · rw [slice, Leaf.begins, Nat.add_sub_cancel_left, hpc]
    exact h.attached hs
  · have hskip := h.ended he
    have hdrop : (source.drop place).drop r.skipped = [] := by rw [hskip, List.drop_length]
    have hsize : (leafOf (source.drop place) r).size = 0 := by
      change Extent.ofChars (((source.drop place).drop r.skipped).take r.length) = 0
      rw [hdrop, List.take_nil]
      rfl
    refine ⟨hsize, ?_⟩
    rw [Leaf.ends, Leaf.begins, hpc, hsize, hskip, List.length_drop]
    change place + (source.length - place) + 0 = source.length
    omega
  · have hle : Symbol.error ≤ Symbol.bareword := he ▸ h.symbol
    exact absurd hle (by decide)

theorem unreadableLeaf_isNext (hplace : place ≤ source.length) :
    (unreadableLeaf (place == 0) (source.drop place)).IsNext source place := by
  have hle := gapLength_le (place == 0) (source.drop place)
  have hno : ¬ Symbol.error < Symbol.tokenCount := by decide
  have hread : (unreadableLeaf (place == 0) (source.drop place)).origin ≠ .read := by
    rintro ⟨⟩
  refine ⟨(Leaf.Fits.of_lengths hle rfl rfl (gap_take _ _) hplace (fun ho => absurd ho hread)
    (by rintro ⟨⟩)).1,
    fun h => absurd h hno, Or.inr rfl, rfl, fun h => ?_, fun _ => ⟨_, rfl⟩⟩
  exact absurd (show Symbol.error = Symbol.endOfText from h) (by decide)

theorem next_isNext (s : Automaton.State) (hplace : place ≤ source.length) :
    ((Automaton.mode s).next (place == 0) (source.drop place)).IsNext source place := by
  unfold next
  split
  · rename_i r hr
    exact leafOf_isNext hplace hr
  · split
    · rename_i r hr
      exact leafOf_isNext hplace hr
    · exact unreadableLeaf_isNext hplace

end Mode

end MathProg
