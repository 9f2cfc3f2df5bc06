import MathProg.Proofs.Lexing.Follows

/-!
# The words of the data section

A word is either left to the grammar, or it is one token from its first to its last character. Which
token it is depends on its spelling alone: a number of at most 64 characters is a number, and anything
else a bare word.
-/

namespace MathProg

namespace Value

open Lexeme (IsSign)

variable {sign u e w word rest cs : List Char}

theorem ends_nil : Ends [] := by
  intro c hc
  simp at hc

theorem unsigned_append (hs : IsSign sign) (hu : Lexeme.Unsigned u) : unsigned (sign ++ u) = u := by
  obtain ⟨c, cs, rfl, hc⟩ := unsigned_first hu
  rcases hs with rfl | rfl | rfl
  · have hplus : c ≠ '+' := by rintro rfl; exact absurd hc (by decide)
    have hminus : c ≠ '-' := by rintro rfl; exact absurd hc (by decide)
    simp [unsigned, hplus, hminus]
  · rfl
  · rfl

/-- What stands behind the mantissa of a number satisfies the test at the end of a word. -/
theorem exponent_whole (he : Lexeme.Exponent e) :
    (e.isEmpty || (exponent e != 0 && exponent e == e.length)) = true := by
  have hlength : exponent e = e.length := by simpa using exponent_append he ends_nil
  rw [hlength]
  cases e with
  | nil => rfl
  | cons c e => simp

theorem isNumber_of_number (h : Lexeme.Number w) : isNumber w = true := by
  obtain ⟨sign, u, hs, hu, rfl⟩ := h
  have hbody := unsigned_append hs hu
  obtain ⟨m, e, ⟨a, b, ha, hb, hm⟩, he, rfl⟩ := hu
  obtain ⟨hstops, hpoint⟩ : Stops Char.isDigit e ∧ e.head? ≠ some '.' := by
    simpa using exponent_stops he ends_nil
  unfold isNumber
  simp only [hbody]
  rcases hm with ⟨rfl, hne⟩ | ⟨rfl, hne⟩
  · -- digits alone
    have hdigits : digits (m ++ e) = m.length := digits_append ha hstops
    rw [hdigits, List.drop_left, if_neg hpoint, List.drop_zero, exponent_whole he]
    simpa using hne
  · -- digits around a point
    have hwhole : digits (a ++ '.' :: (b ++ e)) = a.length :=
      digits_append ha (by rintro _ ⟨⟩; rfl)
    have hfraction : digits (b ++ e) = b.length := digits_append hb hstops
    rw [List.append_assoc, List.cons_append, hwhole, List.drop_left, List.head?_cons, if_pos rfl,
      List.drop_succ_cons, List.drop_zero, hfraction, Nat.add_comm 1, List.drop_succ_cons,
      List.drop_left, exponent_whole he]
    simpa [imp_iff_not_or] using hne

/-- The test on whole words accepts the spellings of numbers and no others. -/
theorem isNumber_iff : isNumber w = true ↔ Lexeme.Number w :=
  ⟨Lexeme.number_of_isNumber, isNumber_of_number⟩

/-- The words that are left to the grammar wherever they stand. -/
def Reserved (word : List Char) : Prop := word ∈ [".", "+", "-", "default"].map String.toList

theorem reserved_iff : word ∈ reserved ↔ Reserved word := by
  have hwords : reserved = [".", "+", "-", "default"].map String.toList := by decide
  rw [hwords, Reserved]

/-- What begins a data statement: `set` or `param` with a letter, an underscore or a colon as the next
character, `end` with a semicolon or with nothing more. -/
def BeginsStatement (word rest : List Char) : Prop :=
  ((word = "set".toList ∨ word = "param".toList) ∧
      ∃ c, firstVisible rest = some c ∧ (c.isAlpha = true ∨ c = '_' ∨ c = ':')) ∨
    (word = "end".toList ∧ (firstVisible rest = none ∨ firstVisible rest = some ';'))

theorem beginsStatement_iff : beginsStatement word rest = true ↔ BeginsStatement word rest := by
  unfold beginsStatement BeginsStatement
  rw [← firstVisible]
  by_cases hdeclares : word = "set".toList ∨ word = "param".toList
  · have hend : word ≠ "end".toList := by
      rintro rfl
      exact absurd hdeclares (by decide)
    rw [if_pos (by simpa using hdeclares), Option.any_eq_true]
    simp only [isNameStart, Bool.or_eq_true, beq_iff_eq, hdeclares, hend, true_and, false_and, or_false,
      or_assoc]
  · rw [if_neg (by simpa using hdeclares)]
    simp only [Bool.and_eq_true, Bool.or_eq_true, decide_eq_true_eq, Option.isNone_iff_eq_none,
      beq_iff_eq, hdeclares, false_and, false_or]

/-- Only short words are left to the grammar. -/
theorem length_lt_longWord (h : Reserved word ∨ BeginsStatement word rest) :
    word.length < longWord := by
  have hshort : ∀ v ∈ [".", "+", "-", "default", "set", "param", "end"].map String.toList,
      v.length < longWord := by decide
  apply hshort
  rcases h with h | ⟨rfl | rfl, -⟩ | ⟨rfl, -⟩
  · exact List.mem_append_left (["set", "param", "end"].map String.toList) h
  · decide
  · decide
  · decide

/-- No word is read where there is none, or where it is left to the grammar, and nowhere else. -/
theorem word?_eq_none : word? cs = none ↔
    cs.takeWhile isWordChar = [] ∨ Reserved (cs.takeWhile isWordChar) ∨
      BeginsStatement (cs.takeWhile isWordChar) (cs.dropWhile isWordChar) := by
  unfold word?
  simp only [Lexeme.drop_length_takeWhile]
  by_cases hempty : cs.takeWhile isWordChar = []
  · simp [hempty]
  by_cases hlong : (cs.takeWhile isWordChar).length ≥ longWord
  · have hleft : ¬ (Reserved (cs.takeWhile isWordChar) ∨
        BeginsStatement (cs.takeWhile isWordChar) (cs.dropWhile isWordChar)) := by
      intro h
      have := length_lt_longWord h
      omega
    simp [hempty, hlong, hleft]
  · simp [hempty, hlong, reserved_iff, beginsStatement_iff, or_iff_not_imp_left]

/-- A word that is read is one token. -/
theorem word?_eq_some {t : Symbol} {n : Nat} (h : word? cs = some (t, n)) :
    n = (cs.takeWhile isWordChar).length ∧
      t = if (cs.takeWhile isWordChar).length < longWord ∧ isNumber (cs.takeWhile isWordChar) = true
        then Symbol.number else Symbol.bareword := by
  unfold word? at h
  simp only at h
  split at h
  · cases h
  · split at h
    · rename_i hlong
      cases h
      constructor
      · rfl
      · rw [if_neg (by omega)]
    · split at h
      · cases h
      · rename_i hshort _
        cases h
        constructor
        · rfl
        · simp only [show (cs.takeWhile isWordChar).length < longWord by omega, true_and]

end Value

namespace ValueSet

open Value (isWordChar firstVisible Reserved BeginsStatement longWord)

variable {valid : ValueSet}

/-- The word ahead: the longest run of its characters from the first character that is not blank. -/
def wordAhead (text : List Char) : List Char := (text.dropWhile isBlank).takeWhile isWordChar

/-- What follows the word ahead. -/
def behindWord (text : List Char) : List Char := (text.dropWhile isBlank).dropWhile isWordChar

theorem scan_eq_word? (hword : valid.bareword = true) (hcalm : valid.recovering = false)
    {text : List Char} (hquote : valid.string = true →
      firstVisible text ≠ some '\'' ∧ firstVisible text ≠ some '"') :
    valid.scan text = (Value.word? (text.dropWhile isBlank)).map
      fun (t, n) => ⟨t, blankLength text, n⟩ := by
  have hdrop : text.drop (blankLength text) = text.dropWhile isBlank :=
    Lexeme.drop_length_takeWhile isBlank text
  have hstring : ¬ ((firstVisible text == some '\'' || firstVisible text == some '"') &&
      (valid.string || valid.recovering)) = true := by
    intro h
    simp only [hcalm, Bool.or_false, Bool.and_eq_true, Bool.or_eq_true, beq_iff_eq] at h
    have := hquote h.2
    exact h.1.elim this.1 this.2
  unfold scan
  simp only [hdrop]
  unfold read
  dsimp only
  rw [← firstVisible, if_neg hstring]
  simp [hword, hcalm]

/-- Where words may stand, a value that is not a string is the whole word ahead. There is none exactly
if no word is ahead or if the word is left to the grammar; and it is a number exactly if the word is
spelled like one and not longer than 64 characters. -/
theorem scan_word_ahead (hword : valid.bareword = true) (hcalm : valid.recovering = false)
    (text : List Char) (hquote : valid.string = true →
      firstVisible text ≠ some '\'' ∧ firstVisible text ≠ some '"') :
    (valid.scan text = none ↔ wordAhead text = [] ∨ Reserved (wordAhead text) ∨
      BeginsStatement (wordAhead text) (behindWord text)) ∧
    ∀ r, valid.scan text = some r →
      r.skipped = blankLength text ∧ (text.drop r.skipped).take r.length = wordAhead text ∧
      r.length = (wordAhead text).length ∧
      (r.symbol = Symbol.number ↔ (wordAhead text).length ≤ 64 ∧ Lexeme.Number (wordAhead text)) ∧
      (r.symbol = Symbol.bareword ↔
        ¬ ((wordAhead text).length ≤ 64 ∧ Lexeme.Number (wordAhead text))) := by
  have hscan := scan_eq_word? hword hcalm hquote
  constructor
  · rw [hscan, Option.map_eq_none_iff]
    exact Value.word?_eq_none
  · intro r hr
    rw [hscan] at hr
    obtain ⟨⟨t, n⟩, hread, rfl⟩ := Option.map_eq_some_iff.mp hr
    obtain ⟨rfl, rfl⟩ := Value.word?_eq_some hread
    have hdrop : text.drop (blankLength text) = text.dropWhile isBlank :=
      Lexeme.drop_length_takeWhile isBlank text
    have hshort : (wordAhead text).length < longWord ∧ Value.isNumber (wordAhead text) = true ↔
        (wordAhead text).length ≤ 64 ∧ Lexeme.Number (wordAhead text) := by
      rw [Value.isNumber_iff, longWord, Nat.lt_succ_iff]
    refine ⟨rfl, ?_, rfl, ?_, ?_⟩
    · simp only [hdrop]
      exact Lexeme.take_length_takeWhile _ _
    · rw [← hshort, wordAhead]
      simp [Symbol.number, Symbol.bareword]
    · rw [← hshort, wordAhead]
      simp [Symbol.number, Symbol.bareword]

/-- A signed number, up to the semicolon behind it. -/
theorem scan_word_ahead_signed :
    ∃ r, ValueSet.data.scan " -1.5e3;".toList = some r ∧ r.symbol = Symbol.number ∧ r.length = 6 := by
  obtain ⟨r, hr⟩ := Option.isSome_iff_exists.mp
    (by decide : (ValueSet.data.scan " -1.5e3;".toList).isSome = true)
  obtain ⟨-, hsome⟩ :=
    @scan_word_ahead ValueSet.data rfl rfl " -1.5e3;".toList fun _ => by decide
  obtain ⟨-, -, hlength, hnumber, -⟩ := hsome r hr
  have hshape : Lexeme.Number (wordAhead " -1.5e3;".toList) :=
    Lexeme.number_of_isNumber (by decide)
  refine ⟨r, hr, ?_, ?_⟩
  · exact hnumber.mpr ⟨by decide, hshape⟩
  · rw [hlength]
    decide

/-- A number of 65 digits is read as a bare word. -/
theorem scan_long_number :
    wordAhead (List.replicate 65 '1') = List.replicate 65 '1' ∧
      Lexeme.Number (List.replicate 65 '1') ∧
      ValueSet.data.scan (List.replicate 65 '1') = some ⟨Symbol.bareword, 0, 65⟩ := by
  refine ⟨by decide +kernel, ?_, by decide +kernel⟩
  exact Lexeme.number_of_isNumber (by decide +kernel)

end ValueSet

end MathProg
