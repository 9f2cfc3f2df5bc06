import MathProg.Proofs.Lexing.Number

/-!
# Numbers in both sections

The data section tests whole words, and the model section reads as much as belongs to a number. Both have
the same notion of an unsigned number: a word passes the test if and only if reading takes all of it. A sign
is part of a word only, and a second one makes it no number.
-/

namespace MathProg

namespace Value

open Lexeme (IsDigits IsSign Exponent Unsigned)

variable {d e sign w rest : List Char} {c : Char}

theorem isWordChar_of_isDigit (h : c.isDigit = true) : isWordChar c = true := by
  simp [isWordChar, isNameChar, Char.isAlphanum, h]

theorem isWordChar_digits (hd : IsDigits d) : ∀ c ∈ d, isWordChar c = true :=
  fun c hc => isWordChar_of_isDigit (hd c hc)

theorem isWordChar_exponent (he : Exponent e) : ∀ c ∈ e, isWordChar c = true := by
  obtain rfl | ⟨c, sign, d, hc, hs, -, hd, rfl⟩ := he
  · exact fun c hc => absurd hc List.not_mem_nil
  · have hmarker : isWordChar c = true := by rcases hc with rfl | rfl <;> decide
    have hsign : ∀ x ∈ sign, isWordChar x = true :=
      List.all_eq_true.mp (by rcases hs with rfl | rfl | rfl <;> decide)
    exact List.forall_mem_cons.mpr ⟨hmarker, List.forall_mem_append.mpr ⟨hsign, isWordChar_digits hd⟩⟩

theorem isWordChar_unsigned (hw : Unsigned w) : ∀ c ∈ w, isWordChar c = true := by
  obtain ⟨m, e, ⟨a, b, ha, hb, ⟨rfl, -⟩ | ⟨rfl, -⟩⟩, he, rfl⟩ := hw
  · exact List.forall_mem_append.mpr ⟨isWordChar_digits ha, isWordChar_exponent he⟩
  · refine List.forall_mem_append.mpr ⟨?_, isWordChar_exponent he⟩
    exact List.forall_mem_append.mpr ⟨isWordChar_digits ha,
      List.forall_mem_cons.mpr ⟨by decide, isWordChar_digits hb⟩⟩

/-- What consists of the characters of words goes no further than the word it begins with. -/
theorem prefix_of_word {v : List Char} (hv : ∀ c ∈ v, isWordChar c = true) (hstops : Stops isWordChar rest)
    (h : v <+: w ++ rest) : v <+: w :=
  prefix_of_not_mem (fun c hc hmem => Bool.false_ne_true ((hstops c hmem).symm.trans (hv c hc))) h

/-- No number goes on with a second point right behind the first one. -/
theorem not_beginsRange (hw : Unsigned w) (hstops : Stops isWordChar rest) (v : List Char) :
    ¬ BeginsRange v (w ++ rest) := by
  rintro ⟨hne, hd, hprefix⟩
  have hword : ∀ c ∈ v ++ ['.', '.'], isWordChar c = true :=
    List.forall_mem_append.mpr ⟨isWordChar_digits hd, List.all_eq_true.mp (by decide)⟩
  obtain ⟨tail, rfl⟩ := prefix_of_word hword hstops hprefix
  have hall := number?_append hw ends_nil
  rw [List.append_nil, List.append_assoc] at hall
  have hlength := Option.some.inj (hall.symm.trans (number?_range hd hne tail))
  rw [List.length_append, List.length_append] at hlength
  simp at hlength

/-- Reading takes a whole word exactly if the word is an unsigned number. -/
theorem number?_whole (hstops : Stops isWordChar rest) :
    number? (w ++ rest) = some w.length ↔ Unsigned w := by
  constructor
  · intro h
    have hnumber := (Lexeme.number_some h).1
    rwa [List.take_left] at hnumber
  · intro hw
    obtain ⟨n, hn, hle⟩ := le_number? hw (not_beginsRange hw hstops)
    obtain ⟨hnumber, hbound⟩ := Lexeme.number_some hn
    have hprefix := prefix_of_word (isWordChar_unsigned hnumber) hstops (List.take_prefix n _)
    have hge := hprefix.length_le
    rw [List.length_take_of_le hbound] at hge
    rw [hn, Nat.le_antisymm hge hle]

/-- A text that begins with a sign. -/
def Signed (w : List Char) : Prop := ∃ c ∈ w.head?, c = '+' ∨ c = '-'

theorem not_signed (hw : Unsigned w) : ¬ Signed w := by
  obtain ⟨c, cs, rfl, hc⟩ := unsigned_first hw
  rintro ⟨_, ⟨⟩, rfl | rfl⟩
  · exact absurd hc (by decide)
  · exact absurd hc (by decide)

theorem number_iff_unsigned (hw : ¬ Signed w) : Lexeme.Number w ↔ Unsigned w := by
  constructor
  · rintro ⟨sign, u, rfl | rfl | rfl, hu, rfl⟩
    · exact hu
    · exact absurd ⟨'+', rfl, Or.inl rfl⟩ hw
    · exact absurd ⟨'-', rfl, Or.inr rfl⟩ hw
  · exact fun hu => ⟨[], w, Or.inl rfl, hu, rfl⟩

theorem number_signed (hc : c = '+' ∨ c = '-') : Lexeme.Number (c :: w) ↔ Unsigned w := by
  constructor
  · rintro ⟨sign, u, hs, hu, h⟩
    rcases hs with rfl | rfl | rfl
    · -- the sign cannot belong to the unsigned number
      obtain rfl : c :: w = u := h
      exact absurd ⟨c, rfl, hc⟩ (not_signed hu)
    · exact (List.cons.inj h).2 ▸ hu
    · exact (List.cons.inj h).2 ▸ hu
  · intro hw
    refine ⟨[c], w, ?_, hw, rfl⟩
    rcases hc with rfl | rfl
    · exact Or.inr (Or.inl rfl)
    · exact Or.inr (Or.inr rfl)

/-- Of a signed word the test accepts what it accepts of the rest, unless that has a sign of its own. -/
theorem isNumber_signed (hc : c = '+' ∨ c = '-') :
    isNumber (c :: w) = true ↔ isNumber w = true ∧ ¬ Signed w := by
  rw [isNumber_iff, isNumber_iff, number_signed hc]
  constructor
  · intro hw
    exact ⟨(number_iff_unsigned (not_signed hw)).mpr hw, not_signed hw⟩
  · rintro ⟨hnumber, hsigned⟩
    exact (number_iff_unsigned hsigned).mp hnumber

end Value

namespace ValueSet

open Value
open Lexeme (Unsigned)

variable {valid : ValueSet} {w rest : List Char}

/-- At a word nothing is skipped. -/
theorem blankLength_word (hw : ∀ c ∈ w, isWordChar c = true) (hne : w ≠ []) (rest : List Char) :
    blankLength (w ++ rest) = 0 ∧ (w ++ rest).dropWhile isBlank = w ++ rest := by
  obtain ⟨c, w, rfl⟩ := List.exists_cons_of_ne_nil hne
  have hc : ¬ isBlank c = true := by
    intro hblank
    have hword := hw c List.mem_cons_self
    rw [isWordChar_of_cut (Or.inl hblank)] at hword
    cases hword
  rw [blankLength, List.cons_append, List.takeWhile_cons_of_neg hc, List.dropWhile_cons_of_neg hc]
  exact ⟨rfl, rfl⟩

/-- No word begins with a quote. -/
theorem not_quote (hw : ∀ c ∈ w, isWordChar c = true) (hne : w ≠ []) (rest : List Char) :
    (w ++ rest).head? ≠ some '\'' ∧ (w ++ rest).head? ≠ some '"' := by
  obtain ⟨c, w, rfl⟩ := List.exists_cons_of_ne_nil hne
  have hword := hw c List.mem_cons_self
  constructor
  · rintro ⟨⟩
    cases hword
  · rintro ⟨⟩
    cases hword

/-- Where words are values, a word is read as a number exactly if it is short and spelled like one. -/
theorem scan_number_of_words (hword : valid.bareword = true) (hcalm : valid.recovering = false)
    (hw : ∀ c ∈ w, isWordChar c = true) (hne : w ≠ []) (hstops : Stops isWordChar rest) :
    valid.scan (w ++ rest) = some ⟨Symbol.number, 0, w.length⟩ ↔
      w.length < longWord ∧ isNumber w = true := by
  obtain ⟨hblank, hdrop⟩ := blankLength_word hw hne rest
  have hquote := not_quote hw hne rest
  have htake : (w ++ rest).takeWhile isWordChar = w := by
    rw [List.takeWhile_append_of_pos hw, takeWhile_of_stops hstops, List.append_nil]
  rw [scan_eq_word? hword hcalm (fun _ => by rwa [firstVisible, hdrop]), hdrop, hblank,
    Option.map_eq_some_iff]
  constructor
  · rintro ⟨⟨t, n⟩, hread, hr⟩
    obtain ⟨-, ht⟩ := word?_eq_some hread
    have hsymbol : t = Symbol.number := congrArg Reading.symbol hr
    rw [htake] at ht
    by_contra hno
    rw [if_neg hno, hsymbol] at ht
    exact absurd ht (by decide)
  · rintro ⟨hshort, hnumber⟩
    have hsome : word? (w ++ rest) ≠ none := by
      rw [ne_eq, word?_eq_none, htake]
      have hleft : ∀ v ∈ [".", "+", "-", "default", "set", "param", "end"].map String.toList,
          isNumber v = false := by decide
      have hnot : w ∉ [".", "+", "-", "default", "set", "param", "end"].map String.toList := by
        intro hmem
        rw [hleft w hmem] at hnumber
        cases hnumber
      rintro (hnil | hreserved | hbegins)
      · exact hne hnil
      · exact hnot (List.mem_append_left (["set", "param", "end"].map String.toList) hreserved)
      · refine hnot ?_
        rcases hbegins with ⟨rfl | rfl, -⟩ | ⟨rfl, -⟩ <;> decide
    obtain ⟨⟨t, n⟩, hread⟩ := Option.ne_none_iff_exists'.mp hsome
    obtain ⟨rfl, rfl⟩ := word?_eq_some hread
    rw [htake, if_pos ⟨hshort, hnumber⟩] at hread
    exact ⟨_, hread, rfl⟩

/-- Where words are no values, a text that does not begin with a quote is read as the number it begins with. -/
theorem read_number {cs : List Char} (hnumber : valid.number = true) (hword : valid.bareword = false)
    (hquote : cs.head? ≠ some '\'' ∧ cs.head? ≠ some '"') :
    valid.read cs = (number? cs).map (Symbol.number, ·) := by
  cases h : number? cs with
  | none =>
    unfold read
    simp [hquote, hword, h]
  | some n =>
    obtain ⟨c, u, hu, hc⟩ := unsigned_first (Lexeme.number_some h).1
    have hhead : cs.head? = some c := by
      obtain ⟨tail, htail⟩ := hu ▸ List.take_prefix n cs
      rw [← htail]
      rfl
    have hfirst : cs.head?.any (fun c => c.isDigit || c == '.') = true := by
      rw [hhead, Option.any_some, Bool.or_eq_true, beq_iff_eq]
      exact hc
    unfold read
    simp [hquote, hword, hnumber, hfirst, h]

/-- There a whole word is read as a number exactly if reading takes all of it. -/
theorem scan_number_of_values (hnumber : valid.number = true) (hword : valid.bareword = false)
    (hw : ∀ c ∈ w, isWordChar c = true) (hne : w ≠ []) :
    valid.scan (w ++ rest) = some ⟨Symbol.number, 0, w.length⟩ ↔
      number? (w ++ rest) = some w.length := by
  obtain ⟨hblank, -⟩ := blankLength_word hw hne rest
  unfold scan
  dsimp only
  rw [hblank, List.drop_zero, read_number hnumber hword (not_quote hw hne rest), Option.map_map]
  cases number? (w ++ rest) with
  | none => simp
  | some n => simp

/-- A word without a sign passes the test on words exactly if reading a number takes all of it; a sign
before a word is part of a number if what follows is one without a sign. So what is written without a sign
is a number where words are values exactly if it is one where they are not. -/
theorem numbers_agree (hw : ∀ c ∈ w, isWordChar c = true) (hshort : w.length ≤ 64)
    (hstops : Stops isWordChar rest) :
    (¬ Signed w → (isNumber w = true ↔ number? (w ++ rest) = some w.length)) ∧
    (∀ c u, w = c :: u → c = '+' ∨ c = '-' → (isNumber w = true ↔ isNumber u = true ∧ ¬ Signed u)) ∧
    (¬ Signed w → w ≠ [] → ∀ data model : ValueSet, data.bareword = true → data.recovering = false →
      model.number = true → model.bareword = false →
      (data.scan (w ++ rest) = some ⟨Symbol.number, 0, w.length⟩ ↔
        model.scan (w ++ rest) = some ⟨Symbol.number, 0, w.length⟩)) := by
  have hagree : ¬ Signed w → (isNumber w = true ↔ number? (w ++ rest) = some w.length) := by
    intro hsigned
    rw [isNumber_iff, number_iff_unsigned hsigned, number?_whole hstops]
  refine ⟨hagree, ?_, ?_⟩
  · rintro c u rfl hc
    exact isNumber_signed hc
  · intro hsigned hne data model hword hcalm hnumber hother
    rw [scan_number_of_words hword hcalm hw hne hstops, scan_number_of_values hnumber hother hw hne,
      ← hagree hsigned]
    exact and_iff_right (Nat.lt_succ_of_le hshort)

/-- Up to the semicolon behind it, a number with a point and an exponent is one in both sections. -/
theorem numbers_agree_exponent :
    isNumber "1.e-5".toList = true ∧ number? "1.e-5;".toList = some 5 ∧
      ValueSet.data.scan "1.e-5;".toList = some ⟨Symbol.number, 0, 5⟩ ∧
      ValueSet.numberOnly.scan "1.e-5;".toList = some ⟨Symbol.number, 0, 5⟩ := by
  obtain ⟨hagree, -, hscan⟩ :=
    @numbers_agree "1.e-5".toList [';'] (List.all_eq_true.mp (by decide)) (by decide)
      (by rintro _ ⟨⟩; rfl)
  have hsigned : ¬ Signed "1.e-5".toList := by
    rintro ⟨_, ⟨⟩, hc⟩
    exact absurd hc (by decide)
  have hnumber : isNumber "1.e-5".toList = true := by decide
  have hdata : ValueSet.data.scan "1.e-5;".toList = some ⟨Symbol.number, 0, 5⟩ := by decide
  refine ⟨hnumber, (hagree hsigned).mp hnumber, hdata, ?_⟩
  exact (hscan hsigned (by decide) .data .numberOnly rfl rfl rfl rfl).mp hdata

end ValueSet

end MathProg
