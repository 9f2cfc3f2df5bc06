import MathProg.Proofs.Automaton.Modes
import MathProg.Proofs.Lexing.Context
import MathProg.Proofs.Lexing.DataWord

/-!
# Unsigned numbers

Where nothing but a number is asked for, the longest unsigned number that the text begins with is read,
except that two points behind digits are a range and leave the digits alone. An exponent without digits
is not part of the number before it.
-/

namespace MathProg

namespace Value

open Lexeme (IsDigits IsSign Mantissa Exponent Unsigned)

variable {a b d e m sign v w cs rest tail : List Char} {c : Char} {n : Nat}

/-- Digits with two points behind them. -/
def BeginsRange (w cs : List Char) : Prop := w ≠ [] ∧ IsDigits w ∧ w ++ ['.', '.'] <+: cs

/-- A beginning of a text that has a property, and no longer one has it. -/
def IsLongest (p : List Char → Prop) (w cs : List Char) : Prop :=
  (p w ∧ w <+: cs) ∧ ∀ v, p v → v <+: cs → v.length ≤ w.length

/-- The number that a text begins with: the digits before a range, and else the longest number. -/
def IsFirstNumber (w cs : List Char) : Prop :=
  BeginsRange w cs ∨ (∀ v, ¬ BeginsRange v cs) ∧ IsLongest Unsigned w cs

theorem le_digits (hd : IsDigits d) (rest : List Char) : d.length ≤ digits (d ++ rest) := by
  rw [digits, List.takeWhile_append_of_pos hd, List.length_append]
  exact Nat.le_add_right _ _

theorem le_exponent (he : Exponent e) (rest : List Char) : e.length ≤ exponent (e ++ rest) := by
  obtain rfl | ⟨c, sign, d, hc, hs, hne, hd, rfl⟩ := he
  · exact Nat.zero_le _
  · rw [List.cons_append, List.append_assoc, exponent_cons hc hs hd hne, List.length_cons,
      List.length_append]
    have hdigits := le_digits hd rest
    omega

/-- Neither a digit nor a point begins an exponent. -/
theorem exponent_marker (he : Exponent e) (hne : e ≠ []) (rest : List Char) :
    Stops Char.isDigit (e ++ rest) ∧ (e ++ rest).head? ≠ some '.' := by
  obtain rfl | ⟨c, sign, d, hc, -, -, -, rfl⟩ := he
  · exact absurd rfl hne
  · rcases hc with rfl | rfl
    · exact ⟨by rintro _ ⟨⟩; rfl, by simp⟩
    · exact ⟨by rintro _ ⟨⟩; rfl, by simp⟩

theorem number?_range (hd : IsDigits d) (hne : d ≠ []) (rest : List Char) :
    number? (d ++ '.' :: '.' :: rest) = some d.length := by
  have hstops : Stops Char.isDigit ('.' :: '.' :: rest) := by rintro _ ⟨⟩; rfl
  have hzero : d.length ≠ 0 := fun h => hne (List.eq_nil_of_length_eq_zero h)
  rw [number?_eq, digits_append hd hstops, List.drop_left, numberFrom, if_pos List.head?_cons, if_neg hzero]

theorem numberFrom_some (whole : Nat) (r : List Char) (h : whole ≠ 0) :
    ∃ n, numberFrom whole r = some n ∧ whole ≤ n := by
  have hsome : (numberFrom whole r).isSome = true := by
    unfold numberFrom
    split
    · split <;> simp [h]
    · simp [h]
  obtain ⟨n, hn⟩ := Option.isSome_iff_exists.mp hsome
  exact ⟨n, hn, le_numberFrom hn⟩

/-- Where no range begins, as much is read as any number has that the text begins with. -/
theorem le_number? (hw : Unsigned w) (hrange : ∀ v, ¬ BeginsRange v (w ++ rest)) :
    ∃ n, number? (w ++ rest) = some n ∧ w.length ≤ n := by
  obtain ⟨m, e, ⟨a, b, ha, hb, ⟨rfl, hne⟩ | ⟨rfl, hne⟩⟩, he, rfl⟩ := hw
  · -- digits, perhaps with an exponent
    have hle := le_digits ha (e ++ rest)
    have hlen : m.length ≠ 0 := fun h => hne (List.eq_nil_of_length_eq_zero h)
    rw [List.append_assoc, number?_eq]
    by_cases hnil : e = []
    · obtain ⟨n, hn, hwhole⟩ := numberFrom_some (digits (m ++ (e ++ rest)))
        ((m ++ (e ++ rest)).drop (digits (m ++ (e ++ rest)))) (by omega)
      refine ⟨n, hn, ?_⟩
      rw [hnil, List.append_nil]
      omega
    · obtain ⟨hstops, hpoint⟩ := exponent_marker he hnil rest
      have hexp := le_exponent he rest
      rw [digits_append ha hstops, List.drop_left, numberFrom_other _ hpoint, if_neg hlen]
      exact ⟨_, rfl, by rw [List.length_append]; omega⟩
  · -- digits around a point, perhaps with an exponent
    have hstops : Stops Char.isDigit ('.' :: (b ++ (e ++ rest))) := by rintro _ ⟨⟩; rfl
    have hle := le_digits hb (e ++ rest)
    have hone : (b ++ (e ++ rest)).head? ≠ some '.' := by
      intro hpoint
      cases b with
      | nil =>
        obtain ⟨tail, htail⟩ := List.head?_eq_some_iff.mp hpoint
        refine hrange a ⟨hne.resolve_right (fun h => h rfl), ha, tail, ?_⟩
        rw [List.nil_append] at htail
        simp [htail]
      | cons c b =>
        have hdigit := hb c List.mem_cons_self
        rw [Option.some.inj hpoint] at hdigit
        cases hdigit
    have hsome : ¬ (a.length = 0 && digits (b ++ (e ++ rest)) = 0) = true := by
      rw [Bool.and_eq_true, decide_eq_true_eq, decide_eq_true_eq]
      rintro ⟨hza, hzb⟩
      rcases hne with h | h
      · exact h (List.eq_nil_of_length_eq_zero hza)
      · exact h (List.eq_nil_of_length_eq_zero (by omega))
    rw [List.append_assoc, List.append_assoc, List.cons_append, number?_eq, digits_append ha hstops,
      List.drop_left, numberFrom_point _ hone, if_neg hsome]
    refine ⟨_, rfl, ?_⟩
    rw [List.length_append, List.length_append, List.length_cons]
    by_cases hnil : e = []
    · subst hnil
      rw [List.length_nil]
      omega
    · have hexp := le_exponent he rest
      rw [digits_append hb (exponent_marker he hnil rest).1, List.drop_left]
      omega

theorem number?_two_points (rest : List Char) : number? ('.' :: '.' :: rest) = none := by
  simp [number?, mantissa, digits]

/-- A marker behind a number that no exponent goes on from ends the number. -/
theorem exponent_dangling (c : Char)
    (hno : ∀ sign d, IsSign sign → IsDigits d → d ≠ [] → ¬ sign ++ d <+: tail) :
    exponent (c :: tail) = 0 := by
  obtain ⟨hexp, hle⟩ := Lexeme.exponent_some (c :: tail)
  obtain hnil | ⟨x, sign, d, -, hs, hne, hd, hx⟩ := hexp
  · have hlen := congrArg List.length hnil
    rwa [List.length_take_of_le hle] at hlen
  · have hprefix := List.take_prefix (exponent (c :: tail)) (c :: tail)
    rw [hx, List.cons_prefix_cons] at hprefix
    exact absurd hprefix.2 (hno sign d hs hd hne)

theorem number?_eq_some : number? cs = some n ↔ ∃ w, IsFirstNumber w cs ∧ w.length = n := by
  constructor
  · intro h
    obtain ⟨hnumber, hle⟩ := Lexeme.number_some h
    by_cases hrange : ∃ v, BeginsRange v cs
    · obtain ⟨v, hne, hd, rest, hrest⟩ := hrange
      refine ⟨v, Or.inl ⟨hne, hd, rest, hrest⟩, ?_⟩
      have hv := number?_range hd hne rest
      rw [← hrest, List.append_assoc] at h
      exact Option.some.inj (hv.symm.trans h)
    · rw [not_exists] at hrange
      refine ⟨cs.take n, Or.inr ⟨hrange, ⟨hnumber, List.take_prefix n cs⟩, ?_⟩, List.length_take_of_le hle⟩
      rintro v hv ⟨rest, rfl⟩
      obtain ⟨k, hk, hlen⟩ := le_number? hv hrange
      obtain rfl : n = k := Option.some.inj (h.symm.trans hk)
      rwa [List.length_take_of_le hle]
  · rintro ⟨w, ⟨hne, hd, rest, rfl⟩ | ⟨hrange, ⟨hw, rest, rfl⟩, hlongest⟩, rfl⟩
    · rw [List.append_assoc]
      exact number?_range hd hne rest
    · obtain ⟨k, hk, hlen⟩ := le_number? hw hrange
      obtain ⟨hnumber, hle⟩ := Lexeme.number_some hk
      have hmax := hlongest _ hnumber (List.take_prefix k _)
      rw [List.length_take_of_le hle] at hmax
      rw [hk, Nat.le_antisymm hmax hlen]

theorem number?_eq_none : number? cs = none ↔ ∀ w, Unsigned w → ¬ w <+: cs := by
  constructor
  · rintro h w hw ⟨rest, rfl⟩
    by_cases hrange : ∃ v, BeginsRange v (w ++ rest)
    · obtain ⟨v, hne, hd, tail, htail⟩ := hrange
      rw [← htail, List.append_assoc] at h
      exact absurd (h.symm.trans (number?_range hd hne tail)) (by simp)
    · obtain ⟨k, hk, -⟩ := le_number? hw (not_exists.mp hrange)
      rw [h] at hk
      cases hk
  · intro h
    by_contra hsome
    obtain ⟨n, hn⟩ := Option.ne_none_iff_exists'.mp hsome
    exact h _ (Lexeme.number_some hn).1 (List.take_prefix n cs)

/-- A marker without digits is not part of the number before it. -/
theorem number?_dangling (hm : Mantissa m) (hc : c = 'e' ∨ c = 'E')
    (hno : ∀ sign d, IsSign sign → IsDigits d → d ≠ [] → ¬ sign ++ d <+: tail) :
    number? (m ++ c :: tail) = some m.length := by
  have hstops : Stops Char.isDigit (c :: tail) := by
    rintro _ ⟨⟩
    rcases hc with rfl | rfl <;> rfl
  have hpoint : (c :: tail).head? ≠ some '.' := by
    rcases hc with rfl | rfl <;> simp
  obtain ⟨hmantissa, hrange⟩ := mantissa_append hm hstops hpoint
  rw [number?, hmantissa, hrange, Option.map_some, if_neg Bool.false_ne_true, List.drop_left,
    exponent_dangling c hno, Nat.add_zero]

end Value

namespace Mode

variable {m : Mode} {t u : Symbol} {k : Nat} {cs : List Char}

/-- No mode that has two points reads words as values. -/
theorem twoPoints_checked : ∀ m ∈ table.toList, ∀ t ∈ m.tokens, t.name = ".." →
    t.IsLiteral ∧ (m.values.bareword && !m.values.recovering) = false := by
  decide +kernel

/-- Nothing is longer than two points and begins with them. -/
theorem munch?_points (hu : u < Symbol.string) (ht : t.IsLiteral) (htext : t.text = ['.', '.'])
    (h : u.munch? ('.' :: '.' :: cs) = some k) : (u, k) = (t, 2) ∨ k < 2 := by
  by_cases hk : k < 2
  · exact Or.inr hk
  obtain ⟨j, rfl⟩ := Nat.exists_eq_add_of_le' (Nat.le_of_not_lt hk)
  obtain ⟨hlex, hle⟩ := Lexeme.munch_some hu h
  rw [List.take_succ_cons, List.take_succ_cons] at hlex
  rcases Symbol.fixed_cases hu with rfl | rfl | rfl | rfl | hlit
  · cases hlex
  · obtain ⟨body, -, hw⟩ | ⟨body, -, hw⟩ : Lexeme.Comment _ := hlex <;> cases hw
  · obtain ⟨c, w, hw, hc, -⟩ : Lexeme.Name _ := hlex
    rw [← (List.cons.inj hw).1] at hc
    cases hc
  · have hsecond : ∀ w ∈ Symbol.suffixes, w[1]? ≠ some '.' := by decide
    exact absurd rfl (hsecond _ hlex)
  · have hshort := Symbol.text_of_lexeme hlit hlex
    obtain ⟨c, w, hw, -, -, -, -, -, hpoint, -⟩ := (Symbol.plain_text hlit).first
    obtain ⟨rfl, hrest⟩ := List.cons.inj (hw.symm.trans hshort)
    have hnil : cs.take j = [] := by
      rcases hpoint rfl with rfl | rfl
      · cases hrest
      · exact (List.cons.inj hrest).2.symm
    rw [List.length_cons, List.length_cons] at hle
    have hj : j = 0 := by
      have hlen := congrArg List.length hnil
      rw [List.length_take, List.length_nil] at hlen
      omega
    rw [hnil] at hshort
    rw [Symbol.eq_of_text hlit ht (hshort.trans htext.symm), hj]
    exact Or.inl rfl

/-- Two points are read before anything, wherever the grammar has them. -/
theorem read_points (hm : m ∈ table.toList) (ht : t ∈ m.tokens) (hname : t.name = "..") (cs : List Char) :
    m.read false ('.' :: '.' :: cs) = some ⟨t, 0, 2⟩ := by
  obtain ⟨hlit, hwords⟩ := twoPoints_checked m hm t ht hname
  have htext : t.text = ['.', '.'] := by rw [Symbol.text, hname]; rfl
  have hvalue : m.values.read ('.' :: '.' :: cs) = none := by
    unfold ValueSet.read
    simp [hwords, Value.number?_two_points]
  have htoken : t.munch? ('.' :: '.' :: cs) = some 2 := by
    rw [Symbol.munch?_literal hlit, htext]
    simp [List.isPrefixOf]
  have hmunch : m.munch 0 ('.' :: '.' :: cs) = some (t, 2) := by
    refine munch_eq (mem_candidates ht hlit.2.2.2.2 0) htoken fun u hu k hk => ?_
    exact (munch?_points (tokens_lt m hm u (mem_tokens_of_candidates hu)) hlit htext hk).imp_right Or.inl
  have hread : m.token? 0 ('.' :: '.' :: cs) = some (t, 2) := by
    rw [token?, hvalue]
    exact hmunch
  rw [read_eq]
  change Option.map _ (m.token? 0 ('.' :: '.' :: cs)) = _
  rw [hread]
  rfl

end Mode

namespace ValueSet

open Value
open Lexeme (IsDigits IsSign Mantissa Unsigned)

theorem read_numberOnly (cs : List Char) :
    numberOnly.read cs = (number? cs).map (Symbol.number, ·) := by
  cases h : number? cs with
  | none => 
    unfold read
    simp [numberOnly, h]
  | some n => 
    obtain ⟨c, w, hw, hc⟩ := unsigned_first (Lexeme.number_some h).1
    have hhead : cs.head? = some c := by
      have := List.take_prefix n cs
      rw [hw] at this
      obtain ⟨tail, rfl⟩ := this
      rfl
    have hfirst : cs.head?.any (fun c => c.isDigit || c == '.') = true := by
      rw [hhead, Option.any_some, Bool.or_eq_true, beq_iff_eq]
      exact hc
    unfold read
    simp [numberOnly, hfirst, h]

theorem scan_numberOnly_eq (text : List Char) : numberOnly.scan text =
    (number? (text.dropWhile isBlank)).map (⟨Symbol.number, blankLength text, ·⟩) := by
  unfold scan
  dsimp only
  rw [blankLength, Lexeme.drop_length_takeWhile, read_numberOnly, Option.map_map]
  rfl

/-- Where only a number is asked for, the number that follows the blanks is read, and nothing if none
follows them; so the bounds of a range are read as numbers, and a marker without digits ends a number. -/
theorem scan_numberOnly :
    (∀ text r, numberOnly.scan text = some r ↔ ∃ w, IsFirstNumber w (text.dropWhile isBlank) ∧
      r = ⟨Symbol.number, blankLength text, w.length⟩) ∧
    (∀ text, numberOnly.scan text = none ↔ ∀ w, Unsigned w → ¬ w <+: text.dropWhile isBlank) ∧
    (∀ a b, a ≠ [] → IsDigits a → b ≠ [] → IsDigits b →
      numberOnly.scan (a ++ '.' :: '.' :: b) = some ⟨Symbol.number, 0, a.length⟩ ∧
      numberOnly.scan ('.' :: '.' :: b) = none ∧
      (∀ m ∈ Mode.table.toList, ∀ t ∈ m.tokens, t.name = ".." →
        m.read false ('.' :: '.' :: b) = some ⟨t, 0, 2⟩) ∧
      numberOnly.scan b = some ⟨Symbol.number, 0, b.length⟩) ∧
    ∀ m c tail, Mantissa m → (c = 'e' ∨ c = 'E') →
      (∀ sign d, IsSign sign → IsDigits d → d ≠ [] → ¬ sign ++ d <+: tail) →
      numberOnly.scan (m ++ c :: tail) = some ⟨Symbol.number, 0, m.length⟩ := by
  -- a text that begins with a number has no blanks before it
  have hat : ∀ text n, number? text = some n → numberOnly.scan text = some ⟨Symbol.number, 0, n⟩ := by
    intro text n h
    obtain ⟨c, w, hw, hc⟩ := unsigned_first (Lexeme.number_some h).1
    have hblank : isBlank c = false := by
      rcases hc with hc | rfl
      · by_contra hb
        rw [isDigit_of_isBlank (Bool.not_eq_false _ ▸ hb)] at hc
        cases hc
      · rfl
    obtain ⟨tail, rfl⟩ := hw ▸ List.take_prefix n text
    rw [scan_numberOnly_eq, blankLength, List.cons_append, List.takeWhile_cons_of_neg (by simp [hblank]),
      List.dropWhile_cons_of_neg (by simp [hblank]), ← List.cons_append, h]
    rfl
  refine ⟨fun text r => ?_, fun text => ?_, fun a b ha hda hb hdb => ⟨?_, ?_, ?_, ?_⟩,
    fun m c tail hm hc hno => hat _ _ (number?_dangling hm hc hno)⟩
  · rw [scan_numberOnly_eq, Option.map_eq_some_iff]
    constructor
    · rintro ⟨n, hn, rfl⟩
      obtain ⟨w, hw, rfl⟩ := number?_eq_some.mp hn
      exact ⟨w, hw, rfl⟩
    · rintro ⟨w, hw, rfl⟩
      exact ⟨w.length, number?_eq_some.mpr ⟨w, hw, rfl⟩, rfl⟩
  · rw [scan_numberOnly_eq, Option.map_eq_none_iff, number?_eq_none]
  · exact hat _ _ (number?_range hda ha b)
  · rw [scan_numberOnly_eq, List.dropWhile_cons_of_neg (by decide), number?_two_points]
    rfl
  · exact fun m hm t ht hname => Mode.read_points hm ht hname b
  · have hnumber : Unsigned b := ⟨b, [], ⟨b, [], hdb, by simp [IsDigits], Or.inl ⟨rfl, hb⟩⟩, Or.inl rfl,
      (List.append_nil b).symm⟩
    exact hat _ _ (by simpa using number?_append hnumber ends_nil)

end ValueSet

end MathProg
