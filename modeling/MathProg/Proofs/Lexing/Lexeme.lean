import MathProg.Token.Reading
import Mathlib.Data.List.TakeWhile

/-!
# What the texts of tokens look like

Each token has a definition of its texts that does not speak of reading. The facts below say that
what is read as a token is one of its texts.
-/

namespace MathProg

namespace Lexeme

def IsDigits (w : List Char) : Prop := ∀ c ∈ w, c.isDigit = true

/-- Digits with perhaps a point among, before or behind them. -/
def Mantissa (w : List Char) : Prop :=
  ∃ a b, IsDigits a ∧ IsDigits b ∧ ((w = a ∧ a ≠ []) ∨ (w = a ++ '.' :: b ∧ (a ≠ [] ∨ b ≠ [])))

def IsSign (w : List Char) : Prop := w = [] ∨ w = ['+'] ∨ w = ['-']

/-- Nothing, or a marker, perhaps a sign, and digits. -/
def Exponent (w : List Char) : Prop :=
  w = [] ∨ ∃ e sign d, (e = 'e' ∨ e = 'E') ∧ IsSign sign ∧ d ≠ [] ∧ IsDigits d ∧ w = e :: (sign ++ d)

def Unsigned (w : List Char) : Prop := ∃ m e, Mantissa m ∧ Exponent e ∧ w = m ++ e

def Number (w : List Char) : Prop := ∃ sign u, IsSign sign ∧ Unsigned u ∧ w = sign ++ u

/-- A text with the quote doubled where it occurs. -/
def doubled (quote : Char) (body : List Char) : List Char :=
  body.flatMap fun c => if c = quote then [quote, quote] else [c]

def Quoted (w : List Char) : Prop :=
  ∃ quote body, (quote = '\'' ∨ quote = '"') ∧ w = quote :: (doubled quote body ++ [quote])

/-- A word of the data section. -/
def Bareword (w : List Char) : Prop :=
  w ≠ [] ∧ (∀ c ∈ w, Value.isWordChar c = true) ∧ w ∉ Value.reserved

def Name (w : List Char) : Prop :=
  ∃ c cs, w = c :: cs ∧ isNameStart c = true ∧ ∀ d ∈ cs, isNameChar d = true

/-- From a number sign to the end of the line, or from an opening mark to the first closing mark
after it. -/
def Comment (w : List Char) : Prop :=
  (∃ body, '\n' ∉ body ∧ w = '#' :: body) ∨
    ∃ body, ¬ ['*', '/'] <:+: body ++ ['*'] ∧ w = '/' :: '*' :: (body ++ ['*', '/'])

end Lexeme

open Lexeme in
/-- The texts of a token; a literal has one. -/
def Lexeme (t : Symbol) (w : List Char) : Prop :=
  if t = Symbol.endOfText then w = []
  else if t = Symbol.comment then Comment w
  else if t = Symbol.symbolicName then Name w
  else if t = Symbol.suffix then w ∈ Symbol.suffixes
  else if t = Symbol.string then Quoted w
  else if t = Symbol.number then Number w
  else if t = Symbol.bareword then Bareword w
  else w = t.name.toList

namespace Lexeme

theorem Mantissa.ne_nil {w : List Char} (h : Mantissa w) : w ≠ [] := by
  obtain ⟨a, b, -, -, ⟨rfl, ha⟩ | ⟨rfl, -⟩⟩ := h
  · exact ha
  · exact List.append_ne_nil_of_right_ne_nil _ (List.cons_ne_nil _ _)

theorem names_ne_nil : ∀ t ≤ Symbol.bareword, t.name.toList ≠ [] := by decide +kernel

/-- Only the end of the text is a token without text. -/
theorem ne_nil {t : Symbol} {w : List Char} (h : Lexeme t w) (ht : t ≤ Symbol.bareword)
    (hn : t ≠ Symbol.endOfText) : w ≠ [] := by
  unfold Lexeme at h
  rw [if_neg hn] at h
  split at h
  · obtain ⟨body, -, rfl⟩ | ⟨body, -, rfl⟩ := h
    · exact List.cons_ne_nil _ _
    · exact List.cons_ne_nil _ _
  · split at h
    · obtain ⟨c, cs, rfl, -⟩ := h
      exact List.cons_ne_nil _ _
    · split at h
      · exact (by decide : ∀ w ∈ Symbol.suffixes, w ≠ []) w h
      · split at h
        · obtain ⟨quote, body, -, rfl⟩ := h
          exact List.cons_ne_nil _ _
        · split at h
          · obtain ⟨sign, u, -, ⟨m, e, hm, -, rfl⟩, rfl⟩ := h
            exact List.append_ne_nil_of_right_ne_nil _ (List.append_ne_nil_of_left_ne_nil hm.ne_nil _)
          · split at h
            · exact h.1
            · rw [h]
              exact names_ne_nil t ht

theorem take_length_takeWhile (p : Char → Bool) (cs : List Char) :
    cs.take (cs.takeWhile p).length = cs.takeWhile p :=
  (List.prefix_iff_eq_take.mp (List.takeWhile_prefix p)).symm

theorem drop_length_takeWhile (p : Char → Bool) (cs : List Char) :
    cs.drop (cs.takeWhile p).length = cs.dropWhile p := by
  have hsplit : cs.takeWhile p ++ cs.dropWhile p = cs := List.takeWhile_append_dropWhile
  calc cs.drop (cs.takeWhile p).length
      = (cs.takeWhile p ++ cs.dropWhile p).drop (cs.takeWhile p).length := by rw [hsplit]
    _ = cs.dropWhile p := List.drop_left

theorem length_takeWhile_le (p : Char → Bool) (cs : List Char) :
    (cs.takeWhile p).length ≤ cs.length := (List.takeWhile_prefix p).length_le

theorem isDigits_take (cs : List Char) : IsDigits (cs.take (Value.digits cs)) := by
  unfold Value.digits
  rw [take_length_takeWhile]
  intro c hc
  exact (List.mem_takeWhile_imp hc)

theorem digits_le (cs : List Char) : Value.digits cs ≤ cs.length := length_takeWhile_le _ _

theorem take_digits_ne_nil {cs : List Char} (h : Value.digits cs ≠ 0) :
    cs.take (Value.digits cs) ≠ [] := by
  have hl : (cs.take (Value.digits cs)).length = Value.digits cs := by
    rw [List.length_take, Nat.min_eq_left (digits_le cs)]
  intro he
  rw [he] at hl
  exact h hl.symm

/-- What is read up to a place is what is read up to an earlier one, and what is read from there. -/
theorem take_add_drop (cs : List Char) (m n : Nat) :
    cs.take (m + n) = cs.take m ++ (cs.drop m).take n := List.take_add

theorem isSign_take (cs : List Char) :
    IsSign (cs.take (Value.signLength cs)) ∧ Value.signLength cs ≤ cs.length := by
  cases cs with
  | nil => exact ⟨Or.inl rfl, Nat.le_refl _⟩
  | cons c cs =>
    simp only [Value.signLength, Bool.or_eq_true, decide_eq_true_eq]
    split
    · rename_i hc
      refine ⟨?_, by simp⟩
      rcases hc with rfl | rfl
      · exact Or.inr (Or.inl rfl)
      · exact Or.inr (Or.inr rfl)
    · exact ⟨Or.inl rfl, Nat.zero_le _⟩

theorem exponent_some (cs : List Char) :
    Exponent (cs.take (Value.exponent cs)) ∧ Value.exponent cs ≤ cs.length := by
  cases cs with
  | nil => exact ⟨Or.inl rfl, Nat.le_refl _⟩
  | cons e cs =>
    simp only [Value.exponent, Bool.or_eq_true, decide_eq_true_eq]
    obtain ⟨hs, hle⟩ := isSign_take cs
    have hd := digits_le (cs.drop (Value.signLength cs))
    rw [List.length_drop] at hd
    split
    · rename_i he
      split
      · exact ⟨Or.inl rfl, Nat.zero_le _⟩
      · rename_i hn
        refine ⟨Or.inr ⟨e, _, _, he, hs, take_digits_ne_nil hn, isDigits_take _, ?_⟩, ?_⟩
        · rw [Nat.add_assoc, Nat.add_comm 1, List.take_succ_cons, take_add_drop]
        · rw [List.length_cons]
          omega
    · exact ⟨Or.inl rfl, Nat.zero_le _⟩

theorem mantissa_some {cs : List Char} {n : Nat} (h : Value.mantissa cs = some n) :
    Mantissa (cs.take n) ∧ n ≤ cs.length := by
  have hd := digits_le cs
  have hdig := isDigits_take cs
  simp only [Value.mantissa] at h
  -- the digits alone
  have hwhole : ∀ {m}, (if Value.digits cs = 0 then none else some (Value.digits cs)) = some m →
      Mantissa (cs.take m) ∧ m ≤ cs.length := by
    intro m hm
    split at hm
    · cases hm
    · rename_i h0
      cases hm
      exact ⟨⟨_, [], hdig, by simp [IsDigits], Or.inl ⟨rfl, take_digits_ne_nil h0⟩⟩, hd⟩
  split at h
  · rename_i rest hrest
    split at h
    · exact hwhole h
    · split at h
      · cases h
      · rename_i h0
        cases h
        have hl : cs.length = Value.digits cs + (rest.length + 1) := by
          have := congrArg List.length hrest
          rw [List.length_drop, List.length_cons] at this
          omega
        have hr := digits_le rest
        refine ⟨⟨cs.take (Value.digits cs), rest.take (Value.digits rest), hdig, isDigits_take rest,
          Or.inr ⟨?_, ?_⟩⟩, by omega⟩
        · rw [Nat.add_assoc, take_add_drop, hrest, Nat.add_comm 1, List.take_succ_cons]
        · by_cases hw : Value.digits cs = 0
          · exact Or.inr (take_digits_ne_nil (by simpa [hw] using h0))
          · exact Or.inl (take_digits_ne_nil hw)
  · exact hwhole h

theorem number_some {cs : List Char} {n : Nat} (h : Value.number? cs = some n) :
    Unsigned (cs.take n) ∧ n ≤ cs.length := by
  obtain ⟨m, hm, hn⟩ := Option.map_eq_some_iff.mp h
  obtain ⟨hman, hle⟩ := mantissa_some hm
  obtain ⟨hexp, hle'⟩ := exponent_some (cs.drop m)
  rw [List.length_drop] at hle'
  split at hn
  · subst hn
    exact ⟨⟨_, [], hman, Or.inl rfl, (List.append_nil _).symm⟩, hle⟩
  · subst hn
    exact ⟨⟨_, _, hman, hexp, take_add_drop _ _ _⟩, by omega⟩

theorem stringRest_some {q : Char} {cs : List Char} {n : Nat} (h : Value.stringRest q cs = some n) :
    (∃ body, cs.take n = doubled q body ++ [q]) ∧ n ≤ cs.length := by
  fun_induction Value.stringRest q cs generalizing n with
  | case1 => cases h
  | case2 => cases h; exact ⟨⟨[], rfl⟩, Nat.le_refl _⟩
  | case3 => cases h
  | case4 cs ih =>
    obtain ⟨m, hm, rfl⟩ := Option.map_eq_some_iff.mp h
    obtain ⟨⟨body, hb⟩, hle⟩ := ih hm
    refine ⟨⟨q :: body, ?_⟩, by simp only [List.length_cons]; omega⟩
    rw [List.take_succ_cons, List.take_succ_cons, hb]
    simp [doubled]
  | case5 c cs => cases h; exact ⟨⟨[], rfl⟩, by simp⟩
  | case6 c d cs hc ih =>
    obtain ⟨m, hm, rfl⟩ := Option.map_eq_some_iff.mp h
    obtain ⟨⟨body, hb⟩, hle⟩ := ih hm
    refine ⟨⟨c :: body, ?_⟩, by simp only [List.length_cons] at hle ⊢; omega⟩
    rw [List.take_succ_cons, hb]
    simp [doubled, hc]

theorem unsigned_eq (w : List Char) : ∃ sign, IsSign sign ∧ w = sign ++ Value.unsigned w := by
  cases w with
  | nil => exact ⟨[], Or.inl rfl, rfl⟩
  | cons c cs =>
    simp only [Value.unsigned, Bool.or_eq_true, decide_eq_true_eq]
    split
    · rename_i hc
      refine ⟨[c], ?_, rfl⟩
      rcases hc with rfl | rfl
      · exact Or.inr (Or.inl rfl)
      · exact Or.inr (Or.inr rfl)
    · exact ⟨[], Or.inl rfl, rfl⟩

theorem exponent_of_length {w : List Char} (h : w = [] ∨ Value.exponent w = w.length) : Exponent w := by
  rcases h with rfl | h
  · exact Or.inl rfl
  · have he := (exponent_some w).1
    rwa [h, List.take_length] at he

theorem number_of_isNumber {w : List Char} (h : Value.isNumber w = true) : Number w := by
  obtain ⟨sign, hsign, hw⟩ := unsigned_eq w
  simp only [Value.isNumber, Bool.and_eq_true, bne_iff_ne, ne_eq, Bool.or_eq_true,
    List.isEmpty_iff, beq_iff_eq] at h
  generalize Value.unsigned w = body at hw h
  refine ⟨sign, body, hsign, ?_, hw⟩
  have hwhole := isDigits_take body
  have hbody := List.take_append_drop (Value.digits body) body
  generalize hrest : body.drop (Value.digits body) = rest at h hbody
  obtain ⟨hdig, htail⟩ := h
  split at hdig
  · rename_i hpoint
    simp only [if_pos hpoint] at htail
    obtain ⟨rest, rfl⟩ := List.head?_eq_some_iff.mp hpoint
    simp only [List.drop_succ_cons, List.drop_zero, Nat.add_comm 1] at hdig htail
    refine ⟨body.take (Value.digits body) ++ '.' :: rest.take (Value.digits rest),
      rest.drop (Value.digits rest), ⟨_, _, hwhole, isDigits_take rest, Or.inr ⟨rfl, ?_⟩⟩,
      exponent_of_length ?_, ?_⟩
    · by_cases h0 : Value.digits body = 0
      · exact Or.inr (take_digits_ne_nil (by omega))
      · exact Or.inl (take_digits_ne_nil h0)
    · exact htail.imp_right And.right
    · rw [List.append_assoc, List.cons_append, List.take_append_drop, hbody]
  · rename_i hpoint
    simp only [if_neg hpoint, List.drop_zero] at htail
    refine ⟨body.take (Value.digits body), rest, ⟨_, [], hwhole, by simp [IsDigits],
      Or.inl ⟨rfl, take_digits_ne_nil (by omega)⟩⟩, exponent_of_length ?_, hbody.symm⟩
    exact htail.imp_right And.right

theorem word_some {cs : List Char} {t : Symbol} {n : Nat} (h : Value.word? cs = some (t, n)) :
    n = (cs.takeWhile Value.isWordChar).length ∧
      (t = Symbol.number ∧ Number (cs.take n) ∨ t = Symbol.bareword ∧ Bareword (cs.take n)) := by
  have hchars : ∀ c ∈ cs.takeWhile Value.isWordChar, Value.isWordChar c = true :=
    fun c hc => List.mem_takeWhile_imp hc
  have htake := take_length_takeWhile Value.isWordChar cs
  simp only [Value.word?] at h
  generalize cs.takeWhile Value.isWordChar = word at h hchars htake
  split at h
  · cases h
  · rename_i hne
    have hne : word ≠ [] := by simpa using hne
    split at h
    · rename_i hlong
      cases h
      refine ⟨rfl, Or.inr ⟨rfl, ?_⟩⟩
      rw [htake]
      refine ⟨hne, hchars, ?_⟩
      intro hmem
      simp only [Value.reserved, List.mem_cons, List.not_mem_nil, or_false] at hmem
      rcases hmem with rfl | rfl | rfl | rfl <;> revert hlong <;> decide
    · split at h
      · cases h
      · rename_i hres
        simp only [Bool.or_eq_true, List.contains_iff_mem, not_or] at hres
        cases h
        refine ⟨rfl, ?_⟩
        rw [htake]
        split
        · rename_i hnum
          exact Or.inl ⟨rfl, number_of_isNumber hnum⟩
        · exact Or.inr ⟨rfl, hne, hchars, hres.1⟩

/-- A value that is read is one of the texts of its token. -/
theorem read_value {valid : ValueSet} {cs : List Char} {t : Symbol} {n : Nat}
    (h : valid.read cs = some (t, n)) : Lexeme t (cs.take n) ∧ n ≤ cs.length := by
  simp only [ValueSet.read] at h
  split at h
  · rename_i hquote
    obtain ⟨m, hm, he⟩ := Option.map_eq_some_iff.mp h
    cases he
    cases cs with
    | nil => cases hm
    | cons q cs =>
      obtain ⟨k, hk, rfl⟩ := Option.map_eq_some_iff.mp hm
      obtain ⟨⟨body, hb⟩, hle⟩ := stringRest_some hk
      simp only [List.head?_cons, Bool.and_eq_true, Bool.or_eq_true, beq_iff_eq,
        Option.some.injEq] at hquote
      refine ⟨⟨q, body, hquote.1, ?_⟩, by simpa using hle⟩
      rw [List.take_succ_cons, hb]
  · split at h
    · obtain ⟨hn, hcases⟩ := word_some h
      refine ⟨?_, by rw [hn]; exact length_takeWhile_le _ _⟩
      rcases hcases with ⟨rfl, hnum⟩ | ⟨rfl, hword⟩
      · exact hnum
      · exact hword
    · split at h
      · obtain ⟨m, hm, he⟩ := Option.map_eq_some_iff.mp h
        cases he
        obtain ⟨hu, hle⟩ := number_some hm
        exact ⟨⟨[], _, Or.inl rfl, hu, rfl⟩, hle⟩
      · cases h

/-- A value is a string, a number or a word. -/
theorem value_symbol {valid : ValueSet} {cs : List Char} {t : Symbol} {n : Nat}
    (h : valid.read cs = some (t, n)) : Symbol.string ≤ t ∧ t ≤ Symbol.bareword := by
  simp only [ValueSet.read] at h
  split at h
  · obtain ⟨m, -, he⟩ := Option.map_eq_some_iff.mp h
    cases he
    decide
  · split at h
    · rcases (word_some h).2 with ⟨rfl, -⟩ | ⟨rfl, -⟩ <;> decide
    · split at h
      · obtain ⟨m, -, he⟩ := Option.map_eq_some_iff.mp h
        cases he
        decide
      · cases h

theorem blockRest_some {cs : List Char} {n : Nat} (h : Symbol.blockRest cs = some n) :
    (∃ body, ¬ ['*', '/'] <:+: body ++ ['*'] ∧ cs.take n = body ++ ['*', '/']) ∧ n ≤ cs.length := by
  fun_induction Symbol.blockRest cs generalizing n with
  | case1 cs => cases h; exact ⟨⟨[], by decide, rfl⟩, by simp⟩
  | case2 => cases h
  | case3 c cs hc _ ih =>
    obtain ⟨m, hm, rfl⟩ := Option.map_eq_some_iff.mp h
    obtain ⟨⟨body, hno, hb⟩, hle⟩ := ih hm
    refine ⟨⟨c :: body, ?_, by rw [List.take_succ_cons, hb]; rfl⟩, by simpa using hle⟩
    -- a closing mark at the head of the longer body would have ended the comment
    intro hin
    rw [List.cons_append, List.infix_cons_iff] at hin
    rcases hin with hpre | hin
    · rw [List.cons_prefix_cons] at hpre
      obtain ⟨rfl, hpre⟩ := hpre
      have hcs : cs.take m = (body ++ ['*']) ++ ['/'] := by rw [hb]; simp
      obtain ⟨u, hu⟩ := hpre
      obtain ⟨v, hv⟩ := List.take_prefix m cs
      rw [hcs, ← hu] at hv
      exact hc (u ++ ['/'] ++ v) rfl (by rw [← hv]; simp)
    · exact hno hin
  | case4 => cases h

theorem comment_some {cs : List Char} {n : Nat} (h : Symbol.comment? cs = some n) :
    Comment (cs.take n) ∧ n ≤ cs.length := by
  unfold Symbol.comment? at h
  split at h
  · rename_i cs
    cases h
    have hle := length_takeWhile_le (fun c => c != '\n' && c != '\x00') cs
    refine ⟨Or.inl ⟨cs.takeWhile fun c => c != '\n' && c != '\x00', ?_, ?_⟩, ?_⟩
    · intro hmem
      have := List.mem_takeWhile_imp hmem
      simp at this
    · rw [Nat.add_comm, List.take_succ_cons, take_length_takeWhile]
    · rw [List.length_cons]
      omega
  · obtain ⟨m, hm, rfl⟩ := Option.map_eq_some_iff.mp h
    obtain ⟨⟨body, hno, hb⟩, hle⟩ := blockRest_some hm
    refine ⟨Or.inr ⟨body, hno, ?_⟩, by simpa using hle⟩
    rw [List.take_succ_cons, List.take_succ_cons, hb]
  · cases h

theorem name_some {cs : List Char} {n : Nat} (h : Symbol.name? cs = some n) :
    Name (cs.take n) ∧ n ≤ cs.length := by
  cases cs with
  | nil => cases h
  | cons c cs =>
    simp only [Symbol.name?] at h
    split at h
    · rename_i hc
      cases h
      have hle := length_takeWhile_le isNameChar cs
      refine ⟨⟨c, cs.takeWhile isNameChar, ?_, hc, fun d hd => List.mem_takeWhile_imp hd⟩, ?_⟩
      · rw [Nat.add_comm, List.take_succ_cons, take_length_takeWhile]
      · rw [List.length_cons]
        omega
    · cases h

theorem take_of_prefix {w cs : List Char} (h : w.isPrefixOf cs = true) :
    cs.take w.length = w ∧ w.length ≤ cs.length := by
  have hp := List.isPrefixOf_iff_prefix.mp h
  exact ⟨(List.prefix_iff_eq_take.mp hp).symm, hp.length_le⟩

/-- The tokens that are literals or come as a name, a suffix, a comment or the end of the text. -/
theorem munch_some {t : Symbol} {cs : List Char} {n : Nat} (ht : t < Symbol.string)
    (h : t.munch? cs = some n) : Lexeme t (cs.take n) ∧ n ≤ cs.length := by
  have hs : t ≠ Symbol.string := Nat.ne_of_lt ht
  have hn : t ≠ Symbol.number := Nat.ne_of_lt (Nat.lt_trans ht (by decide))
  have hb : t ≠ Symbol.bareword := Nat.ne_of_lt (Nat.lt_trans ht (by decide))
  simp only [Symbol.munch?] at h
  simp only [Lexeme, hs, hn, hb, if_false]
  by_cases hend : t = Symbol.endOfText
  · rw [if_pos hend] at h ⊢
    split at h
    · cases h
      exact ⟨rfl, Nat.zero_le _⟩
    · cases h
  rw [if_neg hend] at h ⊢
  by_cases hcomment : t = Symbol.comment
  · rw [if_pos hcomment] at h ⊢
    exact comment_some h
  rw [if_neg hcomment] at h ⊢
  by_cases hname : t = Symbol.symbolicName
  · rw [if_pos hname] at h ⊢
    exact name_some h
  rw [if_neg hname] at h ⊢
  by_cases hsuffix : t = Symbol.suffix
  · rw [if_pos hsuffix] at h ⊢
    obtain ⟨w, hw, rfl⟩ := Option.map_eq_some_iff.mp h
    have hp : w.isPrefixOf cs = true := List.find?_some (p := fun u : List Char => u.isPrefixOf cs) hw
    obtain ⟨htake, hle⟩ := take_of_prefix hp
    rw [htake]
    exact ⟨List.mem_of_find?_eq_some hw, hle⟩
  rw [if_neg hsuffix] at h ⊢
  split at h
  · rename_i hp
    cases h
    exact take_of_prefix hp
  · cases h

end Lexeme

end MathProg
