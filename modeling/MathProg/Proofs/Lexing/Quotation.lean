import MathProg.Proofs.Lexing.Lexeme

/-!
# Strings

A text is put into quotes by doubling the quotes in it, and every text can be read back from its quoted form,
whatever it contains. A string is read from its opening quote to the first quote that is not one of a pair;
where all quotes behind the opening one pair up, there is no string.
-/

namespace MathProg

namespace Lexeme

variable {q : Char} {body body' cs rest : List Char} {n : Nat}

def IsQuote (q : Char) : Prop := q = '\'' ∨ q = '"'

/-- A text in quotes. -/
def quoted (q : Char) (body : List Char) : List Char := q :: (doubled q body ++ [q])

/-- Behind an opening quote there is a closing one: it follows pairs only, and is not one of a pair. -/
def IsClosed (q : Char) (cs : List Char) : Prop :=
  ∃ body rest, cs = doubled q body ++ q :: rest ∧ rest.head? ≠ some q

/-- Quotes pair up if there is an even number of them wherever some stand together. -/
def PairUp (q : Char) (cs : List Char) : Prop :=
  ∀ a k b, cs = a ++ (List.replicate k q ++ b) → a.getLast? ≠ some q → b.head? ≠ some q → k % 2 = 0

theorem length_quoted (q : Char) (body : List Char) :
    (quoted q body).length = (doubled q body).length + 2 := by
  rw [quoted, List.length_cons, List.length_append, List.length_singleton]

theorem doubled_cons_quote (q : Char) (body : List Char) :
    doubled q (q :: body) = q :: q :: doubled q body := by
  simp [doubled]

theorem doubled_cons_other {c : Char} (hc : c ≠ q) (body : List Char) :
    doubled q (c :: body) = c :: doubled q body := by
  simp [doubled, hc]

theorem doubled_injective (h : doubled q body = doubled q body') : body = body' := by
  induction body generalizing body' with
  | nil =>
    cases body' with
    | nil => rfl
    | cons c body' => by_cases hc : c = q <;> simp [doubled, hc] at h
  | cons c body ih =>
    cases body' with
    | nil => by_cases hc : c = q <;> simp [doubled, hc] at h
    | cons d body' =>
      by_cases hc : c = q
      · subst hc
        by_cases hd : d = c
        · subst hd
          rw [doubled_cons_quote, doubled_cons_quote] at h
          rw [ih (List.cons.inj (List.cons.inj h).2).2]
        · rw [doubled_cons_quote, doubled_cons_other hd] at h
          exact absurd (List.cons.inj h).1.symm hd
      · by_cases hd : d = q
        · subst hd
          rw [doubled_cons_quote, doubled_cons_other hc] at h
          exact absurd (List.cons.inj h).1 hc
        · rw [doubled_cons_other hc, doubled_cons_other hd] at h
          rw [(List.cons.inj h).1, ih (List.cons.inj h).2]

/-- A text and its quotes can be told from the quoted text. -/
theorem quoted_injective {q' : Char} (h : quoted q body = quoted q' body') : q = q' ∧ body = body' := by
  obtain ⟨rfl, hrest⟩ := List.cons.inj h
  exact ⟨rfl, doubled_injective (List.append_cancel_right hrest)⟩

theorem pairUp_doubled (q : Char) (body : List Char) : PairUp q (doubled q body) := by
  induction body with
  | nil =>
    intro a k b h _ _
    have hlength := congrArg List.length h
    simp [doubled] at hlength
    omega
  | cons c body ih =>
    intro a k b h ha hb
    by_cases hc : c = q
    · subst hc
      rw [doubled_cons_quote] at h
      cases a with
      | nil =>
        -- the run begins with the pair
        rcases k with _ | _ | k
        · rfl
        · exact absurd (congrArg List.head? (List.cons.inj h).2).symm hb
        · have hrest := (List.cons.inj (List.cons.inj h).2).2
          have heven := ih [] k b hrest ha hb
          omega
      | cons x a =>
        rw [List.cons_append] at h
        obtain ⟨rfl, htail⟩ := List.cons.inj h
        cases a with
        | nil => exact absurd rfl ha
        | cons y a =>
          rw [List.cons_append] at htail
          obtain ⟨rfl, hrest⟩ := List.cons.inj htail
          cases a with
          | nil => exact absurd rfl ha
          | cons z a => exact ih (z :: a) k b hrest (by simpa using ha) hb
    · rw [doubled_cons_other hc] at h
      cases a with
      | nil =>
        cases k with
        | zero => rfl
        | succ k => exact absurd (List.cons.inj h).1 hc
      | cons x a =>
        rw [List.cons_append] at h
        obtain ⟨rfl, hrest⟩ := List.cons.inj h
        refine ih a k b hrest (fun hlast => ?_) hb
        rw [List.getLast?_cons, hlast] at ha
        exact ha rfl

/-- No text whose quotes pair up begins with a single one. -/
theorem PairUp.not_single (h : PairUp q (q :: rest)) : rest.head? = some q := by
  by_contra hrest
  exact absurd (h [] 1 rest rfl (by simp) hrest) (by decide)

theorem PairUp.tail {c : Char} (hc : c ≠ q) (h : PairUp q (c :: cs)) : PairUp q cs := by
  intro a k b hsplit ha hb
  refine h (c :: a) k b (congrArg (c :: ·) hsplit) (fun hlast => ?_) hb
  rw [List.getLast?_cons] at hlast
  cases hlast' : a.getLast? with
  | none =>
    rw [hlast'] at hlast
    exact hc (Option.some.inj hlast)
  | some d =>
    rw [hlast'] at hlast
    exact ha (hlast'.trans hlast)

theorem PairUp.behind (h : PairUp q (q :: q :: cs)) : PairUp q cs := by
  intro a k b hsplit ha hb
  cases a with
  | nil =>
    have hall : q :: q :: cs = [] ++ (List.replicate (k + 2) q ++ b) := by
      rw [hsplit]
      rfl
    have heven := h [] (k + 2) b hall ha hb
    omega
  | cons c a => exact h (q :: q :: c :: a) k b (by rw [hsplit]; rfl) (by simpa using ha) hb

end Lexeme

namespace Value

open Lexeme

variable {q : Char} {body cs rest : List Char} {n : Nat}

/-- A closing quote ends the string. -/
theorem stringRest_closed (hrest : rest.head? ≠ some q) (body : List Char) :
    stringRest q (doubled q body ++ q :: rest) = some ((doubled q body).length + 1) := by
  induction body with
  | nil =>
    cases rest with
    | nil => simp [doubled, stringRest]
    | cons c rest =>
      have hc : c ≠ q := fun h => hrest (congrArg some h)
      simp [doubled, stringRest, hc]
  | cons c body ih =>
    by_cases hc : c = q
    · subst hc
      rw [doubled_cons_quote, List.cons_append, List.cons_append, stringRest, if_pos rfl, if_pos rfl, ih]
      rfl
    · rw [doubled_cons_other hc, List.cons_append]
      obtain ⟨d, ds, hd⟩ := List.exists_cons_of_ne_nil
        (List.append_ne_nil_of_right_ne_nil (doubled q body) (List.cons_ne_nil q rest))
      rw [hd] at ih ⊢
      rw [stringRest, if_neg hc, ih]
      rfl

/-- Where quotes pair up the string does not end. -/
theorem stringRest_doubled (q : Char) (body : List Char) : stringRest q (doubled q body) = none := by
  induction body with
  | nil => rfl
  | cons c body ih =>
    by_cases hc : c = q
    · subst hc
      rw [doubled_cons_quote, stringRest, if_pos rfl, if_pos rfl, ih]
      rfl
    · rw [doubled_cons_other hc]
      cases hd : doubled q body with
      | nil => exact if_neg hc
      | cons d ds =>
        rw [hd] at ih
        rw [stringRest, if_neg hc, ih]
        rfl

/-- Behind an opening quote the quotes pair up, or one of them closes the string. -/
theorem doubled_or_closed (q : Char) (cs : List Char) : (∃ body, cs = doubled q body) ∨ IsClosed q cs := by
  fun_induction stringRest q cs with
  | case1 => exact Or.inl ⟨[], rfl⟩
  | case2 => exact Or.inr ⟨[], [], rfl, by simp⟩
  | case3 c hc => exact Or.inl ⟨[c], by simp [doubled, hc]⟩
  | case4 cs ih =>
    rcases ih with ⟨body, rfl⟩ | ⟨body, rest, rfl, hrest⟩
    · exact Or.inl ⟨q :: body, (doubled_cons_quote q body).symm⟩
    · exact Or.inr ⟨q :: body, rest, by rw [doubled_cons_quote]; rfl, hrest⟩
  | case5 d cs hd => exact Or.inr ⟨[], d :: cs, rfl, fun h => hd (Option.some.inj h)⟩
  | case6 c d cs hc ih =>
    rcases ih with ⟨body, hbody⟩ | ⟨body, rest, hbody, hrest⟩
    · exact Or.inl ⟨c :: body, by rw [doubled_cons_other hc, hbody]⟩
    · exact Or.inr ⟨c :: body, rest, by rw [doubled_cons_other hc, hbody]; rfl, hrest⟩

theorem not_isClosed_iff : ¬ IsClosed q cs ↔ ∃ body, cs = doubled q body := by
  constructor
  · exact (doubled_or_closed q cs).resolve_right
  · rintro ⟨body, rfl⟩ ⟨body', rest, h, hrest⟩
    have hnone := stringRest_doubled q body
    rw [h, stringRest_closed hrest] at hnone
    cases hnone

theorem stringRest_eq_none : stringRest q cs = none ↔ ¬ IsClosed q cs := by
  rw [not_isClosed_iff]
  constructor
  · intro h
    refine (doubled_or_closed q cs).resolve_right ?_
    rintro ⟨body, rest, rfl, hrest⟩
    rw [stringRest_closed hrest] at h
    cases h
  · rintro ⟨body, rfl⟩
    exact stringRest_doubled q body

theorem stringRest_eq_some : stringRest q cs = some n ↔
    ∃ body rest, cs = doubled q body ++ q :: rest ∧ rest.head? ≠ some q ∧ n = (doubled q body).length + 1 := by
  constructor
  · intro h
    by_contra hno
    have hopen : ¬ IsClosed q cs := by
      rintro ⟨body, rest, rfl, hrest⟩
      rw [stringRest_closed hrest] at h
      exact hno ⟨body, rest, rfl, hrest, (Option.some.inj h).symm⟩
    rw [stringRest_eq_none.mpr hopen] at h
    cases h
  · rintro ⟨body, rest, rfl, hrest, rfl⟩
    exact stringRest_closed hrest body

/-- The quotes pair up exactly where none of them closes the string. -/
theorem pairUp_iff : PairUp q cs ↔ ¬ IsClosed q cs := by
  constructor
  · rintro h ⟨body, rest, rfl, hrest⟩
    induction body with
    | nil => exact hrest h.not_single
    | cons c body ih =>
      by_cases hc : c = q
      · subst hc
        rw [doubled_cons_quote] at h
        exact ih h.behind
      · rw [doubled_cons_other hc] at h
        exact ih (h.tail hc)
  · intro h
    obtain ⟨body, rfl⟩ := not_isClosed_iff.mp h
    exact pairUp_doubled q body

end Value

namespace ValueSet

open Lexeme

variable {valid : ValueSet} {q : Char}

theorem not_isBlank_of_isQuote (hq : IsQuote q) : isBlank q = false := by
  rcases hq with rfl | rfl <;> decide

/-- Where strings are asked for, a quote decides for a string. -/
theorem scan_quote (hvalid : valid.string = true ∨ valid.recovering = true) (hq : IsQuote q)
    (cs : List Char) : valid.scan (q :: cs) =
      (Value.stringRest q cs).map fun n => ⟨Symbol.string, 0, n + 1⟩ := by
  have hblank : blankLength (q :: cs) = 0 := by
    rw [blankLength, List.takeWhile_cons_of_neg (by rw [not_isBlank_of_isQuote hq]; exact Bool.false_ne_true)]
    rfl
  have hstring : (((q :: cs).head? == some '\'' || (q :: cs).head? == some '"') &&
      (valid.string || valid.recovering)) = true := by
    rw [Bool.and_eq_true, Bool.or_eq_true, Bool.or_eq_true, List.head?_cons, beq_iff_eq, beq_iff_eq]
    exact ⟨hq.imp (congrArg some) (congrArg some), hvalid⟩
  unfold scan
  dsimp only
  rw [hblank, List.drop_zero]
  unfold read
  dsimp only
  rw [if_pos hstring, Value.string?, Option.map_map, Option.map_map]
  rfl

/-- A string that is read begins with a quote. -/
theorem read_string {cs : List Char} {n : Nat} (h : valid.read cs = some (Symbol.string, n)) :
    ∃ q rest k, IsQuote q ∧ cs = q :: rest ∧ Value.stringRest q rest = some k ∧ n = k + 1 := by
  unfold read at h
  dsimp only at h
  split at h
  · rename_i hquote
    obtain ⟨m, hm, he⟩ := Option.map_eq_some_iff.mp h
    obtain rfl : m = n := congrArg Prod.snd he
    cases cs with
    | nil => cases hm
    | cons q rest =>
      obtain ⟨k, hk, rfl⟩ := Option.map_eq_some_iff.mp hm
      rw [Bool.and_eq_true, Bool.or_eq_true, List.head?_cons, beq_iff_eq, beq_iff_eq] at hquote
      exact ⟨q, rest, k, hquote.1.imp Option.some.inj Option.some.inj, rfl, hk, rfl⟩
  · split at h
    · rcases (Lexeme.word_some h).2 with ⟨ht, -⟩ | ⟨ht, -⟩
      · exact absurd ht (by decide)
      · exact absurd ht (by decide)
    · split at h
      · obtain ⟨m, -, he⟩ := Option.map_eq_some_iff.mp h
        have hsymbol : Symbol.number = Symbol.string := congrArg Prod.fst he
        exact absurd hsymbol (by decide)
      · cases h

/-- Every quoted text is read as one string, if no further quote follows it. No string is read behind a
quote exactly if there is no closing quote, which is to say that all further quotes pair up. And every
string that is read, whatever is asked for, is the quoted form of one text, in one kind of quotes. -/
theorem strings_exact (hvalid : valid.string = true ∨ valid.recovering = true) (hq : IsQuote q) :
    (∀ body rest, rest.head? ≠ some q →
      valid.scan (quoted q body ++ rest) = some ⟨Symbol.string, 0, (quoted q body).length⟩) ∧
    (∀ cs, (valid.scan (q :: cs) = none ↔ ¬ IsClosed q cs) ∧ (¬ IsClosed q cs ↔ PairUp q cs)) ∧
    ∀ (any : ValueSet) (text : List Char) (r : Reading), any.scan text = some r →
      r.symbol = Symbol.string → r.skipped = blankLength text ∧ ∃ q' body, IsQuote q' ∧
        (text.drop r.skipped).take r.length = quoted q' body ∧
        (text.drop (r.skipped + r.length)).head? ≠ some q' ∧
        ∀ q'' body', (text.drop r.skipped).take r.length = quoted q'' body' → q'' = q' ∧ body' = body := by
  refine ⟨fun body rest hrest => ?_, fun cs => ⟨?_, Value.pairUp_iff.symm⟩, fun any text r hr hs => ?_⟩
  · have htext : quoted q body ++ rest = q :: (doubled q body ++ q :: rest) := by
      rw [quoted, List.cons_append, List.append_assoc]
      rfl
    rw [htext, scan_quote hvalid hq, Value.stringRest_closed hrest, length_quoted]
    rfl
  · rw [scan_quote hvalid hq, Option.map_eq_none_iff]
    exact Value.stringRest_eq_none
  · obtain ⟨⟨t, n⟩, hread, rfl⟩ := Option.map_eq_some_iff.mp hr
    obtain rfl : t = Symbol.string := hs
    obtain ⟨q', rest, k, hq', htext, hk, rfl⟩ := read_string hread
    obtain ⟨body, behind, rfl, hbehind, rfl⟩ := Value.stringRest_eq_some.mp hk
    have hquoted : text.drop (blankLength text) = quoted q' body ++ behind := by
      rw [htext, quoted, List.cons_append, List.append_assoc]
      rfl
    have htake : (text.drop (blankLength text)).take ((doubled q' body).length + 1 + 1) = quoted q' body := by
      rw [hquoted, ← length_quoted, List.take_left]
    have hdrop : text.drop (blankLength text + ((doubled q' body).length + 1 + 1)) = behind := by
      rw [← List.drop_drop, hquoted, ← length_quoted, List.drop_left]
    refine ⟨rfl, q', body, hq', htake, ?_, fun q'' body' htake' => ?_⟩
    · rw [hdrop]
      exact hbehind
    · exact quoted_injective (htake'.symm.trans htake)

/-- Quotes of both kinds, a line feed and a zero in one string. -/
theorem strings_exact_mixed :
    ValueSet.stringOnly.scan "\"a\"\"'\n\x00\"\"\";".toList = some ⟨Symbol.string, 0, 10⟩ ∧
      ValueSet.stringOnly.scan "\"a\"\"'".toList = none := by
  obtain ⟨hread, hnone, -⟩ := @strings_exact .stringOnly '"' (Or.inl rfl) (Or.inr rfl)
  refine ⟨hread "a\"'\n\x00\"".toList [';'] (by decide), (hnone _).1.mpr ?_⟩
  exact Value.not_isClosed_iff.mpr ⟨"a\"'".toList, by decide⟩

end ValueSet

end MathProg
