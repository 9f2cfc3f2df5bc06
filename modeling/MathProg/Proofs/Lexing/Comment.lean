import MathProg.Proofs.Automaton.Modes
import MathProg.Proofs.Lexing.Context
import MathProg.Proofs.Lexing.DataWord

/-!
# Around a comment

A comment in a block is read wherever the parser goes on. The tokens before it and behind it are read as they
were: a word of the data section that begins no statement begins none before a comment either, and what stands
right behind the comment is no suffix if it was none behind blanks.
-/

namespace MathProg

namespace Value

variable {v word rest tail z : List Char}

/-- Before a slash nothing else can be seen behind a text, or what could be seen before. -/
theorem firstVisible_slash (v tail z : List Char) : firstVisible (v ++ '/' :: z) = some '/' ∨
    firstVisible (v ++ '/' :: z) = firstVisible (v ++ tail) := by
  by_cases hv : ∀ c ∈ v, isBlank c = true
  · left
    rw [firstVisible, List.dropWhile_append_of_pos hv, List.dropWhile_cons_of_neg (by decide)]
    rfl
  · right
    induction v with
    | nil => exact absurd (fun c hc => absurd hc List.not_mem_nil) hv
    | cons c v ih =>
      unfold firstVisible at ih ⊢
      by_cases hc : isBlank c = true
      · rw [List.cons_append, List.cons_append, List.dropWhile_cons_of_pos hc, List.dropWhile_cons_of_pos hc]
        exact ih fun hall => hv (List.forall_mem_cons.mpr ⟨hc, hall⟩)
      · rw [List.cons_append, List.cons_append, List.dropWhile_cons_of_neg hc, List.dropWhile_cons_of_neg hc]
        rfl

/-- No word begins a statement before a slash, unless it does anyway. -/
theorem not_beginsStatement_slash (h : ¬ BeginsStatement word (v ++ tail)) :
    ¬ BeginsStatement word (v ++ '/' :: z) := by
  rw [BeginsStatement] at h ⊢
  rcases firstVisible_slash v tail z with hvisible | hvisible
  · rw [hvisible]
    rintro (⟨-, c, hc, hname⟩ | ⟨-, hnone | hsemicolon⟩)
    · cases hc
      exact absurd hname (by decide)
    · cases hnone
    · cases hsemicolon
  · rwa [hvisible]

theorem mem_of_beginsStatement (h : BeginsStatement word rest) :
    word ∈ ["set", "param", "end"].map String.toList := by
  rcases h with ⟨rfl | rfl, -⟩ | ⟨rfl, -⟩ <;> decide

end Value

namespace Mode

open Value (isWordChar BeginsStatement Alike)

variable {m : Mode} {blanks : Nat} {t : Symbol} {w word ahead rest tail z : List Char}

/-- Where words are values, no other token begins with one of the words that may begin a statement. -/
theorem words_checked : ∀ m ∈ table.toList, m.values.bareword = true → m.values.recovering = false →
    ∀ t ∈ m.tokens, t ≠ Symbol.symbolicName ∧
      (t.IsLiteral → ∀ v ∈ ["set", "param", "end"].map String.toList, ¬ v <+: t.text) := by
  decide +kernel

/-- Where words are values, what is read begins no statement. -/
theorem not_beginsStatement (hm : m ∈ table.toList) (hp : m.Plain) (hword : m.values.bareword = true)
    (hcalm : m.values.recovering = false) (hread : m.token? blanks (w ++ rest) = some (t, w.length))
    (hw : w = word ++ ahead) (hne : word ≠ []) (htake : (w ++ rest).takeWhile isWordChar = word) :
    ¬ BeginsStatement word (ahead ++ rest) := by
  have hdrop : (w ++ rest).dropWhile isWordChar = ahead ++ rest := by
    have hsplit : (w ++ rest).takeWhile isWordChar ++ (w ++ rest).dropWhile isWordChar = w ++ rest :=
      List.takeWhile_append_dropWhile
    rw [htake] at hsplit
    conv_rhs at hsplit => rw [hw, List.append_assoc]
    exact List.append_cancel_left hsplit
  intro hbegins
  have hnone : Value.word? (w ++ rest) = none := by
    rw [Value.word?_eq_none, htake, hdrop]
    exact Or.inr (Or.inr hbegins)
  have hmem := Value.mem_of_beginsStatement hbegins
  obtain ⟨c, word, rfl⟩ := List.exists_cons_of_ne_nil hne
  have hc : c ≠ '\'' ∧ c ≠ '"' ∧ c ≠ '#' ∧ c ≠ '/' ∧ c ≠ '.' := by
    simp only [List.map_cons, List.map_nil, List.mem_cons, List.not_mem_nil, or_false] at hmem
    rcases hmem with h | h | h
    all_goals
      rw [(List.cons.inj h).1]
      decide
  have hvalue : m.values.read (w ++ rest) = none := by
    unfold ValueSet.read
    rw [hw, List.cons_append, List.cons_append]
    dsimp only [List.head?_cons]
    rw [if_neg (by simp [hc.1, hc.2.1]), if_pos (by rw [hword, hcalm]; rfl), ← List.cons_append,
      ← List.cons_append, ← hw]
    exact hnone
  rw [token?, hvalue, Option.orElse_none] at hread
  obtain ⟨hcandidate, hmunch⟩ := munch_mem hread
  have ht := mem_tokens_of_candidates hcandidate
  have hlex := (Lexeme.munch_some (hp t ht) hmunch).1
  rw [List.take_left] at hlex
  obtain ⟨hname, hliteral⟩ := words_checked m hm hword hcalm t ht
  rcases Symbol.fixed_cases (hp t ht) with rfl | rfl | rfl | rfl | hlit
  · rw [show w = [] from hlex] at hw
    cases hw
  · obtain ⟨body, -, hb⟩ | ⟨body, -, hb⟩ : Lexeme.Comment w := hlex
    · exact hc.2.2.1 (List.cons.inj (hw.symm.trans hb)).1
    · exact hc.2.2.2.1 (List.cons.inj (hw.symm.trans hb)).1
  · exact hname rfl
  · have hhead := (Symbol.suffixes_checked w hlex).1
    rw [hw] at hhead
    exact hc.2.2.2.2 (Option.some.inj hhead)
  · refine hliteral hlit _ hmem ?_
    rw [Symbol.text_of_lexeme hlit hlex, hw]
    exact List.prefix_append _ _

/-- Before a comment a word of the data section is what it was. -/
theorem alike_comment (hm : m ∈ table.toList) (hp : m.Plain) (hcalm : m.values.recovering = false)
    (common : List Char) (hread : m.token? blanks (w ++ (common ++ tail)) = some (t, w.length))
    (hword : m.values.bareword = true) : Alike w (common ++ tail) (common ++ '/' :: z) := by
  intro word ahead hw hne htake
  have hnot := not_beginsStatement hm hp hword hcalm hread hw hne htake
  have hnot' := hnot
  rw [← List.append_assoc] at hnot'
  have hslash := Value.not_beginsStatement_slash (z := z) hnot'
  rw [List.append_assoc] at hslash
  rw [← Value.beginsStatement_iff, Bool.not_eq_true] at hnot hslash
  rw [hnot, hslash]

/-- Where a suffix may be read, words are no values, and a single point is no token. -/
theorem suffixes_checked : ∀ m ∈ table.toList, m.values.recovering = false → Symbol.suffix ∈ m.tokens →
    m.values.bareword = false ∧ ∀ t ∈ m.tokens, t.IsLiteral → t.text ≠ ['.'] := by
  decide +kernel

theorem letters_checked : ∀ v ∈ Symbol.suffixes,
    v.head? = some '.' ∧ v.tail.head?.any (fun c => !c.isDigit && c != '.') = true := by
  decide

/-- Where another token is read, there is no suffix. -/
theorem no_suffix (hm : m ∈ table.toList) (hp : m.Plain) (hcalm : m.values.recovering = false)
    (hsuffix : Symbol.suffix ∈ m.tokens) (hread : m.token? blanks (w ++ rest) = some (t, w.length))
    (ht : t ≠ Symbol.suffix) (hne : w ≠ []) : Symbol.suffix.munch? (w ++ rest) = none := by
  obtain ⟨hword, hpoint⟩ := suffixes_checked m hm hcalm hsuffix
  rw [Symbol.munch?_suffix, Option.map_eq_none_iff]
  by_contra hsome
  obtain ⟨v, hv⟩ := Option.ne_none_iff_exists'.mp hsome
  have hmem := List.mem_of_find?_eq_some hv
  have hprefix := List.isPrefixOf_iff_prefix.mp
    (List.find?_some (p := fun v : List Char => v.isPrefixOf (w ++ rest)) hv)
  obtain ⟨c, cs, htext, hdigit, hc⟩ : ∃ c cs, w ++ rest = '.' :: c :: cs ∧ c.isDigit = false ∧ c ≠ '.' := by
    obtain ⟨hhead, hletter⟩ := letters_checked v hmem
    obtain ⟨u, rfl⟩ := List.head?_eq_some_iff.mp hhead
    obtain ⟨c, hc, hother⟩ := (Option.any_eq_true _ _).mp hletter
    obtain ⟨u, rfl⟩ := List.head?_eq_some_iff.mp hc
    obtain ⟨cs, hcs⟩ := hprefix
    rw [Bool.and_eq_true, Bool.not_eq_true', bne_iff_ne] at hother
    exact ⟨c, u ++ cs, hcs.symm, hother⟩
  have hdigits : Value.digits (c :: cs) = 0 := by
    rw [Value.digits, List.takeWhile_cons_of_neg (by rw [hdigit]; exact Bool.false_ne_true)]
    rfl
  have hvalue : m.values.read (w ++ rest) = none := by
    have hnumber : Value.number? ('.' :: c :: cs) = none := by
      rw [Value.number?_eq]
      exact Value.numberFrom_zero (Or.inl hdigits)
    unfold ValueSet.read
    rw [htext, hword, hnumber]
    simp
  rw [token?, hvalue, Option.orElse_none] at hread
  obtain ⟨hcandidate, hmunch⟩ := munch_mem hread
  have htokens := mem_tokens_of_candidates hcandidate
  have hlex := (Lexeme.munch_some (hp t htokens) hmunch).1
  rw [List.take_left] at hlex
  obtain ⟨d, w, rfl⟩ := List.exists_cons_of_ne_nil hne
  obtain ⟨rfl, hbehind⟩ := List.cons.inj htext
  rcases Symbol.fixed_cases (hp t htokens) with rfl | rfl | rfl | rfl | hlit
  · cases (hlex : '.' :: w = [])
  · obtain ⟨body, -, hb⟩ | ⟨body, -, hb⟩ : Lexeme.Comment ('.' :: w) := hlex <;> cases hb
  · obtain ⟨_, _, hn, hfirst, -⟩ : Lexeme.Name ('.' :: w) := hlex
    obtain ⟨rfl, -⟩ := List.cons.inj hn
    cases hfirst
  · exact ht rfl
  · have hliteral := Symbol.text_of_lexeme hlit hlex
    obtain ⟨-, _, _, hw, -, -, -, -, -, hpoints, -⟩ := Symbol.plain_text hlit
    obtain ⟨rfl, rfl⟩ := List.cons.inj (hliteral.symm.trans hw)
    rcases hpoints rfl with rfl | rfl
    · exact hpoint t htokens hlit hliteral
    · exact hc (List.cons.inj hbehind).1.symm

end Mode

namespace Symbol

variable {t rest : List Char}

/-- A comment in a block. -/
def block (t : List Char) : List Char := '/' :: '*' :: (t ++ ['*', '/'])

theorem blockRest_append (ht : ¬ ['*', '/'] <:+: t) (hnull : '\x00' ∉ t) (rest : List Char) :
    blockRest (t ++ '*' :: '/' :: rest) = some (t.length + 2) := by
  induction t with
  | nil => rfl
  | cons c t ih =>
    rw [List.mem_cons, not_or] at hnull
    have hopen : ¬ (c = '*' ∧ (t ++ '*' :: '/' :: rest).head? = some '/') := by
      rintro ⟨rfl, hhead⟩
      cases t with
      | nil => cases hhead
      | cons d t =>
        cases hhead
        exact ht ⟨[], t, rfl⟩
    rw [List.cons_append, blockRest_cons, if_neg hopen, if_neg fun h => hnull.1 h.symm,
      ih (fun h => ht (h.trans (List.suffix_cons c t).isInfix)) hnull.2]
    rfl

theorem comment?_block (ht : ¬ ['*', '/'] <:+: t) (hnull : '\x00' ∉ t) (rest : List Char) :
    comment.munch? (block t ++ rest) = some (block t).length := by
  have hrest := blockRest_append ht hnull rest
  have htext : block t ++ rest = '/' :: '*' :: (t ++ '*' :: '/' :: rest) := by
    simp [block]
  change comment? (block t ++ rest) = _
  rw [htext, comment?, hrest]
  simp [block]

end Symbol

/-- A comment in a block is read where comments may stand. -/
theorem Mode.token?_block {m : Mode} {t : List Char} (hp : m.Plain) (hm : Symbol.comment ∈ m.tokens)
    (ht : ¬ ['*', '/'] <:+: t) (hnull : '\x00' ∉ t) (blanks : Nat) (rest : List Char) :
    m.token? blanks (Symbol.block t ++ rest) = some (Symbol.comment, (Symbol.block t).length) := by
  have hlength : 1 < (Symbol.block t).length := by simp [Symbol.block]
  have hvalue : m.values.read (Symbol.block t ++ rest) = none :=
    ValueSet.read_eq_none (by decide) (by decide)
  rw [token?, hvalue, Option.orElse_none]
  refine munch_eq (mem_candidates hm (by decide) blanks) (Symbol.comment?_block ht hnull rest)
    fun u hu k hk => ?_
  have hu := hp u (mem_tokens_of_candidates hu)
  rcases Symbol.fixed_cases hu with rfl | rfl | rfl | rfl | hlit
  · cases hk
  · rw [Symbol.comment?_block ht hnull] at hk
    exact Or.inl (congrArg _ (Option.some.inj hk).symm)
  · cases hk
  · rw [Symbol.munch?_suffix, Option.map_eq_some_iff] at hk
    obtain ⟨v, hv, -⟩ := hk
    have hprefix := List.isPrefixOf_iff_prefix.mp
      (List.find?_some (p := fun v : List Char => v.isPrefixOf (Symbol.block t ++ rest)) hv)
    obtain ⟨v, rfl⟩ := List.head?_eq_some_iff.mp (letters_checked _ (List.mem_of_find?_eq_some hv)).1
    exact absurd (List.cons_prefix_cons.mp hprefix).1 (by decide)
  · rw [Symbol.munch?_literal hlit] at hk
    split at hk
    · rename_i hprefix
      obtain ⟨-, c, cs, htext, -, -, -, -, -, -, hslash⟩ := Symbol.plain_text hlit
      rw [htext] at hk hprefix
      have hfirst := (List.cons_prefix_cons.mp (List.isPrefixOf_iff_prefix.mp hprefix)).1
      rw [hslash hfirst] at hk
      rw [← Option.some.inj hk]
      exact Or.inr (Or.inl hlength)
    · cases hk

namespace Automaton

variable {s u : State} {x : Symbol}

theorem calm_checked : ((List.range stateBound).all fun s => Nat.beq s lost ||
    (rowAt s).all fun r => (nth Mode.table.toList r.mode).any fun m => !m.values.recovering) = true := by
  decide +kernel

/-- No state that the parser goes on to is for recovery. -/
theorem calm_of_successor (h : successor? s x = some u) : (mode u).values.recovering = false := by
  obtain ⟨-, row, hrow, -⟩ := successor_some h
  have hlost : u ≠ lost := fun hu => absurd (start_lt_successor h) (by rw [hu]; decide)
  have hcheck := of_all_states calm_checked hrow
  have hat := hrow
  rw [row_eq] at hat
  rw [hat, Option.all_some, Bool.or_eq_true, Nat.beq_eq] at hcheck
  obtain ⟨m, hm, hcalm⟩ := (Option.any_eq_true _ _).mp (hcheck.resolve_left hlost)
  rw [nth_eq, Array.getElem?_toList] at hm
  rw [mode, modeIndex, hrow, Option.elim_some, hm, Option.getD_some]
  simpa using hcalm

theorem comment_mem_tokens (s : State) : Symbol.comment ∈ (mode s).tokens := by
  rcases Mode.has_iff.mp (has_everywhere s).1 with h | ⟨h, -⟩ | ⟨h, -⟩ | ⟨h, -⟩
  · exact h
  · cases h
  · cases h
  · cases h

end Automaton

end MathProg
