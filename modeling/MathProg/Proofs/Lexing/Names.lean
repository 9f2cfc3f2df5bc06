import MathProg.Proofs.Automaton.Modes
import MathProg.Proofs.Lexing.Context

/-!
# Names and the words of the grammar

Where a name may stand, a word is read from its first letter to the last character that a name can have.
It is a word of the grammar if the mode has one that is spelled so, and else a name. Only the `s.t.` of a
constraint has points in it.
-/

namespace MathProg

namespace Symbol

variable {u : Symbol} {c : Char} {cs : List Char} {k : Nat}

/-- The one literal that begins with a letter and is no word. -/
def subjectTo : List Char := "s.t.".toList

theorem words_of_letters : ∀ t < string, t.IsLiteral → t.text.head?.any isNameStart = true →
    t.text ≠ subjectTo → t.text.all isNameChar = true := by
  decide +kernel

/-- At a letter, what is read is the whole word as a name, or a literal that is a beginning of it. -/
theorem munch?_letter (hu : u < string) (hc : isNameStart c = true) (hno : ¬ subjectTo <+: c :: cs)
    (h : u.munch? (c :: cs) = some k) :
    u = symbolicName ∧ k = ((c :: cs).takeWhile isNameChar).length ∨
      u.IsLiteral ∧ u.text.length = k ∧ u.text <+: (c :: cs).takeWhile isNameChar := by
  obtain ⟨hlex, hle⟩ := Lexeme.munch_some hu h
  rcases fixed_cases hu with rfl | rfl | rfl | rfl | hlit
  · cases h
  · -- neither mark of a comment is a letter
    have hnone : comment? (c :: cs) = none := by
      unfold comment?
      split
      · rename_i heq
        rw [(List.cons.inj heq).1] at hc
        cases hc
      · rename_i heq
        rw [(List.cons.inj heq).1] at hc
        cases hc
      · rfl
    cases h.symm.trans hnone
  · refine Or.inl ⟨rfl, ?_⟩
    have hname : name? (c :: cs) = some (1 + (cs.takeWhile isNameChar).length) := if_pos hc
    rw [List.takeWhile_cons_of_pos (isNameChar_of_isNameStart hc), List.length_cons, Nat.add_comm]
    exact Option.some.inj (h.symm.trans hname)
  · have hhead := (suffixes_checked _ hlex).1
    cases k with
    | zero => cases hhead
    | succ k =>
      rw [List.take_succ_cons, List.head?_cons, Option.some.injEq] at hhead
      rw [hhead] at hc
      cases hc
  · rw [munch?_literal hlit] at h
    split at h
    · rename_i hprefix
      have hp := List.isPrefixOf_iff_prefix.mp hprefix
      refine Or.inr ⟨hlit, Option.some.inj h, ?_⟩
      obtain ⟨d, ds, hd, -⟩ := (plain_text hlit).first
      have hletter : u.text.head?.any isNameStart = true := by
        rw [hd, List.cons_prefix_cons] at hp
        rw [hd, hp.1]
        exact hc
      have hword := words_of_letters u hu hlit hletter (fun he => hno (he ▸ hp))
      obtain ⟨tail, htail⟩ := hp
      rw [← htail, List.takeWhile_append_of_pos (List.all_eq_true.mp hword)]
      exact List.prefix_append _ _
    · cases h

end Symbol

namespace Mode

variable {m : Mode} {blanks : Nat} {c : Char} {cs : List Char}

/-- A word that a mode with names reads: as a literal that is spelled so, if the mode has one. -/
theorem munch_word (hm : m.Plain) (hname : Symbol.symbolicName ∈ m.tokens) (hc : isNameStart c = true)
    (hno : ¬ Symbol.subjectTo <+: c :: cs) (blanks : Nat) :
    ∃ t, m.munch blanks (c :: cs) = some (t, ((c :: cs).takeWhile isNameChar).length) ∧
      (t ∈ m.tokens ∧ t.IsLiteral ∧ t.text = (c :: cs).takeWhile isNameChar ∨
        t = Symbol.symbolicName ∧
          ∀ u ∈ m.tokens, u.IsLiteral → u.text ≠ (c :: cs).takeWhile isNameChar) := by
  have hfound : ∀ u ∈ m.candidates blanks, ∀ k, u.munch? (c :: cs) = some k →
      u = Symbol.symbolicName ∧ k = ((c :: cs).takeWhile isNameChar).length ∨
        u.IsLiteral ∧ u.text.length = k ∧ u.text <+: (c :: cs).takeWhile isNameChar :=
    fun u hu k hk => Symbol.munch?_letter (hm u (mem_tokens_of_candidates hu)) hc hno hk
  by_cases hlit : ∃ t ∈ m.tokens, t.IsLiteral ∧ t.text = (c :: cs).takeWhile isNameChar
  · obtain ⟨t, ht, hlit, htext⟩ := hlit
    refine ⟨t, munch_eq (mem_candidates ht hlit.2.2.2.2 blanks) ?_ fun u hu k hk => ?_,
      Or.inl ⟨ht, hlit, htext⟩⟩
    · rw [Symbol.munch?_literal hlit, htext, if_pos]
      exact List.isPrefixOf_iff_prefix.mpr (List.takeWhile_prefix _)
    · rcases hfound u hu k hk with ⟨rfl, rfl⟩ | ⟨hul, rfl, hp⟩
      · exact Or.inr (Or.inr ⟨rfl, rfl, hlit.2.2.2.1⟩)
      · rcases Nat.lt_or_eq_of_le hp.length_le with hlt | heq
        · exact Or.inr (Or.inl hlt)
        · left
          rw [Symbol.eq_of_text hul hlit ((hp.eq_of_length heq).trans htext.symm), htext]
  · have hfree : ∀ u ∈ m.tokens, u.IsLiteral → u.text ≠ (c :: cs).takeWhile isNameChar :=
      fun u hu hul htext => hlit ⟨u, hu, hul, htext⟩
    have hlong : Symbol.symbolicName.munch? (c :: cs) =
        some ((c :: cs).takeWhile isNameChar).length := by
      rw [List.takeWhile_cons_of_pos (isNameChar_of_isNameStart hc), List.length_cons, Nat.add_comm]
      exact if_pos hc
    refine ⟨_, munch_eq (mem_candidates hname (by decide) blanks) hlong fun u hu k hk => ?_,
      Or.inr ⟨rfl, hfree⟩⟩
    rcases hfound u hu k hk with ⟨rfl, rfl⟩ | ⟨hul, rfl, hp⟩
    · exact Or.inl rfl
    · rcases Nat.lt_or_eq_of_le hp.length_le with hlt | heq
      · exact Or.inr (Or.inl hlt)
      · exact absurd (hp.eq_of_length heq) (hfree u (mem_tokens_of_candidates hu) hul)

end Mode

namespace Automaton

theorem name_of_lost : Symbol.symbolicName ∈ (mode lost).tokens := by decide +kernel

/-- Where a name is understood, the mode has names. -/
theorem name_mem_tokens {s : State} (h : action? s Symbol.symbolicName ≠ none) :
    Symbol.symbolicName ∈ (mode s).tokens := by
  obtain ⟨a, ha⟩ := Option.ne_none_iff_exists'.mp h
  by_cases hs : s = lost
  · rw [hs]
    exact name_of_lost
  · rcases Mode.has_iff.mp (has_of_action ha hs) with hmem | ⟨hstring, -⟩ | ⟨hnumber, -⟩ | ⟨hword, -⟩
    · exact hmem
    · cases hstring
    · cases hnumber
    · cases hword

/-- Where a name is understood, a word is read whole: as the word of the grammar that is spelled so, if the
mode has one, and else as a name. -/
theorem scan_whole_word (s : State) (hs : action? s Symbol.symbolicName ≠ none) (text : List Char)
    (hletter : (text.dropWhile isBlank).head?.any isNameStart = true)
    (hno : ¬ "s.t.".toList <+: text.dropWhile isBlank) :
    ∃ t, (mode s).scan text =
        some ⟨t, blankLength text, ((text.dropWhile isBlank).takeWhile isNameChar).length⟩ ∧
      (t ∈ (mode s).tokens ∧ t.IsLiteral ∧ t.text = (text.dropWhile isBlank).takeWhile isNameChar ∨
        t = Symbol.symbolicName ∧ ∀ u ∈ (mode s).tokens, u.IsLiteral →
          u.text ≠ (text.dropWhile isBlank).takeWhile isNameChar) := by
  obtain ⟨c, hhead, hc⟩ := (Option.any_eq_true _ _).mp hletter
  obtain ⟨cs, hbody⟩ := List.head?_eq_some_iff.mp hhead
  rw [hbody] at hno ⊢
  obtain ⟨t, hmunch, hkind⟩ :=
    Mode.munch_word (Mode.plain_mode s) (name_mem_tokens hs) hc hno (blankLength text)
  refine ⟨t, ?_, hkind⟩
  unfold Mode.scan
  dsimp only
  rw [show text.drop (blankLength text) = c :: cs from
    (Lexeme.drop_length_takeWhile isBlank text).trans hbody, hmunch]
  rfl

/-- Behind the word `display` a name may begin with that of a function. -/
theorem scan_whole_word_display :
    (action? 21 Symbol.symbolicName ≠ none ∧
      ((" log10x * 2".toList.dropWhile isBlank).head?.any isNameStart = true) ∧
      ¬ "s.t.".toList <+: " log10x * 2".toList.dropWhile isBlank) ∧
    ∃ t, (mode 21).scan " log10x * 2".toList = some ⟨t, 1, 6⟩ ∧
      (t ∈ (mode 21).tokens ∧ t.IsLiteral ∧ t.text = "log10x".toList ∨
        t = Symbol.symbolicName ∧ ∀ u ∈ (mode 21).tokens, u.IsLiteral → u.text ≠ "log10x".toList) :=
  ⟨⟨by decide +kernel, by decide, by decide⟩,
    scan_whole_word 21 (by decide +kernel) " log10x * 2".toList (by decide) (by decide)⟩

-- Words that go on behind a word of the grammar, or end before it does, are names.
example : ∀ w ∈ ["log10x", "Normal012", "setof1", "by_", "log1", "Norma", "seto", "b"].map String.toList,
    ∀ u < Symbol.string, u.IsLiteral → u.text ≠ w := by
  decide +kernel

end Automaton

end MathProg
