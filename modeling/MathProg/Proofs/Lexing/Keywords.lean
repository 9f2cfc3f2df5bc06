import MathProg.Proofs.Lexing.Words

/-!
# Words that are read whole

The longest token wins, so a mode that has names reads a word to its end, be it a keyword or not. A
keyword that some mode has without names can be cut out of a longer word there.
-/

namespace MathProg

namespace Symbol

/-- The keywords that can be cut out of a longer word. -/
def looseKeywords : List String :=
  ["set", "param", "dimen", "integer", "binary", "logical", "symbolic", "within", "default", "in", "to",
    "check", "display", "printf", "IN", "OUT", "less", "div", "mod", "union", "diff", "symdiff",
    "inter", "cross", "or", "and", "not"]

/-- Keywords that some mode has without names, but that have a mark behind them in every sentence. -/
def markedKeywords : List Symbol := [4, 39]

/-- Keywords that some mode has without names, but not for the sake of a state behind a token. -/
def innerKeywords : List Symbol := [75, 78, 79]

example : (markedKeywords ++ innerKeywords).map name = ["end", "for", "by", "then", "else"] := by
  decide +kernel

end Symbol

/-- A stretch that is as long as it can be is followed by another kind of character. -/
theorem not_behind {p : Char → Bool} {cs : List Char} {n : Nat}
    (hle : (cs.takeWhile p).length ≤ n) (hall : ∀ c ∈ cs.take n, p c = true) :
    ∀ c ∈ cs[n]?, p c = false := by
  intro c hc
  by_contra hp
  rw [Bool.not_eq_false] at hp
  have hlt := (List.getElem?_eq_some_iff.mp hc).1
  have hmore : ∀ d ∈ cs.take (n + 1), p d = true := by
    rw [List.take_add_one, hc]
    exact List.forall_mem_append.mpr ⟨hall, List.forall_mem_singleton.mpr hp⟩
  have hlong : n + 1 ≤ (cs.takeWhile p).length := by
    conv_rhs => rw [← List.take_append_drop (n + 1) cs]
    rw [List.takeWhile_append_of_pos hmore, List.length_append, List.length_take]
    omega
  omega

namespace Value

/-- A word of the data section is whole. -/
theorem not_behind_word {cs : List Char} {t : Symbol} {n : Nat} (h : word? cs = some (t, n)) :
    ∀ c ∈ cs[n]?, isNameChar c = false := by
  intro c hc
  have hn := (Lexeme.word_some h).1
  have hword := not_behind (p := isWordChar) (Nat.le_of_eq hn.symm) (by
    rw [hn, Lexeme.take_length_takeWhile]
    exact fun d hd => List.mem_takeWhile_imp hd) c hc
  simp only [isWordChar, Bool.or_eq_false_iff] at hword
  exact hword.1.1.1

end Value

namespace Symbol

variable {cs : List Char} {t : Symbol} {n : Nat}

/-- A literal has one text. -/
theorem lexeme_iff_text {w : List Char} (ht : t.IsLiteral) : Lexeme t w ↔ t.text = w := by
  obtain ⟨hlt, h0, h1, h2, h3⟩ := ht
  unfold Lexeme
  rw [if_neg h0, if_neg h1, if_neg h2, if_neg h3, if_neg (Nat.ne_of_lt hlt),
    if_neg (Nat.ne_of_lt (Nat.lt_trans hlt (by decide))),
    if_neg (Nat.ne_of_lt (Nat.lt_trans hlt (by decide)))]
  exact eq_comm

theorem text_of_lexeme {w : List Char} (ht : t.IsLiteral) (h : Lexeme t w) : t.text = w :=
  (lexeme_iff_text ht).mp h

/-- A token of fixed form that consists of letters and digits is a name or a literal, and begins with
a letter. -/
theorem munch?_alphanumeric (ht : t < string) (h : t.munch? cs = some n) (hne : cs.take n ≠ [])
    (hall : ∀ c ∈ cs.take n, c.isAlphanum = true) :
    (t = symbolicName ∨ t.IsLiteral ∧ t.text = cs.take n) ∧
      ∃ c rest, cs = c :: rest ∧ isNameStart c = true := by
  have hlex := (Lexeme.munch_some ht h).1
  have hhead : ∀ c w, cs.take n = c :: w → c.isDigit = false → ∃ c rest, cs = c :: rest ∧
      isNameStart c = true := by
    intro c w hw hc
    have halpha := hall c (hw ▸ List.mem_cons_self)
    obtain ⟨rest, hrest⟩ := List.take_prefix n cs
    rw [hw] at hrest
    refine ⟨c, w ++ rest, hrest.symm, ?_⟩
    simp only [Char.isAlphanum, hc, Bool.or_false] at halpha
    simp [isNameStart, halpha]
  by_cases hname : t = symbolicName
  · subst hname
    obtain ⟨c, w, hw, hc, -⟩ : Lexeme.Name (cs.take n) := hlex
    exact ⟨Or.inl rfl, hhead c w hw (isDigit_of_isNameStart hc)⟩
  · have hlit : t.IsLiteral := by
      refine ⟨ht, ?_, ?_, hname, ?_⟩
      · rintro rfl
        exact hne hlex
      · rintro rfl
        obtain ⟨body, -, hw⟩ | ⟨body, -, hw⟩ : Lexeme.Comment (cs.take n) := hlex
        · exact absurd (hall '#' (hw ▸ List.mem_cons_self)) (by decide)
        · exact absurd (hall '/' (hw ▸ List.mem_cons_self)) (by decide)
      · rintro rfl
        have hpoint : ∀ w ∈ suffixes, '.' ∈ w := by decide
        exact absurd (hall '.' (hpoint _ hlex)) (by decide)
    have htext := text_of_lexeme hlit hlex
    obtain ⟨c, w, hw, -, -, -, hdigit, -⟩ := (plain_text hlit).first
    exact ⟨Or.inr ⟨hlit, htext⟩, hhead c w (htext.symm.trans hw) hdigit⟩

end Symbol

namespace Mode

variable {m : Mode} {blanks n : Nat} {cs : List Char} {t : Symbol}

theorem foldl_longer_le {best : Symbol × Nat} {found : List (Symbol × Nat)}
    {start : Option (Symbol × Nat)}
    (h : found.foldl (fun best f => some (best.elim f (longer · f))) start = some best) :
    (∀ f ∈ found, f.2 ≤ best.2) ∧ ∀ b ∈ start, b.2 ≤ best.2 := by
  induction found generalizing start with
  | nil => exact ⟨fun f hf => absurd hf List.not_mem_nil, fun b hb => by cases hb.symm.trans h; rfl⟩
  | cons f found ih =>
    obtain ⟨hall, hstart⟩ := ih h
    have hboth := hstart _ rfl
    cases start with
    | none => exact ⟨List.forall_mem_cons.mpr ⟨hboth, hall⟩, fun b hb => by cases hb⟩
    | some b =>
      have hlonger : f.2 ≤ (longer b f).2 ∧ b.2 ≤ (longer b f).2 := by
        unfold longer
        split
        · rename_i hf
          simp only [Bool.or_eq_true, decide_eq_true_eq, Bool.and_eq_true] at hf
          omega
        · rename_i hf
          simp only [Bool.or_eq_true, decide_eq_true_eq, Bool.and_eq_true, not_or] at hf
          omega
      refine ⟨List.forall_mem_cons.mpr ⟨Nat.le_trans hlonger.1 hboth, hall⟩, ?_⟩
      rintro _ ⟨⟩
      exact Nat.le_trans hlonger.2 hboth

/-- No token of the mode is longer than the one that is read. -/
theorem le_of_munch (h : m.munch blanks cs = some (t, n)) {u : Symbol} {k : Nat}
    (hu : u ∈ m.candidates blanks) (hk : u.munch? cs = some k) : k ≤ n :=
  (foldl_longer_le h).1 (u, k) (List.mem_filterMap.mpr ⟨u, hu, by rw [hk]; rfl⟩)

/-- A token of letters and digits is a number, or a literal of a mode that has no names, or whole. -/
theorem whole_of_token (hm : m.Plain) (h : m.token? blanks cs = some (t, n)) (hne : cs.take n ≠ [])
    (hall : ∀ c ∈ cs.take n, c.isAlphanum = true) :
    t = Symbol.number ∨
      (Symbol.symbolicName ∉ m.tokens ∧ t ∈ m.tokens ∧ t.IsLiteral ∧ t.text = cs.take n) ∨
      ∀ c ∈ cs[n]?, isNameChar c = false := by
  have hname : ∀ c ∈ cs.take n, isNameChar c = true := fun c hc => by simp [isNameChar, hall c hc]
  rw [token?] at h
  cases hv : m.values.read cs with
  | some v =>
    rw [hv] at h
    cases h
    simp only [ValueSet.read] at hv
    split at hv
    · -- a quote is neither a letter nor a digit
      rename_i hquote
      simp only [Bool.and_eq_true, Bool.or_eq_true, beq_iff_eq] at hquote
      have hmem : ∀ q, cs.head? = some q → q ∈ cs.take n := by
        intro q hq
        obtain ⟨rest, rfl⟩ := List.head?_eq_some_iff.mp hq
        cases n with
        | zero => exact absurd List.take_zero hne
        | succ n => exact List.mem_cons_self
      rcases hquote.1 with hq | hq
      · exact absurd (hall _ (hmem _ hq)) (by decide)
      · exact absurd (hall _ (hmem _ hq)) (by decide)
    · split at hv
      · exact Or.inr (Or.inr (Value.not_behind_word hv))
      · split at hv
        · obtain ⟨k, -, hk⟩ := Option.map_eq_some_iff.mp hv
          exact Or.inl (congrArg Prod.fst hk).symm
        · cases hv
  | none =>
    rw [hv] at h
    obtain ⟨hc, hmunch⟩ := munch_mem h
    have hmem := mem_tokens_of_candidates hc
    obtain ⟨hkind, c, rest, rfl, hfirst⟩ := Symbol.munch?_alphanumeric (hm t hmem) hmunch hne hall
    refine Or.inr ?_
    by_cases hnames : Symbol.symbolicName ∈ m.tokens
    · -- the name that begins here is not longer
      have hlong : Symbol.symbolicName.munch? (c :: rest) =
          some (1 + (rest.takeWhile isNameChar).length) := if_pos hfirst
      have hle := le_of_munch h (mem_candidates hnames (by decide) blanks) hlong
      refine Or.inr (not_behind ?_ hname)
      rw [List.takeWhile_cons_of_pos (isNameChar_of_isNameStart hfirst), List.length_cons]
      omega
    · refine Or.inl ⟨hnames, hmem, hkind.resolve_left ?_⟩
      rintro rfl
      exact hnames hmem

/-- The keywords of modes without names. -/
theorem keywords_checked : ∀ m ∈ table.toList, Symbol.symbolicName ∉ m.tokens → ∀ t ∈ m.tokens,
    t.text.all Char.isAlphanum = true → t.IsLiteral →
      (Symbol.markedKeywords.contains t || Symbol.innerKeywords.contains t ||
        Symbol.looseKeywords.contains t.name) = true := by
  decide +kernel

end Mode

end MathProg
