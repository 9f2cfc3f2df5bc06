import MathProg.Proofs.Lexing.Follows

/-!
# What a reading depends on

A token is read in the same way in another context, if what follows it begins in the same way and then
ends or goes on with a blank or a comment. Only a comment that reaches to the end of its line, a slash, and
the words that may begin a data statement look at more than that.
-/

namespace MathProg

namespace Symbol

variable {t u : Symbol} {w rest rest' : List Char}

/-- A token of fixed form is the end of the text, a comment, a name, a suffix or a literal. -/
theorem fixed_cases (ht : t < string) :
    t = endOfText ∨ t = comment ∨ t = symbolicName ∨ t = suffix ∨ t.IsLiteral := by
  by_cases h0 : t = endOfText
  · exact Or.inl h0
  by_cases h1 : t = comment
  · exact Or.inr (Or.inl h1)
  by_cases h2 : t = symbolicName
  · exact Or.inr (Or.inr (Or.inl h2))
  by_cases h3 : t = suffix
  · exact Or.inr (Or.inr (Or.inr (Or.inl h3)))
  · exact Or.inr (Or.inr (Or.inr (Or.inr ⟨ht, h0, h1, h2, h3⟩)))

theorem suffixes_checked : ∀ v ∈ suffixes,
    v.head? = some '.' ∧ 3 ≤ v.length ∧ v.all (fun c => !isBlank c && c != '/') = true ∧
      ∀ u ∈ suffixes, u.isPrefixOf v = true → u = v := by
  decide

/-- Only the sign of a division has a slash in it. -/
theorem slashes_checked : ∀ t < string, t.IsLiteral → '/' ∉ t.text.tail := by
  decide +kernel

/-- A token of fixed form does not begin like a string or a number. -/
theorem first_of_lexeme (ht : t < string) (h : Lexeme t w) :
    ∀ c ∈ w.head?, c ≠ byteOrderMark ∧ c ≠ '\'' ∧ c ≠ '"' ∧ c.isDigit = false := by
  rcases fixed_cases ht with rfl | rfl | rfl | rfl | hlit
  · obtain rfl : w = [] := h
    exact fun c hc => absurd hc (Option.not_mem_none _)
  · obtain ⟨body, -, rfl⟩ | ⟨body, -, rfl⟩ : Lexeme.Comment w := h
    · rintro c ⟨⟩
      decide
    · rintro c ⟨⟩
      decide
  · obtain ⟨-, c, cs, rfl, h1, h2, h3, h4, -⟩ := plain_name h
    rintro d ⟨⟩
    exact ⟨h1, h2, h3, h4⟩
  · have hhead := (suffixes_checked w h).1
    intro c hc
    rw [Option.mem_def, hhead] at hc
    cases hc
    decide
  · obtain ⟨-, c, cs, hw, h1, h2, h3, h4, -⟩ := plain_text hlit
    rw [text_of_lexeme hlit h] at hw
    rw [hw]
    rintro d ⟨⟩
    exact ⟨h1, h2, h3, h4⟩

/-- A token of fixed form that begins one of the words that are no values is not shorter than it. -/
theorem shorter_checked : ∀ t < string, t.IsLiteral →
    ∀ v ∈ Value.reserved ++ ["set", "param", "end"].map String.toList,
      t.text.isPrefixOf v = true → v.length ≤ t.text.length := by
  decide +kernel

/-- Two tokens of fixed form that have a text in common are the same, if none of them is a name. -/
theorem eq_of_lexeme (ht : t < string) (hu : u < string) (hw : w ≠ []) (h : Lexeme t w)
    (h' : Lexeme u w) (hname : t ≠ symbolicName) (hname' : u ≠ symbolicName) : t = u := by
  have hcomment : ∀ {v : Symbol}, Lexeme.Comment w → ¬ v.IsLiteral ∨ v.text ≠ w := by
    intro v hc
    by_contra hv
    rw [not_or, not_not, not_not] at hv
    obtain ⟨hlit, rfl⟩ := hv
    obtain ⟨-, c, cs, hw, -, -, -, -, hhash, -, hslash⟩ := plain_text hlit
    obtain ⟨body, -, hbody⟩ | ⟨body, -, hbody⟩ := hc
    · rw [hbody] at hw
      exact hhash (List.cons.inj hw).1.symm
    · rw [hbody] at hw
      obtain ⟨rfl, hcs⟩ := List.cons.inj hw
      rw [hslash rfl] at hcs
      cases hcs
  have hpoint : ∀ {v : List Char}, v ∈ suffixes → ¬ Lexeme.Comment v := by
    intro v hv hc
    have hhead := (suffixes_checked v hv).1
    obtain ⟨body, -, rfl⟩ | ⟨body, -, rfl⟩ := hc
    · cases hhead
    · cases hhead
  have hnoEnd : ∀ {v : Symbol}, Lexeme v w → v ≠ endOfText := by
    rintro v hv rfl
    exact hw hv
  rcases fixed_cases ht with rfl | rfl | rfl | rfl | hlit
  · exact absurd rfl (hnoEnd h)
  · rcases fixed_cases hu with rfl | rfl | rfl | rfl | hlit'
    · exact absurd rfl (hnoEnd h')
    · rfl
    · exact absurd rfl hname'
    · exact absurd h (hpoint h')
    · exact absurd (text_of_lexeme hlit' h') ((hcomment h).resolve_left (not_not_intro hlit'))
  · exact absurd rfl hname
  · rcases fixed_cases hu with rfl | rfl | rfl | rfl | hlit'
    · exact absurd rfl (hnoEnd h')
    · exact absurd h' (hpoint h)
    · exact absurd rfl hname'
    · rfl
    · exact absurd (text_of_lexeme hlit' h' ▸ h) (literals_checked u hu hlit').2
  · rcases fixed_cases hu with rfl | rfl | rfl | rfl | hlit'
    · exact absurd rfl (hnoEnd h')
    · exact absurd (text_of_lexeme hlit h) ((hcomment h').resolve_left (not_not_intro hlit))
    · exact absurd rfl hname'
    · exact absurd (text_of_lexeme hlit h ▸ h') (literals_checked t ht hlit).2
    · exact eq_of_text hlit hlit' ((text_of_lexeme hlit h).trans (text_of_lexeme hlit' h').symm)

theorem blockRest_cons (c : Char) (cs : List Char) : blockRest (c :: cs) =
    if c = '*' ∧ cs.head? = some '/' then some 2
    else if c = '\x00' then none else (blockRest cs).map (· + 1) := by
  rw [blockRest.eq_def]
  split
  · rename_i he
    cases he
    rw [if_pos ⟨rfl, rfl⟩]
  · rename_i he
    cases he
    rw [if_neg (by simp), if_pos rfl]
  · rename_i hclose hnull he
    obtain ⟨rfl, rfl⟩ := List.cons.inj he
    have hopen : ¬ (c = '*' ∧ cs.head? = some '/') := by
      rintro ⟨rfl, hhead⟩
      obtain ⟨tail, rfl⟩ := List.head?_eq_some_iff.mp hhead
      exact hclose tail rfl rfl
    rw [if_neg hopen, if_neg hnull]
  · rename_i he
    cases he

theorem blockRest_pos {cs : List Char} {n : Nat} (h : blockRest cs = some n) : 2 ≤ n := by
  obtain ⟨⟨body, -, hb⟩, hle⟩ := Lexeme.blockRest_some h
  have hlen := congrArg List.length hb
  rw [List.length_take_of_le hle, List.length_append, List.length_cons, List.length_singleton] at hlen
  omega

theorem blockRest_follows : ∀ w : List Char, blockRest (w ++ rest) = some w.length →
    blockRest (w ++ rest') = some w.length
  | [], h => absurd (blockRest_pos h) (by decide)
  | [c], h => absurd (blockRest_pos h) (by simp)
  | c :: d :: w, h => by
    rw [List.cons_append, blockRest_cons] at h ⊢
    rw [List.cons_append, List.head?_cons] at h ⊢
    split at h
    · rename_i hclose
      rw [if_pos hclose]
      exact h
    · rename_i hclose
      rw [if_neg hclose]
      split at h
      · cases h
      · rename_i hnull
        obtain ⟨n, hn, he⟩ := Option.map_eq_some_iff.mp h
        obtain rfl : n = (d :: w).length := Nat.succ.inj he
        have ih := blockRest_follows (d :: w) hn
        rw [List.cons_append] at ih
        rw [if_neg hnull, ih]
        rfl

/-- What more than the beginning of the text behind it a token depends on: a comment may not become
longer, and a slash not have been the beginning of a comment. -/
structure Closed (w rest rest' : List Char) : Prop where
  line : w.head? = some '#' → ∀ c ∈ rest'.head?, c = '\n' ∨ c = '\x00'
  slash : w = ['/'] → rest.head? ≠ some '*'

theorem comment?_line (hc : Closed ('#' :: w) rest rest')
    (hle : ∀ k, comment? ('#' :: w ++ rest) = some k → k ≤ w.length + 1) :
    comment? ('#' :: w ++ rest') = comment? ('#' :: w ++ rest) := by
  have hlen := hle _ rfl
  have hstops : Value.Stops (fun c => c != '\n' && c != '\x00') rest' := fun c hx => by
    rcases hc.line rfl c hx with rfl | rfl <;> rfl
  rw [List.cons_append, List.cons_append, comment?, comment?,
    Value.takeWhile_follows (fun _ : Value.Stops _ rest => hstops)
      (by rw [List.append_eq] at hlen; omega)]

theorem comment?_follows (hc : Closed w rest rest') (hne : w ≠ [])
    (hw : comment? (w ++ rest) = some w.length) : comment? (w ++ rest') = some w.length := by
  obtain ⟨c, w, rfl⟩ := List.exists_cons_of_ne_nil hne
  by_cases hhash : c = '#'
  · subst hhash
    rw [comment?_line hc fun k hk => ?_]
    · exact hw
    · rw [hw] at hk
      cases hk
      exact Nat.le_refl _
  · cases w with
    | nil =>
      -- a comment is longer
      obtain ⟨body, -, hb⟩ | ⟨body, -, hb⟩ := (Lexeme.comment_some hw).1
      · exact absurd (List.cons.inj hb).1 hhash
      · cases hb
    | cons d w =>
      rw [List.cons_append, List.cons_append] at hw ⊢
      unfold comment? at hw ⊢
      split at hw
      · rename_i he
        exact absurd (List.cons.inj he).1 hhash
      · rename_i he
        obtain ⟨rfl, hcs⟩ := List.cons.inj he
        obtain ⟨rfl, rfl⟩ := List.cons.inj hcs
        obtain ⟨n, hn, hlen⟩ := Option.map_eq_some_iff.mp hw
        obtain rfl : n = w.length := Nat.succ.inj (Nat.succ.inj hlen)
        change (blockRest (w ++ rest')).map (· + 2) = _
        rw [blockRest_follows w hn]
        rfl
      · cases hw

theorem name?_follows (h : Follows rest rest') (hne : w ≠ [])
    (hle : ∀ k, name? (w ++ rest) = some k → k ≤ w.length) :
    name? (w ++ rest') = name? (w ++ rest) := by
  obtain ⟨c, w, rfl⟩ := List.exists_cons_of_ne_nil hne
  rw [List.cons_append, name?] at hle ⊢
  rw [List.cons_append, name?]
  split
  · rename_i hc
    rw [if_pos hc] at hle
    have hlen := hle _ rfl
    rw [List.length_cons] at hlen
    rw [Value.takeWhile_follows (h.stops fun _ => isNameChar_of_cut) (by omega)]
  · rfl

theorem find_suffix {v cs : List Char} (hv : v ∈ suffixes) (hp : v <+: cs) :
    suffixes.find? (·.isPrefixOf cs) = some v := by
  cases hf : suffixes.find? (·.isPrefixOf cs) with
  | none =>
    have := List.find?_eq_none.mp hf v hv
    exact absurd (List.isPrefixOf_iff_prefix.mpr hp) this
  | some u =>
    have hu := List.isPrefixOf_iff_prefix.mp
      (List.find?_some (p := fun u : List Char => u.isPrefixOf cs) hf)
    have hmem := List.mem_of_find?_eq_some hf
    rcases List.prefix_or_prefix_of_prefix hu hp with huv | hvu
    · rw [(suffixes_checked v hv).2.2.2 u hmem (List.isPrefixOf_iff_prefix.mpr huv)]
    · rw [(suffixes_checked u hmem).2.2.2 v hv (List.isPrefixOf_iff_prefix.mpr hvu)]

theorem munch?_suffix (cs : List Char) :
    suffix.munch? cs = (suffixes.find? (·.isPrefixOf cs)).map (·.length) := rfl

/-- A token of fixed form is there in another context as well. -/
theorem munch?_follows (h : Follows rest rest') (hc : Closed w rest rest') (hne : w ≠ [])
    (ht : t < string) (hw : t.munch? (w ++ rest) = some w.length) :
    t.munch? (w ++ rest') = some w.length := by
  have hlex := (Lexeme.munch_some ht hw).1
  rw [List.take_left] at hlex
  rcases fixed_cases ht with rfl | rfl | rfl | rfl | hlit
  · exact absurd hlex hne
  · exact comment?_follows hc hne hw
  · refine (name?_follows h hne fun k hk => ?_).trans hw
    rw [show name? (w ++ rest) = some w.length from hw] at hk
    cases hk
    exact Nat.le_refl _
  · rw [munch?_suffix, find_suffix hlex (List.prefix_append _ _)]
    rfl
  · rw [munch?_literal hlit, text_of_lexeme hlit hlex,
      if_pos (List.isPrefixOf_iff_prefix.mpr (List.prefix_append _ _))]

/-- A token of fixed form that begins like a comment in a block is one. -/
theorem eq_comment_of_opening {cs : List Char} (ht : t < string) (h : Lexeme t ('/' :: '*' :: cs)) :
    t = comment := by
  rcases fixed_cases ht with rfl | rfl | rfl | rfl | hlit
  · cases h
  · rfl
  · obtain ⟨c, cs, hcs, hfirst, -⟩ : Lexeme.Name _ := h
    obtain ⟨rfl, -⟩ := List.cons.inj hcs
    cases hfirst
  · cases (suffixes_checked _ h).1
  · obtain ⟨-, c, cs, hcs, -, -, -, -, -, -, hslash⟩ := plain_text hlit
    rw [text_of_lexeme hlit h] at hcs
    obtain ⟨rfl, rfl⟩ := List.cons.inj hcs
    cases hslash rfl

/-- What is no comment in one context does not begin like one in another. -/
theorem comment?_back (h : Follows rest rest') (hc : Closed w rest rest') (hne : w ≠ [])
    (ht : t < string) (hw : t.munch? (w ++ rest) = some w.length)
    (hmax : ∀ k, comment? (w ++ rest) = some k → k ≤ w.length) {k : Nat}
    (hk : comment? (w ++ rest') = some k) : comment? (w ++ rest) = some k := by
  have hlex := (Lexeme.munch_some ht hw).1
  rw [List.take_left] at hlex
  obtain ⟨c, w, rfl⟩ := List.exists_cons_of_ne_nil hne
  by_cases hhash : c = '#'
  · subst hhash
    exact (comment?_line hc hmax).symm.trans hk
  · have hopen : c = '/' ∧ (w ++ rest').head? = some '*' := by
      rw [List.cons_append] at hk
      unfold comment? at hk
      split at hk
      · rename_i he
        exact absurd (List.cons.inj he).1 hhash
      · rename_i he
        exact ⟨(List.cons.inj he).1, by rw [(List.cons.inj he).2]; rfl⟩
      · cases hk
    obtain ⟨rfl, hstar⟩ := hopen
    cases w with
    | nil =>
      obtain ⟨common, hcut, -⟩ := h
      cases common with
      | nil => exact absurd (hcut '*' hstar) (by decide)
      | cons d common => exact absurd hstar (hc.slash rfl)
    | cons d w =>
      obtain rfl : d = '*' := Option.some.inj hstar
      obtain rfl := eq_comment_of_opening ht hlex
      have hlen := munch?_follows h hc hne ht hw
      exact (hw.trans hlen.symm).trans hk

theorem suffix_back (h : Follows rest rest') {k : Nat} (hk : suffix.munch? (w ++ rest') = some k) :
    suffix.munch? (w ++ rest) = some k := by
  rw [munch?_suffix] at hk ⊢
  obtain ⟨v, hv, rfl⟩ := Option.map_eq_some_iff.mp hk
  have hp := List.isPrefixOf_iff_prefix.mp
    (List.find?_some (p := fun v : List Char => v.isPrefixOf (w ++ rest')) hv)
  have hmem := List.mem_of_find?_eq_some hv
  have hblank : ∀ c ∈ v, isBlank c = false ∧ c ≠ '/' := by
    simpa using (suffixes_checked v hmem).2.2.1
  rw [find_suffix hmem (h.prefix_append hblank hp)]
  rfl

theorem literal_back (h : Follows rest rest') (hne : w ≠ []) (hu : u < string) (hlit : u.IsLiteral)
    {k : Nat} (hk : u.munch? (w ++ rest') = some k) : u.munch? (w ++ rest) = some k := by
  rw [munch?_literal hlit] at hk ⊢
  split at hk
  · rename_i hp
    have hp' := List.isPrefixOf_iff_prefix.mp hp
    have hplain := plain_text hlit
    obtain ⟨c, cs, hcs, -⟩ := hplain.first
    have hslash := slashes_checked u hu hlit
    obtain ⟨d, w, rfl⟩ := List.exists_cons_of_ne_nil hne
    have hback : u.text <+: d :: w ++ rest := by
      rw [hcs, List.cons_append, List.cons_prefix_cons] at hp' ⊢
      refine hp'.imp_right (h.prefix_append fun x hx => ⟨hplain.blankless x ?_, ?_⟩)
      · rw [hcs]
        exact List.mem_cons_of_mem c hx
      · rintro rfl
        rw [hcs] at hslash
        exact hslash hx
    rw [if_pos (List.isPrefixOf_iff_prefix.mpr hback)]
    exact hk
  · cases hk

/-- Beside the longest token no other one comes up in another context. -/
theorem munch?_back (h : Follows rest rest') (hc : Closed w rest rest') (hne : w ≠ [])
    (ht : t < string) (hw : t.munch? (w ++ rest) = some w.length) (hu : u < string)
    (hmax : ∀ k, u.munch? (w ++ rest) = some k → k ≤ w.length) {k : Nat}
    (hk : u.munch? (w ++ rest') = some k) : u.munch? (w ++ rest) = some k := by
  rcases fixed_cases hu with rfl | rfl | rfl | rfl | hlit
  · obtain ⟨c, w, rfl⟩ := List.exists_cons_of_ne_nil hne
    cases hk
  · exact comment?_back h hc hne ht hw hmax hk
  · exact (name?_follows h hne hmax).symm.trans hk
  · exact suffix_back h hk
  · exact literal_back h hne hu hlit hk

end Symbol

namespace ValueSet

variable {valid : ValueSet} {t : Symbol} {w rest rest' : List Char}

/-- No value begins with a character that is neither a quote nor part of a word. -/
theorem read_eq_none {c : Char} {cs : List Char}
    (hc : Value.isWordChar c = false) (hq : c ≠ '\'' ∧ c ≠ '"') : valid.read (c :: cs) = none := by
  have hword : Value.word? (c :: cs) = none := by
    rw [Value.word?, List.takeWhile_cons_of_neg (by rw [hc]; exact Bool.false_ne_true)]
    rfl
  have hfirst : (some c).any (fun c => c.isDigit || c == '.') = false := by
    rw [Option.any_some, ← Bool.not_eq_true]
    intro h
    simp only [Value.isWordChar, isNameChar, Char.isAlphanum, Bool.or_eq_false_iff] at hc
    simp_all
  unfold read
  dsimp only [List.head?_cons]
  rw [if_neg (by simp [hq]), hword, hfirst, Bool.and_false]
  split <;> rfl

theorem words_checked : ∀ v ∈ Value.reserved ++ ["set", "param", "end"].map String.toList,
    (v.head?.any isNameStart = true → v.all isNameChar = true) ∧
      (v.head? = some '.' → v = ['.']) ∧ v.head?.any Char.isDigit = false := by
  decide

/-- A word that is no value is one of these. -/
theorem mem_of_word_none {cs : List Char} (hne : cs.takeWhile Value.isWordChar ≠ [])
    (hword : Value.word? cs = none) : cs.takeWhile Value.isWordChar ∈
      Value.reserved ++ ["set", "param", "end"].map String.toList := by
  unfold Value.word? at hword
  dsimp only at hword
  rw [List.isEmpty_eq_false_iff.mpr hne, if_neg Bool.false_ne_true] at hword
  split at hword
  · cases hword
  · split at hword
    · rename_i hor
      simp only [Bool.or_eq_true, List.contains_iff_mem] at hor
      rcases hor with hres | hbegins
      · exact List.mem_append_left _ hres
      · refine List.mem_append_right _ ?_
        unfold Value.beginsStatement at hbegins
        dsimp only at hbegins
        split at hbegins
        · rename_i hor
          simp only [Bool.or_eq_true, decide_eq_true_eq] at hor
          rcases hor with heq | heq
          · rw [heq]
            decide
          · rw [heq]
            decide
        · rw [Bool.and_eq_true, decide_eq_true_eq] at hbegins
          rw [hbegins.1]
          decide
    · cases hword

/-- A token of fixed form at the beginning of a word that is no value is the whole word. -/
theorem le_of_word_none (ht : t < Symbol.string) (hne : w ≠ [])
    (hw : t.munch? (w ++ rest) = some w.length) (hword : Value.word? (w ++ rest) = none) :
    ((w ++ rest).takeWhile Value.isWordChar).length ≤ w.length := by
  have hlex := (Lexeme.munch_some ht hw).1
  rw [List.take_left] at hlex
  by_contra hlt
  rw [Nat.not_le] at hlt
  -- the token is shorter than the word, and begins it
  have hpre : w <+: (w ++ rest).takeWhile Value.isWordChar :=
    List.prefix_of_prefix_length_le (List.prefix_append _ _) (List.takeWhile_prefix _)
      (Nat.le_of_lt hlt)
  have hmem := mem_of_word_none (fun hnil => by rw [hnil] at hlt; exact Nat.not_lt_zero _ hlt) hword
  have hchars : ∀ c ∈ w, Value.isWordChar c = true := fun c hc =>
    List.mem_takeWhile_imp (hpre.subset hc)
  have hhead : ((w ++ rest).takeWhile Value.isWordChar).head? = w.head? := by
    obtain ⟨c, v, rfl⟩ := List.exists_cons_of_ne_nil hne
    obtain ⟨tail, htail⟩ := hpre
    rw [← htail]
    rfl
  obtain ⟨hnames, hpoints, -⟩ := words_checked _ hmem
  rw [hhead] at hnames hpoints
  rcases Symbol.fixed_cases ht with rfl | rfl | rfl | rfl | hlit
  · exact hne hlex
  · obtain ⟨body, -, rfl⟩ | ⟨body, -, rfl⟩ : Lexeme.Comment w := hlex
    · exact absurd (hchars '#' List.mem_cons_self) (by decide)
    · exact absurd (hchars '/' List.mem_cons_self) (by decide)
  · obtain ⟨c, cs, rfl, hfirst, -⟩ : Lexeme.Name w := hlex
    have hall := List.all_eq_true.mp (hnames (by simpa using hfirst))
    obtain ⟨tail, htail⟩ := List.takeWhile_prefix Value.isWordChar (l := c :: cs ++ rest)
    have hlong := @List.takeWhile_append_of_pos _ _ _ tail hall
    rw [htail, List.cons_append, List.takeWhile_cons_of_pos (isNameChar_of_isNameStart hfirst)]
      at hlong
    have hlen : (1 + ((cs ++ rest).takeWhile isNameChar).length) = cs.length + 1 := by
      have hname : Symbol.name? (c :: cs ++ rest) = some (c :: cs).length := hw
      rw [List.cons_append, Symbol.name?, if_pos hfirst] at hname
      exact Option.some.inj hname
    have := congrArg List.length hlong
    rw [List.length_cons, List.length_append] at this
    rw [List.length_cons, List.cons_append] at hlt
    rw [← List.cons_append] at this hlt
    omega
  · obtain ⟨hpoint, hlong, -⟩ := Symbol.suffixes_checked w hlex
    rw [hpoints hpoint, List.length_singleton] at hlt
    omega
  · have hle := Symbol.shorter_checked t ht hlit _ hmem
      (by rw [Symbol.text_of_lexeme hlit hlex]; exact List.isPrefixOf_iff_prefix.mpr hpre)
    rw [Symbol.text_of_lexeme hlit hlex] at hle
    exact Nat.not_le_of_lt hlt hle

/-- Where a token of fixed form is read, no value is read in another context. -/
theorem read_follows_none (h : Follows rest rest')
    (hnext : valid.bareword = true → Value.Alike w rest rest') (hne : w ≠ []) (ht : t < Symbol.string)
    (hw : t.munch? (w ++ rest) = some w.length) (hread : valid.read (w ++ rest) = none) :
    valid.read (w ++ rest') = none := by
  have hlex := (Lexeme.munch_some ht hw).1
  rw [List.take_left] at hlex
  have hword : Value.word? (w ++ rest) = none →
      ((w ++ rest).takeWhile Value.isWordChar).length ≤ w.length := le_of_word_none ht hne hw
  obtain ⟨q, w, rfl⟩ := List.exists_cons_of_ne_nil hne
  obtain ⟨-, hquote, hquotes, -⟩ := Symbol.first_of_lexeme ht hlex q rfl
  have hno : ¬ ((some q == some '\'' || some q == some '"') && (valid.string || valid.recovering)) =
      true := by
    simp [hquote, hquotes]
  unfold read at hread ⊢
  rw [List.cons_append] at hread ⊢
  dsimp only [List.head?_cons] at hread ⊢
  rw [if_neg hno] at hread ⊢
  split at hread
  · rename_i hb
    rw [if_pos hb]
    exact (Value.word?_follows (w := q :: w) h (hword hread)
      (hnext (Bool.and_eq_true_iff.mp hb).1)).trans hread
  · rename_i hb
    rw [if_neg hb]
    split at hread
    · rename_i hnumber
      rw [if_pos hnumber, Value.number?_follows_none h (Option.map_eq_none_iff.mp hread)]
      rfl
    · rename_i hnumber
      rw [if_neg hnumber]

end ValueSet

namespace Mode

variable {m m' : Mode} {blanks blanks' : Nat} {t u : Symbol} {w rest rest' cs : List Char} {n : Nat}

/-- A name is read only where no other token is as long. -/
theorem foldl_longer_name {best : Symbol × Nat} {found : List (Symbol × Nat)}
    {start : Option (Symbol × Nat)}
    (h : found.foldl (fun best f => some (best.elim f (longer · f))) start = some best)
    (hname : best.1 = Symbol.symbolicName) :
    (∀ f ∈ found, f.2 = best.2 → f.1 = Symbol.symbolicName) ∧
      ∀ b ∈ start, b.2 = best.2 → b.1 = Symbol.symbolicName := by
  induction found generalizing start with
  | nil => exact ⟨fun f hf => absurd hf List.not_mem_nil, fun b hb _ => by cases hb.symm.trans h; exact hname⟩
  | cons f found ih =>
    obtain ⟨hall, hstart⟩ := ih h
    have hnext : found.foldl (fun best f => some (best.elim f (longer · f)))
        (some (start.elim f (longer · f))) = some best := h
    have hle := (foldl_longer_le hnext).2 _ rfl
    have hboth := hstart _ rfl
    cases start with
    | none => exact ⟨List.forall_mem_cons.mpr ⟨hboth, hall⟩, fun b hb => by cases hb⟩
    | some b =>
      have hlonger : (f.2 = best.2 → f.1 = Symbol.symbolicName) ∧
          (b.2 = best.2 → b.1 = Symbol.symbolicName) := by
        change (longer b f).2 ≤ best.2 at hle
        change (longer b f).2 = best.2 → (longer b f).1 = Symbol.symbolicName at hboth
        unfold longer at hle hboth
        split at hle
        · rename_i hf
          rw [if_pos hf] at hboth
          simp only [Bool.or_eq_true, decide_eq_true_eq, Bool.and_eq_true] at hf
          refine ⟨hboth, fun hb => ?_⟩
          rcases hf with hlt | ⟨-, hb⟩
          · omega
          · exact hb
        · rename_i hf
          rw [if_neg hf] at hboth
          simp only [Bool.or_eq_true, decide_eq_true_eq, Bool.and_eq_true, not_or, not_and] at hf
          refine ⟨fun hbest => ?_, hboth⟩
          have heq : b.2 = best.2 := by omega
          exact absurd (hboth heq) (hf.2 (heq.trans hbest.symm))
      refine ⟨List.forall_mem_cons.mpr ⟨hlonger.1, hall⟩, ?_⟩
      rintro _ ⟨⟩
      exact hlonger.2

/-- Of two tokens that are equally long one is a name, and the other one is read. -/
theorem eq_or_name_of_munch (hm : m.Plain) (h : m.munch blanks cs = some (t, n)) (hn : n ≠ 0)
    (hu : u ∈ m.candidates blanks) (hk : u.munch? cs = some n) :
    u = t ∨ u = Symbol.symbolicName ∧ t ≠ Symbol.symbolicName := by
  obtain ⟨ht, hmunch⟩ := munch_mem h
  have ht := hm t (mem_tokens_of_candidates ht)
  have hu' := hm u (mem_tokens_of_candidates hu)
  obtain ⟨hlex, hle⟩ := Lexeme.munch_some ht hmunch
  have hlex' := (Lexeme.munch_some hu' hk).1
  have hne : cs.take n ≠ [] := fun hnil => hn (by
    have hlen := congrArg List.length hnil
    rwa [List.length_take_of_le hle] at hlen)
  by_cases hname : t = Symbol.symbolicName
  · have hall := (foldl_longer_name h hname).1 (u, n)
      (List.mem_filterMap.mpr ⟨u, hu, by rw [hk]; rfl⟩) rfl
    exact Or.inl (hall.trans hname.symm)
  · by_cases hname' : u = Symbol.symbolicName
    · exact Or.inr ⟨hname', hname⟩
    · exact Or.inl (Symbol.eq_of_lexeme hu' ht hne hlex' hlex hname' hname)

/-- A mode at a text can read a token that another one reads at another text: what follows is closed
off in the same way, and no token that could come up is new. -/
structure Context (m m' : Mode) (blanks blanks' : Nat) (t : Symbol) (w rest rest' : List Char) :
    Prop where
  follows : Follows rest rest'
  closed : Symbol.Closed w rest rest'
  alike : m.values.bareword = true → Value.Alike w rest rest'
  values : m'.values = m.values
  tokens : ∀ u ∈ m'.candidates blanks', u ∈ m.candidates blanks ∨ u.munch? (w ++ rest') = none
  token : t < Symbol.string → t ∈ m'.candidates blanks'

theorem munch_follows (h : Context m m' blanks blanks' t w rest rest') (hm : m.Plain) (hm' : m'.Plain)
    (hne : w ≠ []) (hread : m.munch blanks (w ++ rest) = some (t, w.length)) :
    m'.munch blanks' (w ++ rest') = some (t, w.length) := by
  obtain ⟨hmem, hmunch⟩ := munch_mem hread
  have ht := hm t (mem_tokens_of_candidates hmem)
  refine munch_eq (h.token ht) (Symbol.munch?_follows h.follows h.closed hne ht hmunch)
    fun u hu k hk => ?_
  have hold := (h.tokens u hu).resolve_right (by rw [hk]; exact Option.some_ne_none k)
  have hmax : ∀ k, u.munch? (w ++ rest) = some k → k ≤ w.length := fun k hk =>
    le_of_munch hread hold hk
  have hback := Symbol.munch?_back h.follows h.closed hne ht hmunch
    (hm' u (mem_tokens_of_candidates hu)) hmax hk
  rcases Nat.lt_or_eq_of_le (hmax k hback) with hlt | rfl
  · exact Or.inr (Or.inl hlt)
  · have hpos : w.length ≠ 0 := fun hzero => hne (List.eq_nil_of_length_eq_zero hzero)
    rcases eq_or_name_of_munch hm hread hpos hold hback with rfl | ⟨hu, ht⟩
    · exact Or.inl rfl
    · exact Or.inr (Or.inr ⟨rfl, hu, ht⟩)

/-- What is read in one context is read in the other one. -/
theorem token?_follows (h : Context m m' blanks blanks' t w rest rest') (hm : m.Plain) (hm' : m'.Plain)
    (hne : w ≠ []) (hread : m.token? blanks (w ++ rest) = some (t, w.length)) :
    m'.token? blanks' (w ++ rest') = some (t, w.length) := by
  rw [token?] at hread ⊢
  rw [h.values]
  cases hv : m.values.read (w ++ rest) with
  | some v =>
    rw [hv] at hread
    cases hread
    rw [ValueSet.read_follows h.follows h.alike hne hv]
    rfl
  | none =>
    rw [hv, Option.orElse_none] at hread
    obtain ⟨hmem, hmunch⟩ := munch_mem hread
    rw [ValueSet.read_follows_none h.follows h.alike hne (hm t (mem_tokens_of_candidates hmem))
      hmunch hv, Option.orElse_none]
    exact munch_follows h hm hm' hne hread

/-- Behind a gap, the token that stands there is the next leaf. -/
theorem next_read {atStart : Bool} {g : List Char}
    (hfirst : ∃ c ∈ w.head?, isBlank c = false ∧ c ≠ byteOrderMark) (hg : Gap atStart g)
    (hread : m.token? (g.countP isBlank) (w ++ rest) = some (t, w.length)) :
    m.next atStart (g ++ (w ++ rest)) =
      ⟨t, Extent.ofChars g, Extent.ofChars w, t == Symbol.endOfText, .read⟩ := by
  obtain ⟨c, hc, hfirst⟩ := hfirst
  obtain ⟨v, rfl⟩ := List.head?_eq_some_iff.mp hc
  have hvisible : ∀ x ∈ (c :: v ++ rest).head?, isBlank x = false ∧ x ≠ byteOrderMark := by
    rintro _ ⟨⟩
    exact hfirst
  obtain ⟨hgap, hblanks⟩ := gap_append hg hvisible
  have hr : m.read atStart (g ++ (c :: v ++ rest)) = some ⟨t, g.length, (c :: v).length⟩ := by
    rw [read_eq, hgap, hblanks, List.drop_left, hread]
    rfl
  unfold next
  rw [hr]
  simp only [leafOf, List.take_left, List.drop_left]

end Mode

end MathProg
