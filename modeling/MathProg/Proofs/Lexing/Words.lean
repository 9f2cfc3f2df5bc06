import MathProg.Proofs.Lexing.Reading
import Mathlib.Data.List.Nodup

/-!
# Words between blanks

A word that stands between blanks is read whole: a literal as itself, a name as a name unless a
literal has the same text, an unsigned number as a number where numbers may stand. Behind the last
word, the end of the text is read.
-/

namespace MathProg

/-- Where a word may end: before a blank and at the end of the text. -/
def Ends (cs : List Char) : Prop := ∀ c ∈ cs.head?, isBlank c = true

/-- A text that consists of some words, with blanks between them and perhaps around them. -/
inductive Spells : List (List Char) → List Char → Prop
  | nil {g : List Char} (hg : ∀ c ∈ g, isBlank c = true) : Spells [] g
  | cons {g w cs : List Char} {ws : List (List Char)} (hg : ∀ c ∈ g, isBlank c = true)
      (h : Spells ws cs) (hends : Ends cs) : Spells (w :: ws) (g ++ (w ++ cs))

/-- Words with a blank before each of them. -/
theorem spells_flatMap (ws : List (List Char)) : Spells ws (ws.flatMap (' ' :: ·)) := by
  induction ws with
  | nil => exact .nil fun _ h => absurd h List.not_mem_nil
  | cons w ws ih =>
    refine .cons (g := [' ']) (List.forall_mem_singleton.mpr rfl) ih ?_
    cases ws with
    | nil => rintro _ ⟨⟩
    | cons v ws => rintro _ ⟨⟩; rfl

/-- A beginning of a text that has not the character behind a word reaches no further than the word. -/
theorem prefix_of_not_mem {v w cs : List Char} (hv : ∀ c ∈ v, c ∉ cs.head?) (h : v <+: w ++ cs) :
    v <+: w := by
  rcases List.prefix_or_prefix_of_prefix h (List.prefix_append w cs) with hp | ⟨u, rfl⟩
  · exact hp
  · rw [List.prefix_append_right_inj] at h
    cases u with
    | nil => exact (List.append_nil w).symm ▸ List.prefix_refl w
    | cons c u =>
      obtain ⟨d, rfl⟩ := h
      exact absurd rfl (hv c (by simp))

theorem prefix_of_ends {v w cs : List Char} (hv : ∀ c ∈ v, isBlank c = false) (hends : Ends cs)
    (h : v <+: w ++ cs) : v <+: w :=
  prefix_of_not_mem (fun c hc hcs => Bool.false_ne_true ((hv c hc).symm.trans (hends c hcs))) h

theorem isBlank_of_isNameChar {c : Char} (h : isNameChar c = true) : isBlank c = false := by
  by_contra hb
  rw [Bool.not_eq_false] at hb
  have hle : c ≤ ' ' := by
    simp only [isBlank, Bool.or_eq_true, beq_iff_eq, Bool.and_eq_true, decide_eq_true_eq] at hb
    rcases hb with rfl | ⟨-, hb⟩
    · exact Char.le_refl _
    · exact Char.le_trans hb (by decide)
  have hv : c.val.toNat ≤ 32 := hle
  delta isNameChar Char.isAlphanum Char.isAlpha Char.isUpper Char.isLower Char.isDigit at h
  simp only [Bool.or_eq_true, Bool.and_eq_true, decide_eq_true_eq, beq_iff_eq, ge_iff_le,
    UInt32.le_iff_toNat_le, Char.reduceVal, UInt32.reduceToNat] at h
  rcases h with h | rfl
  · omega
  · exact absurd hle (by decide)

theorem isDigit_of_isNameStart {c : Char} (h : isNameStart c = true) : c.isDigit = false := by
  by_contra hd
  rw [Bool.not_eq_false] at hd
  delta isNameStart Char.isAlpha Char.isUpper Char.isLower at h
  delta Char.isDigit at hd
  simp only [Bool.or_eq_true, Bool.and_eq_true, decide_eq_true_eq, beq_iff_eq, ge_iff_le,
    UInt32.le_iff_toNat_le, Char.reduceVal, UInt32.reduceToNat] at h hd
  rcases h with h | rfl
  · omega
  · exact absurd hd (by decide)

theorem isNameChar_of_isNameStart {c : Char} (h : isNameStart c = true) : isNameChar c = true := by
  simp only [isNameStart, isNameChar, Char.isAlphanum, Bool.or_eq_true, beq_iff_eq] at h ⊢
  exact h.imp_left Or.inl

namespace Symbol

/-- The tokens with one text. -/
def IsLiteral (t : Symbol) : Prop :=
  t < string ∧ t ≠ endOfText ∧ t ≠ comment ∧ t ≠ symbolicName ∧ t ≠ suffix

instance (t : Symbol) : Decidable t.IsLiteral := inferInstanceAs (Decidable (_ ∧ _))

/-- The text of a token. -/
def text (t : Symbol) : List Char := t.name.toList

theorem munch?_literal {t : Symbol} (ht : t.IsLiteral) (cs : List Char) :
    t.munch? cs = if t.text.isPrefixOf cs then some t.text.length else none := by
  obtain ⟨-, h0, h1, h2, h3⟩ := ht
  rw [munch?, if_neg h0, if_neg h1, if_neg h2, if_neg h3]
  rfl

/-- Whether a text has no blanks and begins neither like a value nor like a comment, or is a point, two
points or a slash. -/
def isPlain : List Char → Bool
  | [] => false
  | c :: cs =>
    cs.all (!isBlank ·) && !isBlank c && c != byteOrderMark && c != '\'' && c != '"' && !c.isDigit
      && c != '#' && (c != '.' || cs == [] || cs == ['.']) && (c != '/' || cs == [])

theorem literals_checked : ∀ t < string, t.IsLiteral → isPlain t.text = true ∧ t.text ∉ suffixes := by
  decide +kernel

theorem literal_texts_nodup : (((List.range string).filter (IsLiteral ·)).map text).Nodup := by
  decide +kernel

theorem eq_of_text {t u : Symbol} (ht : t.IsLiteral) (hu : u.IsLiteral) (h : t.text = u.text) :
    t = u := by
  have hmem : ∀ {v : Symbol}, v.IsLiteral → v ∈ (List.range string).filter (IsLiteral ·) :=
    fun hv => List.mem_filter.mpr ⟨List.mem_range.mpr hv.1, decide_eq_true hv⟩
  exact List.inj_on_of_nodup_map literal_texts_nodup (hmem ht) (hmem hu) h

/-- A text without blanks that is read as neither a value nor a comment. -/
structure Plain (w : List Char) : Prop where
  blankless : ∀ c ∈ w, isBlank c = false
  first : ∃ c cs, w = c :: cs ∧ c ≠ byteOrderMark ∧ c ≠ '\'' ∧ c ≠ '"' ∧ c.isDigit = false ∧ c ≠ '#' ∧
    (c = '.' → cs = [] ∨ cs = ['.']) ∧ (c = '/' → cs = [])

theorem plain_of_isPlain {w : List Char} (h : isPlain w = true) : Plain w := by
  cases w with
  | nil => cases h
  | cons c cs =>
    simp only [isPlain, Bool.and_eq_true, Bool.or_eq_true, bne_iff_ne, beq_iff_eq, Bool.not_eq_true',
      List.all_eq_true] at h
    obtain ⟨⟨⟨⟨⟨⟨⟨⟨hcs, hc⟩, hmark⟩, hquote⟩, hquotes⟩, hdigit⟩, hhash⟩, hpoint⟩, hslash⟩ := h
    refine ⟨?_, c, cs, rfl, hmark, hquote, hquotes, hdigit, hhash, fun h => ?_, fun h => ?_⟩
    · intro d hd
      rcases List.mem_cons.mp hd with rfl | hd
      · exact hc
      · exact hcs d hd
    · exact hpoint.elim (fun h' => h'.elim (absurd h) Or.inl) Or.inr
    · exact hslash.resolve_left (not_not_intro h)

theorem plain_text {t : Symbol} (ht : t.IsLiteral) : Plain t.text :=
  plain_of_isPlain (literals_checked t ht.1 ht).1

theorem plain_name {w : List Char} (h : Lexeme.Name w) : Plain w := by
  obtain ⟨c, cs, rfl, hc, hcs⟩ := h
  have hne : ∀ d, isNameStart d = false → c ≠ d := by
    rintro d hd rfl
    rw [hc] at hd
    cases hd
  refine ⟨?_, c, cs, rfl, hne _ (by decide), hne _ (by decide), hne _ (by decide),
    isDigit_of_isNameStart hc, hne _ (by decide), fun h => absurd h (hne _ (by decide)),
    fun h => absurd h (hne _ (by decide))⟩
  intro d hd
  rcases List.mem_cons.mp hd with rfl | hd
  · exact isBlank_of_isNameChar (isNameChar_of_isNameStart hc)
  · exact isBlank_of_isNameChar (hcs d hd)

variable {w rest : List Char}

theorem Plain.comment? (hw : Plain w) (hends : Ends rest) : Symbol.comment? (w ++ rest) = none := by
  obtain ⟨-, c, cs, rfl, -, -, -, -, hhash, -, hslash⟩ := hw
  rw [List.cons_append]
  unfold Symbol.comment?
  split
  · rename_i he
    cases he
    exact absurd rfl hhash
  · rename_i body he
    obtain ⟨rfl, he⟩ := List.cons.inj he
    rw [hslash rfl, List.nil_append] at he
    rw [(List.cons.inj he).2] at hends
    exact absurd (hends '*' rfl) (by decide)
  · rfl

/-- A literal or a name, read where it ends at a blank, is as long as a token there can be. -/
theorem Plain.munch?_le (hw : Plain w) (hends : Ends rest) {u : Symbol} {k : Nat} (hu : u < string)
    (h : u.munch? (w ++ rest) = some k) :
    k ≤ w.length ∧ (k = w.length →
      u = symbolicName ∨ u.IsLiteral ∧ u.text = w ∨ w ∈ suffixes) := by
  -- whatever the token is, what is read has no blanks
  have hprefix : ∀ {v : List Char}, (∀ c ∈ v, isBlank c = false) → v <+: w ++ rest →
      v.length ≤ w.length ∧ (v.length = w.length → v = w) := by
    intro v hv hp
    have hvw := prefix_of_ends hv hends hp
    exact ⟨hvw.length_le, hvw.eq_of_length⟩
  by_cases hend : u = endOfText
  · subst hend
    obtain ⟨c, cs, rfl, -⟩ := hw.first
    cases h
  by_cases hcomment : u = comment
  · subst hcomment
    rw [munch?, if_neg (by decide), if_pos rfl, hw.comment? hends] at h
    cases h
  by_cases hname : u = symbolicName
  · subst hname
    rw [munch?, if_neg (by decide), if_neg (by decide), if_pos rfl] at h
    obtain ⟨hn, hle⟩ := Lexeme.name_some h
    have hlen : ((w ++ rest).take k).length = k := List.length_take_of_le hle
    have := hprefix (plain_name hn).blankless (List.take_prefix _ _)
    rw [hlen] at this
    exact ⟨this.1, fun _ => Or.inl rfl⟩
  by_cases hsuffix : u = suffix
  · subst hsuffix
    rw [munch?, if_neg (by decide), if_neg (by decide), if_neg (by decide), if_pos rfl] at h
    obtain ⟨v, hv, rfl⟩ := Option.map_eq_some_iff.mp h
    have hp := List.isPrefixOf_iff_prefix.mp
      (List.find?_some (p := fun v : List Char => v.isPrefixOf (w ++ rest)) hv)
    have hmem := List.mem_of_find?_eq_some hv
    have hblank : ∀ v ∈ suffixes, ∀ c ∈ v, isBlank c = false := by
      have hall : suffixes.all (·.all (!isBlank ·)) = true := by decide
      simpa [List.all_eq_true] using hall
    obtain ⟨hle, heq⟩ := hprefix (hblank v hmem) hp
    exact ⟨hle, fun he => Or.inr (Or.inr (heq he ▸ hmem))⟩
  · have hlit : u.IsLiteral := ⟨hu, hend, hcomment, hname, hsuffix⟩
    rw [munch?_literal hlit] at h
    split at h
    · rename_i hp
      cases h
      obtain ⟨hle, heq⟩ := hprefix (plain_text hlit).blankless (List.isPrefixOf_iff_prefix.mp hp)
      exact ⟨hle, fun he => Or.inr (Or.inl ⟨hlit, heq he⟩)⟩
    · cases h

end Symbol

namespace ValueSet

variable {w rest : List Char}

theorem number?_points (hends : Ends rest) {cs : List Char} (hcs : cs = [] ∨ cs = ['.']) :
    Value.number? ('.' :: cs ++ rest) = none := by
  have hdigit : ∀ c ∈ rest.head?, c.isDigit = false ∧ c ≠ '.' := by
    intro c hc
    have hblank := hends c hc
    refine ⟨Bool.eq_false_iff.mpr fun hd => ?_, ?_⟩
    · rw [isBlank_of_isNameChar (by simp [isNameChar, Char.isAlphanum, hd])] at hblank
      cases hblank
    · rintro rfl
      cases hblank
  rcases hcs with rfl | rfl
  · cases rest with
    | nil => rfl
    | cons c rest =>
      obtain ⟨hd, hp⟩ := hdigit c rfl
      simp [Value.number?, Value.mantissa, Value.digits, hd, hp]
  · simp [Value.number?, Value.mantissa, Value.digits]

theorem read_plain {valid : ValueSet} (hb : valid.bareword = false) (hw : Symbol.Plain w)
    (hends : Ends rest) : valid.read (w ++ rest) = none := by
  obtain ⟨-, c, cs, rfl, -, hquote, hquotes, hdigit, -, hpoint, -⟩ := hw
  have hnumber : c.isDigit = true ∨ c = '.' → Value.number? (c :: (cs ++ rest)) = none := by
    rintro (hd | rfl)
    · rw [hdigit] at hd
      cases hd
    · exact number?_points hends (hpoint rfl)
  have hword : ¬ (valid.bareword && !valid.recovering) = true := by simp [hb]
  unfold read
  rw [List.cons_append]
  dsimp only
  rw [if_neg (by simp [hquote, hquotes]), if_neg hword]
  split
  · rename_i h
    rw [hnumber (by simpa using (Bool.and_eq_true_iff.mp h).2)]
    rfl
  · rfl

end ValueSet

namespace Mode

variable {m : Mode} {blanks : Nat} {cs w rest : List Char} {t : Symbol} {n : Nat}

/-- A reading that no other one can take the place of. -/
def Beats (best other : Symbol × Nat) : Prop :=
  other.2 < best.2 ∨ other.2 = best.2 ∧ other.1 = Symbol.symbolicName ∧ best.1 ≠ Symbol.symbolicName

theorem Beats.longer {best other : Symbol × Nat} (h : Beats best other) :
    longer best other = best ∧ longer other best = best := by
  unfold Mode.longer
  rcases h with h | ⟨h, hother, hbest⟩
  · exact ⟨if_neg (by simp; omega), if_pos (by simp [h])⟩
  · exact ⟨if_neg (by simp [h, hbest]), if_pos (by simp [h, hother])⟩

theorem foldl_longer_eq {best : Symbol × Nat} {found : List (Symbol × Nat)}
    {start : Option (Symbol × Nat)} (hall : ∀ f ∈ found, f = best ∨ Beats best f)
    (hstart : ∀ f ∈ start, f = best ∨ Beats best f) (hmem : best ∈ found ∨ start = some best) :
    found.foldl (fun best f => some (best.elim f (longer · f))) start = some best := by
  have hself : longer best best = best := by
    unfold longer
    split <;> rfl
  induction found generalizing start with
  | nil => exact hmem.resolve_left List.not_mem_nil
  | cons f found ih =>
    have hf := hall f List.mem_cons_self
    -- the better of what is found and the start is the best one, or is still beaten by it
    have hnext : (start.elim f (longer · f) = best ∨ Beats best (start.elim f (longer · f))) ∧
        (f = best ∨ start = some best → start.elim f (longer · f) = best) := by
      cases start with
      | none => exact ⟨hf, fun h => h.resolve_right (by simp)⟩
      | some g =>
        rcases hstart g rfl with rfl | hg
        · have hl : longer g f = g := hf.elim (fun h => h ▸ hself) fun h => h.longer.1
          exact ⟨Or.inl hl, fun _ => hl⟩
        · rcases hf with rfl | hf
          · exact ⟨Or.inl hg.longer.2, fun _ => hg.longer.2⟩
          · have hne : ∀ {x}, Beats best x → x ≠ best := by
              rintro x (hx | ⟨-, hx, hb⟩) rfl
              · exact Nat.lt_irrefl _ hx
              · exact hb hx
            refine ⟨Or.inr ?_, fun h => h.elim (fun h => absurd h (hne hf))
              fun h => absurd (Option.some.inj h) (hne hg)⟩
            change Beats best (longer g f)
            unfold longer
            split
            · exact hf
            · exact hg
    refine ih (fun g hg => hall g (List.mem_cons_of_mem _ hg)) ?_ ?_
    · rintro _ ⟨⟩
      exact hnext.1
    · rcases hmem with hmem | hmem
      · rcases List.mem_cons.mp hmem with hb | hb
        · exact Or.inr (congrArg some (hnext.2 (Or.inl hb.symm)))
        · exact Or.inl hb
      · exact Or.inr (congrArg some (hnext.2 (Or.inr hmem)))

theorem munch_eq (hmem : t ∈ m.candidates blanks) (ht : t.munch? cs = some n)
    (hall : ∀ u ∈ m.candidates blanks, ∀ k, u.munch? cs = some k →
      (u, k) = (t, n) ∨ Beats (t, n) (u, k)) : m.munch blanks cs = some (t, n) := by
  refine foldl_longer_eq ?_ (by simp) (Or.inl (List.mem_filterMap.mpr ⟨t, hmem, by rw [ht]; rfl⟩))
  intro f hf
  obtain ⟨u, hu, he⟩ := List.mem_filterMap.mp hf
  obtain ⟨k, hk, rfl⟩ := Option.map_eq_some_iff.mp he
  exact hall u hu k hk

/-- A mode reads a word as a token, wherever the word ends at a blank. -/
structure ReadsWord (m : Mode) (t : Symbol) (w : List Char) : Prop where
  first : ∃ c cs, w = c :: cs ∧ isBlank c = false ∧ c ≠ byteOrderMark
  symbol : t ≠ Symbol.endOfText
  token : ∀ blanks rest, Ends rest → m.token? blanks (w ++ rest) = some (t, w.length)

theorem mem_candidates (h : t ∈ m.tokens) (hs : t ≠ Symbol.suffix) (blanks : Nat) :
    t ∈ m.candidates blanks := by
  unfold candidates
  split
  · exact h
  · exact List.mem_filter.mpr ⟨h, bne_iff_ne.mpr hs⟩

/-- A literal is read wherever its mode has it, but not where words are values. -/
theorem readsWord_literal (hm : m.Plain) (hb : m.values.bareword = false) (ht : t ∈ m.tokens)
    (hlit : t.IsLiteral) : m.ReadsWord t t.text := by
  have hw := Symbol.plain_text hlit
  obtain ⟨c, cs, hcs, hmark, -⟩ := hw.first
  refine ⟨⟨c, cs, hcs, hw.blankless c (hcs ▸ List.mem_cons_self), hmark⟩, hlit.2.1,
    fun blanks rest hends => ?_⟩
  rw [token?, ValueSet.read_plain hb hw hends]
  refine munch_eq (mem_candidates ht hlit.2.2.2.2 blanks) ?_ fun u hu k hk => ?_
  · rw [Symbol.munch?_literal hlit, if_pos (List.isPrefixOf_iff_prefix.mpr (List.prefix_append _ _))]
  · obtain ⟨hle, heq⟩ := hw.munch?_le hends (hm u (mem_tokens_of_candidates hu)) hk
    rcases Nat.lt_or_eq_of_le hle with hlt | rfl
    · exact Or.inr (Or.inl hlt)
    · rcases heq rfl with rfl | ⟨hul, htext⟩ | hsuffix
      · exact Or.inr (Or.inr ⟨rfl, rfl, hlit.2.2.2.1⟩)
      · exact Or.inl (by rw [Symbol.eq_of_text hul hlit htext])
      · exact absurd hsuffix (Symbol.literals_checked t hlit.1 hlit).2

theorem name?_append (hw : Lexeme.Name w) (hends : Ends rest) :
    Symbol.name? (w ++ rest) = some w.length := by
  obtain ⟨c, cs, rfl, hc, hcs⟩ := hw
  have hrest : rest.takeWhile isNameChar = [] := by
    cases rest with
    | nil => rfl
    | cons d rest =>
      have hd : ¬ isNameChar d = true := fun h => by
        have hblank := hends d rfl
        rw [isBlank_of_isNameChar h] at hblank
        cases hblank
      exact List.takeWhile_cons_of_neg hd
  rw [List.cons_append, Symbol.name?, if_pos hc, List.takeWhile_append_of_pos hcs, hrest,
    List.append_nil, List.length_cons, Nat.add_comm]

/-- A name that is no literal is read wherever its mode has names, but not where words are values. -/
theorem readsWord_name (hm : m.Plain) (hb : m.values.bareword = false)
    (ht : Symbol.symbolicName ∈ m.tokens) (hw : Lexeme.Name w)
    (hfree : ∀ u : Symbol, u.IsLiteral → u.text ≠ w) : m.ReadsWord Symbol.symbolicName w := by
  have hplain := Symbol.plain_name hw
  obtain ⟨c, cs, hcs, hmark, -, -, -, -, -, -⟩ := hplain.first
  refine ⟨⟨c, cs, hcs, hplain.blankless c (hcs ▸ List.mem_cons_self), hmark⟩, by decide,
    fun blanks rest hends => ?_⟩
  rw [token?, ValueSet.read_plain hb hplain hends]
  refine munch_eq (mem_candidates ht (by decide) blanks) (name?_append hw hends) fun u hu k hk => ?_
  obtain ⟨hle, heq⟩ := hplain.munch?_le hends (hm u (mem_tokens_of_candidates hu)) hk
  rcases Nat.lt_or_eq_of_le hle with hlt | rfl
  · exact Or.inr (Or.inl hlt)
  · rcases heq rfl with rfl | ⟨hul, htext⟩ | hsuffix
    · exact Or.inl rfl
    · exact absurd htext (hfree u hul)
    · have hpoint : ∀ v ∈ Symbol.suffixes, v.head? = some '.' := by decide
      obtain ⟨d, ds, rfl, hd, -⟩ := hw
      cases hpoint _ hsuffix
      cases hd

end Mode

namespace Value

open Lexeme (IsDigits IsSign)

variable {w rest : List Char}

/-- Text that does not go on with what is asked for. -/
def Stops (p : Char → Bool) (cs : List Char) : Prop := ∀ c ∈ cs.head?, p c = false

theorem stops_of_ends {p : Char → Bool} (hp : ∀ c, isBlank c = true → p c = false)
    (hends : Ends rest) : Stops p rest := fun c hc => hp c (hends c hc)

theorem takeWhile_of_stops {p : Char → Bool} (h : Stops p rest) : rest.takeWhile p = [] := by
  cases rest with
  | nil => rfl
  | cons c rest => exact List.takeWhile_cons_of_neg (by rw [h c rfl]; exact Bool.false_ne_true)

theorem isDigit_of_isBlank {c : Char} (h : isBlank c = true) : c.isDigit = false := by
  refine Bool.eq_false_iff.mpr fun hd => ?_
  rw [isBlank_of_isNameChar (by simp [isNameChar, Char.isAlphanum, hd])] at h
  cases h

theorem digits_append {d : List Char} (hd : IsDigits d) (hstops : Stops Char.isDigit rest) :
    digits (d ++ rest) = d.length := by
  rw [digits, List.takeWhile_append_of_pos hd, takeWhile_of_stops hstops, List.append_nil]

theorem signLength_append {sign d : List Char} (hs : IsSign sign) (hd : IsDigits d) (hne : d ≠ []) :
    signLength (sign ++ (d ++ rest)) = sign.length := by
  rcases hs with rfl | rfl | rfl
  · cases d with
    | nil => exact absurd rfl hne
    | cons c d =>
      have hc := hd c List.mem_cons_self
      refine if_neg fun h => ?_
      simp only [Bool.or_eq_true, decide_eq_true_eq] at h
      rcases h with rfl | rfl <;> cases hc
  · rfl
  · rfl

theorem exponent_append {e : List Char} (he : Lexeme.Exponent e) (hends : Ends rest) :
    exponent (e ++ rest) = e.length := by
  rcases he with rfl | ⟨c, sign, d, hc, hs, hne, hd, rfl⟩
  · cases rest with
    | nil => rfl
    | cons c rest =>
      have hblank := hends c rfl
      refine if_neg fun h => ?_
      simp only [Bool.or_eq_true, decide_eq_true_eq] at h
      rcases h with rfl | rfl <;> cases hblank
  · have hsign : signLength (sign ++ (d ++ rest)) = sign.length := signLength_append hs hd hne
    have hdigits := digits_append hd (stops_of_ends (fun _ => isDigit_of_isBlank) hends)
    have hlen : d.length ≠ 0 := fun h => hne (List.eq_nil_of_length_eq_zero h)
    rw [List.cons_append, exponent, if_pos (by simpa using hc), List.append_assoc, hsign]
    dsimp only
    rw [List.drop_left, hdigits, if_neg hlen, List.length_cons, List.length_append]
    omega

/-- What follows the whole part or the fraction of a number. -/
theorem exponent_stops {e : List Char} (he : Lexeme.Exponent e) (hends : Ends rest) :
    Stops Char.isDigit (e ++ rest) ∧ (e ++ rest).head? ≠ some '.' := by
  rcases he with rfl | ⟨c, sign, d, hc, -, -, -, rfl⟩
  · refine ⟨stops_of_ends (fun _ => isDigit_of_isBlank) hends, fun h => ?_⟩
    exact absurd (hends '.' h) (by decide)
  · rcases hc with rfl | rfl
    · exact ⟨by rintro _ ⟨⟩; rfl, by simp⟩
    · exact ⟨by rintro _ ⟨⟩; rfl, by simp⟩

theorem mantissa_append {m tail : List Char} (hm : Lexeme.Mantissa m) (hstops : Stops Char.isDigit tail)
    (hpoint : tail.head? ≠ some '.') :
    mantissa (m ++ tail) = some m.length ∧ beginsRange (m ++ tail) = false := by
  obtain ⟨a, b, ha, hb, ⟨rfl, hne⟩ | ⟨rfl, hne⟩⟩ := hm
  · have hdigits := digits_append ha hstops
    have hlen : m.length ≠ 0 := fun h => hne (List.eq_nil_of_length_eq_zero h)
    have hdrop : (m ++ tail).drop (digits (m ++ tail)) = tail := by rw [hdigits, List.drop_left]
    refine ⟨?_, ?_⟩
    · unfold mantissa
      dsimp only
      rw [hdrop]
      split
      · exact absurd rfl hpoint
      · rw [hdigits, if_neg hlen]
    · rw [beginsRange, hdrop]
      cases tail with
      | nil => rfl
      | cons c tail =>
        have hc : c ≠ '.' := fun h => hpoint (congrArg some h)
        simp [List.isPrefixOf, Ne.symm hc]
  · have hstop : Stops Char.isDigit ('.' :: (b ++ tail)) := by rintro _ ⟨⟩; rfl
    have hdigits := digits_append ha hstop
    have hdrop : (a ++ '.' :: (b ++ tail)).drop (digits (a ++ '.' :: (b ++ tail))) =
        '.' :: (b ++ tail) := by rw [hdigits, List.drop_left]
    have hhead : (b ++ tail).head? ≠ some '.' := by
      cases b with
      | nil => exact hpoint
      | cons c b =>
        rintro ⟨⟩
        cases hb '.' List.mem_cons_self
    have hlen : ¬ (a.length = 0 && b.length = 0) = true := by
      simpa [List.length_eq_zero_iff, imp_iff_not_or] using hne
    rw [List.append_assoc, List.cons_append]
    refine ⟨?_, ?_⟩
    · unfold mantissa
      dsimp only
      rw [hdrop]
      simp only [if_neg hhead, digits_append hb hstops, hdigits, if_neg hlen, List.length_append,
        List.length_cons]
      exact congrArg some (by omega)
    · rw [beginsRange, hdrop]
      cases hbt : b ++ tail with
      | nil => rfl
      | cons c cs =>
        have hc : c ≠ '.' := fun h => hhead (by rw [hbt, h]; rfl)
        simp [List.isPrefixOf, Ne.symm hc]

/-- An unsigned number is read whole where it ends at a blank. -/
theorem number?_append (hw : Lexeme.Unsigned w) (hends : Ends rest) :
    number? (w ++ rest) = some w.length := by
  obtain ⟨m, e, hm, he, rfl⟩ := hw
  obtain ⟨hstops, hpoint⟩ := exponent_stops he hends
  obtain ⟨hmantissa, hrange⟩ := mantissa_append hm hstops hpoint
  rw [List.append_assoc, number?, hmantissa, hrange, Option.map_some, if_neg Bool.false_ne_true,
    List.drop_left, exponent_append he hends, List.length_append]

/-- An unsigned number begins with a digit or a point. -/
theorem unsigned_first (hw : Lexeme.Unsigned w) :
    ∃ c cs, w = c :: cs ∧ (c.isDigit = true ∨ c = '.') := by
  obtain ⟨m, e, ⟨a, b, ha, -, hm⟩, -, rfl⟩ := hw
  cases a with
  | nil =>
    rcases hm with ⟨-, hne⟩ | ⟨rfl, -⟩
    · exact absurd rfl hne
    · exact ⟨'.', b ++ e, rfl, Or.inr rfl⟩
  | cons c a =>
    have hc := ha c List.mem_cons_self
    rcases hm with ⟨rfl, -⟩ | ⟨rfl, -⟩
    · exact ⟨c, a ++ e, rfl, Or.inl hc⟩
    · exact ⟨c, _, rfl, Or.inl hc⟩

end Value

namespace Mode

variable {m : Mode} {w cs : List Char} {t : Symbol}

/-- An unsigned number is read wherever its mode has numbers, but not where words are values. -/
theorem readsWord_number (hb : m.values.bareword = false) (hn : m.values.number = true)
    (hw : Lexeme.Unsigned w) : m.ReadsWord Symbol.number w := by
  obtain ⟨c, cs, rfl, hc⟩ := Value.unsigned_first hw
  have hne : ∀ d, d.isDigit = false → d ≠ '.' → c ≠ d := by
    rintro d hd hp rfl
    rcases hc with hc | hc
    · rw [hd] at hc
      cases hc
    · exact hp hc
  refine ⟨⟨c, cs, rfl, Bool.eq_false_iff.mpr fun h => ?_, hne _ (by decide) (by decide)⟩, by decide,
    fun blanks rest hends => ?_⟩
  · rcases hc with hc | rfl
    · rw [Value.isDigit_of_isBlank h] at hc
      cases hc
    · cases h
  · have hquote : ¬ ((((c :: cs) ++ rest).head? == some '\'' || ((c :: cs) ++ rest).head? == some '"') &&
        (m.values.string || m.values.recovering)) = true := by
      simp [hne '\'' (by decide) (by decide), hne '"' (by decide) (by decide)]
    have hread : m.values.read ((c :: cs) ++ rest) = some (Symbol.number, (c :: cs).length) := by
      unfold ValueSet.read
      dsimp only
      rw [if_neg hquote, if_neg (by simp [hb]), if_pos (by simpa [hn] using hc),
        Value.number?_append hw hends]
      rfl
    rw [token?, hread]
    rfl

/-- What is skipped before a character that is not skipped, and how many blanks are among it. -/
theorem gap_append {atStart : Bool} {g rest : List Char} (hg : Gap atStart g)
    (hrest : ∀ c ∈ rest.head?, isBlank c = false ∧ c ≠ byteOrderMark) :
    gapLength atStart (g ++ rest) = g.length ∧ blanksBefore atStart (g ++ rest) = g.countP isBlank := by
  have hblank : ∀ {v : List Char}, (∀ c ∈ v, isBlank c = true) → (v ++ rest).takeWhile isBlank = v := by
    intro v hv
    have hstop : rest.takeWhile isBlank = [] :=
      Value.takeWhile_of_stops fun c hc => (hrest c hc).1
    rw [List.takeWhile_append_of_pos hv, hstop, List.append_nil]
  rcases hg with hg | ⟨rfl, v, rfl, hv⟩
  · have hmark : markLength atStart (g ++ rest) = 0 := by
      refine if_neg fun h => ?_
      have hhead := beq_iff_eq.mp (Bool.and_eq_true_iff.mp h).2
      cases g with
      | nil => exact (hrest _ hhead).2 rfl
      | cons c g =>
        have hc := hg c List.mem_cons_self
        cases hhead
        cases hc
    rw [gapLength, blanksBefore, hmark, List.drop_zero, blankLength, hblank hg, Nat.zero_add,
      List.countP_eq_length.mpr hg]
    exact ⟨rfl, rfl⟩
  · have hmark : markLength true (byteOrderMark :: v ++ rest) = 1 := rfl
    have hdrop : (byteOrderMark :: v ++ rest).drop 1 = v ++ rest := rfl
    rw [gapLength, blanksBefore, hmark, hdrop, blankLength, hblank hv, List.length_cons,
      List.countP_cons_of_neg (by decide), List.countP_eq_length.mpr hv]
    exact ⟨Nat.add_comm _ _, rfl⟩

/-- Behind blanks, a word is read as its token. -/
theorem next_word {g rest : List Char} (h : m.ReadsWord t w) (hg : ∀ c ∈ g, isBlank c = true)
    (hends : Ends rest) (atStart : Bool) :
    m.next atStart (g ++ (w ++ rest)) = ⟨t, Extent.ofChars g, Extent.ofChars w, false, .read⟩ := by
  obtain ⟨c, cs, hw, hc, hmark⟩ := h.first
  have hgap : gapLength atStart (g ++ (w ++ rest)) = g.length :=
    (gap_append (Or.inl hg) (by rw [hw]; rintro _ ⟨⟩; exact ⟨hc, hmark⟩)).1
  have hread : m.read atStart (g ++ (w ++ rest)) = some ⟨t, g.length, w.length⟩ := by
    rw [read_eq, hgap, List.drop_left, h.token _ rest hends]
    rfl
  have hleaf : leafOf (g ++ (w ++ rest)) ⟨t, g.length, w.length⟩ =
      ⟨t, Extent.ofChars g, Extent.ofChars w, false, .read⟩ := by
    simp only [leafOf, List.take_left, List.drop_left, beq_eq_false_iff_ne.mpr h.symbol]
  unfold next
  rw [hread]
  exact hleaf

/-- Behind the last word, the end of the text is read. -/
theorem next_end {atStart : Bool} {g : List Char} (hm : m.Plain) (ht : Symbol.endOfText ∈ m.tokens)
    (hg : Gap atStart g) :
    m.next atStart g = ⟨Symbol.endOfText, Extent.ofChars g, 0, true, .read⟩ := by
  have hgap : gapLength atStart (g ++ []) = g.length := (gap_append hg (by rintro _ ⟨⟩)).1
  rw [List.append_nil] at hgap
  have hvalue : m.values.read [] = none := by
    unfold ValueSet.read
    simp [Value.word?]
  have hmunch : ∀ blanks, m.munch blanks [] = some (Symbol.endOfText, 0) := by
    intro blanks
    refine munch_eq (mem_candidates ht (by decide) blanks) rfl fun u hu k hk => ?_
    have hu := hm u (mem_tokens_of_candidates hu)
    obtain ⟨hlex, hle⟩ := Lexeme.munch_some hu hk
    by_cases h0 : u = Symbol.endOfText
    · exact Or.inl (by rw [h0, Nat.le_zero.mp hle])
    · exact absurd List.take_nil (hlex.ne_nil (Nat.le_trans (Nat.le_of_lt hu) (by decide)) h0)
  have hread : m.read atStart g = some ⟨Symbol.endOfText, g.length, 0⟩ := by
    rw [read_eq, hgap, List.drop_length, token?, hvalue, Option.orElse_none, hmunch]
    rfl
  unfold next
  rw [hread]
  simp only [leafOf, List.take_length, List.drop_length, List.take_nil]
  rfl

end Mode

end MathProg
