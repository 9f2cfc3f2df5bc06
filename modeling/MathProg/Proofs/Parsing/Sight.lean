import MathProg.Proofs.Automaton.Modes
import MathProg.Proofs.Parsing.Trace

/-!
# What a parser sees

A leaf that the parser does something with was read in the mode of its state. So it is seen again in
another text, if the state reads there in the same way.
-/

namespace MathProg

namespace Value

variable {cs : List Char}

/-- Where a number can be read, a word can be read as well. -/
theorem word?_of_number {c : Char} {n : Nat} (hc : c.isDigit = true ∨ c = '.')
    (hn : number? (c :: cs) = some n) : word? (c :: cs) ≠ none := by
  intro hword
  have hchar : isWordChar c = true := by
    rcases hc with hc | rfl
    · simp [isWordChar, isNameChar, Char.isAlphanum, hc]
    · rfl
  have hcons := List.takeWhile_cons_of_pos (l := cs) hchar
  obtain ⟨-, hpoint, hdigit⟩ := ValueSet.words_checked _
    (ValueSet.mem_of_word_none (by rw [hcons]; exact List.cons_ne_nil _ _) hword)
  rw [hcons] at hpoint hdigit
  rcases hc with hc | rfl
  · rw [List.head?_cons, Option.any_some, hc] at hdigit
    cases hdigit
  · have hstops := stops_of_takeWhile (List.cons.inj (hpoint rfl)).2
    have hdigits : digits cs = 0 := by
      rw [digits, takeWhile_of_stops fun d hd => ?_]
      · rfl
      · have hno := hstops d hd
        by_contra hd
        simp [isWordChar, isNameChar, Char.isAlphanum, hd] at hno
    rw [number?_eq, digits, List.takeWhile_cons_of_neg (by decide)] at hn
    rw [List.length_nil, List.drop_zero, numberFrom_zero (Or.inl hdigits)] at hn
    cases hn

end Value

namespace Symbol

open Automaton (slash star power)

variable {t : Symbol} {w : List Char}

theorem eq_slash (ht : t < string) (h : Lexeme t ['/']) : t = slash := by
  rcases fixed_cases ht with rfl | rfl | rfl | rfl | hlit
  · cases (h : ['/'] = [])
  · obtain ⟨body, -, hb⟩ | ⟨body, -, hb⟩ : Lexeme.Comment ['/'] := h <;> cases hb
  · obtain ⟨c, cs, hc, hfirst, -⟩ : Lexeme.Name ['/'] := h
    obtain ⟨rfl, -⟩ := List.cons.inj hc
    cases hfirst
  · cases (suffixes_checked _ h).1
  · exact eq_of_text hlit (by decide) ((text_of_lexeme hlit h).trans (by decide +kernel))

theorem stars_checked : ∀ t < string, t.IsLiteral → t.text.head? = some '*' → t = star ∨ t = power := by
  decide +kernel

theorem eq_star (ht : t < string) (h : Lexeme t w) (hw : w.head? = some '*') :
    t = star ∨ t = power := by
  obtain ⟨v, rfl⟩ := List.head?_eq_some_iff.mp hw
  rcases fixed_cases ht with rfl | rfl | rfl | rfl | hlit
  · cases (h : '*' :: v = [])
  · obtain ⟨body, -, hb⟩ | ⟨body, -, hb⟩ : Lexeme.Comment ('*' :: v) := h <;> cases hb
  · obtain ⟨c, cs, hc, hfirst, -⟩ : Lexeme.Name ('*' :: v) := h
    obtain ⟨rfl, -⟩ := List.cons.inj hc
    cases hfirst
  · cases (suffixes_checked _ h).1
  · exact stars_checked t ht hlit (by rw [text_of_lexeme hlit h]; rfl)

theorem signs_checked : ∀ t < string, t.IsLiteral → t.text.head? ≠ some '#' := by decide +kernel

theorem eq_comment (ht : t < string) (h : Lexeme t w) (hw : w.head? = some '#') : t = comment := by
  obtain ⟨v, rfl⟩ := List.head?_eq_some_iff.mp hw
  rcases fixed_cases ht with rfl | rfl | rfl | rfl | hlit
  · cases (h : '#' :: v = [])
  · rfl
  · obtain ⟨c, cs, hc, hfirst, -⟩ : Lexeme.Name ('#' :: v) := h
    obtain ⟨rfl, -⟩ := List.cons.inj hc
    cases hfirst
  · cases (suffixes_checked _ h).1
  · exact absurd (by rw [text_of_lexeme hlit h]; rfl) (signs_checked t ht hlit)

/-- A comment up to the end of the line is followed by that. -/
theorem comment?_stops {v rest : List Char}
    (h : comment? ('#' :: v ++ rest) = some (v.length + 1)) :
    ∀ c ∈ rest.head?, c = '\n' ∨ c = '\x00' := by
  have hlen := Option.some.inj h
  rw [List.append_eq, Nat.add_comm 1] at hlen
  generalize hp : (fun c : Char => c != '\n' && c != '\x00') = p at hlen
  have hv : (v ++ rest).takeWhile p = v := by
    have hprefix := List.prefix_iff_eq_take.mp (List.takeWhile_prefix p (l := v ++ rest))
    rwa [Nat.add_right_cancel hlen, List.take_left] at hprefix
  have hall : ∀ c ∈ v, p c = true := fun c hc => List.mem_takeWhile_imp (hv.symm ▸ hc)
  rw [List.takeWhile_append_of_pos hall, List.append_right_eq_self] at hv
  intro c hc
  have hno := Value.stops_of_takeWhile hv c hc
  rw [← hp, Bool.and_eq_false_iff, bne_eq_false_iff_eq, bne_eq_false_iff_eq] at hno
  exact hno

end Symbol

namespace Mode

variable {m : Mode} {blanks : Nat} {cs : List Char} {t : Symbol} {n : Nat}

theorem foldl_longer_isSome {found : List (Symbol × Nat)} {start : Option (Symbol × Nat)}
    (h : found ≠ [] ∨ start ≠ none) :
    found.foldl (fun best f => some (best.elim f (longer · f))) start ≠ none := by
  induction found generalizing start with
  | nil => exact h.resolve_left fun h => h rfl
  | cons f found ih => exact ih (Or.inr (Option.some_ne_none _))

theorem munch_ne_none (h : t ∈ m.candidates blanks) (hn : t.munch? cs = some n) :
    m.munch blanks cs ≠ none := by
  refine foldl_longer_isSome (Or.inl ?_)
  have hmem : (t, n) ∈ (m.candidates blanks).filterMap fun t => (t.munch? cs).map (t, ·) :=
    List.mem_filterMap.mpr ⟨t, h, by rw [hn]; rfl⟩
  exact List.ne_nil_of_mem hmem

/-- A value that can be read where every value may stand can be read where it may stand. -/
theorem read_of_everything {valid : ValueSet} (h : anything.values.read cs = some (t, n))
    (ht : t = Symbol.string ∧ valid.string = true ∨ t = Symbol.number ∧ valid.number = true ∨
      t = Symbol.bareword ∧ valid.bareword = true) : valid.read cs ≠ none := by
  have heverything : anything.values = .everything := by decide +kernel
  rw [heverything] at h
  unfold ValueSet.read at h ⊢
  dsimp only at h ⊢
  by_cases hquote : (cs.head? == some '\'' || cs.head? == some '"') = true
  · rw [if_pos (by rw [hquote]; rfl)] at h
    obtain ⟨k, hk, he⟩ := Option.map_eq_some_iff.mp h
    obtain ⟨rfl, rfl⟩ := Prod.mk.inj he
    have hstring : valid.string = true := by
      rcases ht with ⟨-, hs⟩ | ⟨hs, -⟩ | ⟨hs, -⟩
      · exact hs
      · cases hs
      · cases hs
    rw [if_pos (by rw [hquote, hstring]; rfl), hk]
    exact Option.some_ne_none _
  · have hno : ∀ b : Bool, ¬ ((cs.head? == some '\'' || cs.head? == some '"') && b) = true := fun b hb =>
      hquote (Bool.and_eq_true_iff.mp hb).1
    rw [if_neg (hno _), if_neg (by decide)] at h
    rw [if_neg (hno _)]
    split at h
    · rename_i hfirst
      have hfirst : cs.head?.any (fun c => c.isDigit || c == '.') = true := hfirst
      obtain ⟨k, hk, he⟩ := Option.map_eq_some_iff.mp h
      obtain ⟨rfl, rfl⟩ := Prod.mk.inj he
      have hnumber : valid.number = true := by
        rcases ht with ⟨hs, -⟩ | ⟨-, hs⟩ | ⟨hs, -⟩
        · cases hs
        · exact hs
        · cases hs
      split
      · obtain ⟨c, cs, rfl⟩ : ∃ c ds, cs = c :: ds := by
          cases cs with
          | nil => cases hfirst
          | cons c cs => exact ⟨c, cs, rfl⟩
        exact Value.word?_of_number (by simpa using hfirst) hk
      · rw [if_pos (by rw [hnumber, hfirst]; rfl), hk]
        exact Option.some_ne_none _
    · cases h

/-- A mode that has the token that is read among all tokens reads something. -/
theorem token?_of_has (hm : m.Plain) (h : anything.token? blanks cs = some (t, n))
    (hhas : m.has t = true) : m.token? blanks cs ≠ none := by
  have hvalue : m.values.read cs ≠ none → m.token? blanks cs ≠ none := by
    intro hne
    obtain ⟨v, hv⟩ := Option.ne_none_iff_exists'.mp hne
    rw [token?, hv]
    exact Option.some_ne_none v
  have htokens : Symbol.string ≤ t → t ∉ m.tokens := fun hle ht =>
    absurd (hm t ht) (Nat.not_lt_of_le hle)
  rw [token?] at h
  cases hv : anything.values.read cs with
  | some v =>
    rw [hv] at h
    cases h
    exact hvalue (read_of_everything hv ((has_iff.mp hhas).resolve_left
      (htokens (Lexeme.value_symbol hv).1)))
  | none =>
    rw [hv, Option.orElse_none] at h
    obtain ⟨hmem, hmunch⟩ := munch_mem h
    have ht := plain_anything t (mem_tokens_of_candidates hmem)
    have htm : t ∈ m.tokens := (has_iff.mp hhas).resolve_right fun hor => by
      have hle : Symbol.string ≤ t := by
        rcases hor with ⟨rfl, -⟩ | ⟨rfl, -⟩ | ⟨rfl, -⟩ <;> decide
      exact absurd ht (Nat.not_lt_of_le hle)
    have hcand : t ∈ m.candidates blanks := by
      unfold candidates at hmem ⊢
      split
      · exact htm
      · rename_i hb
        rw [if_neg hb] at hmem
        exact List.mem_filter.mpr ⟨htm, (List.mem_filter.mp hmem).2⟩
    rw [token?]
    cases m.values.read cs with
    | some v => exact Option.some_ne_none v
    | none => exact munch_ne_none hcand hmunch

/-- A leaf that its mode has was read in it. -/
theorem read_of_has {atStart : Bool} {l : Leaf} (hm : m.Plain) (hl : m.next atStart cs = l)
    (hhas : m.has l.symbol = true) : ∃ r, m.read atStart cs = some r ∧ l = leafOf cs r := by
  subst hl
  cases hr : m.read atStart cs with
  | some r => exact ⟨r, rfl, by rw [next, hr]⟩
  | none =>
    exfalso
    cases hr' : anything.read atStart cs with
    | some r =>
      have hl : m.next atStart cs = leafOf cs r := by
        rw [next, hr]
        dsimp only
        rw [hr']
      rw [hl] at hhas
      refine token?_of_has hm (read_some hr').2 hhas ?_
      rw [read_eq, Option.map_eq_none_iff] at hr
      exact hr
    | none =>
      have hl : m.next atStart cs = unreadableLeaf atStart cs := by
        rw [next, hr]
        dsimp only
        rw [hr']
      rw [hl] at hhas
      have herror : m.has Symbol.error = true := hhas
      rcases has_iff.mp herror with ht | ⟨ht, -⟩ | ⟨ht, -⟩ | ⟨ht, -⟩
      · exact absurd (hm _ ht) (by decide)
      · cases ht
      · cases ht
      · cases ht

/-- Where a single point is a token, a range is one as well, or words are read there. -/
theorem points_checked : ∀ m ∈ table.toList, (m.values.bareword && !m.values.recovering) = true ∨
    (∀ t ∈ m.tokens, t.text ≠ ['.']) ∨ ∃ t ∈ m.tokens, t.IsLiteral ∧ t.text = ['.', '.'] := by
  decide +kernel

/-- Of two points the first one alone is no token. -/
theorem token?_points (hmem : m ∈ table.toList) (hm : m.Plain) {r : List Char} :
    m.token? blanks ('.' :: '.' :: r) ≠ some (t, 1) := by
  intro h
  have hword : ('.' :: '.' :: r).takeWhile Value.isWordChar =
      '.' :: '.' :: r.takeWhile Value.isWordChar := rfl
  have hlong : ∀ v, Value.word? ('.' :: '.' :: r) ≠ some (v, 1) := by
    intro v hv
    unfold Value.word? at hv
    dsimp only at hv
    rw [hword, if_neg (by simp)] at hv
    split at hv
    · simp at hv
    · split at hv
      · cases hv
      · simp at hv
  have hsome : Value.word? ('.' :: '.' :: r) ≠ none := by
    intro hnone
    obtain ⟨-, hpoint, -⟩ := ValueSet.words_checked _
      (ValueSet.mem_of_word_none (by rw [hword]; exact List.cons_ne_nil _ _) hnone)
    rw [hword] at hpoint
    cases (List.cons.inj (hpoint rfl)).2
  have hnumber : Value.number? ('.' :: '.' :: r) = none := by
    rw [Value.number?_eq]
    exact Value.numberFrom_zero (Or.inr rfl)
  have hread : m.values.read ('.' :: '.' :: r) =
      if m.values.bareword && !m.values.recovering then Value.word? ('.' :: '.' :: r) else none := by
    unfold ValueSet.read
    dsimp only
    rw [if_neg (by simp), hnumber]
    split
    · rfl
    · split <;> rfl
  rw [token?, hread] at h
  split at h
  · obtain ⟨⟨v, n⟩, hv⟩ := Option.ne_none_iff_exists'.mp hsome
    rw [hv] at h
    cases h
    exact hlong _ hv
  · rename_i hb
    obtain ⟨hcand, hmunch⟩ := munch_mem h
    have ht := mem_tokens_of_candidates hcand
    have htext : t.text = ['.'] := by
      have hlex : Lexeme t ['.'] := (Lexeme.munch_some (hm t ht) hmunch).1
      rcases Symbol.fixed_cases (hm t ht) with rfl | rfl | rfl | rfl | hlit
      · cases (hlex : ['.'] = [])
      · obtain ⟨body, -, hb⟩ | ⟨body, -, hb⟩ : Lexeme.Comment ['.'] := hlex <;> cases hb
      · obtain ⟨c, cs, hc, hfirst, -⟩ : Lexeme.Name ['.'] := hlex
        obtain ⟨rfl, -⟩ := List.cons.inj hc
        cases hfirst
      · exact absurd (Symbol.suffixes_checked _ hlex).2.1 (by decide)
      · exact Symbol.text_of_lexeme hlit hlex
    obtain ⟨u, hu, hlit, hrange⟩ :=
      ((points_checked m hmem).resolve_left hb).resolve_left fun hno => hno t ht htext
    have htwo : u.munch? ('.' :: '.' :: r) = some 2 := by
      rw [Symbol.munch?_literal hlit, hrange]
      rfl
    exact absurd (le_of_munch h (mem_candidates hu hlit.2.2.2.2 blanks) htwo) (by decide)

end Mode

theorem Lexeme.first_ne_mark {t : Symbol} {w : List Char} (ht : t ≤ Symbol.bareword)
    (h : Lexeme t w) : ∀ c ∈ w.head?, c ≠ byteOrderMark := by
  by_cases hfixed : t < Symbol.string
  · exact fun c hc => (Symbol.first_of_lexeme hfixed h c hc).1
  have hcases : t = Symbol.string ∨ t = Symbol.number ∨ t = Symbol.bareword := by
    rcases Nat.lt_or_eq_of_le ht with hlt | h
    · rcases Nat.lt_or_eq_of_le (Nat.le_of_lt_succ hlt : t ≤ Symbol.number) with hlt | h
      · exact Or.inl (Nat.le_antisymm (Nat.le_of_lt_succ hlt) (Nat.le_of_not_lt hfixed))
      · exact Or.inr (Or.inl h)
    · exact Or.inr (Or.inr h)
  rcases hcases with rfl | rfl | rfl
  · obtain ⟨quote, body, hq, rfl⟩ : Lexeme.Quoted w := h
    rintro c ⟨⟩
    rcases hq with rfl | rfl <;> decide
  · obtain ⟨sign, u, hs, hu, rfl⟩ : Lexeme.Number w := h
    obtain ⟨c, cs, rfl, hc⟩ := Value.unsigned_first hu
    rcases hs with rfl | rfl | rfl
    · rintro d ⟨⟩ rfl
      rcases hc with hc | hc <;> revert hc <;> decide
    · rintro d ⟨⟩
      decide
    · rintro d ⟨⟩
      decide
  · obtain ⟨-, hw, -⟩ : Lexeme.Bareword w := h
    rintro c hc rfl
    exact absurd (hw _ (List.mem_of_head? hc)) (by decide)

namespace Mode

/-- The blanks in a gap are those that a suffix may not have before it. -/
theorem countP_gap (atStart : Bool) (cs : List Char) :
    (cs.take (gapLength atStart cs)).countP isBlank = blanksBefore atStart cs := by
  have hblank := blanks_take (cs.drop (markLength atStart cs))
  have hmark : (cs.take (markLength atStart cs)).countP isBlank = 0 := by
    unfold markLength
    split
    · rename_i h
      simp only [Bool.and_eq_true, beq_iff_eq] at h
      obtain ⟨v, rfl⟩ := List.head?_eq_some_iff.mp h.2
      change [byteOrderMark].countP isBlank = 0
      decide
    · rfl
  rw [gapLength, List.take_add, List.countP_append, hmark, List.countP_eq_length.mpr hblank,
    List.length_take, Nat.min_eq_left (blankLength_le _), Nat.zero_add]
  rfl

theorem first_behind_gap (atStart : Bool) (cs : List Char) :
    ∀ c ∈ (cs.drop (gapLength atStart cs)).head?, isBlank c = false := by
  rw [gapLength, ← List.drop_drop]
  generalize cs.drop (markLength atStart cs) = ds
  intro c hc
  rw [blankLength, Lexeme.drop_length_takeWhile] at hc
  have hne := List.head?_dropWhile_not isBlank ds
  rw [hc] at hne
  simpa using hne

end Mode

namespace Straight

open Automaton (State action? mode)

variable {source source' : List Char} {fs fs' gs : List Frame} {p p' q r : Extent} {l : Leaf}
  {s s' : State} {atStart atStart' : Bool} {g g' w rest rest' : List Char} {ls : List (Extent × Leaf)} {t : Tree}

/-- A leaf that a state reads as a token: the gap before it, its text and what follows. -/
structure Legible (s : State) (atStart : Bool) (l : Leaf) (g w rest : List Char) : Prop where
  leaf : l = ⟨l.symbol, Extent.ofChars g, Extent.ofChars w, false, .read⟩
  gap : Gap atStart g
  first : ∃ c ∈ w.head?, isBlank c = false ∧ c ≠ byteOrderMark
  lexeme : Lexeme l.symbol w
  read : (mode s).token? (g.countP isBlank) (w ++ rest) = some (l.symbol, w.length)

/-- A leaf that a parser sees and can do something with. -/
structure Sighted (source : List Char) (fs : List Frame) (p : Extent) (l : Leaf)
    (g w rest : List Char) : Prop extends Legible (stateOf fs) (p.chars == 0) l g w rest where
  text : source.drop p.chars = g ++ (w ++ rest)

/-- What follows the leaf. -/
theorem Sighted.drop_total (h : Sighted source fs p l g w rest) :
    source.drop (p + (Tree.leaf l).total).chars = rest := by
  have htotal : (p + (Tree.leaf l).total).chars = p.chars + (g ++ w).length := by
    rw [h.leaf, Tree.chars_add, List.length_append]
    change p.chars + ((Extent.ofChars g).chars + (Extent.ofChars w).chars) = _
    rw [Extent.chars_ofChars, Extent.chars_ofChars]
  rw [htotal, ← List.drop_drop, h.text, ← List.append_assoc, List.drop_left]

theorem Standing.sighted {a : Automaton.Action} (h : Standing source fs p)
    (hl : Straight.sight source fs p = l) (ha : action? (stateOf fs) l.symbol = some a)
    (hne : l.symbol ≠ Symbol.endOfText) : ∃ g w rest, Sighted source fs p l g w rest := by
  have hnext : (mode (stateOf fs)).next (p.bytes == 0) (source.drop p.chars) = l := hl
  obtain ⟨r, hr, hleaf⟩ := Mode.read_of_has (Mode.plain_mode _) hnext
    (Automaton.has_of_action ha h.going)
  have hsound := Mode.read_sound (Mode.plain_mode _) hr
  obtain ⟨hskip, hread⟩ := Mode.read_some hr
  have hsymbol : l.symbol = r.symbol := by rw [hleaf]; rfl
  have hlex := hsound.lexeme
  have hlen : (((source.drop p.chars).drop r.skipped).take r.length).length = r.length := by
    have := hsound.bound
    rw [List.length_take, List.length_drop]
    omega
  have hwne : ((source.drop p.chars).drop r.skipped).take r.length ≠ [] :=
    hlex.ne_nil hsound.symbol (hsymbol ▸ hne)
  refine ⟨(source.drop p.chars).take r.skipped, ((source.drop p.chars).drop r.skipped).take r.length,
    ((source.drop p.chars).drop r.skipped).drop r.length, ⟨?_, ?_, ?_, ?_, ?_⟩, ?_⟩
  · have hend : (r.symbol == Symbol.endOfText) = false := beq_eq_false_iff_ne.mpr (hsymbol ▸ hne)
    rw [hleaf, Mode.leafOf, hend]
  · rw [← h.stacked.isPlace.atStart]
    exact hsound.gap
  · obtain ⟨c, v, hv⟩ := List.exists_cons_of_ne_nil hwne
    refine ⟨c, by rw [hv]; rfl, ?_, hlex.first_ne_mark hsound.symbol c (by rw [hv]; rfl)⟩
    refine Mode.first_behind_gap (p.bytes == 0) (source.drop p.chars) c ?_
    rw [← hskip, ← List.take_append_drop r.length (List.drop r.skipped _), hv]
    rfl
  · rw [hsymbol]
    exact hlex
  · rw [List.take_append_drop, hskip, Mode.countP_gap, ← hskip, hlen, hsymbol, hskip]
    exact hread
  · rw [List.take_append_drop, List.take_append_drop]

theorem Legible.ne_nil (h : Legible s atStart l g w rest) : w ≠ [] := by
  rintro rfl
  obtain ⟨c, hc, -⟩ := h.first
  exact absurd hc (Option.not_mem_none _)

theorem Legible.ne_endOfText (h : Legible s atStart l g w rest) : l.symbol ≠ Symbol.endOfText := by
  intro hend
  have hlex := h.lexeme
  rw [hend] at hlex
  exact h.ne_nil hlex

/-- What one state reads as a token another one reads behind another gap, if it reads there in the same
way. -/
theorem Legible.again (h : Legible s atStart l g w rest) (hgap : Gap atStart' g')
    (hc : (mode s).Context (mode s') (g.countP isBlank) (g'.countP isBlank) l.symbol w rest rest') :
    Legible s' atStart' { l with padding := Extent.ofChars g' } g' w rest' :=
  ⟨by rw [h.leaf], hgap, h.first, h.lexeme,
    Mode.token?_follows hc (Mode.plain_mode _) (Mode.plain_mode _) h.ne_nil h.read⟩

/-- A token that stands where the parser reads is seen. -/
theorem Legible.sight (h : Legible (stateOf fs) (p.chars == 0) l g w rest)
    (htext : source.drop p.chars = g ++ (w ++ rest)) (hp : (p.bytes == 0) = (p.chars == 0)) :
    sight source fs p = l := by
  have hnext := Mode.next_read h.first h.gap h.read
  rw [beq_eq_false_iff_ne.mpr h.ne_endOfText, ← h.leaf, ← htext, ← hp] at hnext
  exact hnext

/-- What one parser sees another one sees in another text, if it reads there in the same way. -/
theorem Sighted.again (h : Sighted source fs p l g w rest) (hp : IsPlace source' p')
    (htext : source'.drop p'.chars = g' ++ (w ++ rest')) (hgap : Gap (p'.chars == 0) g')
    (hc : (mode (stateOf fs)).Context (mode (stateOf fs')) (g.countP isBlank) (g'.countP isBlank)
      l.symbol w rest rest') :
    Straight.sight source' fs' p' = { l with padding := Extent.ofChars g' } :=
  (h.toLegible.again hgap hc).sight htext hp.atStart

theorem Reduces.acts {x : Symbol} {b : Automaton.Action} (h : Reduces x fs gs)
    (hb : action? (stateOf gs) x = some b) : ∃ a, action? (stateOf fs) x = some a := by
  cases h with
  | refl => exact ⟨b, hb⟩
  | step ha _ _ => exact ⟨_, ha⟩

theorem Takes.acts (h : Takes l fs gs) :
    (∃ a, action? (stateOf fs) l.symbol = some a) ∧ l.symbol ≠ Symbol.endOfText := by
  cases h with
  | token hr ha => exact ⟨hr.acts ha, ne_endOfText_of_successor (successor_of_action ha).1⟩
  | comment ha =>
    refine ⟨⟨_, ha⟩, ?_⟩
    rw [shiftExtra_of_action ha]
    decide

/-- A parser that has not come to the end of a run can do something with what it sees. -/
theorem Run.acts (h : Run source fs p ls gs q) (ha : Accepts source gs q t) :
    ∃ a, action? (stateOf fs) (sight source fs p).symbol = some a := by
  cases h with
  | nil =>
    obtain ⟨hs, hred, hacc, -⟩ := ha.accepted
    rw [ha.ended]
    exact hred.acts hacc
  | cons hl h _ =>
    rw [hl]
    exact h.acts.1

/-- What was done before and after a leaf. -/
theorem Run.split (h : Run source fs p ls gs q) {m : Extent × Leaf} (hm : m ∈ ls) :
    ∃ before after hs is, ls = before ++ m :: after ∧ Run source fs p before hs m.1 ∧
      sight source hs m.1 = m.2 ∧ Takes m.2 hs is ∧
        Run source is (m.1 + (Tree.leaf m.2).total) after gs q := by
  induction h with
  | nil => exact absurd hm List.not_mem_nil
  | @cons fs gs hs p q l ls hl h hr ih =>
    rcases List.mem_cons.mp hm with rfl | hm
    · exact ⟨[], ls, fs, gs, rfl, .nil _ _, hl, h, hr⟩
    · obtain ⟨before, after, is, js, rfl, hbefore, hafter⟩ := ih hm
      exact ⟨(p, l) :: before, after, is, js, rfl, .cons hl h hbefore, hafter⟩

theorem Gap.eq_nil {atStart : Bool} {c : Char} {x y : List Char} (h : Gap atStart g)
    (hx : g ++ x = c :: y) (hc : isBlank c = false) (hm : c ≠ byteOrderMark) : g = [] := by
  cases g with
  | nil => rfl
  | cons d g =>
    obtain ⟨rfl, -⟩ := List.cons.inj hx
    rcases h with h | ⟨-, v, hv, -⟩
    · rw [h d List.mem_cons_self] at hc
      cases hc
    · exact absurd (List.cons.inj hv).1 hm

/-- The end of the text is seen only behind a gap. -/
theorem Standing.gap_of_end (h : Standing source fs p)
    (hl : (sight source fs p).symbol = Symbol.endOfText) :
    Gap (p.chars == 0) (source.drop p.chars) := by
  have hnext := h.isNext
  obtain ⟨hsize, hends⟩ := hnext.ended hl
  have hgap := hnext.fits.gap
  have hb : (sight source fs p).begins p.chars = source.length := by
    rw [← hends, Leaf.ends, hsize]
    rfl
  rwa [hb, slice, ← List.length_drop, List.take_length] at hgap

/-- The end of the text is seen behind a gap. -/
theorem sight_end {source : List Char} (hg : Gap (p.bytes == 0) (source.drop p.chars)) :
    sight source fs p = ⟨Symbol.endOfText, Extent.ofChars (source.drop p.chars), 0, true, .read⟩ := by
  have hhas := (Automaton.has_everywhere (stateOf fs)).2
  have htokens : Symbol.endOfText ∈ (mode (stateOf fs)).tokens := by
    rcases Mode.has_iff.mp hhas with ht | ⟨ht, -⟩ | ⟨ht, -⟩ | ⟨ht, -⟩
    · exact ht
    · cases ht
    · cases ht
    · cases ht
  exact Mode.next_end (Mode.plain_mode _) htokens hg

/-- A parser that can do something where there is no gap sees a token there. -/
theorem Standing.sighted_here {a : Automaton.Action} {c : Char} {y : List Char}
    (h : Standing source fs p) (hy : source.drop p.chars = c :: y) (hc : isBlank c = false)
    (hm : c ≠ byteOrderMark) (ha : action? (stateOf fs) (sight source fs p).symbol = some a) :
    (sight source fs p).symbol ≠ Symbol.endOfText ∧
      ∃ w rest, Sighted source fs p (sight source fs p) [] w rest ∧ w.head? = some c := by
  have hne : (sight source fs p).symbol ≠ Symbol.endOfText := by
    intro hend
    have hgap := h.gap_of_end hend
    have hnil := Gap.eq_nil hgap (by rw [List.append_nil]; exact hy) hc hm
    rw [hnil] at hy
    cases hy
  obtain ⟨g, w, rest, hs⟩ := h.sighted rfl ha hne
  have hg := Gap.eq_nil hs.gap (hs.text.symm.trans hy) hc hm
  subst hg
  refine ⟨hne, w, rest, hs, ?_⟩
  obtain ⟨d, hd, -⟩ := hs.first
  obtain ⟨v, rfl⟩ := List.head?_eq_some_iff.mp hd
  have htext := hs.text
  rw [hy] at htext
  rw [(List.cons.inj htext).1]
  rfl

/-- A single point is not followed by another one. -/
theorem Legible.not_point (h : Legible s atStart l g ['.'] rest) : rest.head? ≠ some '.' := by
  intro hrest
  obtain ⟨r, rfl⟩ := List.head?_eq_some_iff.mp hrest
  exact Mode.token?_points (Automaton.mode_mem _) (Mode.plain_mode _) h.read

/-- What begins like no value has fixed form. -/
theorem Legible.fixed (h : Legible s atStart l g w rest) {c : Char} (hw : w.head? = some c)
    (hc : Value.isWordChar c = false) (hq : c ≠ '\'' ∧ c ≠ '"') : l.symbol < Symbol.string := by
  obtain ⟨v, rfl⟩ := List.head?_eq_some_iff.mp hw
  have hread := h.read
  rw [Mode.token?, List.cons_append, ValueSet.read_eq_none hc hq, Option.orElse_none] at hread
  exact Mode.plain_mode _ _ (Mode.mem_tokens_of_candidates (Mode.munch_mem hread).1)

/-- A token of fixed form is one of those that its mode has there. -/
theorem Legible.candidate (h : Legible s atStart l g w rest) (hl : l.symbol < Symbol.string) :
    l.symbol ∈ (mode s).candidates (g.countP isBlank) := by
  have hread := h.read
  rw [Mode.token?] at hread
  cases hv : (mode s).values.read (w ++ rest) with
  | some v =>
    rw [hv] at hread
    cases hread
    exact absurd (Lexeme.value_symbol hv).1 (Nat.not_le_of_lt hl)
  | none =>
    rw [hv, Option.orElse_none] at hread
    exact (Mode.munch_mem hread).1

/-- A comment up to the end of the line is a comment, and is followed by that. -/
theorem Legible.line (h : Legible s atStart l g w rest) (hw : w.head? = some '#') :
    l.symbol = Symbol.comment ∧ ∀ c ∈ rest.head?, c = '\n' ∨ c = '\x00' := by
  obtain ⟨v, rfl⟩ := List.head?_eq_some_iff.mp hw
  have hcomment := Symbol.eq_comment (h.fixed rfl (by decide) (by decide)) h.lexeme rfl
  refine ⟨hcomment, Symbol.comment?_stops (v := v) ?_⟩
  have hread := h.read
  rw [Mode.token?, List.cons_append, ValueSet.read_eq_none (by decide) (by decide),
    Option.orElse_none, hcomment] at hread
  exact (Mode.munch_mem hread).2

/-- A slash is not followed by a star. -/
theorem Sighted.not_star (h : Sighted source fs p l g ['/'] rest) (hs : Standing source fs p)
    (hl : sight source fs p = l) (ht : Takes l fs gs) (hr : Run source gs (p + (Tree.leaf l).total) ls fs' q)
    (ha : Accepts source fs' q t) : rest.head? ≠ some '*' := by
  intro hrest
  obtain ⟨r, rfl⟩ := List.head?_eq_some_iff.mp hrest
  have hslash : l.symbol = Automaton.slash :=
    Symbol.eq_slash (h.fixed rfl (by decide) (by decide)) h.lexeme
  have hstanding := hs.takes (hl ▸ hs.isNext) ht
  have htext : source.drop (p + (Tree.leaf l).total).chars = '*' :: r := h.drop_total
  cases ht with
  | comment hc =>
    rw [shiftExtra_of_action hc] at hslash
    cases hslash
  | @token hs u hred hu =>
    obtain ⟨a, hact⟩ := hr.acts ha
    obtain ⟨hne, w, rest, hnext, hw⟩ := hstanding.sighted_here htext (by decide) (by decide) hact
    rcases Symbol.eq_star (hnext.fixed hw (by decide) (by decide)) hnext.lexeme hw with hstar | hstar
    · exact (Automaton.not_star_of_slash (hslash ▸ (successor_of_action hu).1) hact hstanding.going).1 hstar
    · exact (Automaton.not_star_of_slash (hslash ▸ (successor_of_action hu).1) hact hstanding.going).2 hstar

end Straight

end MathProg
