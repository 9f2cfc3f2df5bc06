import MathProg.Proofs.Automaton.Modes
import MathProg.Proofs.Lexing.Context

/-!
# Texts that are written in words

The words of a model stand one behind the other, with blanks between them where they would run into
each other otherwise. Each one is the longest that can be read at its place among all that a model may
hold, so a name is no keyword. A state that has a use for such a word reads it, and nothing else.
-/

namespace MathProg

/-- A token with its text. -/
structure Word where
  symbol : Symbol
  text : List Char
  deriving DecidableEq, Repr

namespace Mode

/-- Reads all that a model may hold: the arrow of a table and two tokens of the data section are left
out. -/
def model : Mode := ⟨.stringOrNumber, (List.range 111).filter fun t => t ∉ [0, 44, 53, 54]⟩

example : [44, 53, 54].map Symbol.name = ["<-", ".", "(tr)"] := by decide +kernel

/-- A mode that reads nothing but what a model may hold. -/
def ReadsModel (m : Mode) : Prop :=
  m.values.bareword = false ∧ m.values.recovering = false ∧
    ∀ t ∈ m.tokens, t = Symbol.endOfText ∨ t ∈ model.tokens

instance (m : Mode) : Decidable m.ReadsModel := inferInstanceAs (Decidable (_ ∧ _ ∧ _))

theorem plain_model : model.Plain := by unfold Plain; decide

theorem visible_model : ∀ t ∈ Symbol.string :: Symbol.number :: model.tokens,
    Symbol.isVisible t = true ∧ t ≠ Symbol.endOfText := by
  decide +kernel

variable {m : Mode} {blanks n : Nat} {cs : List Char} {t : Symbol}

/-- What is read of a model is a value or a token of fixed form. -/
theorem mem_of_model (h : model.token? blanks cs = some (t, n)) :
    t ∈ Symbol.string :: Symbol.number :: model.tokens := by
  rw [token?] at h
  cases hv : model.values.read cs with
  | some v =>
    rw [hv] at h
    cases h
    simp only [ValueSet.read] at hv
    split at hv
    · obtain ⟨k, -, he⟩ := Option.map_eq_some_iff.mp hv
      cases he
      exact List.mem_cons_self
    · split at hv
      · rename_i hwords
        exact absurd hwords (by decide)
      · split at hv
        · obtain ⟨k, -, he⟩ := Option.map_eq_some_iff.mp hv
          cases he
          exact List.mem_cons_of_mem _ List.mem_cons_self
        · cases hv
  | none =>
    rw [hv] at h
    have hmem := mem_tokens_of_candidates (munch_mem h).1
    exact List.mem_cons_of_mem _ (List.mem_cons_of_mem _ hmem)

/-- A value of the model is read wherever it is asked for. -/
theorem read_of_model (hm : m.ReadsModel) (hv : model.values.read cs = some (t, n))
    (ht : t = Symbol.string ∧ m.values.string = true ∨
      t = Symbol.number ∧ m.values.number = true) :
    m.values.read cs = some (t, n) := by
  obtain ⟨hword, hrecovering, -⟩ := hm
  simp only [ValueSet.read, hword, hrecovering, Bool.or_false, Bool.false_and,
    Bool.false_eq_true, if_false] at hv ⊢
  split at hv
  · -- a string
    rename_i hquote
    obtain ⟨k, hk, he⟩ := Option.map_eq_some_iff.mp hv
    cases he
    obtain ⟨-, hstring⟩ : Symbol.string = Symbol.string ∧ m.values.string = true :=
      ht.resolve_right fun h => absurd h.1 (by decide)
    simp only [Bool.and_eq_true] at hquote
    rw [if_pos (by simp [hquote.1, hstring]), hk]
    rfl
  · rename_i hquote
    split at hv
    · rename_i hwords
      exact absurd hwords (by decide)
    · split at hv
      · -- a number
        rename_i hfirst
        obtain ⟨k, hk, he⟩ := Option.map_eq_some_iff.mp hv
        cases he
        obtain ⟨-, hnumber⟩ : Symbol.number = Symbol.number ∧ m.values.number = true :=
          ht.resolve_left fun h => absurd h.1 (by decide)
        have hnone : ¬ ((cs.head? == some '\'' || cs.head? == some '"') && m.values.string) = true := by
          intro h
          apply hquote
          rw [(Bool.and_eq_true_iff.mp h).1]
          decide
        simp only [Bool.and_eq_true] at hfirst
        rw [if_neg hnone, if_pos (by simp [hnumber, hfirst.2]), hk]
        rfl
      · cases hv

/-- Where the model has no value, no value is read. -/
theorem read_none_of_model (hm : m.ReadsModel) (hv : model.values.read cs = none) :
    m.values.read cs = none := by
  obtain ⟨hword, hrecovering, -⟩ := hm
  cases hread : m.values.read cs with
  | none => rfl
  | some v =>
    simp only [ValueSet.read, hword, hrecovering, Bool.or_false, Bool.false_and,
      Bool.false_eq_true, if_false] at hread
    rw [ValueSet.read] at hv
    split at hread
    · rename_i hquote
      obtain ⟨k, hk, -⟩ := Option.map_eq_some_iff.mp hread
      rw [if_pos (by rw [(Bool.and_eq_true_iff.mp hquote).1]; decide), hk] at hv
      cases hv
    · split at hread
      · rename_i hfirst
        obtain ⟨k, hk, -⟩ := Option.map_eq_some_iff.mp hread
        have hdigit := (Bool.and_eq_true_iff.mp hfirst).2
        have hnone : ¬ ((cs.head? == some '\'' || cs.head? == some '"') &&
            (model.values.string || model.values.recovering)) = true := by
          -- neither quote is a digit or a point
          intro h
          obtain ⟨c, hc, hd⟩ := (Option.any_eq_true _ _).mp hdigit
          rw [hc] at h
          simp only [Option.some_beq_some, Bool.and_eq_true, Bool.or_eq_true, beq_iff_eq] at h
          rcases h.1 with rfl | rfl <;> exact absurd hd (by decide)
        have hnumber : ((model.values.number || model.values.recovering) &&
            cs.head?.any fun c => c.isDigit || c == '.') = true := by
          rw [hdigit]
          decide
        rw [if_neg hnone, if_neg (by decide), if_pos hnumber, hk] at hv
        cases hv
      · cases hread

/-- A token may stand behind blanks in every mode or in none. -/
theorem mem_candidates_of_model {u : Symbol} (hu : u ∈ m.tokens) (h : u ∈ model.candidates blanks) :
    u ∈ m.candidates blanks := by
  unfold candidates at h ⊢
  split
  · exact hu
  · rename_i hzero
    rw [if_neg hzero] at h
    exact List.mem_filter.mpr ⟨hu, (List.mem_filter.mp h).2⟩

theorem candidates_model (hm : m.ReadsModel) {u : Symbol} (hu : u ∈ m.candidates blanks) :
    u = Symbol.endOfText ∨ u ∈ model.candidates blanks := by
  refine (hm.2.2 u (mem_tokens_of_candidates hu)).imp_right fun hmodel => ?_
  unfold candidates at hu ⊢
  split
  · exact hmodel
  · rename_i hzero
    rw [if_neg hzero] at hu
    exact List.mem_filter.mpr ⟨hmodel, (List.mem_filter.mp hu).2⟩

/-- The longest token of the model is the longest one of a mode that has it. -/
theorem munch_of_model (hm : m.ReadsModel) (ht : t ∈ m.tokens) (hpos : n ≠ 0)
    (h : model.munch blanks cs = some (t, n)) : m.munch blanks cs = some (t, n) := by
  obtain ⟨hcandidate, hlength⟩ := munch_mem h
  refine munch_eq (mem_candidates_of_model ht hcandidate) hlength fun u hu k hk => ?_
  rcases candidates_model hm hu with rfl | hmodel
  · -- the end of the text takes nothing
    obtain ⟨hlex, hkle⟩ := Lexeme.munch_some (by decide) hk
    have hnil : cs.take k = [] := hlex
    have hlen := congrArg List.length hnil
    rw [List.length_take_of_le hkle] at hlen
    have hlt : k < n := Nat.lt_of_le_of_lt (Nat.le_of_eq hlen) (Nat.pos_of_ne_zero hpos)
    exact Or.inr (Or.inl hlt)
  · rcases Nat.lt_or_eq_of_le (le_of_munch h hmodel hk) with hlt | rfl
    · exact Or.inr (Or.inl hlt)
    · rcases eq_or_name_of_munch plain_model h hpos hmodel hk with rfl | ⟨hname, hother⟩
      · exact Or.inl rfl
      · exact Or.inr (Or.inr ⟨rfl, hname, hother⟩)

/-- What is read among all that a model may hold is read in every mode that has a use for it. -/
theorem token?_of_model (hm : m.ReadsModel) (hplain : m.Plain) (ht : m.has t = true)
    (h : model.token? blanks cs = some (t, n)) : m.token? blanks cs = some (t, n) := by
  obtain ⟨⟨hlexeme, hle⟩, -, hbound, -⟩ := token_lexeme plain_model h
  have hpos : n ≠ 0 := by
    intro hn
    have hne := hlexeme.ne_nil hbound (visible_model t (mem_of_model h)).2
    rw [hn] at hne
    exact hne List.take_zero
  rw [has_iff] at ht
  rw [token?] at h ⊢
  cases hv : model.values.read cs with
  | some v =>
    rw [hv] at h
    cases h
    have hasked : t = Symbol.string ∧ m.values.string = true ∨
        t = Symbol.number ∧ m.values.number = true := by
      rcases ht with hmem | hstring | hnumber | hword
      · have hge := (Lexeme.value_symbol hv).1
        exact absurd (hplain t hmem) (Nat.not_lt_of_le hge)
      · exact Or.inl hstring
      · exact Or.inr hnumber
      · rw [hm.1] at hword
        exact absurd hword.2 Bool.false_ne_true
    rw [read_of_model hm hv hasked]
    rfl
  | none =>
    rw [hv] at h
    rw [read_none_of_model hm hv]
    have hmunch : model.munch blanks cs = some (t, n) := h
    have hfixed := plain_model t (mem_tokens_of_candidates (munch_mem hmunch).1)
    have hmem : t ∈ m.tokens := by
      rcases ht with hmem | ⟨rfl, -⟩ | ⟨rfl, -⟩ | ⟨rfl, -⟩
      · exact hmem
      all_goals exact absurd hfixed (by decide)
    exact munch_of_model hm hmem hpos hmunch

end Mode

/-- A text that is written in some words. -/
def Writes : List Word → List Char → Prop
  | [], cs => ∀ c ∈ cs, isBlank c = true
  | w :: ws, cs =>
    let body := cs.drop (blankLength cs)
    Mode.model.token? (blankLength cs) body = some (w.symbol, w.text.length) ∧
      body.take w.text.length = w.text ∧ Writes ws (body.drop w.text.length)

instance decidableWrites : ∀ (ws : List Word) (cs : List Char), Decidable (Writes ws cs)
  | [], cs => List.decidableBAll (isBlank · = true) cs
  | w :: ws, cs =>
    have := decidableWrites ws ((cs.drop (blankLength cs)).drop w.text.length)
    inferInstanceAs (Decidable (_ ∧ _ ∧ _))

variable {w : Word} {ws : List Word} {cs : List Char}

/-- Behind the blanks that a text begins with there is no blank. -/
theorem not_blank_behind (cs : List Char) :
    ∀ c ∈ (cs.drop (blankLength cs)).head?, isBlank c = false := by
  induction cs with
  | nil => simp
  | cons d cs ih =>
    unfold blankLength at ih ⊢
    by_cases hd : isBlank d = true
    · rw [List.takeWhile_cons_of_pos hd, List.length_cons, List.drop_succ_cons]
      exact ih
    · rw [List.takeWhile_cons_of_neg hd]
      intro c hc
      cases hc
      exact Bool.not_eq_true _ ▸ hd

/-- The first word of a text, and what is before and behind it. -/
theorem Writes.first (h : Writes (w :: ws) cs) : ∃ g rest, cs = g ++ (w.text ++ rest) ∧
    (∀ c ∈ g, isBlank c = true) ∧ (∀ c ∈ (w.text ++ rest).head?, isBlank c = false) ∧
    Mode.model.token? (g.countP isBlank) (w.text ++ rest) = some (w.symbol, w.text.length) ∧
    Writes ws rest := by
  obtain ⟨htoken, htake, hrest⟩ := h
  have hbody : cs.drop (blankLength cs) =
      w.text ++ (cs.drop (blankLength cs)).drop w.text.length := by
    conv_lhs => rw [← List.take_append_drop w.text.length (cs.drop (blankLength cs)), htake]
  have hblanks : ∀ c ∈ cs.take (blankLength cs), isBlank c = true := Mode.blanks_take cs
  refine ⟨cs.take (blankLength cs), (cs.drop (blankLength cs)).drop w.text.length, ?_, hblanks, ?_, ?_,
    hrest⟩
  · rw [← hbody, List.take_append_drop]
  · rw [← hbody]
    exact not_blank_behind cs
  · rw [List.countP_eq_length.mpr hblanks, List.length_take_of_le (Mode.blankLength_le cs), ← hbody]
    exact htoken

/-- The words of a model are visible. -/
theorem Writes.visible (h : Writes (w :: ws) cs) :
    Symbol.isVisible w.symbol = true ∧ w.symbol ≠ Symbol.endOfText :=
  Mode.visible_model _ (Mode.mem_of_model h.1)

/-- No token of a model begins with a byte order mark. -/
theorem Mode.first_of_model {blanks n : Nat} {t : Symbol}
    (h : Mode.model.token? blanks cs = some (t, n)) :
    ∃ c ∈ cs.head?, c ≠ byteOrderMark := by
  obtain ⟨⟨hlexeme, hle⟩, -, hbound, -⟩ := token_lexeme plain_model h
  have hne := hlexeme.ne_nil hbound (visible_model t (mem_of_model h)).2
  obtain ⟨c, v, hv⟩ := List.exists_cons_of_ne_nil hne
  obtain ⟨tail, htail⟩ := List.take_prefix n cs
  have hcs : cs = c :: (v ++ tail) := by rw [← htail, hv]; rfl
  refine ⟨c, by rw [hcs]; rfl, ?_⟩
  intro hmark
  rw [hmark] at hcs hv
  rw [token?] at h
  cases hr : Mode.model.values.read cs with
  | some u =>
    rw [hcs] at hr
    simp [ValueSet.read, model, ValueSet.stringOrNumber, byteOrderMark] at hr
  | none =>
    rw [hr] at h
    have hfixed := plain_model t (mem_tokens_of_candidates (munch_mem h).1)
    rw [hv] at hlexeme
    exact (Symbol.first_of_lexeme hfixed hlexeme byteOrderMark rfl).1 rfl

/-- A mode that has a use for the first word of a text reads it. -/
theorem Writes.next {m : Mode} (h : Writes (w :: ws) cs) (hm : m.ReadsModel) (hplain : m.Plain)
    (ht : m.has w.symbol = true) (atStart : Bool) :
    ∃ g rest, cs = g ++ (w.text ++ rest) ∧ Writes ws rest ∧
      m.next atStart cs =
        ⟨w.symbol, Extent.ofChars g, Extent.ofChars w.text, false, .read⟩ := by
  obtain ⟨g, rest, hcs, hg, hblank, htoken, hrest⟩ := h.first
  refine ⟨g, rest, hcs, hrest, ?_⟩
  obtain ⟨⟨hlexeme, -⟩, -, hbound, -⟩ := Mode.token_lexeme Mode.plain_model htoken
  rw [List.take_left] at hlexeme
  obtain ⟨c, v, hv⟩ := List.exists_cons_of_ne_nil (hlexeme.ne_nil hbound h.visible.2)
  obtain ⟨d, hd, hmark⟩ := Mode.first_of_model htoken
  have hfirst : ∃ c ∈ w.text.head?, isBlank c = false ∧ c ≠ byteOrderMark := by
    rw [hv] at hd hblank ⊢
    obtain rfl : c = d := Option.some.inj hd
    exact ⟨c, rfl, hblank c rfl, hmark⟩
  rw [hcs, Mode.next_read hfirst (Or.inl hg) (Mode.token?_of_model hm hplain ht htoken),
    beq_eq_false_iff_ne.mpr h.visible.2]

end MathProg
