import MathProg.Proofs.Lexing.Lexeme
import MathProg.Token.Lookahead
import Mathlib.Tactic.ByContra

/-!
# What is read from a text

A reading skips blanks, and at the start of the text perhaps a byte order mark, and then takes one of
the texts of its token. The leaf of text that is no token reaches from the first character that is
not skipped to somewhere behind it.
-/

namespace MathProg

/-- Text that belongs to no token: blanks, and a byte order mark at the start of the text. -/
def Gap (atStart : Bool) (w : List Char) : Prop :=
  (∀ c ∈ w, isBlank c = true) ∨
    atStart = true ∧ ∃ v, w = byteOrderMark :: v ∧ ∀ c ∈ v, isBlank c = true

/-- A reading is sound for a text if it skips a gap and takes a text of its token. A suffix follows
right behind what is before it. -/
structure Reading.Sound (atStart : Bool) (cs : List Char) (r : Reading) : Prop where
  gap : Gap atStart (cs.take r.skipped)
  lexeme : Lexeme r.symbol ((cs.drop r.skipped).take r.length)
  bound : r.skipped + r.length ≤ cs.length
  attached : r.symbol = Symbol.suffix → ∀ c ∈ cs.take r.skipped, isBlank c = false
  symbol : r.symbol ≤ Symbol.bareword
  ended : r.symbol = Symbol.endOfText → r.skipped = cs.length

namespace Mode

/-- All tokens of fixed form in the modes. -/
theorem tokens_lt : ∀ m ∈ table.toList, ∀ t ∈ m.tokens, t < Symbol.string := by decide +kernel

theorem tokens_lt_of_index {i : Nat} {t : Symbol} (h : t ∈ ((table[i]?).getD default).tokens) :
    t < Symbol.string := by
  cases hi : table[i]? with
  | none => rw [hi] at h; cases h
  | some m =>
    rw [hi] at h
    exact tokens_lt m (Array.mem_toList_iff.mpr (Array.mem_of_getElem? hi)) t h

theorem foldl_longer_mem {best : Symbol × Nat} {found : List (Symbol × Nat)}
    {start : Option (Symbol × Nat)}
    (h : found.foldl (fun best f => some (best.elim f (longer · f))) start = some best) :
    best ∈ found ∨ start = some best := by
  induction found generalizing start with
  | nil => exact Or.inr h
  | cons f found ih =>
    rcases ih h with hmem | hstart
    · exact Or.inl (List.mem_cons_of_mem _ hmem)
    · cases start with
      | none => cases hstart; exact Or.inl (List.mem_cons_self)
      | some b =>
        simp only [Option.elim_some, longer, Option.some.injEq] at hstart
        split at hstart
        · subst hstart; exact Or.inl (List.mem_cons_self)
        · subst hstart; exact Or.inr rfl

theorem munch_mem {m : Mode} {blanks : Nat} {cs : List Char} {t : Symbol} {n : Nat}
    (h : m.munch blanks cs = some (t, n)) : t ∈ m.candidates blanks ∧ t.munch? cs = some n := by
  rcases foldl_longer_mem h with hmem | hnone
  · obtain ⟨u, hu, he⟩ := List.mem_filterMap.mp hmem
    obtain ⟨k, hk, he⟩ := Option.map_eq_some_iff.mp he
    cases he
    exact ⟨hu, hk⟩
  · cases hnone

theorem mem_tokens_of_candidates {m : Mode} {blanks : Nat} {t : Symbol} (h : t ∈ m.candidates blanks) :
    t ∈ m.tokens := by
  unfold candidates at h
  split at h
  · exact h
  · exact (List.mem_filter.mp h).1

/-- A mode of the table, or any other one with the same kind of tokens. -/
def Plain (m : Mode) : Prop := ∀ t ∈ m.tokens, t < Symbol.string

theorem plain_mode (s : Automaton.State) : (Automaton.mode s).Plain := fun _ h => tokens_lt_of_index h

theorem plain_anything : anything.Plain := plain_mode _

theorem blanks_take (cs : List Char) : ∀ c ∈ cs.take (blankLength cs), isBlank c = true := by
  unfold blankLength
  rw [Lexeme.take_length_takeWhile]
  intro c hc
  exact List.mem_takeWhile_imp hc

theorem blankLength_le (cs : List Char) : blankLength cs ≤ cs.length := Lexeme.length_takeWhile_le _ _

theorem markLength_le (atStart : Bool) (cs : List Char) : markLength atStart cs ≤ cs.length := by
  unfold markLength
  split
  · rename_i h
    cases cs with
    | nil => simp at h
    | cons c cs => simp
  · exact Nat.zero_le _

/-- What is skipped before a token is a gap. -/
theorem gap_take (atStart : Bool) (cs : List Char) :
    Gap atStart (cs.take (markLength atStart cs + blankLength (cs.drop (markLength atStart cs)))) := by
  have hb := blanks_take (cs.drop (markLength atStart cs))
  rw [Lexeme.take_add_drop]
  generalize (cs.drop (markLength atStart cs)).take _ = w at hb ⊢
  unfold markLength
  split
  · rename_i h
    simp only [Bool.and_eq_true, beq_iff_eq] at h
    obtain ⟨v, rfl⟩ := List.head?_eq_some_iff.mp h.2
    exact Or.inr ⟨h.1, w, rfl, hb⟩
  · exact Or.inl hb

theorem byteOrderMark_not_blank : isBlank byteOrderMark = false := by decide

/-- How much is skipped at the beginning of a text. -/
def gapLength (atStart : Bool) (cs : List Char) : Nat :=
  markLength atStart cs + blankLength (cs.drop (markLength atStart cs))

theorem gapLength_le (atStart : Bool) (cs : List Char) : gapLength atStart cs ≤ cs.length := by
  have hmark := markLength_le atStart cs
  have hblank := blankLength_le (cs.drop (markLength atStart cs))
  rw [List.length_drop] at hblank
  unfold gapLength
  omega

/-- The number of blanks among what is skipped. -/
def blanksBefore (atStart : Bool) (cs : List Char) : Nat :=
  blankLength (cs.drop (markLength atStart cs))

/-- What a mode reads at a character that is not skipped, with so many blanks before it. -/
def token? (m : Mode) (blanks : Nat) (cs : List Char) : Option (Symbol × Nat) :=
  (m.values.read cs).orElse fun _ => m.munch blanks cs

/-- Reading is skipping the gap and then reading a token. -/
theorem read_eq (m : Mode) (atStart : Bool) (cs : List Char) :
    m.read atStart cs =
      (m.token? (blanksBefore atStart cs) (cs.drop (gapLength atStart cs))).map fun (t, n) =>
        ⟨t, gapLength atStart cs, n⟩ := by
  simp only [read, ValueSet.scan, scan, token?, gapLength, blanksBefore, List.drop_drop]
  cases m.values.read _ with
  | some v => rfl
  | none =>
    cases m.munch _ _ with
    | some v => rfl
    | none => rfl

theorem read_some {m : Mode} {atStart : Bool} {cs : List Char} {r : Reading}
    (h : m.read atStart cs = some r) : r.skipped = gapLength atStart cs ∧
      m.token? (blanksBefore atStart cs) (cs.drop (gapLength atStart cs)) =
        some (r.symbol, r.length) := by
  rw [read_eq] at h
  obtain ⟨⟨t, n⟩, ht, rfl⟩ := Option.map_eq_some_iff.mp h
  exact ⟨rfl, ht⟩

theorem token_lexeme {m : Mode} (hm : m.Plain) {blanks : Nat} {cs : List Char} {t : Symbol} {n : Nat}
    (h : m.token? blanks cs = some (t, n)) :
    (Lexeme t (cs.take n) ∧ n ≤ cs.length) ∧ (t = Symbol.suffix → blanks = 0) ∧
      t ≤ Symbol.bareword ∧ (t = Symbol.endOfText → cs = []) := by
  unfold token? at h
  cases hv : m.values.read cs with
  | some v =>
    rw [hv] at h
    cases h
    obtain ⟨hge, hle⟩ := Lexeme.value_symbol hv
    refine ⟨Lexeme.read_value hv, ?_, hle, ?_⟩
    · rintro rfl
      exact absurd hge (by decide)
    · rintro rfl
      exact absurd hge (by decide)
  | none =>
    rw [hv] at h
    obtain ⟨hc, hv⟩ := munch_mem h
    have ht := hm t (mem_tokens_of_candidates hc)
    refine ⟨Lexeme.munch_some ht hv, ?_, Nat.le_trans (Nat.le_of_lt ht) (by decide), ?_⟩
    · rintro rfl
      by_contra h0
      simp only [candidates, if_neg h0, List.mem_filter, bne_self_eq_false, Bool.false_eq_true,
        and_false] at hc
    · rintro rfl
      rw [Symbol.munch?, if_pos rfl] at hv
      by_contra hne
      rw [if_neg (by simpa using hne)] at hv
      cases hv

/-- Every reading is sound. -/
theorem read_sound {m : Mode} (hm : m.Plain) {atStart : Bool} {cs : List Char} {r : Reading}
    (h : m.read atStart cs = some r) : r.Sound atStart cs := by
  obtain ⟨hskip, ht⟩ := read_some h
  obtain ⟨⟨hlex, hle⟩, hsuffix, hsymbol, hend⟩ := token_lexeme hm ht
  rw [← hskip] at hlex hle
  rw [List.length_drop] at hle
  have hgap := gapLength_le atStart cs
  refine ⟨?_, hlex, by omega, ?_, hsymbol, fun he => ?_⟩
  · rw [hskip]
    exact gap_take atStart cs
  · intro hs c hc
    rw [hskip, gapLength, ← blanksBefore, hsuffix hs, Nat.add_zero] at hc
    unfold markLength at hc
    split at hc
    · rename_i hm
      simp only [Bool.and_eq_true, beq_iff_eq] at hm
      obtain ⟨v, rfl⟩ := List.head?_eq_some_iff.mp hm.2
      rw [List.take_succ_cons, List.take_zero, List.mem_singleton] at hc
      rw [hc]
      exact byteOrderMark_not_blank
    · cases hc
  · have hall := List.drop_eq_nil_iff.mp (hend he)
    omega

end Mode

end MathProg
