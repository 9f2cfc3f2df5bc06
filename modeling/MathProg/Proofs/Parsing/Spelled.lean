import MathProg.Proofs.Automaton.Sections
import MathProg.Proofs.Parsing.Sight

/-!
# Leaves in a row

A stretch of text can be cut out and put elsewhere: if it ends behind a semicolon, a brace or a comment,
its leaves are read again before whatever follows it there.
-/

namespace MathProg

open Automaton (State mode)

namespace Symbol

variable {t : Symbol} {w : List Char}

theorem literal_semicolon (h : Lexeme semicolon w) : w = [';'] :=
  (text_of_lexeme (by decide +kernel) h).symm.trans (by decide +kernel)

theorem literal_closingBrace (h : Lexeme closingBrace w) : w = ['\x7d'] :=
  (text_of_lexeme (by decide +kernel) h).symm.trans (by decide +kernel)

/-- The tokens that end a statement, and comments, do not begin like values. -/
theorem closing_text (ht : t = semicolon ∨ t = closingBrace ∨ t = comment) (h : Lexeme t w) :
    (∀ c ∈ w.head?, Value.isWordChar c = false) ∧ w ≠ ['.'] := by
  rcases ht with rfl | rfl | rfl
  · rw [literal_semicolon h]
    constructor
    · rintro _ ⟨⟩
      rfl
    · simp
  · rw [literal_closingBrace h]
    constructor
    · rintro _ ⟨⟩
      rfl
    · simp
  · obtain ⟨body, -, rfl⟩ | ⟨body, -, rfl⟩ : Lexeme.Comment w := h
    · refine ⟨?_, fun hno => absurd (List.cons.inj hno).1 (by decide)⟩
      rintro _ ⟨⟩
      decide
    · refine ⟨?_, fun hno => absurd (List.cons.inj hno).1 (by decide)⟩
      rintro _ ⟨⟩
      decide

end Symbol

namespace Straight

variable {atStart atStart' : Bool} {s s' : State} {l : Leaf} {ls ms : List (State × Leaf)}
  {g g' w rest v x y y' : List Char}

/-- Leaves that stand one after the other in a text, each read in its state, and the text behind them. -/
inductive Spelled : Bool → List (State × Leaf) → List Char → List Char → Prop
  | nil (atStart : Bool) (y : List Char) : Spelled atStart [] y y
  | cons {atStart : Bool} {s : State} {l : Leaf} {ls : List (State × Leaf)} {g w rest y : List Char}
      (h : Legible s atStart { l with extra := false } g w rest)
      (hslash : w = ['/'] → rest.head? ≠ some '*') (hs : Spelled false ls rest y) :
      Spelled atStart ((s, l) :: ls) (g ++ (w ++ rest)) y

namespace Spelled

theorem append (h : Spelled atStart ls x rest) (h' : Spelled (atStart && ls.isEmpty) ms rest y) :
    Spelled atStart (ls ++ ms) x y := by
  induction h with
  | nil atStart =>
    rw [List.isEmpty_nil, Bool.and_true] at h'
    exact h'
  | cons h hslash _ ih => exact .cons h hslash (ih (by rwa [List.isEmpty_cons, Bool.and_false] at h'))

theorem split (h : Spelled atStart (ls ++ ms) x y) :
    ∃ rest, Spelled atStart ls x rest ∧ Spelled (atStart && ls.isEmpty) ms rest y := by
  induction ls generalizing atStart x with
  | nil =>
    rw [List.isEmpty_nil, Bool.and_true]
    exact ⟨x, .nil _ _, h⟩
  | cons m ls ih =>
    rw [List.cons_append] at h
    cases h with
    | cons h hslash hs =>
      obtain ⟨rest, hls, hms⟩ := ih hs
      refine ⟨rest, .cons h hslash hls, ?_⟩
      rw [List.isEmpty_cons, Bool.and_false]
      exact hms

/-- The leaves make up the text before the rest. -/
theorem exists_stretch (h : Spelled atStart ls x y) :
    ∃ v, x = v ++ y ∧ (v = [] ↔ ls = []) := by
  induction h with
  | nil => exact ⟨[], rfl, iff_of_true rfl rfl⟩
  | @cons _ _ _ _ g w _ _ h _ _ ih =>
    obtain ⟨v, rfl, -⟩ := ih
    refine ⟨g ++ (w ++ v), by rw [List.append_assoc, List.append_assoc],
      iff_of_false (fun hnil => ?_) (List.cons_ne_nil _ _)⟩
    exact h.ne_nil (List.append_eq_nil_iff.mp (List.append_eq_nil_iff.mp hnil).2).1

end Spelled

/-- The last of some leaves ends a statement or is a comment; and a comment before the text `y` is over
before the text `y'`. -/
def Closes (ls : List (State × Leaf)) (y y' : List Char) : Prop :=
  ∀ m ∈ ls.getLast?, m.2.symbol = Symbol.semicolon ∨ m.2.symbol = Symbol.closingBrace ∨
    m.2.symbol = Symbol.comment ∧ ∀ c ∈ y'.head?, c ∈ y.head? ∨ c = '\n' ∨ c = '\x00'

theorem Closes.tail {m : State × Leaf} (h : Closes (m :: ls) y y') (hne : ls ≠ []) :
    Closes ls y y' := by
  intro k hk
  refine h k ?_
  rw [List.getLast?_cons_of_ne_nil hne]
  exact hk

theorem Closes.last {m : State × Leaf} (h : Closes [m] y y') : m.2.symbol = Symbol.semicolon ∨
    m.2.symbol = Symbol.closingBrace ∨
      m.2.symbol = Symbol.comment ∧ ∀ c ∈ y'.head?, c ∈ y.head? ∨ c = '\n' ∨ c = '\x00' :=
  h m rfl

namespace Spelled

/-- Up to the end of a statement a point has something behind it. -/
theorem ne_point (h : Spelled false ls (['.'] ++ y) y) (hc : Closes ls y y') : False := by
  obtain ⟨v, hv, hiff⟩ := h.exists_stretch
  obtain rfl := List.append_cancel_right hv
  generalize hx : ['.'] ++ y = x at h
  cases h with
  | nil => exact absurd (hiff.mpr rfl) (List.cons_ne_nil _ _)
  | @cons _ _ _ _ g w _ _ h _ hs =>
    obtain ⟨v, rfl, hnil⟩ := hs.exists_stretch
    rw [← List.append_assoc, ← List.append_assoc, List.append_assoc g] at hx
    have hpoint := List.append_cancel_right hx
    have hlength := congrArg List.length hpoint
    have hpos := List.length_pos_of_ne_nil h.ne_nil
    rw [List.length_append, List.length_append, List.length_singleton] at hlength
    obtain rfl : g = [] := List.eq_nil_of_length_eq_zero (by omega)
    obtain rfl : v = [] := List.eq_nil_of_length_eq_zero (by omega)
    obtain rfl := hnil.mp rfl
    rw [List.append_nil, List.nil_append] at hpoint
    subst hpoint
    refine (Symbol.closing_text ?_ h.lexeme).2 rfl
    exact hc.last.imp_right fun h => h.imp_right And.left

theorem firstVisible_eq (h : Spelled false ls (v ++ y) y) (hne : ls ≠ []) :
    Value.firstVisible (v ++ y') = Value.firstVisible (v ++ y) := by
  generalize hx : v ++ y = x at h ⊢
  cases h with
  | nil => exact absurd rfl hne
  | @cons _ _ _ _ g w rest _ h _ hs =>
    obtain ⟨u, rfl, -⟩ := hs.exists_stretch
    obtain ⟨c, hc, hblank, -⟩ := h.first
    obtain ⟨w, rfl⟩ := List.head?_eq_some_iff.mp hc
    have hg : ∀ d ∈ g, isBlank d = true := h.gap.resolve_right fun hno => Bool.false_ne_true hno.1
    have hv : v = g ++ (c :: w ++ u) := by
      rw [← List.append_assoc, ← List.append_assoc, List.append_assoc g] at hx
      exact List.append_cancel_right hx
    have hfirst : ∀ z, Value.firstVisible (g ++ (c :: z)) = some c := by
      intro z
      rw [Value.firstVisible, List.dropWhile_append_of_pos hg,
        List.dropWhile_cons_of_neg (by rw [hblank]; exact Bool.false_ne_true)]
      rfl
    rw [hv, List.append_assoc, List.cons_append, List.cons_append, List.cons_append, hfirst, hfirst]

/-- A stretch that ends a statement is read again before another text. -/
theorem again (h : Spelled atStart ls (v ++ y) y) (hends : Ends y') (hc : Closes ls y y') :
    Spelled atStart ls (v ++ y') y' := by
  generalize hx : v ++ y = x at h
  induction h generalizing v with
  | nil =>
    obtain rfl : v = [] := List.append_left_eq_self.mp hx
    exact .nil _ _
  | @cons atStart s l ls g w rest y h hslash hs ih =>
    obtain ⟨u, rfl, hnil⟩ := hs.exists_stretch
    have hv : v = g ++ (w ++ u) := by
      rw [← List.append_assoc, ← List.append_assoc, List.append_assoc g] at hx
      exact List.append_cancel_right hx
    rw [hv, List.append_assoc, List.append_assoc]
    -- the first character behind the leaf, if the stretch goes on there, is the same
    have hhead : ∀ c ∈ (u ++ y').head?, c ∈ (u ++ y).head? ∨ u = [] ∧ c ∈ y'.head? := by
      intro c hc
      cases u with
      | nil => exact Or.inr ⟨rfl, hc⟩
      | cons d u => exact Or.inl hc
    have hcontext : (mode s).Context (mode s) (g.countP isBlank) (g.countP isBlank) l.symbol w (u ++ y)
        (u ++ y') := by
      constructor
      · refine .mk u hends.cut ?_
        rintro - rfl
        exact hs.ne_point (hc.tail fun hls => List.cons_ne_nil _ _ (hnil.mpr hls))
      · refine ⟨fun hw c hmem => ?_, hslash⟩
        obtain ⟨hcomment, hline⟩ := h.line hw
        rcases hhead c hmem with hmem | ⟨hu, hmem⟩
        · exact hline c hmem
        · obtain rfl := hnil.mp hu
          rcases hc.last with hs | hs | ⟨-, hover⟩
          · exact absurd (hcomment.symm.trans hs) (by decide)
          · exact absurd (hcomment.symm.trans hs) (by decide)
          · rw [hu] at hline
            exact (hover c hmem).elim (hline c) id
      · refine fun _ => Value.alike_of_visible fun ⟨c, hcw, hword⟩ => ?_
        by_cases hls : ls = []
        · subst hls
          have hno := (Symbol.closing_text (hc.last.imp_right fun h => h.imp_right And.left) h.lexeme).1 c
            hcw
          rw [hword] at hno
          cases hno
        · exact hs.firstVisible_eq hls
      · rfl
      · exact fun u hu => Or.inl hu
      · exact h.candidate
    have hagain := h.again h.gap hcontext
    have hleaf := h.leaf
    refine .cons (by rwa [show Extent.ofChars g = l.padding from (congrArg Leaf.padding hleaf).symm]
      at hagain) (fun hw hstar => ?_) ?_
    · rcases hhead '*' hstar with hmem | ⟨-, hmem⟩
      · exact hslash hw hmem
      · exact absurd (hends '*' hmem) (by decide)
    · by_cases hls : ls = []
      · subst hls
        obtain rfl := hnil.mpr rfl
        exact .nil _ _
      · exact ih (hc.tail hls) rfl

end Spelled

end Straight

end MathProg
