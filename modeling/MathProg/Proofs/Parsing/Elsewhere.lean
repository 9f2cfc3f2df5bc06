import MathProg.Proofs.Parsing.Program

/-!
# Pieces in other texts

Statements that stand behind another gap in another text are read again there, as they begin with tokens
that are read in the same way wherever a statement may begin. Their trees are the same but for the gap
before the first token.
-/

namespace MathProg

open Automaton (State Section mode modeIndex)

namespace Symbol

variable {t : Symbol} {w : List Char}

theorem braces_checked : ∀ t < string, t.IsLiteral → t.text.head? = some '\x7d' → t = closingBrace := by
  decide +kernel

theorem eq_closingBrace (ht : t < string) (h : Lexeme t w) (hw : w.head? = some '\x7d') :
    t = closingBrace := by
  obtain ⟨v, rfl⟩ := List.head?_eq_some_iff.mp hw
  rcases fixed_cases ht with rfl | rfl | rfl | rfl | hlit
  · cases (h : '\x7d' :: v = [])
  · obtain ⟨body, -, hb⟩ | ⟨body, -, hb⟩ : Lexeme.Comment ('\x7d' :: v) := h <;> cases hb
  · obtain ⟨c, cs, hc, hfirst, -⟩ : Lexeme.Name ('\x7d' :: v) := h
    obtain ⟨rfl, -⟩ := List.cons.inj hc
    cases hfirst
  · cases (suffixes_checked _ h).1
  · exact braces_checked t ht hlit (by rw [text_of_lexeme hlit h]; rfl)

end Symbol

namespace Straight

variable {σ : Section} {s s' : State} {l : Leaf} {atStart atStart' : Bool} {g g' w rest : List Char}

/-- Between statements, what may begin one and what is a comment is read again in another mode. -/
theorem Legible.elsewhere (h : Legible s atStart l g w rest) (hm : σ.narrows (mode s) (mode s') = true)
    (hl : l.symbol ∈ Symbol.comment :: σ.follows) (hslash : w = ['/'] → rest.head? ≠ some '*')
    (hgap : Gap atStart' g') :
    Legible s' atStart' { l with padding := Extent.ofChars g' } g' w rest := by
  simp only [Section.narrows, Bool.and_eq_true, beq_iff_eq, Bool.not_eq_true', ← Bool.not_eq_true,
    List.contains_iff_mem, List.all_eq_true, Bool.or_eq_true] at hm
  obtain ⟨⟨⟨⟨⟨hvalues, hvalues'⟩, hsuffix⟩, hsuffix'⟩, hfollows⟩, htokens⟩ := hm
  have hcandidates : ∀ {m : Mode}, Symbol.suffix ∉ m.tokens → ∀ b, m.candidates b = m.tokens := by
    intro m hno b
    rw [Mode.candidates]
    split
    · rfl
    · rw [List.filter_eq_self]
      intro t ht
      rw [bne_iff_ne]
      rintro rfl
      exact hno ht
  have hmem := hfollows l.symbol hl
  have hfixed := Mode.plain_mode _ _ hmem
  refine h.again hgap ⟨.refl rest, ⟨fun hw => (h.line hw).2, hslash⟩, fun hb => ?_, ?_, ?_, ?_⟩
  · rw [hvalues] at hb
    cases hb
  · rw [hvalues, hvalues']
  · rw [hcandidates hsuffix', hcandidates hsuffix]
    intro u hu
    refine (htokens u hu).imp_right fun hbrace => ?_
    subst hbrace
    rw [Symbol.munch?_literal (by decide +kernel)]
    refine if_neg fun hp => ?_
    have htext : Symbol.text Symbol.closingBrace = ['\x7d'] := by decide +kernel
    obtain ⟨c, v, hw⟩ := List.exists_cons_of_ne_nil h.ne_nil
    rw [htext, hw, List.cons_append, List.isPrefixOf_iff_prefix, List.cons_prefix_cons] at hp
    have hsymbol := Symbol.eq_closingBrace hfixed h.lexeme (by rw [hw, ← hp.1]; rfl)
    rw [hsymbol] at hl
    exact absurd hl σ.brace_checked
  · rw [hcandidates hsuffix']
    exact fun _ => hmem

end Straight

namespace Tree

open Automaton (action?)
open Straight (Spelled Legible)

variable {σ : Section} {s r r' : State} {x : Symbol} {t c : Tree} {us cs : List Tree} {p : Extent}

mutual

/-- A tree with another gap before its first token. -/
def behind (p : Extent) : Tree → Tree
  | leaf l => leaf { l with padding := p }
  | node z as cs e => node z as (behindAll p cs) e

def behindAll (p : Extent) : List Tree → List Tree
  | [] => []
  | c :: cs => behind p c :: cs

end

theorem symbol_behind (p : Extent) (t : Tree) : (behind p t).symbol = t.symbol := by cases t <;> rfl

theorem extra_behind (p : Extent) (t : Tree) : (behind p t).extra = t.extra := by cases t <;> rfl

theorem goto_behind (s : State) (p : Extent) (t : Tree) : goto s (behind p t) = goto s t := by
  rw [goto, goto, symbol_behind, extra_behind]

theorem entry_behind (p : Extent) (t : Tree) : (behind p t).entry = t.entry := by
  rw [entry, entry, symbol_behind]

theorem isComment_behind (h : t.IsComment) : (behind p t).IsComment := by
  obtain ⟨l, rfl, hl, hcomment⟩ := h.eq_leaf
  exact ⟨hl, hcomment⟩

theorem counted_behindAll (p : Extent) (ts : List Tree) : counted (behindAll p ts) = counted ts := by
  cases ts with
  | nil => rfl
  | cons t ts => rw [behindAll, counted_cons, counted_cons, symbol_behind, extra_behind]

theorem gotoAll_behindAll (s : State) (p : Extent) (ts : List Tree) :
    gotoAll s (behindAll p ts) = gotoAll s ts := by
  rw [gotoAll_eq_walk, gotoAll_eq_walk, counted_behindAll]

theorem endsCounted_behindAll {ts : List Tree} (h : EndsCounted ts) : EndsCounted (behindAll p ts) := by
  rcases h with rfl | ⟨us, t, rfl, ht⟩
  · exact Or.inl rfl
  · cases us with
    | nil => exact Or.inr ⟨[], behind p t, rfl, (extra_behind p t).trans ht⟩
    | cons u us => exact Or.inr ⟨behind p u :: us, t, rfl, ht⟩

/-- A tree that is made is made behind another gap. -/
theorem Made.behind (p : Extent) : ∀ (t : Tree) {x : Symbol}, t.Made s x → (t.behind p).Made s x
  | leaf l, _, h => h
  | node _ _ [] _, _, h => by
    obtain ⟨c, ds, hnil, -⟩ := h.2.1
    cases hnil
  | node z as (c :: cs) e, x, h => by
    obtain ⟨he, hfirst, hcounted, hall, ha⟩ := h
    obtain ⟨c', ds, heq, hc⟩ := hfirst
    obtain ⟨rfl, rfl⟩ := List.cons.inj heq
    obtain ⟨-, hmade, hrest⟩ := hall
    have hc' : (Tree.behind p c).extra = false := (extra_behind p c).trans hc
    refine ⟨he, ⟨_, cs, rfl, hc'⟩, endsCounted_behindAll hcounted,
      ⟨fun hno => ?_, fun _ => Made.behind p c (hmade hc), ?_⟩, ?_⟩
    · rw [hc'] at hno
      cases hno
    · rw [goto_behind]
      exact hrest
    · rw [gotoAll_behindAll, counted_behindAll]
      exact ha

/-- The first leaf of a tree, and those behind it. They do not depend on where that one is read. -/
structure Begins (s : State) (t : Tree) (l : Leaf) (ls : List (State × Leaf)) : Prop where
  readings : ∀ r p, readings s r (behind p t) = (r, { l with padding := p }) :: ls
  pending : ∀ r r' p, pending s r (behind p t) = pending s r' t
  padding : t.padding = l.padding
  first : t.first? = some l.symbol
  same : behind l.padding t = t

theorem Made.begins : ∀ (t : Tree) {x : Symbol}, t.Made s x → ∃ l ls, Begins s t l ls
  | leaf l, _, h => by
    refine ⟨l, [], fun r p => rfl, fun r r' p => ?_, rfl, ?_, rfl⟩
    · have hl : ¬ l.extra = true := by
        rw [h.1]
        exact Bool.false_ne_true
      rw [Tree.behind, pending, pending, if_neg hl, if_neg hl]
      exact goto_behind s p (leaf l)
    · rw [first?, h.1]
      rfl
  | node _ _ [] _, _, h => by
    obtain ⟨c, ds, hnil, -⟩ := h.2.1
    cases hnil
  | node z as (c :: cs) e, x, h => by
    obtain ⟨c', ds, heq, hc⟩ := h.2.1
    obtain ⟨rfl, rfl⟩ := List.cons.inj heq
    obtain ⟨l, ls, hbegins⟩ := Made.begins c (h.2.2.2.1.2.1 hc)
    refine ⟨l, ls ++ readingsAll (goto s c) (pending s 0 c) cs, fun r p => ?_, fun r r' p => ?_,
      hbegins.padding, ?_, ?_⟩
    · rw [Tree.behind, behindAll, readings, readingsAll, hbegins.readings, goto_behind,
        hbegins.pending r 0 p]
      rfl
    · rw [Tree.behind, behindAll, pending, pendingAll, goto_behind, hbegins.pending r r' p, pending,
        pendingAll]
    · rw [first?, firstAll?, hbegins.first]
      rfl
    · rw [Tree.behind, behindAll, hbegins.same]

theorem piecesMade_behindAll (p : Extent) (h : PiecesMade x us) : PiecesMade x (behindAll p us) := by
  cases us with
  | nil => exact h
  | cons u us =>
    obtain ⟨hcomment, hcounts, hrest⟩ := h
    refine ⟨fun hu => ?_, fun hu => ?_, hrest⟩
    · rw [extra_behind] at hu
      exact isComment_behind (hcomment hu)
    · rw [extra_behind] at hu
      rw [entry_behind]
      exact (hcounts hu).behind p

theorem Ordered.behindAll (p : Extent) (h : Ordered us) : Ordered (behindAll p us) := by
  have hsection : ∀ {σ : Section} {us : List Tree}, OfSection σ us → OfSection σ (Tree.behindAll p us) := by
    intro σ us hus
    cases us with
    | nil => exact hus
    | cons u us =>
      refine List.forall_mem_cons.mpr ⟨fun hu => ?_, fun v hv => hus v (List.mem_cons_of_mem _ hv)⟩
      rw [extra_behind] at hu
      rw [symbol_behind]
      exact hus u List.mem_cons_self hu
  cases h with
  | model hus => exact .model (hsection hus)
  | @data us vs t hus ht hvs =>
    cases us with
    | nil =>
      refine show Ordered ([] ++ Tree.behind p t :: vs) from .data hus ?_ hvs
      rw [extra_behind, symbol_behind]
      exact ht
    | cons u us => exact .data (hsection hus) ht hvs

/-- A comment does not change the state. -/
theorem pending_comment (h : t.IsComment) (s r : State) : pending s r t = r := by
  obtain ⟨l, rfl, hl, -⟩ := h.eq_leaf
  rw [pending, if_pos hl]

/-- A token that begins a statement, or a comment, is read again behind another gap. -/
theorem spelled_first {atStart : Bool} {X y : List Char} {l : Leaf} {ls ms : List (State × Leaf)}
    (hl : l.symbol ∈ Symbol.comment :: σ.follows)
    (hm : σ.narrows (Automaton.mode r) (Automaton.mode r') = true)
    (h : Spelled atStart ((r, l) :: ls) X y)
    (htail : ∀ rest, Spelled false ls rest y → Spelled false ms rest y) :
    ∃ g z, X = g ++ z ∧ Gap atStart g ∧ l.padding = Extent.ofChars g ∧
      (∀ c ∈ z.head?, isBlank c = false ∧ c ≠ byteOrderMark) ∧
      ∀ atStart' g', Gap atStart' g' →
        Spelled atStart' ((r', { l with padding := Extent.ofChars g' }) :: ms) (g' ++ z) y := by
  cases h with
  | @cons _ _ _ _ g w rest _ h hslash hs =>
    obtain ⟨c, hc, hblank⟩ := h.first
    refine ⟨g, w ++ rest, rfl, h.gap, congrArg Leaf.padding h.leaf, ?_, fun atStart' g' hgap => ?_⟩
    · obtain ⟨v, rfl⟩ := List.head?_eq_some_iff.mp hc
      rintro _ ⟨⟩
      exact hblank
    · exact .cons (h.elsewhere hm hl hslash hgap) hslash (htail rest hs)

/-- Pieces that stand in a text are read again behind another gap, in another state where a statement may
begin: comments and the first token are read there, and what comes then does not change. -/
theorem spelled_elsewhere {atStart : Bool} {X y : List Char} (hne : us ≠ []) (hmade : PiecesMade x us)
    (hentry : ∀ u ∈ us.find? (!·.extra), u.entry ∈ σ.begins)
    (hm : σ.narrows (Automaton.mode r) (Automaton.mode r') = true)
    (h : Spelled atStart (pieceReadings r us) X y) :
    ∃ g z, X = g ++ z ∧ Gap atStart g ∧ paddingFirst us = Extent.ofChars g ∧
      behindAll (Extent.ofChars g) us = us ∧ (∀ c ∈ z.head?, isBlank c = false ∧ c ≠ byteOrderMark) ∧
      ∀ atStart' g', Gap atStart' g' →
        Spelled atStart' (pieceReadings r' (behindAll (Extent.ofChars g') us)) (g' ++ z) y := by
  induction us generalizing atStart X with
  | nil => exact absurd rfl hne
  | cons u us ih =>
    obtain ⟨hcomment, hcounts, hrest⟩ := hmade
    by_cases hu : u.extra = true
    · have hu' := hcomment hu
      obtain ⟨l, rfl, hl, hsymbol⟩ := hu'.eq_leaf
      rw [pieceReadings, pending_comment hu'] at h
      rw [List.find?_cons_of_neg (by rw [hu]; exact Bool.false_ne_true)] at hentry
      have htail : ∀ rest, Spelled false (pieceReadings r us) rest y →
          Spelled false (pieceReadings r' us) rest y := by
        intro rest hs
        cases us with
        | nil => exact hs
        | cons v us =>
          obtain ⟨g₁, z, rfl, hgap₁, -, hsame, -, hagain⟩ := ih (List.cons_ne_nil _ _) hrest hentry hs
          have hagain := hagain false g₁ hgap₁
          rwa [hsame] at hagain
      obtain ⟨g, z, hX, hgap, hpadding, hz, hagain⟩ :=
        spelled_first (List.mem_cons.mpr (Or.inl hsymbol)) hm h htail
      refine ⟨g, z, hX, hgap, hpadding, ?_, hz, fun atStart' g' hgap' => ?_⟩
      · rw [behindAll, Tree.behind, ← hpadding]
      · rw [behindAll, pieceReadings, pending_comment (isComment_behind hu')]
        exact hagain atStart' g' hgap'
    · have hu := eq_false_of_ne_true hu
      have hmade := hcounts hu
      obtain ⟨l, ls, hbegins⟩ := hmade.begins
      obtain ⟨y', v, hy, hv⟩ := hmade.first
      have hfollows : l.symbol ∈ σ.follows := by
        rw [hbegins.first] at hy
        rw [Option.some.inj hy]
        refine (Section.shift_alike (hentry u ?_) hv).1
        rw [List.find?_cons_of_pos (by rw [hu]; rfl)]
        rfl
      have hreadings := hbegins.readings r l.padding
      have hpending := hbegins.pending r r' l.padding
      rw [hbegins.same] at hreadings hpending
      rw [pieceReadings, hreadings, hpending] at h
      obtain ⟨g, z, hX, hgap, hpadding, hz, hagain⟩ := spelled_first
        (List.mem_cons_of_mem _ hfollows) hm h fun rest hs => hs
      refine ⟨g, z, hX, hgap, hbegins.padding.trans hpadding, ?_, hz, fun atStart' g' hgap' => ?_⟩
      · rw [behindAll, ← hpadding, hbegins.same]
      · rw [behindAll, pieceReadings, entry_behind, hbegins.readings, hbegins.pending r' r']
        exact hagain atStart' g' hgap'

end Tree

end MathProg
