import MathProg.Proofs.Parsing.Pieces
import MathProg.Proofs.Parsing.Remaking

/-!
# Texts as rows of pieces

A text is accepted if and only if it is a row of pieces that the automaton makes: statements of the model
and then, if there is a data section, its head and its statements, with comments between them.
-/

namespace MathProg

namespace Grammar

open Automaton (Section)

/-- The words that the model may be made of. -/
def modelWords : List (List Symbol) :=
  [[], [Section.model.repetition], [dataHead], [Section.model.repetition, dataHead],
    [dataHead, Section.data.repetition], [Section.model.repetition, dataHead, Section.data.repetition]]

theorem modelWords_checked : (rules.productions.all fun rule => rule.1 != Symbol.model ||
    modelWords.contains (rule.2.map (·.symbol))) = true := by
  decide +kernel

theorem mem_modelWords {ps : List Part} (h : (Symbol.model, ps) ∈ rules.productions) :
    ps.map (·.symbol) ∈ modelWords := by
  have hall := List.all_eq_true.mp modelWords_checked _ h
  rw [Bool.or_eq_true, bne_self_eq_false, List.contains_iff_mem] at hall
  exact hall.resolve_left Bool.false_ne_true

end Grammar

namespace Tree

open Automaton (State Section action? successor? lost start)
open Straight (reduction_of_action successor_of_action)

variable {s b : State} {x y : Symbol} {t u : Tree} {ts us es : List Tree} {σ : Section}

/-- The state behind some symbols. -/
def walk (s : State) (xs : List Symbol) : State := xs.foldl (fun s x => (successor? s x).getD lost) s

theorem gotoAll_eq_walk (s : State) (ts : List Tree) : gotoAll s ts = walk s (counted ts) := by
  induction ts generalizing s with
  | nil => rfl
  | cons t ts ih =>
    change gotoAll (goto s t) ts = _
    rw [ih, counted_cons, goto]
    split <;> rfl

theorem map_symbol_partsFrom (as : List (Nat × Symbol)) (i : Nat) (xs : List Symbol) :
    (Automaton.partsFrom as i xs).map (·.symbol) = xs := by
  induction xs generalizing i with
  | nil => rfl
  | cons x xs ih => rw [Automaton.partsFrom, List.map_cons, ih]

theorem exists_counted {xs ys : List Symbol} (h : counted ts = xs ++ x :: ys) :
    ∃ us t vs, ts = us ++ t :: vs ∧ counted us = xs ∧ (t.extra = false ∧ t.symbol = x) ∧
      counted vs = ys := by
  induction ts generalizing xs with
  | nil => exact absurd h (by simp [counted])
  | cons t ts ih =>
    rw [counted_cons] at h
    by_cases ht : t.extra = true
    · rw [if_pos ht] at h
      obtain ⟨us, v, vs, rfl, hus, hv, hvs⟩ := ih h
      exact ⟨t :: us, v, vs, rfl, by rw [counted_cons, if_pos ht, hus], hv, hvs⟩
    · rw [if_neg ht] at h
      cases xs with
      | nil =>
        obtain ⟨hsymbol, hrest⟩ := List.cons.inj h
        exact ⟨[], t, ts, rfl, rfl, ⟨eq_false_of_ne_true ht, hsymbol⟩, hrest⟩
      | cons z xs =>
        obtain ⟨rfl, hrest⟩ := List.cons.inj h
        obtain ⟨us, v, vs, rfl, hus, hv, hvs⟩ := ih hrest
        exact ⟨t :: us, v, vs, rfl, by rw [counted_cons, if_neg ht, hus], hv, hvs⟩

theorem symbol_of_counted (h : ∀ x ∈ counted ts, x = y) : ∀ c ∈ ts, c.extra = false → c.symbol = y :=
  fun _ hc he => h _ (List.mem_map_of_mem (List.mem_filter.mpr ⟨hc, by rw [he]; rfl⟩))

theorem ahead_cons_comment (h : t.IsComment) (ts : List Tree) (x : Symbol) :
    ahead (t :: ts) x = ahead ts x := by
  obtain ⟨l, rfl, hl, -⟩ := h.eq_leaf
  rw [ahead, firstAll?, first?, if_pos hl]
  rfl

/-- Before pieces that begin in a section there may be a statement of it. -/
theorem ahead_mem_follows (hmade : PiecesMade x us) (hentry : ∀ u ∈ us.find? (!·.extra), u.entry ∈ σ.begins)
    (hx : x ∈ σ.follows) : ahead us x ∈ σ.follows := by
  induction us with
  | nil => exact hx
  | cons u us ih =>
    obtain ⟨hcomment, hcounts, hrest⟩ := hmade
    by_cases hu : u.extra = true
    · rw [List.find?_cons_of_neg (by rw [hu]; exact Bool.false_ne_true)] at hentry
      rw [ahead_cons_comment (hcomment hu)]
      exact ih hrest hentry
    · have hu := eq_false_of_ne_true hu
      obtain ⟨y, v, hy, hv⟩ := (hcounts hu).first
      rw [ahead, firstAll?, hy]
      refine (Section.shift_alike (hentry u ?_) hv).1
      rw [List.find?_cons_of_pos (by rw [hu]; rfl)]
      rfl

theorem OfSection.entry (hus : OfSection σ us) : ∀ u ∈ us.find? (!·.extra), u.entry ∈ σ.begins := by
  intro u hu
  have hcounts := List.find?_some hu
  rw [entry_of_statement (hus u (List.mem_of_find?_eq_some hu) (by simpa using hcounts))]
  exact σ.entry_mem

/-- A statement by itself is made a repetition. -/
theorem Made.repetition (hs : s ∈ σ.begins) (h : u.Made u.entry x) (hu : u.symbol = σ.statement)
    (hx : x ∈ σ.follows) : (node σ.repetition [] [u] false).Made s x := by
  have hwhole : u.symbol ∉ Section.wholes := by
    rw [hu]
    exact σ.statement_not_whole
  have hextra := h.extra
  rw [entry_of_statement hu] at h
  have hmade := (h.alike σ.entry_mem hs u hwhole).1
  have hgoto : gotoAll s [u] = σ.closed :=
    goto_of_successor hextra (by rw [hu]; exact σ.successor_statement s hs)
  refine ⟨rfl, ⟨u, [], rfl, hextra⟩, Or.inr ⟨[], u, rfl, hextra⟩,
    ⟨fun hno => ?_, fun _ => hmade, trivial⟩, ?_⟩
  · rw [hextra] at hno
    cases hno
  · rw [hgoto, counted_cons, if_neg (by rw [hextra]; exact Bool.false_ne_true)]
    exact (Section.of_repeatsAt σ.repeats_checked.1).1 x hx

/-- A repetition and one more statement behind comments, put together. -/
def joined (σ : Section) (R : Tree) (es : List Tree) (u : Tree) : Tree :=
  node σ.repetition [] (R :: es ++ [node σ.repetition [] [u] false]) false

theorem pieces_joined (R : Tree) (hes : ∀ e ∈ es, e.IsComment) (hu : u.symbol = σ.statement) :
    pieces (joined σ R es u) = pieces R ++ es ++ [u] := by
  rw [joined, pieces_repetition, piecesAll_append, piecesAll, piecesAll_comments hes, piecesAll_singleton,
    pieces_repetition, piecesAll_singleton, pieces_of_statement hu]

theorem Made.joined {R : Tree} (hb : b ∈ σ.bases) (hR : R.Made b (ahead [u] x))
    (hsymbol : R.symbol = σ.repetition) (hes : ∀ e ∈ es, e.IsComment) (h : u.Made u.entry x)
    (hu : u.symbol = σ.statement) (hx : x ∈ σ.follows) : (joined σ R es u).Made b x := by
  obtain ⟨v, hv, hv'⟩ := (Option.any_eq_true _ _).mp (σ.bases_checked b hb).2
  obtain ⟨hbegins, hrepeated⟩ := of_decide_eq_true hv'
  have hone := h.repetition hbegins hu hx
  have hextras : ∀ e ∈ es, e.extra = true := fun e he => (hes e he).extra
  have hbehind : gotoAll b (R :: es) = v := by
    change gotoAll (goto b R) es = v
    rw [gotoAll_extras _ hextras]
    exact goto_of_successor hR.extra (by rw [hsymbol]; exact hv)
  have hstate : gotoAll b (R :: es ++ [node σ.repetition [] [u] false]) = σ.repeated := by
    rw [gotoAll_append, hbehind]
    exact goto_of_successor (t := node σ.repetition [] [u] false) rfl hrepeated
  have hlength : (counted (R :: es ++ [node σ.repetition [] [u] false])).length = 2 := by
    rw [counted_append, counted_cons, if_neg (by rw [hR.extra]; exact Bool.false_ne_true),
      counted_extras hextras]
    rfl
  have hfirst : ahead [node σ.repetition [] [u] false] x = ahead [u] x := by
    simp only [ahead, firstAll?, first?, Option.or_none]
  refine ⟨rfl, ⟨R, _, rfl, hR.extra⟩, Or.inr ⟨R :: es, _, rfl, rfl⟩, ?_, ?_⟩
  · rw [madeAll_append, hbehind, hfirst]
    refine ⟨⟨fun hno => ?_, fun _ => ?_, (madeAll_extras hextras).mpr hes⟩,
      fun hno => absurd hno Bool.false_ne_true, fun _ => hone, trivial⟩
    · rw [hR.extra] at hno
      cases hno
    · rw [ahead_comments hes]
      exact hR
  · rw [hstate, hlength]
    exact (Section.of_repeatsAt σ.repeats_checked.2).1 x hx

/-- Pieces that follow a repetition are put together with it. -/
theorem exists_gathered (hb : b ∈ σ.bases) (hx : x ∈ σ.follows) : ∀ (us : List Tree) {R : Tree}
    {es : List Tree}, OfSection σ us → PiecesMade x us → R.Made b (ahead us x) →
    R.symbol = σ.repetition → (∀ e ∈ es, e.IsComment) →
    ∃ ts, MadeAll b x ts ∧ counted ts = [σ.repetition] ∧ piecesAll ts = pieces R ++ es ++ us
  | [], R, es, _, _, hR, hsymbol, hes => by
    have hextras : ∀ e ∈ es, e.extra = true := fun e he => (hes e he).extra
    refine ⟨R :: es, ⟨fun hno => ?_, fun _ => ?_, (madeAll_extras hextras).mpr hes⟩, ?_, ?_⟩
    · rw [hR.extra] at hno
      cases hno
    · rw [ahead_comments hes]
      exact hR
    · rw [counted_cons, if_neg (by rw [hR.extra]; exact Bool.false_ne_true), hsymbol,
        counted_extras hextras]
    · rw [piecesAll, piecesAll_comments hes, List.append_nil]
  | u :: us, R, es, hus, hmade, hR, hsymbol, hes => by
    obtain ⟨hcomment, hcounts, hrest⟩ := hmade
    have hus' : OfSection σ us := fun v hv => hus v (List.mem_cons_of_mem _ hv)
    by_cases hu : u.extra = true
    · have hu := hcomment hu
      rw [ahead_cons_comment hu] at hR
      obtain ⟨ts, hts, hcounted, hpieces⟩ := exists_gathered hb hx us hus' hrest hR hsymbol
        (List.forall_mem_append.mpr ⟨hes, List.forall_mem_singleton.mpr hu⟩)
      refine ⟨ts, hts, hcounted, ?_⟩
      rw [hpieces, ← List.append_assoc, List.append_assoc _ [u]]
      rfl
    · have hu := eq_false_of_ne_true hu
      have hstatement := hus u List.mem_cons_self hu
      have hfirst : ahead (u :: us) x = ahead [u] (ahead us x) := ahead_append [u] us x
      rw [hfirst] at hR
      have hjoined := hR.joined hb hsymbol hes (hcounts hu) hstatement (ahead_mem_follows hrest hus'.entry hx)
      obtain ⟨ts, hts, hcounted, hpieces⟩ := exists_gathered hb hx us hus' hrest hjoined rfl
        (fun e (he : e ∈ []) => absurd he List.not_mem_nil)
      refine ⟨ts, hts, hcounted, ?_⟩
      rw [hpieces, pieces_joined R hes hstatement, List.append_nil, List.append_assoc _ [u]]
      rfl

/-- The pieces of a section are put together to one repetition, if there are any. -/
theorem exists_repetition (σ : Section) (hb : b ∈ σ.bases) (hx : x ∈ σ.follows) (us : List Tree)
    (hus : OfSection σ us) (hmade : PiecesMade x us) :
    ∃ ts, MadeAll b x ts ∧ (counted ts = [] ∨ counted ts = [σ.repetition]) ∧ piecesAll ts = us := by
  induction us with
  | nil => exact ⟨[], trivial, Or.inl rfl, rfl⟩
  | cons u us ih =>
    obtain ⟨hcomment, hcounts, hrest⟩ := hmade
    have hus' : OfSection σ us := fun v hv => hus v (List.mem_cons_of_mem _ hv)
    by_cases hu : u.extra = true
    · obtain ⟨ts, hts, hcounted, hpieces⟩ := ih hus' hrest
      refine ⟨u :: ts, ⟨hcomment, fun hno => ?_, ?_⟩, ?_, ?_⟩
      · rw [hu] at hno
        cases hno
      · rw [goto_extra b hu]
        exact hts
      · rw [counted_cons, if_pos hu]
        exact hcounted
      · rw [piecesAll, pieces_of_extra (hcomment hu), hpieces]
        rfl
    · have hu := eq_false_of_ne_true hu
      have hstatement := hus u List.mem_cons_self hu
      have hone := (hcounts hu).repetition (σ.bases_checked b hb).1 hstatement
        (ahead_mem_follows hrest hus'.entry hx)
      obtain ⟨ts, hts, hcounted, hpieces⟩ := exists_gathered hb hx us hus' hrest hone rfl
        (fun e (he : e ∈ []) => absurd he List.not_mem_nil)
      refine ⟨ts, hts, Or.inr hcounted, ?_⟩
      rw [hpieces, pieces_repetition, piecesAll_singleton, pieces_of_statement hstatement]
      rfl

/-- Pieces in the order of a text: statements of the model and, if there is a data section, its head and
its statements. -/
inductive Ordered : List Tree → Prop
  | model {us : List Tree} (h : OfSection .model us) : Ordered us
  | data {us vs : List Tree} {t : Tree} (h : OfSection .model us)
      (ht : t.extra = false ∧ t.symbol = Grammar.dataHead) (hv : OfSection .data vs) :
      Ordered (us ++ t :: vs)

/-- Behind the statements of the model another one may begin. -/
theorem gotoAll_mem_begins (h : counted ts = [] ∨ counted ts = [Section.model.repetition]) :
    gotoAll start ts ∈ Section.model.begins := by
  rw [gotoAll_eq_walk]
  rcases h with h | h
  · rw [h]
    decide
  · rw [h]
    decide +kernel

theorem goto_head_mem_bases (hs : s ∈ Section.model.begins)
    (ht : t.extra = false ∧ t.symbol = Grammar.dataHead) : goto s t ∈ Section.data.bases := by
  obtain ⟨u, hu, hbase⟩ := (Option.any_eq_true _ _).mp (Section.head_checked s hs)
  rw [goto_of_successor ht.1 (by rw [ht.2]; exact hu)]
  exact of_decide_eq_true hbase

/-- The head of the data section is a piece. -/
theorem Unfolded.head (hs : s ∈ Section.model.begins) (ht : t.symbol = Grammar.dataHead)
    (h : t.Made s x) : Unfolded s x [t] [t] := by
  have hwhole : t.symbol ∉ Section.wholes := by
    rw [ht]
    decide
  exact .piece hs (entry_of_head ht ▸ Section.model.entry_mem) hwhole h

theorem symbols_of_counted (h : counted ts = [] ∨ counted ts = [σ.repetition]) :
    ∀ c ∈ ts, c.extra = false → c.symbol = σ.statement ∨ c.symbol = σ.repetition := by
  refine fun c hc he => Or.inr (symbol_of_counted (fun x hx => ?_) c hc he)
  rcases h with h | h
  · rw [h] at hx
    exact absurd hx List.not_mem_nil
  · rw [h] at hx
    exact List.mem_singleton.mp hx

/-- The children of a root, taken apart. -/
theorem exists_pieces {as : List (Nat × Symbol)} (h : MadeAll start x ts)
    (hroot : action? (gotoAll start ts) x = some (.reduce ⟨Symbol.model, (counted ts).length, as⟩)) :
    ∃ us, Unfolded start x ts us ∧ Ordered us := by
  have hword := Grammar.mem_modelWords (production_of_reduce hroot)
  rw [parts_eq, map_symbol_partsFrom] at hword
  have hmodel : counted ts = [] ∨ counted ts = [Section.model.repetition] →
      ∃ us, Unfolded start x ts us ∧ Ordered us := by
    intro hcounted
    obtain ⟨hunfolded, hsection⟩ := unfold_trees .model ts h (Or.inl Section.model.entry_mem)
      (symbols_of_counted hcounted)
    exact ⟨_, hunfolded, .model hsection⟩
  have hdata : ∀ xs ys, counted ts = xs ++ Grammar.dataHead :: ys →
      (xs = [] ∨ xs = [Section.model.repetition]) → (ys = [] ∨ ys = [Section.data.repetition]) →
      ∃ us, Unfolded start x ts us ∧ Ordered us := by
    intro xs ys hcounted hxs hys
    obtain ⟨before, t, behind, rfl, hbefore, ht, hbehind⟩ := exists_counted hcounted
    rw [madeAll_append] at h
    obtain ⟨hfirst, -, hhead, hrest⟩ := h
    have hcounts : counted before = [] ∨ counted before = [Section.model.repetition] := by
      rw [hbefore]
      exact hxs
    have hbegins := gotoAll_mem_begins hcounts
    have hbase := goto_head_mem_bases hbegins ht
    obtain ⟨hunfolded, hsection⟩ := unfold_trees .model before hfirst
      (Or.inl Section.model.entry_mem) (symbols_of_counted hcounts)
    obtain ⟨hunfolded', hsection'⟩ := unfold_trees .data behind hrest
      (Or.inl (Section.data.bases_checked _ hbase).1) (symbols_of_counted (by rw [hbehind]; exact hys))
    have hone := Unfolded.head hbegins ht.2 (hhead ht.1)
    exact ⟨_, hunfolded.append (hone.append hunfolded'), .data hsection ht hsection'⟩
  simp only [Grammar.modelWords, List.mem_cons, List.not_mem_nil, or_false] at hword
  rcases hword with hword | hword | hword | hword | hword | hword
  · exact hmodel (Or.inl hword)
  · exact hmodel (Or.inr hword)
  · exact hdata [] [] hword (Or.inl rfl) (Or.inl rfl)
  · exact hdata [_] [] hword (Or.inr rfl) (Or.inl rfl)
  · exact hdata [] [_] hword (Or.inl rfl) (Or.inr rfl)
  · exact hdata [_] [_] hword (Or.inr rfl) (Or.inr rfl)

theorem root_checked : ∀ w ∈ Grammar.modelWords, action? (walk start w) Symbol.endOfText =
    some (.reduce ⟨Symbol.model, w.length, []⟩) := by
  decide +kernel

/-- Pieces in the order of a text, put together to the children of a root. -/
theorem exists_trees (h : PiecesMade Symbol.endOfText us) (horder : Ordered us) :
    ∃ ts, MadeAll start Symbol.endOfText ts ∧ action? (gotoAll start ts) Symbol.endOfText =
      some (.reduce ⟨Symbol.model, (counted ts).length, []⟩) ∧
        Unfolded start Symbol.endOfText ts us := by
  cases horder with
  | model hus =>
    obtain ⟨ts, hts, hcounted, rfl⟩ := exists_repetition .model (List.mem_singleton_self start)
      (by decide) us hus h
    obtain ⟨hunfolded, -⟩ := unfold_trees .model ts hts (Or.inl Section.model.entry_mem)
      (symbols_of_counted hcounted)
    refine ⟨ts, hts, ?_, hunfolded⟩
    rw [gotoAll_eq_walk]
    refine root_checked _ ?_
    rcases hcounted with hcounted | hcounted
    · rw [hcounted]
      decide
    · rw [hcounted]
      decide
  | @data us vs t hus ht hvs =>
    rw [piecesMade_append] at h
    obtain ⟨hbefore, -, hhead, hbehind⟩ := h
    have hhead := hhead ht.1
    rw [entry_of_head ht.2] at hhead
    have hfollows : ahead (t :: vs) Symbol.endOfText ∈ Section.model.follows := by
      obtain ⟨y, u, hy, hu⟩ := hhead.first
      rw [ahead, firstAll?, hy]
      exact (Section.shift_alike Section.model.entry_mem hu).1
    obtain ⟨ts, hts, hcounted, rfl⟩ := exists_repetition .model (List.mem_singleton_self start)
      hfollows us hus hbefore
    have hbegins := gotoAll_mem_begins hcounted
    have hbase := goto_head_mem_bases hbegins ht
    obtain ⟨ts', hts', hcounted', rfl⟩ := exists_repetition .data hbase (by decide) vs hvs hbehind
    have hwhole : t.symbol ∉ Section.wholes := by
      rw [ht.2]
      decide
    obtain ⟨hunfolded', -⟩ := unfold_trees .data ts' hts'
      (Or.inl (Section.data.bases_checked _ hbase).1) (symbols_of_counted hcounted')
    have hhead' := (hhead.alike Section.model.entry_mem hbegins t hwhole).1
    have hahead : ∀ y, ahead (piecesAll ts') y = ahead ts' y := fun y => by
      rw [ahead, ahead, hunfolded'.first]
    have hall : MadeAll start Symbol.endOfText (ts ++ t :: ts') := by
      rw [madeAll_append]
      refine ⟨?_, fun hno => ?_, fun _ => ?_, hts'⟩
      · have hfirst : ahead (t :: ts') Symbol.endOfText =
            ahead (t :: piecesAll ts') Symbol.endOfText := by
          rw [ahead, ahead, firstAll?, firstAll?, hunfolded'.first]
        rw [hfirst]
        exact hts
      · rw [ht.1] at hno
        cases hno
      · rw [← hahead]
        exact hhead'
    refine ⟨ts ++ t :: ts', hall, ?_, ?_⟩
    · rw [gotoAll_eq_walk]
      refine root_checked _ ?_
      rw [counted_append, counted_cons, if_neg (by rw [ht.1]; exact Bool.false_ne_true), ht.2]
      rcases hcounted with hcounted | hcounted
      · rw [hcounted]
        rcases hcounted' with hcounted' | hcounted'
        · rw [hcounted']
          decide
        · rw [hcounted']
          decide
      · rw [hcounted]
        rcases hcounted' with hcounted' | hcounted'
        · rw [hcounted']
          decide
        · rw [hcounted']
          decide
    · obtain ⟨hunfolded, -⟩ := unfold_trees .model ts (madeAll_append.mp hall).1
        (Or.inl Section.model.entry_mem) (symbols_of_counted hcounted)
      rw [hahead] at hhead'
      exact hunfolded.append ((Unfolded.head hbegins ht.2 hhead').append hunfolded')
end Tree

namespace Straight

open Automaton (State Rule Section action? successor? lost start done)
open MathProg.Tree (pieceReadings readingsAll PiecesMade Ordered Unfolded counted)

variable {source y : List Char} {ts us : List Tree} {as : List (Nat × Symbol)} {t : Tree}

/-- A text that is a row of pieces up to a gap at its end. -/
structure Program (source : List Char) (us : List Tree) (y : List Char) : Prop where
  made : PiecesMade Symbol.endOfText us
  ordered : Ordered us
  read : Spelled true (pieceReadings start us) source y
  gap : Gap (pieceReadings start us).isEmpty y

theorem trees_grow (fs : List Frame) (ts : List Tree) : trees (grow fs ts) = trees fs ++ ts := by
  obtain ⟨top, htop, htrees⟩ := exists_grow fs ts
  rw [htop, trees, List.map_append, List.reverse_append, ← htrees]
  rfl

/-- All that has been put together becomes the root, but for comments at both ends. -/
theorem reduce_root (ρ : Rule) (ts : List Tree) (hρ : ρ.symbol = Symbol.model)
    (hlength : ρ.length = (counted ts).length) :
    ∃ gs before cs after, reduce ρ (grow [] ts) = some gs ∧ stateOf gs = done ∧
      trees gs = before ++ Tree.ofRule ρ cs :: after ∧ before ++ cs ++ after = ts ∧
        ∀ t ∈ after, t.extra = true := by
  have hsuccessor : ∀ es : List Tree, (∀ e ∈ es, e.extra = true) →
      (successor? (stateOf (grow [] es)) ρ.symbol).getD lost = done := by
    intro es hes
    rw [stateOf_grow, Tree.gotoAll_extras _ hes, hρ]
    exact congrArg (·.getD lost) Automaton.successor_model
  have hes : ∀ e ∈ ts.takeWhile Tree.extra, e.extra = true := fun e he => List.mem_takeWhile_imp he
  have hsplit : ts.takeWhile Tree.extra ++ ts.dropWhile Tree.extra = ts := List.takeWhile_append_dropWhile
  generalize ts.takeWhile Tree.extra = es at hes hsplit
  cases hrest : ts.dropWhile Tree.extra with
  | nil =>
    rw [hrest, List.append_nil] at hsplit
    subst hsplit
    rw [Tree.counted_extras hes] at hlength
    have hpop : popFrames (grow [] es) ρ.length [] = some ([], grow [] es) := by
      rw [hlength, List.length_nil, popFrames]
    refine ⟨pushAll ((successor? (stateOf (grow [] es)) ρ.symbol).getD lost) (grow [] es)
      [Tree.ofRule ρ []], es, [], [], by rw [reduce, hpop]; rfl, hsuccessor es hes, ?_, ?_, ?_⟩
    · rw [trees_pushAll, trees_grow]
      rfl
    · rw [List.append_nil, List.append_nil]
    · exact fun t ht => absurd ht List.not_mem_nil
  | cons c ds =>
    have hc : c.extra = false := by
      have hhead := List.head?_dropWhile_not Tree.extra ts
      rw [hrest] at hhead
      exact eq_false_of_ne_true (by simpa using hhead)
    rw [hrest] at hsplit
    subst hsplit
    obtain ⟨top, htop, htrees⟩ := exists_grow (grow [] es) (c :: ds)
    obtain ⟨happ, hcounted, hextra⟩ := Tree.splitTrailingExtras_spec (c :: ds)
    generalize (Tree.splitTrailingExtras (c :: ds)).1 = cs at happ hcounted
    generalize (Tree.splitTrailingExtras (c :: ds)).2 = after at happ hextra
    rw [Tree.counted_append, Tree.counted_extras hes, List.nil_append, ← happ, Tree.counted_append,
      Tree.counted_extras hextra, List.append_nil] at hlength
    have hred : reduce ρ (top ++ grow [] es) = _ :=
      reduce_top htrees hc (htrees.trans happ.symm) hcounted hextra hlength
    rw [← htop, ← grow_append] at hred
    refine ⟨_, es, cs, after, hred, ?_, ?_, by rw [List.append_assoc, happ], hextra⟩
    · rw [stateOf_pushAll]
      exact hsuccessor es hes
    · rw [trees_pushAll, trees_grow]
      rfl

/-- The children of a root are put together again at the end of the text. -/
theorem parse_of_parsed (h : Parsed source ts as y) :
    ∃ e, parse source = some (.accepted (.node Symbol.model as (ts ++ [.leaf e]) false)) ∧
      e.symbol = Symbol.endOfText ∧ e.extra = true ∧ e.origin = .read := by
  have hset : Settles (Tree.ahead ts Symbol.endOfText) [] [] := .refl _ _
  obtain ⟨ls, P, hrun, -, -, hsettles, hplace, hdrop⟩ := comes_trees ts h.made rfl (by decide) hset
    .zero h.read
  obtain ⟨v, hv, hnil⟩ := h.read.exists_stretch
  have hempty : (readingsAll start start ts).isEmpty = ((0 + Tree.totalAll ts).chars == 0) := by
    have hlength := congrArg List.length hv
    have hbound := hplace.bound
    rw [← hdrop, List.length_append, List.length_drop] at hlength
    rw [Bool.eq_iff_iff, List.isEmpty_iff, ← hnil, beq_iff_eq, ← List.length_eq_zero_iff]
    omega
  have hgap : Gap ((0 + Tree.totalAll ts).bytes == 0) (source.drop (0 + Tree.totalAll ts).chars) := by
    rw [hplace.atStart, ← hempty, hdrop]
    exact h.gap
  have hsight : sight source P (0 + Tree.totalAll ts) = _ := sight_end hgap
  obtain ⟨gs, before, cs, after, hred, hstate, htrees, hts, hafter⟩ :=
    reduce_root ⟨Symbol.model, (counted ts).length, as⟩ ts rfl rfl
  refine ⟨sight source P (0 + Tree.totalAll ts), parse_of_run hrun ⟨?_, gs, ?_, ?_, ?_⟩, ?_, ?_, ?_⟩
  · rw [hsight]
  · refine hsettles.reduces.trans (.step ?_ hred (.refl gs))
    rw [stateOf_grow]
    exact h.root
  · rw [hstate]
    decide +kernel
  · have hafter' : ∀ u ∈ after ++ [Tree.leaf (sight source P (0 + Tree.totalAll ts))],
        u.extra = true := by
      refine List.forall_mem_append.mpr ⟨hafter, List.forall_mem_singleton.mpr ?_⟩
      rw [hsight]
      rfl
    rw [htrees, List.append_assoc, List.cons_append, Tree.ofRule, Tree.root?_eq hafter', ← hts,
      List.append_assoc (before ++ cs)]
  · rw [hsight]
  · rw [hsight]
  · rw [hsight]

/-- The pieces of a text that is accepted. -/
theorem Parsed.program (h : Parsed source ts as y) :
    ∃ us, Unfolded start Symbol.endOfText ts us ∧ Program source us y := by
  obtain ⟨us, hunfolded, hordered⟩ := Tree.exists_pieces h.made h.root
  refine ⟨us, hunfolded, hunfolded.made, hordered, ?_, ?_⟩
  · rw [hunfolded.readings]
    exact h.read
  · rw [hunfolded.readings]
    exact h.gap

/-- A text that is a row of pieces is accepted. -/
theorem Program.parsed (h : Program source us y) :
    ∃ ts, Unfolded start Symbol.endOfText ts us ∧ Parsed source ts [] y := by
  obtain ⟨ts, hmade, hroot, hunfolded⟩ := Tree.exists_trees h.made h.ordered
  refine ⟨ts, hunfolded, hmade, hroot, ?_, ?_⟩
  · rw [← hunfolded.readings]
    exact h.read
  · rw [← hunfolded.readings]
    exact h.gap

end Straight

end MathProg
