import MathProg.Proofs.Parsing.Elsewhere

/-!
# Texts put together, and statements alone

Behind statements of the model and a line feed another text is read as it is read by itself. And each
statement is a text of its own, a statement of the data section behind the head of one.
-/

namespace MathProg

open Automaton (State Section mode modeIndex start action?)

theorem Extent.sum_append (as bs : List Extent) : Extent.sum (as ++ bs) = Extent.sum as + Extent.sum bs := by
  induction as with
  | nil => exact (Extent.zero_add _).symm
  | cons a as ih => rw [List.cons_append, Extent.sum, ih, Extent.sum, Extent.add_assoc]

/-- Blanks behind a gap belong to it. -/
theorem Gap.append_blanks {atStart : Bool} {g v : List Char} (h : Gap atStart g)
    (hv : ∀ c ∈ v, isBlank c = true) : Gap atStart (g ++ v) := by
  rcases h with hblank | ⟨hstart, u, rfl, hblank⟩
  · exact Or.inl (List.forall_mem_append.mpr ⟨hblank, hv⟩)
  · exact Or.inr ⟨hstart, u ++ v, rfl, List.forall_mem_append.mpr ⟨hblank, hv⟩⟩

/-- A gap that does not begin with a byte order mark consists of blanks. -/
theorem Gap.blanks {atStart : Bool} {g z : List Char} (h : Gap atStart g)
    (hmark : (g ++ z).head? ≠ some byteOrderMark) : ∀ c ∈ g, isBlank c = true := by
  rcases h with hblank | ⟨-, u, rfl, -⟩
  · exact hblank
  · exact absurd rfl hmark

theorem isBlank_lineFeed_cons {v : List Char} (hv : ∀ c ∈ v, isBlank c = true) :
    ∀ c ∈ '\n' :: v, isBlank c = true :=
  List.forall_mem_cons.mpr ⟨by decide, hv⟩

namespace Tree

variable {σ : Section} {s r : State} {x y : Symbol} {t u : Tree} {us vs : List Tree}

/-- How far the leaves reach that are read one after the other. -/
def reach (ls : List (State × Leaf)) : Extent := Extent.sum (ls.map fun m => (leaf m.2).total)

theorem reach_append (ls ms : List (State × Leaf)) : reach (ls ++ ms) = reach ls + reach ms := by
  rw [reach, List.map_append, Extent.sum_append]
  rfl

mutual

theorem reach_readings : ∀ (s r : State) (t : Tree), reach (readings s r t) = t.total
  | _, _, leaf _ => Extent.add_zero _
  | s, r, node _ _ cs _ => by
    rw [readings, reach_readingsAll s r cs, total_node]

theorem reach_readingsAll : ∀ (s r : State) (ts : List Tree), reach (readingsAll s r ts) = totalAll ts
  | _, _, [] => rfl
  | s, r, t :: ts => by
    rw [readingsAll, reach_append, reach_readings s r t, reach_readingsAll _ _ ts, totalAll_cons]

end

theorem reach_pieces (r : State) (us : List Tree) : reach (pieceReadings r us) = totalAll us := by
  induction us generalizing r with
  | nil => rfl
  | cons u us ih => rw [pieceReadings, reach_append, reach_readings, ih, totalAll_cons]

end Tree

open MathProg.Tree (reach pieceReadings piecePending PiecesMade OfSection Ordered behind behindAll totalAll)

/-- The text of some leaves reaches as far as they do. -/
theorem Straight.Spelled.extent {atStart : Bool} {ls : List (State × Leaf)} {v y : List Char}
    (h : Straight.Spelled atStart ls (v ++ y) y) : Extent.ofChars v = reach ls := by
  generalize hx : v ++ y = x at h
  induction h generalizing v with
  | nil =>
    obtain rfl : v = [] := List.append_left_eq_self.mp hx
    rfl
  | @cons _ _ l _ g w _ _ h _ hs ih =>
    obtain ⟨u, rfl, -⟩ := hs.exists_stretch
    obtain rfl : v = g ++ (w ++ u) := by
      rw [← List.append_assoc, ← List.append_assoc, List.append_assoc g] at hx
      exact List.append_cancel_right hx
    have hleaf := h.leaf
    have htotal : (Tree.leaf l).total = Extent.ofChars g + Extent.ofChars w :=
      congrArg₂ (· + ·) (congrArg Leaf.padding hleaf) (congrArg Leaf.size hleaf)
    rw [Extent.ofChars_append, Extent.ofChars_append, ih rfl, reach, reach, List.map_cons, Extent.sum,
      htotal, Extent.add_assoc]

namespace Tree

open Straight (Spelled Closes Program)

variable {σ : Section} {s r : State} {x y : Symbol} {t u : Tree} {us vs : List Tree}

/-- Pieces of a section are made before each of the tokens that may follow. -/
theorem PiecesMade.before (h : PiecesMade x us) (hus : OfSection σ us) (hy : y ∈ σ.follows) :
    PiecesMade y us := by
  induction us with
  | nil => trivial
  | cons u us ih =>
    obtain ⟨hcomment, hcounts, hrest⟩ := h
    have hus' : OfSection σ us := fun v hv => hus v (List.mem_cons_of_mem _ hv)
    have hrest' := ih hrest hus'
    refine ⟨hcomment, fun hu => ?_, hrest'⟩
    have hends : u.symbol ∈ σ.ends := by
      rw [hus u List.mem_cons_self hu]
      exact σ.statement_mem_ends
    exact (Made.ends u (hcounts hu) hends).1 _ (ahead_mem_follows hrest' hus'.entry hy)

/-- Behind pieces of a section the next token is read in one of a few modes. -/
theorem modeIndex_pending (h : PiecesMade x us) (hus : OfSection σ us) (hr : modeIndex r ∈ σ.modes) :
    modeIndex (piecePending r us) ∈ σ.modes := by
  induction us generalizing r with
  | nil => exact hr
  | cons u us ih =>
    obtain ⟨hcomment, hcounts, hrest⟩ := h
    refine ih hrest (fun v hv => hus v (List.mem_cons_of_mem _ hv)) ?_
    by_cases hu : u.extra = true
    · rw [pending_comment (hcomment hu)]
      exact hr
    · have hu := eq_false_of_ne_true hu
      have hends : u.symbol ∈ σ.ends := by
        rw [hus u List.mem_cons_self hu]
        exact σ.statement_mem_ends
      exact (Made.ends u (hcounts hu) hends).2.2 _

/-- The last leaf of some pieces ends a statement or is a comment. -/
theorem exists_last (h : PiecesMade x us) (hus : OfSection σ us) (hne : us ≠ []) (r : State) :
    ∃ m, (pieceReadings r us).getLast? = some m ∧ (m.2.symbol = Symbol.semicolon ∨
      m.2.symbol = Symbol.closingBrace ∨ m.2.symbol = Symbol.comment) := by
  induction us generalizing r with
  | nil => exact absurd rfl hne
  | cons u us ih =>
    obtain ⟨hcomment, hcounts, hrest⟩ := h
    rw [pieceReadings, List.getLast?_append]
    by_cases hnil : us = []
    · subst hnil
      by_cases hu : u.extra = true
      · obtain ⟨l, rfl, -, hl⟩ := (hcomment hu).eq_leaf
        exact ⟨_, rfl, Or.inr (Or.inr hl)⟩
      · have hu := eq_false_of_ne_true hu
        have hends : u.symbol ∈ σ.ends := by
          rw [hus u List.mem_cons_self hu]
          exact σ.statement_mem_ends
        obtain ⟨m, hm, hsymbol⟩ := (Made.ends u (hcounts hu) hends).2.1 r
        exact ⟨m, hm, hsymbol.imp_right Or.inl⟩
    · obtain ⟨m, hm, hsymbol⟩ := ih hrest (fun v hv => hus v (List.mem_cons_of_mem _ hv)) hnil
        (pending u.entry r u)
      exact ⟨m, by rw [hm]; rfl, hsymbol⟩

theorem closes_pieces {z z' : List Char} (h : PiecesMade x us) (hus : OfSection σ us) (r : State)
    (hz : ∀ c ∈ z'.head?, c ∈ z.head? ∨ c = '\n' ∨ c = '\x00') :
    Closes (pieceReadings r us) z z' := by
  intro m hm
  by_cases hnil : us = []
  · subst hnil
    cases hm
  · obtain ⟨m', hm', hsymbol⟩ := exists_last h hus hnil r
    obtain rfl : m' = m := Option.some.inj (hm'.symm.trans hm)
    exact hsymbol.imp_right (Or.imp_right fun hcomment => ⟨hcomment, hz⟩)

theorem readings_ne_nil (h : PiecesMade x us) (hne : us ≠ []) (r : State) : pieceReadings r us ≠ [] := by
  cases us with
  | nil => exact absurd rfl hne
  | cons u us =>
    obtain ⟨hcomment, hcounts, -⟩ := h
    rw [pieceReadings]
    refine List.append_ne_nil_of_left_ne_nil ?_ _
    by_cases hu : u.extra = true
    · obtain ⟨l, rfl, -⟩ := (hcomment hu).eq_leaf
      exact List.cons_ne_nil _ _
    · obtain ⟨l, ls, hbegins⟩ := (hcounts (eq_false_of_ne_true hu)).begins
      have hreadings := hbegins.readings r l.padding
      rw [hbegins.same] at hreadings
      rw [hreadings]
      exact List.cons_ne_nil _ _

/-- A text begins with a statement of the model or the head of the data section. -/
theorem Ordered.entry (h : Ordered us) : ∀ u ∈ us.find? (!·.extra), u.entry ∈ Section.model.begins := by
  cases h with
  | model hus => exact hus.entry
  | @data us vs t hus ht hvs =>
    intro u hu
    rw [List.find?_append] at hu
    cases hfind : us.find? (!·.extra) with
    | some v =>
      rw [hfind] at hu
      obtain rfl : v = u := Option.some.inj hu
      exact hus.entry _ hfind
    | none =>
      rw [hfind, Option.none_or, List.find?_cons_of_pos (by rw [ht.1]; rfl)] at hu
      obtain rfl := Option.some.inj hu
      rw [entry_of_head ht.2]
      exact Section.model.entry_mem

theorem Ordered.prepend (h : Ordered us) (hvs : OfSection .model vs) : Ordered (vs ++ us) := by
  cases h with
  | model hus => exact .model (hvs.append hus)
  | data hus ht hws =>
    rw [← List.append_assoc]
    exact .data (hvs.append hus) ht hws

/-- Without a head of a data section all statements are of the model. -/
theorem Ordered.ofSection (h : Ordered us)
    (hno : ¬ ∃ t ∈ us, t.extra = false ∧ t.symbol = Grammar.dataHead) : OfSection .model us := by
  cases h with
  | model hus => exact hus
  | data _ ht _ => exact absurd ⟨_, List.mem_append_right _ List.mem_cons_self, ht⟩ hno

/-- A statement is one of the model with none of the data before it, or behind the head of the data
section. -/
theorem Ordered.split (h : Ordered (us ++ u :: vs)) (hu : u.extra = false)
    (hhead : u.symbol ≠ Grammar.dataHead) :
    (OfSection .model us ∧ u.symbol = Section.model.statement) ∨
      ∃ before t behind, us = before ++ t :: behind ∧ OfSection .model before ∧
        (t.extra = false ∧ t.symbol = Grammar.dataHead) ∧ OfSection .data behind ∧
          u.symbol = Section.data.statement := by
  generalize hall : us ++ u :: vs = ws at h
  cases h with
  | model hws =>
    subst hall
    exact Or.inl ⟨fun v hv => hws v (List.mem_append_left _ hv),
      hws u (List.mem_append_right _ List.mem_cons_self) hu⟩
  | @data before behind t hbefore ht hbehind =>
    rcases List.append_eq_append_iff.mp hall with ⟨as, hbs, has⟩ | ⟨as, hus, has⟩
    · cases as with
      | nil =>
        obtain ⟨rfl, -⟩ := List.cons.inj has
        exact absurd ht.2 hhead
      | cons a as =>
        obtain ⟨rfl, -⟩ := List.cons.inj has
        rw [hbs] at hbefore
        exact Or.inl ⟨fun v hv => hbefore v (List.mem_append_left _ hv),
          hbefore u (List.mem_append_right _ List.mem_cons_self) hu⟩
    · cases as with
      | nil =>
        obtain ⟨rfl, -⟩ := List.cons.inj has
        exact absurd ht.2 hhead
      | cons a as =>
        obtain ⟨rfl, hrest⟩ := List.cons.inj has
        rw [hrest] at hbehind
        exact Or.inr ⟨before, t, as, hus, hbefore, ht,
          fun v hv => hbehind v (List.mem_append_left _ hv),
          hbehind u (List.mem_append_right _ List.mem_cons_self) hu⟩

end Tree

namespace Straight

variable {σ : Section} {source source' y y' : List Char} {us vs us' : List Tree} {u : Tree} {x : Symbol}
  {r r' : State}

theorem modeIndex_start : modeIndex start ∈ Section.model.modes := by decide +kernel

/-- Behind a text without a data section and a line feed another text is read as it is by itself, but for the
gap before it. -/
theorem Program.append (h : Program source us y) (hus : OfSection .model us)
    (h' : Program source' us' y') (hmark : source'.head? ≠ some byteOrderMark) :
    ∃ p z, Program (source ++ '\n' :: source') (us ++ behindAll p us') z ∧
      totalAll us + p = Extent.ofChars (source ++ ['\n']) + Tree.paddingFirst us' := by
  obtain ⟨v, rfl, hv⟩ := h.read.exists_stretch
  have hextent : Extent.ofChars v = totalAll us := by
    rw [h.read.extent, Tree.reach_pieces]
  -- what is behind the pieces of the first text begins with its gap and the line feed
  have hagain : ∀ z, (pieceReadings start us = [] ∨ ∀ c ∈ y, isBlank c = true) →
      Spelled true (pieceReadings start us) (v ++ (y ++ '\n' :: z)) (y ++ '\n' :: z) := by
    intro z hy
    by_cases hnil : pieceReadings start us = []
    · rw [hnil, hv.mpr hnil]
      exact .nil _ _
    · refine h.read.again ?_ (Tree.closes_pieces h.made hus start ?_)
      · cases y with
        | nil =>
          rintro _ ⟨⟩
          decide
        | cons c cs =>
          rintro _ ⟨⟩
          exact hy.resolve_left hnil c List.mem_cons_self
      · cases y with
        | nil =>
          rintro _ ⟨⟩
          exact Or.inr (Or.inl rfl)
        | cons c cs => exact fun _ hc => Or.inl hc
  have hgap : pieceReadings start us = [] ∨ ∀ c ∈ y, isBlank c = true := by
    rcases h.gap with hblank | ⟨hempty, -⟩
    · exact Or.inr hblank
    · exact Or.inl (List.isEmpty_iff.mp hempty)
  by_cases hnil : us' = []
  · subst hnil
    cases h'.read
    have hblank := h'.gap.blanks (z := []) (by rwa [List.append_nil])
    refine ⟨Extent.ofChars (y ++ ['\n']), y ++ '\n' :: source', ?_, ?_⟩
    · rw [behindAll, List.append_nil, List.append_assoc]
      exact ⟨h.made, h.ordered, hagain _ hgap, h.gap.append_blanks (isBlank_lineFeed_cons hblank)⟩
    · rw [Tree.paddingFirst, Extent.add_zero, List.append_assoc, Extent.ofChars_append v, hextent]
  · have hentry := h'.ordered.entry
    have hmode := Tree.modeIndex_pending h.made hus modeIndex_start
    obtain ⟨g, z, rfl, hg, hpadding, -, -, hread⟩ := Tree.spelled_elsewhere hnil h'.made hentry
      (Section.narrows_of_modes modeIndex_start hmode) h'.read
    have hblank := hg.blanks hmark
    have hmade := Tree.piecesMade_behindAll (Extent.ofChars (y ++ '\n' :: g)) h'.made
    have horder := h'.ordered.behindAll (Extent.ofChars (y ++ '\n' :: g))
    refine ⟨Extent.ofChars (y ++ '\n' :: g), y', ⟨?_, horder.prepend hus, ?_, ?_⟩, ?_⟩
    · rw [Tree.piecesMade_append]
      refine ⟨h.made.before hus ?_, hmade⟩
      exact Tree.ahead_mem_follows hmade horder.entry (by decide)
    · rw [Tree.pieceReadings_append, List.append_assoc]
      have hfirst := hagain (g ++ z) hgap
      refine hfirst.append ?_
      rw [show y ++ '\n' :: (g ++ z) = (y ++ '\n' :: g) ++ z by rw [List.append_assoc]; rfl]
      exact hread _ _ (h.gap.append_blanks (isBlank_lineFeed_cons hblank))
    · refine Or.inl (h'.gap.resolve_right fun hno => ?_)
      exact Tree.readings_ne_nil h'.made hnil start (List.isEmpty_iff.mp hno.1)
    · rw [hpadding, ← hextent, ← Extent.ofChars_append, ← Extent.ofChars_append, List.append_assoc,
        List.append_assoc]
      rfl

/-- The text of a statement by itself, read in another state. -/
theorem Spelled.alone {atStart : Bool} {X : List Char}
    (h : Spelled atStart (pieceReadings r (u :: vs)) X y) (hmade : u.Made u.entry x)
    (hu : u.symbol = σ.statement) (hm : σ.narrows (mode r) (mode r') = true) :
    ∃ g w z, X = g ++ (w ++ z) ∧ u.padding = Extent.ofChars g ∧
      u.total = Extent.ofChars (g ++ w) ∧
        ∀ atStart', Spelled atStart' (pieceReadings r' [behind 0 u]) w [] := by
  rw [pieceReadings] at h
  obtain ⟨rest, hfirst, -⟩ := h.split
  obtain ⟨v, rfl, -⟩ := hfirst.exists_stretch
  have hends : u.symbol ∈ σ.ends := by
    rw [hu]
    exact σ.statement_mem_ends
  have hpieces : PiecesMade Symbol.endOfText [u] := by
    refine ⟨fun hno => ?_, fun _ => (Tree.Made.ends u hmade hends).1 _ σ.endOfText_mem, trivial⟩
    rw [hmade.extra] at hno
    cases hno
  have hsection : OfSection σ [u] := List.forall_mem_singleton.mpr fun _ => hu
  have hcut : Spelled atStart (pieceReadings r [u]) (v ++ []) [] := by
    have hcloses : Closes (pieceReadings r [u]) rest [] := Tree.closes_pieces hpieces hsection r
      fun c hc => absurd hc (Option.not_mem_none c)
    rw [pieceReadings, pieceReadings, List.append_nil] at hcloses ⊢
    exact hfirst.again (fun c hc => absurd hc (Option.not_mem_none c)) hcloses
  obtain ⟨g, w, hgw, -, hpadding, -, -, hread⟩ := Tree.spelled_elsewhere (List.cons_ne_nil _ _) hpieces
    hsection.entry hm hcut
  rw [List.append_nil] at hgw
  subst hgw
  refine ⟨g, w, rest, List.append_assoc _ _ _, hpadding, ?_, fun atStart' => ?_⟩
  · have hextent := hcut.extent
    rw [Tree.reach_pieces, Tree.totalAll_cons, Tree.totalAll, Extent.add_zero] at hextent
    exact hextent.symm
  · exact hread atStart' [] (Or.inl fun c hc => absurd hc List.not_mem_nil)

def dataLeaf : Leaf := ⟨Symbol.dataWord, 0, Extent.ofChars "data".toList, false, .read⟩

def semicolonLeaf : Leaf := ⟨Symbol.semicolon, 0, Extent.ofChars ";".toList, false, .read⟩

/-- The head of a data section. -/
def dataHead : Tree := .node Grammar.dataHead [] [.leaf dataLeaf, .leaf semicolonLeaf] false

theorem dataHead_checked : action? start Symbol.dataWord = some (.shift 35) ∧
    Tree.goto start (.leaf dataLeaf) = 35 ∧ action? 35 Symbol.semicolon = some (.shift 125) ∧
      Tree.goto 35 (.leaf semicolonLeaf) = 125 ∧ modeIndex 125 ∈ Section.data.narrow ∧
        ∀ y ∈ Section.data.follows, action? 125 y = some (.reduce ⟨Grammar.dataHead, 2, []⟩) := by
  decide +kernel

theorem dataHead_made (hx : x ∈ Section.data.follows) : dataHead.Made start x := by
  obtain ⟨hdata, hgoto, hsemicolon, hgoto', -, hreduce⟩ := dataHead_checked
  refine ⟨rfl, ⟨_, _, rfl, rfl⟩, Or.inr ⟨[.leaf dataLeaf], _, rfl, rfl⟩, ⟨fun hno => ?_, fun _ => ⟨rfl, ?_⟩,
    fun hno => ?_, fun _ => ⟨rfl, ?_⟩, trivial⟩, ?_⟩
  · cases hno
  · rw [hgoto]
    exact hdata
  · cases hno
  · rw [hgoto, hgoto']
    exact hsemicolon
  · change action? (Tree.goto (Tree.goto start (.leaf dataLeaf)) (.leaf semicolonLeaf)) x = _
    rw [hgoto, hgoto']
    exact hreduce x hx

theorem readings_dataHead :
    Tree.readings start start dataHead = [(start, dataLeaf), (35, semicolonLeaf)] := by
  obtain ⟨-, hgoto, -⟩ := dataHead_checked
  rw [← hgoto]
  rfl

theorem pending_dataHead : Tree.pending start start dataHead = 125 := by
  obtain ⟨-, hgoto, -, hgoto', -⟩ := dataHead_checked
  change Tree.goto (Tree.goto start (.leaf dataLeaf)) (.leaf semicolonLeaf) = 125
  rw [hgoto, hgoto']

set_option maxRecDepth 4000 in
/-- The two tokens of the head are read whatever comes behind them. -/
theorem token_dataHead (w : List Char) :
    (mode start).token? 0 ("data".toList ++ ';' :: w) = some (Symbol.dataWord, 4) ∧
      (mode 35).token? 0 (";".toList ++ w) = some (Symbol.semicolon, 1) := by
  constructor
  · rfl
  · rfl

theorem lexeme_dataHead : Lexeme Symbol.dataWord "data".toList ∧ Lexeme Symbol.semicolon ";".toList := by
  rw [Symbol.lexeme_iff_text (by decide +kernel), Symbol.lexeme_iff_text (by decide +kernel)]
  decide +kernel

theorem spelled_dataHead (w : List Char) :
    Spelled true (Tree.readings start start dataHead) ("data;".toList ++ w) w := by
  obtain ⟨hdata, hsemicolon⟩ := token_dataHead w
  obtain ⟨hlexeme, hlexeme'⟩ := lexeme_dataHead
  have hgap : ∀ b, Gap b [] := fun b => Or.inl fun c hc => absurd hc List.not_mem_nil
  rw [readings_dataHead]
  change Spelled true _ ([] ++ ("data".toList ++ ';' :: w)) w
  refine .cons ⟨rfl, hgap true, ⟨'d', rfl, by decide⟩, hlexeme, hdata⟩ (fun hno => ?_) ?_
  · cases hno
  · change Spelled false _ ([] ++ (";".toList ++ w)) w
    refine .cons ⟨rfl, hgap false, ⟨';', rfl, by decide⟩, hlexeme', hsemicolon⟩ (fun hno => ?_) (.nil _ _)
    cases hno

/-- The text of a statement, at its place in a whole text, is a text by itself if it is one of the model, and
else behind the head of a data section. -/
theorem Program.alone (h : Program source (us ++ u :: vs) y) (hu : u.extra = false)
    (hhead : u.symbol ≠ Grammar.dataHead) :
    ∃ v g w z, source = v ++ (g ++ (w ++ z)) ∧ Extent.ofChars v = totalAll us ∧
      u.padding = Extent.ofChars g ∧ u.total = Extent.ofChars (g ++ w) ∧
        ((OfSection .model us ∧ Program w [behind 0 u] []) ∨
          (∃ t ∈ us, t.extra = false ∧ t.symbol = Grammar.dataHead) ∧
            Program ("data;".toList ++ w) [dataHead, behind 0 u] []) := by
  obtain ⟨hbefore, -, hcounts, -⟩ := Tree.piecesMade_append.mp h.made
  have hmade := hcounts hu
  have hread := h.read
  rw [Tree.pieceReadings_append] at hread
  obtain ⟨rest, hfirst, hrest⟩ := hread.split
  obtain ⟨v, rfl, -⟩ := hfirst.exists_stretch
  have hextent := hfirst.extent
  rw [Tree.reach_pieces] at hextent
  have hpieces : ∀ {σ : Section}, u.symbol = σ.statement → PiecesMade Symbol.endOfText [behind 0 u] := by
    intro σ hσ
    have hends : u.symbol ∈ σ.ends := hσ ▸ σ.statement_mem_ends
    refine ⟨fun hno => ?_, fun _ => ?_, trivial⟩
    · rw [Tree.extra_behind, hu] at hno
      cases hno
    · rw [Tree.entry_behind]
      exact ((Tree.Made.ends u hmade hends).1 _ σ.endOfText_mem).behind 0
  have hgap : ∀ b, Gap b [] := fun b => Or.inl fun c hc => absurd hc List.not_mem_nil
  have hsection : ∀ {σ : Section}, u.symbol = σ.statement → OfSection σ [behind 0 u] := fun hσ =>
    List.forall_mem_singleton.mpr fun _ => (Tree.symbol_behind 0 u).trans hσ
  rcases h.ordered.split hu hhead with ⟨hus, hσ⟩ | ⟨before, t, behind', rfl, hbefore', ht, hbehind, hσ⟩
  · have hmode := Tree.modeIndex_pending hbefore hus modeIndex_start
    obtain ⟨g, w, z, rfl, hpadding, htotal, hread⟩ := hrest.alone hmade hσ
      (Section.narrows_of_modes hmode modeIndex_start)
    exact ⟨v, g, w, z, rfl, hextent, hpadding, htotal,
      Or.inl ⟨hus, hpieces hσ, .model (hsection hσ), hread true, hgap _⟩⟩
  · obtain ⟨-, -, hcounts', hbehind'⟩ := Tree.piecesMade_append.mp hbefore
    have hmode : modeIndex (piecePending start (before ++ t :: behind')) ∈ Section.data.modes := by
      rw [Tree.piecePending_append, Tree.piecePending]
      have hends : t.symbol ∈ Section.data.ends := by
        rw [ht.2]
        decide
      exact Tree.modeIndex_pending hbehind' hbehind ((Tree.Made.ends t (hcounts' ht.1) hends).2.2 _)
    have hnarrow := dataHead_checked.2.2.2.2.1
    obtain ⟨g, w, z, rfl, hpadding, htotal, hread⟩ := hrest.alone hmade hσ
      (Section.narrows_of_modes hmode hnarrow)
    refine ⟨v, g, w, z, rfl, hextent, hpadding, htotal,
      Or.inr ⟨⟨t, List.mem_append_right _ List.mem_cons_self, ht⟩, ?_, ?_, ?_, hgap _⟩⟩
    · refine ⟨fun hno => absurd hno Bool.false_ne_true, fun _ => ?_, hpieces hσ⟩
      rw [Tree.entry_of_head rfl]
      exact dataHead_made (Tree.ahead_mem_follows (hpieces hσ) (hsection hσ).entry
        Section.data.endOfText_mem)
    · have hnone : OfSection .model [] := fun _ hno => absurd hno List.not_mem_nil
      exact show Ordered ([] ++ dataHead :: [behind 0 u]) from .data hnone ⟨rfl, rfl⟩ (hsection hσ)
    · rw [pieceReadings, Tree.entry_of_head rfl]
      refine (spelled_dataHead w).append ?_
      rw [show Section.model.entry = start from rfl, pending_dataHead]
      exact hread _

end Straight

end MathProg
