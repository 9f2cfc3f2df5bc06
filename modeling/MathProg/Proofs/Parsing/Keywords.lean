import MathProg.Proofs.Parsing.Fresh
import MathProg.Proofs.Parsing.Lossless
import MathProg.Proofs.Parsing.Moves

/-!
# Keywords in a tree

Every leaf of a tree without errors was read in a mode of the table. So a keyword among the leaves is a
whole word, unless it is one that some mode has without names and that need not have a mark behind it.
-/

namespace MathProg

namespace Grammar

/-- The symbols whose text begins with a mark: a semicolon, or a brace. -/
def marks : List Symbol := [3, 40, indexingExpression]

/-- Whether each of the marked keywords has a mark behind it. -/
def isMarked : List Part → Bool
  | [] => true
  | [p] => !Symbol.markedKeywords.contains p.symbol
  | p :: q :: ps =>
    (!Symbol.markedKeywords.contains p.symbol || marks.contains q.symbol) && isMarked (q :: ps)

/-- In all productions, numbers show as numbers, marked keywords have a mark behind them, indexing
expressions begin with a brace, and tokens are not made of anything. -/
theorem productions_checked : ∀ rule ∈ rules.productions,
    (∀ p ∈ rule.2, p.symbol = Symbol.number → p.shownAs = none) ∧ isMarked rule.2 = true ∧
      (rule.1 = indexingExpression → rule.2.head?.map Part.symbol = some 40) ∧
        Symbol.tokenCount ≤ rule.1 := by
  decide +kernel

/-- What stands behind the first part of a row. -/
theorem marked_behind {p : Part} {ps : List Part} (h : isMarked (p :: ps) = true) :
    isMarked ps = true ∧ (p.symbol ∈ Symbol.markedKeywords → ∃ q qs, ps = q :: qs ∧ q.symbol ∈ marks) := by
  cases ps with
  | nil => exact ⟨rfl, fun hp => by simp [isMarked, hp] at h⟩
  | cons q ps =>
    rw [isMarked, Bool.and_eq_true, Bool.or_eq_true, Bool.not_eq_true'] at h
    refine ⟨h.2, fun hp => ⟨q, ps, rfl, ?_⟩⟩
    simpa [hp] using h.1

end Grammar

/-- Whether what is before a place cannot be the beginning of a longer name. -/
def Breaks (source : List Char) (place : Nat) : Prop := ∀ c ∈ source[place]?, isNameChar c = false

theorem not_isNameChar_of_isBlank {c : Char} (h : isBlank c = true) : isNameChar c = false := by
  by_contra hc
  rw [Bool.not_eq_false] at hc
  rw [isBlank_of_isNameChar hc] at h
  cases h

/-- What is skipped before a token is no part of a name, and neither is a comment, a semicolon or a
brace. -/
theorem Leaf.IsToken.breaks {source : List Char} {place : Nat} {l : Leaf} (h : l.IsToken source place)
    (hs : l.symbol = Symbol.comment ∨ l.symbol = 3 ∨ l.symbol = 40) : Breaks source place := by
  intro c hc
  have hdrop : (source.drop place).head? = some c := by rw [List.head?_drop]; exact hc
  obtain ⟨rest, hrest⟩ := List.head?_eq_some_iff.mp hdrop
  have hbegins : l.begins place - place = l.padding.chars := Nat.add_sub_cancel_left _ _
  by_cases hpad : l.padding.chars = 0
  · -- the token begins here
    have hplace : l.begins place = place := by rw [Leaf.begins, hpad, Nat.add_zero]
    have hfirst : ∀ d w, l.text source place = d :: w → d = c := by
      intro d w hw
      have hprefix : l.text source place <+: source.drop (l.begins place) := List.take_prefix _ _
      rw [hw, hplace, hrest, List.cons_prefix_cons] at hprefix
      exact hprefix.1
    have hlex := h.lexeme
    rcases hs with hs | hs | hs
    · rw [hs] at hlex
      obtain ⟨body, -, hw⟩ | ⟨body, -, hw⟩ : Lexeme.Comment _ := hlex
      · rw [← hfirst _ _ hw]
        rfl
      · rw [← hfirst _ _ hw]
        rfl
    · rw [hs] at hlex
      have hw := Symbol.text_of_lexeme (by decide) hlex
      rw [← hfirst ';' [] (hw.symm.trans (by decide +kernel))]
      rfl
    · rw [hs] at hlex
      have hw := Symbol.text_of_lexeme (by decide) hlex
      rw [← hfirst '\x7b' [] (hw.symm.trans (by decide +kernel))]
      rfl
  · have hgap := h.gap
    rw [slice, hbegins, hrest] at hgap
    obtain ⟨k, hk⟩ := Nat.exists_eq_succ_of_ne_zero hpad
    rw [hk, List.take_succ_cons] at hgap
    rcases hgap with hblank | ⟨-, v, hv, -⟩
    · exact not_isNameChar_of_isBlank (hblank c List.mem_cons_self)
    · rw [(List.cons.inj hv).1]
      decide

namespace Tree

variable {source : List Char} {place : Nat}

theorem Derived.breaks_leaf {t : Tree} (h : t.Derived source place)
    (hs : t.symbol = Symbol.comment ∨ t.symbol = 3 ∨ t.symbol = 40) : Breaks source place := by
  cases t with
  | leaf l => exact Leaf.IsToken.breaks h hs
  | node s as cs e =>
    have hle : Symbol.tokenCount ≤ s := (Grammar.productions_checked _ h.2.1).2.2.2
    have hlt : s < Symbol.tokenCount := by
      rcases hs with rfl | rfl | rfl <;> decide
    exact absurd hle (Nat.not_le_of_lt hlt)

/-- What begins with a comment, or else with the first part of a row. -/
theorem DerivedAll.first {as : List (Nat × Symbol)} {i : Nat} {cs : List Tree} {x : Symbol}
    (h : DerivedAll source place cs) (hx : (parts as i cs).head?.map Grammar.Part.symbol = some x) :
    ∃ c : Tree, c.Derived source place ∧ (c.symbol = Symbol.comment ∨ c.symbol = x) := by
  cases cs with
  | nil => cases hx
  | cons c cs =>
    obtain ⟨hextra, hc, -⟩ := h
    by_cases he : c.extra = true
    · exact ⟨c, hc, Or.inl (hextra he)⟩
    · rw [parts, if_neg he] at hx
      exact ⟨c, hc, Or.inr (Option.some.inj hx)⟩

theorem Derived.breaks {t : Tree} (h : t.Derived source place)
    (hs : t.symbol = Symbol.comment ∨ t.symbol ∈ Grammar.marks) : Breaks source place := by
  by_cases hindexing : t.symbol = Grammar.indexingExpression
  · cases t with
    | leaf l =>
      have hlt : Grammar.indexingExpression < Symbol.tokenCount := hindexing ▸ Leaf.IsToken.token h
      exact absurd hlt (by decide)
    | node s as cs e =>
      obtain ⟨-, hprod, hcs⟩ := h
      obtain ⟨c, hc, hfirst⟩ := hcs.first ((Grammar.productions_checked _ hprod).2.2.1 hindexing)
      exact hc.breaks_leaf (hfirst.imp_right Or.inr)
  · refine h.breaks_leaf (hs.imp_right fun hmark => ?_)
    simpa [Grammar.marks, hindexing] using hmark

end Tree

namespace Node

variable {source : List Char} {P : Nat → Leaf → Prop}

/-- A leaf that shows a literal: its text consists of letters and digits. -/
def isKeyword (source : List Char) (n : Node) : Bool :=
  (!n.isNamed || n.kind == "operator" || n.kind == "function_name")
    && (n.text source).all Char.isAlphanum

/-- A node that shows a leaf, which a mode of the table reads there, and of which something holds. -/
structure ShowsLeaf (source : List Char) (P : Nat → Leaf → Prop) (place : Nat) (l : Leaf) (n : Node) :
    Prop where
  start : n.start.chars = l.begins place
  stop : n.stop.chars = l.ends place
  number : l.symbol = Symbol.number → n.symbol = Symbol.number
  recognized : l.Recognized source place
  nonempty : l.text source place ≠ []
  marked : l.symbol ∈ Symbol.markedKeywords → Breaks source (l.ends place)
  holds : P place l

theorem mem_leaves {i : Info} {cs : List Node} {n : Node} (h : n ∈ (mk i cs).leaves) :
    (cs = [] ∧ n = mk i [] ∧ i.start ≠ i.stop) ∨ n ∈ leavesAll cs := by
  rw [leaves, preorder, List.mem_filter] at h
  obtain ⟨hmem, htext⟩ := h
  rcases List.mem_cons.mp hmem with rfl | hmem
  · simp only [isTextLeaf, Bool.and_eq_true, List.isEmpty_iff, decide_eq_true_eq] at htext
    obtain ⟨rfl, hlt⟩ : cs = [] ∧ i.start.bytes < i.stop.bytes := htext
    exact Or.inl ⟨rfl, rfl, fun he => absurd hlt (by rw [he]; exact Nat.lt_irrefl _)⟩
  · exact Or.inr (List.mem_filter.mpr ⟨hmem, htext⟩)

mutual

/-- The leaves that a derivation shows are its own. -/
theorem showsLeaf_of_derived : ∀ (t : Tree) {base : Extent} (alias? : Option Symbol),
    IsPlace source base → t.Tiled source base.chars → t.Derived source base.chars →
    (t.symbol = Symbol.number → alias? = none) →
    (t.symbol ∈ Symbol.markedKeywords → Breaks source (base + t.total).chars) →
    t.Each P base.chars →
    ∀ n ∈ leavesAll (shownAs alias? base t), ∃ place l, ShowsLeaf source P place l n
  | .leaf l, base, alias?, _, htiled, hd, hnum, hmark, hp => by
    intro n hn
    have hvisible : (alias?.isSome || (Tree.leaf l).isVisible) = true := by
      rw [Bool.or_eq_true]
      exact Or.inr htiled.2.1
    rw [shownAs, if_pos hvisible, leavesAll_singleton] at hn
    obtain ⟨-, rfl, hne⟩ | hn := mem_leaves hn
    · have hends : (base + (Tree.leaf l).total).chars = l.ends base.chars := by
        rw [Leaf.ends, Leaf.begins, Nat.add_assoc]
        rfl
      refine ⟨base.chars, l, ⟨rfl, hends, fun hl => ?_, htiled.1.recognized hd.read, fun hempty => ?_,
        fun hl => hends ▸ hmark hl, hp⟩⟩
      · change alias?.getD l.symbol = _
        rw [hnum hl, Option.getD_none, hl]
      · have hsize : l.size = 0 := by
          rw [htiled.1.size, hempty]
          rfl
        refine hne ?_
        change base + l.padding = base + (l.padding + l.size)
        rw [hsize, Extent.add_zero]
    · exact absurd hn List.not_mem_nil
  | .node s as cs e, base, alias?, hbase, htiled, hd, _, _, hp => by
    intro n hn
    obtain ⟨hnumbers, hmarked, -⟩ := Grammar.productions_checked _ hd.2.1
    have hinside := showsLeaf_of_derivedAll cs as 0 hbase htiled.2.2 hd.2.2 hnumbers hmarked hp
    rw [shownAs] at hn
    split at hn
    · rw [leavesAll_singleton] at hn
      obtain ⟨hnone, rfl, hne⟩ | hn := mem_leaves hn
      · -- only a node without children shows none, and it has no text
        have hcs : cs = [] := by
          by_contra hcs
          exact (shows_all cs as 0 hbase htiled.2.2 hcs).ne hnone
        subst hcs
        exact absurd rfl hne
      · exact hinside n hn
    · exact hinside n hn

theorem showsLeaf_of_derivedAll : ∀ (ts : List Tree) {base : Extent} (as : List (Nat × Symbol))
    (place : Nat), IsPlace source base → Tree.TiledAll source base.chars ts →
    Tree.DerivedAll source base.chars ts →
    (∀ p ∈ Tree.parts as place ts, p.symbol = Symbol.number → p.shownAs = none) →
    Grammar.isMarked (Tree.parts as place ts) = true → Tree.EachAll P base.chars ts →
    ∀ n ∈ leavesAll (shownAmong as place base ts), ∃ place l, ShowsLeaf source P place l n
  | [], _, _, _, _, _, _, _, _, _ => fun n hn => absurd hn List.not_mem_nil
  | c :: cs, base, as, place, hbase, htiled, hd, hparts, hmarked, hp => by
    intro n hn
    rw [shownAmong_cons, leavesAll_append] at hn
    have hrest := showsLeaf_of_derivedAll cs as (Tree.advance place c)
      (Tree.isPlace_add c hbase htiled.1) htiled.2 hd.2.2
    by_cases he : c.extra = true
    · rw [Tree.parts, if_pos he] at hparts hmarked
      rw [Tree.advance, if_pos he] at hrest hn
      rcases List.mem_append.mp hn with hn | hn
      · refine showsLeaf_of_derived c _ hbase htiled.1 hd.2.1 (fun _ => if_pos he) (fun hc => ?_)
          hp.1 n hn
        rw [hd.1 he] at hc
        exact absurd hc (by decide)
      · exact hrest hparts hmarked hp.2 n hn
    · rw [Tree.parts, if_neg he] at hparts hmarked
      rw [Tree.advance, if_neg he] at hrest hn
      obtain ⟨hmarked, hbehind⟩ := Grammar.marked_behind hmarked
      rcases List.mem_append.mp hn with hn | hn
      · refine showsLeaf_of_derived c _ hbase htiled.1 hd.2.1 (hparts _ List.mem_cons_self)
          (fun hc => ?_) hp.1 n hn
        obtain ⟨q, qs, hqs, hq⟩ := hbehind hc
        obtain ⟨d, hfollows, hfirst⟩ := hd.2.2.first (x := q.symbol) (by rw [hqs]; rfl)
        refine hfollows.breaks (hfirst.imp_right fun hs => ?_)
        rw [hs]
        exact hq
      · exact hrest (fun p hmem => hparts p (List.mem_cons_of_mem _ hmem)) hmarked hp.2 n hn

end

/-- The leaves of a tree without errors are read in modes of the table. -/
theorem showsLeaf_of_whole {t : Tree} (h : t.Whole source) (he : t.hasError = false)
    (hp : ∀ s as cs e, t = .node s as (cs ++ [.leaf e]) false → Tree.EachAll P 0 cs) :
    ∀ n ∈ (ofTree t).leaves, ∃ place l, ShowsLeaf source P place l n := by
  intro n hn
  have hcost : t.cost = 0 := by
    rw [Tree.hasError] at he
    simpa using he
  obtain ⟨as, cs, e, rfl, hd, hextra, hend, -, hsize, -⟩ := (h.derivation hcost).shape
  obtain ⟨s, as', cs', e', heq, htiled, -⟩ := h.tiled
  obtain ⟨rfl, rfl, hcs⟩ : Symbol.model = s ∧ as = as' ∧ cs ++ [Tree.leaf e] = cs' ++ [Tree.leaf e'] := by
    injection heq with h1 h2 h3
    exact ⟨h1, h2, h3⟩
  obtain ⟨rfl, -⟩ := List.append_inj' hcs rfl
  have hchildren : shown 0 (.node Symbol.model as (cs ++ [.leaf e]) false) = shownAmong as 0 0 cs :=
    shownAmong_end as 0 0 cs hend hextra
  rw [ofTree, hchildren] at hn
  obtain ⟨hnone, rfl, hne⟩ | hn := mem_leaves hn
  · have hcs : cs = [] := by
      by_contra hcs
      exact (shows_all cs as 0 .zero htiled hcs).ne hnone
    subst hcs
    refine absurd ?_ hne
    have htotal : (Tree.leaf e).total = e.padding := by
      change e.padding + e.size = _
      rw [hsize, Extent.add_zero]
    change 0 + e.padding = 0 + (Tree.node Symbol.model as [.leaf e] false).total
    rw [Tree.total_node, Tree.totalAll_cons, Tree.totalAll, Extent.add_zero, htotal]
  · obtain ⟨hnumbers, hmarked, -⟩ := Grammar.productions_checked _ hd.2.1
    exact showsLeaf_of_derivedAll cs as 0 .zero htiled hd.2.2 hnumbers hmarked (hp _ _ _ _ rfl) n hn

/-- A keyword that is read in a mode is a whole word there, unless the mode has it without names. -/
theorem ShowsLeaf.whole {place : Nat} {l : Leaf} {n : Node} {m : Mode}
    (h : ShowsLeaf source P place l n) (hk : n.isKeyword source = true) (hm : m.Plain)
    (hread : l.ReadIn source place m) : Breaks source n.stop.chars ∨
      Symbol.symbolicName ∉ m.tokens ∧ l.symbol ∈ m.tokens ∧ l.symbol.IsLiteral ∧
        l.symbol.text = n.text source ∧ (n.text source).all Char.isAlphanum = true := by
  obtain ⟨blanks, htoken⟩ := hread
  have htake : l.text source place = (source.drop (l.begins place)).take l.size.chars := by
    rw [Leaf.text, slice, Leaf.ends, Nat.add_sub_cancel_left]
  have htext : n.text source = (source.drop (l.begins place)).take l.size.chars := by
    rw [text, h.start, h.stop, Leaf.ends, Nat.add_sub_cancel_left]
  have hnext : source[n.stop.chars]? = (source.drop (l.begins place))[l.size.chars]? := by
    rw [h.stop, Leaf.ends, List.getElem?_drop]
  obtain ⟨hkind, hall⟩ := Bool.and_eq_true_iff.mp hk
  rw [Breaks, hnext, hall, htext]
  rcases Mode.whole_of_token hm htoken (htake ▸ h.nonempty) (htext ▸ List.all_eq_true.mp hall) with
    hnum | ⟨hnames, hmem, hlit, hw⟩ | hwhole
  · have hnumber := h.number hnum
    rw [isNamed, kind, hnumber] at hkind
    exact absurd hkind (by decide +kernel)
  · exact Or.inr ⟨hnames, hmem, hlit, hw, rfl⟩
  · exact Or.inl hwhole

/-- A keyword is a whole word wherever it stands in a text without errors, if it is not a loose one. -/
theorem keyword_whole {t : Tree} (h : parse source = some t) (he : t.hasError = false) {n : Node}
    (hn : n ∈ (ofTree t).leaves) (hk : n.isKeyword source = true)
    (hloose : String.ofList (n.text source) ∉ Symbol.looseKeywords) :
    ∀ c ∈ source[n.stop.chars]?, isNameChar c = false := by
  -- the text is read straight, so each leaf is what the state looked for
  have hp : ∀ s as cs e, t = .node s as (cs ++ [.leaf e]) false →
      Tree.EachAll (fun i l => l.Expected source i) 0 cs := by
    intro s as cs e ht
    obtain ⟨s', as', cs', e', ht', heach⟩ := Straight.parse_expected (parse_eq_accepted h he)
    obtain ⟨-, -, hcs⟩ : s = s' ∧ as = as' ∧ cs ++ [Tree.leaf e] = cs' ++ [Tree.leaf e'] := by
      injection ht.symm.trans ht' with h1 h2 h3
      exact ⟨h1, h2, h3⟩
    rw [(List.append_inj' hcs rfl).1]
    exact heach
  obtain ⟨place, l, hshow⟩ := showsLeaf_of_whole (parse_whole h) he hp n hn
  obtain ⟨m, hm, hread⟩ := hshow.recognized
  obtain hwhole | ⟨hnames, hmem, hlit, hw, hall⟩ := hshow.whole hk (Mode.tokens_lt m hm) hread
  · exact hwhole
  have hname : l.symbol.name = String.ofList (n.text source) := by
    rw [← hw, Symbol.text, String.ofList_toList]
  have hkeyword := Mode.keywords_checked m hm hnames _ hmem (hw ▸ hall) hlit
  rw [Bool.or_eq_true, Bool.or_eq_true, List.contains_iff_mem, List.contains_iff_mem,
    List.contains_iff_mem, hname] at hkeyword
  rcases hkeyword with (hmark | hin) | hcut
  · rw [hshow.stop]
    exact hshow.marked hmark
  · -- the state that read it looks for it, so it reads names
    obtain ⟨s, hfresh, ha, hread⟩ | hread := hshow.holds
    · obtain hwhole | ⟨hnames, -⟩ := hshow.whole hk (Mode.plain_mode s) hread
      · exact hwhole
      · rw [Automaton.action_inner hfresh hnames hin] at ha
        cases ha
    · obtain hwhole | ⟨hnames, -⟩ := hshow.whole hk Mode.plain_anything hread
      · exact hwhole
      · exact absurd (by decide +kernel) hnames
  · exact absurd hcut hloose

theorem keyword_whole_then :
    ∃ t n, parse "param p:=if a then b;".toList = some t ∧ t.hasError = false ∧
      n ∈ (ofTree t).leaves ∧ n.isKeyword "param p:=if a then b;".toList = true ∧
      String.ofList (n.text "param p:=if a then b;".toList) = "then" ∧
      ∀ c ∈ "param p:=if a then b;".toList[n.stop.chars]?, isNameChar c = false := by
  have h : (parse "param p:=if a then b;".toList).any (fun t => !t.hasError &&
      (ofTree t).leaves.any fun n => n.isKeyword "param p:=if a then b;".toList &&
        String.ofList (n.text "param p:=if a then b;".toList) == "then") = true := by
    decide +kernel
  obtain ⟨t, ht, h⟩ := (Option.any_eq_true _ _).mp h
  rw [Bool.and_eq_true, Bool.not_eq_true', List.any_eq_true] at h
  obtain ⟨he, n, hn, h⟩ := h
  rw [Bool.and_eq_true, beq_iff_eq] at h
  obtain ⟨hk, hthen⟩ := h
  have hloose : String.ofList (n.text "param p:=if a then b;".toList) ∉ Symbol.looseKeywords := by
    rw [hthen]
    decide
  exact ⟨t, n, ht, he, hn, hk, hthen, keyword_whole ht he hn hk hloose⟩

/-- Where a data statement may begin, names are not looked for, and a keyword is cut out of a name. -/
theorem keyword_cut :
    ∃ t n, parse "data; setI := a;".toList = some t ∧ t.hasError = false ∧ n ∈ (ofTree t).leaves ∧
      n.isKeyword "data; setI := a;".toList = true ∧
      String.ofList (n.text "data; setI := a;".toList) = "set" ∧
      "data; setI := a;".toList[n.stop.chars]? = some 'I' ∧ isNameChar 'I' = true := by
  have h : (parse "data; setI := a;".toList).any (fun t => !t.hasError &&
      (ofTree t).leaves.any fun n => n.isKeyword "data; setI := a;".toList &&
        String.ofList (n.text "data; setI := a;".toList) == "set" &&
        "data; setI := a;".toList[n.stop.chars]? == some 'I') = true := by
    decide +kernel
  obtain ⟨t, ht, h⟩ := (Option.any_eq_true _ _).mp h
  rw [Bool.and_eq_true, Bool.not_eq_true', List.any_eq_true] at h
  obtain ⟨he, n, hn, h⟩ := h
  simp only [Bool.and_eq_true, beq_iff_eq] at h
  exact ⟨t, n, ht, he, hn, h.1.1, h.1.2, h.2, rfl⟩

end Node

end MathProg
