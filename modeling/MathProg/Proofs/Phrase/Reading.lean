import MathProg.Proofs.Phrase.Shape
import MathProg.Proofs.Phrase.Sites

/-!
# Reading operands

What is read of a phrase is one tree, a node that shows the parts of the phrase. Values and names are
read so, and whatever else is an operand becomes the only child of an expression.
-/

namespace MathProg

open Automaton Straight
open Expression (Level Operator Sign follow)

namespace View

/-- What children show that keep their names. -/
def flat (vs : List View) : List Sketch := vs.flatMap (·.under none)

theorem row_nil (place : Nat) (vs : List View) : row [] place vs = flat vs := by
  induction vs generalizing place with
  | nil => rfl
  | cons v vs ih => rw [row, ih]; rfl

/-- What children show that have names of their own. -/
def named (names : List (Option Symbol)) (vs : List View) : List Sketch :=
  (List.zipWith View.under names vs).flatten

@[simp] theorem named_nil : named [] [] = [] := rfl

@[simp] theorem named_cons (n : Option Symbol) (names : List (Option Symbol)) (v : View) (vs : List View) :
    named (n :: names) (v :: vs) = v.under n ++ named names vs := rfl

theorem named_append {names more : List (Option Symbol)} {vs ws : List View}
    (h : names.length = vs.length) :
    named (names ++ more) (vs ++ ws) = named names vs ++ named more ws := by
  simp [named, List.zipWith_append h]

theorem row_named {names : List (Option Symbol)} {vs : List View} (h : names.length = vs.length) :
    row (Tree.namedFrom 0 names) 0 vs = named names vs := by
  have hgeneral : ∀ (as : List (Nat × Symbol)) (place : Nat) (names : List (Option Symbol))
      (vs : List View),
      names.length = vs.length → (∀ i n, names[i]? = some n → Tree.aliasAt as (place + i) = n) →
      row as place vs = named names vs := by
    intro as place names vs
    induction vs generalizing place names with
    | nil =>
      intro _ _
      simp [row, named]
    | cons v vs ih =>
      intro hlen has
      cases names with
      | nil => cases hlen
      | cons n names =>
        have hn : Tree.aliasAt as place = n := has 0 n rfl
        rw [row, hn, ih (place + 1) names (Nat.succ.inj hlen) fun i m hi => by
          rw [Nat.add_assoc, Nat.add_comm 1]
          exact has (i + 1) m hi]
        rfl
  apply hgeneral _ 0 names vs h
  intro i n hi
  exact Tree.aliasAt_namedFrom hi

theorem under_token (name? : Option Symbol) (w : Word) :
    (token w).under name? = [.leaf (name?.getD w.symbol) w.text] := rfl

@[simp] theorem under_word (t : Symbol) : (token (.token t)).under none = [Token.leaf t] := rfl

@[simp] theorem under_operator (t : Symbol) :
    (token (.token t)).under (some Grammar.operator) = [Token.operator t] := rfl

theorem under_visible {x : Symbol} (h : Symbol.isVisible x = true) (ps : List Sketch) :
    (node x ps).under none = [.node x ps] := by
  rw [under, h]
  rfl

theorem under_hidden {x : Symbol} (h : Symbol.isVisible x = false) (ps : List Sketch) :
    (node x ps).under none = ps := by
  rw [under, h]
  rfl

end View

/-- Made of some children that keep their names. -/
def plainRule (x : Symbol) (n : Nat) : Rule := ⟨x, n, []⟩

variable {s u : State} {k : Site} {t x : Symbol} {w : Word} {ws : List Word} {items : List Item}
  {names : List (Option Symbol)} {ps : List Sketch} {n : Nat}

theorem Takes.reads (h : Takes s w.symbol u) (t : Symbol) : Reads s [w] t [⟨u, .token w⟩] :=
  (Reads.nil w.symbol).shift h.1 h.2

@[simp] theorem flat_nil : View.flat (views []) = [] := rfl

@[simp] theorem flat_cons (i : Item) (items : List Item) :
    View.flat (views (i :: items)) = View.flat (views items) ++ i.view.under none := by
  simp [views, View.flat]

theorem flat_one (i : Item) : View.flat (views [i]) = i.view.under none := by
  rw [flat_cons, flat_nil, List.nil_append]

/-- The last items become a node. -/
theorem reads_plain (top below : List Item) (h : Reads s ws t (top ++ below))
    (ha : action? (topOf s (top ++ below)) t = some (.reduce (plainRule x n))) (hlen : n = top.length)
    (hu : successor? (topOf s below) x = some u) (hps : View.flat (views top) = ps) (hne : ps ≠ []) :
    Reads s ws t (⟨u, .node x ps⟩ :: below) := by
  have hrow : View.row (plainRule x n).aliases 0 (views top) = ps := by
    rw [← hps]
    exact View.row_nil 0 _
  rw [← hrow]
  exact h.reduce ha hlen hu (by rwa [hrow])

/-- All items become a node. -/
theorem reads_whole (h : Reads s ws t items)
    (ha : action? (topOf s items) t = some (.reduce (plainRule x n)))
    (hlen : n = items.length) (hu : successor? s x = some u) (hps : View.flat (views items) = ps)
    (hne : ps ≠ []) : Reads s ws t [⟨u, .node x ps⟩] := by
  rw [← List.append_nil items] at h ha
  exact reads_plain items [] h ha hlen hu hps hne

/-- The last item is given apart, so that its state is not computed from its site. -/
theorem reads_named {v : State} {i : View} (h : Reads s ws t (⟨v, i⟩ :: items))
    (ha : action? v t = some (.reduce ⟨x, n, Tree.namedFrom 0 names⟩)) (hlen : n = items.length + 1)
    (hnames : names.length = items.length + 1) (hu : successor? s x = some u)
    (hps : View.named names (views (⟨v, i⟩ :: items)) = ps) (hne : ps ≠ []) :
    Reads s ws t [⟨u, .node x ps⟩] := by
  have hrow : View.row (Tree.namedFrom 0 names) 0 (views (⟨v, i⟩ :: items)) = ps := by
    rw [← hps]
    exact View.row_named (by simp [views, hnames])
  rw [← hrow]
  exact h.all ha hlen hu (by rwa [hrow])

/-- A rule is applied before whatever may follow an expression. -/
def Finishes (s : State) (r : Rule) : Prop := ∀ t ∈ Dialect.full.followers, action? s t = some (.reduce r)

instance (s : State) (r : Rule) : Decidable (Finishes s r) :=
  inferInstanceAs (Decidable (∀ t ∈ Dialect.full.followers, action? s t = some (.reduce r)))

/-- The only child of an expression: an operand, or a conditional, which has a name of its own. -/
theorem only_checked : ∀ d ∈ dialects, ∀ t ∈ d.followers,
    action? (follow d.first [Grammar.primary]) t = some (.reduce (plainRule d.symbol 1)) ∧
    action? (follow d.first [d.conditional]) t =
      some (.reduce ⟨d.symbol, 1, Tree.namedFrom 0 [d.conditional?]⟩) := by
  decide +kernel

theorem primary_hidden : Symbol.isVisible Grammar.primary = false := by decide +kernel

/-- What an operand is made of, the expression shows. -/
theorem reads_operand (hk : k ∈ sites) (ht : t ∈ k.followers) (h : Reads k.state ws t items)
    (ha : action? (topOf k.state items) t = some (.reduce (plainRule Grammar.primary n)))
    (hlen : n = items.length) (hps : View.flat (views items) = ps) (hne : ps ≠ []) :
    Reads k.state ws t [⟨k.full, .node k.dialect.symbol ps⟩] := by
  have hprimary := reads_whole h ha hlen (Site.goes_primary hk List.mem_cons_self) hps hne
  have hshown : View.flat (views [⟨follow k.dialect.first [Grammar.primary],
      .node Grammar.primary ps⟩]) = ps := by
    rw [flat_one, View.under_hidden primary_hidden]
  exact reads_whole hprimary (only_checked _ (mem_dialects _) t (Site.follower_of_dialect ht)).1 rfl
    (Site.goes_full hk) hshown hne

namespace Phrase

/-- What stands in the node of a tuple or an index. -/
def inner : Phrase → List Sketch
  | tuple es => bracketed Token.openParen Token.closeParen (partsAll es .group)
  | index es => bracketed Token.openBrace Token.closeBrace (partsAll es .index)
  | filtered es c => Token.leaf Token.openBrace ::
      (separated (Token.leaf Token.comma) (partsAll es .index) ++
        [Token.leaf Token.colon, .node Grammar.expr (c.parts .full), Token.leaf Token.closeBrace])
  | _ => []

/-- Whether a phrase is a tuple that stands for itself. -/
def isBare (e : Phrase) (k : Site) (t : Symbol) : Bool :=
  e.isTuple && k.takesTuples && [Token.comma, Token.closeBrace].contains t

/-- What is on the stack behind a phrase. -/
def item (e : Phrase) (k : Site) (t : Symbol) : Item :=
  if e.isEntry then ⟨follow k.state [Grammar.indexingEntry], .node Grammar.indexingEntry (e.parts .full)⟩
  else if e.isBare k t then ⟨k.tupelState, .node Grammar.tupel e.inner⟩
  else ⟨k.full, .node k.dialect.symbol (e.parts k.dialect)⟩

theorem item_of_plain {e : Phrase} (he : e.isEntry = false) (hb : e.isBare k t = false) :
    e.item k t = ⟨k.full, .node k.dialect.symbol (e.parts k.dialect)⟩ := by
  rw [item, he, hb]
  rfl

/-- A phrase is read as it stands, wherever it ends. -/
def Read (e : Phrase) : Prop :=
  ∀ k ∈ sites, ∀ t ∈ k.followers, e.stands k = true → e.ends k t = true →
    Reads k.state e.words t [e.item k t]

end Phrase

open Phrase

theorem values_checked : Finishes (outside [Symbol.number]) (plainRule Grammar.primary 1) ∧
    Finishes (outside [Symbol.string]) (plainRule Grammar.primary 1) := by
  decide +kernel

theorem read_number (text : List Char) : (number text).Read := by
  intro k hk t ht _ _
  have hstart : Takes k.state Symbol.number (outside [Symbol.number]) :=
    Site.takes_start hk (by decide)
  exact reads_operand hk ht (Takes.reads (w := ⟨Symbol.number, text⟩) hstart t)
    (values_checked.1 t (Site.follower_full ht)) rfl (flat_one _) (List.cons_ne_nil _ _)

theorem read_string (text : List Char) : (string text).Read := by
  intro k hk t ht _ _
  have hstart : Takes k.state Symbol.string (outside [Symbol.string]) :=
    Site.takes_start hk (by decide)
  exact reads_operand hk ht (Takes.reads (w := ⟨Symbol.string, text⟩) hstart t)
    (values_checked.2 t (Site.follower_full ht)) rfl (flat_one _) (List.cons_ne_nil _ _)

/-- An operand with a suffix, perhaps. -/
theorem reads_suffixed {suffix? : Option (List Char)} (hk : k ∈ sites) (ht : t ∈ k.followers)
    (h : Reads k.state ws (ahead t (suffixWords suffix?)) items) (hlen : n = items.length)
    (hend : suffix? = none → action? (topOf k.state items) t = some (.reduce (plainRule Grammar.primary n)))
    (hsuffix : Takes (topOf k.state items) Symbol.suffix u)
    (hfinish : Finishes u (plainRule Grammar.primary (n + 1))) (hps : View.flat (views items) = ps)
    (hne : ps ≠ []) :
    Reads k.state (ws ++ suffixWords suffix?) t
      [⟨k.full, .node k.dialect.symbol (ps ++ suffixParts suffix?)⟩] := by
  cases suffix? with
  | none =>
    rw [suffixWords, suffixParts, Option.map_none, Option.toList_none, List.append_nil, Option.map_none,
      Option.toList_none, List.append_nil]
    exact reads_operand hk ht h (hend rfl) hlen hps hne
  | some text =>
    have hread := h.append (Takes.reads (w := ⟨Symbol.suffix, text⟩) hsuffix t) rfl
    refine reads_operand hk ht hread (hfinish t (Site.follower_full ht)) (by rw [hlen]; rfl) ?_
      (by simp [hne])
    rw [List.singleton_append, flat_cons, hps]
    rfl

theorem names_checked :
    (∀ u ∈ outside [Symbol.symbolicName] :: memberSites.map (·.nameState),
      Takes u Symbol.suffix (outside [Symbol.symbolicName, Symbol.suffix]) ∧
      Takes u Token.openBracket (Site.bracketState .subscript) ∧
      successor? u Grammar.subscript = some (outside [Symbol.symbolicName, Grammar.subscript])) ∧
    Finishes (outside [Symbol.symbolicName]) (plainRule Grammar.primary 1) ∧
    Finishes (outside [Symbol.symbolicName, Symbol.suffix]) (plainRule Grammar.primary 2) ∧
    ∀ k ∈ memberSites, ∀ t ∈ k.followers, (k.takesDummies && t == Token.inWord) = false →
      action? k.nameState t = some (.reduce (plainRule Grammar.primary 1)) := by
  decide +kernel

theorem nameState_mem (k : Site) :
    k.nameState ∈ outside [Symbol.symbolicName] :: memberSites.map (·.nameState) := by
  by_cases h : k.takesDummies = true
  · exact List.mem_cons_of_mem _ (List.mem_map.mpr ⟨k, Site.mem_memberSites (Or.inl h), rfl⟩)
  · rw [Site.nameState, if_neg h]
    exact List.mem_cons_self

/-- A name is an operand, if it is not a dummy. -/
theorem name_ends (ht : t ∈ k.followers) (hin : (k.takesDummies && t == Token.inWord) = false) :
    action? k.nameState t = some (.reduce (plainRule Grammar.primary 1)) := by
  obtain ⟨-, hfinish, -, hmember⟩ := names_checked
  by_cases h : k.takesDummies = true
  · exact hmember k (Site.mem_memberSites (Or.inl h)) t ht hin
  · rw [Site.nameState, if_neg h]
    exact hfinish t (Site.follower_full ht)

theorem read_name (text : List Char) (suffix? : Option (List Char)) : (name text suffix?).Read := by
  intro k hk t ht _ hends
  obtain ⟨hnames, -, hsuffixed, -⟩ := names_checked
  have hname := Takes.reads (w := ⟨Symbol.symbolicName, text⟩) (Site.takes_name hk)
    (ahead t (suffixWords suffix?))
  refine reads_suffixed hk ht hname rfl ?_ (hnames _ (nameState_mem k)).1 hsuffixed (flat_one _)
    (List.cons_ne_nil _ _)
  rintro rfl
  apply name_ends ht
  simp only [Phrase.ends, Option.isNone_none, Bool.and_true, Bool.not_eq_true'] at hends
  exact hends

end MathProg
