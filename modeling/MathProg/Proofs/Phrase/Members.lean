import MathProg.Proofs.Phrase.Reading

/-!
# Reading what stands in brackets

Phrases with commas between them are gathered from the left. Each becomes a member of its bracket: an
expression, an element of a set, or an entry of an index.
-/

namespace MathProg

open Automaton Straight Phrase
open Expression (Level Operator Sign follow)

variable {s u : State} {k : Site} {t x : Symbol} {w : Word} {ws : List Word} {items : List Item}
  {ps : List Sketch} {n : Nat}

namespace Bracket

/-- What each phrase in a bracket becomes. -/
def member : Bracket → Symbol
  | group | subscript | call => Grammar.expr
  | set => Grammar.setElement
  | index => Grammar.indexingEntry

/-- What stands behind the first phrase is gathered in a repetition; the elements of a set are gathered all
together. -/
def repetition : Bracket → Symbol
  | group => 190
  | subscript => 191
  | call => 192
  | set => Grammar.setElements
  | index => 189

/-- The tokens behind the last phrase. -/
def closers : Bracket → List Symbol
  | group | call => [Token.closeParen]
  | subscript => [Token.closeBracket]
  | set => [Token.closeBrace]
  | index => [Token.colon, Token.closeBrace]

/-- Behind the first phrase. -/
def behind (b : Bracket) : State := follow (Site.bracketState b) [Site.memberSymbol b]

/-- Behind a repetition. -/
def repeated (b : Bracket) : State := follow b.behind [b.repetition]

/-- In front of the other phrases. -/
def later (b : Bracket) : Site := .listed b true

end Bracket

theorem repetitions_checked : ∀ b ∈ [Bracket.group, .subscript, .call, .index],
    (Takes b.behind Token.comma b.later.state ∧ Takes b.repeated Token.comma b.later.state) ∧
    (successor? b.behind b.repetition = some b.repeated ∧
      successor? b.repeated b.repetition = some (follow b.repeated [b.repetition])) ∧
    Symbol.isVisible b.repetition = false ∧
    ∀ t ∈ Token.comma :: b.closers,
      action? (follow b.later.state [b.member]) t = some (.reduce (plainRule b.repetition 2)) ∧
      action? (follow b.repeated [b.repetition]) t = some (.reduce (plainRule b.repetition 2)) := by
  decide +kernel

theorem elements_checked :
    Takes (Bracket.behind .set) Token.comma (Bracket.later .set).state ∧
    successor? (Site.bracketState .set) Grammar.setElements = some (Bracket.behind .set) ∧
    (Symbol.isVisible Grammar.setElements = false ∧ Symbol.isVisible Grammar.setElement = false) ∧
    (∀ k ∈ [Site.listed .set false, .listed .set true],
      successor? k.state Grammar.setElement = some (follow k.state [Grammar.setElement])) ∧
    ∀ t ∈ [Token.comma, Token.closeBrace],
      (∀ k ∈ [Site.listed .set false, .listed .set true],
        action? k.full t = some (.reduce (plainRule Grammar.setElement 1)) ∧
        action? k.tupelState t = some (.reduce (plainRule Grammar.setElement 1))) ∧
      action? (follow (Site.bracketState .set) [Grammar.setElement]) t =
        some (.reduce (plainRule Grammar.setElements 1)) ∧
      action? (follow (Bracket.later .set).state [Grammar.setElement]) t =
        some (.reduce (plainRule Grammar.setElements 3)) := by
  decide +kernel

theorem entries_checked :
    (∀ k ∈ [Site.listed .set false, .listed .index false, .listed .index true],
      successor? k.state Grammar.indexingEntry = some (follow k.state [Grammar.indexingEntry]) ∧
      action? k.full Token.colon = some (.reduce (plainRule Grammar.indexingEntry 1))) ∧
    (∀ k ∈ [Site.listed .index false, .listed .index true], ∀ t ∈ [Token.comma, Token.closeBrace],
      action? k.full t = some (.reduce (plainRule Grammar.indexingEntry 1))) ∧
    follow (Site.bracketState .set) [Grammar.indexingEntry] = Bracket.behind .index := by
  decide +kernel

-- What the first phrase was tells a set from an index.
example : Bracket.behind .set ≠ Bracket.behind .index := by decide +kernel

/-- Whether the first phrase of a bracket stands at a site: the braces of a set are those of an index as
well. -/
def Bracket.StartsAt (b : Bracket) (k : Site) : Prop :=
  k = .listed b false ∨ b = .index ∧ k = .listed .set false

theorem visible_checked : ∀ x ∈ [Grammar.expr, Grammar.tupel, Grammar.indexingEntry, Grammar.subscript,
    Grammar.functionName, Grammar.functionCall, Grammar.literalSet, Grammar.indexingExpression,
    Grammar.iteratedExpression, Grammar.conditionalExpression, Grammar.linearExpression],
    Symbol.isVisible x = true := by
  decide +kernel

@[simp] theorem under_expr (ps : List Sketch) :
    (View.node Grammar.expr ps).under none = [.node Grammar.expr ps] :=
  View.under_visible (visible_checked _ (by simp)) ps

/-- Entries stand only where there may be dummies. -/
theorem isEntry_of_stands {e : Phrase} (h : e.stands k = true) (hk : k.takesDummies = false) :
    e.isEntry = false := by
  cases e with
  | entry i m => simp [Phrase.stands, hk] at h
  | _ => rfl

theorem isTuple_of_isBare {e : Phrase} (h : e.isBare k t = true) : ∃ es, e = tuple es := by
  cases e with
  | tuple es => exact ⟨es, rfl⟩
  | _ => simp [isBare, isTuple] at h

theorem placed_plain {b : Bracket} {e : Phrase} (hb : b = .group ∨ b = .subscript ∨ b = .call)
    (ps : List Sketch) : placed b e ps = [.node Grammar.expr ps] := by
  rcases hb with rfl | rfl | rfl <;> rfl

@[simp] theorem under_entry (ps : List Sketch) :
    (View.node Grammar.indexingEntry ps).under none = [.node Grammar.indexingEntry ps] :=
  View.under_visible (visible_checked _ (by simp)) ps

variable {b : Bracket} {e : Phrase}

/-- What a phrase is read as in a bracket. -/
def IsMember (k : Site) (b : Bracket) (t : Symbol) (e : Phrase) : Prop :=
  ∃ ps, Reads k.state e.words t [⟨follow k.state [b.member], .node b.member ps⟩] ∧
    (View.node b.member ps).under none = placed b e (e.parts .full)

theorem isMember_plain {later : Bool} (hb : b = .group ∨ b = .subscript ∨ b = .call) (he : e.Read)
    (ht : t ∈ (Site.listed b later).followers) (hstands : e.stands (.listed b later) = true)
    (hends : e.ends (.listed b later) t = true) : IsMember (.listed b later) b t e := by
  have hread := he _ (Site.listed_mem b later) t ht hstands hends
  have hdummies : (Site.listed b later).takesDummies = false := by
    rcases hb with rfl | rfl | rfl <;> rfl
  have hbare : e.isBare (.listed b later) t = false := by
    rcases hb with rfl | rfl | rfl <;> simp [isBare, Site.takesTuples]
  have hmember : b.member = Grammar.expr := by
    rcases hb with rfl | rfl | rfl <;> rfl
  rw [item_of_plain (isEntry_of_stands hstands hdummies) hbare] at hread
  refine ⟨e.parts .full, ?_, ?_⟩
  · rw [hmember]
    exact hread
  · rw [hmember, under_expr, placed_plain hb]

/-- An element of a set. -/
theorem isMember_set {later : Bool} (he : e.Read) (ht : t ∈ [Token.comma, Token.closeBrace])
    (hentry : e.isEntry = false) (hstands : e.stands (.listed .set later) = true)
    (hends : e.ends (.listed .set later) t = true) : IsMember (.listed .set later) .set t e := by
  have hk : Site.listed .set later ∈ [Site.listed .set false, .listed .set true] := by
    cases later <;> simp
  obtain ⟨-, -, hhidden, hgo, hends'⟩ := elements_checked
  have hfollower : t ∈ (Site.listed .set later).followers := by
    rcases List.mem_cons.mp ht with rfl | ht
    · cases later <;> decide
    · obtain rfl := List.mem_singleton.mp ht
      cases later <;> decide
  have hread := he _ (Site.listed_mem .set later) t hfollower hstands hends
  obtain ⟨hexpr, htuple⟩ := (hends' t ht).1 _ hk
  by_cases hbare : e.isBare (.listed .set later) t = true
  · obtain ⟨es, rfl⟩ := isTuple_of_isBare hbare
    rw [item, if_neg (by rw [hentry]; exact Bool.false_ne_true), if_pos hbare] at hread
    have hshown : (View.node Grammar.tupel (tuple es).inner).under none = (tuple es).parts .full :=
      View.under_visible (visible_checked _ (by simp)) _
    have helement := reads_whole hread htuple rfl (hgo _ hk)
      ((flat_one _).trans hshown) (parts_ne_nil _ _)
    exact ⟨_, helement, View.under_hidden hhidden.2 _⟩
  · have hplain : e.isTuple = false := by
      rw [Bool.not_eq_true, isBare, show (Site.listed Bracket.set later).takesTuples = true from rfl,
        List.contains_iff_mem.mpr ht, Bool.and_true, Bool.and_true] at hbare
      exact hbare
    rw [item_of_plain hentry (Bool.not_eq_true _ ▸ hbare)] at hread
    have helement := reads_whole hread hexpr rfl (hgo _ hk)
      ((flat_one _).trans (under_expr _)) (List.cons_ne_nil _ _)
    refine ⟨_, helement, (View.under_hidden hhidden.2 _).trans ?_⟩
    cases e <;> first | rfl | cases hplain

theorem members_follow : ∀ k ∈ [Site.listed .set false, .listed .index false, .listed .index true],
    ∀ t ∈ [Token.comma, Token.colon, Token.closeBrace], t ∈ k.followers := by
  decide +kernel

/-- An entry of an index, which is a plain expression perhaps. -/
theorem isMember_index (hk : k ∈ [Site.listed .set false, .listed .index false, .listed .index true])
    (he : e.Read) (ht : t ∈ [Token.comma, Token.colon, Token.closeBrace])
    (hentry : k = .listed .set false → e.isEntry = true ∨ t = Token.colon)
    (hstands : e.stands k = true) (hends : e.ends k t = true) : IsMember k .index t e := by
  obtain ⟨hcolon, hothers, -⟩ := entries_checked
  have hmem : k ∈ sites := by
    simp only [List.mem_cons, List.not_mem_nil, or_false] at hk
    rcases hk with rfl | rfl | rfl <;> exact Site.listed_mem _ _
  have hfollower : t ∈ k.followers := members_follow k hk t ht
  have hread := he k hmem t hfollower hstands hends
  by_cases hplain : e.isEntry = true
  · rw [item, if_pos hplain] at hread
    refine ⟨_, hread, (under_entry _).trans ?_⟩
    cases e <;> first | rfl | cases hplain
  · have hentry' : e.isEntry = false := Bool.not_eq_true _ ▸ hplain
    have hat : action? k.full t = some (.reduce (plainRule Grammar.indexingEntry 1)) := by
      by_cases ht' : t = Token.colon
      · rw [ht']
        exact (hcolon k hk).2
      · have hk' : k ∈ [Site.listed .index false, .listed .index true] := by
          rcases List.mem_cons.mp hk with rfl | hk
          · exact absurd ((hentry rfl).resolve_left hplain) ht'
          · exact hk
        refine hothers k hk' t ?_
        simpa [ht'] using ht
    have hbare : e.isBare k t = false := by
      rw [isBare, Bool.and_eq_false_iff, Bool.and_eq_false_iff]
      simp only [List.mem_cons, List.not_mem_nil, or_false] at hk
      rcases hk with rfl | rfl | rfl
      · rw [(hentry rfl).resolve_left hplain]
        exact Or.inr (by decide)
      · exact Or.inl (Or.inr rfl)
      · exact Or.inl (Or.inr rfl)
    have hdialect : k.dialect = .full := by
      simp only [List.mem_cons, List.not_mem_nil, or_false] at hk
      rcases hk with rfl | rfl | rfl <;> rfl
    rw [item_of_plain hentry' hbare, hdialect] at hread
    have hmade := reads_whole hread hat rfl (hcolon k hk).1
      ((flat_one _).trans (under_expr _)) (List.cons_ne_nil _ _)
    refine ⟨_, hmade, (under_entry _).trans ?_⟩
    cases e <;> first | rfl | cases hentry'

theorem listed_follow (later : Bool) (ht : t ∈ Token.comma :: b.closers) (hb : b ≠ .set) :
    t ∈ (Site.listed b later).followers := by
  cases b with
  | group | subscript | call =>
    have hplain : ∀ t ∈ [Token.comma, Token.closeParen, Token.closeBracket], t ∈ Dialect.full.stops := by
      decide
    apply Dialect.mem_followers_of_stop
    apply hplain
    simp only [Bracket.closers, List.mem_cons, List.not_mem_nil, or_false] at ht ⊢
    rcases ht with rfl | rfl <;> simp
  | set => exact absurd rfl hb
  | index => exact members_follow _ (by cases later <;> simp) t ht

/-- The phrases in a bracket are its members. -/
theorem isMember_of_read (hk : b.StartsAt k ∨ k = .listed b true) (he : e.Read)
    (ht : t ∈ Token.comma :: b.closers) (hset : k = .listed .set false → b = .set → e.isEntry = false)
    (hindex : k = .listed .set false → b = .index → e.isEntry = true ∨ t = Token.colon)
    (hstands : e.stands k = true) (hends : e.ends k t = true) : IsMember k b t e := by
  have hlisted : (∃ later, k = .listed b later) ∨ b = .index ∧ k = .listed .set false := by
    rcases hk with (rfl | h) | rfl
    · exact Or.inl ⟨false, rfl⟩
    · exact Or.inr h
    · exact Or.inl ⟨true, rfl⟩
  rcases hlisted with ⟨later, rfl⟩ | ⟨rfl, rfl⟩
  · cases b with
    | group | subscript | call =>
      exact isMember_plain (by simp) he (listed_follow later ht (by simp)) hstands hends
    | set =>
      have hentry : e.isEntry = false := by
        cases later with
        | false => exact hset rfl rfl
        | true => exact isEntry_of_stands hstands rfl
      exact isMember_set he ht hentry hstands hends
    | index => exact isMember_index (by cases later <;> simp) he ht (by simp) hstands hends
  · exact isMember_index (by simp) he ht (fun _ => hindex rfl rfl) hstands hends

/-- What is on the stack behind some phrases of a bracket. -/
inductive Gathers (b : Bracket) : List Item → Prop
  | one (v : View) : Gathers b [⟨b.behind, v⟩]
  | more (hb : b ≠ .set) (v : View) (ps : List Sketch) :
      Gathers b [⟨b.repeated, .node b.repetition ps⟩, ⟨b.behind, v⟩]

theorem placed_ne_nil (b : Bracket) (e : Phrase) : placed b e (e.parts .full) ≠ [] := by
  have hparts := parts_ne_nil e .full
  unfold placed
  split <;> simp_all

/-- The first phrase of a bracket. -/
theorem gathers_first (hb : b.StartsAt k) (ht : t ∈ Token.comma :: b.closers) (h : IsMember k b t e) :
    ∃ items, Gathers b items ∧ Reads k.state e.words t items ∧
      View.flat (views items) = placed b e (e.parts .full) ∧ items.length = 1 := by
  obtain ⟨ps, hread, hshown⟩ := h
  by_cases hset : b = .set
  · -- the elements of a set are gathered from the first one on
    subst hset
    obtain rfl : k = .listed .set false := hb.resolve_right fun h => by cases h.1
    obtain ⟨-, hgo, ⟨hhidden, -⟩, -, hends⟩ := elements_checked
    have hmade := reads_whole hread (hends t ht).2.1 rfl hgo
      ((flat_one _).trans hshown) (placed_ne_nil _ _)
    exact ⟨_, .one _, hmade, (flat_one _).trans (View.under_hidden hhidden _), rfl⟩
  · have hstate : follow k.state [b.member] = b.behind := by
      rcases hb with rfl | ⟨rfl, rfl⟩
      · cases b <;> first | rfl | exact absurd rfl hset
      · exact entries_checked.2.2
    rw [hstate] at hread
    exact ⟨_, .one _, hread, (flat_one _).trans hshown, rfl⟩

/-- One more phrase in a bracket. -/
theorem gathers_next (hg : Gathers b items) (hs : b = .set → s = Site.bracketState .set)
    (h : Reads s ws Token.comma items) (ht : t ∈ Token.comma :: b.closers)
    (hm : IsMember (.listed b true) b t e) :
    ∃ items', Gathers b items' ∧ Reads s (ws ++ Word.token Token.comma :: e.words) t items' ∧
      View.flat (views items') =
        View.flat (views items) ++ Token.leaf Token.comma :: placed b e (e.parts .full) ∧
      (b ≠ .set → items'.length = 2) := by
  obtain ⟨ps, hread, hshown⟩ := hm
  have hcomma : Takes (topOf s items) Token.comma b.later.state → Reads s
      (ws ++ Word.token Token.comma :: e.words) t
      (⟨follow b.later.state [b.member], .node b.member ps⟩ ::
        ⟨b.later.state, .token (.token Token.comma)⟩ :: items) := by
    intro htake
    exact h.append ((Takes.reads (w := .token Token.comma) htake _).append hread rfl) rfl
  have hflat : View.flat (views [⟨follow b.later.state [b.member], View.node b.member ps⟩,
      ⟨b.later.state, .token (.token Token.comma)⟩]) =
        Token.leaf Token.comma :: placed b e (e.parts .full) := by
    rw [flat_cons, flat_one, hshown, View.under_word, List.singleton_append]
  by_cases hset : b = .set
  · subst hset
    obtain ⟨htake, hgo, ⟨hhidden, -⟩, -, hends⟩ := elements_checked
    cases hg with
    | one v =>
      have hmade := reads_whole (hcomma htake) (hends t ht).2.2 rfl
        (by rw [hs rfl]; exact hgo) rfl (by rw [flat_cons]; simp [hshown])
      refine ⟨_, .one _, hmade, ?_, fun h => absurd rfl h⟩
      rw [flat_one, View.under_hidden hhidden, flat_cons, flat_cons, hshown, View.under_word,
        List.append_assoc,
        List.singleton_append]
    | more hb => exact absurd rfl hb
  · have hmem : b ∈ [Bracket.group, .subscript, .call, .index] := by
      cases b <;> first | exact absurd rfl hset | simp
    obtain ⟨⟨htake, htake'⟩, ⟨hgo, hgo'⟩, hhidden, hends⟩ := repetitions_checked b hmem
    obtain ⟨hpair, hjoin⟩ := hends t ht
    cases hg with
    | one v =>
      have hmade := reads_plain [_, _] [⟨b.behind, v⟩] (hcomma htake) hpair rfl hgo hflat
        (List.cons_ne_nil _ _)
      refine ⟨_, .more hset v _, hmade, ?_, fun _ => rfl⟩
      rw [flat_cons, View.under_hidden hhidden]
    | more _ v qs =>
      have hmade := reads_plain [_, _] [⟨b.repeated, .node b.repetition qs⟩, ⟨b.behind, v⟩]
        (hcomma htake') hpair rfl hgo' hflat
        (List.cons_ne_nil _ _)
      have hjoined := reads_plain [_, _] [⟨b.behind, v⟩] hmade hjoin rfl hgo rfl
        (by rw [flat_cons]; simp [View.under_hidden hhidden])
      refine ⟨_, .more hset v _, hjoined, ?_, fun _ => rfl⟩
      have hpair : ∀ i j : Item, View.flat (views [i, j]) = j.view.under none ++ i.view.under none := by
        intro i j
        rw [flat_cons, flat_one]
      rw [hpair, hpair, hpair, View.under_hidden hhidden, View.under_hidden hhidden,
        View.under_hidden hhidden,
        List.append_assoc]

/-- The phrases behind the first one. -/
theorem gathers_all {close : Symbol} {es : List Phrase} (hclose : close ∈ b.closers)
    (hread : ∀ e ∈ es, e.Read) (hs : b = .set → s = Site.bracketState .set)
    (hstands : standAll es (.listed b true) (.listed b true) close = true) (hg : Gathers b items)
    (h : Reads s ws (if es.isEmpty then close else Token.comma) items) :
    ∃ items', Gathers b items' ∧
      Reads s (ws ++ (wordsAll es).flatMap (.token Token.comma :: ·)) close items' ∧
      View.flat (views items') =
        View.flat (views items) ++ (partsAll es b).flatMap (Token.leaf Token.comma :: ·) ∧
      (b ≠ .set → items'.length = if es.isEmpty then items.length else 2) := by
  induction es generalizing ws items with
  | nil =>
    refine ⟨items, hg, ?_, ?_, ?_⟩
    · rw [wordsAll, List.flatMap_nil, List.append_nil]
      exact h
    · rw [partsAll, List.flatMap_nil, List.append_nil]
    · intro _
      rfl
  | cons e es ih =>
    rw [standAll, Bool.and_eq_true, Bool.and_eq_true] at hstands
    have ht : (if es.isEmpty then close else Token.comma) ∈ Token.comma :: b.closers := by
      split
      · exact List.mem_cons_of_mem _ hclose
      · exact List.mem_cons_self
    have hmember := isMember_of_read (Or.inr rfl) (hread e List.mem_cons_self) ht (fun h => by cases h)
      (fun h => by cases h) hstands.1.1 hstands.1.2
    obtain ⟨items', hg', h', hflat', hlen'⟩ := gathers_next hg hs h ht hmember
    obtain ⟨items'', hg'', h'', hflat'', hlen''⟩ :=
      ih (fun e he => hread e (List.mem_cons_of_mem _ he)) hstands.2 hg' h'
    refine ⟨items'', hg'', ?_, ?_, ?_⟩
    · rw [wordsAll, List.flatMap_cons, ← List.append_assoc]
      exact h''
    · rw [hflat'', hflat', partsAll, List.flatMap_cons, List.append_assoc]
    · intro hset
      rw [hlen'' hset, hlen' hset, ite_self]
      rfl

/-- All phrases of a bracket. -/
theorem reads_members {close : Symbol} {es : List Phrase} (hb : b.StartsAt k) (hes : es ≠ [])
    (hread : ∀ e ∈ es, e.Read) (hclose : close ∈ b.closers)
    (hstands : standAll es k (.listed b true) close = true)
    (hset : b = .set → es.head?.any isEntry = false)
    (hindex : k = .listed .set false → b = .index →
      es.head?.any isEntry = true ∨ es.length = 1 ∧ close = Token.colon) :
    ∃ items, Gathers b items ∧
      Reads k.state (separated (.token Token.comma) (wordsAll es)) close items ∧
      View.flat (views items) = separated (Token.leaf Token.comma) (partsAll es b) ∧
      (b ≠ .set → items.length = if es.length = 1 then 1 else 2) := by
  obtain ⟨e, es, rfl⟩ := List.exists_cons_of_ne_nil hes
  rw [standAll, Bool.and_eq_true, Bool.and_eq_true] at hstands
  have ht : (if es.isEmpty then close else Token.comma) ∈ Token.comma :: b.closers := by
    split
    · exact List.mem_cons_of_mem _ hclose
    · exact List.mem_cons_self
  have hentry : k = .listed .set false → b = .index →
      e.isEntry = true ∨ (if es.isEmpty then close else Token.comma) = Token.colon := by
    intro hk hi
    refine (hindex hk hi).imp (by simp) ?_
    intro h
    have hnil : es = [] := List.eq_nil_of_length_eq_zero (Nat.succ.inj h.1)
    rw [hnil]
    exact h.2
  have hmember := isMember_of_read (Or.inl hb) (hread e List.mem_cons_self) ht
    (fun _ h => by simpa using hset h) hentry hstands.1.1 hstands.1.2
  obtain ⟨items, hg, hfirst, hflat, hlen⟩ := gathers_first hb ht hmember
  have hs : b = .set → k.state = Site.bracketState .set := by
    intro h
    subst h
    rw [hb.resolve_right fun h => by cases h.1]
    rfl
  obtain ⟨items', hg', h', hflat', hlen'⟩ :=
    gathers_all hclose (fun e he => hread e (List.mem_cons_of_mem _ he)) hs hstands.2 hg hfirst
  refine ⟨items', hg', ?_, ?_, ?_⟩
  · rw [wordsAll, separated]
    exact h'
  · rw [hflat', hflat, partsAll, separated]
  · intro hne
    rw [hlen' hne, hlen]
    cases es <;> simp

end MathProg
