import MathProg.Proofs.Phrase.Members

/-!
# Reading operands in brackets

Subscripts, groups, calls, tuples and sets are closed by a token of their own, whatever stands before and
behind them.
-/

namespace MathProg

open Automaton Straight Phrase
open Expression (Level Operator Sign follow)

variable {s u : State} {k : Site} {t x : Symbol} {ws : List Word} {items : List Item} {b : Bracket}
  {e : Phrase} {es : List Phrase} {ps : List Sketch} {n : Nat}

theorem flat_append (top below : List Item) :
    View.flat (views (top ++ below)) = View.flat (views below) ++ View.flat (views top) := by
  simp [views, View.flat]

/-- The tokens that a phrase may begin with. -/
def openers : List Symbol := Symbol.symbolicName :: Token.ifWord :: (starters ++ signTokens.map (·.2))

namespace Bracket

/-- The node of a bracket. -/
def node : Bracket → Symbol
  | group => Grammar.tupel
  | subscript => Grammar.subscript
  | call => Grammar.functionCall
  | set => Grammar.literalSet
  | index => Grammar.indexingExpression

def opening : Bracket → Symbol
  | group | call => Token.openParen
  | subscript => Token.openBracket
  | set | index => Token.openBrace

def closing : Bracket → Symbol
  | group | call => Token.closeParen
  | subscript => Token.closeBracket
  | set | index => Token.closeBrace

/-- How many children the node has beside the phrases: the name of a function belongs to its call. -/
def around : Bracket → Nat
  | call => 3
  | _ => 2

/-- The tokens that may stand behind a bracket. -/
def before : Bracket → List Symbol
  | group | set => Dialect.full.followers
  | subscript | call => Symbol.suffix :: Dialect.full.followers
  | index => Dialect.full.followers ++ openers

end Bracket

theorem brackets_checked :
    (∀ b ∈ [Bracket.subscript, .call, .set, .index],
      Takes b.behind b.closing (follow b.behind [b.closing]) ∧
      ∀ t ∈ b.before, action? (follow b.behind [b.closing]) t =
        some (.reduce (plainRule b.node (1 + b.around)))) ∧
    ∀ b ∈ [Bracket.group, .subscript, .call, .index],
      Takes b.repeated b.closing (follow b.repeated [b.closing]) ∧
      ∀ t ∈ b.before,
        action? (follow b.repeated [b.closing]) t = some (.reduce (plainRule b.node (2 + b.around))) := by
  decide +kernel

-- However many arguments a call has, its node is made of five parts.
example : action? (follow (Bracket.repeated .call) [Token.closeParen]) Token.semicolon =
    some (.reduce (plainRule Grammar.functionCall 5)) := by
  decide +kernel

/-- The bracket is closed behind its phrases. -/
theorem reads_closed (hg : Gathers b items) (hlen : b = .group → items.length ≠ 1)
    (h : Reads s ws b.closing items) (ht : t ∈ b.before) :
    ∃ u, Reads s (ws ++ [.token b.closing]) t (⟨u, .token (.token b.closing)⟩ :: items) ∧
      action? u t = some (.reduce (plainRule b.node (items.length + b.around))) := by
  obtain ⟨hone, hmore⟩ := brackets_checked
  cases hg with
  | one v =>
    have hmem : b ∈ [Bracket.subscript, .call, .set, .index] := by
      cases b <;> first | exact absurd rfl (hlen rfl) | simp
    obtain ⟨htake, hends⟩ := hone b hmem
    exact ⟨_, Reads.shift (w := .token b.closing) h htake.1 htake.2, hends t ht⟩
  | more hb v qs =>
    have hmem : b ∈ [Bracket.group, .subscript, .call, .index] := by
      cases b <;> first | exact absurd rfl hb | simp
    obtain ⟨htake, hends⟩ := hmore b hmem
    exact ⟨_, Reads.shift (w := .token b.closing) h htake.1 htake.2, hends t ht⟩

/-- Phrases in a bracket, from the opening token on. -/
theorem reads_bracket (hb : b.StartsAt k) (hs : Takes s b.opening k.state) (hes : es ≠ [])
    (hread : ∀ e ∈ es, e.Read) (hstands : standAll es k (.listed b true) b.closing = true)
    (hset : b = .set → es.head?.any isEntry = false)
    (hindex : k = .listed .set false → b = .index → es.head?.any isEntry = true)
    (hlen : b = .group → es.length ≠ 1) (ht : t ∈ b.before) :
    ∃ u items, Reads s (.token b.opening :: (separated (.token Token.comma) (wordsAll es) ++
      [.token b.closing]))
        t (⟨u, .token (.token b.closing)⟩ :: (items ++ [⟨k.state, .token (.token b.opening)⟩])) ∧
      action? u t = some (.reduce (plainRule b.node (items.length + b.around))) ∧
      View.flat (views (⟨u, .token (.token b.closing)⟩ :: (items ++
        [⟨k.state, .token (.token b.opening)⟩]))) =
        bracketed b.opening b.closing (partsAll es b) := by
  have hclose : b.closing ∈ b.closers := by cases b <;> simp [Bracket.closing, Bracket.closers]
  obtain ⟨items, hg, hmembers, hflat, hcount⟩ := reads_members hb hes hread hclose hstands hset
    fun hk hi => Or.inl (hindex hk hi)
  have hgroup : b = .group → items.length ≠ 1 := by
    intro h
    rw [hcount (by rw [h]; simp), if_neg (hlen h)]
    simp
  obtain ⟨u, hread', hends⟩ := reads_closed hg hgroup hmembers ht
  refine ⟨u, items, ?_, hends, ?_⟩
  · exact (Takes.reads (w := .token b.opening) hs _).append hread' rfl
  · rw [flat_cons, flat_append, flat_one, hflat, View.under_word, View.under_word, bracketed,
      List.singleton_append, List.cons_append]

theorem operands_checked :
    (Finishes (outside [Symbol.symbolicName, Grammar.subscript]) (plainRule Grammar.primary 2) ∧
      Takes (outside [Symbol.symbolicName, Grammar.subscript]) Symbol.suffix
        (outside [Symbol.symbolicName, Grammar.subscript, Symbol.suffix]) ∧
      Finishes (outside [Symbol.symbolicName, Grammar.subscript, Symbol.suffix])
        (plainRule Grammar.primary 3)) ∧
    (Takes (Site.listed .group false).full Token.closeParen
        (outside [Token.openParen, Grammar.expr, Token.closeParen]) ∧
      Finishes (outside [Token.openParen, Grammar.expr, Token.closeParen]) (plainRule Grammar.primary 3) ∧
      Takes (outside [Token.openParen, Grammar.expr, Token.closeParen]) Symbol.suffix
        (outside [Token.openParen, Grammar.expr, Token.closeParen, Symbol.suffix]) ∧
      Finishes (outside [Token.openParen, Grammar.expr, Token.closeParen, Symbol.suffix])
        (plainRule Grammar.primary 4)) ∧
    Finishes (outside [Grammar.functionCall]) (plainRule Grammar.primary 1) ∧
    Takes (outside [Grammar.functionCall]) Symbol.suffix (outside [Grammar.functionCall, Symbol.suffix]) ∧
    Finishes (outside [Grammar.functionCall, Symbol.suffix]) (plainRule Grammar.primary 2) := by
  decide +kernel

theorem ahead_suffix (suffix? : Option (List Char)) (ht : t ∈ Dialect.full.followers) :
    ahead t (suffixWords suffix?) ∈ Symbol.suffix :: Dialect.full.followers := by
  cases suffix? with
  | none => exact List.mem_cons_of_mem _ ht
  | some text => exact List.mem_cons_self

theorem read_indexed (text : List Char) (suffix? : Option (List Char)) (hes : ∀ e ∈ es, e.Read) :
    (indexed text es suffix?).Read := by
  intro k hk t ht hstands _
  rw [Phrase.stands, Bool.and_eq_true, Bool.not_eq_true', List.isEmpty_eq_false_iff] at hstands
  have ht' := Site.follower_full ht
  obtain ⟨-, htake, hgo⟩ := names_checked.1 _ (nameState_mem k)
  obtain ⟨⟨hfinish, hsuffix, hsuffixed⟩, -⟩ := operands_checked
  have hname := Takes.reads (w := ⟨Symbol.symbolicName, text⟩) (Site.takes_name hk) Token.openBracket
  obtain ⟨u, items, hbracket, hends, hflat⟩ := reads_bracket (b := .subscript)
    (k := .listed .subscript false)
    (Or.inl rfl) htake hstands.1 hes hstands.2 (fun h => by cases h) (fun h => by cases h)
    (fun h => by cases h) (ahead_suffix suffix? ht')
  have hread := hname.append hbracket rfl
  have hnode := reads_plain (_ :: (items ++ [_])) [_] hread hends
    (by simp [Bracket.around]) hgo hflat (List.cons_ne_nil _ _)
  have hshown := View.under_visible (visible_checked Grammar.subscript (by simp))
    (bracketed Token.openBracket Token.closeBracket (partsAll es .subscript))
  have hall := reads_suffixed hk ht hnode rfl (fun _ => hfinish t ht') hsuffix hsuffixed
    ((flat_cons _ _).trans (congrArg₂ (· ++ ·) (flat_one _) hshown)) (List.cons_ne_nil _ _)
  rw [item_of_plain rfl rfl, Phrase.words, Phrase.parts]
  simpa [Bracket.opening, Bracket.closing, View.under_token] using hall

theorem read_group (suffix? : Option (List Char)) (he : e.Read) : (group e suffix?).Read := by
  intro k hk t ht hstands _
  rw [Phrase.stands, Bool.and_eq_true] at hstands
  obtain ⟨-, ⟨htake, hfinish, hsuffix, hsuffixed⟩, -⟩ := operands_checked
  have hopen := Takes.reads (w := .token Token.openParen) (Site.takes_start hk (by decide))
    (ahead Token.closeParen e.words)
  have hinner := he (.listed .group false) (Site.listed_mem _ _) Token.closeParen
    (Dialect.mem_followers_of_stop (by decide)) hstands.1 hstands.2
  rw [item_of_plain (isEntry_of_stands hstands.1 rfl) (by simp [isBare, Site.takesTuples])] at hinner
  have hread := Reads.shift (w := .token Token.closeParen) (hopen.append hinner rfl) htake.1 htake.2
    (t := ahead t (suffixWords suffix?))
  have hall := reads_suffixed hk ht hread rfl (fun _ => hfinish t (Site.follower_full ht)) hsuffix hsuffixed
    (by simp only [flat_cons, flat_nil, View.under_word, under_expr, List.nil_append,
      List.cons_append, Site.dialect, Dialect.symbol]; rfl) (List.cons_ne_nil _ _)
  rw [item_of_plain rfl rfl, Phrase.words, Phrase.parts]
  simpa only [List.singleton_append, List.cons_append, List.append_assoc, List.nil_append] using hall

theorem calls_checked :
    (∀ f ∈ functionTokens, action? (outside [f]) Token.openParen =
      some (.reduce (plainRule Grammar.functionName 1))) ∧
    Takes (outside [Grammar.functionName]) Token.openParen (Site.listed .call false).state ∧
    Takes (Site.listed .call false).state Token.closeParen
      (outside [Grammar.functionName, Token.openParen, Token.closeParen]) ∧
    ∀ t ∈ Bracket.call.before, action? (outside [Grammar.functionName, Token.openParen,
      Token.closeParen]) t =
      some (.reduce (plainRule Grammar.functionCall 3)) := by
  decide +kernel

/-- The arguments of a call, which may have none. -/
theorem reads_arguments (hes : ∀ e ∈ es, e.Read)
    (hstands : standAll es (.listed .call false) (.listed .call true) Token.closeParen = true)
    (ht : t ∈ Bracket.call.before) :
    ∃ u items, Reads (outside [Grammar.functionName]) (.token Token.openParen ::
        (separated (.token Token.comma) (wordsAll es) ++ [.token Token.closeParen])) t
        (⟨u, .token (.token Token.closeParen)⟩ ::
          (items ++ [⟨(Site.listed .call false).state, .token (.token Token.openParen)⟩])) ∧
      action? u t = some (.reduce (plainRule Grammar.functionCall (items.length + 3))) ∧
      View.flat (views (⟨u, .token (.token Token.closeParen)⟩ ::
          (items ++ [⟨(Site.listed .call false).state, .token (.token Token.openParen)⟩]))) =
        bracketed Token.openParen Token.closeParen (partsAll es .call) := by
  obtain ⟨-, htake, hnone, hends⟩ := calls_checked
  cases es with
  | nil =>
    have hopen := Takes.reads (w := .token Token.openParen) htake Token.closeParen
    exact ⟨_, [], Reads.shift (w := .token Token.closeParen) hopen hnone.1 hnone.2, hends t ht,
      by simp [bracketed, separated, partsAll]⟩
  | cons e es =>
    exact reads_bracket (b := .call) (Or.inl rfl) htake (List.cons_ne_nil _ _) hes hstands
      (fun h => by cases h)
      (fun h => by cases h) (fun h => by cases h) ht

theorem read_call (f : Function) (suffix? : Option (List Char)) (hes : ∀ e ∈ es, e.Read) :
    (call f es suffix?).Read := by
  intro k hk t ht hstands _
  rw [Phrase.stands] at hstands
  have ht' := Site.follower_full ht
  obtain ⟨-, -, hfinish, hsuffix, hsuffixed⟩ := operands_checked
  have hstarter : f.token ∈ starters := by simp [starters, f.known]
  have hfirst := Takes.reads (w := .token f.token) (Site.takes_start hk hstarter) Token.openParen
  have hname := reads_whole hfirst (calls_checked.1 _ f.known) rfl (Site.goes_operand hk (by decide))
    ((flat_one _).trans (View.under_word _)) (List.cons_ne_nil _ _)
  obtain ⟨u, items, harguments, hends, hflat⟩ := reads_arguments hes hstands (ahead_suffix suffix? ht')
  have hparts : ∀ v : State, View.flat (views ((⟨u, .token (.token Token.closeParen)⟩ ::
      (items ++ [⟨(Site.listed .call false).state, .token (.token Token.openParen)⟩])) ++
        [⟨v, .node Grammar.functionName [Token.leaf f.token]⟩])) =
      .node Grammar.functionName [Token.leaf f.token] ::
        bracketed Token.openParen Token.closeParen (partsAll es .call) := by
    intro v
    rw [flat_append, flat_one, hflat, View.under_visible (visible_checked _ (by simp)),
      List.singleton_append]
  have hcall := reads_whole (hname.append harguments rfl) hends (by simp)
    (Site.goes_operand hk (by decide)) (hparts _) (List.cons_ne_nil _ _)
  have hall := reads_suffixed hk ht hcall rfl (fun _ => hfinish t ht') hsuffix hsuffixed
    ((flat_one _).trans (View.under_visible (visible_checked _ (by simp)) _)) (List.cons_ne_nil _ _)
  rw [item_of_plain rfl rfl, Phrase.words, Phrase.parts]
  simpa only [List.singleton_append, List.cons_append, List.append_assoc, List.nil_append] using hall

theorem tuples_checked : Finishes (outside [Grammar.tupel]) (plainRule Grammar.primary 1) ∧
    ∀ k ∈ memberSites, ∀ t ∈ k.followers, (k.takesDummies && t == Token.inWord) = false →
      (k.takesTuples && [Token.comma, Token.closeBrace].contains t) = false →
      action? k.tupelState t = some (.reduce (plainRule Grammar.primary 1)) := by
  decide +kernel

/-- A tuple is an operand, if it is not a dummy and does not stand for itself. -/
theorem tuple_ends (ht : t ∈ k.followers) (hin : (k.takesDummies && t == Token.inWord) = false)
    (hbare : (k.takesTuples && [Token.comma, Token.closeBrace].contains t) = false) :
    action? k.tupelState t = some (.reduce (plainRule Grammar.primary 1)) := by
  obtain ⟨hfinish, hmember⟩ := tuples_checked
  by_cases h : (k.takesDummies || k.takesTuples) = true
  · exact hmember k (Site.mem_memberSites (Bool.or_eq_true_iff.mp h)) t ht hin hbare
  · rw [Site.tupelState, if_neg h]
    exact hfinish t (Site.follower_full ht)

/-- Up to its node a tuple is read in one way, wherever it ends. -/
theorem reads_tupel (hk : k ∈ sites) (hes : ∀ e ∈ es, e.Read) (hstands : (tuple es).stands k = true)
    (ht : t ∈ Dialect.full.followers) :
    Reads k.state (tuple es).words t [⟨k.tupelState, .node Grammar.tupel (tuple es).inner⟩] := by
  rw [Phrase.stands, Bool.and_eq_true, decide_eq_true_eq] at hstands
  have hne : es ≠ [] := by
    rintro rfl
    exact absurd hstands.1 (by decide)
  obtain ⟨u, items, hread, hends, hflat⟩ := reads_bracket (b := .group) (Or.inl rfl)
    (Site.takes_start hk (by decide)) hne hes hstands.2 (fun h => by cases h) (fun h => by cases h)
    (fun _ => by omega) ht
  exact reads_whole hread hends (by simp [Bracket.around]) (Site.goes_tupel hk) hflat (List.cons_ne_nil _ _)

theorem under_tupel (ps : List Sketch) :
    (View.node Grammar.tupel ps).under none = [.node Grammar.tupel ps] :=
  View.under_visible (visible_checked _ (by simp)) ps

theorem read_tuple (hes : ∀ e ∈ es, e.Read) : (tuple es).Read := by
  intro k hk t ht hstands hends
  have hread := reads_tupel hk hes hstands (Site.follower_full ht)
  by_cases hbare : (tuple es).isBare k t = true
  · rw [item, if_neg (show ¬ (tuple es).isEntry = true from Bool.false_ne_true), if_pos hbare]
    exact hread
  · have hplain : (tuple es).isBare k t = false := Bool.not_eq_true _ ▸ hbare
    rw [item_of_plain rfl hplain, Phrase.parts]
    rw [Phrase.ends, Bool.not_eq_true'] at hends
    exact reads_operand hk ht hread (tuple_ends ht hends (by simpa [isBare, isTuple] using hplain)) rfl
      ((flat_one _).trans (under_tupel _)) (List.cons_ne_nil _ _)

theorem sets_checked :
    Takes (outside [Token.openBrace]) Token.closeBrace (outside [Token.openBrace, Token.closeBrace]) ∧
    Finishes (outside [Token.openBrace, Token.closeBrace]) (plainRule Grammar.literalSet 2) ∧
    Finishes (outside [Grammar.literalSet]) (plainRule Grammar.primary 1) ∧
    Finishes Site.indexState (plainRule Grammar.primary 1) := by
  decide +kernel

theorem read_literal (hes : ∀ e ∈ es, e.Read) : (literal es).Read := by
  intro k hk t ht hstands _
  rw [Phrase.stands, Bool.and_eq_true, Bool.not_eq_true'] at hstands
  have ht' := Site.follower_full ht
  obtain ⟨htake, hempty, hfinish, -⟩ := sets_checked
  have hstart : Takes k.state Token.openBrace (Site.listed .set false).state :=
    Site.takes_start hk (by decide)
  have hnode : Reads k.state (literal es).words t [⟨outside [Grammar.literalSet], .node Grammar.literalSet
      (bracketed Token.openBrace Token.closeBrace (partsAll es .set))⟩] := by
    cases es with
    | nil =>
      have hopen := Takes.reads (w := .token Token.openBrace) hstart Token.closeBrace
      exact reads_whole (Reads.shift (w := .token Token.closeBrace) hopen htake.1 htake.2)
        (hempty t ht') rfl
        (Site.goes_operand hk (by decide)) (by simp [bracketed, separated, partsAll]) (List.cons_ne_nil _ _)
    | cons e es =>
      obtain ⟨u, items, hread, hends, hflat⟩ := reads_bracket (b := .set) (Or.inl rfl) hstart
        (List.cons_ne_nil _ _) hes hstands.2 (fun _ => hstands.1) (fun _ h => by cases h)
          (fun h => by cases h) ht'
      exact reads_whole hread hends (by simp [Bracket.around]) (Site.goes_operand hk (by decide)) hflat
        (List.cons_ne_nil _ _)
  rw [item_of_plain rfl rfl, Phrase.parts]
  exact reads_operand hk ht hnode (hfinish t ht') rfl
    ((flat_one _).trans (View.under_visible (visible_checked _ (by simp)) _)) (List.cons_ne_nil _ _)

end MathProg
