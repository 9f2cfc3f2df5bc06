import MathProg.Proofs.Automaton.Rows
import MathProg.Proofs.Phrase.Basic

/-!
# Where expressions stand

Of what stands before an expression the automaton remembers a state. What it does there, before the
expression and behind it, is the rule of the levels. All of it is checked site by site.
-/

namespace MathProg

open Automaton
open Expression (Level Operator Sign follow)

namespace Dialect

/-- Before the first expression of a statement. -/
def first : Dialect → State
  | full => follow start [36]
  | output => follow start [37]
  | linear => follow start [34, Grammar.declaredName, Token.colon]

example : [36, 37, 34].map Symbol.name = ["display", "printf", "minimize"] := by decide +kernel

/-- Behind the first expression of a statement. -/
def behind (d : Dialect) : State := follow d.first [d.symbol]

end Dialect

namespace Site

def bracketState : Bracket → State
  | .group => follow Dialect.full.first [Token.openParen]
  | .subscript => follow Dialect.full.first [Symbol.symbolicName, Token.openBracket]
  | .call => follow Dialect.full.first [Grammar.functionName, Token.openParen]
  | .set => follow Dialect.full.first [Token.openBrace]
  | .index => follow Dialect.full.first [80, Token.openBrace]

/-- What stands in a bracket before the first comma. -/
def memberSymbol : Bracket → Symbol
  | .group | .subscript | .call => Grammar.expr
  | .set => Grammar.setElements
  | .index => Grammar.indexingEntry

/-- The state in front of an expression. -/
def state : Site → State
  | statement d => d.first
  | attributed opener => follow start [8, Grammar.declaredName, opener]
  | listed b false => bracketState b
  | listed b true => follow (bracketState b) [memberSymbol b, Token.comma]
  | range false => follow (bracketState .index) [Symbol.symbolicName, Token.inWord]
  | range true => follow (bracketState .index) [Grammar.tupel, Token.inWord]
  | filter false => follow (bracketState .index) [Grammar.indexingEntry, Token.colon]
  | filter true => follow (bracketState .index) [Grammar.indexingEntry, 189, Token.colon]
  | test d => follow d.first [Token.ifWord]
  | right d _ ts => follow d.behind ts
  | under d _ t => follow d.first [t]
  | step d => follow d.behind [Token.points, d.symbol, Token.byWord]
  | body _ t => follow Dialect.full.first [t, Grammar.indexingExpression]
  | branch d => follow d.first [Token.ifWord, Grammar.expr, Token.thenWord]
  | other d => follow d.first [Token.ifWord, Grammar.expr, Token.thenWord, branchSymbol d, Token.elseWord]
where
  branchSymbol (d : Dialect) : Symbol := d.symbol

/-- The state behind an expression. -/
def full (k : Site) : State := follow k.state [k.dialect.symbol]

/-- The names of the parts of what ends in an operand, before the operand. -/
def names : Site → List (Option Symbol)
  | statement _ | listed _ _ | range _ | filter _ | test _ => []
  | attributed opener => [if opener ∈ relationTokens then some Grammar.operator else none]
  | right d _ ts =>
    d.operand? :: ts.map fun t => if t = Token.points then none else some Grammar.operator
  | under _ _ _ => [some Grammar.operator]
  | step d => [d.operand?, none, d.operand?, none]
  | body _ _ => [some Grammar.operator, none]
  | branch _ => [none, none, none]
  | other d => [none, none, none, d.branch?, none]

/-- The reduction that ends it. -/
def rule (k : Site) : Rule :=
  match k with
  | attributed _ => made Grammar.declarationAttribute none
  | body _ _ => made Grammar.iteratedExpression none
  | branch d | other d => made d.conditional d.branch?
  | k => made k.dialect.symbol k.dialect.operand?
where
  made (x : Symbol) (last : Option Symbol) : Rule :=
    ⟨x, k.names.length + 1, Tree.namedFrom 0 (k.names ++ [last])⟩

end Site

def dialects : List Dialect := [.full, .output, .linear]

theorem mem_dialects (d : Dialect) : d ∈ dialects := by cases d <;> decide

/-- The sites of a rule. -/
def Dialect.sites (d : Dialect) : List Site :=
  [.statement d, .test d, .branch d, .other d] ++ d.operators.map (fun o => .right d o.1 o.2) ++
    d.signs.map fun s => .under d s.1 s.2

/-- The sites inside of brackets. -/
def Bracket.sites : List Site :=
  [Bracket.group, .subscript, .call, .set, .index].flatMap (fun b => [.listed b false, .listed b true]) ++
    [.range false, .range true, .filter false, .filter true]

/-- All sites. -/
def sites : List Site :=
  dialects.flatMap Dialect.sites ++ [.step .full, .step .output] ++ Bracket.sites ++
    attributeTokens.map .attributed ++ quantifiers.map fun q => .body q.1 q.2

/-- Outside of all brackets. -/
def outside (xs : List Symbol) : State := follow Dialect.full.first xs

namespace Site

/-- Behind a name. -/
def nameState (k : Site) : State :=
  if k.takesDummies then follow k.state [Symbol.symbolicName] else outside [Symbol.symbolicName]

/-- Behind a tuple. -/
def tupelState (k : Site) : State :=
  if k.takesDummies || k.takesTuples then follow k.state [Grammar.tupel] else outside [Grammar.tupel]

/-- Behind an index. -/
def indexState : State := follow (bracketState .group) [Grammar.indexingExpression]

end Site

/-- The modes that are made for something else than the model. -/
def dataModes : List Nat :=
  [0, 32, 33, 34, 54, 55, 56, 57, 58, 59, 60, 61, 62, 63, 64, 74, 77, 78, 80, 86, 87, 89]

theorem data_modes_checked : (List.range Mode.table.size).all (fun i =>
    dataModes.any (Nat.beq i) || decide ((Mode.table[i]?.getD default).ReadsModel)) = true := by
  decide +kernel

/-- Whether a state reads nothing but what a model may hold. -/
def readsModelAt (u : State) : Bool := (rowAt u).any fun q => !dataModes.any (Nat.beq q.mode)

theorem readsModel_of_readsModelAt {u : State} (h : readsModelAt u = true) : (mode u).ReadsModel := by
  obtain ⟨q, hq, h⟩ := (Option.any_eq_true _ _).mp h
  rw [mode, modeIndex, row_eq, hq, Option.elim_some]
  by_cases hlt : q.mode < Mode.table.size
  · have hchecked := List.all_eq_true.mp data_modes_checked q.mode (List.mem_range.mpr hlt)
    rw [Bool.or_eq_true] at hchecked
    rcases hchecked with hdata | hmodel
    · rw [hdata] at h
      cases h
    · exact of_decide_eq_true hmodel
  · rw [Array.getElem?_eq_none (Nat.le_of_not_lt hlt), Option.getD_none]
    decide

/-- A state takes a token, and reads nothing behind it but what a model may hold. -/
def Takes (s : State) (t : Symbol) (u : State) : Prop :=
  action? s t = some (.shift u) ∧ (mode u).ReadsModel

instance (s u : State) (t : Symbol) : Decidable (Takes s t u) := inferInstanceAs (Decidable (_ ∧ _))

/-- The tokens that an expression may begin with, besides names, signs and the `if` of a conditional. -/
def starters : List Symbol :=
  [Symbol.string, Symbol.number, Token.openParen, Token.openBrace] ++ functionTokens ++
    quantifiers.map (·.2)

/-- What is made in one way wherever an expression stands. -/
def operandSymbols : List Symbol :=
  [Grammar.iteratedExpression, Grammar.literalSet, Grammar.functionCall, Grammar.functionName]

namespace Dialect

/-- The symbols quantified which all states in front of an expression go on in the same way. -/
def shared (d : Dialect) : List Symbol :=
  starters ++ operandSymbols ++ [Token.ifWord, Grammar.primary, d.conditional] ++ d.signs.map (·.2)

/-- Where they go on to. -/
def common (d : Dialect) : List State :=
  (rowAt d.first).elim [] fun r => r.successors.filter fun u => d.shared.any (Nat.beq (entryOf u))

end Dialect

namespace Site

/-- Whether the state in front of an expression goes on as all of them do. -/
def agreesBefore (k : Site) (d : Dialect) (r : Row) : Bool :=
  r.reductions.isEmpty && d.common.isSublist r.successors && r.leads k.nameState &&
    r.leads k.tupelState && (k.takesIndex || r.leads indexState)

/-- Whether the state behind an expression does what the levels say. -/
def agreesBehind (k : Site) (d : Dialect) (r : Row) : Bool :=
  (k.followersIn d).all fun t =>
    if k.endsAt t (d.level? t) then r.ruleFor t == some k.rule
    else (d.level? t).isNone || ((r.ruleFor t).isNone && r.leads (follow d.behind [t]))

def agrees (k : Site) (d : Dialect) : Bool :=
  !Nat.beq k.state lost && !Nat.beq k.full lost && (rowAt k.state).any (k.agreesBefore d) &&
    (rowAt k.full).any (k.agreesBehind d)

/-- A test of the dialect of a site, which is known where the test is made. -/
def inDialect (k : Site) (test : Dialect → Bool) : Bool :=
  match k.dialect with
  | .full => test .full
  | .output => test .output
  | .linear => test .linear

theorem inDialect_eq (k : Site) (test : Dialect → Bool) : k.inDialect test = test k.dialect := by
  unfold inDialect
  cases k.dialect <;> rfl

end Site

/-- Behind an expression, at an operator. -/
theorem operators_checked : ∀ d ∈ dialects, ∀ o ∈ d.operators, ∀ t ∈ o.2.head?,
    d.level? t = some o.1 ∧ successor? d.behind t = some (follow d.behind [t]) ∧
      readsModelAt (follow d.behind [t]) = true := by
  decide +kernel

theorem followers_checked : (∀ t ∈ Dialect.full.followers, isWord t = true) ∧
    (∀ d ∈ dialects, ∀ t ∈ d.followers, t ∈ Dialect.full.followers) ∧
    ∀ k ∈ [Site.listed .set false, .listed .set true, .listed .index true, .attributed Token.comma],
      ∀ t ∈ k.followers, t ∈ Dialect.full.followers := by
  decide +kernel

/-- In front of an expression. -/
theorem starters_checked : ∀ d ∈ dialects,
    (∀ t ∈ starters, isWord t = true ∧ successor? d.first t = some (outside [t]) ∧
      readsModelAt (outside [t]) = true) ∧
    (∀ s ∈ d.signs, isWord s.2 = true ∧ successor? d.first s.2 = some (follow d.first [s.2]) ∧
      readsModelAt (follow d.first [s.2]) = true) ∧
    (successor? d.first Token.ifWord = some (follow d.first [Token.ifWord]) ∧
      readsModelAt (follow d.first [Token.ifWord]) = true) ∧
    (∀ x ∈ operandSymbols, successor? d.first x = some (outside [x])) ∧
    ∀ x ∈ [Grammar.primary, d.conditional], successor? d.first x = some (follow d.first [x]) := by
  decide +kernel

/-- Where a name or a tuple may be a dummy, or a tuple stands for itself. -/
def memberSites : List Site :=
  [.listed .set false, .listed .set true, .listed .index false, .listed .index true]

theorem members_checked :
    (∀ u ∈ outside [Symbol.symbolicName] :: memberSites.map (·.nameState),
      entryOf u = Symbol.symbolicName ∧ readsModelAt u = true) ∧
    (∀ u ∈ outside [Grammar.tupel] :: memberSites.map (·.tupelState), entryOf u = Grammar.tupel) ∧
    entryOf Site.indexState = Grammar.indexingExpression := by
  decide +kernel

theorem sites_checked : sites.all (fun k => k.inDialect k.agrees) = true := by decide +kernel

namespace Site

variable {k : Site} {t x : Symbol} {u : State}

theorem agrees_of_mem (hk : k ∈ sites) : k.agrees k.dialect = true := by
  rw [← inDialect_eq k k.agrees]
  exact List.all_eq_true.mp sites_checked k hk

/-- The row of the state in front of an expression. -/
structure Before (k : Site) (r : Row) : Prop where
  row : rowAt k.state = some r
  unreduced : r.reductions = []
  common : ∀ u ∈ k.dialect.common, u ∈ r.successors
  name : k.nameState ∈ r.successors
  tupel : k.tupelState ∈ r.successors
  index : k.takesIndex = false → indexState ∈ r.successors

theorem before (hk : k ∈ sites) : k.state ≠ lost ∧ ∃ r, k.Before r := by
  have h := agrees_of_mem hk
  simp only [agrees, Bool.and_eq_true, Bool.not_eq_true', Option.any_eq_true, agreesBefore,
    Bool.or_eq_true] at h
  obtain ⟨⟨⟨hlost, -⟩, r, hrow, ⟨⟨⟨hred, hcommon⟩, hname⟩, htupel⟩, hindex⟩, -⟩ := h
  refine ⟨Nat.ne_of_beq_eq_false hlost, r, ?_⟩
  constructor
  · exact hrow
  · exact List.isEmpty_iff.mp hred
  · intro u hu
    exact (List.isSublist_iff_sublist.mp hcommon).subset hu
  · exact Row.mem_of_leads hname
  · exact Row.mem_of_leads htupel
  · intro hno
    rw [hno] at hindex
    exact Row.mem_of_leads (hindex.resolve_left Bool.false_ne_true)

theorem behind (hk : k ∈ sites) : k.full ≠ lost ∧ ∃ r, rowAt k.full = some r ∧ ∀ t ∈ k.followers,
    if k.closes t then r.ruleFor t = some k.rule
    else (k.dialect.level? t).isNone = true ∨
      r.ruleFor t = none ∧ follow k.dialect.behind [t] ∈ r.successors := by
  have h := agrees_of_mem hk
  simp only [agrees, Bool.and_eq_true, Bool.not_eq_true', Option.any_eq_true, agreesBehind] at h
  obtain ⟨⟨⟨-, hlost⟩, -⟩, r, hrow, h⟩ := h
  refine ⟨Nat.ne_of_beq_eq_false hlost, r, hrow, ?_⟩
  intro t ht
  have hat := List.all_eq_true.mp h t ht
  rw [closes]
  split
  · rename_i hc
    rwa [if_pos hc, beq_iff_eq] at hat
  · rename_i hc
    rw [if_neg hc, Bool.or_eq_true, Bool.and_eq_true, Option.isNone_iff_eq_none (o := r.ruleFor t)] at hat
    exact hat.imp_right fun h => ⟨h.1, Row.mem_of_leads h.2⟩

/-- In front of an expression nothing is reduced. -/
theorem takes_of_successor (hk : k ∈ sites) (ht : isWord t = true) (hu : successor? k.state t = some u)
    (hm : readsModelAt u = true) : Takes k.state t u := by
  obtain ⟨hlost, r, hr⟩ := before hk
  refine ⟨shift_of_row hr.row hlost ht ?_ hu, readsModel_of_readsModelAt hm⟩
  rw [Row.ruleFor, hr.unreduced]
  rfl

theorem goes (hk : k ∈ sites) (hx : x ∈ k.dialect.shared) (hu : successor? k.dialect.first x = some u) :
    successor? k.state x = some u := by
  obtain ⟨⟨row, hrow, hmem⟩, q, hq, rfl⟩ := successor_some hu
  obtain ⟨-, r, hr⟩ := before hk
  rw [row_eq] at hrow hq
  have hentry : entryOf u = q.entry := by rw [entryOf, hq]; rfl
  have hcommon : u ∈ k.dialect.common := by
    rw [Dialect.common, hrow, Option.elim_some]
    refine List.mem_filter.mpr ⟨hmem, List.any_eq_true.mpr ⟨_, hx, ?_⟩⟩
    rw [hentry]
    exact Nat.beq_refl _
  exact successor_of_mem hr.row (hr.common u hcommon) hq

theorem goes_full (hk : k ∈ sites) : successor? k.state k.dialect.symbol = some k.full := by
  have hlost := (behind hk).1
  rw [full, follow, List.foldl_cons, List.foldl_nil] at hlost ⊢
  cases hu : successor? k.state k.dialect.symbol with
  | none =>
    rw [hu] at hlost
    exact absurd rfl hlost
  | some u => rfl

theorem follower_of_dialect (ht : t ∈ k.followers) : t ∈ k.dialect.followers := by
  obtain ⟨-, -, hbraces⟩ := followers_checked
  cases k with
  | attributed opener => exact hbraces (.attributed Token.comma) (by simp) t ht
  | listed b later =>
    cases b with
    | set =>
      cases later with
      | false => exact hbraces (.listed .set false) (by simp) t ht
      | true => exact hbraces (.listed .set true) (by simp) t ht
    | index => exact hbraces (.listed .index true) (by simp) t ht
    | group | subscript | call => exact ht
  | statement | range | filter | test | right | under | step | body | branch | other => exact ht

theorem follower_full (ht : t ∈ k.followers) : t ∈ Dialect.full.followers :=
  followers_checked.2.1 _ (mem_dialects _) t (follower_of_dialect ht)

theorem isWord_of_follower (ht : t ∈ k.followers) : isWord t = true :=
  followers_checked.1 t (follower_full ht)

/-- What ends here is made of its parts. -/
theorem reduces (hk : k ∈ sites) (ht : t ∈ k.followers) (hc : k.closes t = true) :
    action? k.full t = some (.reduce k.rule) := by
  obtain ⟨hlost, r, hrow, h⟩ := behind hk
  have hat := h t ht
  rw [if_pos hc] at hat
  exact reduce_of_row hrow hlost (isWord_of_follower ht) hat

/-- What does not end here takes in an operator. -/
theorem continues (hk : k ∈ sites) (ht : t ∈ k.followers) (hc : k.closes t = false)
    (ho : (k.dialect.level? t).isSome = true) : Takes k.full t (follow k.dialect.behind [t]) := by
  obtain ⟨hlost, r, hrow, h⟩ := behind hk
  have hat := h t ht
  rw [if_neg (by rw [hc]; exact Bool.false_ne_true)] at hat
  obtain ⟨level, hlevel⟩ := Option.isSome_iff_exists.mp ho
  obtain ⟨o, hfound, -⟩ := Option.map_eq_some_iff.mp hlevel
  have hsome := List.find?_some hfound
  have hhead : t ∈ o.2.head? := eq_of_beq hsome
  obtain ⟨-, hsuccessor, hmode⟩ :=
    operators_checked _ (mem_dialects k.dialect) o (List.mem_of_find?_eq_some hfound) t hhead
  obtain ⟨hred, hmem⟩ := hat.resolve_left (by rw [hlevel]; exact Bool.false_ne_true)
  obtain ⟨-, q, hq, rfl⟩ := successor_some hsuccessor
  rw [row_eq] at hq
  exact ⟨shift_of_row hrow hlost (isWord_of_follower ht) hred (successor_of_mem hrow hmem hq),
    readsModel_of_readsModelAt hmode⟩

theorem takes_start (hk : k ∈ sites) (ht : t ∈ starters) : Takes k.state t (outside [t]) := by
  obtain ⟨hstart, -⟩ := starters_checked _ (mem_dialects k.dialect)
  obtain ⟨hword, hu, hm⟩ := hstart t ht
  have hshared : t ∈ k.dialect.shared := by
    simp only [Dialect.shared, List.mem_append, ht, true_or]
  exact takes_of_successor hk hword (goes hk hshared hu) hm

theorem takes_sign {p : Level} (hk : k ∈ sites) (ht : (p, t) ∈ k.dialect.signs) :
    Takes k.state t (under k.dialect p t).state := by
  obtain ⟨-, hsigns, -⟩ := starters_checked _ (mem_dialects k.dialect)
  obtain ⟨hword, hu, hm⟩ := hsigns _ ht
  exact takes_of_successor hk hword
    (goes hk (List.mem_append_right _ (List.mem_map.mpr ⟨_, ht, rfl⟩)) hu) hm

theorem takes_if (hk : k ∈ sites) : Takes k.state Token.ifWord (test k.dialect).state := by
  obtain ⟨-, -, ⟨hu, hm⟩, -⟩ := starters_checked _ (mem_dialects k.dialect)
  exact takes_of_successor hk (by decide) (goes hk (by simp [Dialect.shared]) hu) hm

theorem goes_operand (hk : k ∈ sites) (hx : x ∈ operandSymbols) :
    successor? k.state x = some (outside [x]) := by
  obtain ⟨-, -, -, hoperands, -⟩ := starters_checked _ (mem_dialects k.dialect)
  have hshared : x ∈ k.dialect.shared := by
    simp only [Dialect.shared, List.mem_append, hx, or_true, true_or]
  exact goes hk hshared (hoperands x hx)

theorem goes_primary (hk : k ∈ sites) (hx : x ∈ [Grammar.primary, k.dialect.conditional]) :
    successor? k.state x = some (follow k.dialect.first [x]) := by
  obtain ⟨-, -, -, -, hprimary⟩ := starters_checked _ (mem_dialects k.dialect)
  have hshared : x ∈ k.dialect.shared := by
    simp only [Dialect.shared, List.mem_append]
    exact Or.inl (Or.inr (List.mem_cons_of_mem _ hx))
  exact goes hk hshared (hprimary x hx)

theorem mem_memberSites (h : k.takesDummies = true ∨ k.takesTuples = true) : k ∈ memberSites := by
  unfold takesDummies takesTuples at h
  cases k with
  | listed b later => cases b <;> cases later <;> simp_all [memberSites]
  | _ => simp at h

theorem successor_of_entry {s : State} {r : Row} (hr : rowAt s = some r) (hu : u ∈ r.successors)
    (hx : entryOf u = x) (hne : x ≠ Symbol.endOfText) : successor? s x = some u := by
  obtain ⟨q, hq, rfl⟩ := rowAt_of_entry hx hne
  exact successor_of_mem hr hu hq

theorem takes_name (hk : k ∈ sites) : Takes k.state Symbol.symbolicName k.nameState := by
  obtain ⟨-, r, hr⟩ := before hk
  have hmem : k.nameState ∈ outside [Symbol.symbolicName] :: memberSites.map (·.nameState) := by
    by_cases h : k.takesDummies = true
    · exact List.mem_cons_of_mem _ (List.mem_map.mpr ⟨k, mem_memberSites (Or.inl h), rfl⟩)
    · rw [nameState, if_neg h]
      exact List.mem_cons_self
  obtain ⟨hentry, hm⟩ := members_checked.1 _ hmem
  exact takes_of_successor hk (by decide) (successor_of_entry hr.row hr.name hentry (by decide)) hm

theorem goes_tupel (hk : k ∈ sites) : successor? k.state Grammar.tupel = some k.tupelState := by
  obtain ⟨-, r, hr⟩ := before hk
  have hmem : k.tupelState ∈ outside [Grammar.tupel] :: memberSites.map (·.tupelState) := by
    by_cases h : (k.takesDummies || k.takesTuples) = true
    · exact List.mem_cons_of_mem _ (List.mem_map.mpr ⟨k, mem_memberSites (Bool.or_eq_true_iff.mp h), rfl⟩)
    · rw [tupelState, if_neg h]
      exact List.mem_cons_self
  exact successor_of_entry hr.row hr.tupel (members_checked.2.1 _ hmem) (by decide)

theorem goes_index (hk : k ∈ sites) (hi : k.takesIndex = false) :
    successor? k.state Grammar.indexingExpression = some indexState := by
  obtain ⟨-, r, hr⟩ := before hk
  exact successor_of_entry hr.row (hr.index hi) members_checked.2.2 (by decide)

theorem mem_sites_of_dialect {d : Dialect} (h : k ∈ d.sites) : k ∈ sites := by
  simp only [sites, List.mem_append, List.mem_flatMap]
  exact Or.inl (Or.inl (Or.inl (Or.inl ⟨d, mem_dialects d, h⟩)))

theorem statement_mem (d : Dialect) : statement d ∈ sites :=
  mem_sites_of_dialect (d := d) (by simp [Dialect.sites])

theorem test_mem (d : Dialect) : test d ∈ sites := mem_sites_of_dialect (d := d) (by simp [Dialect.sites])

theorem branch_mem (d : Dialect) : branch d ∈ sites :=
  mem_sites_of_dialect (d := d) (by simp [Dialect.sites])

theorem other_mem (d : Dialect) : other d ∈ sites :=
  mem_sites_of_dialect (d := d) (by simp [Dialect.sites])

theorem right_mem {d : Dialect} {p : Level} {ts : List Symbol} (h : (p, ts) ∈ d.operators) :
    right d p ts ∈ sites :=
  mem_sites_of_dialect (d := d) (List.mem_append_left _ (List.mem_append_right _
    (List.mem_map.mpr ⟨_, h, rfl⟩)))

theorem under_mem {d : Dialect} {p : Level} (h : (p, t) ∈ d.signs) : under d p t ∈ sites :=
  mem_sites_of_dialect (d := d) (List.mem_append_right _ (List.mem_map.mpr ⟨_, h, rfl⟩))

theorem step_mem {d : Dialect} (h : (Operator.range.level, [Token.points]) ∈ d.operators) :
    step d ∈ sites := by
  cases d with
  | full | output => simp [sites]
  | linear => exact absurd h (by decide)

theorem mem_sites_of_bracket (h : k ∈ Bracket.sites) : k ∈ sites := by
  simp only [sites, List.mem_append]
  exact Or.inl (Or.inl (Or.inr h))

theorem listed_mem (b : Bracket) (later : Bool) : listed b later ∈ sites :=
  mem_sites_of_bracket (by cases b <;> cases later <;> decide)

theorem range_mem (tuple : Bool) : range tuple ∈ sites := mem_sites_of_bracket (by cases tuple <;> decide)

theorem filter_mem (more : Bool) : filter more ∈ sites := mem_sites_of_bracket (by cases more <;> decide)

theorem attributed_mem (ht : t ∈ attributeTokens) : attributed t ∈ sites :=
  List.mem_append_left _ (List.mem_append_right _ (List.mem_map.mpr ⟨t, ht, rfl⟩))

theorem body_mem (q : Quantifier) : body q.level q.token ∈ sites :=
  List.mem_append_right _ (List.mem_map.mpr ⟨_, q.known, rfl⟩)

end Site

end MathProg
