import MathProg.Proofs.Phrase.Members

/-!
# The right edge of an expression

What follows an expression goes to its right edge: an operator to the innermost operand there that does
not end before it, or to the whole if everything ends, and an `else` to the innermost conditional that
has none.
-/

namespace MathProg

open Expression (Level Operator Sign)

/-- What stands before the last operand of an expression that ends in one. -/
inductive Edge where
  | left (o : Operator) (l : Phrase)
  | under (s : Sign)
  /-- A range up to the `by` of its step. -/
  | bounded (l r : Phrase)
  | body (q : Quantifier) (index : Phrase)
  | branch (condition : Phrase)
  | other (condition yes : Phrase)

namespace Edge

/-- Fills in the last operand. -/
def fill : Edge → Phrase → Phrase
  | left o l, x => .binary o l x
  | under s, x => .signed s x
  | bounded l r, x => .stepped l r x
  | body q i, x => .quantified q i x
  | branch c, x => .choice c x
  | other c y, x => .choiceElse c y x

/-- Where the last operand stands. -/
def site : Edge → Dialect → Site
  | left o _, d => .right d o.level o.tokens
  | under s, d => .under d s.level s.token
  | bounded _ _, d => .step d
  | body q _, _ => .body q.level q.token
  | branch _, d => .branch d
  | other _ _, d => .other d

def words : Edge → List Word
  | left o l => l.words ++ o.tokens.map Word.token
  | under s => [.token s.token]
  | bounded l r => l.words ++ .token Token.points :: (r.words ++ [.token Token.byWord])
  | body q i => .token q.token :: i.words
  | branch c => .token Token.ifWord :: (c.words ++ [.token Token.thenWord])
  | other c y =>
    .token Token.ifWord :: (c.words ++ .token Token.thenWord :: (y.words ++ [.token Token.elseWord]))

/-- Whether what stands before the last operand is read as it stands. -/
def stands : Edge → Site → Bool
  | left o l, k => k.dialect.operators.contains (o.level, o.tokens) &&
      (l.stands k && l.ends k o.token && !k.closes o.token)
  | under s, k => k.dialect.signs.contains (s.level, s.token)
  | bounded l r, k => k.dialect.operators.contains (Operator.range.level, [Token.points]) &&
      (l.stands k && l.ends k Token.points && !k.closes Token.points) &&
      (r.stands (.right k.dialect Operator.range.level [Token.points]) &&
        r.ends (.right k.dialect Operator.range.level [Token.points]) Token.byWord)
  | body _ i, _ => i.standsBehind
  | branch c, k => c.stands (.test k.dialect) && c.ends (.test k.dialect) Token.thenWord
  | other c y, k => c.stands (.test k.dialect) && c.ends (.test k.dialect) Token.thenWord &&
      (y.stands (.branch k.dialect) && y.ends (.branch k.dialect) Token.elseWord)

theorem words_fill (f : Edge) (x : Phrase) : (f.fill x).words = f.words ++ x.words := by
  cases f <;> simp [fill, words, Phrase.words]

theorem stands_fill (f : Edge) (x : Phrase) (k : Site) :
    (f.fill x).stands k = (f.stands k && x.stands (f.site k.dialect)) := by
  cases f <;> rfl

theorem ends_fill (f : Edge) (x : Phrase) (k : Site) (t : Symbol) :
    (f.fill x).ends k t = (x.ends (f.site k.dialect) t && (f.site k.dialect).closes t) := by
  cases f <;> rfl

theorem site_dialect (f : Edge) (d : Dialect) : (f.site d).dialect = d ∨ (f.site d).dialect = .full := by
  cases f <;> first | exact Or.inl rfl | exact Or.inr rfl

theorem takesDummies_site (f : Edge) (d : Dialect) : (f.site d).takesDummies = false := by cases f <;> rfl

theorem site_mem (f : Edge) {d : Dialect} {ds : List Dialect} (hfull : .full ∈ ds) (hd : d ∈ ds) :
    (f.site d).dialect ∈ ds := by
  rcases f.site_dialect d with h | h <;> rw [h]
  · exact hd
  · exact hfull

theorem site_operator (f : Edge) {o : Operator} {d : Dialect} (ho : (o.level, o.tokens) ∈ d.operators) :
    (o.level, o.tokens) ∈ (f.site d).dialect.operators := by
  rcases f.site_dialect d with h | h <;> rw [h]
  · exact ho
  · exact o.mem_tokens

end Edge

theorem level_of_operator {o : Operator} {d : Dialect} (ho : (o.level, o.tokens) ∈ d.operators) :
    d.level? o.token = some o.level :=
  (operators_checked d (mem_dialects d) _ ho _ o.head).1

namespace Site

variable {k : Site}

/-- Whether an expression is not bound here by an operator before it, and may not be a dummy. -/
def isUnbound (k : Site) : Bool :=
  match k with
  | statement _ | listed _ _ | range _ | filter _ | test _ | branch _ | other _ => !k.takesDummies
  | _ => false

theorem takesDummies_of_isUnbound (h : k.isUnbound = true) : k.takesDummies = false := by
  cases k with
  | listed b later => simpa [isUnbound] using h
  | _ => rfl

theorem closes_of_isUnbound {o : Operator} (h : k.isUnbound = true)
    (ho : (o.level, o.tokens) ∈ k.dialect.operators) : k.closes o.token = false := by
  rw [closes, level_of_operator ho]
  cases k <;> first | rfl | cases h

end Site

namespace Phrase

/-- Whether a phrase ends in something else than an operand that may go on. -/
def isClosed : Phrase → Bool
  | quantified _ _ _ | choice _ _ | choiceElse _ _ _ | signed _ _ | binary _ _ _ | stepped _ _ _ => false
  | _ => true

/-- Along the right edge. -/
@[elab_as_elim]
theorem rightInduction {motive : Phrase → Prop} (closed : ∀ e, e.isClosed = true → motive e)
    (fill : ∀ (f : Edge) (x : Phrase), motive x → motive (f.fill x)) : ∀ e, motive e
  | quantified q i b => fill (.body q i) b (rightInduction closed fill b)
  | choice c y => fill (.branch c) y (rightInduction closed fill y)
  | choiceElse c y n => fill (.other c y) n (rightInduction closed fill n)
  | signed s x => fill (.under s) x (rightInduction closed fill x)
  | binary o l r => fill (.left o l) r (rightInduction closed fill r)
  | stepped l r s => fill (.bounded l r) s (rightInduction closed fill s)
  | number t => closed (number t) rfl
  | string t => closed (string t) rfl
  | name t suffix? => closed (name t suffix?) rfl
  | indexed t es suffix? => closed (indexed t es suffix?) rfl
  | group e suffix? => closed (group e suffix?) rfl
  | call f es suffix? => closed (call f es suffix?) rfl
  | tuple es => closed (tuple es) rfl
  | literal es => closed (literal es) rfl
  | index es => closed (index es) rfl
  | filtered es c => closed (filtered es c) rfl
  | entry i m => closed (entry i m) rfl

variable {e x n : Phrase} {o : Operator} {k : Site} {t : Symbol}

theorem ends_closed (hc : e.isClosed = true) (he : e.isEntry = false) (hk : k.takesDummies = false) :
    e.ends k t = true := by
  cases e with
  | entry => cases he
  | quantified | choice | choiceElse | signed | binary | stepped => cases hc
  | name | tuple => simp [ends, hk]
  | _ => rfl

/-- Puts `o x` behind an expression. -/
def attach (e : Phrase) (o : Operator) (x : Phrase) : Phrase :=
  if e.ends (.statement .full) o.token then binary o e x else
  match e with
  | quantified q i b => quantified q i (attach b o x)
  | choice c y => choice c (attach y o x)
  | choiceElse c y n => choiceElse c y (attach n o x)
  | signed s y => signed s (attach y o x)
  | binary p l y => binary p l (attach y o x)
  | stepped l r y => stepped l r (attach y o x)
  | e => binary o e x

theorem attach_of_ends (h : e.ends (.statement .full) o.token = true) : e.attach o x = binary o e x := by
  unfold attach
  exact if_pos h

theorem attach_closed (hc : e.isClosed = true) : e.attach o x = binary o e x := by
  unfold attach
  split
  · rfl
  · cases e with
    | quantified | choice | choiceElse | signed | binary | stepped => cases hc
    | _ => rfl

theorem attach_fill {f : Edge} (h : (f.fill e).ends (.statement .full) o.token = false) :
    (f.fill e).attach o x = f.fill (e.attach o x) := by
  have hne : ¬(f.fill e).ends (.statement .full) o.token = true := by
    rw [h]
    exact Bool.false_ne_true
  cases f <;> (simp only [Edge.fill] at hne ⊢; rw [attach, if_neg hne])

/-- An operator goes behind the whole of what ends before it, and else inside. -/
theorem attach_cases (f : Edge) (e : Phrase) :
    (f.fill e).ends (.statement .full) o.token = true ∧ (f.fill e).attach o x = binary o (f.fill e) x ∨
    (f.fill e).ends (.statement .full) o.token = false ∧ (f.fill e).attach o x = f.fill (e.attach o x) := by
  cases h : (f.fill e).ends (.statement .full) o.token with
  | true => exact Or.inl ⟨rfl, attach_of_ends h⟩
  | false => exact Or.inr ⟨rfl, attach_fill h⟩

theorem words_attach (e : Phrase) :
    (e.attach o x).words = e.words ++ (o.tokens.map Word.token ++ x.words) := by
  induction e using rightInduction with
  | closed e hc => rw [attach_closed hc, words]
  | fill f e ih =>
    rcases attach_cases (o := o) (x := x) f e with ⟨-, h⟩ | ⟨-, h⟩
    · rw [h, words]
    · rw [h, Edge.words_fill, ih, Edge.words_fill, List.append_assoc]

/-- Whether an expression ends before an operator is the same wherever it stands. -/
theorem ends_operator (ho : (o.level, o.tokens) ∈ k.dialect.operators) (hk : k.takesDummies = false) :
    e.ends k o.token = e.ends (.statement .full) o.token := by
  induction e using rightInduction generalizing k with
  | closed e hc =>
    cases he : e.isEntry with
    | true =>
      cases e with
      | entry => rfl
      | _ => cases he
    | false => rw [ends_closed hc he hk, ends_closed hc he rfl]
  | fill f e ih =>
    have hknown := f.site_operator (d := k.dialect) ho
    have hfull := f.site_operator (d := .full) o.mem_tokens
    have hcloses : (f.site k.dialect).closes o.token = (f.site .full).closes o.token := by
      rw [Site.closes, Site.closes, level_of_operator hknown, level_of_operator hfull]
      cases f <;> rfl
    rw [Edge.ends_fill, Edge.ends_fill, ih hknown (f.takesDummies_site _), hcloses,
      ← ih hfull (f.takesDummies_site _)]
    rfl

/-- Whether an operand may stand behind an operator in some dialects. -/
def Follows (x : Phrase) (o : Operator) (ds : List Dialect) : Prop :=
  ∀ d ∈ ds, (o.level, o.tokens) ∈ d.operators ∧ x.stands (.right d o.level o.tokens) = true

variable {ds : List Dialect}

theorem stands_binary (hx : x.Follows o ds) (hd : k.dialect ∈ ds) (he : e.stands k = true)
    (hend : e.ends k o.token = true) (hclose : k.closes o.token = false) :
    (binary o e x).stands k = true := by
  obtain ⟨ho, hright⟩ := hx _ hd
  simp [stands, ho, hright, he, hend, hclose]

theorem stands_attach (hfull : .full ∈ ds) (hx : x.Follows o ds) (hd : k.dialect ∈ ds)
    (hk : k.takesDummies = false) (he : e.stands k = true)
    (hopen : (e.ends k o.token && k.closes o.token) = false) : (e.attach o x).stands k = true := by
  induction e using rightInduction generalizing k with
  | closed e hc =>
    rw [attach_closed hc]
    have hend := ends_closed (t := o.token) hc (isEntry_of_stands he hk) hk
    rw [hend, Bool.true_and] at hopen
    exact stands_binary hx hd he hend hopen
  | fill f e ih =>
    rcases attach_cases (o := o) (x := x) f e with ⟨hends, h⟩ | ⟨hends, h⟩
    · rw [h]
      rw [← ends_operator (hx _ hd).1 hk] at hends
      rw [hends, Bool.true_and] at hopen
      exact stands_binary hx hd he hends hopen
    · rw [← ends_operator (hx _ hd).1 hk, Edge.ends_fill] at hends
      rw [Edge.stands_fill, Bool.and_eq_true] at he
      rw [h, Edge.stands_fill, Bool.and_eq_true]
      exact ⟨he.1, ih (f.site_mem hfull hd) (f.takesDummies_site _) he.2 hends⟩

/-- What an expression ends before, it does with an operand more. -/
theorem ends_attach (hfull : .full ∈ ds)
    (hx : ∀ d ∈ ds, x.ends (.right d o.level o.tokens) t = true ∧
      (Site.right d o.level o.tokens).closes t = true)
    (hd : k.dialect ∈ ds) (he : e.ends k t = true) : (e.attach o x).ends k t = true := by
  induction e using rightInduction generalizing k with
  | closed e hc =>
    rw [attach_closed hc, ends, Bool.and_eq_true]
    exact hx _ hd
  | fill f e ih =>
    rcases attach_cases (o := o) (x := x) f e with ⟨-, h⟩ | ⟨-, h⟩
    · rw [h, ends, Bool.and_eq_true]
      exact hx _ hd
    · rw [Edge.ends_fill, Bool.and_eq_true] at he
      rw [h, Edge.ends_fill, Bool.and_eq_true]
      exact ⟨ih (f.site_mem hfull hd) he.1, he.2⟩

/-- Whether an expression ends in a conditional that may still take an `else`. -/
def leavesOpen : Phrase → Bool
  | choice _ _ => true
  | quantified _ _ x | choiceElse _ _ x | signed _ x | binary _ _ x | stepped _ _ x => x.leavesOpen
  | _ => false

theorem leavesOpen_attach (he : e.leavesOpen = false) (hx : x.leavesOpen = false) :
    (e.attach o x).leavesOpen = false := by
  induction e using rightInduction with
  | closed e hc => rwa [attach_closed hc]
  | fill f e ih =>
    rcases attach_cases (o := o) (x := x) f e with ⟨-, h⟩ | ⟨-, h⟩
    · rwa [h]
    · rw [h]
      cases f with
      | branch => cases he
      | left | under | bounded | body | other => exact ih he

/-- Puts `else n` behind an expression, if it ends in a conditional that has none. -/
def otherwise (e n : Phrase) : Option Phrase :=
  match e with
  | choice c y => ((y.otherwise n).map (choice c)).or (some (choiceElse c y n))
  | quantified q i x => (x.otherwise n).map (quantified q i)
  | choiceElse c y x => (x.otherwise n).map (choiceElse c y)
  | signed s x => (x.otherwise n).map (signed s)
  | binary o l x => (x.otherwise n).map (binary o l)
  | stepped l r x => (x.otherwise n).map (stepped l r)
  | _ => none

/-- Where an `else` goes: further in, or to the conditional that ends there. -/
theorem otherwise_cases {f : Edge} {e' : Phrase} (h : (f.fill e).otherwise n = some e') :
    (∃ x, e.otherwise n = some x ∧ e' = f.fill x) ∨
      e.otherwise n = none ∧ ∃ c, f = .branch c ∧ e' = choiceElse c e n := by
  cases f with
  | branch c =>
    simp only [Edge.fill, otherwise] at h
    cases hn : e.otherwise n with
    | none =>
      rw [hn] at h
      exact Or.inr ⟨rfl, c, rfl, (Option.some.inj h).symm⟩
    | some x =>
      rw [hn] at h
      exact Or.inl ⟨x, rfl, (Option.some.inj h).symm⟩
  | left | under | bounded | body | other =>
    simp only [Edge.fill, otherwise] at h
    obtain ⟨x, hx, rfl⟩ := Option.map_eq_some_iff.mp h
    exact Or.inl ⟨x, hx, rfl⟩

theorem otherwise_closed (hc : e.isClosed = true) : e.otherwise n = none := by
  cases e with
  | quantified | choice | choiceElse | signed | binary | stepped => cases hc
  | _ => rfl

theorem isSome_otherwise (e n : Phrase) : (e.otherwise n).isSome = e.leavesOpen := by
  induction e using rightInduction with
  | closed e hc =>
    rw [otherwise_closed hc]
    cases e with
    | quantified | choice | choiceElse | signed | binary | stepped => cases hc
    | _ => rfl
  | fill f e ih => cases f <;> simp [Edge.fill, otherwise, leavesOpen, ih]

theorem words_otherwise {e' : Phrase} (h : e.otherwise n = some e') :
    e'.words = e.words ++ .token Token.elseWord :: n.words := by
  induction e using rightInduction generalizing e' with
  | closed e hc =>
    rw [otherwise_closed hc] at h
    cases h
  | fill f e ih =>
    rcases otherwise_cases h with ⟨x, hx, rfl⟩ | ⟨-, c, rfl, rfl⟩
    · rw [Edge.words_fill, ih hx, Edge.words_fill, List.append_assoc]
    · simp [Edge.fill, words]

/-- Before a token that neither is an operator nor begins a step, all ends but a conditional before its
`else`. -/
theorem ends_stop (ht : ∀ d ∈ dialects, d.level? t = none) (hby : t ≠ Token.byWord)
    (he : e.stands k = true) (hk : k.takesDummies = false) :
    e.ends k t = (t != Token.elseWord || !e.leavesOpen) := by
  induction e using rightInduction generalizing k with
  | closed e hc =>
    rw [ends_closed hc (isEntry_of_stands he hk) hk]
    cases e with
    | quantified | choice | choiceElse | signed | binary | stepped => cases hc
    | _ => simp [leavesOpen]
  | fill f e ih =>
    rw [Edge.stands_fill, Bool.and_eq_true] at he
    have hlevel : (f.site k.dialect).dialect.level? t = none := ht _ (mem_dialects _)
    rw [Edge.ends_fill, ih he.2 (f.takesDummies_site _), Site.closes, hlevel]
    cases f <;> simp +contextual [Edge.site, Site.endsAt, Edge.fill, leavesOpen, hby]

/-- Tokens that all ends before. -/
def stops : List Symbol :=
  [Token.semicolon, Token.comma, Token.colon, Token.closeBrace, Token.closeBracket, Token.closeParen,
    Token.thenWord]

theorem stops_checked :
    (∀ t ∈ Token.elseWord :: stops, (∀ d ∈ dialects, d.level? t = none) ∧ t ≠ Token.byWord) ∧
    Token.elseWord ∉ stops := by
  decide +kernel

theorem ends_of_stop (ht : t ∈ stops) (he : e.stands k = true) (hk : k.takesDummies = false) :
    e.ends k t = true := by
  obtain ⟨hstop, hby⟩ := stops_checked.1 t (List.mem_cons_of_mem _ ht)
  have hne : t ≠ Token.elseWord := fun h => stops_checked.2 (h ▸ ht)
  rw [ends_stop hstop hby he hk]
  simp [hne]

theorem ends_else (he : e.stands k = true) (hk : k.takesDummies = false) :
    e.ends k Token.elseWord = !e.leavesOpen := by
  obtain ⟨hstop, hby⟩ := stops_checked.1 Token.elseWord List.mem_cons_self
  rw [ends_stop hstop hby he hk]
  rfl

/-- An `else` makes the conditional it goes to whole. -/
theorem stands_otherwise {e' : Phrase} (hfull : .full ∈ ds)
    (hn : ∀ d ∈ ds, n.stands (.other d) = true) (hd : k.dialect ∈ ds) (he : e.stands k = true)
    (h : e.otherwise n = some e') : e'.stands k = true := by
  induction e using rightInduction generalizing k e' with
  | closed e hc =>
    rw [otherwise_closed hc] at h
    cases h
  | fill f e ih =>
    rw [Edge.stands_fill, Bool.and_eq_true] at he
    rcases otherwise_cases h with ⟨x, hx, rfl⟩ | ⟨hnone, c, rfl, rfl⟩
    · rw [Edge.stands_fill, Bool.and_eq_true]
      exact ⟨he.1, ih (f.site_mem hfull hd) he.2 hx⟩
    · have hopen : e.leavesOpen = false := by
        rw [← isSome_otherwise e n, hnone]
        rfl
      obtain ⟨hc, hy⟩ := he
      have hyes : e.stands (.branch k.dialect) = true := hy
      have hend : e.ends (.branch k.dialect) Token.elseWord = true := by
        rw [ends_else hyes rfl, hopen]
        rfl
      simp only [Edge.stands, Bool.and_eq_true] at hc
      simp [stands, hc, hyes, hend, hn _ hd]

end Phrase

end MathProg
