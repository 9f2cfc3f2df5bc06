import MathProg.Proofs.Expression.Display
import MathProg.Proofs.Phrase.Statements

/-!
# How far expressions go

The body of a quantifier goes as far as the operators bind tighter than the quantifier does, the last
branch of a conditional takes in all that follows, and an `else` belongs to the nearest `then` that is
open.
-/

namespace MathProg

open Expression (Level Operator Sign)

namespace Token

def orWord : Symbol := 68
def orSign : Symbol := 69
def existsWord : Symbol := 84
def forallWord : Symbol := 85
def setofWord : Symbol := 86

example : [orWord, orSign, existsWord, forallWord, setofWord].map Symbol.name =
    ["or", "||", "exists", "forall", "setof"] := by decide +kernel

end Token

/-- Whether the body of a quantifier takes in an operator: that of a logical quantifier takes in all but
`or` and `||`, that of `setof` the additive, multiplicative and power operators, and that of a sum, a
product, a minimum or a maximum those of a precedence above 16. -/
def Quantifier.takes (q : Quantifier) (o : Operator) : Bool :=
  takesIn q.token (o.level, o.tokens)
where
  takesIn (token : Symbol) (o : Level × List Symbol) : Bool :=
    if token = Token.existsWord ∨ token = Token.forallWord then o.2 ∉ [[Token.orWord], [Token.orSign]]
    else if token = Token.setofWord then Dialect.linear.operators.contains o
    else 16 < o.1.precedence

theorem takes_checked : ∀ q ∈ quantifiers, ∀ o ∈ operatorTokens,
    Quantifier.takes.takesIn q.2 o = !q.1.closes o.1 := by
  decide +kernel

theorem Quantifier.takes_eq (q : Quantifier) (o : Operator) : q.takes o = !q.level.closes o.level :=
  takes_checked _ q.known _ o.mem_tokens

theorem Quantifier.closes_body (q : Quantifier) (o : Operator) :
    (Site.body q.level q.token).closes o.token = !q.takes o := by
  rw [Site.closes, level_of_operator o.mem_tokens, q.takes_eq, Bool.not_not]
  rfl

/-- What binds tighter than a level ends before what does not. -/
theorem Expression.Level.closes_of_closes {p q o : Level} (hp : q.closes p = false)
    (ho : q.closes o = true) :
    p.closes o = true := by
  simp only [Level.closes, Bool.or_eq_false_iff, decide_eq_false_iff_not, Bool.or_eq_true,
    decide_eq_true_eq,
    Bool.and_eq_true, Bool.and_eq_false_iff, beq_iff_eq] at hp ho ⊢
  obtain ⟨hlt, hne⟩ := hp
  rcases ho with ho | ⟨ho, hright⟩
  · left
    omega
  · left
    rcases hne with hne | hne
    · have : p.precedence ≠ q.precedence := ne_of_beq_false hne
      omega
    · rw [hright] at hne
      cases hne

namespace Phrase

/-- An operator with the name behind it. -/
structure Link where
  operator : Operator
  text : List Char

namespace Link

def words (l : Link) : List Word := l.operator.tokens.map Word.token ++ [⟨Symbol.symbolicName, l.text⟩]

def operand (l : Link) : Phrase := name l.text none

end Link

variable {e x n : Phrase} {o : Operator} {k : Site} {t : Symbol} {ds : List Dialect} {q : Quantifier}
  {links : List Link} {b : List Char}

/-- The words of a chain of names. -/
def chainWords (b : List Char) (links : List Link) : List Word :=
  (name b none).words ++ links.flatMap Link.words

/-- An expression with operators and names behind it. -/
def extend (e : Phrase) (links : List Link) : Phrase :=
  links.foldl (fun e l => e.attach l.operator l.operand) e

@[simp] theorem extend_nil (e : Phrase) : e.extend [] = e := rfl

@[simp] theorem extend_cons (e : Phrase) (l : Link) (links : List Link) :
    e.extend (l :: links) = (e.attach l.operator l.operand).extend links := rfl

theorem words_extend (e : Phrase) (links : List Link) :
    (e.extend links).words = e.words ++ links.flatMap Link.words := by
  induction links generalizing e with
  | nil => simp
  | cons l links ih =>
    rw [extend_cons, ih, words_attach, List.flatMap_cons, List.append_assoc]
    rfl

theorem IsChain.extend (h : e.IsChain [.full]) (links : List Link) : (e.extend links).IsChain [.full] := by
  induction links generalizing e with
  | nil => exact h
  | cons l links ih =>
    apply ih
    refine h.attach List.mem_cons_self fun d hd => ?_
    obtain rfl := List.mem_singleton.mp hd
    exact ⟨l.operator.mem_tokens, rfl⟩

theorem isChain_name (b : List Char) (suffix? : Option (List Char)) (ds : List Dialect) :
    (name b suffix?).IsChain ds := fun _ _ _ => rfl

/-- The body of a quantifier before a chain of names: the longest beginning in which all operators bind
tighter than the quantifier. -/
def bodyOf (q : Quantifier) (b : List Char) (links : List Link) : Phrase :=
  (name b none).extend (links.takeWhile fun l => q.takes l.operator)

/-- A quantifier before a chain of names. -/
def iterated (q : Quantifier) (i : Phrase) (b : List Char) (links : List Link) : Phrase :=
  (quantified q i (bodyOf q b links)).extend (links.dropWhile fun l => q.takes l.operator)

theorem extend_quantified (q : Quantifier) (i e : Phrase) (links : List Link) :
    (quantified q i e).extend links = (quantified q i (e.extend (links.takeWhile fun l => q.takes l.operator))).extend
      (links.dropWhile fun l => q.takes l.operator) := by
  induction links generalizing e with
  | nil => rfl
  | cons l links ih =>
    cases h : q.takes l.operator with
    | false => simp [h]
    | true =>
      have hends : ((Edge.body q i).fill e).ends (.statement .full) l.operator.token = false := by
        rw [Edge.ends_fill]
        change (_ && (Site.body q.level q.token).closes l.operator.token) = false
        rw [q.closes_body, h, Bool.not_true, Bool.and_false]
      have hattach : (quantified q i e).attach l.operator l.operand =
          quantified q i (e.attach l.operator l.operand) :=
        attach_fill hends
      rw [extend_cons, hattach, ih]
      simp [h]

theorem ends_extend (hk : k.dialect = .full) (he : e.ends k t = true)
    (h : ∀ l ∈ links, (Site.right .full l.operator.level l.operator.tokens).closes t = true) :
    (e.extend links).ends k t = true := by
  induction links generalizing e with
  | nil => exact he
  | cons l links ih =>
    have hlink : ∀ d ∈ [Dialect.full],
        l.operand.ends (.right d l.operator.level l.operator.tokens) t = true ∧
        (Site.right d l.operator.level l.operator.tokens).closes t = true := by
      intro d hd
      obtain rfl := List.mem_singleton.mp hd
      exact ⟨by simp [Link.operand, ends, Site.takesDummies], h l List.mem_cons_self⟩
    refine ih (ends_attach List.mem_cons_self hlink (by simp [hk]) he) fun x hx =>
      h x (List.mem_cons_of_mem _ hx)

/-- What a chain begins with. -/
def first : Phrase → Phrase
  | binary _ l _ => l.first
  | e => e

theorem first_attach (h : e.isLink = true) :
    (e.attach o x).isLink = true ∧ (e.attach o x).first = e.first := by
  cases e with
  | binary p l y =>
    rcases attach_cases (o := o) (x := x) (.left p l) y with ⟨-, h⟩ | ⟨-, h⟩
    · rw [show (binary p l y).attach o x = _ from h]
      exact ⟨rfl, rfl⟩
    · rw [show (binary p l y).attach o x = _ from h]
      exact ⟨rfl, rfl⟩
  | _ => cases h

theorem first_extend (h : e.isLink = true) : (e.extend links).first = e.first := by
  induction links generalizing e with
  | nil => rfl
  | cons l links ih =>
    obtain ⟨hlink, hfirst⟩ := first_attach (o := l.operator) (x := l.operand) h
    rw [extend_cons, ih hlink, hfirst]

/-- What the body of a quantifier does not take in continues outside of it. -/
theorem first_iterated (q : Quantifier) (i : Phrase) (b : List Char) (links : List Link) :
    (iterated q i b links).first = quantified q i (bodyOf q b links) := by
  rw [iterated]
  cases hrest : links.dropWhile fun l => q.takes l.operator with
  | nil => rfl
  | cons l rest =>
    have hl : q.takes l.operator = false := by
      have hhead := List.head?_dropWhile_not (fun l : Link => q.takes l.operator) links
      rw [hrest] at hhead
      simpa using hhead
    have hloose : q.level.closes l.operator.level = true := by
      rw [q.takes_eq] at hl
      simpa using hl
    have hinner : (bodyOf q b links).ends (.body q.level q.token) l.operator.token = true := by
      refine ends_extend rfl rfl fun x hx => ?_
      have hx := List.mem_takeWhile_imp hx
      rw [q.takes_eq, Bool.not_eq_true'] at hx
      rw [Site.closes, level_of_operator l.operator.mem_tokens]
      exact Level.closes_of_closes hx hloose
    have hends : (quantified q i (bodyOf q b links)).ends (.statement .full) l.operator.token = true := by
      rw [ends, hinner, q.closes_body, hl]
      rfl
    rw [extend_cons, attach_of_ends hends, first_extend rfl]
    rfl

theorem leavesOpen_extend (h : e.leavesOpen = false) (links : List Link) :
    (e.extend links).leavesOpen = false := by
  induction links generalizing e with
  | nil => exact h
  | cons l links ih => exact ih (leavesOpen_attach h rfl)

/-- The words of conditionals in each other's branches, with chains of names in the innermost ones. -/
inductive Nested : List Word → Prop where
  | chain (b : List Char) (links : List Link) : Nested (chainWords b links)
  | choice {c : Phrase} (hc : c.fits (.test .full) Token.thenWord = true) {yes : List Word}
    (h : Nested yes) :
    Nested (.token Token.ifWord :: (c.words ++ .token Token.thenWord :: yes))
  | choiceElse {c : Phrase} (hc : c.fits (.test .full) Token.thenWord = true) {yes no : List Word}
    (hyes : Nested yes) (hno : Nested no) :
    Nested (.token Token.ifWord :: (c.words ++ .token Token.thenWord ::
      (yes ++ .token Token.elseWord :: no)))

/-- Conditionals in each other's branches, where each `else` belongs to the nearest `then` that is open:
between the two all conditionals have their `else`. -/
inductive Nearest : Phrase → Prop where
  | chain (b : List Char) (links : List Link) : Nearest ((name b none).extend links)
  | choice {c y : Phrase} (hc : c.fits (.test .full) Token.thenWord = true) (h : Nearest y) :
    Nearest (choice c y)
  | choiceElse {c y n : Phrase} (hc : c.fits (.test .full) Token.thenWord = true) (hy : Nearest y)
    (hopen : y.leavesOpen = false) (hn : Nearest n) : Nearest (choiceElse c y n)

theorem Nearest.isChain (h : Nearest e) : e.IsChain [.full] := by
  have htest : ∀ {c : Phrase}, c.fits (.test .full) Token.thenWord = true →
      ∀ d ∈ [Dialect.full], c.fits (.test d) Token.thenWord = true := by
    intro c hc d hd
    obtain rfl := List.mem_singleton.mp hd
    exact hc
  induction h with
  | chain b links => exact (isChain_name b none _).extend links
  | choice hc h ih => exact ih.choice (htest hc)
  | @choiceElse c y n hc hy hopen hn ihy ihn =>
    have hnone : y.otherwise n = none := by
      rw [← Option.not_isSome_iff_eq_none, isSome_otherwise, hopen]
      exact Bool.false_ne_true
    refine ihy.choiceElse ihn List.mem_cons_self (htest hc) ?_
    rw [Phrase.otherwise, hnone]
    rfl

theorem Nearest.otherwise {e' : Phrase} (h : Nearest e) (hn : Nearest n) (he : e.otherwise n = some e') :
    Nearest e' := by
  induction h generalizing e' with
  | chain b links =>
    have hopen := isSome_otherwise (extend (name b none) links) n
    rw [he, leavesOpen_extend rfl] at hopen
    cases hopen
  | @choice c y hc h ih =>
    rcases otherwise_cases (f := .branch c) he with ⟨x, hx, rfl⟩ | ⟨hnone, c, hf, rfl⟩
    · exact .choice hc (ih hx)
    · cases hf
      refine .choiceElse hc h ?_ hn
      rw [← isSome_otherwise y n, hnone]
      rfl
  | @choiceElse c y m hc hy hopen hm _ ih =>
    rcases otherwise_cases (f := .other c y) he with ⟨x, hx, rfl⟩ | ⟨-, c, hf, -⟩
    · exact .choiceElse hc hy hopen (ih hx)
    · cases hf

/-- The words of nested conditionals make one expression, in which each `else` is where it belongs. -/
theorem Nested.exists_nearest {ws : List Word} (h : Nested ws) : ∃ e, e.words = ws ∧ Nearest e := by
  induction h with
  | chain b links => exact ⟨_, words_extend _ _, .chain b links⟩
  | @choice c hc yes h ih =>
    obtain ⟨y, rfl, hy⟩ := ih
    exact ⟨Phrase.choice c y, by rw [words], .choice hc hy⟩
  | @choiceElse c hc yes no hyes hno ihyes ihno =>
    obtain ⟨y, rfl, hy⟩ := ihyes
    obtain ⟨n, rfl, hn⟩ := ihno
    have hopen : (Phrase.choice c y).leavesOpen = true := rfl
    rw [← isSome_otherwise _ n] at hopen
    obtain ⟨e, he⟩ := Option.isSome_iff_exists.mp hopen
    refine ⟨e, ?_, (Nearest.choice hc hy).otherwise hn he⟩
    rw [words_otherwise he, words]
    simp

end Phrase

/-- How far quantifiers and conditionals go that are displayed: a quantifier before a chain of names, the
last branch of a conditional where it is a chain of names, and conditionals in each other's branches. -/
theorem display_extents :
    (∀ (q : Quantifier) (i : Phrase) (b : List Char) (links : List Phrase.Link), i.standsBehind = true →
      (Phrase.iterated q i b links).first = .quantified q i (Phrase.bodyOf q b links) ∧
      Dialect.full.Shows (.token q.token :: (i.words ++ Phrase.chainWords b links))
        (.iterated q i b links)) ∧
    (∀ (c y : Phrase) (b : List Char) (links : List Phrase.Link),
      c.fits (.test .full) Token.thenWord = true → y.fits (.branch .full) Token.elseWord = true →
      Dialect.full.Shows (.token Token.ifWord :: (c.words ++ .token Token.thenWord :: (y.words ++
        .token Token.elseWord :: Phrase.chainWords b links)))
          (.choiceElse c y ((Phrase.name b none).extend links)) ∧
      Dialect.full.Shows (.token Token.ifWord :: (c.words ++ .token Token.thenWord ::
        Phrase.chainWords b links))
        (.choice c ((Phrase.name b none).extend links))) ∧
    ∀ ws : List Word, Phrase.Nested ws → ∃ e, e.words = ws ∧ Phrase.Nearest e ∧
      Dialect.full.Shows ws e := by
  refine ⟨?_, ?_, ?_⟩
  · intro q i b links hi
    refine ⟨Phrase.first_iterated q i b links, ?_⟩
    have hchain : ((Phrase.quantified q i (.name b none)).extend links).IsChain [.full] :=
      ((Phrase.isChain_name b none _).quantified List.mem_cons_self hi).extend links
    have hshows := hchain.shows List.mem_cons_self
    rw [Phrase.words_extend, Phrase.extend_quantified] at hshows
    simpa [Phrase.words, Phrase.chainWords, Phrase.iterated, Phrase.bodyOf] using hshows
  · intro c y b links hc hy
    have hlast : ((Phrase.name b none).extend links).IsChain [.full] :=
      (Phrase.isChain_name b none _).extend links
    rw [Phrase.chainWords, ← Phrase.words_extend]
    constructor
    · have hchain : (Phrase.choiceElse c y ((Phrase.name b none).extend links)).IsChain [.full] := by
        intro k hd _
        rw [Phrase.stands, List.mem_singleton.mp hd]
        exact Bool.and_eq_true_iff.mpr ⟨Bool.and_eq_true_iff.mpr ⟨hc, hy⟩,
          (hlast.branch List.mem_cons_self).2⟩
      have hshows := hchain.shows List.mem_cons_self
      rwa [Phrase.words] at hshows
    · have hchain : (Phrase.choice c ((Phrase.name b none).extend links)).IsChain [.full] :=
        hlast.choice fun d hd => List.mem_singleton.mp hd ▸ hc
      have hshows := hchain.shows List.mem_cons_self
      rwa [Phrase.words] at hshows
  · intro ws h
    obtain ⟨e, rfl, he⟩ := h.exists_nearest
    exact ⟨e, rfl, he, he.isChain.shows List.mem_cons_self⟩

/-- A product stays in a sum and what is added does not, the last branch of a conditional takes it in, and
an `else` goes to the inner one of two conditionals. -/
theorem display_sum_and_conditional :
    (∃ tree, MathProg.parse "display sum {i in I} a * b + c;".toList = some tree ∧ tree.hasError = false ∧
      (Node.ofTree tree).sketch "display sum {i in I} a * b + c;".toList =
        .node Symbol.model [.node Grammar.display [Token.leaf Token.display,
          .node Grammar.expr ((Phrase.binary Phrase.plus (.quantified Phrase.sum Phrase.smallIndex
            (.binary Expression.times (.name ['a'] none) (.name ['b'] none)))
              (.name ['c'] none)).parts .full),
          Token.leaf Token.semicolon]]) ∧
    (∃ tree, MathProg.parse "display if a then b else c + d;".toList = some tree ∧ tree.hasError = false ∧
      (Node.ofTree tree).sketch "display if a then b else c + d;".toList =
        .node Symbol.model [.node Grammar.display [Token.leaf Token.display,
          .node Grammar.expr ((Phrase.choiceElse (.name ['a'] none) (.name ['b'] none)
            (.binary Phrase.plus (.name ['c'] none) (.name ['d'] none))).parts .full),
          Token.leaf Token.semicolon]]) ∧
    ∃ tree, MathProg.parse "display if a then if b then c else d;".toList = some tree ∧
      tree.hasError = false := by
  refine ⟨?_, ?_, ?_⟩
  · exact (display_extents.1 Phrase.sum Phrase.smallIndex ['a']
      [⟨Expression.times, ['b']⟩, ⟨Phrase.plus, ['c']⟩] rfl).2 [] "display sum {i in I} a * b + c;".toList
      (by decide +kernel)
  · exact (display_extents.2.1 (.name ['a'] none) (.name ['b'] none) ['c'] [⟨Phrase.plus, ['d']⟩] rfl rfl).1
      [] "display if a then b else c + d;".toList (by decide +kernel)
  · have hinner : Phrase.Nested _ := .choice (c := .name ['b'] none) rfl (.chain ['c'] [])
    have houter : Phrase.Nested _ := .choiceElse (c := .name ['a'] none) rfl hinner (.chain ['d'] [])
    obtain ⟨e, -, -, hshows⟩ := display_extents.2.2 _ houter
    obtain ⟨tree, htree, herror, -⟩ := hshows [] "display if a then if b then c else d;".toList
      (by decide +kernel)
    exact ⟨tree, htree, herror⟩

end MathProg
