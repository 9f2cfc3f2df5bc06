import MathProg.Proofs.Expression.Shape
import MathProg.Proofs.Parsing.Stretch

/-!
# Expressions

Expressions of every form, as trees: what they are written as, what they show, and where they may stand.
An expression that ends in an operand, as those with an operator do, goes on as far as its level lets
it. So whether it can be read as it is depends on what stands before it, on the token behind it, and on
the same for each of its operands.
-/

namespace MathProg

open Expression (Level Operator Sign)

namespace Token

def semicolon : Symbol := 3
def comma : Symbol := 10
def withinWord : Symbol := 16
def assign : Symbol := 17
def defaultWord : Symbol := 18
def inWord : Symbol := 19
def greater : Symbol := 25
def colon : Symbol := 32
def openBrace : Symbol := 40
def closeBrace : Symbol := 41
def openBracket : Symbol := 45
def closeBracket : Symbol := 46
def openParen : Symbol := 49
def closeParen : Symbol := 50
def points : Symbol := 74
def byWord : Symbol := 75
def ifWord : Symbol := 77
def thenWord : Symbol := 78
def elseWord : Symbol := 79

example : [semicolon, comma, withinWord, assign, defaultWord, inWord, greater, colon, openBrace, closeBrace,
    openBracket, closeBracket, openParen, closeParen, points, byWord, ifWord, thenWord,
    elseWord].map Symbol.name =
      [";", ",", "within", ":=", "default", "in", ">", ":", "\x7b", "\x7d", "[", "]", "(", ")", "..", "by",
        "if", "then", "else"] := by decide +kernel

def leaf (t : Symbol) : Sketch := .leaf t t.text

/-- A token that shows as an operator. -/
def operator (t : Symbol) : Sketch := .leaf Grammar.operator t.text

end Token

/-- The word of a token that has one text. -/
def Word.token (t : Symbol) : Word := ⟨t, t.text⟩

/-- The operators by their tokens. -/
def operatorTokens : List (Level × List Symbol) := [
  (⟨15, false⟩, [51]), (⟨15, false⟩, [52]), (⟨15, false⟩, [56]),
  (⟨17, false⟩, [55]), (⟨17, false⟩, [57]), (⟨17, false⟩, [58]), (⟨17, false⟩, [59]),
  (⟨19, true⟩, [60]), (⟨19, true⟩, [61]), (⟨13, false⟩, [62]),
  (⟨9, false⟩, [63]), (⟨9, false⟩, [64]), (⟨9, false⟩, [65]), (⟨10, false⟩, [66]), (⟨11, false⟩, [67]),
  (⟨3, false⟩, [68]), (⟨3, false⟩, [69]), (⟨5, false⟩, [70]), (⟨5, false⟩, [71]),
  (⟨7, false⟩, [19]), (⟨7, false⟩, [16]), (⟨7, false⟩, [72, 19]), (⟨7, false⟩, [72, 16]),
  (⟨7, false⟩, [73, 19]), (⟨7, false⟩, [73, 16]),
  (⟨6, false⟩, [20]), (⟨6, false⟩, [21]), (⟨6, false⟩, [22]), (⟨6, false⟩, [23]), (⟨6, false⟩, [24]),
  (⟨6, false⟩, [25]), (⟨6, false⟩, [26]), (⟨6, false⟩, [27]), (⟨12, true⟩, [74])]

theorem operatorTokens_eq :
    Expression.operators.map (fun o => (o.1, o.2.map Grammar.literal)) = operatorTokens := by
  decide +kernel

def signTokens : List (Level × Symbol) :=
  [(⟨18, false⟩, 51), (⟨18, false⟩, 52), (⟨8, false⟩, 72), (⟨8, false⟩, 73)]

theorem signTokens_eq : Expression.signs.map (fun s => (s.1, Grammar.literal s.2)) = signTokens := by
  decide +kernel

namespace Expression

def Operator.tokens (o : Operator) : List Symbol := o.words.map Grammar.literal

/-- The token that an operator begins with. -/
def Operator.token (o : Operator) : Symbol := o.tokens.headD Token.comma

def Sign.token (s : Sign) : Symbol := Grammar.literal s.word

theorem Operator.mem_tokens (o : Operator) : (o.level, o.tokens) ∈ operatorTokens := by
  rw [← operatorTokens_eq]
  exact List.mem_map.mpr ⟨_, o.known, rfl⟩

theorem heads_checked : ∀ o ∈ operatorTokens, o.2.headD Token.comma ∈ o.2.head? := by decide

theorem Operator.head (o : Operator) : o.token ∈ o.tokens.head? := heads_checked _ o.mem_tokens

theorem Sign.mem_tokens (s : Sign) : (s.level, s.token) ∈ signTokens := by
  rw [← signTokens_eq]
  exact List.mem_map.mpr ⟨_, s.known, rfl⟩

/-- Whether an expression of level `p` that ends in an operand ends before an operator of level `o`. -/
def Level.closes (p o : Level) : Bool :=
  o.precedence < p.precedence || (o.precedence == p.precedence && !p.toRight)

end Expression

/-- The words that run quantified an index, with the levels of what they make. -/
def quantifiers : List (Level × Symbol) := [
  (⟨16, false⟩, 80), (⟨16, false⟩, 81), (⟨16, false⟩, 82), (⟨16, false⟩, 83), (⟨4, false⟩, 84),
  (⟨4, false⟩, 85), (⟨15, true⟩, 86)]

example : quantifiers.map (·.2.name) = ["sum", "prod", "min", "max", "exists", "forall", "setof"] := by
  decide +kernel

structure Quantifier where
  level : Level
  token : Symbol
  known : (level, token) ∈ quantifiers

/-- The tokens of the builtin functions. -/
def functionTokens : List Symbol := 82 :: 83 :: List.range' 87 24

structure Function where
  token : Symbol
  known : token ∈ functionTokens

/-- An expression, or an entry of an index. -/
inductive Phrase where
  | number (text : List Char)
  | string (text : List Char)
  | name (text : List Char) (suffix? : Option (List Char))
  | indexed (text : List Char) (subscripts : List Phrase) (suffix? : Option (List Char))
  | group (e : Phrase) (suffix? : Option (List Char))
  | call (f : Function) (arguments : List Phrase) (suffix? : Option (List Char))
  | tuple (es : List Phrase)
  | literal (es : List Phrase)
  | index (entries : List Phrase)
  | filtered (entries : List Phrase) (condition : Phrase)
  /-- An entry of an index with a dummy, which is a name or a tuple. -/
  | entry (dummy range : Phrase)
  | quantified (q : Quantifier) (index body : Phrase)
  | choice (condition yes : Phrase)
  | choiceElse (condition yes no : Phrase)
  | signed (s : Sign) (x : Phrase)
  | binary (o : Operator) (l r : Phrase)
  /-- A range with its step. -/
  | stepped (l r s : Phrase)

namespace Phrase

def isEntry : Phrase → Bool
  | entry _ _ => true
  | _ => false

def isTuple : Phrase → Bool
  | tuple _ => true
  | _ => false

/-- Whether a phrase may be the dummy of an entry. -/
def isDummy : Phrase → Bool
  | name _ none => true
  | tuple _ => true
  | _ => false

def suffixWords (suffix? : Option (List Char)) : List Word := (suffix?.map (⟨Symbol.suffix, ·⟩)).toList

/-- Lists one behind the other, with something between them. -/
def separated {α : Type} (sep : α) : List (List α) → List α
  | [] => []
  | x :: xs => x ++ xs.flatMap (sep :: ·)

mutual

/-- What an expression is written as. -/
def words : Phrase → List Word
  | number t => [⟨Symbol.number, t⟩]
  | string t => [⟨Symbol.string, t⟩]
  | name t suffix? => ⟨Symbol.symbolicName, t⟩ :: suffixWords suffix?
  | indexed t es suffix? =>
    ⟨Symbol.symbolicName, t⟩ :: .token Token.openBracket :: (separated (.token Token.comma) (wordsAll es) ++
      .token Token.closeBracket :: suffixWords suffix?)
  | group e suffix? =>
    .token Token.openParen :: (words e ++ .token Token.closeParen :: suffixWords suffix?)
  | call f es suffix? =>
    .token f.token :: .token Token.openParen :: (separated (.token Token.comma) (wordsAll es) ++
      .token Token.closeParen :: suffixWords suffix?)
  | tuple es =>
    .token Token.openParen :: (separated (.token Token.comma) (wordsAll es) ++ [.token Token.closeParen])
  | literal es | index es =>
    .token Token.openBrace :: (separated (.token Token.comma) (wordsAll es) ++ [.token Token.closeBrace])
  | filtered es c =>
    .token Token.openBrace :: (separated (.token Token.comma) (wordsAll es) ++
      .token Token.colon :: (words c ++ [.token Token.closeBrace]))
  | entry i m => words i ++ .token Token.inWord :: words m
  | quantified q i b => .token q.token :: (words i ++ words b)
  | choice c y => .token Token.ifWord :: (words c ++ .token Token.thenWord :: words y)
  | choiceElse c y n =>
    .token Token.ifWord :: (words c ++ .token Token.thenWord ::
      (words y ++ .token Token.elseWord :: words n))
  | signed s x => .token s.token :: words x
  | binary o l r => words l ++ (o.tokens.map Word.token ++ words r)
  | stepped l r s =>
    words l ++ .token Token.points :: (words r ++ .token Token.byWord :: words s)

def wordsAll : List Phrase → List (List Word)
  | [] => []
  | e :: es => words e :: wordsAll es

end

theorem wordsAll_eq (es : List Phrase) : wordsAll es = es.map words := by
  induction es with
  | nil => rfl
  | cons e es ih => rw [wordsAll, ih, List.map_cons]

end Phrase

/-- The three rules for expressions: any of them, without the `>` that redirects output, or arithmetic
only. -/
inductive Dialect where
  | full
  | output
  | linear
  deriving DecidableEq, Repr

namespace Dialect

def symbol : Dialect → Symbol
  | full => Grammar.expr
  | output => Grammar.outputExpr
  | linear => Grammar.linearExpression

/-- The name under which an operand shows, if it is not its own. -/
def operand? : Dialect → Option Symbol
  | full => none
  | output | linear => some Grammar.expr

def conditional : Dialect → Symbol
  | full => Grammar.conditionalExpression
  | output => Grammar.outputConditional
  | linear => Grammar.linearConditional

def conditional? : Dialect → Option Symbol
  | full => none
  | output | linear => some Grammar.conditionalExpression

/-- The name under which a branch of a conditional shows, if it is not its own. -/
def branch? : Dialect → Option Symbol
  | full | linear => none
  | output => some Grammar.expr

def operators : Dialect → List (Level × List Symbol)
  | full => operatorTokens
  | output => operatorTokens.filter (·.2 ≠ [Token.greater])
  | linear => operatorTokens.take 9

def signs : Dialect → List (Level × Symbol)
  | full | output => signTokens
  | linear => signTokens.take 2

/-- The level of the operators that begin with a token. -/
def level? (d : Dialect) (t : Symbol) : Option Level := (d.operators.find? (·.2.head? == some t)).map (·.1)

/-- What may stand behind an expression beside an operator. -/
def stops : Dialect → List Symbol
  | full =>
    [3, 10, 11, 12, 13, 14, 15, 17, 18, 32, 38, 41, 46, 50, Token.byWord, Token.thenWord, Token.elseWord]
  | output => [3, 10, Token.greater, 38, Token.byWord, Token.elseWord]
  | linear => [3, 10, 21, 22, 24, Token.elseWord]

example : (full.stops ++ linear.stops).map Symbol.name =
    [";", ",", "dimen", "integer", "binary", "logical", "symbolic", ":=", "default", ":", ">>", "\x7d", "]",
      ")", "by", "then", "else", ";", ",", "<=", "=", ">=", "else"] := by decide +kernel

def followers (d : Dialect) : List Symbol := d.operators.filterMap (·.2.head?) ++ d.stops

theorem mem_followers_of_stop {d : Dialect} {t : Symbol} (h : t ∈ d.stops) : t ∈ d.followers :=
  List.mem_append_right _ h

end Dialect

/-- What phrases with commas between them stand in. -/
inductive Bracket where
  | group
  | subscript
  | call
  | set
  | index
  deriving DecidableEq, Repr

/-- What stands right before an expression. -/
inductive Site where
  | statement (d : Dialect)
  | attributed (opener : Symbol)
  | listed (b : Bracket) (later : Bool)
  /-- Behind the `in` of an entry, the dummy of which is a tuple or a name. -/
  | range (tuple : Bool)
  /-- Behind the colon of an index, which has more entries than one or not. -/
  | filter (more : Bool)
  | test (d : Dialect)
  | right (d : Dialect) (level : Level) (tokens : List Symbol)
  | under (d : Dialect) (level : Level) (token : Symbol)
  | step (d : Dialect)
  | body (level : Level) (token : Symbol)
  | branch (d : Dialect)
  | other (d : Dialect)
  deriving DecidableEq, Repr

def relationTokens : List Symbol := List.range' 20 8

/-- The tokens that begin an attribute with an operand. -/
def attributeTokens : List Symbol :=
  [Token.withinWord, Token.assign, Token.defaultWord, Token.inWord] ++ relationTokens

namespace Site

def dialect : Site → Dialect
  | statement d | right d _ _ | under d _ _ | step d | branch d | other d => d
  | attributed _ | listed _ _ | range _ | filter _ | test _ | body _ _ => .full

/-- Whether a name or a tuple before `in` is a dummy here. -/
def takesDummies : Site → Bool
  | listed .set false | listed .index _ => true
  | _ => false

/-- Whether a tuple before a comma or the closing brace stands for itself here. -/
def takesTuples : Site → Bool
  | listed .set _ => true
  | _ => false

/-- Whether an index would belong to the statement here. -/
def takesIndex : Site → Bool
  | statement .full | statement .output => true
  | _ => false

/-- Whether what ends in an operand here ends before a token, which perhaps begins operators of some
level. -/
def endsAt (k : Site) (t : Symbol) (level? : Option Level) : Bool :=
  match k with
  | statement _ | listed _ _ | range _ | filter _ | test _ => false
  | attributed _ => level?.isNone || attributeTokens.contains t
  | right _ p ts => level?.elim (t != Token.byWord || ts != [Token.points]) p.closes
  | under _ p _ | body p _ => level?.elim true p.closes
  | step _ => level?.elim true Operator.range.level.closes
  | branch _ => level?.isNone && t != Token.elseWord
  | other _ => level?.isNone

/-- Whether what ends in an operand here ends before a token. -/
def closes (k : Site) (t : Symbol) : Bool := k.endsAt t (k.dialect.level? t)

/-- The tokens that may follow an expression of a rule here. -/
def followersIn (k : Site) (d : Dialect) : List Symbol :=
  match k with
  | listed .set false | listed .index _ =>
    operatorTokens.filterMap (·.2.head?) ++ [Token.comma, Token.colon, Token.closeBrace]
  | listed .set true => operatorTokens.filterMap (·.2.head?) ++ [Token.comma, Token.closeBrace]
  | attributed _ =>
    operatorTokens.filterMap (·.2.head?) ++ [3, 10, 11, 12, 13, 14, 15, 17, 18]
  | _ => d.followers

def followers (k : Site) : List Symbol := k.followersIn k.dialect

end Site

namespace Phrase

/-- Whether a phrase that was begun at a site ends before a token, and takes in nothing more. -/
def ends : Phrase → Site → Symbol → Bool
  | number _, _, _ | string _, _, _ | indexed _ _ _, _, _ | group _ _, _, _ | call _ _ _, _, _ => true
  | literal _, _, _ | index _, _, _ | filtered _ _, _, _ => true
  | name _ suffix?, k, t => !(k.takesDummies && t == Token.inWord && suffix?.isNone)
  | tuple _, k, t => !(k.takesDummies && t == Token.inWord)
  | entry i m, _, t =>
    ends m (.range i.isTuple) t && [Token.comma, Token.colon, Token.closeBrace].contains t
  | quantified q _ b, _, t => ends b (.body q.level q.token) t && (Site.body q.level q.token).closes t
  | choice _ y, k, t => ends y (.branch k.dialect) t && (Site.branch k.dialect).closes t
  | choiceElse _ _ n, k, t => ends n (.other k.dialect) t && (Site.other k.dialect).closes t
  | signed s x, k, t =>
    ends x (.under k.dialect s.level s.token) t && (Site.under k.dialect s.level s.token).closes t
  | binary o _ r, k, t =>
    ends r (.right k.dialect o.level o.tokens) t && (Site.right k.dialect o.level o.tokens).closes t
  | stepped _ _ s, k, t => ends s (.step k.dialect) t && (Site.step k.dialect).closes t

mutual

/-- Whether a phrase is read as it stands, up to its end. -/
def stands : Phrase → Site → Bool
  | number _, _ | string _, _ | name _ _, _ => true
  | indexed _ es _, _ =>
    !es.isEmpty && standAll es (.listed .subscript false) (.listed .subscript true) Token.closeBracket
  | group e _, _ => stands e (.listed .group false) && ends e (.listed .group false) Token.closeParen
  | call _ es _, _ => standAll es (.listed .call false) (.listed .call true) Token.closeParen
  | tuple es, _ =>
    2 ≤ es.length && standAll es (.listed .group false) (.listed .group true) Token.closeParen
  | literal es, _ =>
    !es.head?.any isEntry && standAll es (.listed .set false) (.listed .set true) Token.closeBrace
  | index es, k => !k.takesIndex && es.head?.any isEntry &&
      standAll es (.listed .set false) (.listed .index true) Token.closeBrace
  | filtered es c, k => !k.takesIndex && (es.length == 1 || es.head?.any isEntry) &&
      standAll es (.listed .set false) (.listed .index true) Token.colon &&
      (stands c (.filter (es.length != 1)) && ends c (.filter (es.length != 1)) Token.closeBrace)
  | entry i m, k =>
    k.takesDummies && i.isDummy && stands i (.listed .group false) && stands m (.range i.isTuple)
  | quantified q i b, _ => standsBehind i && stands b (.body q.level q.token)
  | choice c y, k => stands c (.test k.dialect) && ends c (.test k.dialect) Token.thenWord &&
      stands y (.branch k.dialect)
  | choiceElse c y n, k => stands c (.test k.dialect) && ends c (.test k.dialect) Token.thenWord &&
      (stands y (.branch k.dialect) && ends y (.branch k.dialect) Token.elseWord) &&
      stands n (.other k.dialect)
  | signed s x, k =>
    k.dialect.signs.contains (s.level, s.token) && stands x (.under k.dialect s.level s.token)
  | binary o l r, k => k.dialect.operators.contains (o.level, o.tokens) &&
      (stands l k && ends l k o.token && !k.closes o.token) &&
      stands r (.right k.dialect o.level o.tokens)
  | stepped l r s, k => k.dialect.operators.contains (Operator.range.level, [Token.points]) &&
      (stands l k && ends l k Token.points && !k.closes Token.points) &&
      (stands r (.right k.dialect Operator.range.level [Token.points]) &&
        ends r (.right k.dialect Operator.range.level [Token.points]) Token.byWord) &&
      stands s (.step k.dialect)

/-- Whether phrases with commas between them are read as they stand, the first one at one site and the
others at another, with a token behind the last. -/
def standAll : List Phrase → Site → Site → Symbol → Bool
  | [], _, _, _ => true
  | e :: es, k, later, close =>
    (stands e k && ends e k (if es.isEmpty then close else Token.comma)) && standAll es later later close

/-- Whether the braces behind a quantifier are read as they stand. -/
def standsBehind : Phrase → Bool
  | index es => !es.isEmpty && standAll es (.listed .index false) (.listed .index true) Token.closeBrace
  | filtered es c => !es.isEmpty &&
      standAll es (.listed .index false) (.listed .index true) Token.colon &&
      (stands c (.filter (es.length != 1)) && ends c (.filter (es.length != 1)) Token.closeBrace)
  | _ => false

end

/-- Whether a phrase is read as it stands, at a site and before a token. -/
def fits (e : Phrase) (k : Site) (t : Symbol) : Bool := e.stands k && e.ends k t

end Phrase

end MathProg
