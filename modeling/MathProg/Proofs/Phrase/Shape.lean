import MathProg.Proofs.Phrase.Basic

/-!
# What expressions show

The node of an expression holds what its parts show. Where a rule forbids some operators, its operands
show as `expr` all the same, and so do the branches of a conditional that is printed; those of a linear
one are linear expressions.
-/

namespace MathProg

namespace Dialect

/-- The symbol under which the branch of a conditional shows. -/
def branch (d : Dialect) : Symbol := d.branch?.getD d.symbol

example : [full, output, linear].map branch =
    [Grammar.expr, Grammar.expr, Grammar.linearExpression] := by decide

end Dialect

namespace Phrase

def suffixParts (suffix? : Option (List Char)) : List Sketch :=
  (suffix?.map (Sketch.leaf Symbol.suffix ·)).toList

/-- Parts with commas between them, in a pair of brackets. -/
def bracketed (opening closing : Symbol) (ps : List (List Sketch)) : List Sketch :=
  Token.leaf opening :: (separated (Token.leaf Token.comma) ps ++ [Token.leaf closing])

/-- What a phrase with some parts shows in a bracket: a tuple stands in a set without a node of its own
around it, and each phrase is an entry in an index. -/
def placed (b : Bracket) (e : Phrase) (ps : List Sketch) : List Sketch :=
  match b, e with
  | .set, tuple _ => ps
  | .index, entry _ _ => [.node Grammar.indexingEntry ps]
  | .index, _ => [.node Grammar.indexingEntry [.node Grammar.expr ps]]
  | _, _ => [.node Grammar.expr ps]

mutual

/-- The parts of the node of an expression. -/
def parts : Phrase → Dialect → List Sketch
  | number t, _ => [.leaf Symbol.number t]
  | string t, _ => [.leaf Symbol.string t]
  | name t suffix?, _ => .leaf Symbol.symbolicName t :: suffixParts suffix?
  | indexed t es suffix?, _ =>
    .leaf Symbol.symbolicName t ::
      .node Grammar.subscript (bracketed Token.openBracket Token.closeBracket (partsAll es .subscript)) ::
      suffixParts suffix?
  | group e suffix?, _ =>
    Token.leaf Token.openParen :: .node Grammar.expr (parts e .full) :: Token.leaf Token.closeParen ::
      suffixParts suffix?
  | call f es suffix?, _ =>
    .node Grammar.functionCall (.node Grammar.functionName [Token.leaf f.token] ::
      bracketed Token.openParen Token.closeParen (partsAll es .call)) :: suffixParts suffix?
  | tuple es, _ =>
    [.node Grammar.tupel (bracketed Token.openParen Token.closeParen (partsAll es .group))]
  | literal es, _ =>
    [.node Grammar.literalSet (bracketed Token.openBrace Token.closeBrace (partsAll es .set))]
  | index es, _ =>
    [.node Grammar.indexingExpression (bracketed Token.openBrace Token.closeBrace (partsAll es .index))]
  | filtered es c, _ =>
    [.node Grammar.indexingExpression (Token.leaf Token.openBrace ::
      (separated (Token.leaf Token.comma) (partsAll es .index) ++
        [Token.leaf Token.colon, .node Grammar.expr (parts c .full), Token.leaf Token.closeBrace]))]
  | entry i m, _ => parts i .full ++ [Token.operator Token.inWord, .node Grammar.expr (parts m .full)]
  | quantified q i b, _ =>
    [.node Grammar.iteratedExpression (Token.operator q.token :: (parts i .full ++
      [.node Grammar.expr (parts b .full)]))]
  | choice c y, d =>
    [.node Grammar.conditionalExpression [Token.leaf Token.ifWord, .node Grammar.expr (parts c .full),
      Token.leaf Token.thenWord, .node d.branch (parts y d)]]
  | choiceElse c y n, d =>
    [.node Grammar.conditionalExpression [Token.leaf Token.ifWord, .node Grammar.expr (parts c .full),
      Token.leaf Token.thenWord, .node d.branch (parts y d), Token.leaf Token.elseWord,
      .node d.branch (parts n d)]]
  | signed s x, d => [Token.operator s.token, .node Grammar.expr (parts x d)]
  | binary o l r, d =>
    .node Grammar.expr (parts l d) ::
      (o.tokens.map (fun t => if t = Token.points then Token.leaf t else Token.operator t) ++
        [.node Grammar.expr (parts r d)])
  | stepped l r s, d =>
    [.node Grammar.expr (parts l d), Token.leaf Token.points, .node Grammar.expr (parts r d),
      Token.leaf Token.byWord, .node Grammar.expr (parts s d)]

/-- What phrases show in a bracket. -/
def partsAll : List Phrase → Bracket → List (List Sketch)
  | [], _ => []
  | e :: es, b => placed b e (parts e .full) :: partsAll es b

end

theorem parts_ne_nil (e : Phrase) (d : Dialect) : e.parts d ≠ [] := by
  cases e <;> simp [parts]

end Phrase

end MathProg
