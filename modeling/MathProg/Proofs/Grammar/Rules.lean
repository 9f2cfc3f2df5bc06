import MathProg.Proofs.Grammar.Basic
import MathProg.Symbol.Basic

/-!
# The grammar of GNU MathProg

Numeric, symbolic, set and logical expressions are all `expr`. Where some operators are forbidden, the
expressions have a rule of their own and show as `expr` inside it: `linear_expression` is arithmetic
only, `_output_expr` leaves out the `>` that redirects output, and `sym_expr` has arithmetic and `&`.
-/

namespace MathProg.Grammar

open Rhs

/-- The token of a literal text. -/
def literal (text : String) : Symbol :=
  Symbol.table.toList.findIdx fun e => e.form == .literal && e.name == text

def lit (text : String) : Rhs := symbol (literal text)

def lits (texts : List String) : Rhs := oneOf (texts.map lit)

def string : Rhs := symbol Symbol.string
def number : Rhs := symbol Symbol.number
def bareword : Rhs := symbol Symbol.bareword
def symbolicName : Rhs := symbol Symbol.symbolicName
def suffix : Rhs := symbol Symbol.suffix

def modelStatement : Symbol := 116
def dataStatement : Symbol := 117
def dataHead : Symbol := 118
def endStatement : Symbol := 119
def solve : Symbol := 120
def set : Symbol := 121
def param : Symbol := 122
def var : Symbol := 123
def declaredName : Symbol := 124
def attributeItem : Symbol := 125
def declarationAttribute : Symbol := 126
def constraint : Symbol := 127
def objective : Symbol := 128
def check : Symbol := 129
def display : Symbol := 130
def printf : Symbol := 131
def forStatement : Symbol := 132
def blockStatement : Symbol := 133
def table : Symbol := 134
def tableInput : Symbol := 135
def tableOutput : Symbol := 136
def tableField : Symbol := 137
def setData : Symbol := 138
def setRecord : Symbol := 139
def setMatrix : Symbol := 140
def paramData : Symbol := 141
def paramRecord : Symbol := 142
def tabularData : Symbol := 143
def matrixHead : Symbol := 144
def tabbing : Symbol := 145
def values : Symbol := 146
def dataSubscript : Symbol := 147
def slice : Symbol := 148
def value : Symbol := 149
def expr : Symbol := 150
def outputExpr : Symbol := 151
def linearExpression : Symbol := 152
def symExpr : Symbol := 153
def primary : Symbol := 154
def conditionalExpression : Symbol := 155
def outputConditional : Symbol := 156
def linearConditional : Symbol := 157
def iteratedExpression : Symbol := 158
def indexingExpression : Symbol := 159
def indexingEntry : Symbol := 160
def literalSet : Symbol := 161
def setElements : Symbol := 162
def setElement : Symbol := 163
def tupel : Symbol := 164
def subscript : Symbol := 165
def functionCall : Symbol := 166
def functionName : Symbol := 167
def modelObject : Symbol := 193
def aliasName : Symbol := 194
def operator : Symbol := 195
def record : Symbol := 196

example : [modelStatement, declaredName, tableField, tabbing, value, expr, functionName].map
    Symbol.name = ["_model_statement", "_declared_name", "_table_field", "_tabbing", "value", "expr",
      "function_name"] := by decide +kernel

/-- A list with commas; `s` is the symbol of its repetition. -/
def commaList (s : Symbol) (r : Rhs) : Rhs := inOrder [r, anyNumber s (inOrder [lit ",", r])]

def comma : Rhs := optional (lit ",")

def operatorOf (texts : List String) : Rhs := renamed (lits texts) operator

def relations : List String := ["<", "<=", "=", "==", ">=", ">", "<>", "!="]

def functions : List String :=
  ["Irand224", "Normal", "Normal01", "Uniform", "Uniform01", "abs", "atan", "card", "ceil", "cos",
    "exp", "floor", "gmtime", "length", "log", "log10", "max", "min", "round", "sin", "sqrt",
    "str2time", "substr", "tan", "time2str", "trunc"]

def arithmetic : List (List String) := [["+", "-", "less"], ["*", "/", "div", "mod"], ["**", "^"]]

def concatenation : List (List String) := [["&"]]

def setOperators : List (List String) := [["union"], ["diff", "symdiff"], ["inter"], ["cross"]]

def logicalOperators : List (List String) := [["or", "||"], ["and", "&&"], ["in", "within"]]

/-- What expressions can be in every context: an operand, a condition, a sign, or two operands with
an operator between them. -/
def arithmeticForms (operand conditional : Rhs) (operators : List (List String)) : List Rhs :=
  [symbol primary, conditional, inOrder [operatorOf ["+", "-"], operand]]
    ++ operators.map fun ops => inOrder [operand, operatorOf ops, operand]

/-- Negation, negated membership and ranges. -/
def logicalForms (operand : Rhs) : List Rhs :=
  [inOrder [operatorOf ["not", "!"], operand],
    inOrder [operand, operatorOf ["not", "!"], operatorOf ["in", "within"], operand],
    inOrder [operand, lit "..", operand, optional (inOrder [lit "by", operand])]]

def conditionalOf (branch : Rhs) : Rhs :=
  inOrder [lit "if", symbol expr, lit "then", branch, optional (inOrder [lit "else", branch])]

def iteratedOf (operators : List String) : Rhs :=
  inOrder [operatorOf operators, symbol indexingExpression, symbol expr]

/-- An expression rule of its own, showing as `expr`. -/
def asExpr (s : Symbol) : Rhs := renamed (symbol s) expr

def expressionRules : Rules := [
  (expr, oneOf (arithmeticForms (symbol expr) (symbol conditionalExpression)
      (arithmetic ++ concatenation ++ setOperators ++ logicalOperators ++ [relations])
    ++ logicalForms (symbol expr))),
  (outputExpr, oneOf (arithmeticForms (asExpr outputExpr)
      (renamed (symbol outputConditional) conditionalExpression)
      (arithmetic ++ concatenation ++ setOperators ++ logicalOperators ++ [relations.erase ">"])
    ++ logicalForms (asExpr outputExpr))),
  (linearExpression, oneOf (arithmeticForms (asExpr linearExpression)
    (renamed (symbol linearConditional) conditionalExpression) arithmetic)),
  (symExpr, oneOf (arithmeticForms (asExpr symExpr) (symbol conditionalExpression)
    (arithmetic ++ concatenation))),
  (primary, oneOf [number, string,
    inOrder [symbolicName, optional (symbol subscript), optional suffix],
    inOrder [lit "(", symbol expr, lit ")", optional suffix],
    inOrder [symbol functionCall, optional suffix],
    symbol tupel, symbol literalSet, symbol indexingExpression, symbol iteratedExpression]),
  (conditionalExpression, conditionalOf (symbol expr)),
  (outputConditional, conditionalOf (asExpr outputExpr)),
  (linearConditional, conditionalOf (symbol linearExpression)),
  (iteratedExpression, oneOf [iteratedOf ["sum", "prod", "min", "max"],
    iteratedOf ["exists", "forall"], iteratedOf ["setof"]]),
  (indexingExpression, inOrder [lit "\x7b", commaList 189 (symbol indexingEntry),
    optional (inOrder [lit ":", symbol expr]), lit "\x7d"]),
  (indexingEntry, oneOf [inOrder [symbolicName, operatorOf ["in"], symbol expr],
    inOrder [symbol tupel, operatorOf ["in"], symbol expr], symbol expr]),
  (literalSet, inOrder [lit "\x7b", optional (symbol setElements), lit "\x7d"]),
  (setElements, oneOf [symbol setElement,
    inOrder [symbol setElements, lit ",", symbol setElement]]),
  (setElement, oneOf [symbol tupel, symbol expr]),
  (tupel, inOrder [lit "(", symbol expr, many 190 (inOrder [lit ",", symbol expr]), lit ")"]),
  (subscript, inOrder [lit "[", commaList 191 (symbol expr), lit "]"]),
  (functionCall, inOrder [symbol functionName, lit "(", optional (commaList 192 (symbol expr)),
    lit ")"]),
  (functionName, lits functions)]

/-- A set, parameter or variable; `s` is the symbol of the repeated attributes. -/
def declaration (keyword : String) (s : Symbol) : Rhs :=
  inOrder [lit keyword, symbol declaredName, anyNumber s (symbol attributeItem), lit ";"]

/-- The beginning of the statements that may run over an index set. -/
def indexed (keyword : String) : List Rhs :=
  [lit keyword, optional (symbol indexingExpression), optional (lit ":")]

def modelRules : Rules := [
  (Symbol.model, inOrder [anyNumber 168 (symbol modelStatement),
    optional (inOrder [symbol dataHead, anyNumber 169 (symbol dataStatement)])]),
  (modelStatement, oneOf ([set, param, var, constraint, objective, solve, check, display, printf,
    forStatement, table, endStatement].map symbol)),
  (dataStatement, oneOf ([setData, paramData, endStatement].map symbol)),
  (dataHead, inOrder [lit "data", lit ";"]),
  (endStatement, inOrder [lit "end", lit ";"]),
  (solve, inOrder [lit "solve", lit ";"]),
  (set, declaration "set" 170),
  (param, declaration "param" 171),
  (var, declaration "var" 172),
  (declaredName, inOrder [renamed symbolicName modelObject, optional (renamed string aliasName),
    optional (symbol indexingExpression)]),
  (attributeItem, inOrder [comma, symbol declarationAttribute]),
  (declarationAttribute, oneOf [inOrder [lit "dimen", number], lit "integer", lit "binary", lit "logical",
    lit "symbolic", inOrder [lits ["within", ":=", "default", "in"], symbol expr],
    inOrder [operatorOf relations, symbol expr]]),
  (constraint, inOrder [
    optional (oneOf [lit "s.t.", inOrder [lits ["subject", "subj"], lit "to"]]),
    symbol declaredName, lit ":", symbol linearExpression, comma, operatorOf ["=", "<=", ">="],
    symbol linearExpression,
    optional (inOrder [comma, operatorOf ["<=", ">="], symbol linearExpression]), lit ";"]),
  (objective, inOrder [lits ["maximize", "minimize"], symbol declaredName, lit ":",
    symbol linearExpression, lit ";"]),
  (check, inOrder (indexed "check" ++ [symbol expr, lit ";"])),
  (display, inOrder (indexed "display" ++ [commaList 173 (symbol expr), lit ";"])),
  (printf, inOrder (indexed "printf" ++ [commaList 174 (asExpr outputExpr),
    optional (inOrder [operatorOf [">", ">>"], symbol expr]), lit ";"])),
  (forStatement, inOrder [lit "for", symbol indexingExpression, optional (lit ":"),
    oneOf [symbol blockStatement, inOrder [lit "\x7b", many 175 (symbol blockStatement), lit "\x7d"]]]),
  (blockStatement, oneOf ([check, display, printf, forStatement].map symbol)),
  (table, inOrder [lit "table", symbolicName, optional (renamed string aliasName),
    oneOf [symbol tableInput, symbol tableOutput], lit ";"]),
  (tableInput, inOrder [lit "IN", many 176 (symbol symExpr), lit ":",
    optional (inOrder [symbolicName, lit "<-"]), lit "[", commaList 177 symbolicName, lit "]",
    anyNumber 178 (inOrder [lit ",", symbol tableField])]),
  (tableOutput, inOrder [optional (symbol indexingExpression), lit "OUT", many 179 (symbol symExpr),
    lit ":", commaList 180 (inOrder [symbol expr, optional (inOrder [lit "~", symbolicName])])]),
  (tableField, inOrder [symbolicName, optional (inOrder [lit "~", symbolicName])])]

def dataRules : Rules := [
  (setData, inOrder [lit "set", renamed symbolicName modelObject,
    optional (renamed (symbol dataSubscript) subscript),
    many 181 (inOrder [comma, renamed (symbol setRecord) record]), lit ";"]),
  (setRecord, oneOf [lit ":=", inOrder [lit "(", symbol slice, lit ")"], symbol values,
    symbol setMatrix]),
  (setMatrix, inOrder [symbol matrixHead,
    many 182 (oneOf [lit ":=", lit "+", lit "-", symbol value])]),
  (paramData, inOrder [lit "param", oneOf [
      inOrder [renamed symbolicName modelObject, optional (inOrder [lit "default", symbol value]),
        many 183 (inOrder [comma, renamed (symbol paramRecord) record])],
      inOrder [optional (inOrder [lit "default", symbol value]), symbol tabbing]], lit ";"]),
  (paramRecord, oneOf [lit ":=", inOrder [lit "[", symbol slice, lit "]"], symbol values,
    symbol tabularData]),
  (tabularData, inOrder [symbol matrixHead, many 184 (symbol value), lit ":=",
    anyNumber 185 (oneOf [symbol value, lit "."])]),
  (matrixHead, oneOf [lit ":", inOrder [lit "(tr)", optional (lit ":")]]),
  (tabbing, inOrder [lit ":", optional (inOrder [symbolicName, lit ":"]), symbolicName,
    anyNumber 186 (inOrder [comma, symbol value]), lit ":=", symbol values]),
  (values, oneOf [symbol value, inOrder [symbol values, comma, symbol value]]),
  (dataSubscript, inOrder [lit "[", commaList 187 (symbol value), lit "]"]),
  (slice, commaList 188 (oneOf [symbol value, lit "*"])),
  (value, oneOf [number, string, bareword])]

/-- The grammar; its texts begin with the first rule's symbol. -/
def rules : Rules := modelRules ++ dataRules ++ expressionRules

end MathProg.Grammar
