import MathProg.Json
import MathProg.Node.Sexp
import MathProg.SyntaxError

/-!
Trees and errors as JSON. Of a tree the named nodes are written, and the missing ones.
-/

namespace MathProg

def Point.toJson (p : Point) : Json :=
  .object [("row", .number p.row), ("column", .number p.column)]

/-- A range of bytes. -/
def rangeJson (start stop : Nat) : Json :=
  .object [("start", .number start), ("end", .number stop)]

def SyntaxError.toJson (e : SyntaxError) : Json :=
  .object [("message", .string e.message), ("range", rangeJson e.start e.stop),
    ("start", e.point.toJson)]

namespace Node

mutual

/-- The outline of a node. -/
def toJson : Node → Json
  | mk i cs =>
    .object [("kind", .string (mk i cs).kind), ("start", i.start.point.toJson),
      ("end", i.stop.point.toJson), ("range", rangeJson i.start.bytes i.stop.bytes),
      ("missing", .bool i.missing), ("children", .array (outlines cs))]

def outlines : List Node → List Json
  | [] => []
  | c :: cs => if c.isListed then toJson c :: outlines cs else outlines cs

end

end Node

end MathProg
