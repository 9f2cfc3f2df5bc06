import MathProg.Main
import MathProg.Proofs.Expression.Display
import MathProg.Proofs.Node.Errors
import MathProg.Proofs.Node.Highlights
import MathProg.Proofs.Node.Sexp
import MathProg.Proofs.Node.Statements
import MathProg.Proofs.Parsing.Keywords
import MathProg.Proofs.Parsing.Termination
import MathProg.Proofs.Lexing.DataWord
import MathProg.Proofs.Command.Findings
import MathProg.Proofs.Phrase.Extent
import MathProg.Proofs.Phrase.Braces
import MathProg.Proofs.Phrase.Bounds
import MathProg.Proofs.Phrase.Dialects
import MathProg.Proofs.Lexing.Number
import MathProg.Proofs.Lexing.Names
import MathProg.Proofs.Node.Reports
import MathProg.Proofs.Node.Comment
import MathProg.Proofs.Lexing.Numeral
import MathProg.Proofs.Lexing.Quotation
import MathProg.Proofs.Node.Descendants
import MathProg.Proofs.Command.Spans
