import Abacus.Binary.Power
import Abacus.Binary.Shortest
import Abacus.Binary.Word
import Abacus.Decimal.Arith
import Abacus.Decimal.Basic
import Abacus.Decimal.Context
import Abacus.Decimal.Text
import Abacus.Display
import Abacus.Error
import Abacus.Evaluate
import Abacus.Expr
import Abacus.Expr.Algebraic
import Abacus.Notation
import Abacus.Notation.Algebraic
import Abacus.Notation.Custom
import Abacus.Postfix
import Abacus.Proofs.Algebraic
import Abacus.Proofs.Calculator
import Abacus.Proofs.Concat
import Abacus.Proofs.Conservation
import Abacus.Proofs.Detect
import Abacus.Proofs.Digits
import Abacus.Proofs.Evaluate
import Abacus.Proofs.Forest
import Abacus.Proofs.Lexer
import Abacus.Proofs.Merge
import Abacus.Proofs.Postfix
import Abacus.Proofs.Reduction
import Abacus.Proofs.Router
import Abacus.Proofs.Schedule
import Abacus.Search.Calculator
import Abacus.Search.Item
import Abacus.Search.Router
import Abacus.Settings.Load
import Abacus.Settings.Toml
import Abacus.Settings.Toml.Escape
import Abacus.Settings.Toml.Literal
import Abacus.Settings.Toml.Number
import Abacus.Settings.Toml.Pieces
import Abacus.Settings.Toml.Place
import Abacus.Settings.Toml.Scan
import Abacus.Settings.Value
import Abacus.Text.Alnum
import Abacus.Text.Cased
import Abacus.Text.Compat
import Abacus.Text.Digit
import Abacus.Text.Integer
import Abacus.Text.Lower
import Abacus.Text.Printable
import Abacus.Text.Quoted
import Abacus.Text.Space
import Abacus.Token
import Abacus.Token.Lexer
import Abacus.Proofs.Rendering
import Abacus.Proofs.Display
