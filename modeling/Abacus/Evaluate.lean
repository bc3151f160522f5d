import Abacus.Notation
import Abacus.Notation.Custom
import Abacus.Notation.Algebraic
import Abacus.Postfix
import Abacus.Token.Lexer

/-!
# From text to value

A text is read into tokens, reordered into postfix as its notation says, and evaluated.
`evaluate` gives the value or nothing, guessing the notation unless one is given; `explain`
reports every step: the notation, the postfix tokens and the value, or the error that
stopped it.
-/

namespace Abacus

/-- The text's tokens in postfix order, read in the given notation. -/
def toPostfix (s : String) (n : Notation) : Except Error (List Token) :=
  match Token.scan s with
  | .error e => .error e
  | .ok ts =>
    match n with
    | .reversePolish => .ok ts
    | .algebraic => Algebraic.toPostfix ts
    | .custom => Custom.toPostfix ts

def valueIn (s : String) (n : Notation) : Except Error Decimal :=
  match toPostfix s n with
  | .ok ts => Postfix.eval ts
  | .error e => .error e

/-- The value of a text, in the given notation or else in the one it seems written in;
nothing when the text is no valid expression. -/
def evaluate (s : String) (n : Option Notation) : Option Decimal :=
  match valueIn s (n.getD (Notation.detect s)) with
  | .ok v => some v
  | .error _ => none

structure Explanation where
  readAs : Notation
  reordered : Option (List Token)
  result : Except Error Decimal

/-- Every step from a text to its value, in the given notation or the detected one. -/
def explain (s : String) (n : Option Notation) : Explanation :=
  let n := n.getD (Notation.detect s)
  match toPostfix s n with
  | .error e => ⟨n, none, .error e⟩
  | .ok ts => ⟨n, some ts, Postfix.eval ts⟩

end Abacus
