import Abacus.Error
import Abacus.Text.Space

/-!
# Reading tokens from text

The lexer reads the text once, from left to right, collecting digits and points into a
pending literal. A blank, an operator or a parenthesis ends the literal, and so does the
end of the text; the literal is then read as a number, or rejected. A `-` begins a negative
literal when no literal is pending and a digit follows it at once, so `2--3` is `2`, `-`,
`-3`, while `-.5` is `-` and `0.5`. Any other character is rejected, after the pending
literal has been read.
-/

namespace Abacus

namespace Token

def flush (pending : List Char) (acc : List Token) : Except Error (List Token) :=
  if pending.isEmpty then .ok acc
  else
    match Decimal.ofLiteral? pending.reverse with
    | some x => .ok (.num x :: acc)
    | none => .error (.invalidNumber (String.ofList pending.reverse))

def digitNext : List Char → Bool
  | c :: _ => c.isDigit
  | [] => false

/-- The lexer on the rest of the text, with the pending literal and the tokens so far, both
kept last first. -/
def scanFrom : List Char → List Char → List Token → Except Error (List Token)
  | [], pending, acc => (flush pending acc).map List.reverse
  | c :: rest, pending, acc =>
    if c = '-' ∧ pending.isEmpty ∧ digitNext rest then scanFrom rest ['-'] acc
    else if c.isDigit ∨ c = '.' then scanFrom rest (c :: pending) acc
    else if Text.isSpace c then
      match flush pending acc with
      | .ok acc => scanFrom rest [] acc
      | .error e => .error e
    else
      match flush pending acc with
      | .ok acc =>
        match ofChar? c with
        | some t => scanFrom rest [] (t :: acc)
        | none => .error (.unexpectedChar c)
      | .error e => .error e

/-- The tokens of a text. -/
def scan (s : String) : Except Error (List Token) := scanFrom s.toList [] []

end Token

end Abacus
