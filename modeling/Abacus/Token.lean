import Abacus.Decimal.Text

/-!
# Operators and tokens

An expression is read as a list of tokens: numbers, the five binary operators and the two
parentheses. Powers bind tightest, then products and quotients, then sums and differences;
the power is the one operator that groups to the right, so `2 ^ 3 ^ 2` is `2 ^ (3 ^ 2)`.

A token list is written back as text with one space between tokens, each number in the
scientific notation of `Decimal.toText`.
-/

namespace Abacus

/-- The binary operators. -/
inductive Op where
  | add
  | sub
  | mul
  | div
  | pow
  deriving DecidableEq, Inhabited, Repr

namespace Op

def symbol : Op → Char
  | .add => '+'
  | .sub => '-'
  | .mul => '*'
  | .div => '/'
  | .pow => '^'

def ofChar? : Char → Option Op
  | '+' => some .add
  | '-' => some .sub
  | '*' => some .mul
  | '/' => some .div
  | '^' => some .pow
  | _ => none

def precedence : Op → Nat
  | .pow => 4
  | .mul | .div => 3
  | .add | .sub => 2

def rightAssoc : Op → Bool
  | .pow => true
  | _ => false

end Op

/-- A token of an arithmetic expression. -/
inductive Token where
  | num (x : Decimal)
  | op (o : Op)
  | lparen
  | rparen
  deriving DecidableEq, Inhabited

namespace Token

def ofChar? (c : Char) : Option Token :=
  match Op.ofChar? c with
  | some o => some (.op o)
  | none => if c = '(' then some .lparen else if c = ')' then some .rparen else none

/-- The text of one token. -/
def render : Token → String
  | .num x => x.toText
  | .op o => String.singleton o.symbol
  | .lparen => "("
  | .rparen => ")"

/-- The tokens' texts, separated by single spaces. -/
def renderAll (ts : List Token) : String := " ".intercalate (ts.map render)

end Token

end Abacus
