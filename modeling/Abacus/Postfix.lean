import Abacus.Decimal.Arith
import Abacus.Error

/-!
# Evaluating postfix expressions

Postfix tokens are evaluated with a stack of values: a number is pushed, and an operator
takes the top value `b` and the one below it `a` and pushes `a op b`. A parenthesis has no
place in postfix order, and exactly one value must be left at the end.

Sums, differences, products and quotients are decimal, in `Context.standard`; the power is
computed in binary floating point and read back as a decimal.
-/

namespace Abacus

namespace Op

/-- `a op b`, or why it has no value. -/
def apply (o : Op) (a b : Decimal) : Except Error Decimal :=
  let decimal (r : Except Fault Decimal) : Except Error Decimal :=
    match r with
    | .ok v => .ok v
    | .error f => .error (.fault o a b f)
  match o with
  | .add => decimal (Context.standard.add a b)
  | .sub => decimal (Context.standard.sub a b)
  | .mul => decimal (Context.standard.mul a b)
  | .div => decimal (Context.standard.div a b)
  | .pow =>
    match Binary.power a.toFloat b.toFloat with
    | .ok r => .ok (Decimal.ofFloat r)
    | .error f => .error (.power a b f)

end Op

namespace Postfix

abbrev Combine := Op → Decimal → Decimal → Except Error Decimal

def runWith (f : Combine) : List Token → List Decimal → Except Error (List Decimal)
  | [], stack => .ok stack
  | .num x :: rest, stack => runWith f rest (x :: stack)
  | .op o :: rest, b :: a :: stack =>
    match f o a b with
    | .ok v => runWith f rest (v :: stack)
    | .error e => .error e
  | .op o :: _, _ => .error (.missingOperands o)
  | .lparen :: _, _ => .error (.parenInPostfix true)
  | .rparen :: _, _ => .error (.parenInPostfix false)

def evalWith (f : Combine) (ts : List Token) : Except Error Decimal :=
  match runWith f ts [] with
  | .ok [v] => .ok v
  | .ok stack => .error (.leftover stack.length)
  | .error e => .error e

/-- The value of a postfix expression in the calculator's arithmetic. -/
def eval (ts : List Token) : Except Error Decimal := evalWith Op.apply ts

end Postfix

end Abacus
