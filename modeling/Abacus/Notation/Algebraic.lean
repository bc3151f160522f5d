import Abacus.Error

/-!
# Algebraic notation to postfix

Algebraic (infix) tokens are reordered into postfix by the shunting-yard method. Numbers go straight to
the output. An operator first moves to the output every operator on top of the stack that
binds tighter, or as tightly when the incoming operator groups to the left, and then waits
on the stack. A closing parenthesis moves operators out until the opening one, which it
removes; without one it is an error. At the end the stack is emptied into the output, so an
opening parenthesis without its closing one stays in the output, where evaluation rejects it.
-/

namespace Abacus

namespace Algebraic

def yields (top o : Op) : Bool :=
  o.precedence < top.precedence ∨ (top.precedence = o.precedence ∧ !o.rightAssoc)

def popFor (o : Op) : List Token → List Token → List Token × List Token
  | .op t :: stack, out => if yields t o then popFor o stack (.op t :: out) else (.op t :: stack, out)
  | stack, out => (stack, out)

def popToOpen : List Token → List Token → Except Error (List Token × List Token)
  | [], _ => .error .mismatchedParens
  | .lparen :: stack, out => .ok (stack, out)
  | t :: stack, out => popToOpen stack (t :: out)

/-- The shunting-yard pass over the rest of the input, with the stack (top first) and the
output so far (last first). -/
def shunt : List Token → List Token → List Token → Except Error (List Token)
  | [], stack, out => .ok (out.reverse ++ stack)
  | .num x :: rest, stack, out => shunt rest stack (.num x :: out)
  | .op o :: rest, stack, out =>
    let (stack, out) := popFor o stack out
    shunt rest (.op o :: stack) out
  | .lparen :: rest, stack, out => shunt rest (.lparen :: stack) out
  | .rparen :: rest, stack, out =>
    match popToOpen stack out with
    | .ok (stack, out) => shunt rest stack out
    | .error e => .error e

/-- Algebraic tokens in postfix order. -/
def toPostfix (ts : List Token) : Except Error (List Token) := shunt ts [] []

end Algebraic

end Abacus
