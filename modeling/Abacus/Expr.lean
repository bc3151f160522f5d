import Abacus.Postfix

/-!
# Expression trees

An expression is a number or an operator applied to two expressions. Its postfix form
lists the left operand's tokens, then the right operand's, then the operator; its value
combines the operands' values bottom-up, the left operand first, and stops at the first
error. Reordering a text into postfix and evaluating the postfix tokens are measured
against these two.
-/

namespace Abacus

/-- An arithmetic expression. -/
inductive Expr where
  | lit (x : Decimal)
  | node (o : Op) (l r : Expr)
  deriving DecidableEq, Inhabited

namespace Expr

/-- The expression's tokens in postfix order. -/
def postorder : Expr → List Token
  | .lit x => [.num x]
  | .node o l r => l.postorder ++ r.postorder ++ [.op o]

def evalWith (f : Postfix.Combine) : Expr → Except Error Decimal
  | .lit x => .ok x
  | .node o l r =>
    match l.evalWith f with
    | .error e => .error e
    | .ok a =>
      match r.evalWith f with
      | .error e => .error e
      | .ok b => f o a b

/-- The value of the expression in the calculator's arithmetic. -/
def eval (e : Expr) : Except Error Decimal := e.evalWith Op.apply

def size : Expr → Nat
  | .lit _ => 0
  | .node _ l r => l.size + r.size + 1

end Expr

end Abacus
