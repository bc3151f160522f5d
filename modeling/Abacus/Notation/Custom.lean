import Abacus.Error

/-!
# Custom notation to postfix

In custom notation `n` operators come first and the values after them. They build a
balanced reduction: the first operator combines neighbouring pairs of values, the second
pairs of those results, and so on; the last, outermost operator folds the remaining groups
from left to right. So `+- 1 2 3 4` is `((1 + 2) - (3 + 4))`, and `/ 1 2 3` is
`(1 / 2) / 3`.

In postfix order, operator `i` (counting from zero) is due after every `2 ^ (i + 1)`-th
value, and the outermost operator after every `2 ^ (n - 1)`-th value except the first such,
where its left operand is still being built. Which operators are due is read off the
trailing zero bits of the value's index, found by the bit trick `n &&& -n` on integers.
Value counts that build no full tree are not rejected here; evaluation decides.
-/

namespace Abacus

namespace Custom

/-- Bitwise and of integers in two's complement, where a negative number has infinitely many
leading one bits: `-(m + 1)` is the complement of `m`. -/
def bitAnd : Int → Int → Int
  | .ofNat m, .ofNat n => .ofNat (m &&& n)
  | .ofNat m, .negSucc n => .ofNat (Nat.bitwise (fun a b => a && !b) m n)
  | .negSucc m, .ofNat n => .ofNat (Nat.bitwise (fun a b => a && !b) n m)
  | .negSucc m, .negSucc n => .negSucc (m ||| n)

def bitLength (n : Int) : Nat :=
  if n = 0 then 0 else n.natAbs.log2 + 1

/-- The number of trailing zero bits of `n`: `n &&& -n` keeps only the lowest set bit, and
its index is one less than its bit length. Zero has no set bit and gives `-1`. -/
def trailingZeros (n : Int) : Int := (bitLength (bitAnd n (-n)) : Int) - 1

/-- The operators due right after the `seen`-th value, in operator order. -/
def operatorsDue (ops : List Op) (seen : Nat) : List Op :=
  let depth := trailingZeros seen
  let outer := ops.length - 1
  (ops.zipIdx.filter fun (_, i) =>
    if i < outer then (i : Int) + 1 ≤ depth else (outer : Int) ≤ depth ∧ seen ≠ Nat.pow 2 outer).map
      Prod.fst

def expand : List Token → List Op → Nat → List Token → Except Error (List Token)
  | [], ops, seen, out =>
    if ops.isEmpty then .error .noOperator
    else if seen = 0 then .error .noValue
    else .ok out.reverse
  | .op o :: rest, ops, seen, out =>
    if seen = 0 then expand rest (ops ++ [o]) seen out
    else .error (.operatorAfterValue o)
  | .num x :: rest, ops, seen, out =>
    if ops.isEmpty then .error (.valueBeforeOperator x)
    else
      let due := (operatorsDue ops (seen + 1)).map Token.op
      expand rest ops (seen + 1) (due.reverse ++ .num x :: out)
  | .lparen :: _, _, _, _ => .error .parenInCustom
  | .rparen :: _, _, _, _ => .error .parenInCustom

/-- Custom-notation tokens in postfix order. -/
def toPostfix (ts : List Token) : Except Error (List Token) := expand ts [] 0 []

end Custom

end Abacus
