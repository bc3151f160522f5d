import Abacus.Decimal.Context

/-!
# Addition, subtraction, multiplication and division

Each operation computes its exact result and fits it into the context with
`Context.fit`, so every result is the exact one correctly rounded. The exponent of an
exact result is the ideal one: the smaller operand exponent for a sum, their sum for a
product, their difference for a quotient (or as near it as the digits allow).

Two shortcuts keep the exact results small without changing any rounded result. A zero
term lowers the other term's exponent only as far as the precision can show, and a term
that lies wholly below the other term's rounding digit is replaced by a single digit one
place further down, which rounds the same way.
-/

namespace Abacus

namespace Decimal

def exactSum (a b : Decimal) : Decimal :=
  let e := min a.exp b.exp
  let s := a.signedCoeff * Int.pow 10 (a.exp - e).toNat + b.signedCoeff * Int.pow 10 (b.exp - e).toNat
  if s = 0 then ⟨a.neg && b.neg, 0, e⟩ else ⟨decide (s < 0), s.natAbs, e⟩

end Decimal

namespace Context

def padToZero (ctx : Context) (x z : Decimal) : Decimal :=
  if z.exp < x.exp then
    x.pad (min (x.exp - z.exp).toNat (ctx.prec - x.digits))
  else x

def shrinkBelow (ctx : Context) (big small : Decimal) : Decimal :=
  let m := min big.exp (big.adjusted - ctx.prec - 1)
  if small.adjusted < m then ⟨small.neg, 1, m - 1⟩ else small

/-- `a + b`, correctly rounded. -/
def add (ctx : Context) (a b : Decimal) : Except Fault Decimal :=
  if a.coeff = 0 ∧ b.coeff = 0 then ctx.fit (a.exactSum b)
  else if b.coeff = 0 then ctx.fit (ctx.padToZero a b)
  else if a.coeff = 0 then ctx.fit (ctx.padToZero b a)
  else if b.adjusted ≤ a.adjusted then ctx.fit (a.exactSum (ctx.shrinkBelow a b))
  else ctx.fit ((ctx.shrinkBelow b a).exactSum b)

/-- `a - b`, which is `a + (-b)`; the sign of a zero `b` flips as well. -/
def sub (ctx : Context) (a b : Decimal) : Except Fault Decimal :=
  ctx.add a b.negate

/-- `a * b`, correctly rounded; the sign is negative when exactly one factor is. -/
def mul (ctx : Context) (a b : Decimal) : Except Fault Decimal :=
  ctx.fit ⟨a.neg != b.neg, a.coeff * b.coeff, a.exp + b.exp⟩

def quotientDigits (ctx : Context) (a b : Decimal) : Decimal :=
  let s := (b.digits + ctx.prec + 1) - a.digits
  let n := a.coeff * Nat.pow 10 s
  let q := n / b.coeff
  let sign := a.neg != b.neg
  if n % b.coeff = 0 then
    let t := min (trailingZeroDigits q) s
    ⟨sign, q / Nat.pow 10 t, a.exp - b.exp - s + t⟩
  else
    ⟨sign, if q % 5 = 0 then q + 1 else q, a.exp - b.exp - s⟩

/-- `a / b`, correctly rounded. Dividing zero by zero is invalid and another number by zero
is a division by zero; zero divided by a number is zero at the ideal exponent. -/
def div (ctx : Context) (a b : Decimal) : Except Fault Decimal :=
  if b.coeff = 0 then
    if a.coeff = 0 then .error .invalidOperation else .error .divisionByZero
  else if a.coeff = 0 then
    ctx.fit ⟨a.neg != b.neg, 0, a.exp - b.exp⟩
  else
    ctx.fit (ctx.quotientDigits a b)

end Context

end Abacus
