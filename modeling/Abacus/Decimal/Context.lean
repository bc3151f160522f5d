import Abacus.Decimal.Basic

/-!
# Arithmetic contexts and rounding

A context fixes how many digits a result keeps and how far its exponent may go. An exact
result is fitted into the context by `Context.fit`: it is rounded half to even to the
precision, a number too small for the precision is rounded at the smallest exponent
`etiny` instead (so it may become zero), and a number too large is a fault.
`Context.quantize` moves a number to a given exponent, rounding the same way, and
`Context.reduce` removes its trailing zeros.
-/

namespace Abacus

inductive Fault where
  | divisionByZero
  | invalidOperation
  | overflow
  deriving DecidableEq, Inhabited

def Fault.name : Fault → String
  | .divisionByZero => "DivisionByZero"
  | .invalidOperation => "InvalidOperation"
  | .overflow => "Overflow"

/-- Precision and exponent limits of decimal arithmetic. -/
structure Context where
  prec : Nat
  emax : Int
  emin : Int
  deriving DecidableEq, Inhabited

namespace Context

/-- The smallest exponent of a last digit: below `emin` the precision shrinks. -/
def etiny (ctx : Context) : Int := ctx.emin - ctx.prec + 1

/-- The calculator's arithmetic: 28 digits, leading exponents from `-999999` to `999999`. -/
def standard : Context := ⟨28, 999999, -999999⟩

end Context

def roundHalfEven (c k : Nat) : Nat :=
  if digitCount c < k then 0
  else
    let q := c / Nat.pow 10 k
    let r := c % Nat.pow 10 k
    if Nat.pow 10 k < 2 * r ∨ (2 * r = Nat.pow 10 k ∧ q % 2 = 1) then q + 1 else q

def Decimal.rescale (x : Decimal) (target : Int) : Decimal :=
  if x.exp < target then ⟨x.neg, roundHalfEven x.coeff (target - x.exp).toNat, target⟩
  else x.pad (x.exp - target).toNat

namespace Context

/-- The exact result `x` rounded into the context.

A zero keeps its sign and has its exponent clamped into `[etiny, emax]`. A nonzero number
whose leading digit stands above `emax` overflows. Below `emin` the number is rounded at
`etiny`; otherwise it is rounded to `prec` digits, and a rounding that carries into a new
digit moves the exponent up by one, which may overflow in turn. -/
def fit (ctx : Context) (x : Decimal) : Except Fault Decimal :=
  if x.coeff = 0 then
    .ok { x with exp := max ctx.etiny (min ctx.emax x.exp) }
  else if ctx.emax < x.adjusted then
    .error .overflow
  else if x.adjusted < ctx.emin ∧ x.exp < ctx.etiny then
    .ok ⟨x.neg, roundHalfEven x.coeff (ctx.etiny - x.exp).toNat, ctx.etiny⟩
  else if ctx.prec < x.digits then
    let k := x.digits - ctx.prec
    let c := roundHalfEven x.coeff k
    let y : Decimal :=
      if ctx.prec < digitCount c then ⟨x.neg, c / 10, x.exp + k + 1⟩ else ⟨x.neg, c, x.exp + k⟩
    if ctx.emax < y.adjusted then .error .overflow else .ok y
  else
    .ok x

/-- The number `x` rescaled to the exponent `target`. The target must lie in
`[etiny, emax]`; the result may have no more
digits than the precision, counted before rounding and again after a rounding that carries
into a new digit, and its leading digit may stand no higher than `emax`. Each failure is an
invalid operation. -/
def quantize (ctx : Context) (x : Decimal) (target : Int) : Except Fault Decimal :=
  if target < ctx.etiny ∨ ctx.emax < target then .error .invalidOperation
  else if x.coeff = 0 then .ok ⟨x.neg, 0, target⟩
  else if (ctx.prec : Int) < x.exp + x.digits - target then .error .invalidOperation
  else
    let q := x.rescale target
    if ctx.prec < q.digits ∨ ctx.emax < q.adjusted then .error .invalidOperation else .ok q

/-- `x` with its trailing zeros removed as long as the exponent stays at most `emax`; a zero
becomes the zero of its sign with exponent zero. -/
def reduce (ctx : Context) (x : Decimal) : Decimal :=
  if x.coeff = 0 then ⟨x.neg, 0, 0⟩
  else
    let k := min (trailingZeroDigits x.coeff) (ctx.emax - x.exp).toNat
    ⟨x.neg, x.coeff / Nat.pow 10 k, x.exp + k⟩

end Context

end Abacus
