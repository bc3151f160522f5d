/-!
# Decimal numbers

A finite decimal number is a sign, a coefficient and an exponent, and stands for
`(-1) ^ sign * coeff * 10 ^ exp`. The exponent is part of the number and not only of its
value: `1.0` and `1.00` are equal in value but print differently, and a result's exponent
follows from its operands' exponents. The sign is kept on zero too, so `-0` and `0` differ.
-/

namespace Abacus

def digitCount (n : Nat) : Nat :=
  if n < 10 then 1 else digitCount (n / 10) + 1
termination_by n
decreasing_by omega

def trailingZeroDigits (n : Nat) : Nat :=
  if n = 0 then 0 else if n % 10 = 0 then trailingZeroDigits (n / 10) + 1 else 0
termination_by n
decreasing_by omega

/-- A finite decimal number `(-1) ^ neg * coeff * 10 ^ exp`. -/
structure Decimal where
  neg : Bool
  coeff : Nat
  exp : Int
  deriving DecidableEq, Inhabited

namespace Decimal

def ofNat (n : Nat) : Decimal := ⟨false, n, 0⟩

def digits (x : Decimal) : Nat := digitCount x.coeff

def adjusted (x : Decimal) : Int := x.exp + x.digits - 1

def isZero (x : Decimal) : Bool := x.coeff == 0

def negate (x : Decimal) : Decimal := { x with neg := !x.neg }

def abs (x : Decimal) : Decimal := { x with neg := false }

def signedCoeff (x : Decimal) : Int := if x.neg then -(x.coeff : Int) else x.coeff

def pad (x : Decimal) (k : Nat) : Decimal := ⟨x.neg, x.coeff * Nat.pow 10 k, x.exp - k⟩

end Decimal

end Abacus
