import Abacus.Binary.Shortest

/-!
# Powers in binary floating point

The calculator computes `a ^ b` on binary64 floats. Each operand is rounded to the nearest
float (beyond the largest float it is an infinity, below the smallest half-subnormal a
zero, keeping its sign). The power of two finite floats comes from the platform's `pow`;
one that is not a number is a domain fault, and an infinite one is a domain fault for a
zero base (a pole) and a range fault otherwise. An infinite operand gets the limit value
of the IEEE rules, which may itself be infinite.

A finite result is read back as a decimal through its shortest digits, written the way
`Binary.Style.standard` says.
-/

namespace Abacus

namespace Binary

def infinity : Float := Float.ofBits 0x7FF0000000000000

inductive PowerFault where
  | domain
  | range
  | notFinite
  deriving DecidableEq, Inhabited

def limitPower (x y : Float) : Float :=
  if x.isInf then
    let oddY := y.isFinite && (Word.ofFloat y).isOddInteger
    if 0 < y then (if oddY then x else x.abs)
    else if y == 0 then 1
    else if oddY ∧ x < 0 then -0.0 else 0
  else if x.abs == 1 then 1
  else if 0 < y ∧ 1 < x.abs then y
  else if y < 0 ∧ x.abs < 1 then -y
  else 0

/-- `x ^ y` on floats that are numbers, or the fault that stops it. -/
def power (x y : Float) : Except PowerFault Float :=
  if x.isInf ∨ y.isInf then
    let r := limitPower x y
    if r.isFinite then .ok r else .error .notFinite
  else
    let r := x.pow y
    if r.isNaN then .error .domain
    else if r.isInf then (if x == 0 then .error .domain else .error .range)
    else .ok r

structure Style where
  lowest : Int
  highest : Int
  pointZero : Bool
  deriving DecidableEq, Inhabited

def Style.standard : Style := ⟨-4, 16, true⟩

end Binary

namespace Decimal

def toFloat (x : Decimal) : Float :=
  let mag : Float :=
    if x.coeff = 0 then 0
    else if 309 ≤ x.adjusted then Binary.infinity
    else if x.adjusted ≤ -325 then 0
    else Float.ofScientific x.coeff (decide (x.exp < 0)) x.exp.natAbs
  if x.neg then -mag else mag

def ofFloatIn (style : Binary.Style) (r : Float) : Decimal :=
  let w := Binary.Word.ofFloat r
  if w.significand = 0 then ⟨w.neg, 0, if style.pointZero then -1 else 0⟩
  else
    let (d, k) := Binary.shortest w
    let lead := k + digitCount d - 1
    if style.lowest ≤ lead ∧ lead < style.highest ∧ 0 ≤ k ∧ style.pointZero then
      ⟨w.neg, d * Nat.pow 10 k.toNat * 10, -1⟩
    else ⟨w.neg, d, k⟩

def ofFloat (r : Float) : Decimal := ofFloatIn Binary.Style.standard r

end Decimal

end Abacus
