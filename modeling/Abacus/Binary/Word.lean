/-!
# Binary64 words

A binary64 word is a sign bit, an 11-bit exponent field and a 52-bit fraction. A finite
word stands for `m * 2 ^ q`, where the significand `m` carries the hidden bit unless the
field is zero, and `q` is the exponent of its last bit.
-/

namespace Abacus

namespace Binary

/-- The three fields of a binary64 word. -/
structure Word where
  neg : Bool
  field : Nat
  fraction : Nat
  deriving DecidableEq, Inhabited

namespace Word

def ofFloat (x : Float) : Word :=
  let w := x.toBits.toNat
  ⟨w / Nat.pow 2 63 % 2 = 1, w / Nat.pow 2 52 % Nat.pow 2 11, w % Nat.pow 2 52⟩

def significand (w : Word) : Nat := if w.field = 0 then w.fraction else Nat.pow 2 52 + w.fraction

def binExp (w : Word) : Int := (max w.field 1 : Nat) - 1075

def narrowBelow (w : Word) : Bool := w.fraction = 0 ∧ 1 < w.field

def isOddInteger (w : Word) : Bool :=
  let m := w.significand
  let q := w.binExp
  if q = 0 then m % 2 = 1
  else if q < 0 then
    let d := Nat.pow 2 (-q).toNat
    m % d = 0 ∧ m / d % 2 = 1
  else false

def truncate (w : Word) : Int :=
  let m := w.significand
  let q := w.binExp
  let n : Nat := if 0 ≤ q then m * Nat.pow 2 q.toNat else m / Nat.pow 2 (-q).toNat
  if w.neg then -(n : Int) else n

end Word

end Binary

end Abacus
