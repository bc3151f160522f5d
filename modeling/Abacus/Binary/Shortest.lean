import Abacus.Binary.Word
import Abacus.Decimal.Basic

/-!
# The shortest decimal digits of a binary64 word

The reals that read back as the word form an interval around it: half-way to each
neighbour, ends included when `m` is even (a tie reads back to the even significand). The
shortest digits of the word are found grid by grid, from one significant digit up: on each
grid only the two grid points next to the value can lie in the interval, and the first grid
that has one wins. Of two, the nearer wins, and an exact tie goes to the even one. All of
it is exact arithmetic on natural numbers, with every quantity scaled to a common exponent.
-/

namespace Abacus

namespace Binary

def gridHit (v lo hi : Nat) (closed : Bool) (j : Nat) : Option Nat :=
  let p := Nat.pow 10 j
  let f := v / p
  let c := if v % p = 0 then f else f + 1
  let fIn := if closed then lo ≤ f * p else lo < f * p
  let cIn := if closed then c * p ≤ hi else c * p < hi
  if fIn ∧ cIn then
    if v - f * p < c * p - v then some f
    else if c * p - v < v - f * p then some c
    else if f % 2 = 0 then some f else some c
  else if fIn then some f
  else if cIn then some c
  else none

def coarsestHit (v lo hi : Nat) (closed : Bool) : Nat → Nat × Nat
  | 0 => (v, 0)
  | j + 1 =>
    match gridHit v lo hi closed (j + 1) with
    | some d => (d, j + 1)
    | none => coarsestHit v lo hi closed j

def stripZeros (d : Nat) (k : Int) : Nat × Int :=
  if d = 0 then (0, k)
  else if d % 10 = 0 then stripZeros (d / 10) (k + 1)
  else (d, k)
termination_by d
decreasing_by omega

/-- The shortest digits of a finite nonzero word's magnitude: digits without trailing zeros
and the exponent of the last one, so that the magnitude reads as `d * 10 ^ k`. -/
def shortest (w : Word) : Nat × Int :=
  let m := w.significand
  let b := w.binExp - 2
  -- every quantity is an integer multiple of 2 ^ b, written at decimal exponent `e`
  let scale (x : Nat) : Nat := if 0 ≤ b then x * Nat.pow 2 b.toNat else x * Nat.pow 5 (-b).toNat
  let e : Int := if 0 ≤ b then 0 else b
  let v := scale (4 * m)
  let lo := scale (if w.narrowBelow then 4 * m - 1 else 4 * m - 2)
  let hi := scale (4 * m + 2)
  let (d, j) := coarsestHit v lo hi (m % 2 = 0) (digitCount v - 1)
  stripZeros d (j + e)

end Binary

end Abacus
