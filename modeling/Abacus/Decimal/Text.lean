import Abacus.Decimal.Basic

/-!
# Decimal numbers as text

`Decimal.toText` writes a number in scientific notation as the decimal arithmetic standard
prescribes: positional when the exponent is at most zero and the leading digit stands no
lower than `10 ^ -6`, and otherwise one digit, a point, the rest of the digits and an
exponent with its sign (`1E+5`, `1.50E-7`). Every digit of the coefficient is written, so
`1.50` stays `1.50`.

`Decimal.ofLiteral?` reads the calculator's literals (digits with at most one point and an
optional leading minus), and `Decimal.ofText?` reads numbers with an exponent as well.
-/

namespace Abacus

namespace Decimal

def coeffChars (x : Decimal) : List Char := Nat.toDigits 10 x.coeff

def magnitudeChars (x : Decimal) : List Char :=
  let cs := x.coeffChars
  let adj := x.adjusted
  if x.exp ≤ 0 ∧ -6 ≤ adj then
    if x.exp = 0 then cs
    else
      let before := (cs.length : Int) + x.exp
      if 0 < before then
        cs.take before.toNat ++ '.' :: cs.drop before.toNat
      else
        '0' :: '.' :: List.replicate (-before).toNat '0' ++ cs
  else
    let mantissa := match cs with
      | [] => []
      | [c] => [c]
      | c :: rest => c :: '.' :: rest
    let expSign := if 0 ≤ adj then '+' else '-'
    mantissa ++ 'E' :: expSign :: Nat.toDigits 10 adj.natAbs

/-- The number in scientific notation, with a minus for a negative number or zero. -/
def toText (x : Decimal) : String :=
  String.ofList ((if x.neg then ['-'] else []) ++ x.magnitudeChars)

def digitsValue (ds : List Char) : Nat :=
  ds.foldl (fun n c => 10 * n + (c.toNat - '0'.toNat)) 0

def ofUnsigned? (cs : List Char) : Option (Nat × Int) :=
  let whole := cs.takeWhile Char.isDigit
  let rest := cs.dropWhile Char.isDigit
  match rest with
  | [] => if whole.isEmpty then none else some (digitsValue whole, 0)
  | '.' :: frac =>
    if frac.all Char.isDigit ∧ !(whole.isEmpty ∧ frac.isEmpty) then
      some (digitsValue (whole ++ frac), -(frac.length : Int))
    else none
  | _ => none

/-- A calculator literal: an optional minus, then digits with at most one point and at least
one digit. `1.` is one and `.5` is a half; the exponent counts the digits after the point. -/
def ofLiteral? (cs : List Char) : Option Decimal :=
  match cs with
  | '-' :: rest => (ofUnsigned? rest).map fun (c, e) => ⟨true, c, e⟩
  | _ => (ofUnsigned? cs).map fun (c, e) => ⟨false, c, e⟩

def exponentValue? (cs : List Char) : Option Int :=
  let (neg, ds) := match cs with
    | '-' :: ds => (true, ds)
    | '+' :: ds => (false, ds)
    | ds => (false, ds)
  if ds.isEmpty ∨ !ds.all Char.isDigit then none
  else
    let v : Int := digitsValue ds
    some (if neg then -v else v)

/-- A number in the notation of `toText`: an optional sign, digits with at most one point,
and an optional exponent introduced by `e` or `E`. -/
def ofText? (s : String) : Option Decimal :=
  let cs := s.toList
  let (neg, body) := match cs with
    | '-' :: b => (true, b)
    | '+' :: b => (false, b)
    | b => (false, b)
  let mant := body.takeWhile fun c => c != 'e' && c != 'E'
  let tail := body.dropWhile fun c => c != 'e' && c != 'E'
  match ofUnsigned? mant, tail with
  | some (c, e), [] => some ⟨neg, c, e⟩
  | some (c, e), _ :: ex => (exponentValue? ex).map fun k => ⟨neg, c, e + k⟩
  | none, _ => none

end Decimal

end Abacus
