import Abacus.Decimal.Context

/-!
# Displaying a result

A result is shown rounded half to even to a number of fraction places, without trailing
zeros, and in positional notation: `1234.50` at ten places is `1234.5`, or `1,234.5` with
the integer digits grouped in threes. A negative number of places rounds to tens, hundreds
and so on. A result that rounds to zero is shown as `0`, without a sign.

Rounding moves the number to the unit's exponent by `Context.quantize`, in a working context
whose precision is chosen to hold every digit the rounding keeps. That precision has a ceiling: past the largest precision the arithmetic allows,
or past what a machine word holds, the number cannot be shown. The unit `10^-places` is
itself a number of the arithmetic: a unit beyond the largest exponent overflows, one too
far from it in either direction is an invalid operation, and one below the smallest
exponent of the working precision is taken at that exponent.
-/

namespace Abacus

namespace Display

/-- Why a number cannot be shown. -/
inductive Refusal where
  | precisionBeyondWord
  | precisionBeyondLimit
  | fault (f : Fault)
  deriving DecidableEq, Inhabited

def maxPrecision : Int := 999999999999999999

def wordLimit : Int := Int.pow 2 63 - 1

def Refusal.kind : Refusal → String
  | .precisionBeyondWord => "OverflowError"
  | .precisionBeyondLimit => "ValueError"
  | .fault f => f.name

def Refusal.message : Refusal → String
  | .precisionBeyondWord => "Python int too large to convert to C ssize_t"
  | .precisionBeyondLimit => "valid range for prec is [1, MAX_PREC]"
  | .fault f => "[<class " ++ "'decimal." ++ f.name ++ "'>]"

def workingPrecision (x : Decimal) (places : Int) : Int :=
  max Context.standard.prec (x.adjusted + places + 2)

def unitExponent (prec : Int) (places : Int) : Except Refusal Int :=
  let ctx := Context.standard
  let unit := -places
  if 2 * (ctx.emax + prec) < unit.natAbs then .error (.fault .invalidOperation)
  else if ctx.emax < unit then .error (.fault .overflow)
  else .ok (max unit (ctx.emin - prec + 1))

def rounded (x : Decimal) (places : Int) : Except Refusal Decimal :=
  let prec := workingPrecision x places
  if wordLimit < prec then .error .precisionBeyondWord
  else if maxPrecision < prec then .error .precisionBeyondLimit
  else
    match unitExponent prec places with
    | .error r => .error r
    | .ok target =>
      let ctx := { Context.standard with prec := prec.toNat }
      match ctx.quantize x target with
      | .error f => .error (.fault f)
      | .ok q =>
        let r := ctx.reduce q
        .ok (if r.coeff = 0 then r.abs else r)

def positional (x : Decimal) : List Char × List Char :=
  let ds := Nat.toDigits 10 x.coeff
  if 0 ≤ x.exp then (ds ++ List.replicate x.exp.toNat '0', [])
  else
    let k := (-x.exp).toNat
    if k < ds.length then (ds.take (ds.length - k), ds.drop (ds.length - k))
    else (['0'], List.replicate (k - ds.length) '0' ++ ds)

def groupReversed : List Char → List Char
  | a :: b :: c :: d :: rest => a :: b :: c :: ',' :: groupReversed (d :: rest)
  | cs => cs

def groupThousands (ds : List Char) : List Char := (groupReversed ds.reverse).reverse

/-- The number rounded to `places` fraction digits and written positionally, the integer
digits grouped in threes when `group` holds. -/
def format (x : Decimal) (places : Int) (group : Bool) : Except Refusal String :=
  match rounded x places with
  | .error r => .error r
  | .ok r =>
    let (whole, frac) := positional r
    let whole := if group then groupThousands whole else whole
    let sign := if r.neg then ['-'] else []
    let point := if frac.isEmpty then [] else '.' :: frac
    .ok (String.ofList (sign ++ whole ++ point))

end Display

end Abacus
