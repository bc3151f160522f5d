import Abacus.Binary.Power
import Abacus.Decimal.Text
import Abacus.Settings.Toml.Pieces
import Abacus.Text.Integer
import Abacus.Text.Lower

/-!
# Numbers in a settings file

A value that is no string, array, table or boolean is read as a number, and three rules
decide what the reader makes of it.

* `strictlyValid` is the format's own check of number text: no underscore at either end
  or beside the point, no leading zero before more digits except ahead of a point or a base
  prefix, and no doubled underscore.
* `floatValue?` reads text as a float the way the runtime's float reader does: blanks
  around, a sign, `inf`, `infinity` or `nan` in any case, or digits with an optional point
  and exponent, where single underscores may stand between two digits. Digits of any
  script count as their ASCII digits. The value is the nearest float.
* `intValue?` reads text as an integer whose base its prefix gives: `0x`, `0o` or `0b`
  (in either case) for 16, 8 and 2, and 10 otherwise, where a number of more than one
  digit may not begin with zero unless it is zero. At most 4300 decimal digits are read.

Times of day and dates are recognised too (`timeOf?`, `dateOf?`), as the format's reader
recognises them, and kept as their text.
-/

namespace Abacus

namespace Toml

/-- Number text passes the format's check: after trimming it is not empty, has no
underscore at either end or beside the point, no zero in front of further digits unless a
point or a base letter follows it, and no doubled underscore. -/
def strictlyValid (n : List Char) : Bool :=
  match strip n with
  | [] => false
  | c :: rest =>
    let n := c :: rest
    if c = '_' ∨ n.getLast? = some '_' then false
    else if occurs ['_', '.'] n ∨ occurs ['.', '_'] n then false
    else if rest.isEmpty then true
    else if c = '0' ∧ !(['.', 'o', 'b', 'x'].contains (rest.headD ' ')) then false
    else
      let signed := c = '+' ∨ c = '-'
      let body := if signed then rest else n
      if signed ∧ 1 < body.length ∧ body.head? = some '0' ∧ body.getD 1 ' ' ≠ '.' then false
      else !occurs ['_', '_'] body

def separatorsFrom (prev : Char) : List Char → Option (List Char)
  | [] => if prev = '_' then none else some []
  | c :: rest =>
    if c = '_' then
      if prev.isDigit then separatorsFrom '_' rest else none
    else if prev = '_' ∧ !c.isDigit then none
    else (separatorsFrom c rest).map (c :: ·)

def stripAscii (cs : List Char) : List Char :=
  ((cs.dropWhile Text.isAsciiBlank).reverse.dropWhile Text.isAsciiBlank).reverse

def splitSign : List Char → Bool × List Char
  | '-' :: rest => (true, rest)
  | '+' :: rest => (false, rest)
  | cs => (false, cs)

def decimalText? (cs : List Char) : Option (Nat × Int) :=
  let whole := cs.takeWhile Char.isDigit
  let rest := cs.dropWhile Char.isDigit
  let (frac, rest) := match rest with
    | '.' :: r => (r.takeWhile Char.isDigit, r.dropWhile Char.isDigit)
    | r => ([], r)
  if whole.isEmpty ∧ frac.isEmpty then none
  else
    let coeff := Text.asciiDigitsValue (whole ++ frac)
    match rest with
    | [] => some (coeff, -(frac.length : Int))
    | e :: r =>
      if e = 'e' ∨ e = 'E' then
        let (neg, ds) := splitSign r
        if ds.isEmpty ∨ !ds.all Char.isDigit then none
        else
          let k : Int := Text.asciiDigitsValue ds
          some (coeff, (if neg then -k else k) - frac.length)
      else none

/-- The float a text writes, read as the runtime's float reader reads it. -/
def floatValue? (s : List Char) : Option Float :=
  match separatorsFrom '\x00' (s.map Text.intForm) with
  | none => none
  | some cs =>
    let (neg, body) := splitSign (stripAscii cs)
    let word := String.ofList body |> Text.lower
    let signed (x : Float) : Float := if neg then -x else x
    if word = "inf" ∨ word = "infinity" then some (signed Binary.infinity)
    else if word = "nan" then some (0.0 / 0.0)
    else (decimalText? body).map fun (c, e) => (Decimal.mk neg c e).toFloat

def digitIn (c : Char) : Nat :=
  if c.isDigit then c.toNat - 48
  else if 'a' ≤ c ∧ c ≤ 'z' then c.toNat - 87
  else if 'A' ≤ c ∧ c ≤ 'Z' then c.toNat - 55
  else 36

def baseDigits (base : Nat) : List Char → Option (List Char)
  | [] => none
  | [c] => if digitIn c < base then some [c] else none
  | c :: '_' :: rest =>
    if digitIn c < base then (baseDigits base rest).map (c :: ·) else none
  | c :: rest => if digitIn c < base then (baseDigits base rest).map (c :: ·) else none

def baseValue (base : Nat) (ds : List Char) : Nat :=
  ds.foldl (fun n c => base * n + digitIn c) 0

def basePrefix : List Char → Nat × List Char × Bool
  | '0' :: x :: rest =>
    if x = 'x' ∨ x = 'X' then (16, rest, false)
    else if x = 'o' ∨ x = 'O' then (8, rest, false)
    else if x = 'b' ∨ x = 'B' then (2, rest, false)
    else (10, '0' :: x :: rest, true)
  | cs@('0' :: _) => (10, cs, true)
  | cs => (10, cs, false)

/-- The integer a text writes with its base given by its prefix, read as the runtime's
integer reader reads it. -/
def intValue? (s : List Char) : Option Int :=
  let cs := stripAscii (s.map Text.intForm)
  let (neg, body) := splitSign cs
  let (base, digits, zeroOnly) := basePrefix body
  let digits := if base ≠ 10 then (match digits with | '_' :: r => r | r => r) else digits
  match baseDigits base digits with
  | none => none
  | some ds =>
    if base = 10 ∧ Text.maxIntDigits < ds.length then none
    else
      let n := baseValue base ds
      if zeroOnly ∧ n ≠ 0 then none
      else some (if neg then -(n : Int) else n)

def twoDigits? : List Char → Option Nat
  | [a, b] => if a.isDigit ∧ b.isDigit then some (Text.asciiDigitsValue [a, b]) else none
  | _ => none

def padded (width n : Nat) : String :=
  let ds := Nat.toDigits 10 n
  String.ofList (List.replicate (width - ds.length) '0' ++ ds)

def timeParts? (v : List Char) : Option (Nat × Nat × Nat × Nat) :=
  match v with
  | h1 :: h2 :: ':' :: m1 :: m2 :: ':' :: s1 :: s2 :: rest => do
    let h ← twoDigits? [h1, h2]
    let m ← twoDigits? [m1, m2]
    let s ← twoDigits? [s1, s2]
    let micro := match rest with
      | '.' :: ds =>
        let ds := (ds.takeWhile Char.isDigit).take 6
        if 3 ≤ ds.length then Text.asciiDigitsValue ds else 0
      | _ => 0
    return (h, m, s, micro)
  | _ => none

def timeText (h m s micro : Nat) : String :=
  padded 2 h ++ ":" ++ padded 2 m ++ ":" ++ padded 2 s ++
    (if micro = 0 then "" else "." ++ padded 6 micro)

def daysIn (year month : Nat) : Nat :=
  if month = 2 then
    if year % 4 = 0 ∧ (year % 100 ≠ 0 ∨ year % 400 = 0) then 29 else 28
  else if month = 4 ∨ month = 6 ∨ month = 9 ∨ month = 11 then 30
  else 31

def validDate (y m d : Int) : Bool :=
  1 ≤ y ∧ y ≤ 9999 ∧ 1 ≤ m ∧ m ≤ 12 ∧ 1 ≤ d ∧ d ≤ daysIn y.toNat m.toNat

def sliceInt? (v : List Char) (a b : Nat) : Option Int :=
  Text.readInt? (String.ofList ((v.drop a).take (b - a)))

def offsetOf? (t : List Char) : Option (Bool × Int × Int) :=
  let raw := if t = ['Z'] then "+00:00".toList else t
  do
    let h ← sliceInt? raw 1 3
    let m ← sliceInt? raw 4 6
    return (raw.head? = some '-', h, m)

def fractionAndOffset (val : List Char) : Nat × Option (Bool × Int × Int) :=
  if val.length ≤ 19 then (0, none)
  else if val.getD 19 ' ' = '.' then
    let afterPoint := val.drop 20
    let (sub, tz) : List Char × Option (List Char) :=
      if val.getLast? = some 'Z' ∨ val.getLast? = some 'z' then (afterPoint.dropLast, some ['Z'])
      else if afterPoint.contains '+' then
        (afterPoint.takeWhile (· != '+'), some (afterPoint.dropWhile (· != '+')))
      else if afterPoint.contains '-' then
        (afterPoint.takeWhile (· != '-'), some (afterPoint.dropWhile (· != '-')))
      else (afterPoint, none)
    let offset := tz.bind offsetOf?
    if tz.isSome ∧ offset.isNone then (0, none)
    else
      match Text.readInt? (String.ofList sub) with
      | none => (0, none)
      | some n =>
        let micro : Int :=
          if sub.length ≤ 6 then n * Int.pow 10 (6 - sub.length)
          else
            let x := Float.ofInt n * Float.pow 10.0 (Float.ofInt (6 - (sub.length : Int)))
            (Binary.Word.ofFloat x).truncate
        (micro.toNat, offset)
  else (0, offsetOf? (val.drop 19))

/-- The date or date-time that text writes, as the format's reader recognises one, kept as
its text; `none` when the text is no date. -/
def dateOf? (val : List Char) : Option String :=
  if !(val.drop 1).contains '-' then none
  else
    let (micro, offset) := fractionAndOffset val
    let field (a b : Nat) := sliceInt? val a b
    if val.length = 10 then do
      let y ← field 0 4
      let m ← field 5 7
      let d ← field 8 10
      if validDate y m d then
        return padded 4 y.toNat ++ "-" ++ padded 2 m.toNat ++ "-" ++ padded 2 d.toNat
      else none
    else do
      let y ← field 0 4
      let mo ← field 5 7
      let d ← field 8 10
      let h ← field 11 13
      let mi ← field 14 16
      let s ← field 17 19
      if validDate y mo d ∧ 0 ≤ h ∧ h ≤ 23 ∧ 0 ≤ mi ∧ mi ≤ 59 ∧ 0 ≤ s ∧ s ≤ 59 ∧
          micro ≤ 999999 then
        let zone := match offset with
          | some (neg, oh, om) =>
            (if neg then "-" else "+") ++ padded 2 oh.natAbs ++ ":" ++ padded 2 om.natAbs
          | none => ""
        return padded 4 y.toNat ++ "-" ++ padded 2 mo.toNat ++ "-" ++ padded 2 d.toNat ++ " " ++
          timeText h.toNat mi.toNat s.toNat micro ++ zone
      else none

end Toml

end Abacus
