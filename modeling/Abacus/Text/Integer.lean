import Abacus.Text.Digit
import Abacus.Text.Space

/-!
# Integers written as text

An integer is read from text the way configuration values are: blanks around it are
ignored, a sign may come first, and the digits may be of any script, with single
underscores between them (`1_000`, `٣`). The blanks are the ASCII ones (space, tab, line
feed, vertical tab, form feed, carriage return) and the blanks beyond ASCII; the ASCII
information separators `0x1C` to `0x1F` are not. At most 4300 digits are read; a longer
number is refused like any other malformed text.
-/

namespace Abacus

namespace Text

def maxIntDigits : Nat := 4300

def intForm (c : Char) : Char :=
  if c.toNat < 127 then c
  else if isSpace c then ' '
  else match digitValue? c with
    | some d => Char.ofNat (48 + d)
    | none => '?'

def isAsciiBlank (c : Char) : Bool := (9 ≤ c.toNat ∧ c.toNat ≤ 13) ∨ c = ' '

def digitsWithSeparators : List Char → Option (List Char)
  | [] => none
  | [c] => if c.isDigit then some [c] else none
  | c :: '_' :: rest =>
    if c.isDigit then (digitsWithSeparators rest).map (c :: ·) else none
  | c :: rest =>
    if c.isDigit then (digitsWithSeparators rest).map (c :: ·) else none

def asciiDigitsValue (ds : List Char) : Nat :=
  ds.foldl (fun n c => 10 * n + (c.toNat - 48)) 0

/-- The integer a text writes, if it writes one. -/
def readInt? (s : String) : Option Int :=
  let cs := s.toList.map intForm
  let cs := ((cs.dropWhile isAsciiBlank).reverse.dropWhile isAsciiBlank).reverse
  let (neg, body) := match cs with
    | '-' :: b => (true, b)
    | '+' :: b => (false, b)
    | b => (false, b)
  match digitsWithSeparators body with
  | some ds =>
    if maxIntDigits < ds.length then none
    else
      let n : Int := asciiDigitsValue ds
      some (if neg then -n else n)
  | none => none

end Text

end Abacus
