import Abacus.Text.Printable

/-!
# Quoted text

A text is quoted between apostrophes, or between double quotes when it holds an apostrophe
and no double quote. Inside, the chosen quote and the backslash get a backslash, tab, line
feed and carriage return are written `\t`, `\n`, `\r`, and every other character that is
not printable is written by its code point in lower-case hexadecimal: `\xhh` up to `0xFF`,
`\uhhhh` up to `0xFFFF` and `\Uhhhhhhhh` above. Printable characters stand for themselves.
-/

namespace Abacus

namespace Text

def apostrophe : Char := '\x27'

def doubleQuote : Char := '\x22'

def hexDigits (width n : Nat) : List Char :=
  (List.range width).reverse.map fun i =>
    let d := n / Nat.pow 16 i % 16
    if d < 10 then Char.ofNat (48 + d) else Char.ofNat (87 + d)

def escapeChar (q c : Char) : List Char :=
  let n := c.toNat
  if c = q ∨ c = '\\' then ['\\', c]
  else if c = '\t' then ['\\', 't']
  else if c = '\n' then ['\\', 'n']
  else if c = '\r' then ['\\', 'r']
  else if isPrintable c then [c]
  else if n ≤ 0xFF then '\\' :: 'x' :: hexDigits 2 n
  else if n ≤ 0xFFFF then '\\' :: 'u' :: hexDigits 4 n
  else '\\' :: 'U' :: hexDigits 8 n

def quoteFor (cs : List Char) : Char :=
  if cs.contains apostrophe ∧ !cs.contains doubleQuote then doubleQuote else apostrophe

/-- The text between quotes, with its characters escaped. -/
def quote (s : String) : String :=
  let cs := s.toList
  let q := quoteFor cs
  String.ofList (q :: cs.flatMap (escapeChar q) ++ [q])

end Text

end Abacus
