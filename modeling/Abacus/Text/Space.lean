/-!
# Blank characters

The blank characters are those of Unicode's bidirectional classes `WS`, `B` and `S` and
the `Zs` separators: tab to carriage return, the four information separators
`0x1C` to `0x1F`, the space, next line, no-break space, the Ogham space mark, the spaces
`0x2000` to `0x200A`, line and paragraph separator, the narrow no-break space, the medium
mathematical space and the ideographic space. A zero-width space is not blank.
-/

namespace Abacus

namespace Text

/-- The character is blank. -/
def isSpace (c : Char) : Bool :=
  let n := c.toNat
  (9 ≤ n ∧ n ≤ 13) ∨ (28 ≤ n ∧ n ≤ 32) ∨ n = 0x85 ∨ n = 0xA0 ∨ n = 0x1680 ∨
    (0x2000 ≤ n ∧ n ≤ 0x200A) ∨ n = 0x2028 ∨ n = 0x2029 ∨ n = 0x202F ∨ n = 0x205F ∨
    n = 0x3000

def dropSpaces (cs : List Char) : List Char := cs.dropWhile isSpace

def trimSpaces (cs : List Char) : List Char := (dropSpaces (dropSpaces cs).reverse).reverse

/-- The text without leading and trailing blanks. -/
def trim (s : String) : String := String.ofList (trimSpaces s.toList)

end Text

end Abacus
