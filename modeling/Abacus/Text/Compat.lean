/-!
# Compatibility forms of arithmetic text

Many characters are compatibility variants of digits, operators, parentheses and blanks:
full-width forms, superscripts and subscripts, circled and parenthesized numbers, and the
typographic spaces. `fold` replaces each of them by its compatibility form (Unicode 14.0).

Compatibility normalization of a text changes it character by character in this way
whenever the result consists of arithmetic characters (digits, `.`, `+ - * / ^`,
parentheses and blanks): composition never produces one of them, and no arithmetic
character starts a composable pair. Where the normalized text would hold another
character, `fold` leaves one outside arithmetic text too. So the two agree on every
question about arithmetic text.
-/

namespace Abacus

namespace Text

inductive Form where
  | text (s : String)
  | numeral (pre : String) (first : Nat) (post : String)

structure Variant where
  lo : Nat
  hi : Nat
  form : Form

def variants : List Variant := [
  ⟨0xA0, 0xA0, .text " "⟩, ⟨0xB2, 0xB3, .numeral "" 2 ""⟩, ⟨0xB9, 0xB9, .numeral "" 1 ""⟩,
  ⟨0x2000, 0x200A, .text " "⟩, ⟨0x2024, 0x2024, .text "."⟩, ⟨0x2025, 0x2025, .text ".."⟩,
  ⟨0x2026, 0x2026, .text "..."⟩, ⟨0x202F, 0x202F, .text " "⟩, ⟨0x205F, 0x205F, .text " "⟩,
  ⟨0x2070, 0x2070, .numeral "" 0 ""⟩, ⟨0x2074, 0x2079, .numeral "" 4 ""⟩,
  ⟨0x207A, 0x207A, .text "+"⟩, ⟨0x207D, 0x207D, .text "("⟩, ⟨0x207E, 0x207E, .text ")"⟩,
  ⟨0x2080, 0x2089, .numeral "" 0 ""⟩, ⟨0x208A, 0x208A, .text "+"⟩,
  ⟨0x208D, 0x208D, .text "("⟩, ⟨0x208E, 0x208E, .text ")"⟩,
  ⟨0x2460, 0x2473, .numeral "" 1 ""⟩, ⟨0x2474, 0x2487, .numeral "(" 1 ")"⟩,
  ⟨0x2488, 0x249B, .numeral "" 1 "."⟩, ⟨0x24EA, 0x24EA, .numeral "" 0 ""⟩,
  ⟨0x3000, 0x3000, .text " "⟩, ⟨0x3251, 0x325F, .numeral "" 21 ""⟩,
  ⟨0x32B1, 0x32BF, .numeral "" 36 ""⟩, ⟨0xFB29, 0xFB29, .text "+"⟩,
  ⟨0xFE19, 0xFE19, .text "..."⟩, ⟨0xFE30, 0xFE30, .text ".."⟩,
  ⟨0xFE35, 0xFE35, .text "("⟩, ⟨0xFE36, 0xFE36, .text ")"⟩, ⟨0xFE52, 0xFE52, .text "."⟩,
  ⟨0xFE59, 0xFE59, .text "("⟩, ⟨0xFE5A, 0xFE5A, .text ")"⟩, ⟨0xFE61, 0xFE61, .text "*"⟩,
  ⟨0xFE62, 0xFE62, .text "+"⟩, ⟨0xFE63, 0xFE63, .text "-"⟩, ⟨0xFF08, 0xFF08, .text "("⟩,
  ⟨0xFF09, 0xFF09, .text ")"⟩, ⟨0xFF0A, 0xFF0A, .text "*"⟩, ⟨0xFF0B, 0xFF0B, .text "+"⟩,
  ⟨0xFF0D, 0xFF0D, .text "-"⟩, ⟨0xFF0E, 0xFF0E, .text "."⟩, ⟨0xFF0F, 0xFF0F, .text "/"⟩,
  ⟨0xFF10, 0xFF19, .numeral "" 0 ""⟩, ⟨0xFF3E, 0xFF3E, .text "^"⟩,
  ⟨0x1D7CE, 0x1D7D7, .numeral "" 0 ""⟩, ⟨0x1D7D8, 0x1D7E1, .numeral "" 0 ""⟩,
  ⟨0x1D7E2, 0x1D7EB, .numeral "" 0 ""⟩, ⟨0x1D7EC, 0x1D7F5, .numeral "" 0 ""⟩,
  ⟨0x1D7F6, 0x1D7FF, .numeral "" 0 ""⟩, ⟨0x1F100, 0x1F100, .numeral "" 0 "."⟩,
  ⟨0x1FBF0, 0x1FBF9, .numeral "" 0 ""⟩]

def foldChar (c : Char) : List Char :=
  let n := c.toNat
  if n < 0xA0 then [c]
  else
    match variants.find? fun v => v.lo ≤ n ∧ n ≤ v.hi with
    | some ⟨_, _, .text s⟩ => s.toList
    | some ⟨lo, _, .numeral pre first post⟩ =>
      pre.toList ++ Nat.toDigits 10 (first + (n - lo)) ++ post.toList
    | none => [c]

/-- The text with every compatibility variant of arithmetic text replaced by its form. -/
def fold (s : String) : String := String.ofList (s.toList.flatMap foldChar)

end Text

end Abacus
