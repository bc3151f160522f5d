import Abacus.Text.Lower
import Abacus.Text.Quoted
import Abacus.Text.Space
import Abacus.Token

/-!
# Notations

An expression is written in one of three notations: reverse Polish (`1 2 +`), algebraic
(`1 + 2`), or custom, where the operators come first and the values after them
(`+- 1 2 3 4`). The notation of a text is guessed from its characters alone: an operator
first is custom, two numbers with only blanks between them are reverse Polish, and all else
is algebraic.
-/

namespace Abacus

/-- The notations an expression can be written in. -/
inductive Notation where
  | reversePolish
  | algebraic
  | custom
  deriving DecidableEq, Inhabited, Repr

namespace Notation

def name : Notation → String
  | .reversePolish => "rpn"
  | .algebraic => "infix"
  | .custom => "custom"

def runOfTwo : List Char → Nat → Bool → Bool
  | [], _, _ => false
  | c :: rest, count, inside =>
    if c.isDigit ∨ c = '.' then
      if inside then runOfTwo rest count true
      else if 1 ≤ count then true
      else runOfTwo rest (count + 1) true
    else if Text.isSpace c then runOfTwo rest count false
    else runOfTwo rest 0 false

def startsCustom (cs : List Char) : Bool :=
  match Text.dropSpaces cs with
  | c :: _ => (Op.ofChar? c).isSome
  | [] => false

/-- The notation a text is most likely written in. -/
def detect (s : String) : Notation :=
  if startsCustom s.toList then .custom
  else if runOfTwo s.toList 0 false then .reversePolish
  else .algebraic

structure UnknownName where
  name : String

def UnknownName.message (u : UnknownName) : String :=
  Text.quote u.name ++ " is not a valid Notation"

/-- A notation as settings name it, trimmed and in any case: a notation, or `none` for
`auto`, which asks for detection. -/
def ofName? (s : String) : Except UnknownName (Option Notation) :=
  let n := Text.lower (Text.trim s)
  if n = "auto" then .ok none
  else if n = "rpn" then .ok (some .reversePolish)
  else if n = "infix" then .ok (some .algebraic)
  else if n = "custom" then .ok (some .custom)
  else .error ⟨n⟩

end Notation

end Abacus
