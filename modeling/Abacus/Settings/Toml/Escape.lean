import Abacus.Settings.Toml.Place
import Abacus.Text.Lower

/-!
# Quoted text in a settings file

A value in quotes is checked and unescaped by the format's reader in three sweeps:

* `closedOnce` checks that the quotes close the string once, with nothing after the
  closing quote: the text between quotes ends in an even number of backslashes where a
  quote closes;
* `unicodeEscapes` replaces `\u` with four hex digits, and `\U` with eight, by the
  character they name, where a run of hex digits may also end early at the next escape;
* `unescape` replaces `\b`, `\t`, `\n`, `\f`, `\r`, `\"` and `\0` by the characters they
  stand for and a doubled backslash by one, and refuses any other escape.

Single-quoted keys are unescaped as well, as the format's reader does.
-/

namespace Abacus

namespace Toml

def isQuote (c : Char) : Bool := c = '"' ∨ c = '\''

def escapeLetters : List Char := ['0', 'b', 'f', 'n', 'r', 't', '"']

def escapedChar : Char → Char
  | '0' => '\x00'
  | 'b' => '\x08'
  | 'f' => '\x0c'
  | 'n' => '\n'
  | 'r' => '\r'
  | 't' => '\t'
  | c => c

def trailingBackslashes (s : List Char) : Nat := (s.reverse.takeWhile (· = '\\')).length

/-- The text with its escapes replaced, each backslash pair read once from the left. -/
def unescape : List Char → Reading (List Char)
  | [] => .ok []
  | ['\\'] => .ok ['\\']
  | '\\' :: c :: rest =>
    if escapeLetters.contains c then (escapedChar c :: ·) <$> unescape rest
    else if c = '\\' then ('\\' :: ·) <$> unescape rest
    else if c = 'u' ∨ c = 'U' then (['\\', c] ++ ·) <$> unescape rest
    else reject
  | c :: rest => (c :: ·) <$> unescape rest

def escapesKnown (v : List Char) : Bool :=
  let pieces := (cut ['\\'] v).drop 1
  let step (st : Bool × Bool) (p : List Char) : Bool × Bool :=
    let (ok, backslash) := st
    match p with
    | [] => (ok, !backslash)
    | c :: _ =>
      (ok && (escapeLetters.contains c || c = 'u' || c = 'U' || backslash), false)
  (pieces.foldl step (true, false)).1

def isHexDigit (c : Char) : Bool :=
  c.isDigit ∨ ('a' ≤ c ∧ c ≤ 'f') ∨ ('A' ≤ c ∧ c ≤ 'F')

def hexValue (ds : List Char) : Nat :=
  ds.foldl (fun n c =>
    16 * n + (if c.isDigit then c.toNat - 48 else if c ≤ 'F' then c.toNat - 55 else c.toNat - 87)) 0

/-- The text after the pieces between escapes with marker `mark` have been joined back,
each escape replaced by the character its first `width` hex digits name; `skip` says the
escape is itself escaped by a backslash before it. -/
def unicodeEscapes (mark : List Char) (width : Nat) :
    Bool → List Char → List (List Char) → Reading (List Char)
  | _, v, [] => .ok v
  | skip, v, hx :: rest =>
    if skip then
      unicodeEscapes mark width (trailingBackslashes hx % 2 = 1) (v ++ mark ++ hx) rest
    else
      let digits := hx.take width
      if !digits.all isHexDigit then reject
      else
        match digits with
        | [] => crash .textIndex
        | d :: more =>
          let surrogate : Reading Bool :=
            if d = 'd' ∨ d = 'D' then
              match more with
              | [] => crash .textIndex
              | e :: _ => .ok !('0' ≤ e ∧ e ≤ '7')
            else .ok false
          match surrogate with
          | .error f => .error f
          | .ok true => reject
          | .ok false =>
            let code := hexValue digits
            if 0x10FFFF < code then reject
            else unicodeEscapes mark width false (v ++ [Char.ofNat code] ++ hx.drop width) rest

def replaceUnicode (v : List Char) : Reading (List Char) := do
  let step (mark : List Char) (width : Nat) (v : List Char) : Reading (List Char) :=
    if occurs mark v then
      match cut mark v with
      | first :: rest => unicodeEscapes mark width (trailingBackslashes first % 2 = 1) first rest
      | [] => .ok v
    else .ok v
  let v ← step ['\\', 'u'] 4 v
  step ['\\', 'U'] 8 v

/-- The quotes of a value close its string once: after the closing quote no further text
follows. A piece between quotes closes the string unless it ends in an odd number of
backslashes; in a triple-quoted string only after two empty pieces. -/
def closedOnce (quote : Char) (v : List Char) : Bool :=
  let pieces := cut [quote] (v.drop 1)
  let (pieces, triple) := match pieces with
    | [] :: [] :: rest => (rest, true)
    | ps => (ps, false)
  let step (st : Option (Bool × Nat)) (tv : List Char) : Option (Bool × Nat) :=
    match st with
    | none => none
    | some (closed, count) =>
      if tv.isEmpty then
        if triple then some (closed, count + 1) else some (true, count)
      else if trailingBackslashes tv % 2 = 1 then some (closed, count)
      else if closed then none
      else if !triple ∨ 1 < count then some (true, count)
      else some (closed, 0)
  (pieces.foldl step (some (false, 0))).isSome

def quotedText (v : List Char) : Reading String := do
  let quote := v.headD '"'
  if !closedOnce quote v then reject
  let v ← if quote = '"' then do
      if !escapesKnown v then reject
      unescape (← replaceUnicode v)
    else pure v
  let v :=
    if 1 < v.length ∧ v.getD 1 ' ' = quote ∧ (v.length < 3 ∨ v.getD 1 ' ' = v.getD 2 ' ') then
      (v.drop 2).dropLast.dropLast
    else v
  return String.ofList (inner v)

end Toml

end Abacus
