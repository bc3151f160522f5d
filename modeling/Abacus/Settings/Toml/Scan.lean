import Abacus.Settings.Toml.Place
import Abacus.Text.Alnum

/-!
# The first pass over a settings file

The format's reader reads a file twice. The first pass walks its characters once and
edits them in place, so that the second pass can take the file line by line:

* a comment, from `#` outside strings and headers to the end of its line, becomes blanks;
  a comment that runs to the end of the file ends the pass;
* a line break inside brackets becomes a blank, so an array is one line;
* inside a multi-line string, a line break right after two quotes takes the quote's place,
  and a third quote before them becomes a blank.

On the way it checks keys: a key at the start of a line is bare characters (letters,
digits of any script, `_`, `-`), dotted parts, and quoted parts after a dot, and it must be
followed by `=` on its line. A line break inside a key, a key that is never given a value,
an unterminated string and an `=` with no key before it are malformed.

Quotes are recognised by looking back from them: two quotes before a quote make a triple
quote, and an odd number of backslashes before it escapes it. The look-back counts
positions before the first from the end of the file, as the format's reader does.
-/

namespace Abacus

namespace Toml

def charAt? (a : Array Char) (j : Int) : Option Char :=
  if 0 ≤ j then a[j.toNat]?
  else if 0 ≤ (a.size : Int) + j then a[((a.size : Int) + j).toNat]?
  else none

def setAt (a : Array Char) (j : Int) (c : Char) : Array Char :=
  if 0 ≤ j then a.setIfInBounds j.toNat c
  else a.setIfInBounds ((a.size : Int) + j).toNat c

def backslashRun (a : Array Char) (p : Int) : Nat → Nat
  | 0 => 0
  | fuel + 1 => if charAt? a p = some '\\' then backslashRun a (p - 1) fuel + 1 else 0

def backslashesBefore (a : Array Char) (i : Nat) : Nat :=
  ((a.toList.take i).reverse.takeWhile (· = '\\')).length

def quotesBefore (a : Array Char) (i : Nat) (q : Char) : Nat :=
  if charAt? a ((i : Int) - 1) = some q then
    if charAt? a ((i : Int) - 2) = some q then 2 else 1
  else 0

inductive KeyMode where
  | none
  | bare
  | gap
  deriving DecidableEq, Inhabited

structure ScanState where
  chars : Array Char
  openArrays : Int := 0
  inString : Bool := false
  quote : Option Char := none
  multiline : Bool := false
  arrayHeader : Bool := false
  lineStart : Bool := true
  tableHeader : Bool := false
  dotted : Bool := false
  key : KeyMode := .none
  stopped : Bool := false

def nextAfter (st : ScanState) (i : Nat) : Reading Char :=
  match st.chars[i + 1]? with
  | some c => .ok c
  | none => crash .arrayIndex

def resumesKey (c : Char) : Bool := !(Text.isSpace c) && c != '.'

def keyStep (st : ScanState) (i : Nat) (item : Char) : Reading (Option ScanState) := do
  if item = '\n' then reject
  if st.inString ∧ st.quote = some item then
    if backslashesBefore st.chars i % 2 = 1 then return some st
    return some { st with key := .gap, inString := false, quote := none }
  match st.key with
  | .bare =>
    if Text.isSpace item then return some { st with key := .gap }
    if item = '.' then return some { st with dotted := true }
    if Text.isAlnum item ∨ item = '_' ∨ item = '-' then return some st
    if st.dotted ∧ charAt? st.chars ((i : Int) - 1) = some '.' ∧ (item = '"' ∨ item = '\'') then
      return some { st with inString := true, quote := some item }
  | .gap =>
    if Text.isSpace item then
      if st.dotted then
        let next ← nextAfter st i
        if resumesKey next then return some { st with key := .bare }
      return some st
    if item = '.' then
      let next ← nextAfter st i
      return some { st with dotted := true, key := if resumesKey next then .bare else .gap }
  | .none => pure ()
  if item = '=' then return none
  reject

def singleQuote (st : ScanState) (i : Nat) : ScanState :=
  let (multiline, inString) :=
    if quotesBefore st.chars i '\'' = 2 then (!st.multiline, !st.multiline)
    else (st.multiline, !st.inString)
  { st with multiline, inString, quote := if inString then some '\'' else none }

def doubleQuote (st : ScanState) (i : Nat) : ScanState :=
  let before := quotesBefore st.chars i '"'
  let escaped :=
    if before = 1 then false
    else backslashRun st.chars ((i : Int) - 1 - before) (st.chars.size + 1) % 2 = 1
  let (multiline, inString) :=
    if escaped then (st.multiline, st.inString)
    else if before = 2 then (!st.multiline, !st.multiline)
    else (st.multiline, !st.inString)
  { st with multiline, inString, quote := if inString then some '"' else none }

def blankComment (a : Array Char) (i : Nat) : Array Char × Bool :=
  let rest := a.toList.drop i
  let n := (rest.takeWhile (· != '\n')).length
  let blanked := (List.range n).foldl (fun a k => a.setIfInBounds (i + k) ' ') a
  (blanked, n = rest.length)

def lineBreak (st : ScanState) (i : Nat) : Reading ScanState := do
  if st.inString ∨ st.multiline then
    if !st.multiline then reject
    let a := st.chars
    let prev := charAt? a ((i : Int) - 1)
    if (prev = some '\'' ∨ prev = some '"') ∧ charAt? a ((i : Int) - 2) = prev then
      let c := prev.getD ' '
      let a := a.setIfInBounds i c
      let a := if charAt? a ((i : Int) - 3) = prev then setAt a ((i : Int) - 3) ' ' else a
      return { st with chars := a }
    return st
  if st.openArrays ≠ 0 then return { st with chars := st.chars.setIfInBounds i ' ' }
  return { st with lineStart := true }

def scanStep (st : ScanState) (i : Nat) : Reading ScanState := do
  if st.stopped then return st
  let item := st.chars.getD i ' '
  let mut st := st
  if st.key ≠ .none then
    match ← keyStep st i item with
    | some st' => return st'
    | none => st := { st with key := .none, dotted := false }
  if item = '\'' ∧ st.quote ≠ some '"' then st := singleQuote st i
  if item = '"' ∧ st.quote ≠ some '\'' then st := doubleQuote st i
  if item = '#' ∧ !st.inString ∧ !st.tableHeader ∧ !st.arrayHeader then
    let (a, atEnd) := blankComment st.chars i
    st := { st with chars := a }
    if atEnd then return { st with stopped := true }
  if item = '[' ∧ !st.inString ∧ !st.tableHeader ∧ !st.arrayHeader then
    if st.lineStart then
      if st.chars[i + 1]? = some '[' then st := { st with arrayHeader := true }
      else st := { st with tableHeader := true }
    else st := { st with openArrays := st.openArrays + 1 }
  if item = ']' ∧ !st.inString then
    if st.tableHeader then st := { st with tableHeader := false }
    else if st.arrayHeader then
      if charAt? st.chars ((i : Int) - 1) = some ']' then st := { st with arrayHeader := false }
    else st := { st with openArrays := st.openArrays - 1 }
  if item = '\n' then return ← lineBreak st i
  let here := st.chars.getD i ' '
  if st.lineStart ∧ here ≠ ' ' ∧ here ≠ '\t' then
    st := { st with lineStart := false }
    if !st.tableHeader ∧ !st.arrayHeader then
      if here = '=' then reject
      st := { st with key := .bare }
  return st

/-- The lines of a settings file after the first pass. -/
def scanLines (text : String) : Reading (List (List Char)) := do
  let chars := text.toList.toArray
  let st ← (List.range chars.size).foldlM scanStep { chars }
  if st.key ≠ .none ∨ st.inString then reject
  return cut ['\n'] st.chars.toList

end Toml

end Abacus
