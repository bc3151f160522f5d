import Abacus.Settings.Toml.Literal
import Abacus.Settings.Toml.Scan

/-!
# Reading a settings file

A settings file is read as its format's reader reads it: after the first pass
(`Abacus.Toml.Scan`), line by line. Each line, trimmed, is

* a header `[a.b]` or `[[a.b]]`, which moves the reader to the table it names, opening the
  tables on the way; a table may be named twice only when the first time it was opened on
  the way to another, and an array of tables gets one more table each time;
* an inline table `{...}`, whose entries go into the current table;
* a key line, read into the current table (`Abacus.Toml.Literal`);
* or anything else, which is passed over.

A multi-line string left open by a key line takes the lines after it until it closes, and
is stored under its key in the table of the header above it. `read` gives the document, or
why there is none: malformed text, after which the defaults apply, or an error of the
reader, which ends the reading.
-/

namespace Abacus

namespace Toml

structure DocState where
  root : Value := .table []
  place : Place := .root
  implicit : List String := []
  pending : Option Pending := none

def closesQuote (s : List Char) : Bool :=
  match s with
  | c :: _ :: _ => s.getLast? = some c
  | _ => false

def quotedSpan (g : List Char) (rest : List (List Char)) : Nat → Nat → Option Nat
  | _, 0 => none
  | m, fuel + 1 =>
    if closesQuote (strip (glue ['.'] (g :: rest.take m))) then some m
    else quotedSpan g rest (m + 1) fuel

def bareName (g : List Char) : Bool :=
  !g.isEmpty ∧ g.all fun c => (c.isAlphanum ∧ c.toNat < 128) ∨ c = '_' ∨ c = '-'

def groupNames : List (List Char) → Reading (List String)
  | [] => .ok []
  | g :: rest =>
    let g := strip g
    match g with
    | c :: _ =>
      if isQuote c then
        match quotedSpan g rest 0 (rest.length + 3) with
        | some m => do
          let name := inner (strip (glue ['.'] (g :: rest.take m)))
          return String.ofList name :: (← groupNames (rest.drop m))
        | none => reject
      else if bareName g then (String.ofList g :: ·) <$> groupNames rest
      else reject
    | [] => reject
termination_by gs => gs.length
decreasing_by
  all_goals simp only [List.length_cons, List.length_drop]
  all_goals omega

def openTable (root : Value) (place : Place) (group : String) (last array : Bool) :
    Reading Value :=
  store root place group (if last ∧ array then .array [.table []] else .table [])

def appendTable (root : Value) (place : Place) : Reading Value :=
  match place.value root with
  | .array _ =>
    match place with
    | .node path => .ok (updateAt (fun v => match v with
        | .array xs => .array (xs ++ [.table []])
        | other => other) root path)
    | .text _ => .ok root
  | other => crash (.noAppend other.kindName)

def walkGroups (array : Bool) : DocState → List String → Reading DocState
  | st, [] => .ok st
  | st, group :: rest => do
    if group.isEmpty then reject
    let last := rest.isEmpty
    let here := st.place.value st.root
    let st ← match here with
      | .table kvs =>
        match Value.lookup kvs group with
        | some _ =>
          if !last then pure st
          else if st.implicit.contains group then
            if array then reject
            else pure { st with implicit := st.implicit.erase group }
          else if array then do
            let root ← appendTable st.root (st.place.under group)
            pure { st with root }
          else reject
        | none =>
          let implicit := if last then st.implicit else st.implicit ++ [group]
          let root ← openTable st.root st.place group last array
          pure { st with root, implicit }
      | _ => do
        let place := (← st.place.lastOf st.root).getD st.place
        if ← hasKey (place.value st.root) group then pure { st with place }
        else
          let root ← openTable st.root place group last array
          pure { st with root, place }
    match ← lookupKey (st.place.value st.root) group with
    | none => reject
    | some _ =>
      let place := st.place.under group
      let place ← if array then do
          pure ((← place.lastOf st.root).getD place)
        else pure place
      walkGroups array { st with place } rest

def header (st : DocState) (line : List Char) : Reading DocState := do
  if line.length = 1 then reject
  let (array, body, sep) :=
    if line.getD 1 ' ' = '[' then (true, line.drop 2, [']', ']']) else (false, line.drop 1, [']'])
  let cuts := cutsBefore sep false (splitOnQuotes body)
  let pieces := cutAtMost sep (some cuts) body
  if pieces.length < cuts + 1 ∨ strip (pieces.getLastD []) ≠ [] then reject
  let names ← groupNames (cut ['.'] (glue sep pieces.dropLast))
  walkGroups array { st with place := .root } names

def closesPending (text line : List Char) : Reading Bool :=
  match text with
  | '[' :: _ =>
    match line.getLast? with
    | some c => .ok (c = ']')
    | none => crash .textIndex
  | q :: _ => .ok (2 < line.length ∧ line.reverse.take 3 = [q, q, q])
  | [] => .ok false

def lineStep (st : DocState) (line : List Char) : Reading DocState := do
  let trims := match st.pending with
    | none => true
    | some p => p.backslash ∨ !p.text.contains '\n'
  let line := if trims then strip line else line
  if line.isEmpty ∧ (st.pending.map (·.backslash)).getD true then return st
  match st.pending with
  | some p =>
    let text := p.text ++ line
    if ← closesPending text line then
      let (x, _) ← loadValue (text.length + 1) text true
      let root ← store st.root st.place p.key x
      return { st with root, pending := none }
    else
      let backslash := trailingBackslashes text % 2 = 1
      let text := if backslash then text.dropLast else text ++ ['\n']
      return { st with pending := some ⟨p.key, text, backslash⟩ }
  | none =>
    match line with
    | '[' :: _ => header st line
    | '{' :: _ =>
      if line.getLast? ≠ some '}' then reject
      let root ← loadInline (line.length + 1) line st.root st.place
      return { st with root }
    | _ =>
      if !line.contains '=' then return st
      let (root, pending) ← loadLine (line.length + 1) line st.root st.place
      return { st with root, pending }

def normalizeLineEnds : List Char → List Char
  | '\r' :: '\n' :: rest => '\n' :: normalizeLineEnds rest
  | '\r' :: rest => '\n' :: normalizeLineEnds rest
  | c :: rest => c :: normalizeLineEnds rest
  | [] => []

/-- The document a settings file's text writes. -/
def read (text : String) : Reading Value := do
  let lines ← scanLines (String.ofList (normalizeLineEnds text.toList))
  let st ← lines.foldlM lineStep {}
  return st.root

end Toml

end Abacus
