import Abacus.Settings.Toml.Escape
import Abacus.Settings.Toml.Number

/-!
# Values and key lines of a settings file

The format's reader takes a value by its first character: a quote starts a string, `[` an
array and `{` an inline table; `true` and `false` are booleans, a time of day or a date is
kept as its text, and everything else is a number (`Abacus.Toml.Number`).

* An array's items are cut at its commas (at the commas outside brackets when it holds
  arrays, and around braces when it holds inline tables); a string item cut at a comma
  inside it is glued back to the next piece. All items must be of one kind.
* An inline table's entries are cut at commas and glued back while a value looks
  incomplete, and each entry is read as a key line into the table.
* A key line is cut at the first `=` outside quotes, or at a later `=` while the text after
  it is no value. A dotted key opens a table per part; a key that is already there is
  malformed. A value that opens a multi-line string is left pending, to be completed by the
  lines after it (`Pending`).

Reading nests, and each nested value is shorter than the text around it; the fuel of
`loadValue` is the length of the text, which bounds the depth.
-/

namespace Abacus

namespace Toml

inductive Kind where
  | bool | str | array | table | time | date | float | int
  deriving DecidableEq, Inhabited

/-- A multi-line string left open by a key line: its key, the text so far, and whether the
text so far ends in an escaped line break. -/
structure Pending where
  key : String
  text : List Char
  backslash : Bool
  deriving Inhabited

def cutsBefore (sep : List Char) : Bool → List (List Char) → Nat
  | _, [] => 1
  | quoted, q :: rest =>
    if !quoted ∧ occurs sep q then 1 else count sep q + cutsBefore sep (!quoted) rest

def joinSingleQuoted (sq : List (List Char)) : List (List Char) → List (List Char) × List (List Char)
  | [] => (sq, [])
  | d :: ds =>
    if sq.length % 2 = 0 then
      let joined := sq.getLastD [] ++ '"' :: d
      let sq := sq.dropLast ++ (if occurs ['\''] joined then cut ['\''] joined else [joined])
      joinSingleQuoted sq ds
    else (sq, d :: ds)

def splitOnQuotes (line : List Char) : List (List Char) :=
  let dq := cut ['"'] line
  let (front, dq) := match dq with
    | d :: rest =>
      if !rest.isEmpty ∧ occurs ['\''] d then joinSingleQuoted (cut ['\''] d) rest else ([], dq)
    | [] => ([], [])
  match dq with
  | [] => front
  | d :: rest => front ++ cut ['\''] d ++ rest

def settledValue (v : List Char) : Bool :=
  match v with
  | [] => true
  | c :: _ =>
    [' ', '\t', '\'', '"', '[', '{'].contains c ∨ strip v = "true".toList ∨
      strip v = "false".toList ∨ (floatValue? v).isSome ∨ (dateOf? v).isSome ∨
      (timeParts? v).isSome

def settleCuts (line : List Char) : Nat → Nat → List (List Char) → Bool →
    Reading (List (List Char) × Bool)
  | 0, _, pair, strict => .ok (pair, strict)
  | fuel + 1, cuts, pair, strict =>
    let v := pair.getLastD []
    if settledValue v then .ok (pair, strict)
    else
      let pair' := cutAtMost ['='] (some (cuts + 1)) line
      let v' := pair'.getLastD []
      if v' = v then reject
      else settleCuts line fuel (cuts + 1) pair' (strict && strictlyValid v')

def keyAndValue (line : List Char) : Reading (List Char × List Char × Bool) := do
  let cuts := cutsBefore ['='] false (splitOnQuotes line)
  let pair := cutAtMost ['='] (some cuts) line
  let raw := pair.getLastD []
  let strict := strictlyValid raw
  let raw := if raw.headD ' ' |>.isDigit then without '_' raw else raw
  let pair := pair.dropLast ++ [raw]
  let (pair, strict) ← settleCuts line (line.length + 1) cuts pair strict
  return (strip (glue ['='] pair.dropLast), strip (pair.getLastD []), strict)

def keyParts (key : List Char) : Reading (List (List Char)) :=
  let parts :=
    if key.contains '"' ∨ key.contains '\'' then
      ((splitOnQuotes key).zipIdx.map fun (q, i) =>
        if i % 2 = 1 then [q] else (cut ['.'] q).map strip).flatten
    else cut ['.'] key
  let parts := (parts.reverse.dropWhile List.isEmpty).reverse
  if parts.isEmpty then crash .arrayIndex else .ok parts

def openParts (root : Value) (place : Place) : List (List Char) → Reading (Value × Place)
  | [] => .ok (root, place)
  | part :: rest => do
    if part.isEmpty then return ← openParts root place rest
    let k := String.ofList part
    let root ← if ← hasKey (place.value root) k then pure root
      else store root place k (.table [])
    match ← lookupKey (place.value root) k with
    | some _ => openParts root (place.under k) rest
    | none => openParts root place rest

def startsString : List Char → Bool
  | c :: _ => isQuote c
  | [] => false

def multilineStart (p : List Char) : Reading (Option (Nat × Nat)) := do
  if p.length < 3 then return none
  let (q, offset) ← if p.head? = some '[' ∧ (strip p).getLast? ≠ some ']' ∧
      startsString (strip (inner p)) then do
      let last ← lastString ((cut [','] (strip (p.drop 1))).reverse)
      pure (last, p.length - last.length)
    else pure (p, 0)
  match q with
  | [] => crash .textIndex
  | c :: rest =>
    if !isQuote c then return none
    match rest with
    | [] => crash .textIndex
    | c1 :: rest1 =>
      if c1 ≠ c then return none
      match rest1 with
      | [] => crash .textIndex
      | c2 :: _ =>
        if c2 ≠ c then return none
        if 5 < q.length ∧ q.reverse.take 3 = [c, c, c] then return none
        return some (q.length - 1, offset)
where
  lastString : List (List Char) → Reading (List Char)
    | [] => .ok []
    | [x] => .ok x
    | x :: y :: rest =>
      match x with
      | [] => crash .textIndex
      | c :: _ => if isQuote c then .ok x else lastString ((y ++ ',' :: x) :: rest)
  termination_by xs => xs.length

def needsMore (ab : List Char) : Bool :=
  let bounded := match ab with
    | [] => true
    | c :: _ => ab.getLast? = some c ∧ trailingBackslashes (inner ab) % 2 = 0
  !bounded ∨ (2 < ab.length ∧ ab.getD 0 ' ' = ab.getD 1 ' ' ∧ ab.getD 1 ' ' = ab.getD 2 ' ' ∧
    ab.reverse.getD 1 ' ' ≠ ab.getD 0 ' ' ∧ ab.reverse.getD 2 ' ' ≠ ab.getD 0 ' ')

def closeString (cur : List Char) : List (List Char) → Reading (List Char × List (List Char))
  | [] => if needsMore (strip cur) then crash .arrayIndex else .ok (cur, [])
  | y :: rest =>
    if needsMore (strip cur) then closeString (cur ++ ',' :: y) rest else .ok (cur, y :: rest)

def joinStrings : Nat → List (List Char) → List (List Char) → Reading (List (List Char))
  | fuel + 1, done, x :: y :: rest => do
    let (x', remaining) ← closeString x (y :: rest)
    joinStrings fuel (x' :: done) remaining
  | _, done, rest => .ok (done.reverse ++ rest)

structure BraceScan where
  start : Nat
  stop : Nat
  depth : Int
  inString : Bool
  pieces : List (List Char)

def bracePieces (a : Array Char) : List (List Char) :=
  let limit := a.size - 1
  let rec go : Nat → BraceScan → List (List Char)
    | 0, st => st.pieces.reverse
    | fuel + 1, st =>
      if st.stop < limit then
        let c := a.getD st.stop ' '
        let inString :=
          if isQuote c then
            let flipped := trailingBackslashes (a.toList.take st.stop) % 2 = 1
            if st.inString then flipped else true
          else st.inString
        let depth := if !inString ∧ c = '{' then st.depth + 1 else st.depth
        if inString ∨ c ≠ '}' then go fuel { st with inString, depth, stop := st.stop + 1 }
        else if 1 < depth then go fuel { st with inString, depth := depth - 1, stop := st.stop + 1 }
        else
          let stop := st.stop + 1
          let piece := ((a.toList.drop st.start).take (stop - st.start))
          let next := ((List.range' (stop + 1) (limit - (stop + 1))).find? fun j =>
            a.getD j ' ' = '{').getD (max (stop + 1) limit)
          go fuel { start := next, stop := next + 1, depth, inString,
                    pieces := piece :: st.pieces }
      else st.pieces.reverse
  go a.size ⟨1, 2, if a.getD 1 ' ' = '{' then 1 else 0, false, []⟩

def bracketPieces (cs : List Char) : List (List Char) :=
  let step (st : Int × List Char × List (List Char)) (c : Char) :=
    let (depth, cur, done) := st
    if c = '[' then (depth + 1, c :: cur, done)
    else if c = ']' then (depth - 1, c :: cur, done)
    else if c = ',' ∧ depth = 0 then (depth, [], cur.reverse :: done)
    else (depth, c :: cur, done)
  let (_, cur, done) := cs.foldl step (0, [], [])
  (cur.reverse :: done).reverse

def inlineGroups : List (List Char) → Reading (List (List Char))
  | [] => .ok []
  | g :: rest =>
    match cutAtMost ['='] (some 1) g with
    | [_, raw] =>
      match strip raw with
      | [] => crash .textIndex
      | c :: more =>
        let value := c :: more
        let last := value.getLast?.getD c
        let complete := (c = last ∧ isQuote c) ∨ "-0123456789".toList.contains c ∨
          value = "true".toList ∨ value = "false".toList ∨ (c = '[' ∧ last = ']') ∨
          (c = '{' ∧ last = '}')
        if complete then (g :: ·) <$> inlineGroups rest
        else
          match rest with
          | r :: rest' => inlineGroups ((g ++ ',' :: r) :: rest')
          | [] => reject
    | _ => reject
termination_by gs => gs.length

def numberValue (v : List Char) : Reading (Value × Kind) :=
  let (neg, body) := splitSign v
  let body := without '_' body
  let lowered := Text.lower (String.ofList body)
  let asFloat : Reading (Value × Kind) :=
    match floatValue? body with
    | some x => .ok (.float (if neg then 0 - x else x), .float)
    | none => reject
  if body.contains '.' ∨ (!body.contains 'x' ∧ (body.contains 'e' ∨ body.contains 'E')) then
    if body.contains '.' ∧ (cutAtMost ['.'] (some 1) body).getD 1 [] = [] then reject
    else if !(body.headD ' ').isDigit then reject
    else asFloat
  else if lowered.length = 3 ∧ (lowered = "inf" ∨ lowered = "nan") then asFloat
  else
    match intValue? body with
    | some n => .ok (.int (if neg then 0 - n else n), .int)
    | none => reject

mutual

/-- The value a text writes, and its kind; `strict` says the text passed the number
check. -/
def loadValue : Nat → List Char → Bool → Reading (Value × Kind)
  | 0, _, _ => reject
  | fuel + 1, v, strict => do
    let word := Text.lower (String.ofList v)
    match v with
    | [] => reject
    | c :: _ =>
      if v = "true".toList then return (.bool true, .bool)
      if word = "true" then reject
      if v = "false".toList then return (.bool false, .bool)
      if word = "false" then reject
      if isQuote c then return (.str (← quotedText v), .str)
      if c = '[' then return (← loadArray fuel v, .array)
      if c = '{' then return (← loadInline fuel v (.table []) Place.root, .table)
      match timeParts? v with
      | some (h, m, s, micro) =>
        if h < 24 ∧ m < 60 ∧ s < 60 then return (.str (timeText h m s micro), .time)
        reject
      | none =>
        match dateOf? v with
        | some d => return (.str d, .date)
        | none => if strict then numberValue v else reject

def loadArray : Nat → List Char → Reading Value
  | 0, _ => reject
  | fuel + 1, a => do
    let a := strip a
    let inside := inner a
    let items ← if !inside.contains '[' ∨ strip ((cut ['['] inside).headD []) ≠ [] then do
        let strArray := startsString (strip inside)
        let pieces :=
          if (strip inside).head? = some '{' then bracePieces a.toArray else cut [','] inside
        if strArray then joinStrings pieces.length [] pieces else pure pieces
      else pure (bracketPieces inside)
    let step (acc : List Value × Option Kind) (item : List Char) :
        Reading (List Value × Option Kind) := do
      let item := strip item
      if item.isEmpty then return acc
      let (x, k) ← loadValue fuel item true
      match acc.2 with
      | some k0 => if k ≠ k0 then reject else return (x :: acc.1, acc.2)
      | none => return (x :: acc.1, some k)
    let (xs, _) ← items.foldlM step ([], none)
    return .array xs.reverse

def loadInline : Nat → List Char → Value → Place → Reading Value
  | 0, _, _, _ => reject
  | fuel + 1, line, root, place => do
    let cands := cut [','] (inner line)
    let cands := match cands with
      | [c] => if (strip c).isEmpty then [] else [c]
      | cs => cs
    let groups ← inlineGroups cands
    let step (st : Value × Bool) (g : List Char) : Reading (Value × Bool) := do
      if st.2 then return st
      let (root, pending) ← loadLine fuel g st.1 place
      return (root, pending.isSome)
    let (root, _) ← groups.foldlM step (root, false)
    return root

/-- The document after a key line read into the table at `place`, and the multi-line
string it leaves open, if any. -/
def loadLine : Nat → List Char → Value → Place → Reading (Value × Option Pending)
  | 0, _, _, _ => reject
  | fuel + 1, line, root, place => do
    let (key, value, strict) ← keyAndValue line
    let (root, place, key) ← if key.contains '.' then do
        let parts ← keyParts key
        let (root, place) ← openParts root place parts.dropLast
        pure (root, place, strip (parts.getLastD []))
      else
        match key with
        | [] => crash .textIndex
        | c :: _ =>
          if isQuote c ∧ key.getLast? = some c then pure (root, place, ← unescape (inner key))
          else pure (root, place, key)
    let start ← multilineStart value
    let loaded ← match start with
      | some _ => pure none
      | none => some <$> loadValue fuel value strict
    let k := String.ofList key
    match place.value root with
    | .table kvs =>
      if (Value.lookup kvs k).isSome then reject
      match start, loaded with
      | some (last, _), _ =>
        let backslash := min (trailingBackslashes value) (last + 1) % 2 = 1
        let text := if backslash then value.dropLast else value ++ ['\n']
        if k.isEmpty then crash .valueUnset
        return (root, some ⟨k, text, backslash⟩)
      | none, some (x, _) => return (← store root place k x, none)
      | none, none => reject
    | _ => reject

end

end Toml

end Abacus
