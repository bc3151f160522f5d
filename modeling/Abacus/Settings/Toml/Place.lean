import Abacus.Settings.Toml.Pieces
import Abacus.Settings.Value

/-!
# Places in a settings document

While a settings file is read, the reader stands at a place in the document built so far:
the table the next key goes into. A place is a path of steps from the document's root, each
step either the value under a key or the last item of an array; a place can also be a piece
of text taken out of the document, when a step went into text.

Every step is taken by the rules of the format's reader, which treats all values alike:
looking a key up in a table finds its value or nothing; the same look-up in an array, in
text or in a number is an error (`Crash`); asking whether a key is among an array's items
compares it with each item, and among text's, whether it stands in the text. These errors
end the reading altogether, unlike malformed text, after which the reader falls back to
the default settings (`Failure.rejected`).
-/

namespace Abacus

namespace Toml

/-- An error of the reader itself, which ends the reading. -/
inductive Crash where
  | notSubscriptable (kind : String)
  | arrayKey
  | textKey
  | notIterable (kind : String)
  | noItemAssignment (kind : String)
  | noAppend (kind : String)
  | arrayIndex
  | textIndex
  | valueUnset
  deriving DecidableEq, Inhabited

namespace Crash

def kind : Crash → String
  | .notSubscriptable _ | .arrayKey | .textKey | .notIterable _ | .noItemAssignment _ =>
    "TypeError"
  | .noAppend _ => "AttributeError"
  | .arrayIndex | .textIndex => "IndexError"
  | .valueUnset => "UnboundLocalError"

def message : Crash → String
  | .notSubscriptable k => "'" ++ k ++ "' object is not subscriptable"
  | .arrayKey => "list indices must be integers or slices, not str"
  | .textKey => "string indices must be integers, not 'str'"
  | .notIterable k => "argument of type '" ++ k ++ "' is not iterable"
  | .noItemAssignment k => "'" ++ k ++ "' object does not support item assignment"
  | .noAppend k => "'" ++ k ++ "' object has no attribute 'append'"
  | .arrayIndex => "list index out of range"
  | .textIndex => "string index out of range"
  | .valueUnset => "cannot access local variable 'value' where it is not associated with a value"

end Crash

inductive Failure where
  | rejected
  | crash (c : Crash)
  deriving DecidableEq, Inhabited

abbrev Reading := Except Failure

def crash {α : Type} (c : Crash) : Reading α := .error (.crash c)

def reject {α : Type} : Reading α := .error .rejected

inductive Step where
  | key (k : String)
  | last
  deriving DecidableEq, Inhabited

/-- Where the reader stands. -/
inductive Place where
  | node (path : List Step)
  | text (s : String)
  deriving DecidableEq, Inhabited

def Place.root : Place := .node []

def valueAt : Value → List Step → Option Value
  | v, [] => some v
  | .table kvs, .key k :: rest => (Value.lookup kvs k).bind (valueAt · rest)
  | .array xs, .last :: rest => xs.getLast?.bind (valueAt · rest)
  | _, _ => none

def updateAt (f : Value → Value) : Value → List Step → Value
  | v, [] => f v
  | .table kvs, .key k :: rest =>
    match Value.lookup kvs k with
    | some v => .table (Value.setEntry kvs k (updateAt f v rest))
    | none => .table kvs
  | .array xs, .last :: rest =>
    match xs.getLast? with
    | some v => .array (xs.dropLast ++ [updateAt f v rest])
    | none => .array xs
  | v, _ => v

def Place.value (root : Value) : Place → Value
  | .node path => (valueAt root path).getD .null
  | .text s => .str s

def lookupKey (v : Value) (k : String) : Reading (Option Value) :=
  match v with
  | .table kvs => .ok (Value.lookup kvs k)
  | .array _ => crash .arrayKey
  | .str _ => crash .textKey
  | other => crash (.notSubscriptable other.kindName)

def hasKey (v : Value) (k : String) : Reading Bool :=
  match v with
  | .table kvs => .ok (kvs.any fun kv => kv.1 == k)
  | .array xs => .ok (xs.any fun x => match x with | .str s => s == k | _ => false)
  | .str s => .ok (occurs k.toList s.toList)
  | other => crash (.notIterable other.kindName)

def canStore (v : Value) : Reading Unit :=
  match v with
  | .table _ => .ok ()
  | .array _ => crash .arrayKey
  | other => crash (.noItemAssignment other.kindName)

def store (root : Value) (p : Place) (k : String) (x : Value) : Reading Value := do
  canStore (p.value root)
  match p with
  | .node path =>
    return updateAt (fun v => match v with
      | .table kvs => .table (Value.setEntry kvs k x)
      | other => other) root path
  | .text _ => return root

def Place.under (p : Place) (k : String) : Place :=
  match p with
  | .node path => .node (path ++ [.key k])
  | .text t => .text t

def Place.lastOf (root : Value) (p : Place) : Reading (Option Place) :=
  match p.value root with
  | .array xs =>
    if xs.isEmpty then crash .arrayIndex
    else match p with
      | .node path => .ok (some (.node (path ++ [.last])))
      | .text t => .ok (some (.text t))
  | .str s =>
    match s.toList.getLast? with
    | some c => .ok (some (.text (String.singleton c)))
    | none => crash .textIndex
  | .table _ => .ok none
  | other => crash (.notSubscriptable other.kindName)

end Toml

end Abacus
