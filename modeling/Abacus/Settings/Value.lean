import Abacus.Binary.Shortest

/-!
# Settings values

Settings are a tree of values as a configuration file or a JSON object holds them: null,
booleans, integers, floats, text, arrays and tables. A table keeps its keys in the order
they were written.

A value counts as true unless it is null, false, a zero, empty text, an empty array or an
empty table. `Value.deepMerge` lays one table over another: where both sides hold a table
under a key the two are merged in turn, and otherwise the value laid over wins.
-/

namespace Abacus

/-- A settings value. -/
inductive Value where
  | null
  | bool (b : Bool)
  | int (n : Int)
  | float (x : Float)
  | str (s : String)
  | array (xs : List Value)
  | table (kvs : List (String × Value))
  deriving Inhabited

namespace Value

def kindName : Value → String
  | .null => "NoneType"
  | .bool _ => "bool"
  | .int _ => "int"
  | .float _ => "float"
  | .str _ => "str"
  | .array _ => "list"
  | .table _ => "dict"

def truthy : Value → Bool
  | .null => false
  | .bool b => b
  | .int n => n != 0
  | .float x => !(x == 0)
  | .str s => !s.isEmpty
  | .array xs => !xs.isEmpty
  | .table kvs => !kvs.isEmpty

def setEntry (kvs : List (String × Value)) (key : String) (value : Value) :
    List (String × Value) :=
  if kvs.any fun kv => kv.1 == key then
    kvs.map fun kv => if kv.1 == key then (key, value) else kv
  else kvs ++ [(key, value)]

def lookup (kvs : List (String × Value)) (key : String) : Option Value :=
  (kvs.reverse.find? fun kv => kv.1 == key).map Prod.snd

def get? (v : Value) (key : String) : Option Value :=
  match v with
  | .table kvs => lookup kvs key
  | _ => none

/-- The value at a path of keys through nested tables. -/
def atPath? : Value → List String → Option Value
  | v, [] => some v
  | .table kvs, k :: ks => (lookup kvs k).bind fun v => atPath? v ks
  | _, _ :: _ => none

mutual

/-- `top` laid over `base`: two tables are merged key by key, and otherwise `top` wins. -/
def deepMerge (base : Value) : Value → Value
  | .table o =>
    match base with
    | .table b => .table (mergeEntries b o)
    | _ => .table o
  | other => other

def mergeEntries (base : List (String × Value)) : List (String × Value) → List (String × Value)
  | [] => base
  | (k, v) :: rest =>
    let merged := match lookup base k with
      | some b => deepMerge b v
      | none => v
    mergeEntries (setEntry base k merged) rest

end

inductive MergeError where
  | noCopy (kind : String)
  | noEntries (kind : String)
  | arrayKeys
  deriving DecidableEq, Inhabited

def MergeError.kind : MergeError → String
  | .noCopy _ | .noEntries _ => "AttributeError"
  | .arrayKeys => "TypeError"

def MergeError.message : MergeError → String
  | .noCopy k => "'" ++ k ++ "' object has no attribute 'copy'"
  | .noEntries k => "'" ++ k ++ "' object has no attribute 'items'"
  | .arrayKeys => "list indices must be integers or slices, not str"

/-- `top` laid over `base` when both are tables, as `deepMerge` does. Below a table or an
array may stand, since both can be copied; above only a table, whose entries are laid over;
an array below stays as it is under an empty table and cannot take any entry. -/
def mergeOver (base top : Value) : Except MergeError Value :=
  match base, top with
  | .table _, .table _ => .ok (deepMerge base top)
  | .array xs, .table kvs => if kvs.isEmpty then .ok (.array xs) else .error .arrayKeys
  | .table _, other | .array _, other => .error (.noEntries other.kindName)
  | other, _ => .error (.noCopy other.kindName)

end Value

end Abacus
