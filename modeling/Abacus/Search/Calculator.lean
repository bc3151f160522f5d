import Abacus.Display
import Abacus.Evaluate
import Abacus.Search.Item
import Abacus.Settings.Value
import Abacus.Text.Compat
import Abacus.Text.Integer

/-!
# The calculator in the search box

The calculator answers a query that consists of arithmetic characters only: digits, the
point, the five operators, parentheses and blanks, after compatibility variants (full-width
digits, superscripts, typographic spaces) have been folded into them and blanks trimmed.
A query that begins with `?` asks for a search instead. The answer is one item with the
value, formatted as the settings say, or no item while the text is no complete expression.

The settings are read leniently: every setting that cannot be used falls back to its
default. Only settings that are no table at all, and a fraction digits setting that is an
infinite float, cannot be read.
-/

namespace Abacus

namespace Search

/-- The calculator's settings. -/
structure CalcConfig where
  forced : Option Notation
  places : Nat
  group : Bool
  clipboard : Value
  deriving Inhabited


inductive SetupError where
  | notATable (kind : String)
  | infiniteDigits
  deriving DecidableEq, Inhabited

def SetupError.kind : SetupError → String
  | .notATable _ => "AttributeError"
  | .infiniteDigits => "OverflowError"

def SetupError.message : SetupError → String
  | .notATable k => "'" ++ k ++ "' object has no attribute 'get'"
  | .infiniteDigits => "cannot convert float infinity to integer"

def settingInt? : Value → Except SetupError (Option Int)
  | .int n => .ok (some n)
  | .bool b => .ok (some (if b then 1 else 0))
  | .float x =>
    if x.isNaN then .ok none
    else if x.isInf then .error .infiniteDigits
    else .ok (some (Binary.Word.ofFloat x).truncate)
  | .str s => .ok (Text.readInt? s)
  | _ => .ok none

def notationSetting : Option Value → Option Notation
  | some (.str s) =>
    match Notation.ofName? s with
    | .ok n => n
    | .error _ => none
  | _ => none

def placesSetting : Option Value → Except SetupError Nat
  | none => .ok 10
  | some v =>
    match settingInt? v with
    | .ok (some n) => .ok (if n < 0 then 10 else n.toNat)
    | .ok none => .ok 10
    | .error e => .error e

namespace CalcConfig

/-- The calculator's settings from the table under `calculator`; anything but a table there
counts as an empty one. -/
def ofSettings (settings : Value) : Except SetupError CalcConfig :=
  match settings with
  | .table _ =>
    let table := match settings.get? "calculator" with
      | some (.table kvs) => Value.table kvs
      | _ => Value.table []
    match placesSetting (table.get? "max_fraction_digits") with
    | .error e => .error e
    | .ok places =>
      .ok { forced := notationSetting (table.get? "notation")
            places := places
            group := ((table.get? "group_digits").map Value.truthy).getD true
            clipboard := (table.get? "clipboard_command").getD (.str "wl-copy") }
  | other => .error (.notATable other.kindName)

end CalcConfig

def isArithChar (c : Char) : Bool :=
  c.isDigit ∨ c = '.' ∨ (Op.ofChar? c).isSome ∨ c = '(' ∨ c = ')'

def calcText (q : String) : String := Text.trim (Text.fold q)

/-- The calculator takes the query: it is arithmetic text, not empty and not a search. -/
def calcAccepts (q : String) : Bool :=
  match (calcText q).toList with
  | [] => false
  | '?' :: _ => false
  | cs => cs.all fun c => isArithChar c ∨ Text.isSpace c

/-- The calculator's answer: the value shown as the settings say, described by the text it
came from, and copied without grouping; no item when the text has no value. -/
def calcResults (cfg : CalcConfig) (q : String) : Except Display.Refusal (List Item) :=
  let expr := calcText q
  match evaluate expr cfg.forced with
  | none => .ok []
  | some v =>
    match Display.format v cfg.places cfg.group, Display.format v cfg.places false with
    | .ok title, .ok plain =>
      .ok [⟨title, "= " ++ expr, "accessories-calculator", "calculator", some plain⟩]
    | .error f, _ => .error f
    | _, .error f => .error f

end Search

end Abacus
