import Abacus.Settings.Toml

/-!
# Loading settings

Settings come from a TOML file laid over the defaults. A missing file, one that is not
UTF-8 and one that is no TOML all give the defaults alone; an error of the file's reader
is passed on.
-/

namespace Abacus

namespace Settings

/-- The default settings: notation detected, ten fraction digits, grouped integer digits,
and `wl-copy` to copy a value. -/
def defaults : Value :=
  .table [("calculator", .table [("notation", .str "auto"), ("max_fraction_digits", .int 10),
    ("group_digits", .bool true), ("clipboard_command", .str "wl-copy")])]

/-- The settings from the bytes of a file, or the defaults when there is no file. -/
def load (file : Option ByteArray) : Except Toml.Crash Value :=
  match file.bind String.fromUTF8? with
  | none => .ok defaults
  | some text =>
    match Toml.read text with
    | .ok t => .ok (Value.deepMerge defaults t)
    | .error .rejected => .ok defaults
    | .error (.crash c) => .error c

end Settings

end Abacus
