import Abacus.Text.Space

/-!
# Cutting text into pieces

The settings reader works on text the way its format's reader does: by cutting a line at a
separator and gluing pieces back together. This module holds those operations on lists of
characters.

* `cutAtMost sep limit s` cuts `s` at the first `limit` occurrences of `sep`, read from the
  left, and `cut sep s` at all of them; a text without `sep` is one piece.
* `glue sep ps` joins pieces with `sep` between them, so gluing the pieces of a cut gives
  the text back (`glue_cutAtMost`).
* `occurs sub s` says that `sub` stands somewhere in `s`; `count sub s` counts its
  occurrences that do not overlap.
-/

namespace Abacus

namespace Toml

def afterPrefix? (sep s : List Char) : Option (List Char) :=
  if sep.isPrefixOf s then some (s.drop sep.length) else none

theorem length_afterPrefix? {sep s r : List Char} (h : afterPrefix? sep s = some r) :
    r.length = s.length - sep.length := by
  unfold afterPrefix? at h
  split at h
  · cases h
    simp
  · cases h

def cutFrom (d : Char) (ds : List Char) (limit : Option Nat) (acc : List Char) :
    List Char → List (List Char)
  | [] => [acc.reverse]
  | c :: rest =>
    if limit = some 0 then [acc.reverse ++ c :: rest]
    else
      match h : afterPrefix? (d :: ds) (c :: rest) with
      | some r => acc.reverse :: cutFrom d ds (limit.map (· - 1)) [] r
      | none => cutFrom d ds limit (c :: acc) rest
termination_by s => s.length
decreasing_by
  · have := length_afterPrefix? h
    simp only [List.length_cons] at this ⊢
    omega
  · simp

def cutAtMost (sep : List Char) (limit : Option Nat) (s : List Char) : List (List Char) :=
  match sep with
  | [] => [s]
  | d :: ds => cutFrom d ds limit [] s

/-- The pieces of `s` between all occurrences of `sep`. -/
def cut (sep s : List Char) : List (List Char) := cutAtMost sep none s

def glue (sep : List Char) (ps : List (List Char)) : List Char :=
  sep.intercalate ps

theorem cutFrom_ne_nil (d : Char) (ds : List Char) (limit : Option Nat) (acc s : List Char) :
    cutFrom d ds limit acc s ≠ [] := by
  fun_induction cutFrom d ds limit acc s with
  | case1 => simp
  | case2 => simp
  | case3 => simp
  | case4 _ _ _ _ _ _ ih => exact ih

theorem glue_cutFrom (d : Char) (ds : List Char) (limit : Option Nat) (acc s : List Char) :
    glue (d :: ds) (cutFrom d ds limit acc s) = acc.reverse ++ s := by
  fun_induction cutFrom d ds limit acc s with
  | case1 acc => simp [glue]
  | case2 => simp [glue]
  | case3 limit acc c rest _ r h ih =>
    unfold glue at ih ⊢
    rw [List.intercalate_cons_of_ne_nil (cutFrom_ne_nil _ _ _ _ _), ih]
    unfold afterPrefix? at h
    split at h
    · rename_i hp
      cases h
      have := List.prefix_iff_eq_append.mp (List.isPrefixOf_iff_prefix.mp hp)
      simpa using congrArg (acc.reverse ++ ·) this
    · cases h
  | case4 limit acc c rest _ _ ih =>
    rw [ih]
    simp

/-- Cutting at a separator loses nothing: the pieces glued back are the text. -/
theorem glue_cutAtMost (sep : List Char) (limit : Option Nat) (s : List Char) :
    glue sep (cutAtMost sep limit s) = s := by
  cases sep with
  | nil => simp [cutAtMost, glue]
  | cons d ds => simp [cutAtMost, glue_cutFrom]

def count (sub s : List Char) : Nat := (cut sub s).length - 1

def occurs (sub s : List Char) : Bool :=
  match sub with
  | [] => true
  | _ => 0 < count sub s

def strip (s : List Char) : List Char := Text.trimSpaces s

def without (c : Char) (s : List Char) : List Char := s.filter (· != c)

def inner (s : List Char) : List Char := (s.drop 1).dropLast

end Toml

end Abacus
