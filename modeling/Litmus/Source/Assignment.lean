import Litmus.Source.Lexeme
import Litmus.Text.Lines

/-!
# Initial assignments

The initial state is a list of assignments between semicolons, each `location = constant` with an
optional type in front: `int x = 1`. Any blanks may stand between the words.

A name is the type of what follows unless `=` or `[` comes next: then it is the location itself.
-/

namespace Litmus.Source

open Litmus.Text

/-- The text after the type of an assignment, if it has one. -/
def skipType (s : List Char) : List Char :=
  match name s with
  | none => s
  | some (_, rest) =>
    match skipBlanks rest with
    | '=' :: _ => s
    | '[' :: _ => s
    | _ => rest

/-- One assignment, which is the whole text. -/
def assignment? (s : List Char) : Option (Location × Constant) := do
  let s := skipType (skipBlanks s)
  let (place, s) ← location (skipBlanks s)
  let s ← spacedMark '=' s
  let (value, s) ← constant (skipBlanks s)
  if (skipBlanks s).isEmpty then some (place, value) else none

/-- The texts of the assignments of an initial state; empty ones are ignored. -/
def assignmentTexts (s : List Char) : List (List Char) :=
  ((splitAt ';' s).map trim).filter (!·.isEmpty)

end Litmus.Source
