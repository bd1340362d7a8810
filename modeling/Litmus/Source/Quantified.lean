import Litmus.Source.Grouping
import Litmus.Text.Words

/-!
# The final condition

A condition is a quantifier and a proposition: `exists`, `~exists` or `forall`. The word `locations`
and a list in brackets may stand before it; the list is skipped. In it brackets nest, and a quoted
string hides the brackets inside it.
-/

namespace Litmus.Source

open Litmus.Text

/-! ## Skipping a list in brackets -/

/-- The text after a quoted string whose opening quote has been read. A doubled quote and an escaped
character belong to the string; a line end does not. -/
def afterString? (quote : Char) : List Char → Option (List Char)
  | [] => none
  | '\\' :: 'x' :: h :: s => if isHexDigit h then afterString? quote s else none
  | '\\' :: c :: s => if c = 'x' then none else afterString? quote s
  | [c] => if c = quote then some [] else none
  | c :: d :: s =>
    if c = quote then if d = quote then afterString? quote s else some (d :: s)
    else if c = '\n' ∨ c = '\r' then none
    else afterString? quote (d :: s)

@[simp] theorem afterString?_nil (quote : Char) : afterString? quote [] = none := by
  rw [afterString?]

theorem length_afterString? {quote : Char} {s rest : List Char}
    (h : afterString? quote s = some rest) : rest.length < s.length := by
  fun_induction afterString? quote s generalizing rest <;> grind

/-- The text after the bracket that closes a list, `depth` further brackets being open in it. -/
def afterBrackets? (depth : Nat) (s : List Char) : Option (List Char) :=
  match s with
  | [] => none
  | c :: s =>
    if c = '[' then afterBrackets? (depth + 1) s
    else if c = ']' then
      match depth with
      | 0 => some s
      | depth + 1 => afterBrackets? depth s
    else if c = '"' ∨ c = '\'' then
      match _h : afterString? c s with
      | some rest => afterBrackets? depth rest
      | none => afterBrackets? depth s
    else afterBrackets? depth s
termination_by s.length
decreasing_by
  all_goals simp only [List.length_cons]
  any_goals omega
  have := length_afterString? _h
  omega

/-- The text after a list of locations, if it starts with one. -/
def skipLocations (s : List Char) : List Char :=
  match keyword "locations".toList s with
  | none => s
  | some rest =>
    match (spacedMark '[' rest).bind (afterBrackets? 0) with
    | none => s
    | some rest => rest

/-! ## Quantifiers -/

/-- The quantifier that a text starts with, as what it makes of a proposition. -/
def quantifier? (s : List Char) : Option ((Proposition → Condition) × List Char) :=
  match s with
  | '~' :: rest =>
    let rest := rest.dropWhile isSpace
    if "exists".toList.isPrefixOf rest && atWordEnd (rest.drop 6) then
      some (.noState, rest.drop 6)
    else none
  | _ =>
    match keyword "exists".toList s with
    | some rest => some (.someState, rest)
    | none => (keyword "forall".toList s).map fun rest => (.everyState, rest)

/-! ## Conditions -/

/-- The condition that a whole text is. -/
def condition? (s : List Char) : Option Condition := do
  let s := skipBlanks (skipLocations (skipBlanks s))
  let (quantify, s) ← quantifier? s
  let pieces ← pieces? s
  let body ← grouped? pieces
  return quantify body

end Litmus.Source
