import Litmus.Form.Misfit

/-!
# The text of a form

In running text a form stands for a text: a text for itself, an atom, a list or the value of a
register for what it spells, and every other form for itself in full. A sequence that is put into a
text alone has to have a single item, which is put there.
-/

namespace Litmus.Form

/-- The text that a node of a simple kind spells: its only field. -/
def ownText : Form → Except Misfit String
  | .text value => .ok value
  | form => .error (.wrongShape (.ownText form.shape))

mutual

/-- The text that a form stands for. -/
def plain : Form → Except Misfit String
  | .text value => .ok value
  | .node "SAtom" [value] => value.ownText
  | .node "RegisterValue" [value] => value.ownText
  | .node "LabelValue" [.sequence items] => do
    let target ← plainOnly items
    return target ++ ":"
  | .node "LabelValue" [target] => do
    let target ← plain target
    return target ++ ":"
  | .node "SList" [.sequence items] => do
    let texts ← plainAll items
    return "(" ++ String.intercalate " " texts ++ ")"
  | form => .ok form.debug

/-- The text of the only form of a list. -/
def plainOnly : List Form → Except Misfit String
  | [] => .error (.wrongShape .noItem)
  | item :: items => do
    let only ← plain item
    if items.isEmpty then return only else throw (.wrongShape .severalItems)

/-- The texts that the forms of a list stand for. -/
def plainAll : List Form → Except Misfit (List String)
  | [] => .ok []
  | item :: items => do
    let first ← plain item
    let rest ← plainAll items
    return first :: rest

end

/-- The text of a form that is put into a text alone. -/
def inserted : Form → Except Misfit String
  | .sequence items => plainOnly items
  | form => form.plain

end Litmus.Form
