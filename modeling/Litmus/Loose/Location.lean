import Litmus.Form.Text

/-!
# Locations that need not fit

What is answered for a form where a location or a constant is meant. A form that is neither is
refused by the text that it stands for, and one whose fields have other shapes is taken as far as it
goes.
-/

namespace Litmus.Loose

/-- The spelling of a constant. It is a text unless the constant holds something else. -/
def constantSpelling : Form → Except Misfit Form
  | .node "Concrete" [text] => .ok text
  | .node "Symbolic" [name] => .ok name
  | .node "Label" [thread, name] => do
    let thread ← thread.decimal
    let name ← name.plain
    return .text ("P" ++ thread ++ ":" ++ name)
  | form => .error (.noField form.shape "pretty")

/-- The spelling of a location. -/
def spelling : Form → Except Misfit Form
  | .node "LocationReg" [thread, name] => do
    let thread ← thread.decimal
    let name ← name.plain
    return .text (thread ++ ":" ++ name)
  | .node "LocationSReg" [name] => do
    let name ← name.inserted
    return .text ("%" ++ name)
  | .node "LocationGlobal" [address] => constantSpelling address
  | .node "LocationDeref" [base, index] => do
    let base ← constantSpelling base
    let base ← base.plain
    let index ← index.decimal
    return .text (base ++ "[" ++ index ++ "]")
  | form => do
    let text ← form.plain
    return .text text

/-- The spelling of a location as it stands in a message. -/
def spellingInText (location : Form) : Except Misfit String := do
  let spelling ← spelling location
  spelling.inserted

/-- What a location comes down to: a register, a name in memory, or nothing for a cell. -/
def resolve : Form → Except Misfit Form
  | .node "LocationReg" [thread, name] => .ok (.node "Register" [thread, name])
  | .node "LocationGlobal" [.node "Symbolic" [name]] => .ok (.node "SymbolicLocation" [name])
  | .node "LocationDeref" [_, _] => .ok .absent
  | form => do
    let spelling ← spellingInText form
    throw (.refused (.location spelling))

end Litmus.Loose
