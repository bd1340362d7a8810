import Litmus.Loose.Location

/-!
# Initial states that need not fit

The initial state of a list of assignments between any forms. Registers and names are whatever the
locations and constants hold.
-/

namespace Litmus.Loose

/-- The register value of a constant. -/
def registerValue : Form → Except Misfit Form
  | .node "Symbolic" [name] => .ok (.node "RegisterValue" [name])
  | .node "Concrete" [text] => .ok (.node "RegisterValue" [text])
  | .node "Label" [_, name] => .ok (.node "LabelValue" [name])
  | form => .error (.refused (.initialValue form))

/-- The name that a constant is, if it is one. -/
def symbol? : Form → Option Form
  | .node "Symbolic" [name] => some name
  | _ => none

/-- What the initial state keeps of some assignments: the symbolic names among the values, and the
register, thread and value of each assignment to a register. -/
def assignments : List Form → Except Misfit (List Form × List Form)
  | [] => .ok ([], [])
  | assignment :: rest => do
    let (location, value) ← assignment.pair
    match ← resolve location with
    | .node "Register" [thread, name] => do
      let kept ← registerValue value
      let (symbols, registers) ← assignments rest
      return ((symbol? value).toList ++ symbols, .sequence [thread, name, kept] :: registers)
    | .absent => do
      -- The spelling is needed for a notice.
      let _ ← spellingInText location
      assignments rest
    | _ => throw (.refused (.unsupported .initialMemory))

/-- The initial state of a list of assignments. -/
def initialState (init : List Form) : Except Misfit Form := do
  let (symbols, registers) ← assignments init
  return .node "InitialState" [.ofMembers symbols, .sequence registers]

/-- The symbolic names of an initial state in increasing order. -/
def sortedSymbols (state : Form) : Except Misfit (List Form) := do
  match ← (← state.field "symbolic_values").items with
  | first :: second :: rest =>
    if (first :: second :: rest).all (·.text?.isSome) then return first :: second :: rest
    else if (first :: second :: rest).all (·.number?.isSome) then
      return (first :: second :: rest).mergeSort fun a b => a.number?.getD 0 ≤ b.number?.getD 0
    else throw (.wrongShape (.order second.shape first.shape))
  | symbols => return symbols

/-- The register of a thread and its value, if the form is an assignment to one. -/
def own? (thread : Form) : Form → Option (Form × Form)
  | .sequence [owner, name, value] => if owner == thread then some (name, value) else none
  | _ => none

/-- The registers of one thread, each with the text of its value. -/
def registersOf (state thread : Form) : Except Misfit (List (Form × String)) := do
  let registers ← (← state.field "registers").items
  (registers.filterMap (own? thread)).mapM fun (name, value) => return (name, ← value.plain)

end Litmus.Loose
