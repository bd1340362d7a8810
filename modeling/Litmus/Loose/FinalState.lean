import Litmus.Loose.Location

/-!
# Final states that need not fit

The output slots and the assertion of a condition that may have any forms in its places.
-/

namespace Litmus.Loose

/-! ## Mentioned locations -/

mutual

/-- What a proposition mentions, from left to right and with repetitions; cells are absent. -/
def mentions : Form → Except Misfit (List Form)
  | .node "Atom" [location, _] => do
    let location ← resolve location
    return [location]
  | .node "AtomLL" [left, right] => do
    let left ← resolve left
    let right ← resolve right
    return [left, right]
  | .node "Not" [operand] => mentions operand
  | .node "And" [.sequence operands] => mentionsOfAll operands
  | .node "Or" [.sequence operands] => mentionsOfAll operands
  | .node "Implies" [left, right] => do
    let left ← mentions left
    let right ← mentions right
    return left ++ right
  | form => .error (.refused (.proposition form))

/-- What the propositions of a list mention. -/
def mentionsOfAll : List Form → Except Misfit (List Form)
  | [] => .ok []
  | operand :: operands => do
    let first ← mentions operand
    let rest ← mentionsOfAll operands
    return first ++ rest

end

/-- What a proposition mentions, each once, in the order of first mention. -/
def locations (proposition : Form) : Except Misfit (List Form) := do
  let mentions ← mentions proposition
  return Form.distinct (mentions.filter (!· == .absent))

/-! ## Output slots -/

/-- An output slot of a register that may be anything. -/
structure Output where
  thread : Form
  name : String
  register : Form

/-- The form of an output slot. -/
def Output.form (output : Output) : Form :=
  .sequence [output.thread, .text output.name, output.register]

/-- The thread and the name of a register, if the form is one. -/
def register? : Form → Option (Form × Form)
  | .node "Register" [thread, name] => some (thread, name)
  | _ => none

/-- A slot for each register of a list, numbered from zero. -/
def outputsOf (locations : List Form) : List Output :=
  (locations.filterMap register?).zipIdx.map fun ((thread, name), n) => ⟨thread, slotName n, name⟩

/-- The name of the slot of a register. -/
def outputOf (outputs : List Output) (thread name : Form) : Except Misfit String :=
  match outputs.find? fun output => output.thread == thread && output.register == name with
  | some output => .ok output.name
  | none => do
    let thread ← thread.decimal
    let name ← name.plain
    throw (.unknownOutput (thread ++ ":" ++ name))

/-! ## Assertions -/

/-- An atom. -/
def atom (text : Form) : Form :=
  .node "SAtom" [text]

/-- A list that starts with a word. -/
def list (word : String) (items : List Form) : Form :=
  .node "SList" [.sequence (atom (.text word) :: items)]

/-- The term for what a location holds in a final state. -/
def reference (location : Form) : Except Misfit Form := do
  match ← resolve location with
  | .node "Register" [thread, name] => do
    let thread ← thread.plain
    return list "register" [atom name, atom (.text thread)]
  | .node "SymbolicLocation" [name] => return list "last_write_to" [atom name]
  | _ => throw (.refused (.unsupported .finalLocation))

/-- The term for a value. -/
def value : Form → Except Misfit Form
  | .node "Concrete" [text] => .ok (atom text)
  | _ => .error (.refused (.unsupported .finalValue))

mutual

/-- The term for a proposition. -/
def assertion : Form → Except Misfit Form
  | .node "Atom" [location, constant] => do
    let location ← reference location
    let constant ← value constant
    return list "=" [location, constant]
  | .node "AtomLL" [_, _] => .error (.refused (.unsupported .agreement))
  | .node "Not" [operand] => do
    let operand ← assertion operand
    return list "not" [operand]
  | .node "And" [.sequence operands] => do
    let operands ← assertionsOfAll operands
    return list "and" operands
  | .node "Or" [.sequence operands] => do
    let operands ← assertionsOfAll operands
    return list "or" operands
  | .node "Implies" [left, right] => do
    let left ← assertion left
    let right ← assertion right
    return list "=>" [left, right]
  | form => .error (.refused (.proposition form))

/-- The terms for the propositions of a list. -/
def assertionsOfAll : List Form → Except Misfit (List Form)
  | [] => .ok []
  | operand :: operands => do
    let first ← assertion operand
    let rest ← assertionsOfAll operands
    return first :: rest

end

/-! ## Final states -/

/-- A condition as a question to a solver. -/
structure Question where
  outputs : List Output
  assertion : Form
  expect : Verdict

/-- The form of a question. -/
def Question.form (question : Question) : Form :=
  .node "FinalState" [.sequence (question.outputs.map Output.form), question.assertion,
    .text question.expect.word]

/-- The question whether a proposition can hold. -/
def question (proposition : Form) (expect : Verdict) : Except Misfit Question := do
  let locations ← locations proposition
  let assertion ← assertion proposition
  return ⟨outputsOf locations, assertion, expect⟩

/-- The question that a condition comes down to. -/
def finalState : Form → Except Misfit Question
  | .node "ExistsState" [body] => question body .sat
  | .node "NotExistsState" [body] => question body .unsat
  | .node "ForallStates" [body] => do
    let state ← question body .unsat
    return { state with assertion := list "not" [state.assertion] }
  | form => .error (.refused (.condition form))

/-- A name as a symbol. -/
def symbol (name : Form) : Except Misfit String :=
  match name.text? with
  | some name => .ok (Text.symbol name)
  | none => .error (.wrongShape (.searchable name.shape))

end Litmus.Loose
