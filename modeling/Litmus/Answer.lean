import Litmus.Files.Path
import Litmus.Form.Typed
import Litmus.Loose.Record

/-!
# Answers

The questions that can be asked of a test, of its parts and of a record, asked of forms. A form that
is the form of a term of the right type is answered by the function on that type; every other form
is answered loosely.
-/

namespace Litmus.Answer

/-- What a function on terms answers, with its refusals as misfits. -/
def ofTerm {α : Type} (answer : Except Unsupported α) : Except Misfit α :=
  answer.mapError fun cause => .refused (.unsupported cause)

/-! ## Texts -/

/-- What a function on texts answers. Another form is asked in vain, as `fault` says of its
shape. -/
def ofText (answer : String → String) (fault : String → Misfit) (form : Form) :
    Except Misfit String :=
  match form.text? with
  | some text => .ok (answer text)
  | none => .error (fault form.shape)

/-- A text with what is special in a quoted text escaped. -/
def escaped : Form → Except Misfit String :=
  ofText Text.escape (.noField · "encode")

/-- A text in quotes. -/
def quoted : Form → Except Misfit String :=
  ofText Text.quote (.noField · "encode")

/-- A text in bold. -/
def bold : Form → Except Misfit String :=
  ofText Text.bold fun shape => .wrongShape (.joinable shape)

/-- The name of the file at a path, without its extension. -/
def stem : Form → Except Misfit String :=
  ofText Path.stem fun shape => .wrongShape (.path shape)

/-- A text with its ASCII letters in lower case. -/
def lowercase (form : Form) : Except Misfit String :=
  match form.text? with
  | some text => .ok (Text.lowercaseAscii text)
  | none => Loose.lowerKey form

/-! ## Locations and constants -/

/-- What a location comes down to; a cell comes down to the absent value. -/
def resolved (location : Form) : Except Misfit Form :=
  match Location.ofForm? location with
  | some location => (ofTerm location.resolve).map fun found => found.elim .absent Resolved.form
  | none => Loose.resolve location

/-- The spelling of a location. -/
def spelling (location : Form) : Except Misfit Form :=
  match Location.ofForm? location with
  | some location => .ok (.text location.spelling)
  | none => Loose.spelling location

/-- The register value of a constant. -/
def registerValue (constant : Form) : Except Misfit Form :=
  match Constant.ofForm? constant with
  | some constant => .ok constant.registerValue.form
  | none => Loose.registerValue constant

/-! ## Initial states -/

/-- An initial state, its symbolic names in increasing order, and the registers of some threads with
the texts of their values. -/
structure Initial where
  state : Form
  symbols : List Form
  threads : List (Form × List (Form × String))

/-- The initial state of a list of assignments. -/
def initialState (init threads : List Form) : Except Misfit Initial :=
  match init.mapM assignment? with
  | some init => do
    let state ← ofTerm (InitialState.ofAssignments init).outcome
    let registers (thread : Form) : List (Form × String) :=
      (thread.number?.elim [] state.ofThread).map fun (register, value) => (.text register, value)
    return ⟨state.form, state.symbols.map .text, threads.map fun t => (t, registers t)⟩
  | none => do
    let state ← Loose.initialState init
    let symbols ← Loose.sortedSymbols state
    let threads ← threads.mapM fun t => return (t, ← Loose.registersOf state t)
    return ⟨state, symbols, threads⟩

/-! ## Final states -/

/-- What a proposition mentions, each once, in the order of first mention. -/
def locations (proposition : Form) : Except Misfit (List Form) :=
  match Proposition.ofForm? proposition with
  | some proposition => (ofTerm proposition.locations).map fun found => found.map Resolved.form
  | none => Loose.locations proposition

/-- The name of the slot of a register. -/
def slotOf (slots : List Slot) (thread register : Form) : Except Misfit String :=
  match thread, register with
  | .number thread, .text register =>
    (Litmus.slotOf slots thread register).mapError fun e => .unknownOutput e.name
  | thread, register =>
    let outputs := slots.map fun s => ⟨.number s.thread, s.name, .text s.register⟩
    Loose.outputOf outputs thread register

/-- The output slots of a proposition, and the slots of some registers. -/
def slots (proposition : Form) (registers : List (Form × Form)) :
    Except Misfit (List Form × List (Except Misfit String)) :=
  match Proposition.ofForm? proposition with
  | some proposition => do
    let locations ← ofTerm proposition.locations
    let slots := slotsOf locations
    return (slots.map Slot.form, registers.map fun (thread, name) => slotOf slots thread name)
  | none => do
    let outputs := Loose.outputsOf (← Loose.locations proposition)
    return (outputs.map Loose.Output.form,
      registers.map fun (thread, name) => Loose.outputOf outputs thread name)

/-- The text of the term for what a location holds in a final state. -/
def reference (location : Form) : Except Misfit String :=
  match Location.ofForm? location with
  | some location => (ofTerm location.reference).map Sexpr.text
  | none => Loose.reference location >>= Form.plain

/-- The text of the term for a value. -/
def value (constant : Form) : Except Misfit String :=
  match Constant.ofForm? constant with
  | some constant => (ofTerm constant.term).map Sexpr.text
  | none => Loose.value constant >>= Form.plain

/-- The term for a proposition. -/
def assertion (proposition : Form) : Except Misfit Form :=
  match Proposition.ofForm? proposition with
  | some proposition => (ofTerm proposition.assertion).map Sexpr.form
  | none => Loose.assertion proposition

/-- The text of the term for a proposition. -/
def assertionText (proposition : Form) : Except Misfit String :=
  match Proposition.ofForm? proposition with
  | some proposition => (ofTerm proposition.assertion).map Sexpr.text
  | none => Loose.assertion proposition >>= Form.plain

/-- The text that a form stands for. -/
def text (form : Form) : Except Misfit String :=
  match Sexpr.ofForm? form with
  | some term => .ok term.text
  | none => form.plain

/-- The output slots of a condition, the text of its assertion, the verdict that is expected, and
the names of the slots as symbols. -/
structure Final where
  slots : List Form
  assertion : String
  expect : Verdict
  symbols : List String

/-- The question that a condition comes down to. -/
def finalState (condition : Form) : Except Misfit Final :=
  match Condition.ofForm? condition with
  | some condition => do
    let state ← ofTerm condition.finalState
    return ⟨state.slots.map Slot.form, state.assertion.text, state.expect, state.slotSymbols⟩
  | none => do
    let state ← Loose.finalState condition
    let assertion ← state.assertion.plain
    return ⟨state.outputs.map Loose.Output.form, assertion, state.expect,
      state.outputs.map fun output => Text.symbol output.name⟩

/-- The names of slots as symbols. -/
def slotSymbols (names : List Form) : Except Misfit (List String) :=
  match Form.texts? names with
  | some names => .ok (FinalState.slotSymbols ⟨names.map fun name => ⟨0, name, ""⟩, .list [], .sat⟩)
  | none => names.mapM Loose.symbol

/-! ## Records -/

/-- The listing of some code. -/
def listing (code : List Form) : Except Misfit String :=
  match code.mapM Pseudo.ofForm? with
  | some code => ofTerm (Litmus.listing code)
  | none => Loose.listing code

/-- The record of a test. -/
def record (test : Form) : Except Misfit Form :=
  match Test.ofForm? test with
  | some test => (ofTerm test.record.outcome).map Record.form
  | none => Loose.record test

/-- What is written of a record. -/
def write (record : Form) : Loose.Written :=
  match Record.ofForm? record with
  | some record => ⟨record.text, none⟩
  | none => Loose.write record

/-- The text of a record. -/
def writtenText (record : Form) : Except Misfit String :=
  match write record with
  | ⟨text, none⟩ => .ok text
  | ⟨_, some misfit⟩ => .error misfit

/-- The text of the record of a test. -/
def recordText (test : Form) : Except Misfit String :=
  match Test.ofForm? test with
  | some test => ofTerm test.recordText.outcome
  | none => Loose.record test >>= writtenText

/-- The texts of several records that are written one after the other. What has been written of a
record that does not fit stays in front of the next text. -/
def recordTexts (kept : String) : List (Except Misfit Form) → List (Except Misfit String)
  | [] => []
  | .error misfit :: records => .error misfit :: recordTexts kept records
  | .ok record :: records =>
    match write record with
    | ⟨text, none⟩ => .ok (kept ++ text) :: recordTexts "" records
    | ⟨text, some misfit⟩ => .error misfit :: recordTexts (kept ++ text) records

end Litmus.Answer
