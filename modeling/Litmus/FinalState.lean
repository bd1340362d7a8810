import Litmus.Condition
import Litmus.Unsupported
import Litmus.Sexpr
import Litmus.Text.Symbol

/-!
# Final states

What a record asks of a solver: the registers that the condition mentions, each with an output slot,
an assertion, and the verdict that is expected.

* `Proposition.locations` lists what a proposition mentions, each once, in the order of the text.
* `slotsOf` numbers the registers among them.
* `Proposition.assertion` is the proposition as a term of SMT-LIB.
* `Condition.finalState` puts them together. *Some state satisfies p* is a question that is to be
  satisfiable; *no state satisfies p* and *every state satisfies p* are questions that are not to
  be, of `p` and of its negation.
-/

namespace Litmus

/-! ## Mentioned locations -/

/-- The resolved location as a list: nothing for a cell. -/
def Location.mention (location : Location) : Except Unsupported (List Resolved) :=
  location.resolve.map Option.toList

mutual

/-- What a proposition mentions, from left to right and with repetitions. -/
def Proposition.mentions : Proposition → Except Unsupported (List Resolved)
  | .holds location _ => location.mention
  | .agree left right => do
    let first ← left.mention
    let second ← right.mention
    return first ++ second
  | .not operand => operand.mentions
  | .and operands => mentionsOfAll operands
  | .or operands => mentionsOfAll operands
  | .implies left right => do
    let first ← left.mentions
    let second ← right.mentions
    return first ++ second

/-- What the propositions of a list mention, in their order. -/
def mentionsOfAll : List Proposition → Except Unsupported (List Resolved)
  | [] => .ok []
  | operand :: operands => do
    let first ← operand.mentions
    let second ← mentionsOfAll operands
    return first ++ second

end

/-- What a proposition mentions, each once, in the order of first mention. -/
def Proposition.locations (proposition : Proposition) : Except Unsupported (List Resolved) :=
  proposition.mentions.map List.eraseDups

/-! ## Output slots -/

/-- An output of a test: the value of a register of a thread, under a name of its own. -/
structure Slot where
  thread : Int
  name : String
  register : String
deriving DecidableEq

/-- The name of the output with the given number. -/
def slotName (n : Nat) : String :=
  "output " ++ toString n

/-- A slot for each register of a list, numbered from zero; names in memory take no number. -/
def slotsOf (locations : List Resolved) : List Slot :=
  (locations.filterMap Resolved.register?).zipIdx.map fun ((thread, register), n) =>
    ⟨thread, slotName n, register⟩

/-- A register that no slot stands for. -/
structure UnknownOutput where
  thread : Int
  register : String

/-- The full name of the register. -/
def UnknownOutput.name (e : UnknownOutput) : String :=
  toString e.thread ++ ":" ++ e.register

/-- The wording of a failed look-up of a register with this full name. -/
def unknownOutputText (name : String) : String :=
  "Could not find output id for register " ++ name

/-- The wording of a failed look-up. -/
def UnknownOutput.message (e : UnknownOutput) : String :=
  unknownOutputText e.name

/-- The name of the slot of a register. -/
def slotOf (slots : List Slot) (thread : Int) (register : String) : Except UnknownOutput String :=
  match slots.find? fun slot => slot.thread = thread ∧ slot.register = register with
  | some slot => .ok slot.name
  | none => .error ⟨thread, register⟩

/-! ## Assertions -/

/-- The term for what a location holds in a final state. -/
def Location.reference (location : Location) : Except Unsupported Sexpr := do
  match ← location.resolve with
  | some (.register thread name) =>
    return .list [.atom "register", .atom name, .atom (toString thread)]
  | some (.memory name) => return .list [.atom "last_write_to", .atom name]
  | none => throw .finalLocation

/-- The term for a value. -/
def Constant.term : Constant → Except Unsupported Sexpr
  | .concrete text => .ok (.atom text)
  | _ => .error .finalValue

mutual

/-- The term for a proposition. -/
def Proposition.assertion : Proposition → Except Unsupported Sexpr
  | .holds location value => do
    let reference ← location.reference
    let value ← value.term
    return .list [.atom "=", reference, value]
  | .agree _ _ => .error .agreement
  | .not operand => do
    let operand ← operand.assertion
    return .list [.atom "not", operand]
  | .and operands => do
    let operands ← assertionsOfAll operands
    return .list (.atom "and" :: operands)
  | .or operands => do
    let operands ← assertionsOfAll operands
    return .list (.atom "or" :: operands)
  | .implies left right => do
    let left ← left.assertion
    let right ← right.assertion
    return .list [.atom "=>", left, right]

/-- The terms for the propositions of a list. -/
def assertionsOfAll : List Proposition → Except Unsupported (List Sexpr)
  | [] => .ok []
  | operand :: operands => do
    let first ← operand.assertion
    let rest ← assertionsOfAll operands
    return first :: rest

end

/-! ## Final states -/

/-- What a solver is expected to answer. -/
inductive Verdict where
  | sat
  | unsat
deriving DecidableEq

/-- The word for a verdict. -/
def Verdict.word : Verdict → String
  | .sat => "sat"
  | .unsat => "unsat"

/-- A condition as a question to a solver. -/
structure FinalState where
  /-- The slots of the registers that the condition mentions. -/
  slots : List Slot
  assertion : Sexpr
  expect : Verdict

namespace FinalState

/-- The question whether a proposition can hold. -/
def ofProposition (proposition : Proposition) (expect : Verdict) :
    Except Unsupported FinalState := do
  let locations ← proposition.locations
  let assertion ← proposition.assertion
  return ⟨slotsOf locations, assertion, expect⟩

/-- The names of the slots as symbols. -/
def slotSymbols (state : FinalState) : List String :=
  state.slots.map fun slot => Text.symbol slot.name

end FinalState

/-- The question that a condition comes down to. -/
def Condition.finalState : Condition → Except Unsupported FinalState
  | .someState body => FinalState.ofProposition body .sat
  | .noState body => FinalState.ofProposition body .unsat
  | .everyState body => do
    let state ← FinalState.ofProposition body .unsat
    return { state with assertion := .list [.atom "not", state.assertion] }

end Litmus
