import Litmus.Names
import Litmus.Unsupported

/-!
# Initial states

The initial assignments of a test, as a record needs them: what the registers of each thread start
with, and the set of symbolic names among those values.

* Assignments keep their order, and a register that is assigned twice is listed twice.
* Assignments to cells are dropped, whatever their value.
* The symbolic names are kept as a set of names: in increasing order, each once.
-/

namespace Litmus

/-! ## Register values -/

/-- What a register can start with. -/
inductive RegisterValue where
  /-- A number or a symbolic name. -/
  | value (text : String)
  /-- The address of a label. -/
  | label (target : String)
deriving DecidableEq

/-- The text of a value: a label is marked by a colon. -/
def RegisterValue.text : RegisterValue → String
  | .value text => text
  | .label target => target ++ ":"

/-- The register value of a constant. -/
def Constant.registerValue : Constant → RegisterValue
  | .concrete text => .value text
  | .symbolic name => .value name
  | .label _ name => .label name

/-! ## Initial states -/

/-- The value that a register of a thread starts with. -/
structure Initializer where
  thread : Int
  register : String
  value : RegisterValue
deriving DecidableEq

/-- The part of the initial assignments that a record keeps. -/
structure InitialState where
  /-- The symbolic names among the values, in increasing order. -/
  symbols : List String
  /-- The assignments to registers, in order. -/
  registers : List Initializer

namespace InitialState

/-- The state of no assignment. -/
def empty : InitialState := ⟨[], []⟩

/-- The symbolic names with that of a constant, if it is one. -/
def withSymbol (names : List String) : Constant → List String
  | .symbolic name => insertName name names
  | _ => names

/-- The initial state of a list of assignments. -/
def ofAssignments : List (Location × Constant) → Traced Unsupported InitialState
  | [] => pure empty
  | (location, constant) :: rest => do
    match ← Traced.ofExcept location.resolve with
    | none =>
      Traced.note (.dropped location)
      ofAssignments rest
    | some (.memory _) => throw .initialMemory
    | some (.register thread register) =>
      let state ← ofAssignments rest
      return ⟨withSymbol state.symbols constant,
        ⟨thread, register, constant.registerValue⟩ :: state.registers⟩

/-- The initializers of one thread, in order: each register with the text of its value. -/
def ofThread (state : InitialState) (thread : Int) : List (String × String) :=
  (state.registers.filter (·.thread = thread)).map fun init => (init.register, init.value.text)

end InitialState

end Litmus
