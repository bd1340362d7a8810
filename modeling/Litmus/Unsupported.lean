import Litmus.Notice

/-!
# Unsupported constructs

A record has no room for every construct of a test. What has none is refused with its cause; this is
the list of causes and their wording.
-/

namespace Litmus

/-- Why a test has no record. -/
inductive Unsupported where
  /-- A location that is neither a register of a thread nor a name in memory nor a cell. -/
  | location (place : Location)
  /-- A name in memory with an initial value. -/
  | initialMemory
  /-- Code that is still a template. -/
  | template
  /-- A location that the final assertion cannot mention. -/
  | finalLocation
  /-- A value that the final assertion cannot mention. -/
  | finalValue
  /-- Two locations compared with each other. -/
  | agreement

/-- The wording of the refusal of a location with this spelling. -/
def locationRefusal (spelling : String) : String :=
  "Register type in " ++ spelling ++ " not supported by LitSMT"

/-- The wording of a cause. -/
def Unsupported.message : Unsupported → String
  | .location place => locationRefusal place.spelling
  | .initialMemory => "Symbolic location not supported in initial state"
  | .template => "Macro or Symbolic instruction found in litmus file"
  | .finalLocation => "Invalid location in final state"
  | .finalValue => "Failed to compile value to SMT in litmus assertion"
  | .agreement => "LL atom not yet supported"

/-! ## Resolving locations -/

/-- What a location comes down to. The cells of arrays are no part of a record and come down to
nothing; every other kind of location is refused. -/
def Location.resolve : Location → Except Unsupported (Option Resolved)
  | .register thread name => .ok (some (.register thread name))
  | .global (.symbolic name) => .ok (some (.memory name))
  | .cell _ _ => .ok none
  | place => .error (.location place)

@[simp] theorem Location.resolve_register (thread : Int) (name : String) :
    (Location.register thread name).resolve = .ok (some (.register thread name)) := rfl

@[simp] theorem Location.resolve_memory (name : String) :
    (Location.global (.symbolic name)).resolve = .ok (some (.memory name)) := rfl

@[simp] theorem Location.resolve_cell (base : Constant) (index : Int) :
    (Location.cell base index).resolve = .ok none := rfl

end Litmus
