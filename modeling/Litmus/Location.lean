/-!
# Constants and locations

The two leaves of a litmus test: what a value can be, and where a value can be kept.
-/

namespace Litmus

/-! ## Constants -/

/-- A value that a test mentions. -/
inductive Constant where
  /-- A number, in the notation that the test uses for it. -/
  | concrete (text : String)
  /-- A name that stands for an address. -/
  | symbolic (name : String)
  /-- A place in the code of a thread. -/
  | label (thread : Int) (name : String)
deriving Inhabited, DecidableEq

/-- The spelling of a constant. -/
def Constant.spelling : Constant → String
  | .concrete text => text
  | .symbolic name => name
  | .label thread name => "P" ++ toString thread ++ ":" ++ name

/-! ## Locations -/

/-- A place that a test reads or writes. -/
inductive Location where
  /-- A register of a thread. -/
  | register (thread : Int) (name : String)
  /-- A symbolic register, not yet bound to a real one. -/
  | symbolicRegister (name : String)
  /-- The memory at an address. -/
  | global (address : Constant)
  /-- The cell of an array in memory. -/
  | cell (base : Constant) (index : Int)
deriving Inhabited, DecidableEq

/-- The spelling of a location. -/
def Location.spelling : Location → String
  | .register thread name => toString thread ++ ":" ++ name
  | .symbolicRegister name => "%" ++ name
  | .global address => address.spelling
  | .cell base index => base.spelling ++ "[" ++ toString index ++ "]"

/-! ## Where a location is found -/

/-- What a location comes down to: the register of a thread, or a name in memory. -/
inductive Resolved where
  | register (thread : Int) (name : String)
  | memory (name : String)
deriving DecidableEq

/-- The register that a resolved location is, if it is one. -/
def Resolved.register? : Resolved → Option (Int × String)
  | .register thread name => some (thread, name)
  | .memory _ => none

end Litmus
