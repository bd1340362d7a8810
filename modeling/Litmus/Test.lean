import Litmus.Condition

/-!
# Litmus tests

A test is a small concurrent program: a header, an initial state, the code of each thread and the
condition that its final states are to meet.
-/

namespace Litmus

/-- An entry of the code of a thread. -/
inductive Pseudo where
  | instruction (text : String)
  /-- No operation, and no line. -/
  | nop
  /-- An entry with a label in front. -/
  | labelled (label : String) (entry : Pseudo)
  /-- The use of a code template. -/
  | templateCall (name : String) (arguments : List String)
  /-- An instruction that is still to be chosen. -/
  | symbolic (text : String)
deriving Inhabited, DecidableEq

/-- A parsed test. The lists are in the order of the text. -/
structure Test where
  /-- The architecture that the code is for. -/
  arch : String
  name : String
  /-- The keys and values of the header. -/
  info : List (String × String)
  /-- The initial assignments. -/
  init : List (Location × Constant)
  /-- The threads, each with its number and its code. -/
  threads : List (Int × List Pseudo)
  condition : Condition
  /-- The documentation string, if the test has one. -/
  doc : Option String

end Litmus
