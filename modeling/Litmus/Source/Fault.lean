import Litmus.Text.Utf8

/-!
# Faults of a text

Why a text is no litmus test. Where a text does not have the shape that its place asks for, the fault
is `malformed`, with the place and the text; the other causes name what is missing or too much.

Where exactly a text loses its shape is a matter of the parser that looks at it, and so is the wording
of such a fault: it is given, for every place and every text.
-/

namespace Litmus.Source

open Litmus.Text

/-- The parts of a test that have a shape of their own. -/
inductive Part where
  | header
  | doc
  | info
  | assignment
  | thread
  | condition
deriving DecidableEq

/-- A text that does not have the shape of its part. -/
structure Misshape where
  part : Part
  text : String
deriving DecidableEq

/-- Why a text is no litmus test. -/
inductive Fault where
  /-- The text has no line. -/
  | empty
  /-- The header has no name. -/
  | missingName (line : String)
  | malformed (misshape : Misshape)
  | missingInitialState
  | missingTable
  /-- A row of the thread table has more cells than there are threads. -/
  | overfull (row : String)
  | missingCondition
  /-- The file is no text. -/
  | notText (error : Utf8Error)
deriving DecidableEq

/-- The wording of a fault; that of a text without its shape is the parser's. -/
def Fault.message (syntaxError : Misshape → String) : Fault → String
  | .empty => "empty litmus test"
  | .missingName line => "missing test name in \"" ++ line ++ "\""
  | .malformed misshape => syntaxError misshape
  | .missingInitialState => "missing initial state"
  | .missingTable => "missing thread table"
  | .overfull row => "too many instructions in row \"" ++ row ++ "\""
  | .missingCondition => "missing final condition"
  | .notText error => error.message

/-- A fault together with the text that has it. -/
structure ReadError where
  /-- The name of the text: that of a file, or of no file. -/
  source : String
  fault : Fault
deriving DecidableEq

/-- The wording of a fault in a text. -/
def ReadError.message (syntaxError : Misshape → String) (e : ReadError) : String :=
  e.source ++ ": " ++ e.fault.message syntaxError

/-- The name of a text that comes from no file. -/
def unnamedSource : String := "<string>"

end Litmus.Source
