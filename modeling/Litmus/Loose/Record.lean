import Litmus.Loose.FinalState
import Litmus.Loose.InitialState
import Litmus.Record

/-!
# Records that need not fit

The record of a test, and the text of a record, where there may be any forms in their places.

The text of a record is made of pieces. If a piece cannot be written, those before it have been:
`Written` keeps both.
-/

namespace Litmus.Loose

/-! ## Listings -/

/-- The text of a form with what is special in a quoted text escaped. -/
def escaped (form : Form) : Except Misfit String :=
  match form.text? with
  | some text => .ok (Text.escape text)
  | none => .error (.noField form.shape "encode")

/-- The lines of a listing that an entry of the code gives. -/
def entryListing : Form → Except Misfit String
  | .node "Instruction" [text] => do
    let text ← escaped text
    return "\t" ++ text ++ "\n"
  | .node "Nop" [] => .ok ""
  | .node "Labelled" [label, entry] => do
    let rest ← entryListing entry
    let label ← label.plain
    return label ++ ":\n" ++ rest
  | .node "Macro" [_, _] => .error (.refused (.unsupported .template))
  | .node "SymbolicPseudo" [_] => .error (.refused (.unsupported .template))
  | form => .error (.refused (.pseudo form))

/-- The listing of some code. -/
def listing (code : List Form) : Except Misfit String := do
  let lines ← code.mapM entryListing
  return String.join lines

/-! ## Records -/

/-- The record of one thread, given the initial state of the test. -/
def threadRecord (state entry : Form) : Except Misfit Form := do
  let (thread, code) ← entry.pair
  let init ← registersOf state thread
  let lines ← listing (← code.items)
  return .node "ThreadRecord"
    [thread, .sequence (init.map fun (name, value) => .sequence [name, .text value]), .text lines]

/-- The record of a test. -/
def record (test : Form) : Except Misfit Form := do
  let state ← initialState (← (← test.field "init").items)
  let threads ← (← (← test.field "prog").items).mapM (threadRecord state)
  let final ← finalState (← test.field "condition")
  -- The name is needed for a notice.
  let _ ← (← test.field "name").plain
  let arch ← test.field "arch"
  let name ← test.field "name"
  let info ← (← test.field "info").asSequence
  let symbols ← sortedSymbols state
  return .node "LitmusRecord" [arch, name, info, .sequence symbols, .sequence threads, final.form]

/-! ## The text of a record -/

/-- A part of a form in lower case if it is ASCII. -/
def lowerPart (form : Form) : Except Misfit String :=
  match form with
  | .text part =>
    .ok (if part.toList.all fun c => c.toNat < 128 then Text.lowercaseAscii part else part)
  | form => .error (.noField form.shape "isascii")

/-- A key in lower case: the parts of it that are ASCII. -/
def lowerKey (key : Form) : Except Misfit String := do
  let parts ← (← key.items).mapM lowerPart
  return String.join parts

/-- A key with a quoted value, on a line of its own. -/
def pairLine (key : String) (value : Form) : Except Misfit String := do
  let value ← escaped value
  return key ++ " = \"" ++ value ++ "\"\n"

/-- A line of the header. -/
def infoLine (entry : Form) : Except Misfit String := do
  let (key, value) ← entry.pair
  let key ← lowerKey key
  pairLine key value

/-- The line with the symbolic names. -/
def symbolsLine (record : Form) : Except Misfit String := do
  let names ← (← (← record.field "symbolic").items).mapM fun name => do
    let name ← escaped name
    return "\"" ++ name ++ "\""
  return "symbolic = [" ++ String.intercalate ", " names ++ "]\n"

/-- A register with its value. -/
def initText (entry : Form) : Except Misfit String := do
  let (register, value) ← entry.pair
  let register ← register.plain
  let value ← value.plain
  return register ++ " = \"" ++ value ++ "\""

/-- The pieces of the text of a thread. -/
def threadPieces (thread : Form) : List (Except Misfit String) := [
  do
    let number ← (← thread.field "tid").decimal
    return "\n[thread." ++ number ++ "]\n",
  do
    let init ← (← (← thread.field "init").items).mapM initText
    return "init = \x7b " ++ String.intercalate ", " init ++ " \x7d\n",
  do
    let code ← (← thread.field "code").plain
    return "code = \"\"\"\n" ++ code ++ "\"\"\"\n"]

/-- The pieces that the items of a field give; a field without items gives a misfit. -/
def fieldPieces (record : Form) (name : String) (pieces : Form → List (Except Misfit String)) :
    List (Except Misfit String) :=
  match record.field name >>= Form.items with
  | .ok items => items.flatMap pieces
  | .error misfit => [.error misfit]

/-- The pieces of the text of a record. -/
def pieces (record : Form) : List (Except Misfit String) :=
  [record.field "arch" >>= pairLine "arch", record.field "name" >>= pairLine "name"]
    ++ fieldPieces record "info" (fun entry => [infoLine entry])
    ++ [symbolsLine record]
    ++ fieldPieces record "threads" threadPieces
    ++ [.ok "\n[final]\n",
      do pairLine "expect" (← (← record.field "final").field "expect"),
      do
        let assertion ← (← (← record.field "final").field "assertion").plain
        pairLine "assertion" (.text assertion)]

/-- What has been written, and the misfit at which the writing stopped, if there was one. -/
structure Written where
  text : String
  misfit? : Option Misfit

/-- What is written of some pieces. -/
def written : List (Except Misfit String) → Written
  | [] => ⟨"", none⟩
  | .error misfit :: _ => ⟨"", some misfit⟩
  | .ok piece :: pieces =>
    let rest := written pieces
    { rest with text := piece ++ rest.text }

/-- What is written of a record. -/
def write (record : Form) : Written :=
  written (pieces record)

end Litmus.Loose
