import Litmus.Test
import Litmus.InitialState
import Litmus.FinalState
import Litmus.Text.Escape

/-!
# Records

A record is what a checker needs to know of a test: the header, the symbolic names of the initial
state, the initial registers and the listing of each thread, and the final state.

`Test.record` makes the record of a test. It fails on the first construct that has no counterpart,
the initial state first, then the code of the threads in order, then the condition.
-/

namespace Litmus

/-! ## Listings -/

/-- The lines of a listing that an entry of the code gives: an instruction is indented and escaped,
a label stands on a line of its own, no operation gives no line. -/
def Pseudo.listing : Pseudo → Except Unsupported String
  | .instruction text => .ok ("\t" ++ Text.escape text ++ "\n")
  | .nop => .ok ""
  | .labelled label entry => do
    let rest ← entry.listing
    return label ++ ":\n" ++ rest
  | .templateCall _ _ => .error .template
  | .symbolic _ => .error .template

/-- The listing of the code of a thread. -/
def listing (code : List Pseudo) : Except Unsupported String := do
  let lines ← code.mapM Pseudo.listing
  return String.join lines

/-! ## Records -/

/-- The part of a record that belongs to one thread. -/
structure ThreadRecord where
  thread : Int
  /-- The registers that start with a value, and the values. -/
  init : List (String × String)
  /-- The listing of the code. -/
  code : String
deriving DecidableEq

/-- The record of a test. -/
structure Record where
  arch : String
  name : String
  info : List (String × String)
  /-- The symbolic names of the initial state. -/
  symbols : List String
  threads : List ThreadRecord
  final : FinalState

/-- The record of one thread, given the initial state of the test. -/
def ThreadRecord.ofCode (state : InitialState) (thread : Int) (code : List Pseudo) :
    Except Unsupported ThreadRecord := do
  let lines ← listing code
  return ⟨thread, state.ofThread thread, lines⟩

/-- The record of a test. -/
def Test.record (test : Test) : Traced Unsupported Record := do
  let state ← InitialState.ofAssignments test.init
  let threads ← Traced.ofExcept
    (test.threads.mapM fun (thread, code) => ThreadRecord.ofCode state thread code)
  let final ← Traced.ofExcept test.condition.finalState
  Traced.note (.outputs test.name final.slotSymbols final.expect.word)
  return ⟨test.arch, test.name, test.info, state.symbols, threads, final⟩

/-! ## The text of a record -/

/-- A key with a quoted value, on a line of its own. -/
def pairLine (key value : String) : String :=
  key ++ " = " ++ Text.quote value ++ "\n"

/-- The text of the part of a thread. Registers, values and the listing stand as they are. -/
def ThreadRecord.text (t : ThreadRecord) : String :=
  let init := t.init.map fun (register, value) => register ++ " = \"" ++ value ++ "\""
  "\n[thread." ++ toString t.thread ++ "]\n"
    ++ "init = \x7b " ++ String.intercalate ", " init ++ " \x7d\n"
    ++ "code = \"\"\"\n" ++ t.code ++ "\"\"\"\n"

/-- The text of a record. -/
def Record.text (r : Record) : String :=
  pairLine "arch" r.arch
    ++ pairLine "name" r.name
    ++ String.join (r.info.map fun (key, value) => pairLine (Text.lowercaseAscii key) value)
    ++ "symbolic = [" ++ String.intercalate ", " (r.symbols.map Text.quote) ++ "]\n"
    ++ String.join (r.threads.map ThreadRecord.text)
    ++ "\n[final]\n"
    ++ pairLine "expect" r.final.expect.word
    ++ pairLine "assertion" r.final.assertion.text

/-- The text of the record of a test. -/
def Test.recordText (test : Test) : Traced Unsupported String := do
  let record ← test.record
  return record.text

/-! ## Formats of records -/

/-- A way to write records: the extension of its files, and the text of a record. A format that is
only a base for others writes none. -/
structure RecordFormat where
  extension : String
  text? : Option (Record → String)

/-- The base of all formats. -/
def RecordFormat.base : RecordFormat := ⟨".none", none⟩

/-- The format of this library. -/
def RecordFormat.toml : RecordFormat := ⟨".toml", some Record.text⟩

/-- What a base format answers when it is asked to do the work of a format. -/
def notImplemented : String := "Not implemented"

end Litmus
