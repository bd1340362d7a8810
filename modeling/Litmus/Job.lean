import Litmus.Files.Fault
import Litmus.Record
import Litmus.Source.Reader
import Litmus.Text.Lines

/-!
# Jobs

A job reads the bytes of one file as a test and makes its record. It can fail at the file, at the
text or at a construct of the test. What is reported of a failure also depends on the surroundings of
the job, which have some of the wording (`Wording`).
-/

namespace Litmus

/-- Why a file has not been compiled. -/
inductive JobFault where
  | unreadable (error : FileError)
  | malformed (error : Source.ReadError)
  | unsupported (error : Unsupported)

/-- What messages say that is not decided here: where in the program a notice is told, and what the
parser says of a text without the shape of its part. -/
structure Wording where
  site : Notice → Site
  syntaxError : Source.Misshape → String

namespace JobFault

/-- The wording of a fault, without its name. -/
def message (wording : Wording) : JobFault → String
  | .unreadable error => error.message
  | .malformed error => error.message wording.syntaxError
  | .unsupported error => error.message

/-- The name of a fault. -/
def name : JobFault → String
  | .unreadable error => error.trouble.name
  | .malformed _ => "LitmusParseError"
  | .unsupported _ => "UnsupportedError"

/-- What is reported of a fault. -/
def report (wording : Wording) (fault : JobFault) : String :=
  fault.message wording ++ " (" ++ fault.name ++ ")"

end JobFault

/-- The test in a file with these contents. -/
def Test.ofFile (file : String) (contents : Except FileError (List UInt8)) :
    Traced JobFault Test :=
  match contents with
  | .error error => throw (.unreadable error)
  | .ok bytes =>
    match Text.decodeUtf8 bytes with
    | .error error => throw (.malformed ⟨file, .notText error⟩)
    | .ok text =>
      (Test.ofText file (String.ofList (Text.unifyNewlines text))).mapError .malformed

/-- The text of the record of the test that a text is. -/
def compileText (source text : String) : Traced JobFault String := do
  let test ← (Test.ofText source text).mapError .malformed
  test.recordText.mapError .unsupported

/-- The text of the record of the test in a file with these contents. -/
def compileFile (file : String) (contents : Except FileError (List UInt8)) :
    Traced JobFault String := do
  let test ← Test.ofFile file contents
  test.recordText.mapError .unsupported

/-- What has become of one input: the text of a record, or a fault. -/
structure JobResult where
  input : String
  outcome : Except JobFault String

/-- Whether an input has been compiled. -/
def JobResult.succeeded (result : JobResult) : Bool :=
  result.outcome.isOk

/-- The trouble that no job reports but that breaks off the whole run: the path of the input cannot
even be asked for. -/
def JobFault.breaksOff? : JobFault → Option FileError
  | .unreadable error => if error.trouble = .zeroByte then some error else none
  | _ => none

/-- The result of a job, unless the run breaks off at it. -/
def JobResult.ofTraced (input : String) (traced : Traced JobFault String) :
    Except FileError JobResult :=
  match traced.outcome with
  | .ok record => .ok ⟨input, .ok record⟩
  | .error fault =>
    match fault.breaksOff? with
    | some error => .error error
    | none => .ok ⟨input, .error fault⟩

end Litmus
