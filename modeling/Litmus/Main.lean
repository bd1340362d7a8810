import Litmus.Program
import Litmus.Usage

/-!
# The command line program

The program on a real machine: files are read and written, texts are printed, and times are taken
from its clock. All decisions are those of `runProgram`.
-/

namespace Litmus

/-- What an error of the system says of a path. The number of an error may come with either sign. -/
def troubleOf : IO.Error → FileTrouble
  | .noFileOrDirectory .. => .missing
  | .permissionDenied .. => .denied
  | .alreadyExists .. => .exists
  | .inappropriateType _ code _ =>
    if code = 20 ∨ code = 0 - 20 then .notDirectory else .isDirectory
  | .invalidArgument .. => .tooLong
  | e => .other 5 (toString e)

/-- The result of something that is done with a path, or the trouble with it. -/
def withPath {α : Type} (path : String) (x : IO α) : IO (Except FileError α) :=
  match Disk.pathTrouble? path with
  | some trouble => return .error ⟨trouble, path⟩
  | none => do
    try
      let a ← x
      return .ok a
    catch e => return .error ⟨troubleOf e, path⟩

/-- A number of milliseconds in seconds, with two decimals. -/
def secondsText (milliseconds : Nat) : String :=
  let hundredths := (milliseconds + 5) / 10
  let decimals := toString (100 + hundredths % 100)
  toString (hundredths / 100) ++ "." ++ (decimals.drop 1).toString

/-- Do an action on the machine. -/
def performAction : Action → IO (Except FileError Unit)
  | .print .out text => do
    let stream ← IO.getStdout
    stream.putStr text
    stream.flush
    return .ok ()
  | .print .err text => do
    let stream ← IO.getStderr
    stream.putStr text
    stream.flush
    return .ok ()
  | .save path text => withPath path (IO.FS.writeFile path text)
  | .makeDirectories path => withPath path (IO.FS.createDirAll path)

/-- The module that tells a notice. -/
def moduleOf : Notice → String
  | .parsed .. => "Litmus/Source/Reader.lean"
  | .dropped _ => "Litmus/InitialState.lean"
  | .outputs .. => "Litmus/Record.lean"
  | .saved .. | .compiled .. => "Litmus/Run.lean"

/-- What a part of a test is called. -/
def partName : Source.Part → String
  | .header => "header"
  | .doc => "documentation string"
  | .info => "key and value"
  | .assignment => "assignment"
  | .thread => "thread"
  | .condition => "condition"

/-- The wording of the machine. A module is not looked into, so the line of a site is its first one. -/
def machineWording : Wording where
  site notice := ⟨moduleOf notice, 1⟩
  syntaxError misshape := "no " ++ partName misshape.part ++ ": " ++ Text.literal misshape.text

/-- The machine as the surroundings of the program. -/
def machine : Host IO where
  wording := machineWording
  read path := withPath path do
    let bytes ← IO.FS.readBinFile path
    return bytes.data.toList
  perform := performAction
  timed _ x := do
    let start ← IO.monoMsNow
    let a ← x
    let stop ← IO.monoMsNow
    return (a, secondsText (stop - start))

/-- Run the program on the machine; the result is the exit status. -/
def runOnMachine (words : List String) : IO UInt32 := do
  match ← runProgram machine words with
  | .exit status => return UInt32.ofNat status
  | .help status =>
    (← IO.getStdout).putStr helpText
    return UInt32.ofNat status
  | .usage =>
    (← IO.getStderr).putStr usageText
    return 2
  | .broken cause =>
    (← IO.getStderr).putStr (cause.message ++ "\n")
    return 1

end Litmus

/-- Run the program with the words of a command line. -/
def main (words : List String) : IO UInt32 :=
  Litmus.runOnMachine words
