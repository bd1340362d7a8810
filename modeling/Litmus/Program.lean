import Litmus.Files.Disk
import Litmus.Run

/-!
# The program

The program settles its settings, compiles the inputs and writes the records, with a `Host` as its
surroundings. The same program runs on a real machine and, with `World.host`, as a function on a disk.
-/

namespace Litmus

/-! ## How a run ends -/

/-- Why a run breaks off. -/
inductive Breakdown where
  | commandLine (fault : Settings.CommandFault)
  | settings (fault : Settings.Fault)
  | file (error : FileError)

/-- The wording of the cause. -/
def Breakdown.message : Breakdown → String
  | .commandLine fault => fault.message
  | .settings fault => fault.message
  | .file error => error.message

/-- How a run ends. -/
inductive Conclusion where
  | exit (status : Nat)
  /-- With the help text. -/
  | help (status : Nat)
  /-- With a hint on the use of the command line. -/
  | usage
  | broken (cause : Breakdown)

/-! ## Running -/

section Running

variable {m : Type → Type} [Monad m] (host : Host m)

/-- Do actions in order, up to the first that fails. -/
def performAll : List Action → m (Except FileError Unit)
  | [] => return .ok ()
  | action :: actions => do
    match ← host.perform action with
    | .error e => return .error e
    | .ok () => performAll actions

/-- Do actions and conclude, unless one of them fails. -/
def finish (actions : List Action) (conclusion : Conclusion) : m Conclusion := do
  match ← performAll host actions with
  | .error e => return .broken (.file e)
  | .ok () => return conclusion

/-- Run with settled settings. -/
def runSettings (settings : Settings) : m Conclusion :=
  match prepare settings with
  | .error log => finish host log.actions (.exit 1)
  | .ok log => do
    match ← performAll host log.actions with
    | .error e => return .broken (.file e)
    | .ok () =>
      let (log, results) ← runJobs host settings { log with actions := [] }
      match results with
      | .error e => finish host log.actions (.broken (.file e))
      | .ok results =>
        let (actions, status) := conclude host.wording settings log results
        finish host actions (.exit status)

/-- Run with a command line. -/
def runProgram (words : List String) : m Conclusion :=
  if words.isEmpty then return .help 1
  else do
    match ← Settings.standard.read host.read words with
    | .error (.ending .help) => return .help 0
    | .error (.ending .usage) => return .usage
    | .error (.ending (.fault fault)) => return .broken (.commandLine fault)
    | .error (.fault fault) => return .broken (.settings fault)
    | .ok values => runSettings host (Settings.ofValues values)

end Running

/-! ## Running on a disk -/

/-- A disk, and what has been printed on the two streams. -/
structure World where
  disk : Disk
  out : String := ""
  err : String := ""

namespace World

/-- Do an action in a world. An action that fails may have been done in part. -/
def perform (world : World) : Action → Except FileError Unit × World
  | .print .out text => (.ok (), { world with out := world.out ++ text })
  | .print .err text => (.ok (), { world with err := world.err ++ text })
  | .save path text =>
    let (result, disk) := world.disk.after (world.disk.write path text)
    (result, { world with disk := disk })
  | .makeDirectories path =>
    let (result, disk) := world.disk.makeDirectories path
    (result, { world with disk := disk })

/-- A world as the surroundings of the program, where the time of every timer is given. -/
def host (wording : Wording) (elapsed : (timer : Int) → String) : Host (StateM World) where
  wording := wording
  read path world := (world.disk.read path, world)
  perform action world := world.perform action
  timed timer x := do
    let a ← x
    return (a, timer.elim "" elapsed)

/-- How a run in a world ends, and the world after it. -/
def run (world : World) (wording : Wording) (elapsed : (timer : Int) → String)
    (words : List String) : Conclusion × World :=
  (runProgram (host wording elapsed) words).run world

end World

end Litmus
