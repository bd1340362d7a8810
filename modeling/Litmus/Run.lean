import Litmus.Host
import Litmus.Log
import Litmus.Settings.Standard

/-!
# Runs

A run compiles all inputs and writes their records: to the standard output, to one file, or each to
a file of its own in a directory.

* `prepare` says what happens before the jobs: the settings are checked, and the directory is made.
* `runJobs` compiles the inputs. One after the other, it stops at the first that fails unless such
  are to be skipped; several at a time, all are compiled. Either way a path that cannot even be
  asked for breaks the run off.
* `conclude` says what happens with the results. A failure ends the run there and then, or it is
  skipped with a warning. Either way the records in front of it are written.

`prepare` and `conclude` are functions to the actions of the run; `Program` puts the parts together.
-/

namespace Litmus

/-! ## Before the jobs -/

/-- The file that the record of an input is saved in. -/
def recordFile (directory input : String) : String :=
  Path.join directory (Path.stem input ++ RecordFormat.toml.extension)

/-- The first input whose record would be saved where that of an earlier one is, the earlier one
coming first. -/
def firstClash? (directory : String) : (earlier inputs : List String) → Option (String × String)
  | _, [] => none
  | earlier, input :: inputs =>
    match earlier.find? fun other => recordFile directory other == recordFile directory input with
    | some other => some (other, input)
    | none => firstClash? directory (earlier ++ [input]) inputs

/-- The message for two inputs with one record file. -/
def clashMessage (directory first second : String) : String :=
  "\"" ++ first ++ "\" and \"" ++ second ++ "\" would both be saved in \""
    ++ recordFile directory second ++ "\""

/-- The log of a run before anything has happened. Where the records go to the standard output, the
messages go to the standard error. -/
def Log.ofSettings (settings : Settings) : Log where
  verbosity := settings.verbosity
  timing := settings.time
  stream := if settings.outputDir.isNone ∧ settings.output.isNone then .err else .out

/-- The log after the preparations, or the log of a run that ends with an error. -/
def prepare (settings : Settings) : Except Log Log :=
  let log := Log.ofSettings settings
  if settings.inputs.isEmpty then .error (log.error "No litmus tests to translate" false)
  else
    match settings.outputDir with
    | none => .ok log
    | some directory =>
      match firstClash? directory [] settings.inputs with
      | some (first, second) => .error (log.error (clashMessage directory first second) false)
      | none => .ok { log with actions := log.actions ++ [Action.makeDirectories directory] }

/-! ## The jobs -/

/-- Whether several inputs are compiled at a time. -/
def Settings.isParallel (settings : Settings) : Bool :=
  1 < settings.processes && 1 < settings.inputs.length

/-- The log after one of its own timers, if it has been started, has been read. -/
def Log.stopTimer (log : Log) (timer : Option Int) (elapsed : String) : Log :=
  match timer.map fun number => log.readTimer (.ok number) elapsed true with
  | some (.ok (log, _)) => log
  | _ => log

section Jobs

variable {m : Type → Type} [Monad m] (host : Host m)

/-- The results of jobs that are done one after the other, unless the run breaks off. -/
def runSequentially (keepGoing : Bool) (log : Log) :
    (inputs : List String) → m (Log × Except FileError (List JobResult))
  | [] => return (log, .ok [])
  | input :: inputs => do
    let (log, timer) := log.startTimer ("Translation of \"" ++ input ++ "\"") true
    let (traced, elapsed) ← host.timed timer (host.job input)
    let log := log.notices host.wording.site traced.notices
    match JobResult.ofTraced input traced with
    | .error error => return (log, .error error)
    | .ok result =>
      let log := log.stopTimer timer elapsed
      -- The report of the failure is left to the end of the run.
      if !result.succeeded && !keepGoing then return (log, .ok [result])
      else
        let (log, results) ← runSequentially keepGoing log inputs
        return (log, results.map (result :: ·))

/-- The results of all jobs and what they have to say, unless the run breaks off. -/
def runAll : (inputs : List String) → m (Except FileError (List (JobResult × List Notice)))
  | [] => return .ok []
  | input :: inputs => do
    let traced ← host.job input
    match JobResult.ofTraced input traced with
    | .error error => return .error error
    | .ok result =>
      let results ← runAll inputs
      return results.map ((result, traced.notices) :: ·)

/-- The results of the jobs. -/
def runJobs (settings : Settings) (log : Log) : m (Log × Except FileError (List JobResult)) :=
  if settings.isParallel then do
    let (log, timer) := log.startTimer
      ("Translation of " ++ toString settings.inputs.length ++ " test(s) with "
        ++ toString settings.processes ++ " processes") true
    let (results, elapsed) ← host.timed timer (runAll host settings.inputs)
    match results with
    | .error error => return (log, .error error)
    | .ok results =>
      let log := (log.notices host.wording.site (results.flatMap Prod.snd)).stopTimer timer elapsed
      return (log, .ok (results.map Prod.fst))
  else runSequentially host settings.keepGoing log settings.inputs

end Jobs

/-! ## After the jobs -/

/-- What has been done with the results so far. -/
structure Tally where
  log : Log
  /-- The records that go to one stream, in order. -/
  records : List String := []
  /-- Whether an input has been skipped. -/
  skipped : Bool := false

namespace Tally

variable (wording : Wording)

/-- The tally after an input that has not been compiled: with a warning if such inputs are skipped,
otherwise with an error that ends the run. -/
def addFailure (settings : Settings) (tally : Tally) (input : String) (fault : JobFault) :
    Except Tally Tally :=
  let report := fault.report wording
  if settings.keepGoing then
    .ok { tally with
      log := tally.log.warning ("Skipping \"" ++ input ++ "\": " ++ report)
      skipped := true }
  else .error { tally with log := tally.log.error (input ++ ": " ++ report) false }

/-- The tally after the record of an input. -/
def addRecord (settings : Settings) (tally : Tally) (input record : String) : Tally :=
  match settings.outputDir with
  | none => { tally with records := tally.records ++ [record] }
  | some directory =>
    let file := recordFile directory input
    let log := { tally.log with actions := tally.log.actions ++ [Action.save file record] }
    { tally with log := log.notice wording.site (.saved input file) }

/-- The tally after some results, or the tally of a run that one of them ends. -/
def addAll (settings : Settings) (tally : Tally) : List JobResult → Except Tally Tally
  | [] => .ok tally
  | ⟨input, .error fault⟩ :: results => do
    let tally ← tally.addFailure wording settings input fault
    tally.addAll settings results
  | ⟨input, .ok record⟩ :: results =>
    (tally.addRecord wording settings input record).addAll settings results

end Tally

/-- What happens with the records that go to one stream: a line feed stands between neighbours. -/
def deliver (settings : Settings) (records : List String) : List Action :=
  let text := String.intercalate "\n" records
  match settings.outputDir, settings.output with
  | some _, _ => []
  | none, some file => [.save file text]
  | none, none => [.print .out text]

/-- The actions of a run from its first job on, and its exit status. The file for all records is
opened before anything is told of the results. -/
def conclude (wording : Wording) (settings : Settings) (log : Log) (results : List JobResult) :
    List Action × Nat :=
  match Tally.addAll wording settings ⟨{ log with actions := [] }, [], false⟩ results with
  | .error tally => (log.actions ++ deliver settings tally.records ++ tally.log.actions, 1)
  | .ok tally =>
    let compiled :=
      Notice.compiled (results.countP JobResult.succeeded) settings.inputs.length
    (log.actions ++ deliver settings tally.records ++
        (tally.log.notice wording.site compiled).actions,
      if tally.skipped then 1 else 0)

end Litmus
