import Litmus.Action
import Litmus.Notice

/-!
# The log of a run

The log prints messages, warnings, errors and times, and remembers what it needs for that: which
warnings have been given, which timers have been started, and whether the next text starts a line.

Messages go to a stream of choice, warnings and errors to the standard error. A message is told if
the verbosity is above its level (and not too far above what it is meant for), from some verbosity on
with its site; a warning is given once, unless repetitions are wanted.
-/

namespace Litmus

/-- The state of a log. -/
structure Log where
  verbosity : Int := 0
  /-- Whether times are taken. -/
  timing : Bool := false
  /-- Whether a repeated warning is given once only. -/
  singleWarnings : Bool := true
  /-- Whether errors may be raised to a handler. -/
  raising : Bool := true
  /-- Whether the next text starts a line. -/
  atLineStart : Bool := true
  /-- The stream of messages and times. -/
  stream : Stream := .out
  /-- The names of the timers that have been started, in order. -/
  timers : List String := []
  /-- The number of the next timer. Unless somebody interferes, it is how many there are. -/
  nextTimer : Int := 0
  /-- The warnings that were given while they were to be given once. -/
  warned : List String := []
  /-- What has been printed, in order. -/
  actions : List Action := []

namespace Log

/-- The log after a text has been printed. -/
def print (log : Log) (stream : Stream) (text : String) : Log :=
  { log with actions := log.actions ++ [.print stream text] }

/-- The log at the start of a line of the standard error. -/
def freshLine (log : Log) : Log :=
  if log.atLineStart then log else { log.print .err "\n" with atLineStart := true }

@[simp] theorem actions_print (log : Log) (stream : Stream) (text : String) :
    (log.print stream text).actions = log.actions ++ [.print stream text] := rfl

/-- At the start of a line nothing is missing. -/
theorem freshLine_of_atLineStart {log : Log} (h : log.atLineStart = true) :
    log.freshLine = log := by
  simp [freshLine, h]

@[simp] theorem atLineStart_freshLine (log : Log) : log.freshLine.atLineStart = true := by
  unfold freshLine
  split
  · assumption
  · rfl

/-! ## Messages and warnings -/

/-- Whether a message of a level is told; it is meant for verbosities up to one more than
`maxLevel`. -/
def tells (log : Log) (level maxLevel : Int) : Bool :=
  level < log.verbosity && log.verbosity ≤ maxLevel + 1

/-- The verbosity from which on messages come with their sites. -/
def siteVerbosity : Int := 5

/-- The text of a message that is told at a site. -/
def messageText (verbosity : Int) (message : String) (site : Site) : String :=
  if siteVerbosity ≤ verbosity then
    "\"" ++ message ++ "\"\nfrom " ++ site.file ++ ":" ++ toString site.line
  else message

/-- The log after a message that is told at a site. -/
def tell (log : Log) (message : String) (level maxLevel : Int) (condition : Bool) (site : Site) :
    Log :=
  if log.tells level maxLevel && condition then
    { log.print log.stream (messageText log.verbosity message site ++ "\n") with atLineStart := true }
  else log

/-- The highest level that messages are meant for if nothing else is said. -/
def topLevel : Int := 10

/-- The log after a notice, where the sites of notices are given. -/
def notice (site : Notice → Site) (log : Log) (notice : Notice) : Log :=
  log.tell notice.message notice.level topLevel true (site notice)

/-- The log after several notices. -/
def notices (site : Notice → Site) (log : Log) (notices : List Notice) : Log :=
  notices.foldl (notice site) log

/-- The log after a warning. -/
def warning (log : Log) (message : String) : Log :=
  if log.singleWarnings ∧ message ∈ log.warned then log
  else
    -- A warning that may be repeated is not remembered.
    let log := if log.singleWarnings then { log with warned := log.warned ++ [message] } else log
    log.freshLine.print .err ("WARNING: " ++ message ++ "\n")

/-! ## Errors -/

/-- Whether an error goes to a handler instead of ending the run. -/
def raises (log : Log) (mayRaise : Bool) : Bool :=
  log.raising && mayRaise

/-- The log after an error. An error that ends the run is told. -/
def error (log : Log) (message : String) (mayRaise : Bool) : Log :=
  if log.raises mayRaise then log.freshLine
  else log.freshLine.print .err ("ERROR: " ++ message ++ "\n")

/-- The log after a computation: its notices, and its failure as an error. -/
def follow {ε α : Type} (site : Notice → Site) (log : Log) (traced : Traced ε α)
    (message : ε → String) : Log :=
  let log := log.notices site traced.notices
  match traced.outcome with
  | .ok _ => log
  | .error e => log.error (message e) true

/-! ## Timers -/

/-- Why there is no time of a timer. -/
inductive TimerFault where
  /-- What is given as the number of a timer is of another shape. -/
  | noNumber (shape : String)
  /-- There is no timer with the number. -/
  | noTimer

/-- The wording of a fault. -/
def TimerFault.message : TimerFault → String
  | .noNumber shape => "list indices must be integers or slices, not " ++ shape
  | .noTimer => "list index out of range"

/-- The log after a timer has been started, and the number of the timer. No timer is started while
no times are taken. -/
def startTimer (log : Log) (name : String) (shown : Bool) : Log × Option Int :=
  if log.timing then
    let log' := if shown then log.print log.stream ("Timer \"" ++ name ++ "\": start\n") else log
    ({ log' with timers := log.timers ++ [name], nextTimer := log.nextTimer + 1 },
      some log.nextTimer)
  else (log, none)

/-- While no times are taken, starting a timer does nothing. -/
theorem startTimer_of_not_timing {log : Log} (h : log.timing = false) (name : String)
    (shown : Bool) : log.startTimer name shown = (log, none) := by
  simp [startTimer, h]

/-- The name of the timer with a number; negative numbers count from the last one. -/
def timerName? (log : Log) (number : Int) : Option String :=
  let number := if number < 0 then number + log.timers.length else number
  if number < 0 then none else log.timers[number.toNat]?

/-- The log after a timer has been read, and whether it gave a time. The elapsed time is given, and
the number of the timer, or the shape of what has been given in its place. -/
def readTimer (log : Log) (number : Except String Int) (elapsed : String) (shown : Bool) :
    Except TimerFault (Log × Bool) :=
  if log.timing then
    match number with
    | .error shape => .error (.noNumber shape)
    | .ok number =>
      match log.timerName? number with
      | none => .error .noTimer
      | some name =>
        let line := "Timer \"" ++ name ++ "\": " ++ elapsed ++ " sec\n"
        .ok (if shown then log.print log.stream line else log, true)
  else .ok (log, false)

end Log

end Litmus
