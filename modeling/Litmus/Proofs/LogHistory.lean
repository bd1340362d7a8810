import Litmus.Proofs.Logging

/-!
# What a log remembers

A log is called again and again, and between the calls times may be switched on and off, and so may
the rule that a repeated warning is given once. What has been done while they were on is all that the
log remembers.

* **`noted_after`**: what a call changes, and that it changes nothing else that is remembered
  (`Noted`).
* **`remembers_afterAll`**: after any calls a log knows the timers and warnings that its calls were
  about while they were to be remembered (`Remembers`).
* **`timers_warnings_afterAll`**: a timer is read under the name it was started with, and a warning
  is left out exactly if it has been given.
-/

namespace Litmus

/-! ## Calls -/

/-- Something that is done with a log. -/
inductive LogCall where
  | tell (message : String) (level maxLevel : Int) (condition : Bool) (site : Site)
  | warning (message : String)
  | startTimer (name : String) (shown : Bool)
  | readTimer (number : Except String Int) (elapsed : String) (shown : Bool)
  /-- An error that is raised to a handler. -/
  | error (message : String)
  | setTiming (on : Bool)
  | setVerbosity (verbosity : Int)
  | setSingleWarnings (on : Bool)

namespace LogCall

/-- Whether times are taken from this call on, if it says so. -/
def timing? : LogCall → Option Bool
  | .setTiming on => some on
  | _ => none

/-- Whether repeated warnings are given once from this call on, if it says so. -/
def singleWarnings? : LogCall → Option Bool
  | .setSingleWarnings on => some on
  | _ => none

/-- The name of the timer that a call is to start. -/
def started? : LogCall → Option String
  | .startTimer name _ => some name
  | _ => none

/-- The message that a call warns of. -/
def warned? : LogCall → Option String
  | .warning message => some message
  | _ => none

/-! ## Switches -/

section

variable (set? : LogCall → Option Bool)

/-- A switch after some calls: each call may set it. -/
def isOn (on : Bool) (calls : List LogCall) : Bool :=
  calls.foldl (fun on call => (set? call).getD on) on

/-- The calls that are made while a switch is on. -/
def whileOn : (on : Bool) → List LogCall → List LogCall
  | _, [] => []
  | on, call :: calls => (if on then [call] else []) ++ whileOn ((set? call).getD on) calls

theorem isOn_concat (on : Bool) (calls : List LogCall) (call : LogCall) :
    isOn set? on (calls ++ [call]) = (set? call).getD (isOn set? on calls) := by
  rw [isOn, List.foldl_append]
  rfl

theorem whileOn_append (on : Bool) (before after : List LogCall) :
    whileOn set? on (before ++ after) =
      whileOn set? on before ++ whileOn set? (isOn set? on before) after := by
  induction before generalizing on with
  | nil => rfl
  | cons call before ih =>
    rw [List.cons_append, whileOn, ih, whileOn, List.append_assoc]
    rfl

/-- What is read off the calls made while a switch is on, with one more call. -/
theorem filterMap_whileOn_concat (on : Bool) (read : LogCall → Option String)
    (calls : List LogCall) (call : LogCall) :
    (whileOn set? on (calls ++ [call])).filterMap read =
      (whileOn set? on calls).filterMap read ++
        if isOn set? on calls = true then (read call).toList else [] := by
  rw [whileOn_append, List.filterMap_append, whileOn, whileOn, List.append_nil]
  cases isOn set? on calls <;> rfl

end

/-- The names of the timers that are started while times are taken. At first no times are taken. -/
def timersOf (calls : List LogCall) : List String :=
  (whileOn timing? false calls).filterMap started?

/-- The messages that are warned of while repeated warnings are given once, as they are at first. -/
def warningsOf (calls : List LogCall) : List String :=
  (whileOn singleWarnings? true calls).filterMap warned?

end LogCall

namespace Log

open LogCall

/-! ## One call -/

/-- The log after a call. A timer that cannot be read leaves it as it is. -/
def after (log : Log) : LogCall → Log
  | .tell message level maxLevel condition site => log.tell message level maxLevel condition site
  | .warning message => log.warning message
  | .startTimer name shown => (log.startTimer name shown).1
  | .readTimer number elapsed shown =>
    match log.readTimer number elapsed shown with
    | .ok (log, _) => log
    | .error _ => log
  | .error message => log.error message true
  | .setTiming on => { log with timing := on }
  | .setVerbosity verbosity => { log with verbosity := verbosity }
  | .setSingleWarnings on => { log with singleWarnings := on }

/-- Reading a timer prints a line, or nothing. -/
theorem exists_actions_of_readTimer_eq_ok {log next : Log} {number : Except String Int}
    {elapsed : String} {shown taken : Bool} (h : log.readTimer number elapsed shown = .ok (next, taken)) :
    ∃ actions, next = { log with actions := actions } := by
  simp only [readTimer] at h
  split at h
  · split at h
    · cases h
    · split at h
      · cases h
      · obtain ⟨rfl, -⟩ := Prod.mk.inj (Except.ok.inj h)
        cases shown <;> exact ⟨_, rfl⟩
  · obtain ⟨rfl, -⟩ := Prod.mk.inj (Except.ok.inj h)
    exact ⟨_, rfl⟩

/-- What a log has noted of a call: the switches that the call sets, its timer if times are taken, and
its warning if repeated warnings are given once. -/
structure Noted (log : Log) (call : LogCall) (next : Log) : Prop where
  timing : next.timing = call.timing?.getD log.timing
  singleWarnings : next.singleWarnings = call.singleWarnings?.getD log.singleWarnings
  timers : next.timers = log.timers ++ if log.timing = true then call.started?.toList else []
  counted : log.Counted → next.Counted
  warned : ∀ message, message ∈ next.warned ↔
    message ∈ log.warned ∨ log.singleWarnings = true ∧ call.warned? = some message
  atLineStart : next.atLineStart = log.atLineStart
  raising : next.raising = log.raising
  stream : next.stream = log.stream

/-- A call that is neither about timers nor about warnings leaves nothing to be noted. -/
theorem noted_of_quiet {log : Log} {call : LogCall} {verbosity : Int} {actions : List Action}
    (htiming : call.timing? = none) (hsingle : call.singleWarnings? = none)
    (hstarted : call.started? = none) (hwarned : call.warned? = none) :
    log.Noted call { log with verbosity := verbosity, actions := actions } := by
  constructor <;> simp [htiming, hsingle, hstarted, hwarned, Counted]

/-- A warning that is left out is remembered already, and any other one is noted. -/
theorem noted_warning {log : Log} (hline : log.atLineStart = true) (message : String) :
    log.Noted (.warning message) (log.warning message) := by
  rw [warning_eq hline]
  by_cases hgiven : log.singleWarnings = true ∧ message ∈ log.warned
  · have hwarned : ∀ other, other ∈ log.warned ↔ other ∈ log.warned ∨
        log.singleWarnings = true ∧ (LogCall.warning message).warned? = some other := by
      intro other
      rw [iff_self_or]
      rintro ⟨-, h⟩
      exact Option.some.inj h ▸ hgiven.2
    rw [if_pos hgiven]
    exact ⟨rfl, rfl, by simp [started?], id, hwarned, rfl, rfl, rfl⟩
  · have hwarned : ∀ other,
        (other ∈ log.warned ++ if log.singleWarnings = true then [message] else []) ↔
          other ∈ log.warned ∨
            log.singleWarnings = true ∧ (LogCall.warning message).warned? = some other := by
      intro other
      cases log.singleWarnings <;> simp [warned?, eq_comm]
    rw [if_neg hgiven]
    exact ⟨rfl, rfl, by simp [started?], id, hwarned, rfl, rfl, rfl⟩

theorem noted_startTimer (log : Log) (name : String) (shown : Bool) :
    log.Noted (.startTimer name shown) (log.startTimer name shown).1 := by
  rw [startTimer]
  cases htiming : log.timing with
  | false => constructor <;> simp [timing?, singleWarnings?, warned?, htiming]
  | true =>
    cases shown <;> constructor <;>
      simp [timing?, singleWarnings?, started?, warned?, htiming, Counted, print]

/-- **What a call changes,** at the start of a line and where errors are raised. -/
theorem noted_after {log : Log} (hline : log.atLineStart = true) (hraising : log.raising = true)
    (call : LogCall) : log.Noted call (log.after call) := by
  cases call with
  | tell message level maxLevel condition site =>
    have htell : ∃ actions, log.tell message level maxLevel condition site =
        { log with actions := actions } := by
      rw [tell, print, ← hline]
      split <;> exact ⟨_, rfl⟩
    obtain ⟨actions, htell⟩ := htell
    rw [after, htell]
    exact noted_of_quiet rfl rfl rfl rfl
  | warning message => exact noted_warning hline message
  | startTimer name shown => exact noted_startTimer log name shown
  | readTimer number elapsed shown =>
    have hread : ∃ actions, log.after (.readTimer number elapsed shown) =
        { log with actions := actions } := by
      simp only [after]
      split
      · rename_i hread
        exact exists_actions_of_readTimer_eq_ok hread
      · exact ⟨_, rfl⟩
    obtain ⟨actions, hread⟩ := hread
    rw [hread]
    exact noted_of_quiet rfl rfl rfl rfl
  | error message =>
    have herror : log.error message true = log := by
      rw [error, raises, hraising, freshLine_of_atLineStart hline]
      rfl
    rw [after, herror]
    exact noted_of_quiet rfl rfl rfl rfl
  | setTiming on =>
    constructor <;> simp [after, timing?, singleWarnings?, started?, warned?, Counted]
  | setVerbosity verbosity => exact noted_of_quiet rfl rfl rfl rfl
  | setSingleWarnings on =>
    constructor <;> simp [after, timing?, singleWarnings?, started?, warned?, Counted]

/-! ## Many calls -/

/-- The log after some calls. -/
def afterAll (log : Log) (calls : List LogCall) : Log :=
  calls.foldl after log

/-- What a log remembers of the calls since it was fresh. The timers are numbered by their places, and
nothing has been printed that has not been ended as a line. -/
structure Remembers (log : Log) (calls : List LogCall) : Prop where
  timing : log.timing = isOn timing? false calls
  singleWarnings : log.singleWarnings = isOn singleWarnings? true calls
  timers : log.timers = timersOf calls
  counted : log.Counted
  warned : ∀ message, message ∈ log.warned ↔ message ∈ warningsOf calls
  atLineStart : log.atLineStart = true
  raising : log.raising = true
  stream : log.stream = .out

theorem Remembers.after {log : Log} {calls : List LogCall} (h : log.Remembers calls)
    (call : LogCall) : (log.after call).Remembers (calls ++ [call]) := by
  have noted := noted_after h.atLineStart h.raising call
  refine ⟨?_, ?_, ?_, noted.counted h.counted, fun message => ?_, noted.atLineStart.trans h.atLineStart,
    noted.raising.trans h.raising, noted.stream.trans h.stream⟩
  · rw [noted.timing, h.timing, isOn_concat]
  · rw [noted.singleWarnings, h.singleWarnings, isOn_concat]
  · rw [noted.timers, h.timers, h.timing, timersOf, timersOf, filterMap_whileOn_concat]
  · rw [noted.warned, h.warned, h.singleWarnings, warningsOf, warningsOf,
      filterMap_whileOn_concat, List.mem_append]
    cases isOn singleWarnings? true calls <;> simp

/-- **After any calls** a fresh log remembers them. Induction from the end of the calls, since the last
one is noted by the log that remembers those before it. -/
theorem remembers_afterAll (calls : List LogCall) : (afterAll {} calls).Remembers calls := by
  induction calls using List.reverseRecOn with
  | nil => exact ⟨rfl, rfl, rfl, rfl, fun _ => .rfl, rfl, rfl, rfl⟩
  | append_singleton calls call ih =>
    rw [afterAll, List.foldl_append]
    exact ih.after call

/-- The timers of all calls, with the one that a call in their midst has started in its place. -/
theorem timersOf_startTimer {before : List LogCall} (htiming : isOn timing? false before = true)
    (name : String) (shown : Bool) (between : List LogCall) :
    ∃ later, timersOf (before ++ .startTimer name shown :: between) =
      timersOf before ++ name :: later := by
  rw [timersOf, whileOn_append, htiming, List.filterMap_append]
  exact ⟨_, rfl⟩

/-- **Timers and warnings after any calls of a fresh log.** While times are taken, the number of a new
timer is how many have been started while times were taken; whenever it is read later on while times
are taken, the time is printed with the very name that it was started with. And a warning adds its line,
unless repeated warnings are given once and its message has been warned of under the same rule. -/
theorem timers_warnings_afterAll (calls : List LogCall) :
    (∀ name shown, isOn timing? false calls = true →
      ((afterAll {} calls).startTimer name shown).2 = some ((timersOf calls).length : Int) ∧
      ∀ between elapsed, isOn timing? false (calls ++ .startTimer name shown :: between) = true →
        (afterAll {} (calls ++ .startTimer name shown :: between)).readTimer
            (.ok (timersOf calls).length) elapsed true =
          .ok ((afterAll {} (calls ++ .startTimer name shown :: between)).print .out
            (timeLine name elapsed), true)) ∧
    ∀ message, ((afterAll {} calls).warning message).actions = (afterAll {} calls).actions ++
      if isOn singleWarnings? true calls = true ∧ message ∈ warningsOf calls then []
      else [.print .err (warningLine message)] := by
  have h := remembers_afterAll calls
  refine ⟨fun name shown htiming => ⟨?_, fun between elapsed hlater => ?_⟩, fun message => ?_⟩
  · rw [startTimer, if_pos (h.timing.trans htiming)]
    show some (afterAll {} calls).nextTimer = _
    rw [h.counted, h.timers]
  · have hread := remembers_afterAll (calls ++ .startTimer name shown :: between)
    obtain ⟨later, htimers⟩ := timersOf_startTimer htiming name shown between
    have hname := timerName?_length (hread.timers.trans htimers)
    simp only [readTimer, if_pos (hread.timing.trans hlater), hname, hread.stream, if_true, timeLine]
  · simp only [warning_eq h.atLineStart, h.warned, h.singleWarnings]
    split
    · exact (List.append_nil _).symm
    · rfl

/-- Calls with a timer that is not started and a warning that is not remembered. -/
def switchedCalls : List LogCall :=
  [.setTiming true, .startTimer "first" true, .setTiming false, .startTimer "none" true,
    .setTiming true, .warning "once", .setSingleWarnings false, .warning "again", .warning "once",
    .setSingleWarnings true]

/-- Calls after which times are taken again, one of them for a timer that does not exist. -/
def furtherCalls : List LogCall :=
  [.startTimer "third" false, .readTimer (.ok 0) "0.01" true, .setTiming false, .error "caught",
    .setTiming true, .readTimer (.ok 7) "0.01" true]

/-- The statement for these calls: the second timer keeps its name, a warning that was given under the
rule is left out, and one that was only given without it comes once more. -/
theorem timers_warnings_afterAll_switched :
    ((afterAll {} switchedCalls).startTimer "second" true).2 = some 1 ∧
    (afterAll {} (switchedCalls ++ .startTimer "second" true :: furtherCalls)).readTimer (.ok 1)
        "0.25" true =
      .ok ((afterAll {} (switchedCalls ++ .startTimer "second" true :: furtherCalls)).print .out
        "Timer \"second\": 0.25 sec\n", true) ∧
    ((afterAll {} switchedCalls).warning "once").actions = (afterAll {} switchedCalls).actions ∧
    ((afterAll {} switchedCalls).warning "again").actions =
      (afterAll {} switchedCalls).actions ++ [.print .err "WARNING: again\n"] := by
  obtain ⟨htimers, hwarnings⟩ := timers_warnings_afterAll switchedCalls
  obtain ⟨hnumber, hread⟩ := htimers "second" true (by decide)
  exact ⟨hnumber, hread furtherCalls "0.25" (by decide),
    (hwarnings "once").trans (List.append_nil _), hwarnings "again"⟩

end Log

end Litmus
