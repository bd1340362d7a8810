import Litmus.Proofs.Sequence
import Litmus.Run
import Mathlib.Data.List.Induction

/-!
# What a log prints

A log that nobody has interfered with prints line after line, and every change to it is described by
the lines that it adds. During a run there are three kinds of them.

* **`notices_eq`**: notices add the lines of those that are shown, on the stream of messages.
* **`stopTimer_startTimer`**: a timer adds a line when it is started and a line when it is read. The
  number that a timer gets is the place of its name among all names, which every timer preserves
  (`Log.Counted`).
* **`warnings_eq`**: warnings add a line for each distinct message, in the order in which the messages
  come up first.
-/

namespace Litmus

namespace Log

/-! ## Lines on the stream of messages -/

/-- The log after some texts have been printed on the stream of messages. -/
def say (log : Log) (texts : List String) : Log :=
  { log with actions := log.actions ++ texts.map (.print log.stream) }

/-- The log with more names of timers. -/
def withTimers (log : Log) (names : List String) : Log :=
  { log with timers := log.timers ++ names, nextTimer := log.nextTimer + names.length }

@[simp] theorem say_nil (log : Log) : log.say [] = log := by
  simp [say]

@[simp] theorem withTimers_nil (log : Log) : log.withTimers [] = log := by
  simp [withTimers]

@[simp] theorem say_say (log : Log) (first second : List String) :
    (log.say first).say second = log.say (first ++ second) := by
  simp [say]

@[simp] theorem withTimers_withTimers (log : Log) (first second : List String) :
    (log.withTimers first).withTimers second = log.withTimers (first ++ second) := by
  simp only [withTimers, List.append_assoc, List.length_append, Int.natCast_add, Int.add_assoc]

/-- The names of the timers are kept apart from what is printed. -/
theorem say_withTimers (log : Log) (names texts : List String) :
    (log.withTimers names).say texts = (log.say texts).withTimers names := rfl

/-! ## Notices -/

/-- Whether a notice is shown at a verbosity. -/
def shows (verbosity : Int) (notice : Notice) : Bool :=
  notice.level < verbosity && verbosity ≤ topLevel + 1

section

variable (site : Notice → Site)

/-- The lines of those notices that are shown at a verbosity. From some verbosity on each of them goes
over two lines, the second of which is for the site. -/
def shownLines (verbosity : Int) (notices : List Notice) : List String :=
  (notices.filter (shows verbosity)).map fun notice =>
    messageText verbosity notice.message (site notice) ++ "\n"

/-- Up to the verbosity 1 nothing is shown. -/
theorem shownLines_of_le_one {verbosity : Int} (h : verbosity ≤ 1) (notices : List Notice) :
    shownLines site verbosity notices = [] := by
  have hhidden : ∀ notice ∈ notices, ¬ shows verbosity notice = true := by
    intro notice _
    have hlevel : 1 ≤ notice.level := by cases notice <;> simp [Notice.level]
    simp only [shows, Bool.and_eq_true, decide_eq_true_eq]
    omega
  rw [shownLines, List.filter_eq_nil_iff.mpr hhidden, List.map_nil]

theorem notice_eq {log : Log} (hline : log.atLineStart = true) (notice : Notice) :
    log.notice site notice = log.say (shownLines site log.verbosity [notice]) := by
  have htells : log.tells notice.level topLevel = shows log.verbosity notice := rfl
  rw [Log.notice, tell, htells, Bool.and_true, shownLines]
  cases hshows : shows log.verbosity notice with
  | false => simp [hshows]
  | true =>
    simp only [hshows, if_true, List.filter_cons_of_pos, List.filter_nil, List.map_cons, List.map_nil]
    rw [say, print, ← hline]
    rfl

theorem notices_eq {log : Log} (hline : log.atLineStart = true) (notices : List Notice) :
    log.notices site notices = log.say (shownLines site log.verbosity notices) := by
  induction notices generalizing log with
  | nil => exact (say_nil log).symm
  | cons notice notices ih =>
    have hrest := @ih (log.notice site notice) (by rw [notice_eq site hline]; exact hline)
    rw [Log.notices, List.foldl_cons]
    rw [Log.notices] at hrest
    rw [hrest, notice_eq site hline, say_say]
    -- the two parts are filtered and written one after the other
    congr 1
    show shownLines site log.verbosity [notice] ++ shownLines site log.verbosity notices = _
    rw [shownLines, shownLines, shownLines, ← List.map_append, ← List.filter_append]
    rfl

end

/-! ## Timers -/

/-- The next number is the number of timers, so that numbers and names belong together. -/
def Counted (log : Log) : Prop :=
  log.nextTimer = log.timers.length

theorem Counted.withTimers {log : Log} (h : log.Counted) (names : List String) :
    (log.withTimers names).Counted := by
  have hnumber : log.nextTimer = (log.timers.length : Int) := h
  simp only [Counted, Log.withTimers, List.length_append, Int.natCast_add, hnumber]

/-- The line that says that a timer has been started. -/
def startLine (name : String) : String :=
  "Timer \"" ++ name ++ "\": start\n"

/-- The line that says what time a timer has taken. -/
def timeLine (name elapsed : String) : String :=
  "Timer \"" ++ name ++ "\": " ++ elapsed ++ " sec\n"

theorem startTimer_of_timing {log : Log} (h : log.timing = true) (name : String) :
    log.startTimer name true =
      ((log.say [startLine name]).withTimers [name], some log.nextTimer) := by
  rw [startTimer, if_pos h]
  rfl

/-- The number of a timer, if times are taken, is how many have been started before. -/
theorem startTimer_snd {log : Log} (h : log.Counted) (name : String) :
    (log.startTimer name true).2 = if log.timing then some (log.timers.length : Int) else none := by
  rw [startTimer, ← h]
  cases log.timing <;> rfl

/-- The place of a name among all names is the number that it is read by. -/
theorem timerName?_length {log : Log} {before after : List String} {name : String}
    (h : log.timers = before ++ name :: after) : log.timerName? before.length = some name := by
  rw [timerName?, if_neg (by omega), if_neg (by omega), Int.toNat_natCast, h]
  simp

/-- The timer that has been started last is read under its own name. -/
theorem timerName?_withTimers {log : Log} (h : log.Counted) (name : String) :
    (log.withTimers [name]).timerName? log.nextTimer = some name := by
  have hnumber : log.nextTimer = (log.timers.length : Int) := h
  rw [hnumber]
  exact timerName?_length rfl

/-- The lines of something that is timed: its own lines between the start and the time, if times are
taken. Where it does not come to its end, the time is missing. -/
def timedLines (timing ended : Bool) (name elapsed : String) (lines : List String) : List String :=
  if timing then startLine name :: lines ++ (if ended then [timeLine name elapsed] else [])
  else lines

/-- The timers that are started for something that is timed. -/
def timedNames (timing : Bool) (name : String) : List String :=
  if timing then [name] else []

theorem startTimer_notices (site : Notice → Site) {log : Log} (hline : log.atLineStart = true)
    (name elapsed : String) (notices : List Notice) :
    (log.startTimer name true).1.notices site notices =
      (log.say (timedLines log.timing false name elapsed
        (shownLines site log.verbosity notices))).withTimers (timedNames log.timing name) := by
  cases htiming : log.timing with
  | false => simp [startTimer_of_not_timing htiming, notices_eq site hline, timedLines, timedNames]
  | true =>
    rw [startTimer_of_timing htiming]
    have hstarted : ((log.say [startLine name]).withTimers [name]).atLineStart = true := hline
    refine (notices_eq site hstarted notices).trans ?_
    rw [say_withTimers, say_say, timedLines, timedNames, if_pos rfl, if_pos rfl]
    simp [Log.say, Log.withTimers]

/-- **A timer around notices.** When it is read the log still knows it by its number. -/
theorem stopTimer_startTimer (site : Notice → Site) {log : Log} (hcounted : log.Counted)
    (hline : log.atLineStart = true) (name elapsed : String) (notices : List Notice) :
    ((log.startTimer name true).1.notices site notices).stopTimer (log.startTimer name true).2
        elapsed =
      (log.say (timedLines log.timing true name elapsed
        (shownLines site log.verbosity notices))).withTimers (timedNames log.timing name) := by
  rw [startTimer_notices site hline name elapsed]
  cases htiming : log.timing with
  | false => simp [startTimer_of_not_timing htiming, stopTimer, timedLines, timedNames]
  | true =>
    rw [startTimer_of_timing htiming, timedNames, if_pos rfl]
    generalize shownLines site log.verbosity notices = lines
    -- what is printed does not change what the number stands for
    have hname : ((log.say (timedLines true false name elapsed lines)).withTimers
        [name]).timerName? log.nextTimer = some name :=
      timerName?_withTimers hcounted name
    have hread : ((log.say (timedLines true false name elapsed lines)).withTimers
        [name]).readTimer (.ok log.nextTimer) elapsed true =
          .ok ((log.say (timedLines true true name elapsed lines)).withTimers [name], true) := by
      simp only [readTimer, hname]
      simp [htiming, Log.say, Log.withTimers, print, timedLines, timeLine]
    rw [stopTimer, Option.map_some, hread]

/-! ## Warnings and errors -/

/-- The line of a warning. -/
def warningLine (message : String) : String :=
  "WARNING: " ++ message ++ "\n"

/-- The line of an error that ends the run. -/
def errorLine (message : String) : String :=
  "ERROR: " ++ message ++ "\n"

/-- The log after a warning for each distinct message, in the order in which they come up first. -/
def warnedOf (log : Log) (messages : List String) : Log :=
  { log with
    warned := messages.eraseDups
    actions := log.actions ++ messages.eraseDups.map fun message =>
      .print .err (warningLine message) }

/-- A warning adds its line, unless it is to be given once and has been given. -/
theorem warning_eq {log : Log} (hline : log.atLineStart = true) (message : String) :
    log.warning message =
      if log.singleWarnings = true ∧ message ∈ log.warned then log
      else { log with
        warned := log.warned ++ if log.singleWarnings = true then [message] else []
        actions := log.actions ++ [.print .err (warningLine message)] } := by
  rw [warning]
  split
  · rfl
  · cases hsingle : log.singleWarnings <;> simp [hsingle, freshLine, hline, print, warningLine]

/-- **Each message is warned of once,** when it comes up first. Induction from the end of the list:
a message is new exactly if it is not among those before it. -/
theorem warnings_eq {log : Log} (hsingle : log.singleWarnings = true)
    (hline : log.atLineStart = true) (hwarned : log.warned = []) (messages : List String) :
    messages.foldl warning log = log.warnedOf messages := by
  induction messages using List.reverseRecOn with
  | nil =>
    rw [List.foldl_nil, warnedOf, List.eraseDups_nil, List.map_nil, List.append_nil, ← hwarned]
  | append_singleton messages message ih =>
    have hsame : (log.warnedOf messages).atLineStart = true := hline
    rw [List.foldl_append, List.foldl_cons, List.foldl_nil, ih, warning_eq hsame, warnedOf, warnedOf,
      eraseDups_concat]
    by_cases hmem : message ∈ messages
    · simp [hmem, hsingle]
    · simp [hmem, hsingle]

/-- A log that goes on from another one: it prints on the same stream what is shown at the same
verbosity, and is at the start of a line. -/
structure Continues (log next : Log) : Prop where
  verbosity : next.verbosity = log.verbosity
  stream : next.stream = log.stream
  atLineStart : next.atLineStart = true

theorem Continues.trans {log next third : Log} (h : log.Continues next) (h' : next.Continues third) :
    log.Continues third :=
  ⟨h'.verbosity.trans h.verbosity, h'.stream.trans h.stream, h'.atLineStart⟩

/-- A warning is one line on the standard error, or none. -/
theorem warning_cases {log : Log} (hline : log.atLineStart = true) (message : String) :
    log.Continues (log.warning message) ∧
      ∃ texts : List String,
        (log.warning message).actions = log.actions ++ texts.map (.print .err) := by
  rw [warning_eq hline]
  split
  · exact ⟨⟨rfl, rfl, hline⟩, [], by simp⟩
  · exact ⟨⟨rfl, rfl, hline⟩, [warningLine message], rfl⟩

theorem error_eq {log : Log} (hline : log.atLineStart = true) (message : String) :
    log.error message false =
      { log with actions := log.actions ++ [.print .err (errorLine message)] } := by
  rw [error, raises, Bool.and_false, freshLine_of_atLineStart hline]
  rfl

end Log

end Litmus
