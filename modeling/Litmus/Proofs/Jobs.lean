import Litmus.Proofs.Logging
import Litmus.Proofs.Worlds

/-!
# The jobs of a run

A job reads its file and changes nothing, so on a given disk every input has an outcome, whatever
else is compiled before it. This module says what the outcome is, which jobs are done one after the
other and what they print.

* **`Disk.outcome`** is the record of an input or its fault. **`ofTraced_job`**: a job gives it as its
  result, unless the path of the input cannot even be asked for.
* **`Disk.attempted`** are the inputs that are compiled until one of them fails, or all of them if
  failures are to be skipped. **`runSequentially_run`**: these are the results of the jobs that are
  done one after the other. **`Log.afterJobs_eq`**: `jobLines` is what each of them prints, with the time
  of its own timer.
* **`runAll_run`**: jobs that are done at a time give the results of all inputs.
-/

namespace Litmus

namespace Disk

/-! ## Outcomes -/

/-- The job of an input on a disk. -/
def job (disk : Disk) (input : String) : Traced JobFault String :=
  compileFile input (disk.read input)

/-- What an input comes to: the text of its record, or its fault. -/
def outcome (disk : Disk) (input : String) : Except JobFault String :=
  (disk.job input).outcome

/-- Whether an input has a record. -/
def compiles (disk : Disk) (input : String) : Bool :=
  (disk.outcome input).isOk

/-- The result of the job of an input. -/
def result (disk : Disk) (input : String) : JobResult :=
  ⟨input, disk.outcome input⟩

/-- The job of an input gives a result: a record or a fault. -/
def Answers (disk : Disk) (input : String) : Prop :=
  ∃ result, JobResult.ofTraced input (disk.job input) = .ok result

theorem pathTrouble?_of_zero {path : String} (h : '\x00' ∈ path.toList) :
    pathTrouble? path = some .zeroByte := by
  rw [pathTrouble?, if_pos (by simpa using h)]

theorem pathTrouble?_ne_zero {path : String} (h : '\x00' ∉ path.toList) :
    pathTrouble? path ≠ some .zeroByte := by
  rw [pathTrouble?, if_neg (by simpa using h)]
  split
  · simp
  · split <;> simp

theorem read_of_zero (disk : Disk) {path : String} (h : '\x00' ∈ path.toList) :
    disk.read path = .error ⟨.zeroByte, path⟩ := by
  rw [read, resolve, followFrom, pathTrouble?_of_zero h]

/-- A path without the character zero can be asked for, whatever comes of it. -/
theorem trouble_of_read {disk : Disk} {path : String} {e : FileError} (h : '\x00' ∉ path.toList)
    (hread : disk.read path = .error e) : e.trouble ≠ .zeroByte := by
  rw [read] at hread
  split at hread
  · rename_i trouble htrouble
    obtain rfl := Except.error.inj hread
    rw [resolve, followFrom] at htrouble
    split at htrouble
    · rename_i hpath
      obtain rfl := Except.error.inj htrouble
      rintro rfl
      exact pathTrouble?_ne_zero h hpath
    · rintro rfl
      exact follow_ne_zeroByte _ _ _ htrouble
  · split at hread
    · obtain rfl := Except.error.inj hread
      simp
    · obtain rfl := Except.error.inj hread
      simp
    · cases hread

end Disk

theorem compileFile_error (file : String) (e : FileError) :
    (compileFile file (.error e)).outcome = .error (.unreadable e) := rfl

/-- Once its file has been read, a job fails at the text or at the test. -/
theorem breaksOff?_of_compileFile {file : String} {bytes : List UInt8} {fault : JobFault}
    (h : (compileFile file (.ok bytes)).outcome = .error fault) : fault.breaksOff? = none := by
  rw [compileFile, Traced.outcome_bind] at h
  rcases bind_eq_error.mp h with h | ⟨test, -, h⟩
  · rw [Test.ofFile] at h
    split at h
    · obtain rfl := Except.error.inj h
      rfl
    · obtain ⟨e, -, rfl⟩ := mapError_eq_error.mp h
      rfl
  · obtain ⟨e, -, rfl⟩ := mapError_eq_error.mp h
    rfl

namespace Disk

/-- **The result of a job.** Only a path that cannot be asked for has none. -/
theorem ofTraced_job (disk : Disk) (input : String) :
    JobResult.ofTraced input (disk.job input) =
      if '\x00' ∈ input.toList then .error ⟨.zeroByte, input⟩ else .ok (disk.result input) := by
  rw [JobResult.ofTraced, result, outcome, job]
  by_cases hzero : '\x00' ∈ input.toList
  · rw [if_pos hzero, read_of_zero disk hzero, compileFile_error]
    rfl
  · rw [if_neg hzero]
    cases houtcome : (compileFile input (disk.read input)).outcome with
    | ok record => rfl
    | error fault =>
      have hnone : fault.breaksOff? = none := by
        cases hread : disk.read input with
        | ok bytes => exact breaksOff?_of_compileFile (hread ▸ houtcome)
        | error e =>
          rw [hread, compileFile_error] at houtcome
          obtain rfl := Except.error.inj houtcome
          rw [JobFault.breaksOff?, if_neg (trouble_of_read hzero hread)]
      dsimp only
      rw [hnone]

theorem answers_iff {disk : Disk} {input : String} :
    disk.Answers input ↔ '\x00' ∉ input.toList := by
  rw [Answers, ofTraced_job]
  by_cases h : '\x00' ∈ input.toList <;> simp [h]

theorem ofTraced_of_answers {disk : Disk} {input : String} (h : disk.Answers input) :
    JobResult.ofTraced input (disk.job input) = .ok (disk.result input) := by
  rw [ofTraced_job, if_neg (answers_iff.mp h)]

/-! ## Which jobs are done -/

/-- Whether the jobs go on after that of an input: it has a result, and if that is a failure, it is
to be skipped. -/
def goesOn (disk : Disk) (keepGoing : Bool) (input : String) : Bool :=
  !input.toList.contains '\x00' && (disk.compiles input || keepGoing)

/-- The inputs whose jobs are done one after the other. -/
def attempted (disk : Disk) (keepGoing : Bool) (inputs : List String) : List String :=
  inputs.takeWhile (disk.goesOn keepGoing) ++ (inputs.find? (!disk.goesOn keepGoing ·)).toList

theorem attempted_cons (disk : Disk) (keepGoing : Bool) (input : String) (inputs : List String) :
    disk.attempted keepGoing (input :: inputs) =
      input :: if disk.goesOn keepGoing input then disk.attempted keepGoing inputs else [] := by
  rw [attempted, attempted]
  cases h : disk.goesOn keepGoing input <;> simp [h]

/-- The jobs that are done are the first ones. -/
theorem attempted_prefix (disk : Disk) (keepGoing : Bool) (inputs : List String) :
    disk.attempted keepGoing inputs <+: inputs := by
  induction inputs with
  | nil => exact List.prefix_refl []
  | cons input inputs ih =>
    rw [attempted_cons, List.prefix_cons_inj]
    split
    · exact ih
    · exact List.nil_prefix

theorem answers_attempted {disk : Disk} {inputs : List String}
    (h : ∀ input ∈ inputs, disk.Answers input) (keepGoing : Bool) :
    ∀ input ∈ disk.attempted keepGoing inputs, disk.Answers input := fun input hinput =>
  h input ((disk.attempted_prefix keepGoing inputs).subset hinput)

end Disk

/-! ## Jobs that are done one after the other -/

/-- The name of the timer of a job. -/
def jobTimer (input : String) : String :=
  "Translation of \"" ++ input ++ "\""

section

variable (wording : Wording) (elapsed : (timer : Int) → String)

/-- What the job of an input prints on the stream of messages: what there is to say about its test,
and how long it took. -/
def jobLines (disk : Disk) (verbosity : Int) (timing : Bool) (time input : String) : List String :=
  Log.timedLines timing (!input.toList.contains '\x00') (jobTimer input) time
    (Log.shownLines wording.site verbosity (disk.job input).notices)

/-- Where no times are taken, it does not matter what the time is. -/
theorem jobLines_of_not_timing (disk : Disk) (verbosity : Int) (time time' input : String) :
    jobLines wording disk verbosity false time input =
      jobLines wording disk verbosity false time' input := rfl

/-- The log after the job of an input has been done, with the timer that is started for it. -/
def Log.afterJob (disk : Disk) (log : Log) (input : String) : Log :=
  (log.say (jobLines wording disk log.verbosity log.timing (elapsed log.nextTimer) input)).withTimers
    (timedNames log.timing (jobTimer input))

/-- The log after jobs have been done. -/
def Log.afterJobs (disk : Disk) (log : Log) (inputs : List String) : Log :=
  inputs.foldl (afterJob wording elapsed disk) log

/-- What is told of jobs whose timers are numbered from a first one on. -/
def toldFrom (disk : Disk) (verbosity : Int) (timing : Bool) (first : Nat) (inputs : List String) :
    List String :=
  (inputs.zipIdx first).flatMap fun job =>
    jobLines wording disk verbosity timing (elapsed job.2) job.1

/-- **What jobs leave in a log**: what is told of them, and their timers. -/
theorem Log.afterJobs_eq (disk : Disk) (inputs : List String) {log : Log} {first : Nat}
    (htimer : log.timing = true → log.nextTimer = first) :
    log.afterJobs wording elapsed disk inputs =
      (log.say (toldFrom wording elapsed disk log.verbosity log.timing first inputs)).withTimers
        (inputs.flatMap fun input => timedNames log.timing (jobTimer input)) := by
  induction inputs generalizing log first with
  | nil => exact ((withTimers_nil _).trans (say_nil log)).symm
  | cons input inputs ih =>
    have hnext : (log.afterJob wording elapsed disk input).timing = true →
        (log.afterJob wording elapsed disk input).nextTimer = (first + 1 : Nat) := by
      intro htiming
      have htiming : log.timing = true := htiming
      show log.nextTimer + (timedNames log.timing (jobTimer input)).length = _
      rw [htimer htiming, htiming]
      rfl
    -- the number of the timer matters only where there is one
    have hlines : jobLines wording disk log.verbosity log.timing (elapsed log.nextTimer) input =
        jobLines wording disk log.verbosity log.timing (elapsed first) input := by
      cases htiming : log.timing with
      | false => exact jobLines_of_not_timing wording disk log.verbosity _ _ input
      | true => rw [htimer htiming]
    refine (ih hnext).trans ?_
    rw [toldFrom, toldFrom, List.zipIdx_cons, List.flatMap_cons, List.flatMap_cons, ← hlines,
      ← say_say, ← withTimers_withTimers]
    rfl

theorem runSequentially_cons (keepGoing : Bool) (log : Log) (input : String) (inputs : List String)
    (world : World) :
    (runSequentially (World.host wording elapsed) keepGoing log (input :: inputs)).run world =
      let started := log.startTimer (jobTimer input) true
      let told := started.1.notices wording.site (world.disk.job input).notices
      (match JobResult.ofTraced input (world.disk.job input) with
        | .error error => return (told, .error error)
        | .ok result =>
          if !result.succeeded && !keepGoing then
            return (told.stopTimer started.2 (started.2.elim "" elapsed), .ok [result])
          else do
            let (log, results) ← runSequentially (World.host wording elapsed) keepGoing
              (told.stopTimer started.2 (started.2.elim "" elapsed)) inputs
            return (log, results.map (result :: ·)) : StateM World _).run world := rfl

end

section

variable {wording : Wording} {elapsed : (timer : Int) → String} {keepGoing : Bool} {log : Log}
  {input : String} {inputs : List String} {world : World}

theorem Disk.answers_of_goesOn {disk : Disk} (h : disk.goesOn keepGoing input = true) :
    disk.Answers input := by
  rw [Disk.answers_iff]
  intro hzero
  simp [Disk.goesOn, hzero] at h

theorem Disk.goesOn_of_answers {disk : Disk} (h : disk.Answers input) :
    disk.goesOn keepGoing input = ((disk.result input).succeeded || keepGoing) := by
  simp [Disk.goesOn, Disk.answers_iff.mp h, Disk.compiles, JobResult.succeeded, Disk.result]

/-- The job that is told of in the log, from its timer to the end of its timer. -/
theorem stopTimer_of_answers (hcounted : log.Counted) (hline : log.atLineStart = true)
    {disk : Disk} (h : disk.Answers input) :
    ((log.startTimer (jobTimer input) true).1.notices wording.site
        (disk.job input).notices).stopTimer (log.startTimer (jobTimer input) true).2
        ((log.startTimer (jobTimer input) true).2.elim "" elapsed) =
      log.afterJob wording elapsed disk input := by
  rw [Log.stopTimer_startTimer wording.site hcounted hline, Log.afterJob, jobLines, hcounted,
    Log.startTimer_snd hcounted]
  cases htiming : log.timing with
  | false => rfl
  | true => simp [Disk.answers_iff.mp h]

/-- The last job that is done: either it has no result at all, and then its timer is not read, or its
failure ends the run. -/
theorem runSequentially_stops (hcounted : log.Counted) (hline : log.atLineStart = true)
    (hstop : world.disk.goesOn keepGoing input = false) :
    (runSequentially (World.host wording elapsed) keepGoing log (input :: inputs)).run world =
      ((log.afterJob wording elapsed world.disk input,
        (JobResult.ofTraced input (world.disk.job input)).map ([·])), world) := by
  rw [runSequentially_cons]
  dsimp only
  by_cases hzero : '\x00' ∈ input.toList
  · have hlines : jobLines wording world.disk log.verbosity log.timing (elapsed log.nextTimer) input =
        Log.timedLines log.timing false (jobTimer input) (elapsed log.nextTimer)
          (Log.shownLines wording.site log.verbosity (world.disk.job input).notices) := by
      simp [jobLines, hzero]
    rw [Disk.ofTraced_job, if_pos hzero,
      Log.startTimer_notices wording.site hline (jobTimer input) (elapsed log.nextTimer),
      Log.afterJob, hlines]
    rfl
  · have hanswers : world.disk.Answers input := Disk.answers_iff.mpr hzero
    have hends : (!(world.disk.result input).succeeded && !keepGoing) = true := by
      rw [← Bool.not_or, ← Disk.goesOn_of_answers hanswers, hstop]
      rfl
    rw [Disk.ofTraced_of_answers hanswers, stopTimer_of_answers hcounted hline hanswers]
    dsimp only
    rw [if_pos hends]
    rfl

/-- A job after which there are more: its result stands in front of theirs. -/
theorem runSequentially_goesOn (hcounted : log.Counted) (hline : log.atLineStart = true)
    (hgoesOn : world.disk.goesOn keepGoing input = true)
    {rest : Log × Except FileError (List JobResult)} {after : World}
    (hrest : (runSequentially (World.host wording elapsed) keepGoing
      (log.afterJob wording elapsed world.disk input) inputs).run world = (rest, after)) :
    (runSequentially (World.host wording elapsed) keepGoing log (input :: inputs)).run world =
      ((rest.1, rest.2.map (world.disk.result input :: ·)), after) := by
  have hanswers := Disk.answers_of_goesOn hgoesOn
  have hgoes : ¬ (!(world.disk.result input).succeeded && !keepGoing) = true := by
    rw [← Bool.not_or, ← Disk.goesOn_of_answers hanswers, hgoesOn]
    exact Bool.false_ne_true
  rw [runSequentially_cons, Disk.ofTraced_of_answers hanswers]
  dsimp only
  rw [stopTimer_of_answers hcounted hline hanswers, if_neg hgoes, StateT.run_bind, hrest]
  rfl

end

/-- **The jobs one after the other.** Their results are those of the inputs that are attempted, and
each of these adds its lines. -/
theorem runSequentially_run (wording : Wording) (elapsed : (timer : Int) → String) (keepGoing : Bool)
    {log : Log} (hcounted : log.Counted) (hline : log.atLineStart = true) (inputs : List String)
    (world : World) :
    (runSequentially (World.host wording elapsed) keepGoing log inputs).run world =
      ((log.afterJobs wording elapsed world.disk (world.disk.attempted keepGoing inputs),
        (world.disk.attempted keepGoing inputs).mapM fun input =>
          JobResult.ofTraced input (world.disk.job input)), world) := by
  induction inputs generalizing log with
  | nil => rfl
  | cons input inputs ih =>
    rw [Disk.attempted_cons, List.mapM_cons]
    cases hmore : world.disk.goesOn keepGoing input with
    | false =>
      rw [runSequentially_stops hcounted hline hmore, if_neg Bool.false_ne_true]
      cases JobResult.ofTraced input (world.disk.job input) <;> rfl
    | true =>
      -- the rest is done with the log that this job leaves
      have hrest := @ih (log.afterJob wording elapsed world.disk input) (hcounted.withTimers _) hline
      rw [runSequentially_goesOn hcounted hline hmore hrest, if_pos rfl,
        Disk.ofTraced_of_answers (Disk.answers_of_goesOn hmore)]
      generalize (world.disk.attempted keepGoing inputs).mapM
        (fun input => JobResult.ofTraced input (world.disk.job input)) = results
      cases results <;> rfl

/-- Where every job gives a result, so do the jobs that are done. -/
theorem mapM_ofTraced {disk : Disk} {inputs : List String}
    (h : ∀ input ∈ inputs, disk.Answers input) :
    inputs.mapM (fun input => JobResult.ofTraced input (disk.job input)) =
      .ok (inputs.map disk.result) := by
  rw [mapM_eq_ok_iff, List.forall₂_map_right_iff, List.forall₂_same]
  exact fun input hinput => Disk.ofTraced_of_answers (h input hinput)

/-- A path that cannot be asked for is the last one that is tried. -/
theorem mapM_attempted_of_zero {disk : Disk} {keepGoing : Bool} {inputs : List String}
    {input : String} (h : input ∈ disk.attempted keepGoing inputs) (hzero : '\x00' ∈ input.toList) :
    (disk.attempted keepGoing inputs).mapM (fun input => JobResult.ofTraced input (disk.job input)) =
      .error ⟨.zeroByte, input⟩ := by
  induction inputs with
  | nil => cases h
  | cons first inputs ih =>
    rw [Disk.attempted_cons] at h ⊢
    rw [List.mapM_cons, Disk.ofTraced_job]
    by_cases hfirst : '\x00' ∈ first.toList
    · have hstop : disk.goesOn keepGoing first = false := by simp [Disk.goesOn, hfirst]
      rw [hstop, if_neg Bool.false_ne_true, List.mem_singleton] at h
      rw [if_pos hfirst, h]
      rfl
    · have hlater : input ∈
          if disk.goesOn keepGoing first then disk.attempted keepGoing inputs else [] := by
        refine (List.mem_cons.mp h).resolve_left ?_
        rintro rfl
        exact hfirst hzero
      split at hlater
      · rename_i hgoesOn
        rw [if_neg hfirst, if_pos hgoesOn, ih hlater]
        rfl
      · cases hlater

/-! ## Jobs that are done at a time -/

section

variable (wording : Wording) (elapsed : (timer : Int) → String)

theorem runAll_cons (input : String) (inputs : List String) (world : World) :
    (runAll (World.host wording elapsed) (input :: inputs)).run world =
      (match JobResult.ofTraced input (world.disk.job input) with
        | .error error => return .error error
        | .ok result => do
          let results ← runAll (World.host wording elapsed) inputs
          return results.map ((result, (world.disk.job input).notices) :: ·) :
        StateM World _).run world := rfl

/-- **The jobs at a time.** Every input is compiled, whatever becomes of the others. -/
theorem runAll_run {inputs : List String} {world : World}
    (h : ∀ input ∈ inputs, world.disk.Answers input) :
    (runAll (World.host wording elapsed) inputs).run world =
      (.ok (inputs.map fun input => (world.disk.result input, (world.disk.job input).notices)),
        world) := by
  induction inputs with
  | nil => rfl
  | cons input inputs ih =>
    rw [runAll_cons, Disk.ofTraced_of_answers (h input List.mem_cons_self)]
    dsimp only
    rw [StateT.run_bind, ih fun other hother => h other (List.mem_cons_of_mem input hother)]
    rfl

end

end Litmus
