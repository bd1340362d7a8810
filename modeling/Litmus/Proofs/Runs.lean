import Litmus.Proofs.Tallies

/-!
# A run with settled settings

What a run comes to in a world, its three parts put together: the preparations, the jobs and what
becomes of their results.

* **`runSettings_of_refused`**: settings that are refused end the run before anything has been done.
* **`runSettings_run`**: otherwise the actions of the preparations are done, then the jobs, then the
  actions of the end. **`runSettings_sequential`** says which jobs and actions these are if the jobs
  are done one after the other.
* **`runSettings_withProcesses`**: jobs that are done at a time make no difference, neither to what is
  printed nor to what is written, as long as nothing is said of the jobs.
-/

namespace Litmus

variable {settings : Settings} {wording : Wording} {elapsed : (timer : Int) → String}

/-! ## The preparations -/

/-- The preparations leave nothing in the log but their actions. -/
theorem log_of_prepare {log : Log} (h : prepare settings = .ok log) :
    { log with actions := [] } = Log.ofSettings settings := by
  rw [prepare] at h
  split at h
  · cases h
  · split at h
    · obtain rfl := Except.ok.inj h
      rfl
    · split at h
      · cases h
      · obtain rfl := Except.ok.inj h
        rfl

theorem prepare_toStream (hstream : settings.outputDir = none) (hinputs : settings.inputs ≠ []) :
    prepare settings = .ok (Log.ofSettings settings) := by
  rw [prepare, hstream, if_neg (by simpa using hinputs)]

theorem prepare_toDirectory {directory : String} (hdirectory : settings.outputDir = some directory)
    (hinputs : settings.inputs ≠ []) :
    prepare settings =
      match firstClash? directory [] settings.inputs with
      | some (first, second) =>
        .error ((Log.ofSettings settings).error (clashMessage directory first second) false)
      | none => .ok { Log.ofSettings settings with actions := [.makeDirectories directory] } := by
  rw [prepare, hdirectory, if_neg (by simpa using hinputs)]
  rfl

/-! ## The whole run -/

theorem runSettings_of_refused {log : Log} (h : prepare settings = .error log) (world : World) :
    (runSettings (World.host wording elapsed) settings).run world =
      (finish (World.host wording elapsed) log.actions (.exit 1)).run world := by
  rw [runSettings, h]

/-- What a run does after its jobs. -/
def closing (wording : Wording) (elapsed : (timer : Int) → String) (settings : Settings) :
    Log × Except FileError (List JobResult) → StateM World Conclusion
  | (log, .error e) => finish (World.host wording elapsed) log.actions (.broken (.file e))
  | (log, .ok results) =>
    finish (World.host wording elapsed) (conclude wording settings log results).1
      (.exit (conclude wording settings log results).2)

/-- **The run.** Preparations, jobs and closing, where a preparation may fail. -/
theorem runSettings_run {log : Log} (h : prepare settings = .ok log) (world : World) :
    (runSettings (World.host wording elapsed) settings).run world =
      match (performAll (World.host wording elapsed) log.actions).run world with
      | (.error e, world) => (.broken (.file e), world)
      | (.ok (), world) =>
        (runJobs (World.host wording elapsed) settings
          (Log.ofSettings settings) >>= closing wording elapsed settings).run world := by
  rw [← log_of_prepare h, runSettings, h]
  dsimp only
  rw [StateT.run_bind]
  rcases (performAll (World.host wording elapsed) log.actions).run world with ⟨_ | _, made⟩
  · rfl
  · -- the log and the results are taken apart in turn here, and at once in `closing`
    show StateT.run (runJobs (World.host wording elapsed) settings
      { log with actions := [] } >>= _) made = (_ >>= closing wording elapsed settings).run made
    rw [StateT.run_bind, StateT.run_bind]
    rcases (runJobs (World.host wording elapsed) settings
      { log with actions := [] }).run made with ⟨⟨_, _ | _⟩, _⟩ <;> rfl

/-- The closing of a run whose files can be written. -/
theorem closing_run {log : Log} {results : List JobResult} {world : World} {disk : Disk}
    (hdirectories : ∀ action ∈ (conclude wording settings log results).1, action.makesDirectories = false)
    (hdisk : world.disk.saveAll (savesOf (conclude wording settings log results).1) = .ok disk) :
    (closing wording elapsed settings (log, .ok results)).run world =
      (.exit (conclude wording settings log results).2,
        ⟨disk, world.out ++ printed .out (conclude wording settings log results).1,
          world.err ++ printed .err (conclude wording settings log results).1⟩) :=
  finish_run wording elapsed (performAll_saves wording elapsed hdirectories hdisk)

/-! ## Jobs that are done one after the other -/

theorem isParallel_of_processes_le_one (h : settings.processes ≤ 1) : settings.isParallel = false := by
  have hone : ¬ 1 < settings.processes := by omega
  simp [Settings.isParallel, hone]

theorem runJobs_sequential (hsequential : settings.isParallel = false) (world : World) :
    (runJobs (World.host wording elapsed) settings
        (Log.ofSettings settings)).run world =
      (((Log.ofSettings settings).afterJobs wording elapsed world.disk
          (world.disk.attempted settings.keepGoing settings.inputs),
        (world.disk.attempted settings.keepGoing settings.inputs).mapM fun input =>
          JobResult.ofTraced input (world.disk.job input)), world) := by
  rw [runJobs, if_neg (by simp [hsequential])]
  have hcounted : (Log.ofSettings settings).Counted := by rw [Log.Counted]; rfl
  exact runSequentially_run wording elapsed settings.keepGoing hcounted rfl settings.inputs world

/-- The log of a run is fresh, so its jobs have the timers from 0 on. -/
theorem afterJobs_ofSettings (wording : Wording) (elapsed : (timer : Int) → String)
    (settings : Settings) (disk : Disk) (inputs : List String) :
    (Log.ofSettings settings).afterJobs wording elapsed disk inputs =
      ((Log.ofSettings settings).say
        (toldFrom wording elapsed disk settings.verbosity settings.time 0 inputs)).withTimers
        (inputs.flatMap fun input => Log.timedNames settings.time (jobTimer input)) :=
  Log.afterJobs_eq wording elapsed disk inputs fun _ => rfl

/-- The jobs themselves only print. -/
theorem actions_afterJobs (wording : Wording) (elapsed : (timer : Int) → String)
    (settings : Settings) (disk : Disk) (inputs : List String) :
    ((Log.ofSettings settings).afterJobs wording elapsed disk inputs).actions =
      (toldFrom wording elapsed disk settings.verbosity settings.time 0 inputs).map
        (.print (Log.ofSettings settings).stream) := by
  rw [afterJobs_ofSettings]
  exact List.nil_append _

/-- **The run, one job after the other.** Where every job gives a result, the run ends with what is
done about the results. -/
theorem runSettings_sequential {log : Log} (h : prepare settings = .ok log)
    (hsequential : settings.isParallel = false) {world made : World}
    (hmade : (performAll (World.host wording elapsed) log.actions).run world = (.ok (), made))
    (hanswers : ∀ input ∈ made.disk.attempted settings.keepGoing settings.inputs,
      made.disk.Answers input) :
    (runSettings (World.host wording elapsed) settings).run world =
      (closing wording elapsed settings
        ((Log.ofSettings settings).afterJobs wording elapsed made.disk
          (made.disk.attempted settings.keepGoing settings.inputs),
        .ok ((made.disk.attempted settings.keepGoing settings.inputs).map made.disk.result))).run
          made := by
  rw [runSettings_run h, hmade]
  dsimp only
  rw [StateT.run_bind, runJobs_sequential hsequential, mapM_ofTraced hanswers]
  rfl

/-! ## Jobs that are done at a time -/

/-- Jobs of which nothing is said leave the log as it is. -/
theorem Log.afterJobs_of_quiet {log : Log} (htiming : log.timing = false)
    (hverbosity : log.verbosity ≤ 1) (disk : Disk) (inputs : List String) :
    log.afterJobs wording elapsed disk inputs = log := by
  induction inputs with
  | nil => rfl
  | cons input inputs ih =>
    have hinput : log.afterJob wording elapsed disk input = log := by
      rw [afterJob, jobLines, htiming, shownLines_of_le_one wording.site hverbosity]
      exact (withTimers_nil _).trans (say_nil log)
    rw [afterJobs, List.foldl_cons, hinput]
    exact ih

theorem runJobs_parallel {world : World} (hparallel : settings.isParallel = true)
    (htime : settings.time = false) (hverbosity : settings.verbosity ≤ 1)
    (h : ∀ input ∈ settings.inputs, world.disk.Answers input) :
    (runJobs (World.host wording elapsed) settings
        (Log.ofSettings settings)).run world =
      ((Log.ofSettings settings, .ok (settings.inputs.map world.disk.result)), world) := by
  have hquiet : ∀ notices, (Log.ofSettings settings).notices wording.site notices =
      Log.ofSettings settings := by
    intro notices
    have hverbosity : (Log.ofSettings settings).verbosity ≤ 1 := hverbosity
    rw [Log.notices_eq wording.site rfl, Log.shownLines_of_le_one wording.site hverbosity,
      Log.say_nil]
  have htimed : ((World.host wording elapsed).timed none
      (runAll (World.host wording elapsed) settings.inputs)).run world =
        ((.ok (settings.inputs.map fun input =>
          (world.disk.result input, (world.disk.job input).notices)), ""), world) :=
    congrArg (fun p : Except FileError (List (JobResult × List Notice)) × World =>
      ((p.1, ""), p.2)) (runAll_run wording elapsed h)
  rw [runJobs, if_pos hparallel, Log.startTimer_of_not_timing htime]
  dsimp only
  rw [StateT.run_bind, htimed]
  -- the messages of the jobs are told here, when all of them are done
  show ((((Log.ofSettings settings).notices wording.site _).stopTimer none "", Except.ok _),
    world) = _
  rw [hquiet, List.map_map]
  rfl

/-- **A run of whose jobs nothing is said.** It ends in one way, however many jobs are done at a time:
with what is done about the results up to the first failure. -/
theorem runSettings_quiet {log : Log} (hlog : prepare settings = .ok log) {world : World}
    (htime : settings.time = false) (hverbosity : settings.verbosity ≤ 1)
    (h : ∀ input ∈ settings.inputs, world.disk.Answers input) :
    (runSettings (World.host wording elapsed) settings).run world =
      match (performAll (World.host wording elapsed) log.actions).run world with
      | (.error e, made) => (.broken (.file e), made)
      | (.ok (), made) =>
        (closing wording elapsed settings (Log.ofSettings settings,
          .ok ((made.disk.attempted settings.keepGoing settings.inputs).map
            made.disk.result))).run made := by
  rw [runSettings_run hlog]
  rcases (performAll (World.host wording elapsed) log.actions).run world with ⟨_ | _, made⟩
  · rfl
  · -- whether a job gives a result is a matter of its path, not of the disk
    have hmade : ∀ input ∈ settings.inputs, made.disk.Answers input := fun input hinput =>
      Disk.answers_iff.mpr (Disk.answers_iff.mp (h input hinput))
    dsimp only
    rw [StateT.run_bind]
    cases hparallel : settings.isParallel with
    | false =>
      rw [runJobs_sequential hparallel, mapM_ofTraced (Disk.answers_attempted hmade _),
        Log.afterJobs_of_quiet htime hverbosity]
      rfl
    | true =>
      rw [runJobs_parallel hparallel htime hverbosity hmade]
      show (closing wording elapsed settings (_, .ok _)).run made = _
      rw [closing, closing, conclude_map_result wording _ (Disk.answers_attempted hmade _)]

theorem closing_withProcesses (settings : Settings) (processes : Int) :
    closing wording elapsed { settings with processes := processes } = closing wording elapsed settings := by
  funext (log, results)
  cases results with
  | error e => rfl
  | ok results => rw [closing, closing, conclude_withProcesses]

/-- **Parallel runs agree with sequential ones**: where every job gives a result, no times are taken
and the jobs are not told of, the number of jobs at a time changes neither how the run ends nor what
has been printed and written. -/
theorem runSettings_withProcesses (settings : Settings) (processes : Int) (wording : Wording)
    (elapsed : (timer : Int) → String) (world : World) (htime : settings.time = false) (hverbosity : settings.verbosity ≤ 1)
    (h : ∀ input ∈ settings.inputs, world.disk.Answers input) :
    (runSettings (World.host wording elapsed) { settings with processes := processes }).run world =
      (runSettings (World.host wording elapsed) { settings with processes := 1 }).run world := by
  cases hlog : prepare settings with
  | error log =>
    exact (@runSettings_of_refused { settings with processes := processes } _ _ _ hlog world).trans
      (@runSettings_of_refused { settings with processes := 1 } _ _ _ hlog world).symm
  | ok log =>
    have hquiet : ∀ processes,
        (runSettings (World.host wording elapsed) { settings with processes := processes }).run world =
          match (performAll (World.host wording elapsed) log.actions).run world with
          | (.error e, made) => (.broken (.file e), made)
          | (.ok (), made) =>
            (closing wording elapsed settings (Log.ofSettings settings,
              .ok ((made.disk.attempted settings.keepGoing settings.inputs).map
                made.disk.result))).run made := by
      intro processes
      refine (@runSettings_quiet { settings with processes := processes } wording elapsed _ hlog world htime
        hverbosity h).trans ?_
      rw [closing_withProcesses]
      rfl
    exact (hquiet processes).trans (hquiet 1).symm

/-! ## Three inputs -/

/-- A test of one thread that does nothing. -/
def idleTest (name : String) : String :=
  "X86 " ++ name ++ "\n\x7b 0:EAX=1; \x7d\nP0;\nNOP;\nexists (0:EAX=1)\n"

/-- The text of the record of that test. -/
def idleRecord (name : String) : String :=
  "arch = \"X86\"\nname = \"" ++ name ++ "\"\nsymbolic = []\n\n" ++
    "[thread.0]\ninit = \x7b EAX = \"1\" \x7d\ncode = \"\"\"\n\tNOP\n\"\"\"\n\n" ++
    "[final]\nexpect = \"sat\"\nassertion = \"(= (register EAX 0) 1)\"\n"

/-- Three files, the second of which breaks off in its condition. -/
def threeTests : World where
  disk := ⟨[(["MP.litmus"], .file (Text.utf8Bytes (idleTest "MP"))),
    (["LB.litmus"], .file (Text.utf8Bytes "X86 LB\n\x7b \x7d\nP0;\nNOP;\nexists")),
    (["SB.litmus"], .file (Text.utf8Bytes (idleTest "SB")))], []⟩

/-- A wording that says the same of all sites and shapes. -/
def terseWording : Wording where
  site _ := ⟨"run", 1⟩
  syntaxError _ := "Syntax error"

theorem outcome_threeTests :
    threeTests.disk.outcome "MP.litmus" = .ok (idleRecord "MP") ∧
      threeTests.disk.outcome "LB.litmus" =
        .error (.malformed ⟨"LB.litmus", .malformed ⟨.condition, "exists"⟩⟩) ∧
      threeTests.disk.outcome "SB.litmus" = .ok (idleRecord "SB") := by
  refine ⟨Disk.record?_eq_some.mp ?_, ?_, Disk.record?_eq_some.mp ?_⟩
  · decide +kernel
  · with_unfolding_all rfl
  · decide +kernel

/-- Three jobs at a time, the second of which fails. One after the other, the third one is not done,
although it would give a record. -/
theorem runSettings_withProcesses_three :
    let settings : Settings := { inputs := ["MP.litmus", "LB.litmus", "SB.litmus"] }
    threeTests.disk.attempted false settings.inputs = ["MP.litmus", "LB.litmus"] ∧
    threeTests.disk.outcome "SB.litmus" = .ok (idleRecord "SB") ∧
    (runSettings (World.host terseWording fun _ => "0.00")
        { settings with processes := 3 }).run threeTests =
      (runSettings (World.host terseWording fun _ => "0.00")
        { settings with processes := 1 }).run threeTests := by
  have hzero : ∀ input ∈ ["MP.litmus", "LB.litmus", "SB.litmus"], '\x00' ∉ input.toList := by decide
  exact ⟨by decide +kernel, outcome_threeTests.2.2,
    runSettings_withProcesses { inputs := ["MP.litmus", "LB.litmus", "SB.litmus"] } 3 terseWording
      (fun _ => "0.00") threeTests rfl (by decide)
      fun input hinput => Disk.answers_iff.mpr (hzero input hinput)⟩

end Litmus
