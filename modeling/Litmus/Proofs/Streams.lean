import Litmus.Proofs.Runs

/-!
# Runs that write one stream

A run without a directory for its records writes all of them to one place: to the standard output, or
to a file. Whatever else it has to say goes somewhere else.

* **`runSettings_toStream`**: the place gets the records of the inputs that count, with a line feed
  between neighbours, and nothing else. The standard error gets a warning for each distinct message
  that an input is skipped, or an error for the one that ends the run.
-/

namespace Litmus

variable {settings : Settings} (wording : Wording) (elapsed : (timer : Int) → String)

namespace Disk

/-- The text of all records that count: a line feed stands between neighbours. -/
def streamText (disk : Disk) (keepGoing : Bool) (inputs : List String) : String :=
  String.intercalate "\n" (disk.recordsOf (disk.considered keepGoing inputs))

/-- What is told of the jobs that are done. The log of a run is fresh, so the jobs have the timers from
0 on. -/
def told (disk : Disk) (settings : Settings) : List String :=
  toldFrom wording elapsed disk settings.verbosity settings.time 0
    (disk.attempted settings.keepGoing settings.inputs)

/-- What a run to one stream does from its first job on. -/
def streamActions (disk : Disk) (settings : Settings) : List Action :=
  (disk.told wording elapsed settings).map (.print (Log.ofSettings settings).stream) ++
    deliver settings (disk.recordsOf (disk.considered settings.keepGoing settings.inputs)) ++
    ((disk.complaints wording settings.keepGoing settings.inputs).map (.print .err) ++
      (disk.summary wording settings.keepGoing settings.verbosity settings.inputs).map
        (.print (Log.ofSettings settings).stream))

end Disk

/-- A run to one stream does these actions, if its file can be written. -/
theorem runSettings_streamActions {world : World} {disk : Disk}
    (hstream : settings.outputDir = none) (hinputs : settings.inputs ≠ [])
    (hprocesses : settings.processes ≤ 1)
    (hanswers : ∀ input ∈ settings.inputs, world.disk.Answers input)
    (hdisk : world.disk.saveAll (savesOf (world.disk.streamActions wording elapsed settings)) = .ok disk) :
    (runSettings (World.host wording elapsed) settings).run world =
      (.exit (if settings.inputs.all world.disk.compiles then 0 else 1),
        ⟨disk, world.out ++ printed .out (world.disk.streamActions wording elapsed settings),
          world.err ++ printed .err (world.disk.streamActions wording elapsed settings)⟩) := by
  have hconclude : conclude wording settings
      ((Log.ofSettings settings).afterJobs wording elapsed world.disk
        (world.disk.attempted settings.keepGoing settings.inputs))
      ((world.disk.attempted settings.keepGoing settings.inputs).map world.disk.result) =
        (world.disk.streamActions wording elapsed settings,
          if settings.inputs.all world.disk.compiles then 0 else 1) := by
    rw [afterJobs_ofSettings, conclude_toStream wording hstream rfl rfl rfl
      (Disk.answers_attempted hanswers _)]
    rfl
  have hdeliver : ∀ action ∈ deliver settings
      (world.disk.recordsOf (world.disk.considered settings.keepGoing settings.inputs)),
      action.makesDirectories = false := by
    rw [deliver.eq_def, hstream]
    split <;> simp [Action.makesDirectories]
  have hdirectories : ∀ action ∈ world.disk.streamActions wording elapsed settings,
      action.makesDirectories = false := by
    simp only [Disk.streamActions, List.mem_append]
    rintro action ((haction | haction) | haction | haction)
    · exact makesDirectories_of_mem_print haction
    · exact hdeliver action haction
    · exact makesDirectories_of_mem_print haction
    · exact makesDirectories_of_mem_print haction
  rw [runSettings_sequential (prepare_toStream hstream hinputs)
      (isParallel_of_processes_le_one hprocesses) (performAll_nil wording elapsed world)
      (Disk.answers_attempted hanswers _),
    closing_run (by rw [hconclude]; exact hdirectories) (by rw [hconclude]; exact hdisk), hconclude]

/-- The standard output gets the text of the records, and the standard error everything else. -/
theorem streamActions_toOut (hstream : settings.outputDir = none) (houtput : settings.output = none)
    (disk : Disk) :
    savesOf (disk.streamActions wording elapsed settings) = [] ∧
      printed .out (disk.streamActions wording elapsed settings) =
        disk.streamText settings.keepGoing settings.inputs ∧
      printed .err (disk.streamActions wording elapsed settings) =
        String.join (disk.told wording elapsed settings ++
          disk.complaints wording settings.keepGoing settings.inputs ++
          disk.summary wording settings.keepGoing settings.verbosity settings.inputs) := by
  have hlog : (Log.ofSettings settings).stream = .err := by simp [Log.ofSettings, hstream, houtput]
  have hdeliver : deliver settings
      (disk.recordsOf (disk.considered settings.keepGoing settings.inputs)) =
        [.print .out (disk.streamText settings.keepGoing settings.inputs)] := by
    rw [deliver, hstream, houtput]
    rfl
  rw [Disk.streamActions, hlog, hdeliver]
  refine ⟨?_, ?_, ?_⟩
  · simp only [savesOf_append, savesOf_print]
    rfl
  · simp [printed_map_print, printed_cons, Action.printed]
  · simp [printed_map_print, printed_cons, Action.printed]

/-- The file gets the text of the records, the standard error what there is to complain of, and the
standard output the rest. -/
theorem streamActions_toFile {file : String} (hstream : settings.outputDir = none)
    (houtput : settings.output = some file) (disk : Disk) :
    savesOf (disk.streamActions wording elapsed settings) =
        [(file, disk.streamText settings.keepGoing settings.inputs)] ∧
      printed .out (disk.streamActions wording elapsed settings) =
        String.join (disk.told wording elapsed settings ++
          disk.summary wording settings.keepGoing settings.verbosity settings.inputs) ∧
      printed .err (disk.streamActions wording elapsed settings) =
        String.join (disk.complaints wording settings.keepGoing settings.inputs) := by
  have hlog : (Log.ofSettings settings).stream = .out := by simp [Log.ofSettings, hstream, houtput]
  have hdeliver : deliver settings
      (disk.recordsOf (disk.considered settings.keepGoing settings.inputs)) =
        [.save file (disk.streamText settings.keepGoing settings.inputs)] := by
    rw [deliver, hstream, houtput]
    rfl
  rw [Disk.streamActions, hlog, hdeliver]
  refine ⟨?_, ?_, ?_⟩
  · simp only [savesOf_append, savesOf_print]
    rfl
  · simp [printed_map_print, printed_cons, Action.printed]
  · simp [printed_map_print, printed_cons, Action.printed]

/-- **A run to one stream.** It exits with 0 exactly if every input is compiled. The records of the
inputs that count go to the standard output, where they are all that is printed, or to the file, where
they take the place of what was in it. -/
theorem runSettings_toStream {world : World} (hstream : settings.outputDir = none)
    (hinputs : settings.inputs ≠ []) (hprocesses : settings.processes ≤ 1)
    (hanswers : ∀ input ∈ settings.inputs, world.disk.Answers input)
    (hopens : ∀ file, settings.output = some file → ∃ place, world.disk.target file = .ok place) :
    ∃ final, (runSettings (World.host wording elapsed) settings).run world =
        (.exit (if settings.inputs.all world.disk.compiles then 0 else 1), final) ∧
      let text := world.disk.streamText settings.keepGoing settings.inputs
      let told := world.disk.told wording elapsed settings
      let complaints := world.disk.complaints wording settings.keepGoing settings.inputs
      let summary := world.disk.summary wording settings.keepGoing settings.verbosity settings.inputs
      match settings.output with
      | none =>
        final = { world with
          out := world.out ++ text
          err := world.err ++ String.join (told ++ complaints ++ summary) }
      | some file =>
        final.disk.read file = .ok (Text.utf8Bytes text) ∧
          (∀ place, world.disk.target file ≠ .ok place →
            final.disk.find place = world.disk.find place) ∧
          final.out = world.out ++ String.join (told ++ summary) ∧
          final.err = world.err ++ String.join complaints := by
  cases houtput : settings.output with
  | none =>
    obtain ⟨hsaves, hout, herr⟩ := streamActions_toOut wording elapsed hstream houtput world.disk
    have hrun := @runSettings_streamActions settings wording elapsed world world.disk hstream hinputs
      hprocesses hanswers (by rw [hsaves]; rfl)
    rw [hout, herr] at hrun
    exact ⟨_, hrun, rfl⟩
  | some file =>
    obtain ⟨hsaves, hout, herr⟩ := streamActions_toFile wording elapsed hstream houtput world.disk
    obtain ⟨final, hfinal, hsaved⟩ := @Disk.saved_of_targets world.disk
      [(file, world.disk.streamText settings.keepGoing settings.inputs)]
      (by simpa using hopens file houtput) (List.pairwise_singleton _ _)
    have hrun := @runSettings_streamActions settings wording elapsed world final hstream hinputs
      hprocesses hanswers (by rw [hsaves]; exact hfinal)
    rw [hout, herr] at hrun
    exact ⟨_, hrun, hsaved.reads _ List.mem_cons_self,
      fun place hplace => hsaved.frame place (by simpa using hplace), rfl, rfl⟩

/-- Three inputs whose records go to one file, at a verbosity that shows sites. The second one fails and
is skipped, so nothing but one line feed stands between the records of the others; each job is timed on
its own. -/
theorem runSettings_toStream_three :
    let elapsed : Int → String := fun timer => "0.0" ++ toString timer
    let settings : Settings :=
      { inputs := ["MP.litmus", "LB.litmus", "SB.litmus"], output := some "all.toml",
        keepGoing := true, time := true, verbosity := 5 }
    ∃ final, (runSettings (World.host terseWording elapsed) settings).run threeTests =
        (.exit 1, final) ∧
      final.disk.read "all.toml" =
        .ok (Text.utf8Bytes (idleRecord "MP" ++ "\n" ++ idleRecord "SB")) ∧
      final.out = String.join [
        "Timer \"Translation of \"MP.litmus\"\": start\n",
        "\"Parsed litmus test \"MP\" with 1 thread(s)\"\nfrom run:1\n",
        "\"Test \"MP\": outputs [|output 0|], expecting sat\"\nfrom run:1\n",
        "Timer \"Translation of \"MP.litmus\"\": 0.00 sec\n",
        "Timer \"Translation of \"LB.litmus\"\": start\n",
        "Timer \"Translation of \"LB.litmus\"\": 0.01 sec\n",
        "Timer \"Translation of \"SB.litmus\"\": start\n",
        "\"Parsed litmus test \"SB\" with 1 thread(s)\"\nfrom run:1\n",
        "\"Test \"SB\": outputs [|output 0|], expecting sat\"\nfrom run:1\n",
        "Timer \"Translation of \"SB.litmus\"\": 0.02 sec\n",
        "\"Translated 2 of 3 test(s)\"\nfrom run:1\n"] ∧
      final.err =
        "WARNING: Skipping \"LB.litmus\": LB.litmus: Syntax error (LitmusParseError)\n" := by
  intro elapsed settings
  have hzero : ∀ input ∈ settings.inputs, '\x00' ∉ input.toList := by decide
  have htarget : threeTests.disk.target "all.toml" = .ok ["all.toml"] := by rfl
  obtain ⟨final, hrun, hread, -, hout, herr⟩ := @runSettings_toStream settings terseWording elapsed
    threeTests rfl (by decide) (by decide)
    (fun input hinput => Disk.answers_iff.mpr (hzero input hinput))
    (fun file hfile => ⟨["all.toml"], Option.some.inj hfile ▸ htarget⟩)
  have hall : settings.inputs.all threeTests.disk.compiles = false := by decide +kernel
  have htext : threeTests.disk.streamText true settings.inputs =
      idleRecord "MP" ++ "\n" ++ idleRecord "SB" := by decide +kernel
  rw [hall] at hrun
  rw [htext] at hread
  exact ⟨final, hrun, hread, hout.trans (by decide +kernel), herr.trans (by decide +kernel)⟩

end Litmus
