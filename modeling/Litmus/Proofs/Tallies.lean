import Litmus.Proofs.Jobs
import Mathlib.Data.List.TakeWhile

/-!
# What becomes of the results

After the jobs a run goes through their results in order. A record is kept or saved, a failure is
warned of or ends the run there and then. So it comes down to two things which inputs count.

* **`Disk.considered`**: the inputs in front of the one that ends the run, **`Disk.culprit?`**: that
  one. **`attempted_of_answers`**: their jobs are those that are done.
* **`addAll_attempted`**: the results in front are added up, and then the run ends or it does not.
  **`conclude_attempted`**: what a run does after its jobs, and how it exits.
* **`conclude_toStream`** is this where all records go to one stream, **`conclude_toDirectory`** says
  what is saved where each has a file of its own.
* **`conclude_map_result`**: the results of the jobs after the one that ends the run, which are there
  if jobs are done at a time, make no difference.
-/

namespace Litmus

/-! ## Which inputs count -/

namespace Disk

/-- The text of the record of an input, if it has one. -/
def record? (disk : Disk) (input : String) : Option String :=
  match disk.outcome input with
  | .ok record => some record
  | .error _ => none

/-- The fault of an input, if it fails. -/
def fault? (disk : Disk) (input : String) : Option JobFault :=
  match disk.outcome input with
  | .ok _ => none
  | .error fault => some fault

theorem record?_eq_some {disk : Disk} {input record : String} :
    disk.record? input = some record ↔ disk.outcome input = .ok record := by
  rw [record?]
  cases disk.outcome input <;> simp

theorem fault?_eq_some {disk : Disk} {input : String} {fault : JobFault} :
    disk.fault? input = some fault ↔ disk.outcome input = .error fault := by
  rw [fault?]
  cases disk.outcome input <;> simp

theorem compiles_eq (disk : Disk) (input : String) :
    disk.compiles input = (disk.fault? input).isNone := by
  rw [compiles, fault?.eq_def]
  cases disk.outcome input <;> rfl

/-- The inputs whose results count: all of them if failures are skipped, otherwise those in front of
the first failure. -/
def considered (disk : Disk) (keepGoing : Bool) (inputs : List String) : List String :=
  if keepGoing then inputs else inputs.takeWhile disk.compiles

/-- The input that ends the run, and its fault: the first input that fails, unless failures are
skipped. -/
def culprit? (disk : Disk) (keepGoing : Bool) (inputs : List String) : Option (String × JobFault) :=
  if keepGoing then none
  else inputs.findSome? fun input => (disk.fault? input).map fun fault => (input, fault)

theorem compiles_of_mem_considered {disk : Disk} {keepGoing : Bool} {inputs : List String}
    {input : String} (h : input ∈ disk.considered keepGoing inputs) :
    disk.compiles input = true ∨ keepGoing = true := by
  cases keepGoing with
  | true => exact .inr rfl
  | false => exact .inl (List.mem_takeWhile_imp h)

theorem outcome_of_culprit? {disk : Disk} {keepGoing : Bool} {inputs : List String}
    {input : String} {fault : JobFault} (h : disk.culprit? keepGoing inputs = some (input, fault)) :
    keepGoing = false ∧ disk.outcome input = .error fault := by
  cases keepGoing with
  | true => cases h
  | false =>
    refine ⟨rfl, ?_⟩
    obtain ⟨other, -, hother⟩ := List.exists_of_findSome?_eq_some h
    obtain ⟨fault', hfault, heq⟩ := Option.map_eq_some_iff.mp hother
    obtain ⟨rfl, rfl⟩ := Prod.mk.inj heq
    exact fault?_eq_some.mp hfault

/-- Nobody ends the run exactly if failures are skipped or there are none. -/
theorem culprit?_eq_none {disk : Disk} {keepGoing : Bool} {inputs : List String} :
    disk.culprit? keepGoing inputs = none ↔ keepGoing = true ∨ inputs.all disk.compiles = true := by
  cases keepGoing with
  | true => simp [culprit?]
  | false => simp [culprit?, compiles_eq]

theorem considered_of_culprit? {disk : Disk} {keepGoing : Bool} {inputs : List String}
    (h : disk.culprit? keepGoing inputs = none) : disk.considered keepGoing inputs = inputs := by
  rw [considered]
  split
  · rfl
  · rename_i hkeepGoing
    have hall := (culprit?_eq_none.mp h).resolve_left hkeepGoing
    exact List.takeWhile_eq_self_iff.mpr (List.all_eq_true.mp hall)

/-- The jobs that are done are those of the inputs that count and of the one that ends the run. -/
theorem attempted_of_answers {disk : Disk} {keepGoing : Bool} {inputs : List String}
    (h : ∀ input ∈ disk.attempted keepGoing inputs, disk.Answers input) :
    disk.attempted keepGoing inputs =
      disk.considered keepGoing inputs ++
        ((disk.culprit? keepGoing inputs).map Prod.fst).toList := by
  induction inputs with
  | nil => cases keepGoing <;> rfl
  | cons input inputs ih =>
    rw [attempted_cons] at h ⊢
    have hgoesOn : disk.goesOn keepGoing input = (disk.compiles input || keepGoing) :=
      goesOn_of_answers (h input List.mem_cons_self)
    cases hmore : disk.compiles input || keepGoing with
    | false =>
      -- this is the one that ends the run
      obtain ⟨hcompiles, rfl⟩ := Bool.or_eq_false_iff.mp hmore
      rw [compiles_eq, Option.isNone_eq_false_iff] at hcompiles
      obtain ⟨fault, hfault⟩ := Option.isSome_iff_exists.mp hcompiles
      rw [hgoesOn, hmore]
      simp [considered, culprit?, compiles_eq, hfault]
    | true =>
      rw [hgoesOn, hmore] at h ⊢
      have hrest := ih fun other hother => h other (List.mem_cons_of_mem input hother)
      rw [if_pos rfl, hrest, considered, considered, culprit?, culprit?]
      cases keepGoing with
      | true => rfl
      | false =>
        have hcompiles : disk.compiles input = true := by simpa using hmore
        have hfault : disk.fault? input = none := by simpa [compiles_eq] using hcompiles
        simp [hcompiles, hfault]

theorem attempted_of_culprit? {disk : Disk} {keepGoing : Bool} {inputs : List String}
    (h : ∀ input ∈ disk.attempted keepGoing inputs, disk.Answers input)
    (hculprit : disk.culprit? keepGoing inputs = none) :
    disk.attempted keepGoing inputs = inputs := by
  rw [attempted_of_answers h, hculprit, considered_of_culprit? hculprit]
  exact List.append_nil inputs

end Disk

/-! ## Adding up -/

/-- The message that an input is skipped. -/
def skipMessage (input report : String) : String :=
  "Skipping \"" ++ input ++ "\": " ++ report

section

variable (wording : Wording)

namespace Tally

theorem addRecord_toStream {settings : Settings} (hstream : settings.outputDir = none)
    (tally : Tally) (input record : String) :
    tally.addRecord wording settings input record =
      { tally with records := tally.records ++ [record] } := by
  rw [addRecord.eq_def, hstream]

theorem addRecord_toDirectory {settings : Settings} {directory : String}
    (hdirectory : settings.outputDir = some directory) {tally : Tally}
    (hline : tally.log.atLineStart = true) (input record : String) :
    tally.addRecord wording settings input record =
      { tally with
        log := { tally.log with
          actions := tally.log.actions ++ .save (recordFile directory input) record ::
            (Log.shownLines wording.site tally.log.verbosity
              [.saved input (recordFile directory input)]).map (.print tally.log.stream) } } := by
  rw [addRecord.eq_def, hdirectory]
  dsimp only
  rw [Log.notice_eq wording.site (by exact hline), Log.say, List.append_assoc]
  rfl

/-- The tally after one more input whose result counts. -/
def add (settings : Settings) (disk : Disk) (tally : Tally) (input : String) : Tally :=
  match disk.outcome input with
  | .ok record => tally.addRecord wording settings input record
  | .error fault =>
    { tally with
      log := tally.log.warning (skipMessage input (fault.report wording))
      skipped := true }

theorem addAll_append (settings : Settings) (tally : Tally) (first second : List JobResult) :
    tally.addAll wording settings (first ++ second) =
      tally.addAll wording settings first >>= fun tally => tally.addAll wording settings second := by
  induction first generalizing tally with
  | nil => rfl
  | cons result first ih =>
    obtain ⟨input, fault | record⟩ := result
    · rw [List.cons_append, addAll, addAll]
      cases tally.addFailure wording settings input fault with
      | error ended => rfl
      | ok next => exact ih next
    · exact ih _

/-- Results that do not end the run are added one after the other. -/
theorem addAll_of_goesOn {settings : Settings} {disk : Disk} {inputs : List String} (tally : Tally)
    (h : ∀ input ∈ inputs, disk.compiles input = true ∨ settings.keepGoing = true) :
    tally.addAll wording settings (inputs.map disk.result) =
      .ok (inputs.foldl (Tally.add wording settings disk) tally) := by
  induction inputs generalizing tally with
  | nil => rfl
  | cons input inputs ih =>
    have hrest := fun other hother => h other (List.mem_cons_of_mem input hother)
    have hinput := h input List.mem_cons_self
    rw [List.map_cons, List.foldl_cons, ← ih (tally.add wording settings disk input) hrest, add]
    cases houtcome : disk.outcome input with
    | ok record =>
      rw [Disk.result, houtcome]
      rfl
    | error fault =>
      have hkeepGoing : settings.keepGoing = true := by
        refine hinput.resolve_left ?_
        rw [Disk.compiles, houtcome]
        simp [Except.isOk, Except.toBool]
      rw [Disk.result, houtcome, addAll, addFailure, if_pos hkeepGoing]
      rfl

/-- **The results of a run.** Those that count are added, and the one that ends the run is told of. -/
theorem addAll_attempted {settings : Settings} {disk : Disk} {inputs : List String} (tally : Tally)
    (h : ∀ input ∈ disk.attempted settings.keepGoing inputs, disk.Answers input) :
    tally.addAll wording settings ((disk.attempted settings.keepGoing inputs).map disk.result) =
      let sum := (disk.considered settings.keepGoing inputs).foldl (Tally.add wording settings disk)
        tally
      match disk.culprit? settings.keepGoing inputs with
      | none => .ok sum
      | some (input, fault) =>
        .error { sum with log := sum.log.error (input ++ ": " ++ fault.report wording) false } := by
  rw [Disk.attempted_of_answers h, List.map_append, addAll_append,
    addAll_of_goesOn wording tally fun _ => Disk.compiles_of_mem_considered]
  cases hculprit : disk.culprit? settings.keepGoing inputs with
  | none => rfl
  | some culprit =>
    obtain ⟨input, fault⟩ := culprit
    obtain ⟨hkeepGoing, hfault⟩ := Disk.outcome_of_culprit? hculprit
    show addAll wording settings _ [disk.result input] = _
    rw [Disk.result, hfault, addAll, addFailure, if_neg (by simp [hkeepGoing])]
    rfl

end Tally

/-! ## The end of a run -/

namespace Disk

/-- What has been done with the results that count. -/
def tally (disk : Disk) (settings : Settings) (log : Log) : Tally :=
  (disk.considered settings.keepGoing settings.inputs).foldl (Tally.add wording settings disk)
    ⟨{ log with actions := [] }, [], false⟩

/-- The error for the input that ends the run. -/
def errorLines (disk : Disk) (keepGoing : Bool) (inputs : List String) : List String :=
  ((disk.culprit? keepGoing inputs).map fun culprit =>
    Log.errorLine (culprit.1 ++ ": " ++ culprit.2.report wording)).toList

/-- What is said at the end of a run that comes to its end. -/
def summary (disk : Disk) (keepGoing : Bool) (verbosity : Int) (inputs : List String) :
    List String :=
  if (disk.culprit? keepGoing inputs).isNone then
    Log.shownLines wording.site verbosity [.compiled (inputs.countP disk.compiles) inputs.length]
  else []

end Disk

theorem continues_foldl_add {settings : Settings} (disk : Disk) (inputs : List String) {tally : Tally}
    (hline : tally.log.atLineStart = true) :
    tally.log.Continues (inputs.foldl (Tally.add wording settings disk) tally).log := by
  induction inputs generalizing tally with
  | nil => exact ⟨rfl, rfl, hline⟩
  | cons input inputs ih =>
    have hinput : tally.log.Continues (tally.add wording settings disk input).log := by
      rw [Tally.add]
      split
      · cases hdirectory : settings.outputDir with
        | none =>
          rw [Tally.addRecord_toStream wording hdirectory]
          exact ⟨rfl, rfl, hline⟩
        | some directory =>
          rw [Tally.addRecord_toDirectory wording hdirectory hline]
          exact ⟨rfl, rfl, hline⟩
      · exact (Log.warning_cases hline _).1
    exact hinput.trans (ih hinput.atLineStart)

/-- An input has been skipped exactly if one of them has no record. -/
theorem skipped_foldl_add (settings : Settings) (disk : Disk) (inputs : List String) (tally : Tally) :
    (inputs.foldl (Tally.add wording settings disk) tally).skipped =
      (tally.skipped || !inputs.all disk.compiles) := by
  induction inputs generalizing tally with
  | nil => simp
  | cons input inputs ih =>
    have hinput : (tally.add wording settings disk input).skipped =
        (tally.skipped || !disk.compiles input) := by
      rw [Tally.add, Disk.compiles]
      cases disk.outcome input with
      | ok record =>
        dsimp only
        rw [Tally.addRecord.eq_def]
        split <;> simp [Except.isOk, Except.toBool]
      | error fault => simp [Except.isOk, Except.toBool]
    rw [List.foldl_cons, ih, hinput, List.all_cons, Bool.not_and, Bool.or_assoc]

/-- **The end of a run.** The records that go to one stream come first, then what has been done for
the inputs that count, and then the error of the one that ends the run or the summary. -/
theorem conclude_attempted {settings : Settings} {disk : Disk} {log : Log}
    (hline : log.atLineStart = true)
    (h : ∀ input ∈ disk.attempted settings.keepGoing settings.inputs, disk.Answers input) :
    conclude wording settings log
        ((disk.attempted settings.keepGoing settings.inputs).map disk.result) =
      (log.actions ++ deliver settings (disk.tally wording settings log).records ++
          ((disk.tally wording settings log).log.actions ++
            ((disk.errorLines wording settings.keepGoing settings.inputs).map (.print .err) ++
              (disk.summary wording settings.keepGoing log.verbosity settings.inputs).map
                (.print log.stream))),
        if settings.inputs.all disk.compiles then 0 else 1) := by
  have hcontinues : log.Continues (disk.tally wording settings log).log := by
    obtain ⟨hverbosity, hstream, hline⟩ := @continues_foldl_add wording settings disk
      (disk.considered settings.keepGoing settings.inputs)
      ⟨{ log with actions := [] }, [], false⟩ hline
    exact ⟨hverbosity, hstream, hline⟩
  have hskipped : (disk.tally wording settings log).skipped =
      !(disk.considered settings.keepGoing settings.inputs).all disk.compiles :=
    skipped_foldl_add wording settings disk _ _
  rw [conclude, Tally.addAll_attempted wording _ h]
  dsimp only
  rw [show (disk.considered settings.keepGoing settings.inputs).foldl
    (Tally.add wording settings disk) ⟨{ log with actions := [] }, [], false⟩ =
      disk.tally wording settings log from rfl]
  generalize disk.tally wording settings log = tally at hcontinues hskipped
  rw [Disk.errorLines, Disk.summary]
  cases hculprit : disk.culprit? settings.keepGoing settings.inputs with
  | none =>
    have hall : disk.considered settings.keepGoing settings.inputs = settings.inputs :=
      Disk.considered_of_culprit? hculprit
    have hattempted := Disk.attempted_of_culprit? h hculprit
    have hcount : (settings.inputs.map disk.result).countP JobResult.succeeded =
        settings.inputs.countP disk.compiles := List.countP_map
    dsimp only
    rw [hattempted, hcount, Log.notice_eq wording.site hcontinues.atLineStart, hcontinues.verbosity, Log.say,
      hcontinues.stream, hskipped, hall]
    cases settings.inputs.all disk.compiles <;> simp
  | some culprit =>
    -- the run exits with 1 whatever has been skipped, since one input has failed
    obtain ⟨input, fault⟩ := culprit
    have hfails : settings.inputs.all disk.compiles = false := by
      have hculprit' : disk.culprit? settings.keepGoing settings.inputs ≠ none := by
        rw [hculprit]
        exact Option.some_ne_none _
      rw [Ne, Disk.culprit?_eq_none, not_or] at hculprit'
      exact Bool.eq_false_iff.mpr hculprit'.2
    dsimp only
    rw [Log.error_eq hcontinues.atLineStart, hfails]
    simp

/-! ## All records on one stream -/

namespace Disk

/-- The records of those inputs that have one, in order. -/
def recordsOf (disk : Disk) (inputs : List String) : List String :=
  inputs.filterMap disk.record?

/-- The messages that the inputs that fail are skipped, in order. -/
def skipMessages (disk : Disk) (inputs : List String) : List String :=
  inputs.filterMap fun input =>
    (disk.fault? input).map fun fault => skipMessage input (fault.report wording)

/-- What is said of failures: where they are skipped a warning for each distinct message, otherwise
an error for the one that ends the run. -/
def complaints (disk : Disk) (keepGoing : Bool) (inputs : List String) : List String :=
  if keepGoing then (disk.skipMessages wording inputs).eraseDups.map Log.warningLine
  else disk.errorLines wording keepGoing inputs

/-- Inputs that all have records are not skipped. -/
theorem skipMessages_of_compiles {disk : Disk} {inputs : List String}
    (h : ∀ input ∈ inputs, disk.compiles input = true) : disk.skipMessages wording inputs = [] := by
  rw [skipMessages, List.filterMap_eq_nil_iff]
  intro input hinput
  have hnone := h input hinput
  rw [compiles_eq, Option.isNone_iff_eq_none] at hnone
  rw [hnone]
  rfl

theorem complaints_eq (disk : Disk) (keepGoing : Bool) (inputs : List String) :
    disk.complaints wording keepGoing inputs =
      (disk.skipMessages wording (disk.considered keepGoing inputs)).eraseDups.map Log.warningLine ++
        disk.errorLines wording keepGoing inputs := by
  cases keepGoing with
  | true => simp [complaints, considered, errorLines, culprit?]
  | false =>
    have hnone : disk.skipMessages wording (disk.considered false inputs) = [] :=
      skipMessages_of_compiles wording fun input hinput => List.mem_takeWhile_imp hinput
    rw [hnone]
    rfl

end Disk

/-- The sum where all records go to one stream: the records in order, and a warning for each
failure. -/
theorem foldl_add_toStream {settings : Settings} (hstream : settings.outputDir = none) (disk : Disk)
    (inputs : List String) (tally : Tally) :
    let sum := inputs.foldl (Tally.add wording settings disk) tally
    sum.log = (disk.skipMessages wording inputs).foldl Log.warning tally.log ∧
      sum.records = tally.records ++ disk.recordsOf inputs := by
  induction inputs generalizing tally with
  | nil => simp [Disk.skipMessages, Disk.recordsOf]
  | cons input inputs ih =>
    obtain ⟨hlog, hrecords⟩ := ih (tally.add wording settings disk input)
    rw [List.foldl_cons]
    dsimp only
    rw [hlog, hrecords, Disk.skipMessages, Disk.skipMessages, Disk.recordsOf, Disk.recordsOf,
      Tally.add]
    cases houtcome : disk.outcome input with
    | ok record => simp [Disk.fault?, Disk.record?, houtcome,
        Tally.addRecord_toStream wording hstream]
    | error fault => simp [Disk.fault?, Disk.record?, houtcome]

/-- **The end of a run to one stream**: the records, then the complaints, then the summary. -/
theorem conclude_toStream {settings : Settings} (hstream : settings.outputDir = none) {disk : Disk}
    {log : Log} (hsingle : log.singleWarnings = true) (hline : log.atLineStart = true)
    (hwarned : log.warned = [])
    (h : ∀ input ∈ disk.attempted settings.keepGoing settings.inputs, disk.Answers input) :
    conclude wording settings log
        ((disk.attempted settings.keepGoing settings.inputs).map disk.result) =
      (log.actions ++
          deliver settings (disk.recordsOf (disk.considered settings.keepGoing settings.inputs)) ++
          ((disk.complaints wording settings.keepGoing settings.inputs).map (.print .err) ++
            (disk.summary wording settings.keepGoing log.verbosity settings.inputs).map
              (.print log.stream)),
        if settings.inputs.all disk.compiles then 0 else 1) := by
  obtain ⟨hlog, hrecords⟩ := foldl_add_toStream wording hstream disk
    (disk.considered settings.keepGoing settings.inputs) ⟨{ log with actions := [] }, [], false⟩
  have hactions : (disk.tally wording settings log).log.actions =
      ((disk.skipMessages wording (disk.considered settings.keepGoing settings.inputs)).eraseDups.map
        Log.warningLine).map (.print .err) := by
    rw [Disk.tally, hlog, @Log.warnings_eq { log with actions := [] } hsingle hline hwarned,
      List.map_map]
    exact List.nil_append _
  have hrecords : (disk.tally wording settings log).records =
      disk.recordsOf (disk.considered settings.keepGoing settings.inputs) := hrecords
  rw [conclude_attempted wording hline h, hactions, hrecords, Disk.complaints_eq]
  simp

/-! ## Each record in a file of its own -/

namespace Disk

/-- The files that the records of some inputs are saved in, with the records. -/
def recordSaves (disk : Disk) (directory : String) (inputs : List String) : List (String × String) :=
  inputs.filterMap fun input => (disk.record? input).map fun record =>
    (recordFile directory input, record)

end Disk

/-- One more input saves its record, if it has one, and prints the rest. -/
theorem add_toDirectory {settings : Settings} {directory : String}
    (hdirectory : settings.outputDir = some directory) (disk : Disk) {tally : Tally}
    (hline : tally.log.atLineStart = true) (input : String) :
    (tally.add wording settings disk input).records = tally.records ∧
      ∃ (stream : Stream) (texts : List String), (tally.add wording settings disk input).log.actions =
        tally.log.actions ++ (disk.recordSaves directory [input]).map (fun save =>
          .save save.1 save.2) ++ texts.map (.print stream) := by
  rw [Tally.add, Disk.recordSaves, List.filterMap_cons, Disk.record?.eq_def]
  cases disk.outcome input with
  | ok record =>
    dsimp only
    rw [Tally.addRecord_toDirectory wording hdirectory hline]
    refine ⟨rfl, tally.log.stream, Log.shownLines wording.site tally.log.verbosity
      [.saved input (recordFile directory input)], ?_⟩
    exact (List.append_assoc _ [Action.save (recordFile directory input) record] _).symm
  | error fault =>
    obtain ⟨texts, htexts⟩ :=
      (Log.warning_cases hline (skipMessage input (fault.report wording))).2
    exact ⟨rfl, .err, texts, by simp [htexts]⟩

/-- **The sum where each record has a file of its own**: nothing goes to one stream, the records are
saved in order, and the rest is printed. -/
theorem foldl_add_toDirectory {settings : Settings} {directory : String}
    (hdirectory : settings.outputDir = some directory) (disk : Disk) (inputs : List String)
    {tally : Tally} (hline : tally.log.atLineStart = true) :
    let sum := inputs.foldl (Tally.add wording settings disk) tally
    sum.records = tally.records ∧
      savesOf sum.log.actions = savesOf tally.log.actions ++ disk.recordSaves directory inputs ∧
      ∀ action ∈ sum.log.actions,
        action ∈ tally.log.actions ∨ action.makesDirectories = false := by
  induction inputs generalizing tally with
  | nil => exact ⟨rfl, (List.append_nil _).symm, fun action haction => .inl haction⟩
  | cons input inputs ih =>
    obtain ⟨hrecords, stream, texts, hactions⟩ := add_toDirectory wording hdirectory disk hline input
    have hsaves : savesOf (tally.add wording settings disk input).log.actions =
        savesOf tally.log.actions ++ disk.recordSaves directory [input] := by
      rw [hactions, savesOf_append, savesOf_append, savesOf_print, List.append_nil, savesOf_save]
    have hmakes : ∀ action ∈ (tally.add wording settings disk input).log.actions,
        action ∈ tally.log.actions ∨ action.makesDirectories = false := by
      intro action haction
      simp only [hactions, List.mem_append, List.mem_map] at haction
      rcases haction with (haction | ⟨save, -, rfl⟩) | ⟨text, -, rfl⟩
      · exact .inl haction
      · exact .inr rfl
      · exact .inr rfl
    obtain ⟨hrest, hrestSaves, hrestMakes⟩ := @ih (tally.add wording settings disk input)
      (continues_foldl_add wording disk [input] hline).atLineStart
    refine ⟨hrest.trans hrecords, ?_, fun action haction => ?_⟩
    · rw [List.foldl_cons, hrestSaves, hsaves, List.append_assoc, Disk.recordSaves, Disk.recordSaves,
        Disk.recordSaves, ← List.filterMap_append]
      rfl
    · rcases hrestMakes action haction with haction | haction
      · exact hmakes action haction
      · exact .inr haction

/-- **The end of a run to a directory**: what it saves are the records of the inputs that count, each
in its own file. -/
theorem conclude_toDirectory {settings : Settings} {directory : String}
    (hdirectory : settings.outputDir = some directory) {disk : Disk} {log : Log}
    (hline : log.atLineStart = true)
    (h : ∀ input ∈ disk.attempted settings.keepGoing settings.inputs, disk.Answers input) :
    let ending := conclude wording settings log
      ((disk.attempted settings.keepGoing settings.inputs).map disk.result)
    savesOf ending.1 = savesOf log.actions ++
        disk.recordSaves directory (disk.considered settings.keepGoing settings.inputs) ∧
      (∀ action ∈ ending.1, action ∈ log.actions ∨ action.makesDirectories = false) ∧
      ending.2 = if settings.inputs.all disk.compiles then 0 else 1 := by
  obtain ⟨-, hsaves, hmakes⟩ := @foldl_add_toDirectory wording settings directory hdirectory disk
    (disk.considered settings.keepGoing settings.inputs) ⟨{ log with actions := [] }, [], false⟩ hline
  have hsaves : savesOf (disk.tally wording settings log).log.actions =
      disk.recordSaves directory (disk.considered settings.keepGoing settings.inputs) := hsaves
  have hmakes : ∀ action ∈ (disk.tally wording settings log).log.actions,
      action.makesDirectories = false := fun action haction =>
    (hmakes action haction).resolve_left List.not_mem_nil
  have hdeliver : deliver settings (disk.tally wording settings log).records = [] := by
    rw [deliver.eq_def, hdirectory]
  rw [conclude_attempted wording hline h, hdeliver]
  dsimp only
  refine ⟨?_, ?_, rfl⟩
  · simp only [savesOf_append, savesOf_print, hsaves, List.append_nil]
  · simp only [List.mem_append, List.append_nil]
    rintro action (haction | haction | haction | haction)
    · exact .inl haction
    · exact .inr (hmakes action haction)
    · exact .inr (makesDirectories_of_mem_print haction)
    · exact .inr (makesDirectories_of_mem_print haction)

/-! ## Jobs that are done at a time -/

/-- **Results that nobody asks for.** The jobs after the one that ends the run make no difference. -/
theorem conclude_map_result {settings : Settings} {disk : Disk} (log : Log)
    (h : ∀ input ∈ disk.attempted settings.keepGoing settings.inputs, disk.Answers input) :
    conclude wording settings log (settings.inputs.map disk.result) =
      conclude wording settings log
        ((disk.attempted settings.keepGoing settings.inputs).map disk.result) := by
  cases hculprit : disk.culprit? settings.keepGoing settings.inputs with
  | none => rw [Disk.attempted_of_culprit? h hculprit]
  | some culprit =>
    -- the culprit ends the sum, so what comes after it is not looked at
    obtain ⟨later, hlater⟩ := disk.attempted_prefix settings.keepGoing settings.inputs
    have hends := @Tally.addAll_attempted wording settings disk settings.inputs
      ⟨{ log with actions := [] }, [], false⟩ h
    rw [hculprit] at hends
    have hall : settings.inputs.map disk.result =
        (disk.attempted settings.keepGoing settings.inputs).map disk.result ++
          later.map disk.result := by
      rw [← List.map_append, hlater]
    rw [conclude, conclude, hall, Tally.addAll_append, hends]
    rfl

theorem addAll_withProcesses (settings : Settings) (processes : Int) (tally : Tally)
    (results : List JobResult) :
    tally.addAll wording { settings with processes := processes } results =
      tally.addAll wording settings results := by
  induction results generalizing tally with
  | nil => rfl
  | cons result results ih =>
    obtain ⟨input, fault | record⟩ := result
    · exact congrArg (tally.addFailure wording settings input fault >>= ·) (funext ih)
    · exact ih (tally.addRecord wording settings input record)

/-- The number of jobs at a time is not asked for at the end. -/
theorem conclude_withProcesses (settings : Settings) (processes : Int) (log : Log)
    (results : List JobResult) :
    conclude wording { settings with processes := processes } log results =
      conclude wording settings log results := by
  rw [conclude, conclude, addAll_withProcesses]
  rfl

end

end Litmus
