import Litmus.Proofs.Lines
import Litmus.Proofs.Runs
import Mathlib.Data.List.Nodup

/-!
# Runs that give each record a file of its own

A run with a directory for its records saves that of every input under the name of the input, with
another extension. Two inputs of one name would get in each other's way, so such a run is refused.

* **`recordFile_inj`**, **`target_recordFile`**: inputs of different names have different record files,
  as paths and as places on a disk. **`firstClash?_eq_none`**: this is what is looked for.
* **`runSettings_toDirectory`**: a run with two inputs of one name does nothing. Otherwise each record
  file has the record of its input and nothing else has changed, unless the run comes to an input
  whose path cannot be asked for: there it breaks off and has saved nothing.
-/

namespace Litmus

/-! ## The paths of record files -/

namespace Path

theorem components_ne_nil (path : String) : components path ≠ [] := by
  rw [components, Ne, List.map_eq_nil_iff]
  exact Text.splitWhen_ne_nil _ _

/-- A name after a slash is one more component. -/
theorem components_append_slash (directory : String) {name : String} (h : '/' ∉ name.toList) :
    components (directory ++ "/" ++ name) = components directory ++ [name] := by
  have hsplit : Text.splitAt '/' (directory.toList ++ '/' :: name.toList) =
      Text.splitAt '/' directory.toList ++ [name.toList] := by
    rw [Text.splitAt, Text.splitWhen_append (by simp), ← Text.splitAt, ← Text.splitAt,
      Text.splitAt_of_not_mem h]
  have hlist : (directory ++ "/" ++ name).toList = directory.toList ++ '/' :: name.toList := by simp
  rw [components, hlist, hsplit, components]
  simp

/-- The path of a name in a directory ends in that name. -/
theorem components_join (directory : String) {name : String} (h : '/' ∉ name.toList) :
    ∃ above, components (join directory name) = above ++ [name] := by
  rw [join]
  split
  · -- there is no slash to be put between the two
    rename_i hplain
    rcases hplain with hempty | hslash
    · have hdirectory : directory = "" := by simpa using hempty
      refine ⟨[], ?_⟩
      rw [hdirectory, String.empty_append, components, Text.splitAt_of_not_mem h]
      simp
    · obtain ⟨above, habove⟩ := List.getLast?_eq_some_iff.mp hslash
      have hdirectory : directory = String.ofList above ++ "/" := by
        rw [← String.toList_inj, habove]
        simp
      rw [hdirectory]
      exact ⟨_, components_append_slash _ h⟩
  · exact ⟨_, components_append_slash _ h⟩

theorem join_right_inj {directory name other : String} :
    join directory name = join directory other ↔ name = other := by
  rw [join, join]
  split <;> simp

theorem beforeLast?_subset {c : Char} {s before : List Char} (h : beforeLast? c s = some before) :
    before ⊆ s := by
  rw [beforeLast?] at h
  split at h
  · obtain rfl := Option.some.inj h
    intro a ha
    have hreverse := List.mem_of_mem_tail (List.mem_reverse.mp ha)
    exact List.mem_reverse.mp ((List.dropWhile_sublist _).subset hreverse)
  · cases h

/-- The name of a file without its extension is made of the characters of the name. -/
theorem toList_dropExtension_subset (name : String) : (dropExtension name).toList ⊆ name.toList := by
  rw [dropExtension, String.toList_ofList]
  intro a ha
  rcases List.mem_append.mp ha with ha | ha
  · exact (List.takeWhile_sublist _).subset ha
  · have hrest : a ∈ name.toList.dropWhile (· == '.') := by
      cases hbefore : beforeLast? '.' (name.toList.dropWhile (· == '.')) with
      | none => rwa [hbefore] at ha
      | some before =>
        rw [hbefore] at ha
        exact beforeLast?_subset hbefore ha
    exact (List.dropWhile_sublist _).subset hrest

theorem slash_notMem_stem (path : String) : '/' ∉ (stem path).toList := by
  intro hmem
  have hname : '/' ∈ (baseName path).toList := toList_dropExtension_subset _ hmem
  have hlast : baseName path ∈ components path := by
    rw [baseName, List.getLastD_eq_getLast?, List.getLast?_eq_some_getLast (components_ne_nil path)]
    exact List.getLast_mem _
  obtain ⟨piece, hpiece, heq⟩ := List.mem_map.mp hlast
  rw [← heq, String.toList_ofList] at hname
  exact absurd (Text.not_mem_of_mem_splitWhen hpiece '/' hname) (by simp)

end Path

/-- The name that the record of an input is saved under. -/
def recordName (input : String) : String :=
  Path.stem input ++ ".toml"

theorem recordFile_eq (directory input : String) :
    recordFile directory input = Path.join directory (recordName input) := rfl

theorem recordName_inj {input other : String} :
    recordName input = recordName other ↔ Path.stem input = Path.stem other := by
  rw [recordName, recordName]
  simp

/-- **Record files are told apart by the names of the inputs.** -/
theorem recordFile_inj {directory input other : String} :
    recordFile directory input = recordFile directory other ↔ Path.stem input = Path.stem other := by
  rw [recordFile_eq, recordFile_eq, Path.join_right_inj, recordName_inj]

theorem slash_notMem_recordName (input : String) : '/' ∉ (recordName input).toList := by
  rw [recordName, String.toList_append, List.mem_append, not_or]
  exact ⟨Path.slash_notMem_stem input, by decide⟩

/-! ## The places of record files -/

/-- The name of a record file is the last step on the way to it. -/
theorem step_recordName (above : Place) (input : String) :
    Disk.step above (recordName input) = above ++ [recordName input] := by
  have hlength : (recordName input).length = (Path.stem input).length + 5 := by
    rw [recordName, String.length_append]
    rfl
  have hne : ∀ name : String, name.length < 5 → recordName input ≠ name := by
    intro name hname heq
    rw [← heq] at hname
    omega
  rw [Disk.step, if_neg (not_or.mpr ⟨hne "" (by decide), hne "." (by decide)⟩),
    if_neg (hne ".." (by decide))]

/-- A record file that can be opened has its name on the disk. -/
theorem place_of_target_recordFile {disk : Disk} {directory input : String} {place : Place}
    (h : disk.target (recordFile directory input) = .ok place) :
    ∃ above, place = above ++ [recordName input] := by
  obtain ⟨-, hresolve, -⟩ := Disk.target_eq_ok.mp h
  rw [Disk.resolve, Disk.followFrom] at hresolve
  split at hresolve
  · cases hresolve
  · obtain ⟨components, hcomponents⟩ :=
      Path.components_join directory (slash_notMem_recordName input)
    rw [recordFile_eq, hcomponents] at hresolve
    obtain ⟨above, -, hplace⟩ := Disk.step_of_follow_concat hresolve
    exact ⟨above, hplace.trans (step_recordName above input)⟩

/-- **Record files are told apart on the disk too**, if they can be opened. -/
theorem target_recordFile {disk : Disk} {directory input other : String} {place : Place}
    (h : disk.target (recordFile directory input) = .ok place)
    (hother : disk.target (recordFile directory other) = .ok place) :
    Path.stem input = Path.stem other := by
  obtain ⟨above, rfl⟩ := place_of_target_recordFile h
  obtain ⟨above', heq⟩ := place_of_target_recordFile hother
  obtain ⟨-, hnames⟩ := List.append_inj' heq (by simp)
  exact recordName_inj.mp (List.singleton_inj.mp hnames)

/-! ## Two inputs of one name -/

theorem firstClash?_eq_none_iff (directory : String) (earlier inputs : List String) :
    firstClash? directory earlier inputs = none ↔
      (inputs.map Path.stem).Nodup ∧
        ∀ input ∈ inputs, ∀ other ∈ earlier, Path.stem other ≠ Path.stem input := by
  induction inputs generalizing earlier with
  | nil => simp [firstClash?]
  | cons input inputs ih =>
    rw [firstClash?]
    cases hfind : earlier.find? fun other =>
        recordFile directory other == recordFile directory input with
    | some other =>
      have hmem := List.mem_of_find?_eq_some hfind
      have hsame := List.find?_some hfind
      rw [beq_iff_eq, recordFile_inj] at hsame
      simp only [reduceCtorEq, false_iff, not_and]
      intro _ hnone
      exact hnone input List.mem_cons_self other hmem hsame
    | none =>
      have hnew : ∀ other ∈ earlier, Path.stem other ≠ Path.stem input := by
        intro other hother hsame
        have := List.find?_eq_none.mp hfind other hother
        rw [beq_iff_eq, recordFile_inj] at this
        exact this hsame
      dsimp only
      rw [ih, List.map_cons, List.nodup_cons]
      constructor
      · rintro ⟨hnodup, hothers⟩
        refine ⟨⟨?_, hnodup⟩, ?_⟩
        · intro hmem
          obtain ⟨other, hother, hsame⟩ := List.mem_map.mp hmem
          exact hothers other hother input (by simp) hsame.symm
        · rintro a ha other hother
          rcases List.mem_cons.mp ha with rfl | ha
          · exact hnew other hother
          · exact hothers a ha other (by simp [hother])
      · rintro ⟨⟨hfirst, hnodup⟩, hothers⟩
        refine ⟨hnodup, ?_⟩
        intro a ha other hother
        rcases List.mem_append.mp hother with hother | hother
        · exact hothers a (List.mem_cons_of_mem input ha) other hother
        · obtain rfl := List.mem_singleton.mp hother
          intro hsame
          exact hfirst (List.mem_map.mpr ⟨a, ha, hsame.symm⟩)

/-- **No clash is found exactly if all names are different.** -/
theorem firstClash?_eq_none {directory : String} {inputs : List String} :
    firstClash? directory [] inputs = none ↔ (inputs.map Path.stem).Nodup := by
  rw [firstClash?_eq_none_iff]
  simp

theorem nodup_recordFile {directory : String} {inputs : List String}
    (h : (inputs.map Path.stem).Nodup) : (inputs.map (recordFile directory)).Nodup := by
  rw [List.Nodup, List.pairwise_map] at h ⊢
  exact h.imp fun hne heq => hne (recordFile_inj.mp heq)

/-! ## What a run saves -/

namespace Disk

/-- The inputs that count and have a record. -/
def translated (disk : Disk) (keepGoing : Bool) (inputs : List String) : List String :=
  (disk.considered keepGoing inputs).filter disk.compiles

/-- The records have been saved: on `made`, which is the disk `before` the run with the directory for
them, nothing but the record files of the inputs that count and have one has changed. -/
structure RecordsSaved (before made : Disk) (settings : Settings) (directory : String)
    (final : Disk) : Prop where
  /-- A record file has the record of what was in the file of its input before the run. -/
  reads : ∀ input ∈ made.translated settings.keepGoing settings.inputs,
    ∃ place bytes record, made.resolve input = .ok place ∧ before.find place = some (.file bytes) ∧
      (compileFile input (.ok bytes)).outcome = .ok record ∧
      final.read (recordFile directory input) = .ok (Text.utf8Bytes record)
  frame : ∀ place, (∀ input ∈ made.translated settings.keepGoing settings.inputs,
    made.target (recordFile directory input) ≠ .ok place) → final.find place = made.find place
  /-- The record files of the other inputs are among what has not changed. -/
  spared : ∀ input ∈ settings.inputs, input ∉ made.translated settings.keepGoing settings.inputs →
    ∀ place, made.target (recordFile directory input) = .ok place →
      final.find place = made.find place

theorem considered_prefix (disk : Disk) (keepGoing : Bool) (inputs : List String) :
    disk.considered keepGoing inputs <+: inputs := by
  rw [considered]
  split
  · exact List.prefix_refl inputs
  · exact List.takeWhile_prefix _

theorem translated_subset (disk : Disk) (keepGoing : Bool) (inputs : List String) :
    disk.translated keepGoing inputs ⊆ inputs := fun _ h =>
  (disk.considered_prefix keepGoing inputs).subset (List.mem_of_mem_filter h)

theorem mem_recordSaves {disk : Disk} {directory : String} {inputs : List String}
    {save : String × String} :
    save ∈ disk.recordSaves directory inputs ↔
      ∃ input ∈ inputs, disk.outcome input = .ok save.2 ∧ recordFile directory input = save.1 := by
  obtain ⟨path, text⟩ := save
  simp [recordSaves, record?_eq_some]

theorem mem_translated {disk : Disk} {keepGoing : Bool} {inputs : List String} {input : String} :
    input ∈ disk.translated keepGoing inputs ↔
      input ∈ disk.considered keepGoing inputs ∧ ∃ record, disk.outcome input = .ok record := by
  rw [translated, List.mem_filter, compiles]
  cases disk.outcome input <;> simp [Except.isOk, Except.toBool]

/-- What could be compiled before directories were made still gives the same record. -/
theorem Grew.outcome {before made : Disk} (h : before.Grew made) {input record : String}
    (hrecord : before.outcome input = .ok record) : made.outcome input = .ok record := by
  cases hread : before.read input with
  | error e =>
    rw [Disk.outcome, job, hread, compileFile_error] at hrecord
    cases hrecord
  | ok bytes =>
    rw [← hrecord, Disk.outcome, Disk.outcome, job, job, hread, h.read hread]

/-- A record is that of a file that was there before the directories were made. -/
theorem Grew.bytes_of_outcome {before made : Disk} (h : before.Grew made) {input record : String}
    (hrecord : made.outcome input = .ok record) :
    ∃ place bytes, made.resolve input = .ok place ∧ before.find place = some (.file bytes) ∧
      (compileFile input (.ok bytes)).outcome = .ok record := by
  rw [Disk.outcome, job] at hrecord
  cases hread : made.read input with
  | error e =>
    rw [hread, compileFile_error] at hrecord
    cases hrecord
  | ok bytes =>
    obtain ⟨place, hresolve, hfind⟩ := read_eq_ok.mp hread
    refine ⟨place, bytes, hresolve, h.file_iff.mp hfind, ?_⟩
    rw [hread] at hrecord
    exact hrecord

/-- The file that the record of an input has been saved in holds what the input comes to. -/
theorem RecordsSaved.read_of_outcome {before made final : Disk} {settings : Settings}
    {directory : String} (h : before.RecordsSaved made settings directory final)
    (hgrew : before.Grew made) {input record : String}
    (hinput : input ∈ made.translated settings.keepGoing settings.inputs)
    (hrecord : made.outcome input = .ok record) :
    final.read (recordFile directory input) = .ok (Text.utf8Bytes record) := by
  obtain ⟨place, bytes, saved, hresolve, hfind, hcompile, hread⟩ := h.reads input hinput
  have hbytes : made.read input = .ok bytes :=
    read_eq_ok.mpr ⟨place, hresolve, hgrew.file_iff.mpr hfind⟩
  rw [Disk.outcome, job, hbytes, hcompile] at hrecord
  rw [hread, Except.ok.inj hrecord]

/-- **The records of inputs with different names** can be saved one after the other, if their files
can be opened. -/
theorem recordsSaved_of_targets {before made : Disk} (hgrew : before.Grew made) {settings : Settings}
    {directory : String} (hnames : (settings.inputs.map Path.stem).Nodup)
    (hopens : ∀ input ∈ made.translated settings.keepGoing settings.inputs,
      ∃ place, made.target (recordFile directory input) = .ok place) :
    ∃ final, made.saveAll (made.recordSaves directory
        (made.considered settings.keepGoing settings.inputs)) = .ok final ∧
      RecordsSaved before made settings directory final := by
  have htranslated : ∀ save ∈ made.recordSaves directory
      (made.considered settings.keepGoing settings.inputs),
      ∃ input ∈ made.translated settings.keepGoing settings.inputs,
        recordFile directory input = save.1 := by
    intro save hsave
    obtain ⟨input, hinput, hrecord, hfile⟩ := mem_recordSaves.mp hsave
    exact ⟨input, mem_translated.mpr ⟨hinput, _, hrecord⟩, hfile⟩
  have htargets : ∀ save ∈ made.recordSaves directory
      (made.considered settings.keepGoing settings.inputs),
      ∃ place, made.target save.1 = .ok place := by
    intro save hsave
    obtain ⟨input, hinput, hfile⟩ := htranslated save hsave
    exact hfile ▸ hopens input hinput
  have hdistinct : (made.recordSaves directory
      (made.considered settings.keepGoing settings.inputs)).Pairwise fun save other =>
        made.target save.1 ≠ made.target other.1 := by
    have hconsidered : (made.considered settings.keepGoing settings.inputs).Pairwise fun input other =>
        Path.stem input ≠ Path.stem other :=
      (List.pairwise_map.mp hnames).sublist (made.considered_prefix _ _).sublist
    rw [recordSaves, List.pairwise_filterMap]
    refine hconsidered.imp_of_mem fun {input other} hinput hother hne save hsave save' hsave' heq => ?_
    obtain ⟨record, hrecord, rfl⟩ := Option.map_eq_some_iff.mp hsave
    obtain ⟨record', hrecord', rfl⟩ := Option.map_eq_some_iff.mp hsave'
    obtain ⟨place, hplace⟩ := htargets (recordFile directory input, record)
      (List.mem_filterMap.mpr ⟨input, hinput, hsave⟩)
    dsimp only at hplace heq
    have hplace' : made.target (recordFile directory other) = .ok place := heq ▸ hplace
    exact hne (target_recordFile hplace hplace')
  obtain ⟨final, hfinal, hsaved⟩ := saved_of_targets htargets hdistinct
  have hframe : ∀ place, (∀ input ∈ made.translated settings.keepGoing settings.inputs,
      made.target (recordFile directory input) ≠ .ok place) →
        final.find place = made.find place := by
    intro place hplace
    refine hsaved.frame place fun save hsave => ?_
    obtain ⟨input, hinput, hfile⟩ := htranslated save hsave
    exact hfile ▸ hplace input hinput
  refine ⟨final, hfinal, ?_, hframe, ?_⟩
  · intro input hinput
    obtain ⟨hconsidered, record, hrecord⟩ := mem_translated.mp hinput
    obtain ⟨place, bytes, hresolve, hfind, hcompile⟩ := hgrew.bytes_of_outcome hrecord
    have hsave : (recordFile directory input, record) ∈ made.recordSaves directory
        (made.considered settings.keepGoing settings.inputs) :=
      mem_recordSaves.mpr ⟨input, hconsidered, hrecord, rfl⟩
    have hread := hsaved.reads _ hsave
    dsimp only at hread
    exact ⟨place, bytes, record, hresolve, hfind, hcompile, hread⟩
  · intro input hinput hnot place hplace
    refine hframe place fun other hother htarget => ?_
    have hsame := target_recordFile htarget hplace
    have heq : other = input := List.inj_on_of_nodup_map hnames
      (made.translated_subset _ _ hother) hinput hsame
    exact hnot (heq ▸ hother)

end Disk

/-! ## The run -/

section

variable {settings : Settings} {wording : Wording} {elapsed : (timer : Int) → String}
  {directory : String} {world : World} {made : Disk}

/-- A run with two inputs of one name only says so. -/
theorem runSettings_clash (hdirectory : settings.outputDir = some directory)
    (hinputs : settings.inputs ≠ []) (hnames : ¬ (settings.inputs.map Path.stem).Nodup) :
    ∃ first second, (runSettings (World.host wording elapsed) settings).run world =
      (.exit 1, { world with
        err := world.err ++ Log.errorLine (clashMessage directory first second) }) := by
  rw [← @firstClash?_eq_none directory] at hnames
  obtain ⟨⟨first, second⟩, hclash⟩ := Option.ne_none_iff_exists'.mp hnames
  have hprepare := prepare_toDirectory hdirectory hinputs
  rw [hclash] at hprepare
  refine ⟨first, second, ?_⟩
  rw [runSettings_of_refused hprepare, Log.error_eq rfl]
  exact finish_run wording elapsed rfl

theorem prepare_of_nodup (hdirectory : settings.outputDir = some directory)
    (hinputs : settings.inputs ≠ []) (hnames : (settings.inputs.map Path.stem).Nodup) :
    prepare settings =
      .ok { Log.ofSettings settings with actions := [.makeDirectories directory] } := by
  rw [prepare_toDirectory hdirectory hinputs, firstClash?_eq_none.mpr hnames]

theorem performAll_makeDirectories (h : world.disk.makeDirectories directory = (.ok (), made)) :
    (performAll (World.host wording elapsed) [.makeDirectories directory]).run world =
      (.ok (), { world with disk := made }) := by
  have hperform : world.perform (.makeDirectories directory) =
      (.ok (), { world with disk := made }) := by
    rw [World.perform, h]
  rw [performAll_cons, hperform]
  rfl

/-- A run that comes to a path that cannot be asked for breaks off before anything is saved. -/
theorem runSettings_zero (hdirectory : settings.outputDir = some directory)
    (hinputs : settings.inputs ≠ []) (hprocesses : settings.processes ≤ 1)
    (hnames : (settings.inputs.map Path.stem).Nodup)
    (hmade : world.disk.makeDirectories directory = (.ok (), made)) {input : String}
    (hinput : input ∈ made.attempted settings.keepGoing settings.inputs)
    (hzero : '\x00' ∈ input.toList) :
    ∃ final, (runSettings (World.host wording elapsed) settings).run world =
      (.broken (.file ⟨.zeroByte, input⟩), final) ∧ final.disk = made := by
  have hjobs := @runJobs_sequential settings wording elapsed (isParallel_of_processes_le_one hprocesses)
    { world with disk := made }
  rw [mapM_attempted_of_zero hinput hzero] at hjobs
  rw [runSettings_run (prepare_of_nodup hdirectory hinputs hnames), performAll_makeDirectories hmade]
  dsimp only
  rw [StateT.run_bind, hjobs]
  -- what has been told so far is printed, and nothing is saved
  refine ⟨_, finish_run wording elapsed
    (@performAll_saves wording elapsed _ { world with disk := made } made ?_ ?_), rfl⟩
  · intro action haction
    rw [actions_afterJobs] at haction
    exact makesDirectories_of_mem_print haction
  · rw [actions_afterJobs, savesOf_print]
    rfl

/-- A run that comes to no such path saves the records. -/
theorem runSettings_recordsSaved (hdirectory : settings.outputDir = some directory)
    (hinputs : settings.inputs ≠ []) (hprocesses : settings.processes ≤ 1)
    (hnames : (settings.inputs.map Path.stem).Nodup)
    (hmade : world.disk.makeDirectories directory = (.ok (), made))
    (hanswers : ∀ input ∈ made.attempted settings.keepGoing settings.inputs, made.Answers input)
    (hopens : ∀ input ∈ made.translated settings.keepGoing settings.inputs,
      ∃ place, made.target (recordFile directory input) = .ok place) :
    ∃ final, (runSettings (World.host wording elapsed) settings).run world =
        (.exit (if settings.inputs.all made.compiles then 0 else 1), final) ∧
      world.disk.RecordsSaved made settings directory final.disk := by
  have hgrew : world.disk.Grew made := by
    have hmakes := world.disk.grew_makeDirectories directory
    rwa [hmade] at hmakes
  obtain ⟨final, hfinal, hsaved⟩ := Disk.recordsSaved_of_targets hgrew hnames hopens
  have hline : ((Log.ofSettings settings).afterJobs wording elapsed made
      (made.attempted settings.keepGoing settings.inputs)).atLineStart = true := by
    rw [afterJobs_ofSettings]
    rfl
  obtain ⟨hsaves, hmakes, hstatus⟩ := conclude_toDirectory wording hdirectory hline hanswers
  rw [actions_afterJobs, savesOf_print, List.nil_append] at hsaves
  have hdirectories : ∀ action ∈ (conclude wording settings
      ((Log.ofSettings settings).afterJobs wording elapsed made
        (made.attempted settings.keepGoing settings.inputs))
      ((made.attempted settings.keepGoing settings.inputs).map made.result)).1,
      action.makesDirectories = false := by
    intro action haction
    rcases hmakes action haction with haction | haction
    · rw [actions_afterJobs] at haction
      exact makesDirectories_of_mem_print haction
    · exact haction
  have hclosing := @closing_run settings wording elapsed _ _ { world with disk := made } final hdirectories
    (by rw [hsaves]; exact hfinal)
  rw [hstatus] at hclosing
  rw [runSettings_sequential (prepare_of_nodup hdirectory hinputs hnames)
    (isParallel_of_processes_le_one hprocesses) (performAll_makeDirectories hmade) hanswers]
  exact ⟨_, hclosing, hsaved⟩

/-- **A run that gives each record a file of its own.** Two inputs of one name end it before it has
done anything. Otherwise it makes the directory, in which the record files of the inputs are different
files. If it comes to an input whose path cannot be asked for it breaks off there. If not, it exits
with 0 exactly if every input is compiled, and each of the inputs that count has its record in its own
file, while all other files are as they were. -/
theorem runSettings_toDirectory (wording : Wording) (elapsed : (timer : Int) → String) (world : World)
    (hdirectory : settings.outputDir = some directory) (hinputs : settings.inputs ≠ [])
    (hprocesses : settings.processes ≤ 1) :
    (¬ (settings.inputs.map Path.stem).Nodup →
      ∃ final, (runSettings (World.host wording elapsed) settings).run world = (.exit 1, final) ∧
        final.disk = world.disk) ∧
    ((settings.inputs.map Path.stem).Nodup →
      (settings.inputs.map (recordFile directory)).Nodup ∧
      ∀ made, world.disk.makeDirectories directory = (.ok (), made) →
        world.disk.Grew made ∧
        (∀ input record, world.disk.outcome input = .ok record →
          made.outcome input = .ok record) ∧
        (∀ input ∈ made.attempted settings.keepGoing settings.inputs, '\x00' ∈ input.toList →
          ∃ final, (runSettings (World.host wording elapsed) settings).run world =
            (.broken (.file ⟨.zeroByte, input⟩), final) ∧ final.disk = made) ∧
        ((∀ input ∈ made.attempted settings.keepGoing settings.inputs, '\x00' ∉ input.toList) →
          (∀ input ∈ made.translated settings.keepGoing settings.inputs,
            ∃ place, made.target (recordFile directory input) = .ok place) →
          ∃ final, (runSettings (World.host wording elapsed) settings).run world =
            (.exit (if settings.inputs.all made.compiles then 0 else 1), final) ∧
            world.disk.RecordsSaved made settings directory final.disk)) := by
  refine ⟨fun hnames => ?_, fun hnames => ⟨nodup_recordFile hnames, fun made hmade => ?_⟩⟩
  · obtain ⟨first, second, hrun⟩ := @runSettings_clash settings wording elapsed directory world hdirectory
      hinputs hnames
    exact ⟨_, hrun, rfl⟩
  · have hgrew := world.disk.grew_makeDirectories directory
    rw [hmade] at hgrew
    refine ⟨hgrew, fun _ _ => hgrew.outcome, fun input hinput hzero => ?_, fun hzero hopens => ?_⟩
    · exact runSettings_zero hdirectory hinputs hprocesses hnames hmade hinput hzero
    · exact runSettings_recordsSaved hdirectory hinputs hprocesses hnames hmade
        (fun input hinput => Disk.answers_iff.mpr (hzero input hinput)) hopens

/-- Three inputs that are saved in one directory, where failures are to be skipped. The second one fails:
the others have their records, and it has no file. Were the path of the last one to hold the character
zero, the run would break off, and nothing would be saved of the first one either. -/
theorem runSettings_toDirectory_three :
    let host := World.host terseWording fun _ => "0.00"
    let settings : Settings :=
      { inputs := ["MP.litmus", "LB.litmus", "SB.litmus"], outputDir := some "out",
        keepGoing := true }
    (∃ final, (runSettings host settings).run threeTests = (.exit 1, final) ∧
      final.disk.read "out/MP.toml" = .ok (Text.utf8Bytes (idleRecord "MP")) ∧
      final.disk.find ["out", "LB.toml"] = none ∧
      final.disk.read "out/SB.toml" = .ok (Text.utf8Bytes (idleRecord "SB"))) ∧
    ∃ final, (runSettings host
        { settings with inputs := ["MP.litmus", "LB.litmus", "x\x00/SB.litmus"] }).run threeTests =
        (.broken (.file ⟨.zeroByte, "x\x00/SB.litmus"⟩), final) ∧
      final.disk = threeTests.disk.put ["out"] .directory := by
  intro host settings
  have hmade : threeTests.disk.makeDirectories "out" =
      (.ok (), threeTests.disk.put ["out"] .directory) := by rfl
  constructor
  · obtain ⟨-, hnames⟩ := @runSettings_toDirectory settings "out" terseWording (fun _ => "0.00")
      threeTests rfl (by decide) (by decide)
    obtain ⟨-, hrun⟩ := hnames (by decide)
    obtain ⟨hgrew, houtcome, -, hsave⟩ := hrun _ hmade
    have htranslated : (threeTests.disk.put ["out"] .directory).translated true settings.inputs =
        ["MP.litmus", "SB.litmus"] := by decide +kernel
    have hzero : ∀ input ∈ settings.inputs, '\x00' ∉ input.toList := by decide
    have htargets : ∀ input ∈ ["MP.litmus", "SB.litmus"],
        (threeTests.disk.put ["out"] .directory).target (recordFile "out" input) =
          .ok ["out", recordName input] := by decide +kernel
    obtain ⟨final, hfinal, hsaved⟩ := hsave
      (fun input hinput => hzero input ((Disk.attempted_prefix _ _ _).subset hinput))
      (fun input hinput => ⟨_, htargets input (htranslated ▸ hinput)⟩)
    have hall : settings.inputs.all (threeTests.disk.put ["out"] .directory).compiles = false := by
      decide +kernel
    rw [hall] at hfinal
    have hspared : final.disk.find ["out", "LB.toml"] = none := by
      refine (hsaved.frame ["out", "LB.toml"] fun input hinput => ?_).trans (by decide +kernel)
      rw [htranslated] at hinput
      rw [htargets input hinput]
      rcases List.mem_pair.mp hinput with rfl | rfl <;> decide
    have hreads : ∀ input ∈ ["MP.litmus", "SB.litmus"], ∀ record,
        threeTests.disk.outcome input = .ok record →
          final.disk.read (recordFile "out" input) = .ok (Text.utf8Bytes record) := by
      intro input hinput record hrecord
      exact hsaved.read_of_outcome hgrew (htranslated ▸ hinput) (houtcome input record hrecord)
    have hfirst : recordFile "out" "MP.litmus" = "out/MP.toml" := by decide +kernel
    have hlast : recordFile "out" "SB.litmus" = "out/SB.toml" := by decide +kernel
    have hmp := hreads "MP.litmus" (by simp) _ outcome_threeTests.1
    have hsb := hreads "SB.litmus" (by simp) _ outcome_threeTests.2.2
    rw [hfirst] at hmp
    rw [hlast] at hsb
    exact ⟨final, hfinal, hmp, hspared, hsb⟩
  · obtain ⟨-, hnames⟩ := @runSettings_toDirectory
      { settings with inputs := ["MP.litmus", "LB.litmus", "x\x00/SB.litmus"] } "out" terseWording
      (fun _ => "0.00") threeTests rfl (by decide) (by decide)
    obtain ⟨-, hrun⟩ := hnames (by decide)
    obtain ⟨-, -, hzero, -⟩ := hrun _ hmade
    exact hzero "x\x00/SB.litmus" (by decide +kernel) (by decide)

end

end Litmus
