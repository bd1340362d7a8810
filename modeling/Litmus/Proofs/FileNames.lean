import Litmus.Proofs.Priority

/-!
# The names of the inputs

The inputs are named by operands on the command line or by an entry of the configuration file, and in
each text there may be several names with commas between them.

* **`readCommandLine_operands`**: words that look like no switches are the operands of a command line.
* **`inputsOf_eq_ok`**: the inputs are what their option is settled with, if everything that is given
  is right.
* **`files_grouping`**: the names depend on the texts alone, not on how they are grouped and given.
-/

namespace Litmus

open Litmus.Text

namespace Settings

/-! ## Operands -/

section

variable {arguments : List Argument}

/-- Words that look like no switches are operands. -/
theorem classifyAll_operands {words : List String}
    (h : ∀ word ∈ words, isSwitchName word = false) :
    classifyAll arguments words = .ok (words.map .operand) := by
  induction words with
  | nil => rfl
  | cons word words ih =>
    obtain ⟨hword, hwords⟩ := List.forall_mem_cons.mp h
    have hne : word ≠ "--" := by
      rintro rfl
      exact absurd hword (by decide)
    have hclass : classify arguments word = .ok (.operand word) := by
      rw [classify]
      split
      · rename_i rest hlist
        simp [isSwitchName, hlist] at hword
      · rfl
    rw [classifyAll, if_neg hne, hclass, ih hwords]
    rfl

/-- An argument that may have any number of words gets all of them if no other one waits. -/
theorem dealOut_any {argument : Argument} {words : List Word}
    (harity : argument.effect.arity = .any) (hplain : words.all Word.isPlain = true) :
    dealOut [argument] words =
      .ok ([(argument, words.map Word.text)], words.length, []) := by
  have hfits : argument.effect.arity.fits (words.take words.length) = true := by
    rw [harity, List.take_length, Arity.fits, hplain]
    · rfl
    all_goals nofun
  have hdeal : deal [argument] words = some ([(argument, words.map Word.text)], words.length) := by
    rw [deal, List.range_succ, List.reverse_append, List.reverse_singleton, List.singleton_append,
      List.findSome?_cons, if_pos hfits, List.take_length, deal]
    rfl
  have hmalformed : ([argument].findSome? fun argument => argument.effect.arity.malformed?) = none := by
    rw [List.findSome?_singleton, harity]
    rfl
  have hrange : (List.range [argument].length).reverse = [0] := rfl
  rw [dealOut, hmalformed, hrange]
  dsimp only
  rw [List.findSome?_singleton, List.take_of_length_le (by simp), hdeal]
  rfl

end

/-- **A command line of operands** gives them to the inputs and nothing to the other options. -/
theorem readCommandLine_operands {words : List String}
    (h : ∀ word ∈ words, isSwitchName word = false) :
    readCommandLine standard.arguments words =
      .ok [("inputs", .sequence (words.map .text))] := by
  have hwaiting : standard.arguments.filter Argument.isOperand =
      [⟨"inputs", [], .store .any⟩] := rfl
  have hplain : (words.map Word.operand).all Word.isPlain = true := by simp [Word.isPlain]
  have htexts : (words.map Word.operand).map Word.text = words := by
    rw [List.map_map]
    exact List.map_id words
  have herase : words.erase "--" = words := by
    refine List.erase_of_not_mem fun hmem => ?_
    exact absurd (h _ hmem) (by decide)
  have hread : readWords standard.arguments [⟨"inputs", [], .store .any⟩]
      (words.map Word.operand) {} =
        .ok { given := [("inputs", Arity.any.value words)] } := by
    rw [readWords.eq_def, if_pos hplain, dealOut_any rfl hplain, htexts]
    simp [Progress.store, Progress.meet, Progress.leave, Effect.value?, bind, Except.bind, pure,
      Except.pure]
  have hvalue : Arity.any.value words = .sequence (words.map .text) := by
    have hsequence : Arity.any.value words = .sequence ((words.erase "--").map .text) := rfl
    rw [hsequence, herase]
  rw [readCommandLine, classifyAll_operands h, hwaiting]
  show (readWords _ _ _ _ >>= _).mapError _ = _
  rw [hread, hvalue]
  rfl

/-! ## Inputs -/

/-- The option for the inputs. -/
def inputsSetting : Setting :=
  ⟨⟨"inputs", [], .store .any⟩, .files, .sequence [], false⟩

theorem inputsSetting_mem : inputsSetting ∈ standard := List.mem_cons_self

/-- The inputs that a command line comes to where files have these contents. -/
def inputsOf (contents : String → Except FileError (List UInt8)) (words : List String) :
    Except Stop (List String) :=
  (readWith contents words).map fun values => (ofValues values).inputs

theorem texts_ofFiles (files : List String) : (Value.ofFiles files).texts = files := by
  rw [Value.ofFiles, Value.texts, List.filterMap_map]
  exact List.filterMap_some

/-- **The inputs** are what their option is settled with, if everything that is given is right. -/
theorem inputsOf_eq_ok {contents : String → Except FileError (List UInt8)} {words : List String}
    {given : Values} {entries : List (String × String)} {files : List String}
    (hgiven : readCommandLine standard.arguments words = .ok given)
    (hsupplied : suppliedEntries contents given = .ok (some entries))
    (haccepts : standard.Accepts given entries)
    (hsettled : inputsSetting.settled given entries = .ok (.ofFiles files)) :
    inputsOf contents words = .ok files := by
  obtain ⟨file, hread⟩ := readWith_eq hgiven contents
  obtain ⟨hexists, hall⟩ := settle_of_entries sound_standard file given entries
  obtain ⟨values, hvalues⟩ := hexists.mpr haccepts
  have hget : values.get "inputs" = .ofFiles files := by
    have hsame := (hall values hvalues).2 inputsSetting inputsSetting_mem
    rw [hsettled] at hsame
    exact (Except.ok.inj hsame).symm
  have hok : readWith contents words = .ok values := by
    rw [hread, hsupplied]
    show (standard.fromEntries file entries >>= standard.settle given).mapError _ = _
    rw [hvalues]
    rfl
  have hinputs : (ofValues values).inputs = (values.get "inputs").texts := rfl
  rw [inputsOf, hok, Except.map, hinputs, hget, texts_ofFiles]

/-- Operands without a configuration file are all right. -/
theorem accepts_operands (words : List String) :
    standard.Accepts [("inputs", .sequence (words.map .text))] [] := by
  refine ⟨by simp, fun setting hsetting hset => ?_⟩
  by_cases hkey : setting.key = "inputs"
  · have hinputs : setting = inputsSetting :=
      List.inj_on_of_nodup_map sound_standard.keys hsetting inputsSetting_mem hkey
    subst hinputs
    exact ⟨_, toFiles_texts words⟩
  · have hnone : Values.get [("inputs", .sequence (words.map .text))] setting.key = .absent := by
      have hne : (setting.key == "inputs") = false := by simpa using hkey
      simp [Values.get, List.lookup_cons, hne]
    rw [hnone] at hset
    cases hset

/-- The texts with the names of the inputs are given: as operands of their own, as one operand with
commas between them, or, without operands, as an entry of the configuration file. -/
inductive GivesInputs (texts : List String) (given : Values) (entries : List (String × String)) :
    Prop where
  | operands (h : given.get "inputs" = .sequence (texts.map .text))
      (hnone : texts = [] → entries.lookup "inputs" = none)
  | operand (h : given.get "inputs" = .sequence [.text (String.intercalate "," texts)])
  | entry (hunset : (given.get "inputs").isUnset = true)
      (h : entries.lookup "inputs" = some (String.intercalate "," texts))

/-- However the texts are given, the inputs are settled with the names in them. -/
theorem GivesInputs.settled {texts : List String} {given : Values}
    {entries : List (String × String)} (h : GivesInputs texts given entries) :
    inputsSetting.settled given entries = .ok (.ofFiles (texts.flatMap namesIn)) := by
  have hkey : given.get inputsSetting.key = given.get "inputs" := rfl
  have hconvert : ∀ value, inputsSetting.kind.convert value = Kind.toFiles value := fun _ => rfl
  have hlookup : entries.lookup inputsSetting.key = entries.lookup "inputs" := rfl
  rw [Setting.settled, hkey, hlookup, hconvert]
  cases h with
  | operands h hnone =>
    rw [h]
    cases texts with
    | nil =>
      rw [hnone rfl]
      rfl
    | cons text texts => exact toFiles_texts (text :: texts)
  | operand h =>
    rw [h, ← namesIn_intercalate]
    exact (toFiles_texts [_]).trans (by rw [List.flatMap_singleton])
  | entry hunset h =>
    rw [if_pos hunset, h, ← namesIn_intercalate]
    rfl

/-- However the texts of a tree are given, the inputs are the names of the tree. -/
theorem inputsOf_files {tree : NameTree} {contents : String → Except FileError (List UInt8)}
    {words : List String} {given : Values} {entries : List (String × String)}
    (hgiven : readCommandLine standard.arguments words = .ok given)
    (hsupplied : suppliedEntries contents given = .ok (some entries))
    (haccepts : standard.Accepts given entries) (hgives : GivesInputs tree.leaves given entries) :
    inputsOf contents words = .ok tree.files := by
  rw [tree.files_eq_flatMap_leaves]
  exact inputsOf_eq_ok hgiven hsupplied haccepts hgives.settled

/-- **Grouping names.** The names of a tree are those in its texts, and those in the one text that
joins them with commas. No name is empty, has white space around it or a comma in it, so that the names
of the names are the same once more. The inputs of the program are these names, whether the texts are
operands of their own, joined in one operand, or joined in an entry of the configuration file. -/
theorem files_grouping (tree : NameTree) :
    (tree.files = tree.leaves.flatMap fun text => (NameTree.leaf text).files) ∧
    tree.files = (NameTree.leaf (String.intercalate "," tree.leaves)).files ∧
    (∀ name ∈ tree.files, name ≠ "" ∧ trim name.toList = name.toList ∧ ',' ∉ name.toList) ∧
    (NameTree.group (tree.files.map .leaf)).files = tree.files ∧
    (∀ contents words, words = tree.leaves ∨ words = [String.intercalate "," tree.leaves] →
      (∀ word ∈ words, isSwitchName word = false) → inputsOf contents words = .ok tree.files) ∧
    ∀ contents words given entries, readCommandLine standard.arguments words = .ok given →
      suppliedEntries contents given = .ok (some entries) → standard.Accepts given entries →
      GivesInputs tree.leaves given entries → inputsOf contents words = .ok tree.files := by
  have hfiles := tree.files_eq_flatMap_leaves
  refine ⟨hfiles, hfiles.trans (namesIn_intercalate tree.leaves).symm, ?_, ?_, ?_,
    fun _ _ _ _ => inputsOf_files⟩
  · intro name hname
    obtain ⟨text, htext⟩ := NameTree.exists_mem_namesIn_of_mem_files hname
    exact trimmed_of_mem_namesIn htext
  · rw [NameTree.files, NameTree.allFiles_map_leaf, tree.flatMap_namesIn_files]
  · intro contents words hwords hoperands
    refine inputsOf_files (readCommandLine_operands hoperands) rfl (accepts_operands words) ?_
    rcases hwords with rfl | rfl
    · exact .operands rfl fun _ => rfl
    · exact .operand rfl

/-- Texts with a group in a group, a text without names, blanks and commas at the ends. -/
def nestedTexts : NameTree :=
  .group [.leaf "MP.litmus , ,SB.litmus,", .group [.group [.leaf ""], .leaf "\u00a0two words"],
    .leaf ","]

/-- A configuration file with these texts. -/
def nestedFile (path : String) : Except FileError (List UInt8) :=
  if path = "litmus.cfg" then
    .ok (utf8Bytes "[GENERAL]\ninputs: MP.litmus , ,SB.litmus,,,\u00a0two words,,\ntime: True\n")
  else .error ⟨.missing, path⟩

/-- The statement for these texts on a command line and in the configuration file. -/
theorem files_grouping_nested :
    nestedTexts.files = ["MP.litmus", "SB.litmus", "two words"] ∧
    inputsOf nestedFile nestedTexts.leaves = .ok nestedTexts.files ∧
    inputsOf nestedFile ["-j", "2", "--config", "litmus.cfg"] = .ok nestedTexts.files := by
  obtain ⟨-, -, -, -, hoperands, hgives⟩ := files_grouping nestedTexts
  have hgiven : readCommandLine standard.arguments ["-j", "2", "--config", "litmus.cfg"] =
      .ok [("inputs", .sequence []), ("config", .text "litmus.cfg"), ("processes", .text "2")] := by
    with_unfolding_all rfl
  have hsupplied : suppliedEntries nestedFile
      [("inputs", .sequence []), ("config", .text "litmus.cfg"), ("processes", .text "2")] =
        .ok (some [("inputs", "MP.litmus , ,SB.litmus,,,\u00a0two words,,"), ("time", "True")]) := by
    with_unfolding_all rfl
  refine ⟨by decide, hoperands nestedFile nestedTexts.leaves (.inl rfl) (by decide),
    hgives _ _ _ _ hgiven hsupplied ?_ (.entry rfl rfl)⟩
  constructor
  · simp only [List.forall_mem_cons]
    exact ⟨⟨inputsSetting, inputsSetting_mem, rfl, rfl, _, rfl⟩,
      ⟨flagSetting "time" ["--time"], by simp [standard], rfl, rfl, _, rfl⟩, by simp⟩
  · simp only [standard, List.forall_mem_cons]
    refine ⟨fun _ => ⟨_, rfl⟩, fun _ => ⟨_, rfl⟩, fun _ => ⟨_, rfl⟩, fun _ => ⟨_, rfl⟩,
      fun _ => ⟨_, rfl⟩, fun _ => ⟨_, rfl⟩, fun _ => ⟨_, rfl⟩, fun _ => ⟨_, rfl⟩, by simp⟩

end Settings

end Litmus
