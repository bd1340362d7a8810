import Litmus.Proofs.Layout
import Litmus.Proofs.Sequence
import Litmus.Settings.Value

/-!
# Converted values

What is given for an option is converted to the kind of the option, and a value from a configuration
file is converted twice on its way. That makes no difference.

* **`namesIn_of_mem`**: a name from a list of names is the only name in it.
* **`NameTree.files_eq_flatMap_leaves`**: the names of a tree are those in its texts, one text after
  the other.
* **`convert_convert`**: a converted value stays what it is when it is converted again.
* **`convert_entryText`**: what a command line gives an option can be written in a configuration file.
-/

namespace Litmus

open Litmus.Text

/-! ## Names -/

/-- A name has no white space around it and no comma in it, and it is not empty. -/
theorem trimmed_of_mem_namesIn {text name : String} (h : name ∈ namesIn text) :
    name ≠ "" ∧ trim name.toList = name.toList ∧ ',' ∉ name.toList := by
  obtain ⟨trimmed, htrimmed, rfl⟩ := List.mem_map.mp h
  obtain ⟨hpiece, hempty⟩ := List.mem_filter.mp htrimmed
  obtain ⟨piece, hmem, rfl⟩ := List.mem_map.mp hpiece
  rw [String.toList_ofList]
  refine ⟨by simpa using hempty, Source.trim_trim piece, fun hcomma => ?_⟩
  exact absurd (not_mem_of_mem_splitWhen hmem ',' (Source.mem_trim hcomma)) (by simp)

/-- **A name from a list of names** is the only name in it. -/
theorem namesIn_of_mem {text name : String} (h : name ∈ namesIn text) : namesIn name = [name] := by
  obtain ⟨hne, htrim, hcomma⟩ := trimmed_of_mem_namesIn h
  rw [namesIn, splitAt_of_not_mem hcomma, List.map_singleton, htrim]
  simp [hne]

/-- The names of two texts with a comma between them. -/
theorem namesIn_append (first second : String) :
    namesIn (first ++ "," ++ second) = namesIn first ++ namesIn second := by
  have hlist : (first ++ "," ++ second).toList = first.toList ++ ',' :: second.toList := by simp
  rw [namesIn, hlist, splitAt, splitWhen_append (by simp), List.map_append, List.filter_append,
    List.map_append]
  rfl

/-- The names of texts with commas between them. -/
theorem namesIn_intercalate (texts : List String) :
    namesIn (String.intercalate "," texts) = texts.flatMap namesIn := by
  induction texts with
  | nil => rfl
  | cons text texts ih =>
    cases texts with
    | nil => simp
    | cons next texts => rw [String.intercalate_cons_cons, List.flatMap_cons, ← ih, namesIn_append]

namespace NameTree

mutual

/-- The texts of a tree, in order. -/
def leaves : NameTree → List String
  | .leaf text => [text]
  | .group parts => allLeaves parts

/-- The texts of several trees, in order. -/
def allLeaves : List NameTree → List String
  | [] => []
  | part :: parts => part.leaves ++ allLeaves parts

end

mutual

/-- **The names of a tree** are those in its texts, one text after the other. -/
theorem files_eq_flatMap_leaves : ∀ tree : NameTree, tree.files = tree.leaves.flatMap namesIn
  | .leaf text => by simp [files, leaves]
  | .group parts => by rw [files, leaves, allFiles_eq_flatMap_allLeaves parts]

theorem allFiles_eq_flatMap_allLeaves :
    ∀ parts : List NameTree, allFiles parts = (allLeaves parts).flatMap namesIn
  | [] => rfl
  | part :: parts => by
    rw [allFiles, allLeaves, List.flatMap_append, files_eq_flatMap_leaves part,
      allFiles_eq_flatMap_allLeaves parts]

end

/-- The names of texts side by side. -/
theorem allFiles_map_leaf (texts : List String) :
    allFiles (texts.map leaf) = texts.flatMap namesIn := by
  rw [allFiles_eq_flatMap, List.flatMap_map]
  rfl

theorem exists_mem_namesIn_of_mem_files {tree : NameTree} {name : String} (h : name ∈ tree.files) :
    ∃ text, name ∈ namesIn text := by
  rw [files_eq_flatMap_leaves, List.mem_flatMap] at h
  obtain ⟨text, -, hname⟩ := h
  exact ⟨text, hname⟩

/-- The names of a tree, taken for texts, have the same names in them. -/
theorem flatMap_namesIn_files (tree : NameTree) : tree.files.flatMap namesIn = tree.files := by
  have hsame : ∀ name ∈ tree.files, namesIn name = [name] := fun name hname =>
    let ⟨_, hmem⟩ := exists_mem_namesIn_of_mem_files hname
    namesIn_of_mem hmem
  rw [List.flatMap_congr hsame, List.flatMap_singleton']

end NameTree

namespace Settings

/-! ## Converting twice -/

theorem namesOfAll_texts (texts : List String) :
    Value.namesOfAll (texts.map .text) = .ok (texts.map .leaf) := by
  induction texts with
  | nil => rfl
  | cons text texts ih =>
    rw [List.map_cons, Value.namesOfAll, ih]
    rfl

/-- A list of texts stands for the names in them. -/
theorem toFiles_texts (texts : List String) :
    Kind.toFiles (.sequence (texts.map .text)) = .ok (.ofFiles (texts.flatMap namesIn)) := by
  have hnames : Value.names (.sequence (texts.map .text)) = .ok (.group (texts.map .leaf)) := by
    rw [Value.names, namesOfAll_texts]
    rfl
  rw [← NameTree.allFiles_map_leaf, Kind.toFiles, hnames]
  · rfl
  · nofun

/-- The names of a tree stay what they are. -/
theorem toFiles_ofFiles (tree : NameTree) :
    Kind.toFiles (.ofFiles tree.files) = .ok (.ofFiles tree.files) := by
  rw [Value.ofFiles, toFiles_texts, tree.flatMap_namesIn_files]
  rfl

/-- **Converting twice** is converting once. -/
theorem convert_convert {kind : Kind} {value converted : Value}
    (h : kind.convert value = .ok converted) : kind.convert converted = .ok converted := by
  cases kind with
  | text =>
    obtain rfl := Except.ok.inj h
    cases value <;> rfl
  | number =>
    cases value with
    | text text =>
      simp only [Kind.convert, Kind.toNumber] at h
      split at h
      · obtain rfl := Except.ok.inj h
        rfl
      · cases h
    | sequence items => cases h
    | _ =>
      obtain rfl := Except.ok.inj h
      rfl
  | flag =>
    cases value with
    | text text =>
      simp only [Kind.convert, Kind.toFlag] at h
      split at h
      · obtain rfl := Except.ok.inj h
        rfl
      · split at h
        · obtain rfl := Except.ok.inj h
          rfl
        · cases h
    | _ =>
      obtain rfl := Except.ok.inj h
      rfl
  | files =>
    have h : Kind.toFiles value = .ok converted := h
    by_cases habsent : value = .absent
    · subst habsent
      obtain rfl := Except.ok.inj h
      rfl
    · rw [Kind.toFiles] at h
      · -- the files are names from lists of names, so none of them is split again
        obtain ⟨names, -, rfl⟩ := map_eq_ok.mp h
        exact toFiles_ofFiles names
      · exact habsent

/-! ## The command line and the configuration file -/

/-- The shapes of what a command line gives options of this kind: a word, or several of them, or a
flag. -/
def Kind.Delivers : Kind → Value → Prop
  | .text, .text _ | .number, .text _ | .flag, .flag _ => True
  | .files, .sequence items => items ≠ [] ∧ ∃ words : List String, items = words.map .text
  | _, _ => False

theorem Kind.Delivers.isUnset {kind : Kind} {value : Value} (h : kind.Delivers value) :
    value.isUnset = false := by
  cases kind <;> cases value <;> try exact h.elim
  case files.sequence items =>
    obtain ⟨item, items, rfl⟩ := List.exists_cons_of_ne_nil h.1
    rfl
  all_goals rfl

/-- What is to be written in a configuration file for it. -/
def Value.entryText : Value → String
  | .flag value => if value then "True" else "False"
  | .sequence items => String.intercalate "," (items.map Value.plain)
  | value => value.plain

/-- **What a command line gives** comes to the same as what is written for it in a configuration
file. -/
theorem convert_entryText {kind : Kind} {value : Value} (h : kind.Delivers value) :
    kind.convert (.text value.entryText) = kind.convert value := by
  cases kind <;> cases value <;> try exact h.elim
  case text.text => rfl
  case number.text => rfl
  case flag.flag value => cases value <;> rfl
  case files.sequence items =>
    obtain ⟨-, words, rfl⟩ := h
    have htext : Value.entryText (.sequence (words.map .text)) = String.intercalate "," words := by
      rw [Value.entryText, List.map_map]
      exact congrArg _ (List.map_id words)
    have hleaf : Kind.toFiles (.text (String.intercalate "," words)) =
        .ok (.ofFiles (namesIn (String.intercalate "," words))) := rfl
    rw [Kind.convert, Kind.convert, htext, hleaf, toFiles_texts, namesIn_intercalate]

end Settings

end Litmus
