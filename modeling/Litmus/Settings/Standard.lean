import Litmus.Settings.Settle

/-!
# The settings of a run

The options of the program, and their values as a structure.
-/

namespace Litmus

namespace Settings

/-! ## The options -/

/-- An option that takes one word. -/
def wordSetting (key : String) (spellings : List String) (kind : Kind) (default : Value) :
    Setting :=
  ⟨⟨key, spellings, .store .one⟩, kind, default, false⟩

/-- An option that is a flag, off unless it is given. -/
def flagSetting (key : String) (spellings : List String) : Setting :=
  ⟨⟨key, spellings, .set true⟩, .flag, .flag false, false⟩

/-- The options of the program. -/
def standard : Options := [
  ⟨⟨"inputs", [], .store .any⟩, .files, .sequence [], false⟩,
  ⟨⟨"config", ["--config"], .store .one⟩, .text, .absent, true⟩,
  wordSetting "output" ["-o", "--output"] .text .absent,
  wordSetting "output_dir" ["--output-dir"] .text .absent,
  flagSetting "keep_going" ["--keep-going"],
  wordSetting "processes" ["-j", "--processes"] .number (.number 1),
  wordSetting "verbosity" ["-v", "--verbosity"] .number (.number 1),
  flagSetting "time" ["--time"]]

end Settings

/-! ## The structure -/

/-- The settings of a run. -/
structure Settings where
  /-- The files with tests. -/
  inputs : List String := []
  /-- The configuration file. -/
  config : Option String := none
  /-- The file that the records go to. -/
  output : Option String := none
  /-- The directory in which every record gets a file of its own. -/
  outputDir : Option String := none
  /-- Tests that cannot be compiled are skipped. -/
  keepGoing : Bool := false
  /-- The number of tests that may be compiled at the same time. -/
  processes : Int := 1
  verbosity : Int := 1
  /-- The time that each job takes is shown. -/
  time : Bool := false
deriving DecidableEq

namespace Settings

/-- The text of a value that may be absent. -/
def Value.text? : Value → Option String
  | .text value => some value
  | _ => none

/-- The texts of a value that is a list of texts. -/
def Value.texts : Value → List String
  | .sequence items => items.filterMap Value.text?
  | _ => []

/-- The number of a value. -/
def Value.number? : Value → Option Int
  | .number value => some value
  | _ => none

/-- The settled values of the options of the program as a structure. -/
def ofValues (values : Values) : Settings where
  inputs := (values.get "inputs").texts
  config := (values.get "config").text?
  output := (values.get "output").text?
  outputDir := (values.get "output_dir").text?
  keepGoing := (values.get "keep_going").isTrue
  processes := ((values.get "processes").number?).getD 1
  verbosity := ((values.get "verbosity").number?).getD 1
  time := (values.get "time").isTrue

end Settings

end Litmus
