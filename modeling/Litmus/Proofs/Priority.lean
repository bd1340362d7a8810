import Litmus.Program
import Litmus.Proofs.Conversion
import Litmus.Proofs.FieldNames
import Mathlib.Data.List.Nodup

/-!
# Where the value of an option comes from

The value of an option is the one on the command line, else the one in the configuration file, else
its default, converted to the kind of the option. What is written in a configuration file has to be
right even if the command line has other values.

* **`fromEntries_eq_ok`**: what a configuration file gives, entry by entry.
* **`convert_pick`**: a value is picked and converted, and it makes no difference that it has been
  converted before.
* **`readWith_priority`**: when the options of the program are settled, and with which values. A
  configuration file that is given as a list without items stops the program, although such a list is
  as good as no value for all other options.
-/

namespace Litmus.Settings

open Litmus.Text

/-! ## Finding options -/

section

variable {options : Options}

/-- The kind that the values of a key are converted to. -/
def Options.kindOf (options : Options) (key : String) : Kind :=
  (options.find? key).elim .text Setting.kind

theorem find?_eq_some (hkeys : options.keys.Nodup) {key : String} {setting : Setting} :
    options.find? key = some setting ↔ setting ∈ options ∧ setting.key = key := by
  constructor
  · intro h
    exact ⟨List.mem_of_find?_eq_some h, by simpa using List.find?_some h⟩
  · rintro ⟨hmem, rfl⟩
    obtain ⟨other, hother⟩ : ∃ other, options.find? setting.key = some other :=
      Option.isSome_iff_exists.mp (List.find?_isSome.mpr ⟨setting, hmem, by simp⟩)
    have hkey : other.key = setting.key := by simpa using List.find?_some hother
    rw [hother, List.inj_on_of_nodup_map hkeys (List.mem_of_find?_eq_some hother) hmem hkey]

theorem kindOf_key (hkeys : options.keys.Nodup) {setting : Setting} (h : setting ∈ options) :
    options.kindOf setting.key = setting.kind := by
  rw [Options.kindOf, (find?_eq_some hkeys).mpr ⟨h, rfl⟩]
  rfl

theorem allows_iff (hkeys : options.keys.Nodup) {key : String} :
    options.allows key = true ↔
      ∃ setting ∈ options, setting.key = key ∧ setting.namesFile = false := by
  rw [Options.allows, Option.any_eq_true]
  constructor
  · rintro ⟨setting, hfind, hfile⟩
    obtain ⟨hmem, hkey⟩ := (find?_eq_some hkeys).mp hfind
    exact ⟨setting, hmem, hkey, by simpa using hfile⟩
  · rintro ⟨setting, hmem, hkey, hfile⟩
    exact ⟨setting, (find?_eq_some hkeys).mpr ⟨hmem, hkey⟩, by simpa using hfile⟩

/-! ## Conversion -/

/-- One value, converted to the kind of its option. -/
def Options.convertOne (options : Options) (origin : Origin) (given : String × Value) :
    Except Fault (String × Value) :=
  match (options.kindOf given.1).convert given.2 with
  | .ok value => .ok (given.1, value)
  | .error fault => .error (.conversion given.1 origin fault)

theorem convert_eq_mapM (origin : Origin) (given : Values) :
    options.convert origin given = given.mapM (options.convertOne origin) := rfl

theorem convertOne_eq_ok {origin : Origin} {given result : String × Value} :
    options.convertOne origin given = .ok result ↔
      result.1 = given.1 ∧ (options.kindOf given.1).convert given.2 = .ok result.2 := by
  obtain ⟨key, value⟩ := result
  rw [Options.convertOne]
  cases (options.kindOf given.1).convert given.2 with
  | error fault => simp
  | ok converted => simp [eq_comm]

theorem convert_eq_ok {origin : Origin} {given values : Values} :
    options.convert origin given = .ok values ↔
      List.Forall₂ (fun one value => value.1 = one.1 ∧
        (options.kindOf one.1).convert one.2 = .ok value.2) given values := by
  rw [convert_eq_mapM, mapM_eq_ok_iff]
  simp only [convertOne_eq_ok]

theorem exists_convert_eq_ok {origin : Origin} {given : Values} :
    (∃ values, options.convert origin given = .ok values) ↔
      ∀ one ∈ given, ∃ value, (options.kindOf one.1).convert one.2 = .ok value := by
  simp only [convert_eq_mapM, exists_mapM_eq_ok, convertOne_eq_ok]
  constructor
  · intro h one hone
    obtain ⟨value, -, hvalue⟩ := h one hone
    exact ⟨value.2, hvalue⟩
  · intro h one hone
    obtain ⟨value, hvalue⟩ := h one hone
    exact ⟨(one.1, value), rfl, hvalue⟩

/-- What is found by a key in two lists that belong together key by key. -/
theorem rel_lookup {α β : Type} {r : String → α → β → Prop} {as : List (String × α)}
    {bs : List (String × β)} (h : List.Forall₂ (fun a b => b.1 = a.1 ∧ r a.1 a.2 b.2) as bs)
    (key : String) : Option.Rel (r key) (as.lookup key) (bs.lookup key) := by
  induction h with
  | nil => exact .none
  | @cons a b as bs hab _ ih =>
    obtain ⟨k, v⟩ := a
    obtain ⟨k', w⟩ := b
    obtain ⟨rfl, hr⟩ := hab
    rw [List.lookup_cons, List.lookup_cons]
    by_cases hkey : key = k'
    · subst hkey
      simpa using Option.Rel.some hr
    · have hne : (key == k') = false := by simpa using hkey
      simpa [hne] using ih

/-! ## The configuration file -/

/-- **The values from a configuration file.** Every entry belongs to an option that may have one, and
is converted to its kind. -/
theorem fromEntries_eq_ok {file : String} {entries : List (String × String)} {values : Values} :
    options.fromEntries file entries = .ok values ↔
      (∀ entry ∈ entries, options.allows entry.1 = true) ∧
        List.Forall₂ (fun entry value => value.1 = entry.1 ∧
          (options.kindOf entry.1).convert (.text entry.2) = .ok value.2) entries values := by
  rw [Options.fromEntries]
  cases hunknown : (entries.map Prod.fst).filter (!options.allows ·) with
  | nil =>
    have hall : ∀ entry ∈ entries, options.allows entry.1 = true := by
      intro entry hentry
      have hfalse := List.filter_eq_nil_iff.mp hunknown entry.1 (List.mem_map_of_mem hentry)
      simpa using hfalse
    dsimp only
    rw [convert_eq_ok, List.forall₂_map_left_iff]
    exact (and_iff_right hall).symm
  | cons key unknown =>
    have hkey : key ∈ (entries.map Prod.fst).filter (!options.allows ·) := by
      rw [hunknown]
      exact List.mem_cons_self
    -- the file is refused, and the entry of this key is not allowed
    obtain ⟨hmem, hnot⟩ := List.mem_filter.mp hkey
    obtain ⟨entry, hentry, rfl⟩ := List.mem_map.mp hmem
    constructor
    · intro h
      cases h
    · rintro ⟨hall, -⟩
      rw [hall entry hentry] at hnot
      cases hnot

theorem exists_fromEntries_eq_ok {file : String} {entries : List (String × String)} :
    (∃ values, options.fromEntries file entries = .ok values) ↔
      ∀ entry ∈ entries, options.allows entry.1 = true ∧
        ∃ value, (options.kindOf entry.1).convert (.text entry.2) = .ok value := by
  have hconvert : ∀ values, List.Forall₂ (fun entry value => value.1 = entry.1 ∧
      (options.kindOf entry.1).convert (.text entry.2) = .ok value.2) entries values ↔
        options.convert (.file file) (entries.map fun entry => (entry.1, .text entry.2)) =
          .ok values := by
    intro values
    rw [convert_eq_ok, List.forall₂_map_left_iff]
  simp only [fromEntries_eq_ok, exists_and_left, hconvert, exists_convert_eq_ok, List.forall_mem_map,
    forall_and]

/-! ## The choice -/

/-- The value that an option is settled with: the given one if it is set, else that of an entry, each
converted once; else the default. -/
def Setting.settled (setting : Setting) (given : Values) (entries : List (String × String)) :
    Except ConversionFault Value :=
  if (given.get setting.key).isUnset then
    match entries.lookup setting.key with
    | some text => setting.kind.convert (.text text)
    | none => .ok setting.default
  else setting.kind.convert (given.get setting.key)

/-- **A value is picked and converted.** It has been converted before if it comes from a configuration
file, and the default has the kind of its option. -/
theorem convert_pick {setting : Setting} {given fromFile : Values} {entries : List (String × String)}
    (hdefault : setting.kind.convert setting.default = .ok setting.default)
    (hlookup : Option.Rel (fun text value => setting.kind.convert (.text text) = .ok value)
      (entries.lookup setting.key) (fromFile.lookup setting.key)) :
    setting.kind.convert (setting.pick given fromFile) = setting.settled given entries := by
  rw [Setting.pick, Setting.settled]
  split
  · -- nothing is given: the file has an entry and a value for it, or neither
    revert hlookup
    generalize entries.lookup setting.key = entry
    generalize fromFile.lookup setting.key = value
    intro hlookup
    cases hlookup with
    | none => exact hdefault
    | some hvalue => exact (convert_convert hvalue).trans hvalue.symm
  · rfl

theorem settle_eq_convert (hnames : checkNames options.keys = .ok ()) (given fromFile : Values) :
    options.settle given fromFile =
      options.convert .commandLine
        (options.map fun setting => (setting.key, setting.pick given fromFile)) := by
  rw [Options.settle, hnames]
  cases options.convert .commandLine
    (options.map fun setting => (setting.key, setting.pick given fromFile)) <;> rfl

theorem exists_settle_eq_ok (hkeys : options.keys.Nodup) (hnames : checkNames options.keys = .ok ())
    {given fromFile : Values} :
    (∃ values, options.settle given fromFile = .ok values) ↔
      ∀ setting ∈ options, ∃ value,
        setting.kind.convert (setting.pick given fromFile) = .ok value := by
  simp only [settle_eq_convert hnames, exists_convert_eq_ok, List.forall_mem_map]
  refine forall₂_congr fun setting hsetting => ?_
  rw [kindOf_key hkeys hsetting]

/-- The options are settled with these values: one for each option, in order. -/
theorem forall₂_of_settle (hkeys : options.keys.Nodup) (hnames : checkNames options.keys = .ok ())
    {given fromFile values : Values} (h : options.settle given fromFile = .ok values) :
    List.Forall₂ (fun setting value => value.1 = setting.key ∧
      setting.kind.convert (setting.pick given fromFile) = .ok value.2) options values := by
  rw [settle_eq_convert hnames, convert_eq_ok, List.forall₂_map_left_iff] at h
  have hmem := (List.forall₂_and_left _ _).mpr
    ⟨fun setting (hsetting : setting ∈ options) => hsetting, h⟩
  refine hmem.imp fun setting value h => ⟨h.2.1, ?_⟩
  rw [← kindOf_key hkeys h.1]
  exact h.2.2

theorem map_fst_of_settle (hkeys : options.keys.Nodup) (hnames : checkNames options.keys = .ok ())
    {given fromFile values : Values} (h : options.settle given fromFile = .ok values) :
    values.map Prod.fst = options.keys := by
  have hsame : List.Forall₂ (fun key key' => key = key') (values.map Prod.fst)
      (options.map Setting.key) := by
    rw [List.forall₂_map_left_iff, List.forall₂_map_right_iff]
    exact (forall₂_of_settle hkeys hnames h).flip.imp fun _ _ h => h.1
  exact List.forall₂_eq_eq_eq ▸ hsame

theorem lookup_map_key (options : Options) (key : String) :
    (options.map fun setting => (setting.key, setting)).lookup key = options.find? key := by
  induction options with
  | nil => rfl
  | cons setting options ih =>
    rw [List.map_cons, List.lookup_cons, ih, Options.find?, Options.find?, List.find?_cons,
      BEq.comm]

/-- The settled value of an option is found by its key. -/
theorem get_of_settle (hkeys : options.keys.Nodup) (hnames : checkNames options.keys = .ok ())
    {given fromFile values : Values} (h : options.settle given fromFile = .ok values)
    {setting : Setting} (hsetting : setting ∈ options) :
    setting.kind.convert (setting.pick given fromFile) = .ok (values.get setting.key) := by
  have hpairs : List.Forall₂ (fun one value => value.1 = one.1 ∧
      one.2.kind.convert (one.2.pick given fromFile) = .ok value.2)
        (options.map fun setting => (setting.key, setting)) values := by
    rw [List.forall₂_map_left_iff]
    exact forall₂_of_settle hkeys hnames h
  have hlookup := rel_lookup (r := fun _ (setting : Setting) (value : Value) =>
    setting.kind.convert (setting.pick given fromFile) = .ok value) hpairs setting.key
  rw [lookup_map_key, (find?_eq_some hkeys).mpr ⟨hsetting, rfl⟩] at hlookup
  rw [Values.get]
  generalize values.lookup setting.key = found at hlookup
  cases hlookup with
  | some hvalue => exact hvalue

/-! ## Three sources -/

/-- Options with different keys that can name fields, and with defaults of their kinds. -/
structure Options.Sound (options : Options) : Prop where
  keys : options.keys.Nodup
  names : checkNames options.keys = .ok ()
  defaults : ∀ setting ∈ options, setting.kind.convert setting.default = .ok setting.default

/-- What is given on the command line and in a configuration file is right: every entry of the file
belongs to an option that names no configuration file itself, and all values, also those that are not
used, can be converted. -/
structure Options.Accepts (options : Options) (given : Values) (entries : List (String × String)) :
    Prop where
  entries : ∀ entry ∈ entries, ∃ setting ∈ options, setting.key = entry.1 ∧
    setting.namesFile = false ∧ ∃ value, setting.kind.convert (.text entry.2) = .ok value
  given : ∀ setting ∈ options, (given.get setting.key).isUnset = false →
    ∃ value, setting.kind.convert (given.get setting.key) = .ok value

theorem exists_fromEntries_iff (h : options.Sound) {file : String}
    {entries : List (String × String)} :
    (∃ values, options.fromEntries file entries = .ok values) ↔
      ∀ entry ∈ entries, ∃ setting ∈ options, setting.key = entry.1 ∧
        setting.namesFile = false ∧ ∃ value, setting.kind.convert (.text entry.2) = .ok value := by
  rw [exists_fromEntries_eq_ok]
  refine forall₂_congr fun entry _ => ?_
  rw [allows_iff h.keys]
  constructor
  · rintro ⟨⟨setting, hmem, hkey, hfile⟩, value, hvalue⟩
    rw [← hkey, kindOf_key h.keys hmem] at hvalue
    exact ⟨setting, hmem, hkey, hfile, value, hvalue⟩
  · rintro ⟨setting, hmem, hkey, hfile, value, hvalue⟩
    rw [← kindOf_key h.keys hmem, hkey] at hvalue
    exact ⟨⟨setting, hmem, hkey, hfile⟩, value, hvalue⟩

/-- A value from a configuration file is picked and converted like the text of its entry. -/
theorem convert_pick_of_fromEntries (h : options.Sound) {file : String} {given fromFile : Values}
    {entries : List (String × String)}
    (hfile : options.fromEntries file entries = .ok fromFile) {setting : Setting}
    (hsetting : setting ∈ options) :
    setting.kind.convert (setting.pick given fromFile) = setting.settled given entries := by
  have hlookup := rel_lookup (r := fun key (text : String) (value : Value) =>
    (options.kindOf key).convert (.text text) = .ok value) (fromEntries_eq_ok.mp hfile).2 setting.key
  rw [kindOf_key h.keys hsetting] at hlookup
  exact convert_pick (h.defaults setting hsetting) hlookup

/-- Every option can be settled if what is given is right. -/
theorem exists_settled {given : Values} {entries : List (String × String)}
    (haccepts : options.Accepts given entries) (h : options.Sound) {setting : Setting}
    (hsetting : setting ∈ options) : ∃ value, setting.settled given entries = .ok value := by
  rw [Setting.settled]
  split
  · split
    · rename_i text hlookup
      have hmem : (setting.key, text) ∈ entries := by
        obtain ⟨before, after, hsplit, -⟩ := List.lookup_eq_some_iff.mp hlookup
        rw [hsplit]
        simp
      obtain ⟨other, hother, hkey, -, value, hvalue⟩ := haccepts.entries _ hmem
      have hsame : other = setting := List.inj_on_of_nodup_map h.keys hother hsetting hkey
      exact ⟨value, hsame ▸ hvalue⟩
    · exact ⟨_, rfl⟩
  · rename_i hset
    exact haccepts.given setting hsetting (by simpa using hset)

/-- **Options with a configuration file.** They are settled exactly if everything that is given is
right, each with the value that comes first. -/
theorem settle_of_entries (h : options.Sound) (file : String) (given : Values)
    (entries : List (String × String)) :
    ((∃ values, (options.fromEntries file entries >>= options.settle given) = .ok values) ↔
      options.Accepts given entries) ∧
    ∀ values, (options.fromEntries file entries >>= options.settle given) = .ok values →
      values.map Prod.fst = options.keys ∧
        ∀ setting ∈ options, setting.settled given entries = .ok (values.get setting.key) := by
  refine ⟨⟨?_, ?_⟩, ?_⟩
  · rintro ⟨values, hvalues⟩
    obtain ⟨fromFile, hfile, hsettle⟩ := bind_eq_ok.mp hvalues
    refine ⟨(exists_fromEntries_iff h).mp ⟨fromFile, hfile⟩, fun setting hsetting hset => ?_⟩
    have hget := get_of_settle h.keys h.names hsettle hsetting
    rw [convert_pick_of_fromEntries h hfile hsetting, Setting.settled, if_neg (by simp [hset])] at hget
    exact ⟨_, hget⟩
  · intro haccepts
    obtain ⟨fromFile, hfile⟩ := (@exists_fromEntries_iff options h file entries).mpr haccepts.entries
    have hsettle : ∃ values, options.settle given fromFile = .ok values := by
      rw [exists_settle_eq_ok h.keys h.names]
      intro setting hsetting
      rw [convert_pick_of_fromEntries h hfile hsetting]
      exact exists_settled haccepts h hsetting
    obtain ⟨values, hvalues⟩ := hsettle
    exact ⟨values, bind_eq_ok.mpr ⟨fromFile, hfile, hvalues⟩⟩
  · intro values hvalues
    obtain ⟨fromFile, hfile, hsettle⟩ := bind_eq_ok.mp hvalues
    refine ⟨map_fst_of_settle h.keys h.names hsettle, fun setting hsetting => ?_⟩
    rw [← convert_pick_of_fromEntries h hfile hsetting]
    exact get_of_settle h.keys h.names hsettle hsetting

end

/-! ## The program -/

/-- The entries of the general section of a configuration file, if it has such a section. -/
def generalEntries (contents : Except FileError (List UInt8)) :
    Except Fault (Option (List (String × String))) := do
  let bytes ← contents.mapError .unreadable
  let text ← (decodeUtf8 bytes).mapError .notText
  let ini ← (Ini.ofText (unifyNewlines text)).mapError .malformed
  match ini.entries? generalSection with
  | none => return none
  | some entries => return some (← entries.mapError .malformed)

/-- The values that a configuration file gives are those of its general section, which it has to
have. -/
theorem fromFile_eq (options : Options) (file : String) (contents : Except FileError (List UInt8)) :
    options.fromFile file contents =
      generalEntries contents >>= fun
        | none => .error (.missingSection file)
        | some entries => options.fromEntries file entries := by
  rw [Options.fromFile, generalEntries]
  simp only [bind_assoc]
  refine congrArg _ (funext fun bytes => congrArg _ (funext fun text => ?_))
  rw [Options.fromText]
  refine congrArg _ (funext fun ini => ?_)
  cases ini.entries? generalSection with
  | none => rfl
  | some entries => cases entries <;> rfl

/-- The options of the program have defaults of their kinds, and their keys can name fields. -/
theorem sound_standard : standard.Sound := by
  refine ⟨by decide, checkNames_standard, ?_⟩
  unfold standard
  simp only [List.forall_mem_cons]
  exact ⟨rfl, rfl, rfl, rfl, rfl, rfl, rfl, rfl, by simp⟩

/-- The configuration file of the program is the one that is given under its key. -/
theorem configFile?_standard (given : Values) :
    standard.configFile? given =
      match given.get "config" with
      | .absent => .ok none
      | .text file => .ok (some file)
      | value => .error (.notPath value.shape) := by
  have hfiles : standard.filter Setting.namesFile =
      [⟨⟨"config", ["--config"], .store .one⟩, .text, .absent, true⟩] := rfl
  rw [Options.configFile?, hfiles]
  have hkey :
      given.get (Setting.key ⟨⟨"config", ["--config"], .store .one⟩, .text, .absent, true⟩) =
        given.get "config" := rfl
  rw [List.filterMap_cons, List.filterMap_nil, hkey]
  cases given.get "config" <;> rfl

/-- What a command line comes to where files have these contents. -/
def readWith (files : String → Except FileError (List UInt8)) (words : List String) :
    Except Stop Values :=
  Id.run (standard.read (fun path => pure (files path)) words)

/-- The entries that the configuration file supplies which a command line names, none if it names
none. -/
def suppliedEntries (files : String → Except FileError (List UInt8)) (given : Values) :
    Except Fault (Option (List (String × String))) :=
  match given.get "config" with
  | .absent => .ok (some [])
  | .text file => generalEntries (files (Path.normal file))
  | value => .error (.notPath value.shape)

/-- In a world the files are those of its disk, and reading them changes nothing. -/
theorem read_run (world : World) (wording : Wording) (elapsed : (timer : Int) → String)
    (words : List String) :
    (standard.read (World.host wording elapsed).read words).run world =
      (readWith world.disk.read words, world) := by
  rw [readWith, Options.read, Options.read]
  cases readCommandLine standard.arguments words with
  | error ending => rfl
  | ok given =>
    dsimp only
    cases standard.configFile? given with
    | error fault => rfl
    | ok file? => cases file? <;> rfl

/-- The program settles its options with the entries that are supplied. -/
theorem readWith_eq {words : List String} {given : Values}
    (hgiven : readCommandLine standard.arguments words = .ok given)
    (files : String → Except FileError (List UInt8)) :
    ∃ file, readWith files words =
      (suppliedEntries files given >>= fun
        | none => .error (.missingSection file)
        | some entries => standard.fromEntries file entries >>= standard.settle given).mapError
          .fault := by
  rw [readWith, Options.read, hgiven]
  dsimp only
  rw [configFile?_standard, suppliedEntries]
  cases given.get "config" with
  | absent => exact ⟨"", rfl⟩
  | text file =>
    refine ⟨file, ?_⟩
    show (standard.fromFile file (files (Path.normal file)) >>= standard.settle given).mapError
      Stop.fault = _
    rw [fromFile_eq, bind_assoc]
    dsimp only
    cases generalEntries (files (Path.normal file)) with
    | error fault => rfl
    | ok entries? => cases entries? <;> rfl
  | flag value => exact ⟨"", rfl⟩
  | number value => exact ⟨"", rfl⟩
  | sequence items => exact ⟨"", rfl⟩

/-- A value under the key of an option and the text for it in a configuration file are the same to
the option. -/
theorem settled_entryText {setting : Setting} {value : Value} (h : setting.kind.Delivers value) :
    setting.settled [(setting.key, value)] [] =
      setting.settled [] [(setting.key, value.entryText)] := by
  have hset := h.isUnset
  have hget : Values.get [(setting.key, value)] setting.key = value := by
    simp [Values.get]
  have hnone : Values.get [] setting.key = .absent := rfl
  have hlookup : [(setting.key, value.entryText)].lookup setting.key = some value.entryText := by
    simp
  rw [Setting.settled, Setting.settled, hget, hnone, hlookup, hset]
  exact (convert_entryText h).symm

/-- **Settling the options of the program.** Whatever the words of a command line give, and whatever
the files hold: the options are settled exactly if the configuration file has a general section and
everything in it and on the command line is right; and then every option has the value on the
command line, else that of its entry, each converted once, else its default. What a command line
gives can be written in the configuration file instead. -/
theorem readWith_priority {words : List String} {given : Values}
    (hgiven : readCommandLine standard.arguments words = .ok given)
    (files : String → Except FileError (List UInt8)) :
    ((∃ values, readWith files words = .ok values) ↔
      ∃ entries, suppliedEntries files given = .ok (some entries) ∧ standard.Accepts given entries) ∧
    (∀ values, readWith files words = .ok values →
      values.map Prod.fst = standard.keys ∧
        ∃ entries, suppliedEntries files given = .ok (some entries) ∧
          ∀ setting ∈ standard, setting.settled given entries = .ok (values.get setting.key)) ∧
    (∀ items, given.get "config" = .sequence items →
      readWith files words = .error (.fault (.notPath "list"))) ∧
    ∀ setting ∈ standard, ∀ value, setting.kind.Delivers value →
      setting.settled [(setting.key, value)] [] =
        setting.settled [] [(setting.key, value.entryText)] := by
  obtain ⟨file, hread⟩ := readWith_eq hgiven files
  refine ⟨?_, ?_, ?_, fun setting _ value => settled_entryText⟩
  · simp only [hread, mapError_eq_ok]
    cases suppliedEntries files given with
    | error fault => simp [bind, Except.bind]
    | ok entries? =>
      cases entries? with
      | none => simp [bind, Except.bind]
      | some entries =>
        refine (settle_of_entries sound_standard file given entries).1.trans ?_
        simp
  · intro values hvalues
    rw [hread, mapError_eq_ok] at hvalues
    cases hsupplied : suppliedEntries files given with
    | error fault =>
      rw [hsupplied] at hvalues
      cases hvalues
    | ok entries? =>
      rw [hsupplied] at hvalues
      cases entries? with
      | none => cases hvalues
      | some entries =>
        obtain ⟨hkeys, hsettled⟩ :=
          (settle_of_entries sound_standard file given entries).2 values hvalues
        exact ⟨hkeys, entries, rfl, hsettled⟩
  · intro items hconfig
    rw [hread, suppliedEntries, hconfig]
    rfl

/-- With `--config=--` the configuration file is a list without items, and the program stops. -/
theorem readWith_priority_emptyConfig :
    readWith (fun path => .error ⟨.missing, path⟩) ["--config=--", "MP.litmus"] =
      .error (.fault (.notPath "list")) := by
  have hgiven : readCommandLine standard.arguments ["--config=--", "MP.litmus"] =
      .ok [("inputs", .sequence [.text "MP.litmus"]), ("config", .sequence [])] := by
    with_unfolding_all rfl
  exact (readWith_priority hgiven _).2.2.1 [] rfl

end Litmus.Settings
