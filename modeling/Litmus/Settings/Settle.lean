import Litmus.Files.Fault
import Litmus.Files.Path
import Litmus.Names
import Litmus.Settings.CommandLine
import Litmus.Settings.Ini
import Litmus.Text.Composition
import Litmus.Text.Identifier
import Litmus.Text.Utf8

/-!
# Settling the values of options

The value of an option is the one on the command line, else the one in the section `GENERAL` of the
configuration file, else its default. Every value is converted to the kind of its option, those of
the configuration file when it is read, and all of them when they are settled.

* `Options.fromFile` reads the values of a configuration file.
* `Options.settle` picks and converts the values.
* `Options.read` does it all for a command line; it is given a way to read a file.
-/

namespace Litmus.Settings

open Litmus.Text

/-! ## Faults -/

/-- Where a value has been given. -/
inductive Origin where
  | commandLine
  | keywords
  | file (name : String)

/-- The words for an origin. -/
def Origin.text : Origin → String
  | .commandLine => "command line"
  | .keywords => "keyword arguments"
  | .file name => name

/-- Why the key of an option cannot name a field of the settled values. -/
inductive NameFault where
  | notIdentifier
  | reserved
  | underscore
  /-- Two fields would have this name after they are brought into their normal form. -/
  | repeated
  /-- The field is known by its normal form only. -/
  | notNormal

/-- Why there are no values for some options. -/
inductive Fault where
  /-- A value has no counterpart of the kind of its option. -/
  | conversion (key : String) (origin : Origin) (fault : ConversionFault)
  /-- There is more than one configuration file. -/
  | severalFiles
  /-- The name of the configuration file is a value of another shape than a text. -/
  | notPath (shape : String)
  | unreadable (error : FileError)
  | notText (error : Utf8Error)
  | malformed (fault : IniFault)
  /-- The configuration file has no section for the options. -/
  | missingSection (file : String)
  /-- The configuration file has entries that it may not have. -/
  | unknownInFile (keys : List String) (file : String)
  /-- Values have been given for keys that belong to none of the options. -/
  | unknownKeys (keys options : List String)
  | badName (fault : NameFault) (key : String)

/-- The section of a configuration file that options are read from. -/
def generalSection : String := "GENERAL"

/-- Keys as a set. -/
def keySet (keys : List String) : String :=
  "\x7b" ++ String.intercalate ", " (keys.map Text.literal) ++ "\x7d"

/-- The wording of a conversion fault. -/
def conversionMessage (key : String) (origin : Origin) : ConversionFault → String
  | .notNumber text =>
    "Cannot convert '" ++ text ++ "' to expected type <class 'int'> in " ++ origin.text
  | .notFlag text =>
    "Expecting True or False as an option for " ++ key ++ " but got " ++ text ++ " in "
      ++ origin.text
  | .listForNumber =>
    "int() argument must be a string, a bytes-like object or a real number, not 'list'"
  | .notFiles fault => fault.message

/-- The wording of a fault of the syntax of a configuration file. -/
def IniFault.message : IniFault → String
  | .noHeader => "File contains no section headers."
  | .repeatedSection => "A section occurs twice."
  | .repeatedKey => "A section has two entries with one key."
  | .notAnEntry => "A line is no entry."
  | .badReference => "A percent sign starts no reference."
  | .unknownReference => "A reference is to no entry."
  | .deepReference => "References are nested too deeply."

/-- The wording of a fault of the key of an option. -/
def NameFault.message (key : String) : NameFault → String
  | .notIdentifier => "Type names and field names must be valid identifiers: " ++ Text.literal key
  | .reserved => "Type names and field names cannot be a keyword: " ++ Text.literal key
  | .underscore => "Field names cannot start with an underscore: " ++ Text.literal key
  | .repeated => "duplicate argument '" ++ key ++ "' in function definition (<string>, line 1)"
  | .notNormal => "general_config.__new__() got an unexpected keyword argument '" ++ key ++ "'"

/-- The wording of a fault. -/
def Fault.message : Fault → String
  | .conversion key origin fault => conversionMessage key origin fault
  | .severalFiles => "Expecting only a single configuration file"
  | .notPath shape => "expected str, bytes or os.PathLike object, not " ++ shape
  | .unreadable error => error.message
  | .notText error => error.message
  | .malformed fault => fault.message
  | .missingSection file => "Expecting a [" ++ generalSection ++ "] section in " ++ file
  | .unknownInFile keys file =>
    "Unknown options " ++ keySet keys ++ " in section [" ++ generalSection ++ "] of " ++ file
  | .unknownKeys keys options =>
    "Expecting only known options but got " ++ keySet keys ++ ".\nOptions include:\n\t"
      ++ String.intercalate "\n\t" options
  | .badName fault key => fault.message key

/-! ## Conversion and names -/

/-- Values of options by their keys. -/
abbrev Values := List (String × Value)

/-- The value of a key, absent if there is none. -/
def Values.get (values : Values) (key : String) : Value :=
  (values.lookup key).getD .absent

/-- The values converted to the kinds of their options, in order. -/
def Options.convert (options : Options) (origin : Origin) (values : Values) :
    Except Fault Values :=
  values.mapM fun (key, value) =>
    let kind := (options.find? key).elim .text Setting.kind
    -- Every key has an option here: the unknown ones have been rejected before.
    match kind.convert value with
    | .ok value => .ok (key, value)
    | .error fault => .error (.conversion key origin fault)

/-- The words that name no field. -/
def reservedWords : List String :=
  ["False", "None", "True", "and", "as", "assert", "async", "await", "break", "class", "continue",
   "def", "del", "elif", "else", "except", "finally", "for", "from", "global", "if", "import",
   "in", "is", "lambda", "nonlocal", "not", "or", "pass", "raise", "return", "try", "while",
   "with", "yield"]

/-- The first element of a list that occurs in it once more before. -/
def firstRepeated? : (seen : List String) → List String → Option String
  | _, [] => none
  | seen, key :: keys => if key ∈ seen then some key else firstRepeated? (key :: seen) keys

/-- Check that every key can name a field: first that all are identifiers and free, then that none
starts with an underscore, that their normal forms are distinct, and that they are normal. -/
def checkNames (keys : List String) : Except Fault Unit := do
  let sorted := namesOf keys
  sorted.forM fun key =>
    if !Text.isIdentifier key.toList then throw (.badName .notIdentifier key)
    else if key ∈ reservedWords then throw (.badName .reserved key)
    else pure ()
  if let some key := sorted.find? (·.toList.head? = some '_') then
    throw (.badName .underscore key)
  let fields := sorted.map fun key => String.ofList (Text.normalForm key.toList)
  if let some field := firstRepeated? [] fields then throw (.badName .repeated field)
  if let some key := keys.find? (!Text.isNormal ·.toList) then throw (.badName .notNormal key)

/-! ## The three sources -/

/-- Whether a configuration file may give a value to a key: it belongs to an option that does not
name a configuration file itself. -/
def Options.allows (options : Options) (key : String) : Bool :=
  (options.find? key).any (!·.namesFile)

/-- The values that the entries of the general section give. -/
def Options.fromEntries (options : Options) (file : String) (entries : List (String × String)) :
    Except Fault Values :=
  match (entries.map Prod.fst).filter (!options.allows ·) with
  | [] => options.convert (.file file) (entries.map fun (key, text) => (key, .text text))
  | unknown => .error (.unknownInFile unknown file)

/-- The values that the text of a configuration file gives. -/
def Options.fromText (options : Options) (file : String) (text : List Char) :
    Except Fault Values := do
  let ini ← (Ini.ofText (unifyNewlines text)).mapError .malformed
  match ini.entries? generalSection with
  | none => throw (.missingSection file)
  | some entries =>
    let entries ← entries.mapError .malformed
    options.fromEntries file entries

/-- The values that the bytes of a configuration file give. -/
def Options.fromFile (options : Options) (file : String)
    (contents : Except FileError (List UInt8)) : Except Fault Values := do
  let bytes ← contents.mapError .unreadable
  let text ← (decodeUtf8 bytes).mapError .notText
  options.fromText file text

/-- The configuration file that a command line names, if it names one. -/
def Options.configFile? (options : Options) (given : Values) : Except Fault (Option String) :=
  let files := (options.filter Setting.namesFile).filterMap fun setting =>
    match given.get setting.key with
    | .absent => none
    | value => some value
  match files with
  | [] => .ok none
  | [.text file] => .ok (some file)
  | [value] => .error (.notPath value.shape)
  | _ => .error .severalFiles

/-- The value of an option before it is converted: the given one if it is set, else that of the
configuration file, else the default. -/
def Setting.pick (setting : Setting) (given fromFile : Values) : Value :=
  let value := given.get setting.key
  if value.isUnset then (fromFile.lookup setting.key).getD setting.default else value

/-- The values of all options. -/
def Options.settle (options : Options) (given fromFile : Values) : Except Fault Values := do
  let values ← options.convert .commandLine
    (options.map fun setting => (setting.key, setting.pick given fromFile))
  checkNames options.keys
  return values

/-- The values of all options where some are given by key and the others have their defaults. -/
def Options.settleKeywords (options : Options) (given : Values) : Except Fault Values := do
  let unknown := (given.map Prod.fst).filter (· ∉ options.keys)
  if !unknown.isEmpty then throw (.unknownKeys unknown options.keys)
  let values ← options.convert .keywords
    (options.map fun setting => (setting.key, (given.lookup setting.key).getD setting.default))
  checkNames options.keys
  return values

/-! ## Command lines -/

/-- Why a command line gives no values. -/
inductive Stop where
  | ending (ending : Ending)
  | fault (fault : Fault)

/-- The values that a command line gives all options, where `readFile` reads a file. -/
def Options.read {m : Type → Type} [Monad m]
    (readFile : String → m (Except FileError (List UInt8))) (options : Options)
    (words : List String) : m (Except Stop Values) :=
  match readCommandLine options.arguments words with
  | .error ending => return .error (.ending ending)
  | .ok given =>
    match options.configFile? given with
    | .error fault => return .error (.fault fault)
    | .ok none => return (options.settle given []).mapError .fault
    | .ok (some file) => do
      let contents ← readFile (Path.normal file)
      return (options.fromFile file contents >>= options.settle given).mapError .fault

end Litmus.Settings
