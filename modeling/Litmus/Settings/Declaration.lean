import Litmus.Settings.Argument

/-!
# Declared options

An option is declared by its names and its properties. Its key is the name it has in configuration
files and in the settled values: the one it is given, else its only long name with underscores for
dashes, else its first name.

`Options.declare` adds an option to those that are already there; a declaration that does not fit is
rejected with its cause.
-/

namespace Litmus.Settings

/-! ## Declarations -/

/-- What a declared option does when it is met. -/
inductive Manner where
  /-- Its words become its value. -/
  | store
  /-- Its value becomes this flag. -/
  | set (flag : Bool)
  /-- Its value is taken away. -/
  | clear
  /-- Its words become one more item of its value. -/
  | append
  /-- The absent value becomes one more item of its value. -/
  | appendNothing
  /-- Its words become more items of its value. -/
  | extend
  /-- Its value becomes the number of times that it has been met. -/
  | count
  /-- The help text is shown. -/
  | showHelp
  /-- A version is shown. -/
  | showVersion
  /-- It starts a command line of its own. -/
  | subcommands
  | unknown (name : String)
deriving DecidableEq

namespace Manner

/-- The manner with a name. -/
def ofName : String → Manner
  | "store" => .store
  | "store_true" => .set true
  | "store_false" => .set false
  | "store_const" => .clear
  | "append" => .append
  | "append_const" => .appendNothing
  | "extend" => .extend
  | "count" => .count
  | "help" => .showHelp
  | "version" => .showVersion
  | "parsers" => .subcommands
  | name => .unknown name

/-- The effect of an option with this manner and arity. -/
def effect (arity : Arity) : Manner → Effect
  | .store | .subcommands | .unknown _ => .store arity
  | .set flag => .set flag
  | .clear => .clear
  | .append => .append arity
  | .appendNothing => .appendNothing
  | .extend => .extend arity
  | .count => .count
  | .showHelp => .showHelp
  | .showVersion => .showVersion

/-- The name of the maker of arguments without words that have this manner. -/
def makerWithoutWords? : Manner → Option String
  | .set true => some "_StoreTrueAction"
  | .set false => some "_StoreFalseAction"
  | .clear => some "_StoreConstAction"
  | .appendNothing => some "_AppendConstAction"
  | .count => some "_CountAction"
  | .showHelp => some "_HelpAction"
  | .showVersion => some "_VersionAction"
  | .store | .append | .extend | .subcommands | .unknown _ => none

end Manner

/-- The declaration of an option. -/
structure Declaration where
  names : List String
  manner : Manner := .store
  kind : Kind := .text
  default : Value := .absent
  key? : Option String := none
  /-- The value names a configuration file. -/
  namesFile : Bool := false
  /-- The arity, if one is given. -/
  arity? : Option Arity := none

/-- An option with all that is known of it. -/
structure Setting where
  argument : Argument
  kind : Kind
  default : Value
  namesFile : Bool

/-- The key of an option. -/
def Setting.key (setting : Setting) : String :=
  setting.argument.key

/-- Declared options, in the order of their declarations. -/
abbrev Options := List Setting

namespace Options

/-- The keys of the options. -/
def keys (options : Options) : List String :=
  options.map Setting.key

/-- The option with a key. -/
def find? (options : Options) (key : String) : Option Setting :=
  List.find? (·.key == key) options

/-- The arguments that a command line can have: help is always among them. -/
def arguments (options : Options) : List Argument :=
  .help :: options.map Setting.argument

end Options

/-! ## Faults -/

/-- Why an option cannot be declared. -/
inductive DeclarationFault where
  | noName
  | severalLongNames
  | declaredTwice (key : String)
  | emptyName
  /-- An operand has a key of its own. -/
  | keyOfOperand
  /-- A further name starts with no dash. -/
  | badSpelling (name : String)
  | unknownManner (name : String)
  /-- The maker of arguments has no use for a property. -/
  | uselessProperty (maker property : String)
  /-- The argument is to store its words, and it is to have none. -/
  | noWords
  /-- The argument is to add its words to its value, and it is to have none. -/
  | noWordsToAdd
  /-- Some of the spellings belong to another option. -/
  | conflict (names taken : List String)

/-- The wording of a fault. -/
def DeclarationFault.message : DeclarationFault → String
  | .noName => "Expecting at least one option"
  | .severalLongNames => "Expecting at most one long option"
  | .declaredTwice key => "Option " ++ key ++ " declared twice"
  | .emptyName => "string index out of range"
  | .keyOfOperand => "dest supplied twice for positional argument"
  | .badSpelling name =>
    "invalid option string " ++ Text.literal name ++ ": must start with a character '-'"
  | .unknownManner name => "unknown action \"" ++ name ++ "\""
  | .uselessProperty maker property =>
    maker ++ ".__init__() got an unexpected keyword argument '" ++ property ++ "'"
  | .noWords =>
    "nargs for store actions must be != 0; if you have nothing to store, actions such as store "
      ++ "true or store const may be more appropriate"
  | .noWordsToAdd =>
    "nargs for append actions must be != 0; if arg strings are not supplying the value to append, "
      ++ "the append const action may be more appropriate"
  | .conflict names taken =>
    "argument " ++ String.intercalate "/" names ++ ": conflicting option string"
      ++ (if taken.length = 1 then ": " else "s: ") ++ String.intercalate ", " taken

/-! ## Declaring -/

/-- The name after the two dashes of a long spelling, with underscores for dashes. -/
def longName? (name : String) : Option String :=
  match name.toList with
  | '-' :: '-' :: rest => some (String.ofList (rest.map fun c => if c = '-' then '_' else c))
  | _ => none

/-- Whether a name is that of a switch. -/
def isSwitchName (name : String) : Bool :=
  name.toList.head? = some '-'

namespace Declaration

/-- The key of a declared option. -/
def key (declaration : Declaration) : Except DeclarationFault String :=
  match declaration.names, declaration.key? with
  | [], _ => .error .noName
  | _, some key => .ok key
  | first :: others, none =>
    match (first :: others).filterMap longName? with
    | [] => .ok first
    | [key] => .ok key
    | _ => .error .severalLongNames

/-- The arity of a declared option: a single word if none is given. -/
def arity (declaration : Declaration) : Arity :=
  declaration.arity?.getD .one

/-- The effect of a declared option. -/
def effect (declaration : Declaration) : Effect :=
  declaration.manner.effect declaration.arity

/-- The kind of a declared option. What can be set is a flag whatever kind it is given. -/
def settledKind (declaration : Declaration) : Kind :=
  if declaration.manner = .set true then .flag else declaration.kind

/-- Check that every name is the spelling of a switch. -/
def checkSpellings : List String → Except DeclarationFault Unit
  | [] => .ok ()
  | name :: names =>
    if name.isEmpty then .error .emptyName
    else if isSwitchName name then checkSpellings names
    else .error (.badSpelling name)

/-- The spellings of a declared option: none if a single name without a dash makes it an operand. -/
def spellings (declaration : Declaration) : Except DeclarationFault (List String) :=
  match declaration.names with
  | [name] =>
    if name.isEmpty then .error .emptyName
    else if isSwitchName name then .ok [name]
    else if declaration.key?.isSome then .error .keyOfOperand
    else .ok []
  | names => (checkSpellings names).map fun _ => names

/-- Check that the manner of an option with these spellings goes with its other properties. -/
def checkManner (declaration : Declaration) (spellings : List String) :
    Except DeclarationFault Unit := do
  if let .unknown name := declaration.manner then throw (.unknownManner name)
  if let some maker := declaration.manner.makerWithoutWords? then
    if declaration.arity?.isSome then throw (.uselessProperty maker "nargs")
    -- An operand is required, and neither help nor a version can be.
    if spellings.isEmpty && declaration.manner ∈ [.showHelp, .showVersion] then
      throw (.uselessProperty maker "required")
  if declaration.manner = .subcommands then throw (.uselessProperty "_SubParsersAction" "default")
  match declaration.effect with
  | .store (.exactly 0) => throw .noWords
  | .append (.exactly 0) | .extend (.exactly 0) => throw .noWordsToAdd
  | _ => return ()

end Declaration

namespace Options

/-- The options with one more. -/
def declare (options : Options) (declaration : Declaration) : Except DeclarationFault Options := do
  let key ← declaration.key
  if key ∈ options.keys then throw (.declaredTwice key)
  let spellings ← declaration.spellings
  declaration.checkManner spellings
  let taken := spellings.filter fun name => (spelled? options.arguments name.toList).isSome
  if !taken.isEmpty then throw (.conflict spellings taken)
  return options ++ [{
    argument := ⟨key, spellings, declaration.effect⟩
    kind := declaration.settledKind
    default := declaration.default
    namesFile := declaration.namesFile }]

/-- The options that a list of declarations makes. -/
def ofDeclarations (declarations : List Declaration) : Except DeclarationFault Options :=
  declarations.foldlM declare []

/-- The options with other defaults. -/
def withDefaults (options : Options) (defaults : List (String × Value)) : Options :=
  options.map fun setting =>
    { setting with default := (defaults.lookup setting.key).getD setting.default }

end Options

end Litmus.Settings
