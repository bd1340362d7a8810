import Litmus.Files.Names
import Litmus.Text.Integer
import Litmus.Text.Literal

/-!
# Values of options

An option has a *kind*: a text, a whole number, a flag or a list of files. The value it is given may
still have another shape, most often that of the text it was written as; `Kind.convert` brings it
into the shape of the kind or says why it cannot. The absent value has every kind.
-/

namespace Litmus.Settings

/-! ## Values -/

/-- A value that an option is given. -/
inductive Value where
  | absent
  | flag (value : Bool)
  | number (value : Int)
  | text (value : String)
  | sequence (items : List Value)
deriving Inhabited

namespace Value

/-- The name of the shape of a value. -/
def shape : Value → String
  | .absent => "NoneType"
  | .flag _ => "bool"
  | .number _ => "int"
  | .text _ => "str"
  | .sequence _ => "list"

/-- The whole number that a value counts as. -/
def whole? : Value → Option Int
  | .flag value => some value.toInt
  | .number value => some value
  | _ => none

/-- Whether an option with this value has not been given: nothing, or a list without items. -/
def isUnset : Value → Bool
  | .absent => true
  | .sequence [] => true
  | _ => false

/-- The value counted as true or false: what is absent, zero or empty is false. -/
def isTrue : Value → Bool
  | .absent => false
  | .flag value => value
  | .number value => value != 0
  | .text value => !value.isEmpty
  | .sequence items => !items.isEmpty

mutual

/-- The value as it is shown inside a list. -/
def debug : Value → String
  | .absent => "None"
  | .flag true => "True"
  | .flag false => "False"
  | .number value => toString value
  | .text value => Text.literal value
  | .sequence items => "[" ++ String.intercalate ", " (debugAll items) ++ "]"

/-- Every value of a list as it is shown. -/
def debugAll : List Value → List String
  | [] => []
  | item :: items => debug item :: debugAll items

end

/-- The text of a value. -/
def plain : Value → String
  | .text value => value
  | value => value.debug

/-- A list of file names as a value. -/
def ofFiles (files : List String) : Value :=
  .sequence (files.map .text)

end Value

/-! ## Conversion -/

/-- A value of this shape where there should be file names. -/
structure NotNames where
  shape : String

/-- The wording of the fault. -/
def NotNames.message (fault : NotNames) : String :=
  "'" ++ fault.shape ++ "' object is not iterable"

/-- Why a value has no counterpart of a kind. -/
inductive ConversionFault where
  /-- The text writes no whole number. -/
  | notNumber (text : String)
  /-- The text is not the name of a truth value. -/
  | notFlag (text : String)
  /-- A list has been given for a number. -/
  | listForNumber
  /-- A list of files has something else among its items. -/
  | notFiles (fault : NotNames)

mutual

/-- The texts with file names that a value consists of. -/
def Value.names : Value → Except NotNames NameTree
  | .text value => .ok (.leaf value)
  | .sequence items => do
    let parts ← namesOfAll items
    return .group parts
  | value => .error ⟨value.shape⟩

/-- The texts with file names that several values consist of. -/
def Value.namesOfAll : List Value → Except NotNames (List NameTree)
  | [] => .ok []
  | item :: items => do
    let part ← item.names
    let parts ← Value.namesOfAll items
    return part :: parts

end

/-- What the values of an option are. -/
inductive Kind where
  | text
  | number
  | flag
  | files
deriving DecidableEq

namespace Kind

/-- The number that a value stands for. -/
def toNumber : Value → Except ConversionFault Value
  | .absent => .ok .absent
  | .flag value => .ok (.number (if value then 1 else 0))
  | .number value => .ok (.number value)
  | .text value =>
    match Text.integer? value.toList with
    | some n => .ok (.number n)
    | none => .error (.notNumber value)
  | .sequence _ => .error .listForNumber

/-- The flag that a value stands for. A text has to be the name of a truth value. -/
def toFlag : Value → Except ConversionFault Value
  | .absent => .ok .absent
  | .text value =>
    if value = "True" then .ok (.flag true)
    else if value = "False" then .ok (.flag false)
    else .error (.notFlag value)
  | value => .ok (.flag value.isTrue)

/-- The list of files that a value stands for. -/
def toFiles : Value → Except ConversionFault Value
  | .absent => .ok .absent
  | value => (value.names.mapError .notFiles).map fun names => .ofFiles names.files

/-- The text that a value stands for. -/
def toText : Value → Value
  | .absent => .absent
  | value => .text value.plain

/-- The value of the kind that a value stands for. -/
def convert : Kind → Value → Except ConversionFault Value
  | .text, value => .ok (toText value)
  | .number, value => toNumber value
  | .flag, value => toFlag value
  | .files, value => toFiles value

/-- Nothing is nothing of every kind. -/
@[simp] theorem convert_absent (kind : Kind) : kind.convert .absent = .ok .absent := by
  cases kind <;> rfl

/-- Every text is a text, as it stands. -/
@[simp] theorem convert_text_text (value : String) :
    Kind.text.convert (.text value) = .ok (.text value) := rfl

end Kind

end Litmus.Settings
