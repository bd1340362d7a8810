import Litmus.FinalState
import Litmus.Form.Basic

/-!
# Misfits

A form may be used where it does not fit: a number is asked of a text, a field of a value that has
none, a proposition of something else. A *misfit* is what is wrong then. This module lists the
misfits with their wording, and has the questions that can meet one.

* `Form.items` and `Form.pair` take a form apart.
* `Form.field` asks for a field of a node.
* `Form.decimal` asks for a number.
-/

namespace Litmus

/-! ## Misfits -/

/-- Why a form is refused. -/
inductive Refusal where
  /-- It has a place in a test, and none in a record. -/
  | unsupported (cause : Unsupported)
  /-- It is no location that a record can have; the spelling is given. -/
  | location (spelling : String)
  | initialValue (form : Form)
  | pseudo (form : Form)
  | proposition (form : Form)
  | condition (form : Form)

/-- The wording of a refusal. -/
def Refusal.message : Refusal → String
  | .unsupported cause => cause.message
  | .location spelling => locationRefusal spelling
  | .initialValue form => "Unexpected initial value " ++ form.debug
  | .pseudo form => "Unexpected pseudo instruction " ++ form.debug
  | .proposition form => "Unexpected proposition " ++ form.debug
  | .condition form => "Unexpected final state condition " ++ form.debug

/-- What is asked of a value in vain. -/
inductive ShapeFault where
  /-- Items. -/
  | items (shape : String)
  /-- A fixed number of items. -/
  | parts (shape : String)
  /-- A number. -/
  | number (shape : String)
  /-- A text of its own. -/
  | ownText (shape : String)
  /-- A text to be searched. -/
  | searchable (shape : String)
  /-- A path. -/
  | path (shape : String)
  /-- A text to be put behind another. -/
  | joinable (shape : String)
  /-- A place in an order. -/
  | order (left right : String)
  /-- An item to be put into a text; there is none. -/
  | noItem
  /-- A single item to be put into a text; there are more. -/
  | severalItems

/-- The wording of a fault. -/
def ShapeFault.message : ShapeFault → String
  | .items shape => "'" ++ shape ++ "' object is not iterable"
  | .parts shape => "cannot unpack non-iterable " ++ shape ++ " object"
  | .number shape => "%d format: a real number is required, not " ++ shape
  | .ownText shape => "__str__ returned non-string (type " ++ shape ++ ")"
  | .searchable shape => "expected string or bytes-like object, got '" ++ shape ++ "'"
  | .path shape => "expected str, bytes or os.PathLike object, not " ++ shape
  | .joinable shape => "can only concatenate str (not \"" ++ shape ++ "\") to str"
  | .order left right =>
    "'<' not supported between instances of '" ++ left ++ "' and '" ++ right ++ "'"
  | .noItem => "not enough arguments for format string"
  | .severalItems => "not all arguments converted during string formatting"

/-- What is wrong with a form. -/
inductive Misfit where
  | refused (refusal : Refusal)
  /-- The register with this full name has no output slot. -/
  | unknownOutput (name : String)
  | noField (shape field : String)
  | wrongShape (fault : ShapeFault)
  | tooFew (expected got : Nat)
  | tooMany (expected : Nat)

/-- The wording of a misfit. -/
def Misfit.message : Misfit → String
  | .refused refusal => refusal.message
  | .unknownOutput name => unknownOutputText name
  | .noField shape field => "'" ++ shape ++ "' object has no attribute '" ++ field ++ "'"
  | .wrongShape fault => fault.message
  | .tooFew expected got =>
    "not enough values to unpack (expected " ++ toString expected ++ ", got " ++ toString got ++ ")"
  | .tooMany expected => "too many values to unpack (expected " ++ toString expected ++ ")"

/-! ## Questions -/

namespace Form

/-- The items of a form; those of a text are its characters. -/
def items? : Form → Option (List Form)
  | .sequence items | .set items => some items
  | .text value => some (value.toList.map fun c => .text c.toString)
  | _ => none

/-- The items of a form. -/
def items (form : Form) : Except Misfit (List Form) :=
  match form.items? with
  | some items => .ok items
  | none => .error (.wrongShape (.items form.shape))

/-- The two items of a form. -/
def pair (form : Form) : Except Misfit (Form × Form) :=
  match form.items? with
  | some [first, second] => .ok (first, second)
  | some (_ :: _ :: _ :: _) => .error (.tooMany 2)
  | some items => .error (.tooFew 2 items.length)
  | none => .error (.wrongShape (.parts form.shape))

/-- The number that a form counts as, in decimal. -/
def decimal (form : Form) : Except Misfit String :=
  match form.number? with
  | some n => .ok (toString n)
  | none => .error (.wrongShape (.number form.shape))

/-- The names of the fields of each kind of node, in order. -/
def fieldNames : List (String × List String) := [
  ("Concrete", ["text"]), ("Symbolic", ["name"]), ("Label", ["proc", "label"]),
  ("LocationReg", ["tid", "reg"]), ("LocationSReg", ["name"]), ("LocationGlobal", ["value"]),
  ("LocationDeref", ["value", "offset"]), ("Atom", ["location", "value"]),
  ("AtomLL", ["left", "right"]), ("Not", ["prop"]), ("And", ["props"]), ("Or", ["props"]),
  ("Implies", ["left", "right"]), ("ExistsState", ["prop"]), ("NotExistsState", ["prop"]),
  ("ForallStates", ["prop"]), ("Instruction", ["text"]), ("SymbolicPseudo", ["text"]),
  ("Nop", []), ("Labelled", ["label", "pseudo"]), ("Macro", ["name", "args"]),
  ("LitmusTest", ["arch", "name", "info", "init", "prog", "condition", "doc"]),
  ("Register", ["tid", "name"]), ("SymbolicLocation", ["name"]), ("RegisterValue", ["value"]),
  ("LabelValue", ["target"]), ("InitialState", ["symbolic_values", "registers"]),
  ("SAtom", ["text"]), ("SList", ["items"]), ("FinalState", ["locations", "assertion", "expect"]),
  ("ThreadRecord", ["tid", "init", "code"]),
  ("LitmusRecord", ["arch", "name", "info", "symbolic", "threads", "final"])]

/-- The names of the fields of a kind of node. -/
def fieldsOf (kind : String) : List String :=
  (fieldNames.lookup kind).getD []

/-- A field of a form. -/
def field (form : Form) (name : String) : Except Misfit Form :=
  let found := match form with
    | .node kind fields => ((fieldsOf kind).zip fields).lookup name
    | _ => none
  match found with
  | some value => .ok value
  | none => .error (.noField form.shape name)

/-! ## Making nodes -/

/-- A form as a sequence of its items. -/
def asSequence (form : Form) : Except Misfit Form := do
  return .sequence (← form.items)

/-- A form as a sequence, with its items made anew. -/
def asSequenceOf (f : Form → Except Misfit Form) (form : Form) : Except Misfit Form := do
  return .sequence (← (← form.items).mapM f)

/-- A thread number and some code as a pair. -/
def asThread (form : Form) : Except Misfit Form := do
  let (thread, code) ← form.pair
  return .sequence [thread, ← code.asSequence]

/-- The node of a kind with these fields. Fields that hold several values are made sequences or
sets. -/
def ofFields (kind : String) (fields : List Form) : Except Misfit Form :=
  match kind, fields with
  | "And", [props] => return .node kind [← props.asSequence]
  | "Or", [props] => return .node kind [← props.asSequence]
  | "SList", [items] => return .node kind [← items.asSequence]
  | "Macro", [name, arguments] => return .node kind [name, ← arguments.asSequence]
  | "LitmusTest", [arch, name, info, init, prog, condition, doc] =>
    return .node kind [arch, name, ← info.asSequenceOf asSequence, ← init.asSequenceOf asSequence,
      ← prog.asSequenceOf asThread, condition, doc]
  | "InitialState", [symbols, registers] =>
    return .node kind [ofMembers (← symbols.items), ← registers.asSequence]
  | "FinalState", [locations, assertion, expect] =>
    return .node kind [← locations.asSequence, assertion, expect]
  | "ThreadRecord", [tid, init, code] => return .node kind [tid, ← init.asSequence, code]
  | "LitmusRecord", [arch, name, info, symbolic, threads, final] =>
    return .node kind [arch, name, ← info.asSequence, ← symbolic.asSequence,
      ← threads.asSequence, final]
  | kind, fields => .ok (.node kind fields)

end Form

end Litmus
