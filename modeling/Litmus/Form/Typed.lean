import Litmus.Form.Basic
import Litmus.Record

/-!
# Forms of terms

Every term has a form, from which it can be read back. `ofForm?` reads a form as a term of a type;
it succeeds on the forms of the terms of the type and on no others. The laws `ofForm?_form` say the
first half.
-/

namespace Litmus

/-! ## Lists and pairs -/

/-- The form of a list of texts. -/
def Form.ofTexts (texts : List String) : Form :=
  .sequence (texts.map .text)

/-- The form of a list of pairs of texts. -/
def Form.ofTextPairs (pairs : List (String × String)) : Form :=
  .sequence (pairs.map fun (key, value) => .sequence [.text key, .text value])

/-- The texts that a list of forms is. -/
def Form.texts? (forms : List Form) : Option (List String) :=
  forms.mapM Form.text?

/-- The pair of texts that a form is. -/
def Form.textPair? : Form → Option (String × String)
  | .sequence [.text key, .text value] => some (key, value)
  | _ => none

/-- What is read item by item is read back from its items. -/
theorem mapM_map_of_forall {α : Type} {f : α → Form} {g : Form → Option α}
    (h : ∀ a, g (f a) = some a) (as : List α) : (as.map f).mapM g = some as := by
  induction as with
  | nil => rfl
  | cons a as ih => simp [h a, ih]

@[simp] theorem Form.texts?_map_text (texts : List String) :
    Form.texts? (texts.map Form.text) = some texts := by
  have h : ∀ texts : List String, (texts.map Form.text).mapM Form.text? = some texts :=
    mapM_map_of_forall fun _ => rfl
  exact h texts

/-! ## Constants and locations -/

/-- The form of a constant. -/
def Constant.form : Constant → Form
  | .concrete text => .node "Concrete" [.text text]
  | .symbolic name => .node "Symbolic" [.text name]
  | .label thread name => .node "Label" [.number thread, .text name]

/-- The constant that has a form. -/
def Constant.ofForm? : Form → Option Constant
  | .node "Concrete" [.text text] => some (.concrete text)
  | .node "Symbolic" [.text name] => some (.symbolic name)
  | .node "Label" [.number thread, .text name] => some (.label thread name)
  | _ => none

@[simp] theorem Constant.ofForm?_form (constant : Constant) :
    Constant.ofForm? constant.form = some constant := by
  cases constant <;> simp [Constant.form, Constant.ofForm?]

/-- The form of a location. -/
def Location.form : Location → Form
  | .register thread name => .node "LocationReg" [.number thread, .text name]
  | .symbolicRegister name => .node "LocationSReg" [.text name]
  | .global address => .node "LocationGlobal" [address.form]
  | .cell base index => .node "LocationDeref" [base.form, .number index]

/-- The location that has a form. -/
def Location.ofForm? : Form → Option Location
  | .node "LocationReg" [.number thread, .text name] => some (.register thread name)
  | .node "LocationSReg" [.text name] => some (.symbolicRegister name)
  | .node "LocationGlobal" [address] => (Constant.ofForm? address).map .global
  | .node "LocationDeref" [base, .number index] =>
    (Constant.ofForm? base).map fun base => .cell base index
  | _ => none

@[simp] theorem Location.ofForm?_form (location : Location) :
    Location.ofForm? location.form = some location := by
  cases location <;> simp [Location.form, Location.ofForm?]

/-- The form of a resolved location. -/
def Resolved.form : Resolved → Form
  | .register thread name => .node "Register" [.number thread, .text name]
  | .memory name => .node "SymbolicLocation" [.text name]

/-- The form of an assignment. -/
def assignmentForm (assignment : Location × Constant) : Form :=
  .sequence [assignment.1.form, assignment.2.form]

/-- The assignment that has a form. -/
def assignment? : Form → Option (Location × Constant)
  | .sequence [location, value] => do
    let location ← Location.ofForm? location
    let value ← Constant.ofForm? value
    return (location, value)
  | _ => none

@[simp] theorem assignment?_form (assignment : Location × Constant) :
    assignment? (assignmentForm assignment) = some assignment := by
  simp [assignment?, assignmentForm]

/-! ## Propositions and conditions -/

mutual

/-- The form of a proposition. -/
def Proposition.form : Proposition → Form
  | .holds location value => .node "Atom" [location.form, value.form]
  | .agree left right => .node "AtomLL" [left.form, right.form]
  | .not operand => .node "Not" [operand.form]
  | .and operands => .node "And" [.sequence (formsOfAll operands)]
  | .or operands => .node "Or" [.sequence (formsOfAll operands)]
  | .implies left right => .node "Implies" [left.form, right.form]

/-- The forms of a list of propositions. -/
def formsOfAll : List Proposition → List Form
  | [] => []
  | operand :: operands => operand.form :: formsOfAll operands

end

mutual

/-- The proposition that has a form. -/
def Proposition.ofForm? : Form → Option Proposition
  | .node "Atom" [location, value] => do
    let location ← Location.ofForm? location
    let value ← Constant.ofForm? value
    return .holds location value
  | .node "AtomLL" [left, right] => do
    let left ← Location.ofForm? left
    let right ← Location.ofForm? right
    return .agree left right
  | .node "Not" [operand] => do
    let operand ← Proposition.ofForm? operand
    return .not operand
  | .node "And" [.sequence operands] => do
    let operands ← propositions? operands
    return .and operands
  | .node "Or" [.sequence operands] => do
    let operands ← propositions? operands
    return .or operands
  | .node "Implies" [left, right] => do
    let left ← Proposition.ofForm? left
    let right ← Proposition.ofForm? right
    return .implies left right
  | _ => none

/-- The propositions that have the forms of a list. -/
def propositions? : List Form → Option (List Proposition)
  | [] => some []
  | form :: forms => do
    let operand ← Proposition.ofForm? form
    let operands ← propositions? forms
    return operand :: operands

end

mutual

@[simp] theorem Proposition.ofForm?_form :
    (proposition : Proposition) → Proposition.ofForm? proposition.form = some proposition
  | .holds _ _ | .agree _ _ => by simp [Proposition.form, Proposition.ofForm?]
  | .not operand => by
    simp [Proposition.form, Proposition.ofForm?, Proposition.ofForm?_form operand]
  | .and operands | .or operands => by
    simp [Proposition.form, Proposition.ofForm?, propositions?_forms operands]
  | .implies left right => by
    simp [Proposition.form, Proposition.ofForm?, Proposition.ofForm?_form left,
      Proposition.ofForm?_form right]

@[simp] theorem propositions?_forms :
    (operands : List Proposition) → propositions? (formsOfAll operands) = some operands
  | [] => rfl
  | operand :: operands => by
    simp [formsOfAll, propositions?, Proposition.ofForm?_form operand,
      propositions?_forms operands]

end

/-- The form of a condition. -/
def Condition.form : Condition → Form
  | .someState body => .node "ExistsState" [body.form]
  | .noState body => .node "NotExistsState" [body.form]
  | .everyState body => .node "ForallStates" [body.form]

/-- The condition that has a form. -/
def Condition.ofForm? : Form → Option Condition
  | .node "ExistsState" [body] => (Proposition.ofForm? body).map .someState
  | .node "NotExistsState" [body] => (Proposition.ofForm? body).map .noState
  | .node "ForallStates" [body] => (Proposition.ofForm? body).map .everyState
  | _ => none

@[simp] theorem Condition.ofForm?_form (condition : Condition) :
    Condition.ofForm? condition.form = some condition := by
  cases condition <;> simp [Condition.form, Condition.ofForm?]

/-! ## Tests -/

/-- The form of an entry of the code of a thread. -/
def Pseudo.form : Pseudo → Form
  | .instruction text => .node "Instruction" [.text text]
  | .nop => .node "Nop" []
  | .labelled label entry => .node "Labelled" [.text label, entry.form]
  | .templateCall name arguments => .node "Macro" [.text name, .ofTexts arguments]
  | .symbolic text => .node "SymbolicPseudo" [.text text]

/-- The entry that has a form. -/
def Pseudo.ofForm? : Form → Option Pseudo
  | .node "Instruction" [.text text] => some (.instruction text)
  | .node "Nop" [] => some .nop
  | .node "Labelled" [.text label, entry] => (Pseudo.ofForm? entry).map (.labelled label)
  | .node "Macro" [.text name, .sequence arguments] =>
    (Form.texts? arguments).map (.templateCall name)
  | .node "SymbolicPseudo" [.text text] => some (.symbolic text)
  | _ => none

@[simp] theorem Pseudo.ofForm?_form (entry : Pseudo) :
    Pseudo.ofForm? entry.form = some entry := by
  induction entry with
  | instruction _ | nop | symbolic _ => simp [Pseudo.form, Pseudo.ofForm?]
  | labelled _ _ ih => simp [Pseudo.form, Pseudo.ofForm?, ih]
  | templateCall _ _ => simp [Pseudo.form, Pseudo.ofForm?, Form.ofTexts]

/-- The form of a thread of a test. -/
def threadForm (thread : Int × List Pseudo) : Form :=
  .sequence [.number thread.1, .sequence (thread.2.map Pseudo.form)]

/-- The thread of a test that has a form. -/
def thread? : Form → Option (Int × List Pseudo)
  | .sequence [.number thread, .sequence code] =>
    (code.mapM Pseudo.ofForm?).map fun code => (thread, code)
  | _ => none

@[simp] theorem thread?_form (thread : Int × List Pseudo) :
    thread? (threadForm thread) = some thread := by
  simp [thread?, threadForm, mapM_map_of_forall Pseudo.ofForm?_form]

/-- The form of a documentation string that may be missing. -/
def docForm : Option String → Form
  | none => .absent
  | some doc => .text doc

/-- The documentation string that has a form; none at all if the form is of another kind. -/
def doc? : Form → Option (Option String)
  | .absent => some none
  | .text doc => some (some doc)
  | _ => none

@[simp] theorem doc?_form (doc : Option String) : doc? (docForm doc) = some doc := by
  cases doc <;> rfl

/-- The form of a test. -/
def Test.form (test : Test) : Form :=
  .node "LitmusTest" [.text test.arch, .text test.name, .ofTextPairs test.info,
    .sequence (test.init.map assignmentForm), .sequence (test.threads.map threadForm),
    test.condition.form, docForm test.doc]

/-- The test that has a form. -/
def Test.ofForm? : Form → Option Test
  | .node "LitmusTest" [.text arch, .text name, .sequence info, .sequence init, .sequence threads,
      condition, doc] => do
    let info ← info.mapM Form.textPair?
    let init ← init.mapM assignment?
    let threads ← threads.mapM thread?
    let condition ← Condition.ofForm? condition
    let doc ← doc? doc
    return { arch, name, info, init, threads, condition, doc }
  | _ => none

@[simp] theorem Test.ofForm?_form (test : Test) : Test.ofForm? test.form = some test := by
  have hinfo : ∀ info : List (String × String),
      (info.map fun (key, value) => Form.sequence [.text key, .text value]).mapM Form.textPair?
        = some info := mapM_map_of_forall fun _ => rfl
  simp [Test.form, Test.ofForm?, Form.ofTextPairs, hinfo, mapM_map_of_forall assignment?_form,
    mapM_map_of_forall thread?_form]

/-! ## Initial states -/

/-- The form of a register value. -/
def RegisterValue.form : RegisterValue → Form
  | .value text => .node "RegisterValue" [.text text]
  | .label target => .node "LabelValue" [.text target]

/-- The form of an initial state. -/
def InitialState.form (state : InitialState) : Form :=
  .node "InitialState" [.set (state.symbols.map .text),
    .sequence (state.registers.map fun init =>
      .sequence [.number init.thread, .text init.register, init.value.form])]

/-! ## Records -/

mutual

/-- The form of a term of SMT-LIB. -/
def Sexpr.form : Sexpr → Form
  | .atom text => .node "SAtom" [.text text]
  | .list items => .node "SList" [.sequence (sexprForms items)]

/-- The forms of a list of terms. -/
def sexprForms : List Sexpr → List Form
  | [] => []
  | item :: items => item.form :: sexprForms items

end

mutual

/-- The term of SMT-LIB that has a form. -/
def Sexpr.ofForm? : Form → Option Sexpr
  | .node "SAtom" [.text text] => some (.atom text)
  | .node "SList" [.sequence items] => do
    let items ← sexprs? items
    return .list items
  | _ => none

/-- The terms that have the forms of a list. -/
def sexprs? : List Form → Option (List Sexpr)
  | [] => some []
  | form :: forms => do
    let item ← Sexpr.ofForm? form
    let items ← sexprs? forms
    return item :: items

end

mutual

@[simp] theorem Sexpr.ofForm?_form : (term : Sexpr) → Sexpr.ofForm? term.form = some term
  | .atom _ => by simp [Sexpr.form, Sexpr.ofForm?]
  | .list items => by simp [Sexpr.form, Sexpr.ofForm?, sexprs?_forms items]

@[simp] theorem sexprs?_forms : (items : List Sexpr) → sexprs? (sexprForms items) = some items
  | [] => rfl
  | item :: items => by
    simp [sexprForms, sexprs?, Sexpr.ofForm?_form item, sexprs?_forms items]

end

/-- The form of an output slot. -/
def Slot.form (slot : Slot) : Form :=
  .sequence [.number slot.thread, .text slot.name, .text slot.register]

/-- The output slot that has a form. -/
def Slot.ofForm? : Form → Option Slot
  | .sequence [.number thread, .text name, .text register] => some ⟨thread, name, register⟩
  | _ => none

/-- The verdict that a word stands for. -/
def Verdict.ofWord? : String → Option Verdict
  | "sat" => some .sat
  | "unsat" => some .unsat
  | _ => none

@[simp] theorem Verdict.ofWord?_word (verdict : Verdict) :
    Verdict.ofWord? verdict.word = some verdict := by
  cases verdict <;> simp [Verdict.word, Verdict.ofWord?]

/-- The form of a final state. -/
def FinalState.form (state : FinalState) : Form :=
  .node "FinalState" [.sequence (state.slots.map Slot.form), state.assertion.form,
    .text state.expect.word]

/-- The final state that has a form. -/
def FinalState.ofForm? : Form → Option FinalState
  | .node "FinalState" [.sequence slots, assertion, .text expect] => do
    let slots ← slots.mapM Slot.ofForm?
    let assertion ← Sexpr.ofForm? assertion
    let expect ← Verdict.ofWord? expect
    return { slots, assertion, expect }
  | _ => none

@[simp] theorem FinalState.ofForm?_form (state : FinalState) :
    FinalState.ofForm? state.form = some state := by
  have hslots : ∀ slots : List Slot, (slots.map Slot.form).mapM Slot.ofForm? = some slots :=
    mapM_map_of_forall fun _ => rfl
  simp [FinalState.form, FinalState.ofForm?, hslots]

/-- The form of the record of a thread. -/
def ThreadRecord.form (thread : ThreadRecord) : Form :=
  .node "ThreadRecord" [.number thread.thread, .ofTextPairs thread.init, .text thread.code]

/-- The record of a thread that has a form. -/
def ThreadRecord.ofForm? : Form → Option ThreadRecord
  | .node "ThreadRecord" [.number thread, .sequence init, .text code] => do
    let init ← init.mapM Form.textPair?
    return { thread, init, code }
  | _ => none

/-- The form of a record. -/
def Record.form (record : Record) : Form :=
  .node "LitmusRecord" [.text record.arch, .text record.name, .ofTextPairs record.info,
    .ofTexts record.symbols, .sequence (record.threads.map ThreadRecord.form), record.final.form]

/-- The record that has a form. -/
def Record.ofForm? : Form → Option Record
  | .node "LitmusRecord" [.text arch, .text name, .sequence info, .sequence symbols,
      .sequence threads, final] => do
    let info ← info.mapM Form.textPair?
    let symbols ← Form.texts? symbols
    let threads ← threads.mapM ThreadRecord.ofForm?
    let final ← FinalState.ofForm? final
    return { arch, name, info, symbols, threads, final }
  | _ => none

@[simp] theorem Record.ofForm?_form (record : Record) :
    Record.ofForm? record.form = some record := by
  have hpairs : ∀ pairs : List (String × String),
      (pairs.map fun (key, value) => Form.sequence [.text key, .text value]).mapM Form.textPair?
        = some pairs := mapM_map_of_forall fun _ => rfl
  have hthreads : ∀ threads : List ThreadRecord,
      (threads.map ThreadRecord.form).mapM ThreadRecord.ofForm? = some threads :=
    mapM_map_of_forall fun thread => by
      simp [ThreadRecord.form, ThreadRecord.ofForm?, Form.ofTextPairs, hpairs]
  simp [Record.form, Record.ofForm?, Form.ofTextPairs, Form.ofTexts, hpairs, hthreads]

end Litmus
