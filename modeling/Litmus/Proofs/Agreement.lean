import Litmus.Answer
import Litmus.Proofs.Sequence
import Mathlib.Data.List.Induction

/-!
# Loose answers to terms

A question that is asked of a form is answered loosely where the form is no term. On the form of a
term the loose answer is the one of the function on terms: it is the form of what that function gives,
and where the function refuses, it is refused in the same words.

* **`Agree`**: two answers agree. **`Agree.bind`**, **`Agree.mapM`**: so do answers made of steps.
* **`locations_form`**, **`assertion_form`**, **`finalState_form`**: the questions about a condition.
* **`initialState_form`**, **`listing_form`**, **`record_form`**: the parts of a record, and the record.
* **`write_form`**: the text of a record.
* **`Answer.record_form`**, **`Answer.recordText_form`**: a form that is the form of a term is answered
  as it would be if it were none.
-/

namespace Litmus

/-! ## Agreement -/

/-- A typed and a loose answer: both give something, and that is related, or both are refused in the
same words. -/
inductive Agree {α β : Type} (r : α → β → Prop) : Except Unsupported α → Except Misfit β → Prop where
  | ok {a : α} {b : β} (h : r a b) : Agree r (.ok a) (.ok b)
  | error {cause : Unsupported} {misfit : Misfit} (h : misfit.message = cause.message) :
    Agree r (.error cause) (.error misfit)

namespace Agree

variable {α β γ δ : Type} {r : α → β → Prop} {s : γ → δ → Prop}

theorem bind {x : Except Unsupported α} {y : Except Misfit β} {f : α → Except Unsupported γ}
    {g : β → Except Misfit δ} (h : Agree r x y) (hstep : ∀ a b, r a b → Agree s (f a) (g b)) :
    Agree s (x >>= f) (y >>= g) := by
  cases h with
  | ok h => exact hstep _ _ h
  | error h => exact .error h

theorem map_left {x : Except Unsupported α} {y : Except Misfit β} {f : α → γ} {s : γ → β → Prop}
    (h : Agree r x y) (hmap : ∀ a b, r a b → s (f a) b) : Agree s (x.map f) y := by
  cases h with
  | ok h => exact .ok (hmap _ _ h)
  | error h => exact .error h

/-- What agrees on each member of a list agrees on the list. -/
theorem mapM {form : α → β} {f : α → Except Unsupported γ} {g : β → Except Misfit δ} {k : γ → δ}
    {as : List α} (h : ∀ a ∈ as, Agree (fun c d => k c = d) (f a) (g (form a))) :
    Agree (fun cs ds => cs.map k = ds) (as.mapM f) ((as.map form).mapM g) := by
  induction as with
  | nil => exact .ok rfl
  | cons a as ih =>
    rw [List.map_cons, List.mapM_cons, List.mapM_cons]
    refine (h a List.mem_cons_self).bind ?_
    rintro c _ rfl
    refine (ih fun a' ha' => h a' (List.mem_cons_of_mem a ha')).bind ?_
    rintro cs _ rfl
    exact .ok rfl

end Agree

/-! ## Locations -/

theorem constantSpelling_form (constant : Constant) :
    Loose.constantSpelling constant.form = .ok (.text constant.spelling) := by
  cases constant <;> rfl

/-- A location is spelled alike. -/
theorem spelling_form (location : Location) :
    Loose.spelling location.form = .ok (.text location.spelling) := by
  cases location with
  | register thread name => rfl
  | symbolicRegister name => rfl
  | global address => exact constantSpelling_form address
  | cell base index =>
    simp only [Location.form, Loose.spelling, constantSpelling_form]
    rfl

theorem spellingInText_form (location : Location) :
    Loose.spellingInText location.form = .ok location.spelling := by
  rw [Loose.spellingInText, spelling_form]
  rfl

/-- The form of what a location comes down to; for a cell that is the absent value. -/
def foundForm (found : Option Resolved) : Form :=
  found.elim .absent Resolved.form

/-- A location comes down to the same, or it is refused alike. -/
theorem resolve_form (location : Location) :
    Agree (fun found form => foundForm found = form) location.resolve (Loose.resolve location.form) := by
  cases location with
  | register thread name => exact .ok rfl
  | symbolicRegister name => exact .error rfl
  | global address =>
    cases address with
    | symbolic name => exact .ok rfl
    | concrete text => exact .error rfl
    | label thread name => exact .error rfl
  | cell base index => exact .ok rfl

/-! ## Mentioned locations and their slots -/

/-- Forms that the resolved locations have, with absent ones in between. -/
def Mentioned (found : List Resolved) (forms : List Form) : Prop :=
  forms.filter (!· == .absent) = found.map Resolved.form

theorem Mentioned.append {found found' : List Resolved} {forms forms' : List Form}
    (h : Mentioned found forms) (h' : Mentioned found' forms') :
    Mentioned (found ++ found') (forms ++ forms') := by
  rw [Mentioned, List.filter_append, h, h', List.map_append]

theorem mentioned_foundForm (found : Option Resolved) :
    Mentioned found.toList [foundForm found] := by
  rcases found with _ | (_ | _) <;> rfl

theorem mention_form (location : Location) :
    Agree (fun found form => Mentioned found [form]) location.mention (Loose.resolve location.form) := by
  refine (resolve_form location).map_left ?_
  rintro found _ rfl
  exact mentioned_foundForm found

mutual

/-- A proposition mentions the same. -/
theorem mentions_form :
    (proposition : Proposition) → Agree Mentioned proposition.mentions (Loose.mentions proposition.form)
  | .holds location _ => by
    rw [Proposition.mentions, Proposition.form, Loose.mentions]
    rw [← bind_pure location.mention]
    exact (mention_form location).bind fun _ _ h => .ok h
  | .agree left right => by
    rw [Proposition.mentions, Proposition.form, Loose.mentions]
    exact (mention_form left).bind fun _ _ h => (mention_form right).bind fun _ _ h' =>
      .ok (h.append h')
  | .not operand => by
    rw [Proposition.mentions, Proposition.form, Loose.mentions]
    exact mentions_form operand
  | .and operands | .or operands => by
    rw [Proposition.mentions, Proposition.form, Loose.mentions]
    exact mentionsOfAll_forms operands
  | .implies left right => by
    rw [Proposition.mentions, Proposition.form, Loose.mentions]
    exact (mentions_form left).bind fun _ _ h => (mentions_form right).bind fun _ _ h' =>
      .ok (h.append h')

theorem mentionsOfAll_forms : (operands : List Proposition) →
    Agree Mentioned (mentionsOfAll operands) (Loose.mentionsOfAll (formsOfAll operands))
  | [] => .ok rfl
  | operand :: operands => by
    rw [mentionsOfAll, formsOfAll, Loose.mentionsOfAll]
    exact (mentions_form operand).bind fun _ _ h => (mentionsOfAll_forms operands).bind fun _ _ h' =>
      .ok (h.append h')

end

theorem same_number (a b : Int) : (Form.number a == .number b) = decide (a = b) := by
  show Form.same (.number a) (.number b) = decide (a = b)
  rw [Bool.eq_iff_iff]
  simpa [Form.same, Form.number?] using eq_comm

/-- The forms of resolved locations are the same only if these are. -/
theorem same_resolved (a b : Resolved) : (a.form == b.form) = decide (a = b) := by
  show Form.same a.form b.form = decide (a = b)
  rw [Bool.eq_iff_iff]
  cases a <;> cases b <;> simp [Resolved.form, Form.same, Form.allSame, Form.number?]
  exact fun _ => eq_comm

theorem distinct_forms (found : List Resolved) :
    Form.distinct (found.map Resolved.form) = found.eraseDups.map Resolved.form := by
  -- both go on at the end of what has been collected
  induction found using List.reverseRecOn with
  | nil => rfl
  | append_singleton found a ih =>
    have hmem : (found.eraseDups.map Resolved.form).contains a.form = decide (a ∈ found) := by
      rw [Bool.eq_iff_iff, List.contains_eq_any_beq, List.any_map, List.any_eq_true]
      simp [same_resolved]
    rw [List.map_append, Form.distinct, List.foldl_append, ← Form.distinct, ih, eraseDups_concat]
    simp only [List.map_cons, List.map_nil, List.foldl_cons, List.foldl_nil, hmem]
    by_cases h : a ∈ found <;> simp [h]

/-- A proposition has the same locations. -/
theorem locations_form (proposition : Proposition) :
    Agree (fun found forms => found.map Resolved.form = forms) proposition.locations
      (Loose.locations proposition.form) := by
  have hmap : proposition.locations = proposition.mentions >>= fun found => pure found.eraseDups :=
    map_eq_pure_bind List.eraseDups proposition.mentions
  rw [hmap, Loose.locations]
  refine (mentions_form proposition).bind fun found forms h => .ok ?_
  rw [Mentioned] at h
  rw [h, distinct_forms]

/-- An output slot where any register could be. -/
def Slot.output (slot : Slot) : Loose.Output :=
  ⟨.number slot.thread, slot.name, .text slot.register⟩

/-- The same registers get the same slots. -/
theorem outputsOf_forms (locations : List Resolved) :
    Loose.outputsOf (locations.map Resolved.form) = (slotsOf locations).map Slot.output := by
  have hregister : ∀ found : Resolved, Loose.register? found.form =
      found.register?.map (Prod.map Form.number Form.text) := by
    rintro (_ | _) <;> rfl
  have hregisters : (locations.map Resolved.form).filterMap Loose.register? =
      (locations.filterMap Resolved.register?).map (Prod.map Form.number Form.text) := by
    rw [List.filterMap_map, List.map_filterMap]
    exact List.filterMap_congr fun found _ => hregister found
  rw [Loose.outputsOf, hregisters, slotsOf, List.zipIdx_map, List.map_map, List.map_map]
  rfl

/-- A register is looked up alike. -/
theorem outputOf_form (slots : List Slot) (thread : Int) (register : String) :
    (Loose.outputOf (slots.map Slot.output) (.number thread) (.text register)).mapError Misfit.message
      = (slotOf slots thread register).mapError UnknownOutput.message := by
  have hsame : ∀ slot : Slot, (slot.output.thread == .number thread && slot.output.register ==
      .text register) = decide (slot.thread = thread ∧ slot.register = register) := by
    intro slot
    have hregister : (slot.output.register == .text register) = decide (slot.register = register) := rfl
    rw [hregister, Slot.output, same_number, Bool.decide_and]
  rw [Loose.outputOf, List.find?_map, slotOf]
  simp only [Function.comp_def, hsame]
  cases slots.find? fun slot => slot.thread = thread ∧ slot.register = register <;> rfl

/-! ## Assertions -/

/-- What a location holds is the same term. -/
theorem reference_form (location : Location) :
    Agree (fun term form => term.form = form) location.reference (Loose.reference location.form) := by
  refine (resolve_form location).bind ?_
  rintro found _ rfl
  rcases found with _ | (_ | _)
  · exact .error rfl
  · exact .ok rfl
  · exact .ok rfl

theorem value_form (constant : Constant) :
    Agree (fun term form => term.form = form) constant.term (Loose.value constant.form) := by
  cases constant with
  | concrete text => exact .ok rfl
  | symbolic name => exact .error rfl
  | label thread name => exact .error rfl

mutual

/-- A proposition is the same term. -/
theorem assertion_form : (proposition : Proposition) →
    Agree (fun term form => term.form = form) proposition.assertion (Loose.assertion proposition.form)
  | .holds location constant => by
    rw [Proposition.assertion, Proposition.form, Loose.assertion]
    refine (reference_form location).bind ?_
    rintro reference _ rfl
    refine (value_form constant).bind ?_
    rintro value _ rfl
    exact .ok rfl
  | .agree _ _ => .error rfl
  | .not operand => by
    rw [Proposition.assertion, Proposition.form, Loose.assertion]
    refine (assertion_form operand).bind ?_
    rintro term _ rfl
    exact .ok rfl
  | .and operands | .or operands => by
    rw [Proposition.assertion, Proposition.form, Loose.assertion]
    refine (assertionsOfAll_forms operands).bind ?_
    rintro terms _ rfl
    exact .ok rfl
  | .implies left right => by
    rw [Proposition.assertion, Proposition.form, Loose.assertion]
    refine (assertion_form left).bind ?_
    rintro first _ rfl
    refine (assertion_form right).bind ?_
    rintro second _ rfl
    exact .ok rfl

theorem assertionsOfAll_forms : (operands : List Proposition) →
    Agree (fun terms forms => sexprForms terms = forms) (assertionsOfAll operands)
      (Loose.assertionsOfAll (formsOfAll operands))
  | [] => .ok rfl
  | operand :: operands => by
    rw [assertionsOfAll, formsOfAll, Loose.assertionsOfAll]
    refine (assertion_form operand).bind ?_
    rintro term _ rfl
    refine (assertionsOfAll_forms operands).bind ?_
    rintro terms _ rfl
    exact .ok rfl

end

/-! ## Final states -/

/-- A final state as a loose question. -/
def FinalState.question (state : FinalState) : Loose.Question :=
  ⟨state.slots.map Slot.output, state.assertion.form, state.expect⟩

theorem question_form (state : FinalState) : state.question.form = state.form := by
  simp only [FinalState.question, Loose.Question.form, List.map_map, FinalState.form]
  rfl

theorem question_ofProposition (proposition : Proposition) (expect : Verdict) :
    Agree (fun state question => state.question = question)
      (FinalState.ofProposition proposition expect) (Loose.question proposition.form expect) := by
  refine (locations_form proposition).bind ?_
  rintro locations _ rfl
  refine (assertion_form proposition).bind ?_
  rintro assertion _ rfl
  refine .ok ?_
  rw [outputsOf_forms]
  rfl

/-- A condition comes down to the same question. -/
theorem finalState_form (condition : Condition) :
    Agree (fun state question => state.question = question) condition.finalState
      (Loose.finalState condition.form) := by
  cases condition with
  | someState body => exact question_ofProposition body .sat
  | noState body => exact question_ofProposition body .unsat
  | everyState body =>
    refine (question_ofProposition body .unsat).bind ?_
    rintro state _ rfl
    exact .ok rfl

/-! ## Initial states -/

theorem registerValue_form (constant : Constant) :
    Loose.registerValue constant.form = .ok constant.registerValue.form := by
  cases constant <;> rfl

theorem plain_registerValue (value : RegisterValue) : value.form.plain = .ok value.text := by
  cases value <;> rfl

/-- The form of an initializer. -/
def Initializer.form (init : Initializer) : Form :=
  .sequence [.number init.thread, .text init.register, init.value.form]

/-- The symbolic names and the registers that make a state. -/
def Kept (state : InitialState) (found : List Form × List Form) : Prop :=
  (∃ names : List String, found.1 = names.map .text ∧ namesOf names = state.symbols) ∧
    found.2 = state.registers.map Initializer.form

theorem Kept.cons {state : InitialState} {found : List Form × List Form} (h : Kept state found)
    (thread : Int) (register : String) (constant : Constant) :
    Kept ⟨InitialState.withSymbol state.symbols constant,
        ⟨thread, register, constant.registerValue⟩ :: state.registers⟩
      ((Loose.symbol? constant.form).toList ++ found.1,
        .sequence [.number thread, .text register, constant.registerValue.form] :: found.2) := by
  obtain ⟨⟨names, hnames, hsymbols⟩, hregisters⟩ := h
  refine ⟨?_, by rw [hregisters]; rfl⟩
  cases constant with
  | symbolic name => exact ⟨name :: names, by rw [hnames]; rfl, by rw [← hsymbols]; rfl⟩
  | concrete text => exact ⟨names, hnames, hsymbols⟩
  | label thread name => exact ⟨names, hnames, hsymbols⟩

/-- The same is kept of some assignments. -/
theorem assignments_forms (init : List (Location × Constant)) :
    Agree Kept (InitialState.ofAssignments init).outcome
      (Loose.assignments (init.map assignmentForm)) := by
  induction init with
  | nil => exact .ok ⟨⟨[], rfl, rfl⟩, rfl⟩
  | cons assignment init ih =>
    obtain ⟨location, constant⟩ := assignment
    rw [InitialState.ofAssignments, Traced.outcome_bind, List.map_cons, Loose.assignments]
    refine (resolve_form location).bind ?_
    rintro found _ rfl
    rcases found with _ | (⟨thread, register⟩ | name)
    · -- the cell is spelled for the notice
      show Agree Kept (InitialState.ofAssignments init).outcome
        (Loose.spellingInText location.form >>= fun _ => Loose.assignments (init.map assignmentForm))
      rw [spellingInText_form]
      exact ih
    · show Agree Kept ((InitialState.ofAssignments init >>= _).outcome)
        (Loose.registerValue constant.form >>= _)
      rw [registerValue_form, Traced.outcome_bind]
      exact ih.bind fun state found h => .ok (h.cons thread register constant)
    · exact .error rfl

/-- Some assignments make the same initial state. -/
theorem initialState_form (init : List (Location × Constant)) :
    Agree (fun state form => state.form = form) (InitialState.ofAssignments init).outcome
      (Loose.initialState (init.map assignmentForm)) := by
  rw [← bind_pure (InitialState.ofAssignments init).outcome]
  refine (assignments_forms init).bind ?_
  rintro state ⟨_, _⟩ ⟨⟨names, rfl, hsymbols⟩, rfl⟩
  have htexts : (names.map Form.text).all (·.text?.isSome) = true := by simp [Form.text?]
  have hmembers : (names.map Form.text).filterMap Form.text? = names := by
    simp [Form.text?, List.filterMap_map, Function.comp_def]
  refine .ok ?_
  rw [Form.ofMembers, if_pos htexts, hmembers, hsymbols]
  rfl

theorem sortedSymbols_form (state : InitialState) :
    Loose.sortedSymbols state.form = .ok (state.symbols.map .text) := by
  obtain ⟨symbols, registers⟩ := state
  rcases symbols with _ | ⟨first, _ | ⟨second, rest⟩⟩
  · rfl
  · rfl
  · have htexts : ((first :: second :: rest).map Form.text).all (·.text?.isSome) = true := by
      simp [Form.text?]
    exact if_pos htexts

/-- A thread has the same registers with the same values. -/
theorem registersOf_form (state : InitialState) (thread : Int) :
    Loose.registersOf state.form (.number thread)
      = .ok ((state.ofThread thread).map fun init => (.text init.1, init.2)) := by
  have hown : (state.registers.map Initializer.form).filterMap (Loose.own? (.number thread)) =
      (state.registers.filter (·.thread = thread)).map fun init =>
        (Form.text init.register, init.value.form) := by
    induction state.registers with
    | nil => rfl
    | cons init registers ih =>
      have hinit : Loose.own? (.number thread) init.form =
          if init.thread = thread then some (.text init.register, init.value.form) else none := by
        simp only [Initializer.form, Loose.own?, same_number, decide_eq_true_eq]
      rw [List.map_cons, List.filterMap_cons, hinit, ih]
      by_cases h : init.thread = thread <;> simp [h]
  show ((state.registers.map Initializer.form).filterMap (Loose.own? (.number thread))).mapM _ = _
  rw [hown, InitialState.ofThread, List.map_map]
  refine mapM_map_eq_ok fun init _ => ?_
  show (do return (Form.text init.register, ← init.value.form.plain)) = _
  rw [plain_registerValue]
  rfl

/-! ## Listings -/

/-- An entry of the code gives the same lines. -/
theorem entryListing_form (entry : Pseudo) :
    Agree (· = ·) entry.listing (Loose.entryListing entry.form) := by
  induction entry with
  | instruction text => exact .ok rfl
  | nop => exact .ok rfl
  | labelled label entry ih =>
    refine ih.bind ?_
    rintro rest _ rfl
    exact .ok rfl
  | templateCall name arguments => exact .error rfl
  | symbolic text => exact .error rfl

/-- Some code has the same listing. -/
theorem listing_form (code : List Pseudo) :
    Agree (· = ·) (listing code) (Loose.listing (code.map Pseudo.form)) := by
  refine (Agree.mapM (k := id) fun entry _ => entryListing_form entry).bind ?_
  rintro lines _ rfl
  exact .ok (by rw [List.map_id])

/-! ## Records -/

theorem threadRecord_form (state : InitialState) (entry : Int × List Pseudo) :
    Agree (fun thread form => thread.form = form) (ThreadRecord.ofCode state entry.1 entry.2)
      (Loose.threadRecord state.form (threadForm entry)) := by
  show Agree _ (listing entry.2 >>= _) (Loose.registersOf state.form (.number entry.1) >>= fun init =>
    Loose.listing (entry.2.map Pseudo.form) >>= _)
  rw [registersOf_form]
  refine (listing_form entry.2).bind ?_
  rintro lines _ rfl
  refine .ok ?_
  simp only [ThreadRecord.form, Form.ofTextPairs, List.map_map]
  rfl

/-- A test has the same record. -/
theorem record_form (test : Test) :
    Agree (fun record form => record.form = form) test.record.outcome (Loose.record test.form) := by
  rw [Test.record, Traced.outcome_bind]
  show Agree _ _ (Loose.initialState (test.init.map assignmentForm) >>= fun state =>
    (test.threads.map threadForm).mapM (Loose.threadRecord state) >>= fun threads =>
    Loose.finalState test.condition.form >>= fun final => _)
  refine (initialState_form test.init).bind ?_
  rintro state _ rfl
  rw [Traced.outcome_bind, Traced.outcome_ofExcept]
  refine (Agree.mapM fun entry _ => threadRecord_form state entry).bind ?_
  rintro threads _ rfl
  rw [Traced.outcome_bind, Traced.outcome_ofExcept]
  refine (finalState_form test.condition).bind ?_
  rintro final _ rfl
  show Agree _ (.ok _) (Loose.sortedSymbols state.form >>= fun symbols => .ok (Form.node "LitmusRecord"
    [.text test.arch, .text test.name, .ofTextPairs test.info, .sequence symbols,
      .sequence (threads.map ThreadRecord.form), final.question.form]))
  rw [sortedSymbols_form, question_form]
  exact .ok rfl

/-! ## The text of a record -/

mutual

/-- A term stands for its text. -/
theorem plain_form : (term : Sexpr) → term.form.plain = .ok term.text
  | .atom text => by rw [Sexpr.text]; rfl
  | .list items => by
    rw [Sexpr.form, Form.plain, plainAll_forms items, Sexpr.text]
    rfl

theorem plainAll_forms : (items : List Sexpr) →
    Form.plainAll (sexprForms items) = .ok (Sexpr.texts items)
  | [] => by rw [Sexpr.texts]; rfl
  | item :: items => by
    rw [sexprForms, Form.plainAll, plain_form item, plainAll_forms items, Sexpr.texts]
    rfl

end

/-- Pieces that can all be written are written in full. -/
theorem written_ok (texts : List String) :
    Loose.written (texts.map .ok) = ⟨String.join texts, none⟩ := by
  induction texts with
  | nil => rfl
  | cons text texts ih => rw [List.map_cons, Loose.written, ih, String.join_cons]

theorem pairLine_form (key value : String) :
    Loose.pairLine key (.text value) = .ok (pairLine key value) := by
  have hopen : " = \"" = " = " ++ "\"" := rfl
  have hclose : "\"\n" = "\"" ++ "\n" := rfl
  show Except.ok (key ++ " = \"" ++ Text.escape value ++ "\"\n") = _
  rw [pairLine, Text.quote, hopen, hclose]
  simp only [String.append_assoc]

theorem lowerKey_form (key : String) : Loose.lowerKey (.text key) = .ok (Text.lowercaseAscii key) := by
  -- a character that is not ASCII has no lower case
  have hlower : ∀ c : Char, Loose.lowerPart (.text c.toString) = .ok c.toLower.toString := by
    intro c
    by_cases hc : c.toNat < 128
    · simp [Loose.lowerPart, hc, Text.lowercaseAscii]
    · have hsame : c.toLower = c :=
        dif_neg fun hupper => hc (Nat.lt_of_le_of_lt hupper.2 (by decide))
      simp [Loose.lowerPart, hc, hsame]
  have hparts : (key.toList.map fun c => Form.text c.toString).mapM Loose.lowerPart =
      .ok (key.toList.map fun c => c.toLower.toString)  :=
    mapM_map_eq_ok fun c _ => hlower c
  show ((key.toList.map fun c => Form.text c.toString).mapM Loose.lowerPart >>= fun parts =>
    pure (String.join parts)) = _
  rw [hparts]
  refine congrArg Except.ok (String.toList_inj.mp ?_)
  rw [Text.lowercaseAscii, String.toList_ofList]
  induction key.toList with
  | nil => rfl
  | cons c cs ih =>
    rw [List.map_cons, String.join_cons, String.toList_append, ih]
    simp

/-- The pieces of the text of a thread. -/
def ThreadRecord.pieces (thread : ThreadRecord) : List String := [
  "\n[thread." ++ toString thread.thread ++ "]\n",
  "init = \x7b " ++ String.intercalate ", " (thread.init.map fun pair =>
    pair.1 ++ " = \"" ++ pair.2 ++ "\"") ++ " \x7d\n",
  "code = \"\"\"\n" ++ thread.code ++ "\"\"\"\n"]

theorem join_threadPieces (thread : ThreadRecord) : String.join thread.pieces = thread.text := by
  unfold ThreadRecord.pieces ThreadRecord.text
  simp only [String.join_cons, String.join_nil, String.append_empty, String.append_assoc,
    -String.reduceAppend]

theorem threadPieces_form (thread : ThreadRecord) :
    Loose.threadPieces thread.form = thread.pieces.map .ok := by
  have hinit : (thread.init.map fun pair => Form.sequence [.text pair.1, .text pair.2]).mapM
      Loose.initText
      = .ok (thread.init.map fun pair => pair.1 ++ " = \"" ++ pair.2 ++ "\"") :=
    mapM_map_eq_ok fun _ _ => rfl
  show [_, ((thread.init.map fun pair => Form.sequence [.text pair.1, .text pair.2]).mapM
    Loose.initText >>= _), _] = _
  rw [hinit]
  rfl

/-- The pieces of the text of a record. -/
def Record.pieces (record : Record) : List String :=
  [pairLine "arch" record.arch, pairLine "name" record.name]
    ++ record.info.map (fun pair => pairLine (Text.lowercaseAscii pair.1) pair.2)
    ++ ["symbolic = [" ++ String.intercalate ", " (record.symbols.map Text.quote) ++ "]\n"]
    ++ record.threads.flatMap ThreadRecord.pieces
    ++ ["\n[final]\n", pairLine "expect" record.final.expect.word,
      pairLine "assertion" record.final.assertion.text]

theorem join_pieces (record : Record) : String.join record.pieces = record.text := by
  have hthreads : String.join (record.threads.flatMap ThreadRecord.pieces)
      = String.join (record.threads.map ThreadRecord.text) := by
    induction record.threads with
    | nil => rfl
    | cons thread threads ih =>
      rw [List.flatMap_cons, String.join_append, join_threadPieces, ih, List.map_cons, String.join_cons]
  simp only [Record.pieces, Record.text, String.join_append, String.join_cons, String.join_nil, hthreads,
    String.append_empty, String.append_assoc, -String.reduceAppend]

theorem pieces_form (record : Record) : Loose.pieces record.form = record.pieces.map .ok := by
  have hinfo : (record.info.map fun pair => Form.sequence [.text pair.1, .text pair.2]).flatMap
      (fun entry => [Loose.infoLine entry])
      = (record.info.map fun pair => pairLine (Text.lowercaseAscii pair.1) pair.2).map .ok := by
    have hline : ∀ pair : String × String, Loose.infoLine (.sequence [.text pair.1, .text pair.2])
        = .ok (pairLine (Text.lowercaseAscii pair.1) pair.2) := by
      intro pair
      show (Loose.lowerKey (.text pair.1) >>= fun key => Loose.pairLine key (.text pair.2)) = _
      rw [lowerKey_form]
      exact pairLine_form _ _
    rw [← List.map_eq_flatMap, List.map_map, List.map_map]
    exact List.map_congr_left fun pair _ => hline pair
  have hthreads : (record.threads.map ThreadRecord.form).flatMap Loose.threadPieces
      = (record.threads.flatMap ThreadRecord.pieces).map .ok := by
    rw [List.flatMap_map, List.map_flatMap]
    exact List.flatMap_congr fun thread _ => threadPieces_form thread
  have hsymbols : Loose.symbolsLine record.form
      = .ok ("symbolic = [" ++ String.intercalate ", " (record.symbols.map Text.quote) ++ "]\n") := by
    have hnames : (record.symbols.map Form.text).mapM
        (fun name => (Loose.escaped name).map fun name => "\"" ++ name ++ "\"")
        = .ok (record.symbols.map Text.quote) :=
      mapM_map_eq_ok fun _ _ => rfl
    show ((record.symbols.map Form.text).mapM (fun name => (Loose.escaped name).map fun name =>
      "\"" ++ name ++ "\"")).map (fun names => "symbolic = [" ++ String.intercalate ", " names ++ "]\n") = _
    rw [hnames]
    rfl
  show [Loose.pairLine "arch" (.text record.arch), Loose.pairLine "name" (.text record.name)]
    ++ (record.info.map fun pair => Form.sequence [.text pair.1, .text pair.2]).flatMap
      (fun entry => [Loose.infoLine entry])
    ++ [Loose.symbolsLine record.form]
    ++ (record.threads.map ThreadRecord.form).flatMap Loose.threadPieces
    ++ [.ok "\n[final]\n", Loose.pairLine "expect" (.text record.final.expect.word),
      (record.final.assertion.form.plain >>= fun assertion => Loose.pairLine "assertion" (.text assertion))]
    = _
  rw [hinfo, hthreads, hsymbols, pairLine_form, pairLine_form, pairLine_form, plain_form]
  show _ ++ [.ok "\n[final]\n", .ok (pairLine "expect" record.final.expect.word),
    Loose.pairLine "assertion" (.text record.final.assertion.text)] = _
  rw [pairLine_form, Record.pieces]
  simp only [List.map_append, List.map_cons, List.map_nil]

/-- The text of a record is written in full. -/
theorem write_form (record : Record) : Loose.write record.form = ⟨record.text, none⟩ := by
  rw [Loose.write, pieces_form, written_ok, join_pieces]

/-! ## Answers -/

/-- An answer with the wording of what is wrong. -/
def worded {α : Type} (answer : Except Misfit α) : Except String α :=
  answer.mapError Misfit.message

theorem Agree.worded {α : Type} {x : Except Unsupported α} {y : Except Misfit α}
    (h : Agree (· = ·) x y) : worded (Answer.ofTerm x) = Litmus.worded y := by
  cases h with
  | ok h => exact congrArg Except.ok h
  | error h => exact congrArg Except.error h.symm

theorem Agree.worded_map {α β : Type} {form : α → β} {x : Except Unsupported α} {y : Except Misfit β}
    (h : Agree (fun a b => form a = b) x y) :
    Litmus.worded ((Answer.ofTerm x).map form) = Litmus.worded y := by
  cases h with
  | ok h => exact congrArg Except.ok h
  | error h => exact congrArg Except.error h.symm

namespace Answer

/-! A form that is the form of a term is answered as it would be if it were none. -/

theorem resolved_form (location : Location) :
    worded (resolved location.form) = worded (Loose.resolve location.form) := by
  rw [resolved, Location.ofForm?_form]
  exact (Litmus.resolve_form location).worded_map

theorem locations_form (proposition : Proposition) :
    worded (locations proposition.form) = worded (Loose.locations proposition.form) := by
  rw [locations, Proposition.ofForm?_form]
  exact (Litmus.locations_form proposition).worded_map

theorem assertion_form (proposition : Proposition) :
    worded (assertion proposition.form) = worded (Loose.assertion proposition.form) := by
  rw [assertion, Proposition.ofForm?_form]
  exact (Litmus.assertion_form proposition).worded_map

theorem record_form (test : Test) :
    worded (record test.form) = worded (Loose.record test.form) := by
  rw [record, Test.ofForm?_form]
  exact (Litmus.record_form test).worded_map

theorem write_form (record : Record) : write record.form = Loose.write record.form := by
  rw [write, Record.ofForm?_form, Litmus.write_form]

/-- The text of the record of a test is the text that is written of its loose record. -/
theorem recordText_form (test : Test) :
    Agree (· = ·) test.recordText.outcome (Loose.record test.form >>= writtenText) := by
  rw [Test.recordText, Traced.outcome_bind]
  refine (Litmus.record_form test).bind ?_
  rintro record _ rfl
  rw [writtenText, write_form, Litmus.write_form]
  exact .ok rfl

theorem recordText_worded (test : Test) :
    worded (recordText test.form) = worded (Loose.record test.form >>= writtenText) := by
  rw [recordText, Test.ofForm?_form]
  exact (recordText_form test).worded

end Answer

end Litmus
