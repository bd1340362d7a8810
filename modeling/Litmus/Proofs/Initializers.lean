import Litmus.Proofs.Refusals

/-!
# The initial part of a record

A record lists what the registers of each thread start with, and the symbolic names among these
values. This module says both in terms of the initial assignments of the test, and then compares the
records of two tests that differ in their initial assignments only.

* **`assignmentsTo`** picks out the assignments to the registers of one thread; **`LastAssigned`** says
  which of them counts for a register.
* **`ofAssignments_eq_ok`**: an initial state is what two passes over the assignments pick out, one for
  the symbolic names and one for the registers.
* **`StartsAs`** is the specification of the initial part, **`startsAs_of_record`** that every record
  meets it. Writing the initial values of a thread one after the other leaves each register with the
  last one (`replay_initialTexts`).
* **`SameStart`**: assignments that differ in cells, and in how the assignments to different threads
  are shuffled. They give the same record (`record_of_sameStart`).
-/

namespace Litmus

/-! ## Assignments to the registers of a thread -/

/-- The text of the value that a constant gives to a register. -/
def Constant.initialText : Constant → String
  | .concrete text => text
  | .symbolic name => name
  | .label _ name => name ++ ":"

/-- What an assignment gives to a register of a thread, if it does. -/
def givenTo (thread : Int) : Location × Constant → Option (String × Constant)
  | (.register other register, constant) =>
    if other = thread then some (register, constant) else none
  | _ => none

/-- The assignments to the registers of a thread, in order. -/
def assignmentsTo (thread : Int) (assignments : List (Location × Constant)) :
    List (String × Constant) :=
  assignments.filterMap (givenTo thread)

/-- Of the assignments to a register, the last one gives it this constant. -/
def LastAssigned (assignments : List (Location × Constant)) (thread : Int) (register : String)
    (constant : Constant) : Prop :=
  ∃ before after, assignments = before ++ (.register thread register, constant) :: after ∧
    ∀ other, (.register thread register, other) ∉ after

/-- What the registers hold after initial values have been written one after the other. -/
def replay (values : List (String × String)) : String → Option String :=
  values.foldl (fun held (register, text) => Function.update held register (some text)) fun _ => none

/-- Whether an assignment is one to a cell. -/
def isCell : Location × Constant → Bool
  | (.cell _ _, _) => true
  | _ => false

/-- The assignments that are not to cells, in order. -/
def withoutCells (assignments : List (Location × Constant)) : List (Location × Constant) :=
  assignments.filter fun assignment => !isCell assignment

/-! ## Initial states -/

/-- The symbolic name that an assignment gives to a register, if it does. -/
def symbol? : Location × Constant → Option String
  | (.register _ _, .symbolic name) => some name
  | _ => none

/-- The initializer that an assignment is, if it is one to a register. -/
def initializer? : Location × Constant → Option Initializer
  | (.register thread register, constant) => some ⟨thread, register, constant.registerValue⟩
  | _ => none

/-- What an assignment to a register adds to the initial state of the assignments behind it. -/
theorem ofAssignments_register (thread : Int) (register : String) (constant : Constant)
    (assignments : List (Location × Constant)) :
    (InitialState.ofAssignments ((.register thread register, constant) :: assignments)).outcome = do
      let state ← (InitialState.ofAssignments assignments).outcome
      return ⟨InitialState.withSymbol state.symbols constant,
        ⟨thread, register, constant.registerValue⟩ :: state.registers⟩ := by
  rw [InitialState.ofAssignments, Traced.outcome_bind]
  exact Traced.outcome_bind _ _

/-- An assignment to a cell adds nothing. -/
theorem ofAssignments_cell (base : Constant) (index : Int) (constant : Constant)
    (assignments : List (Location × Constant)) :
    (InitialState.ofAssignments ((.cell base index, constant) :: assignments)).outcome =
      (InitialState.ofAssignments assignments).outcome := by
  rw [InitialState.ofAssignments, Traced.outcome_bind]
  exact Traced.outcome_bind _ _

/-- A symbolic value puts its name among the names, every other value none. -/
theorem withSymbol_namesOf (thread : Int) (register : String) (constant : Constant)
    (assignments : List (Location × Constant)) :
    InitialState.withSymbol (namesOf (assignments.filterMap symbol?)) constant =
      namesOf (((.register thread register, constant) :: assignments).filterMap symbol?) := by
  cases constant <;> rfl

/-- **An initial state in terms of its assignments.** The recursion over the assignments is two passes
over them. -/
theorem ofAssignments_eq_ok {assignments : List (Location × Constant)} {state : InitialState}
    (h : (InitialState.ofAssignments assignments).outcome = .ok state) :
    state = ⟨namesOf (assignments.filterMap symbol?), assignments.filterMap initializer?⟩ := by
  induction assignments generalizing state with
  | nil => exact (Except.ok.inj h).symm
  | cons assignment assignments ih =>
    obtain ⟨location, constant⟩ := assignment
    cases location with
    | register thread register =>
      rw [ofAssignments_register] at h
      obtain ⟨rest, hrest, h⟩ := bind_eq_ok.mp h
      obtain rfl := ih hrest
      obtain rfl := Except.ok.inj h
      rw [← withSymbol_namesOf thread register]
      rfl
    | cell base index =>
      rw [ofAssignments_cell] at h
      exact ih h
    | symbolicRegister name => cases h
    | global address => cases address <;> cases h

/-- The initial values of a thread are those of the assignments to its registers. -/
theorem ofThread_eq (names : List String) (assignments : List (Location × Constant)) (thread : Int) :
    InitialState.ofThread ⟨names, assignments.filterMap initializer?⟩ thread =
      (assignmentsTo thread assignments).map fun (register, constant) =>
        (register, constant.initialText) := by
  have htext : ∀ constant : Constant, constant.registerValue.text = constant.initialText := by
    intro constant
    cases constant <;> rfl
  rw [InitialState.ofThread, assignmentsTo, List.filter_filterMap, List.map_filterMap,
    List.map_filterMap]
  refine List.filterMap_congr ?_
  rintro ⟨location, constant⟩ -
  cases location with
  | register other register =>
    by_cases h : other = thread <;> simp [initializer?, givenTo, Option.filter, h, htext]
  | symbolicRegister name => rfl
  | global address => rfl
  | cell base index => rfl

/-! ## Records in terms of initial states -/

/-- The record of a test with a given initial state. -/
def Test.recordWith (test : Test) (state : InitialState) : Except Unsupported Record := do
  let threads ← test.threads.mapM fun (thread, code) => ThreadRecord.ofCode state thread code
  let final ← test.condition.finalState
  return ⟨test.arch, test.name, test.info, state.symbols, threads, final⟩

/-- Making a record is making an initial state first; the rest looks at nothing else of the
assignments. -/
theorem record_outcome (test : Test) :
    test.record.outcome =
      (InitialState.ofAssignments test.init).outcome >>= test.recordWith := by
  have hrest : ∀ state : InitialState, Traced.outcome (do
      let threads ← Traced.ofExcept
        (test.threads.mapM fun (thread, code) => ThreadRecord.ofCode state thread code)
      let final ← Traced.ofExcept test.condition.finalState
      Traced.note (.outputs test.name final.slotSymbols final.expect.word)
      return ⟨test.arch, test.name, test.info, state.symbols, threads, final⟩) =
        test.recordWith state := by
    intro state
    rw [Traced.outcome_bind, Traced.outcome_ofExcept, Test.recordWith]
    refine congrArg (_ >>= ·) (funext fun threads => ?_)
    rw [Traced.outcome_bind, Traced.outcome_ofExcept]
    rfl
  rw [Test.record, Traced.outcome_bind]
  exact congrArg (_ >>= ·) (funext hrest)

/-- Two initial states with the same names and the same values for each thread make the same record,
whatever the order in which they list the values of different threads. -/
theorem recordWith_congr (test : Test) {state state' : InitialState}
    (hsymbols : state.symbols = state'.symbols)
    (hthreads : ∀ thread, state.ofThread thread = state'.ofThread thread) :
    test.recordWith state = test.recordWith state' := by
  have hcode : ∀ thread code,
      ThreadRecord.ofCode state thread code = ThreadRecord.ofCode state' thread code := by
    intro thread code
    rw [ThreadRecord.ofCode, ThreadRecord.ofCode, hthreads]
  simp only [Test.recordWith, hcode, hsymbols]

/-- The parts of which a record is made. -/
theorem recordWith_eq_ok {test : Test} {state : InitialState} {record : Record}
    (h : test.recordWith state = .ok record) :
    ∃ threads final,
      List.Forall₂ (fun code thread => ThreadRecord.ofCode state code.1 code.2 = .ok thread)
        test.threads threads ∧
      test.condition.finalState = .ok final ∧
      record = ⟨test.arch, test.name, test.info, state.symbols, threads, final⟩ := by
  rw [Test.recordWith] at h
  obtain ⟨threads, hthreads, h⟩ := bind_eq_ok.mp h
  obtain ⟨final, hfinal, h⟩ := bind_eq_ok.mp h
  exact ⟨threads, final, mapM_eq_ok_iff.mp hthreads, hfinal, (Except.ok.inj h).symm⟩

/-- The record of a thread names the thread and what its registers start with. -/
theorem ofCode_eq_ok {state : InitialState} {thread : Int} {code : List Pseudo}
    {record : ThreadRecord} (h : ThreadRecord.ofCode state thread code = .ok record) :
    ∃ lines, listing code = .ok lines ∧ record = ⟨thread, state.ofThread thread, lines⟩ := by
  rw [ThreadRecord.ofCode] at h
  obtain ⟨lines, hlines, h⟩ := bind_eq_ok.mp h
  exact ⟨lines, hlines, (Except.ok.inj h).symm⟩

/-! ## Replaying -/

/-- One more value at the end overwrites what its register holds. -/
theorem replay_concat (values : List (String × String)) (register text : String) :
    replay (values ++ [(register, text)]) =
      Function.update (replay values) register (some text) := by
  rw [replay, List.foldl_append]
  rfl

/-- An assignment at the end counts if it is to the register, and otherwise those before it do. -/
theorem lastAssigned_concat {assignments : List (Location × Constant)}
    {assignment : Location × Constant} {thread : Int} {register : String} {constant : Constant} :
    LastAssigned (assignments ++ [assignment]) thread register constant ↔
      assignment = (.register thread register, constant) ∨
        (∀ other, assignment ≠ (.register thread register, other)) ∧
          LastAssigned assignments thread register constant := by
  constructor
  · rintro ⟨before, after, heq, hafter⟩
    rcases List.eq_nil_or_concat after with rfl | ⟨after, last, rfl⟩
    · obtain ⟨-, hlast⟩ := List.append_inj' heq rfl
      exact .inl (List.cons.inj hlast).1
    · rw [List.concat_eq_append] at heq hafter
      have heq' : assignments ++ [assignment] =
          (before ++ (.register thread register, constant) :: after) ++ [last] := by
        rw [heq]
        simp
      obtain ⟨rfl, hlast⟩ := List.append_inj' heq' rfl
      obtain rfl := (List.cons.inj hlast).1
      refine .inr ⟨?_, before, after, rfl, fun other h => hafter other (by simp [h])⟩
      rintro other rfl
      exact hafter other (by simp)
  · rintro (rfl | ⟨hother, before, after, rfl, hafter⟩)
    · exact ⟨assignments, [], rfl, by simp⟩
    · refine ⟨before, after ++ [assignment], by simp, ?_⟩
      intro other h
      rcases List.mem_append.mp h with h | h
      · exact hafter other h
      · exact hother other (List.mem_singleton.mp h).symm

/-- The initial values of a thread, as a record lists them. -/
def initialTexts (thread : Int) (assignments : List (Location × Constant)) :
    List (String × String) :=
  (assignmentsTo thread assignments).map fun (register, constant) =>
    (register, constant.initialText)

theorem givenTo_eq_some {thread : Int} {assignment : Location × Constant} {register : String}
    {constant : Constant} :
    givenTo thread assignment = some (register, constant) ↔
      assignment = (.register thread register, constant) := by
  obtain ⟨location, value⟩ := assignment
  cases location with
  | register other name =>
    by_cases h : other = thread <;> simp [givenTo, h]
  | symbolicRegister name => simp [givenTo]
  | global address => simp [givenTo]
  | cell base index => simp [givenTo]

/-- An assignment that gives the thread nothing lists nothing. -/
theorem initialTexts_concat_of_none {thread : Int} {assignment : Location × Constant}
    (h : givenTo thread assignment = none) (assignments : List (Location × Constant)) :
    initialTexts thread (assignments ++ [assignment]) = initialTexts thread assignments := by
  simp [initialTexts, assignmentsTo, h]

theorem initialTexts_concat_register (thread : Int) (register : String) (constant : Constant)
    (assignments : List (Location × Constant)) :
    initialTexts thread (assignments ++ [(.register thread register, constant)]) =
      initialTexts thread assignments ++ [(register, constant.initialText)] := by
  simp [initialTexts, assignmentsTo, givenTo]

/-- Writing the initial values of a thread one after the other leaves each register with the one that
is assigned last. Induction from the end of the assignments, where both sides look first. -/
theorem replay_initialTexts (thread : Int) (assignments : List (Location × Constant))
    (register text : String) :
    replay (initialTexts thread assignments) register = some text ↔
      ∃ constant, LastAssigned assignments thread register constant ∧
        constant.initialText = text := by
  induction assignments using List.reverseRecOn with
  | nil =>
    have hnone : ∀ constant, ¬ LastAssigned [] thread register constant := by
      rintro constant ⟨before, after, heq, -⟩
      simp at heq
    constructor
    · intro h
      cases h
    · rintro ⟨constant, hlast, -⟩
      exact absurd hlast (hnone constant)
  | append_singleton assignments assignment ih =>
    cases hgiven : givenTo thread assignment with
    | none =>
      have hother : ∀ constant, assignment ≠ (.register thread register, constant) := by
        intro constant h
        rw [givenTo_eq_some.mpr h] at hgiven
        cases hgiven
      rw [initialTexts_concat_of_none hgiven, ih]
      simp [lastAssigned_concat, hother]
    | some given =>
      obtain ⟨name, value⟩ := given
      obtain rfl := givenTo_eq_some.mp hgiven
      rw [initialTexts_concat_register, replay_concat, Function.update_apply]
      by_cases h : register = name
      · subst h
        simp [lastAssigned_concat]
      · have hname : name ≠ register := Ne.symm h
        rw [if_neg h, ih]
        simp [lastAssigned_concat, hname]

/-! ## The initial part of a record -/

/-- The initial part of a record is that of a test. -/
structure StartsAs (test : Test) (record : Record) : Prop where
  /-- The threads are those of the test, in order. -/
  threads : record.threads.map (·.thread) = test.threads.map (·.1)
  /-- A thread starts with the values of the assignments to its registers, in order and with
  repetitions. -/
  init : ∀ thread ∈ record.threads, thread.init = initialTexts thread.thread test.init
  /-- Writing them one after the other leaves each register with the value that is assigned last. -/
  last : ∀ thread ∈ record.threads, ∀ register text,
    replay thread.init register = some text ↔
      ∃ constant, LastAssigned test.init thread.thread register constant ∧
        constant.initialText = text
  /-- The symbolic names are in increasing order, each once. -/
  increasing : record.symbols.Pairwise (· < ·)
  /-- They are the symbolic values of registers. -/
  mem_symbols : ∀ name, name ∈ record.symbols ↔
    ∃ thread register, (Location.register thread register, Constant.symbolic name) ∈ test.init

theorem symbol?_eq_some {assignment : Location × Constant} {name : String} :
    symbol? assignment = some name ↔
      ∃ thread register, assignment = (.register thread register, .symbolic name) := by
  obtain ⟨location, constant⟩ := assignment
  cases location with
  | register thread register => cases constant <;> simp [symbol?]
  | symbolicRegister name => simp [symbol?]
  | global address => simp [symbol?]
  | cell base index => simp [symbol?]

/-- The names that an initial state collects are the symbolic values of registers. -/
theorem mem_filterMap_symbol? {assignments : List (Location × Constant)} {name : String} :
    name ∈ assignments.filterMap symbol? ↔
      ∃ thread register, (Location.register thread register, Constant.symbolic name) ∈ assignments := by
  simp [symbol?_eq_some]

/-- What a record says of a thread is what its initial state does. -/
theorem initial_of_forall₂ {state : InitialState} {codes : List (Int × List Pseudo)}
    {threads : List ThreadRecord}
    (h : List.Forall₂ (fun code thread => ThreadRecord.ofCode state code.1 code.2 = .ok thread)
      codes threads) :
    threads.map (·.thread) = codes.map (·.1) ∧
      ∀ thread ∈ threads, thread.init = state.ofThread thread.thread := by
  induction h with
  | nil => simp
  | cons hcode _ ih =>
    obtain ⟨lines, -, rfl⟩ := ofCode_eq_ok hcode
    refine ⟨by rw [List.map_cons, List.map_cons, ih.1], ?_⟩
    exact List.forall_mem_cons.mpr ⟨rfl, ih.2⟩

/-- Every record has the initial part of its test. -/
theorem startsAs_of_record {test : Test} {record : Record}
    (h : test.record.outcome = .ok record) : StartsAs test record := by
  rw [record_outcome] at h
  obtain ⟨state, hstate, h⟩ := bind_eq_ok.mp h
  obtain rfl := ofAssignments_eq_ok hstate
  obtain ⟨threads, final, hthreads, -, rfl⟩ := recordWith_eq_ok h
  obtain ⟨hmap, hinit⟩ := initial_of_forall₂ hthreads
  have htexts : ∀ thread ∈ threads, thread.init = initialTexts thread.thread test.init := by
    intro thread hthread
    rw [hinit thread hthread, ofThread_eq, initialTexts]
  refine ⟨hmap, htexts, ?_, pairwise_namesOf _, fun name => ?_⟩
  · intro thread hthread register text
    rw [htexts thread hthread]
    exact replay_initialTexts thread.thread test.init register text
  · rw [mem_namesOf, mem_filterMap_symbol?]

/-! ## Tests that differ in their initial assignments -/

/-- Without their cells, the two lists hold the same assignments, and those to the registers of each
thread stand in the same order. -/
structure SameStart (first second : List (Location × Constant)) : Prop where
  perm : (withoutCells first).Perm (withoutCells second)
  threads : ∀ thread, assignmentsTo thread first = assignmentsTo thread second

/-- Cells make no difference to an initial state, not even to what is refused. -/
theorem ofAssignments_withoutCells (assignments : List (Location × Constant)) :
    (InitialState.ofAssignments (withoutCells assignments)).outcome =
      (InitialState.ofAssignments assignments).outcome := by
  induction assignments with
  | nil => rfl
  | cons assignment assignments ih =>
    obtain ⟨location, constant⟩ := assignment
    cases location with
    | register thread register =>
      rw [ofAssignments_register, ← ih]
      exact ofAssignments_register thread register constant (withoutCells assignments)
    | symbolicRegister name => rfl
    | global address => cases address <;> rfl
    | cell base index =>
      rw [ofAssignments_cell, ← ih]
      rfl

/-- A test with the same assignments up to cells has the same record, or is refused for the same
cause. -/
theorem record_withoutCells (test : Test) {assignments : List (Location × Constant)}
    (h : withoutCells assignments = withoutCells test.init) :
    ({ test with init := assignments } : Test).record.outcome = test.record.outcome := by
  rw [record_outcome, record_outcome, ← ofAssignments_withoutCells, h, ofAssignments_withoutCells]
  rfl

/-- A set of names is that of its members. -/
theorem namesOf_congr {names others : List String} (h : ∀ name, name ∈ names ↔ name ∈ others) :
    namesOf names = namesOf others := by
  have hnodup : ∀ names : List String, (namesOf names).Nodup := fun names =>
    (pairwise_namesOf names).imp fun h => ne_of_lt h
  have hperm : (namesOf names).Perm (namesOf others) := by
    refine (List.perm_ext_iff_of_nodup (hnodup names) (hnodup others)).mpr fun name => ?_
    rw [mem_namesOf, mem_namesOf, h]
  exact hperm.eq_of_pairwise (fun a b _ _ hab hba => absurd hab (lt_asymm hba))
    (pairwise_namesOf names) (pairwise_namesOf others)

theorem SameStart.symm {first second : List (Location × Constant)} (h : SameStart first second) :
    SameStart second first :=
  ⟨h.perm.symm, fun thread => (h.threads thread).symm⟩

/-- Where cells are shuffled among the assignments, the others stay. -/
theorem SameStart.mem_iff {first second : List (Location × Constant)} (h : SameStart first second)
    {assignment : Location × Constant} (hcell : isCell assignment = false) :
    assignment ∈ first ↔ assignment ∈ second := by
  have hfilter : ∀ assignments : List (Location × Constant),
      assignment ∈ withoutCells assignments ↔ assignment ∈ assignments := by
    intro assignments
    simp [withoutCells, hcell]
  rw [← hfilter first, h.perm.mem_iff, hfilter second]

/-- None of the assignments is refused if none of the others is. -/
theorem SameStart.accepted {first second : List (Location × Constant)} (h : SameStart first second)
    {state : InitialState} (hstate : (InitialState.ofAssignments first).outcome = .ok state) :
    ∃ state', (InitialState.ofAssignments second).outcome = .ok state' := by
  have hfirst : ∀ assignment ∈ first, assignment.1.initialRefusal? = none := by
    rw [← List.findSome?_eq_none_iff, ← refusalIn_ofAssignments, refusalIn_eq_none]
    exact ⟨state, hstate⟩
  rw [← refusalIn_eq_none, refusalIn_ofAssignments, List.findSome?_eq_none_iff]
  intro assignment hassignment
  cases hcell : isCell assignment with
  | false => exact hfirst assignment ((h.mem_iff hcell).mpr hassignment)
  | true =>
    obtain ⟨location, constant⟩ := assignment
    cases location with
    | cell base index => rfl
    | register thread register => cases hcell
    | symbolicRegister name => cases hcell
    | global address => cases hcell

/-- The same record is made from either list of assignments. -/
theorem record_of_sameStart (test : Test) {first second : List (Location × Constant)}
    (h : SameStart first second) {record : Record}
    (hrecord : ({ test with init := first } : Test).record.outcome = .ok record) :
    ({ test with init := second } : Test).record.outcome = .ok record := by
  rw [record_outcome] at hrecord ⊢
  obtain ⟨state, hstate, hrecord⟩ := bind_eq_ok.mp hrecord
  obtain ⟨state', hstate'⟩ := h.accepted hstate
  refine bind_eq_ok.mpr ⟨state', hstate', ?_⟩
  obtain rfl := ofAssignments_eq_ok hstate
  obtain rfl := ofAssignments_eq_ok hstate'
  -- the names are the same set, and the values are the same for each thread
  have hsymbols : namesOf (second.filterMap symbol?) = namesOf (first.filterMap symbol?) := by
    refine namesOf_congr fun name => ?_
    rw [mem_filterMap_symbol?, mem_filterMap_symbol?]
    exact exists_congr fun thread => exists_congr fun register => (h.mem_iff rfl).symm
  have hthreads : ∀ thread,
      InitialState.ofThread
        ⟨namesOf (second.filterMap symbol?), second.filterMap initializer?⟩ thread =
      InitialState.ofThread
        ⟨namesOf (first.filterMap symbol?), first.filterMap initializer?⟩ thread := by
    intro thread
    rw [ofThread_eq, ofThread_eq, h.threads]
  rw [← hrecord]
  exact recordWith_congr test hsymbols hthreads

/-- **The initial part of a record.** Every record has the initial part of its test. Putting cells
among the initial assignments or taking them out changes nothing, not even what is refused; shuffling
the assignments without changing the order of those to one thread gives the same record. -/
theorem record_initial :
    (∀ (test : Test) (record : Record), test.record.outcome = .ok record →
      StartsAs test record) ∧
    (∀ (test : Test) (assignments : List (Location × Constant)),
      withoutCells assignments = withoutCells test.init →
        ({ test with init := assignments } : Test).record.outcome = test.record.outcome) ∧
    (∀ (test : Test) (assignments : List (Location × Constant)), SameStart assignments test.init →
      ∀ record, ({ test with init := assignments } : Test).record.outcome = .ok record ↔
        test.record.outcome = .ok record) := by
  refine ⟨fun test record => startsAs_of_record, fun test assignments => record_withoutCells test, ?_⟩
  intro test assignments h record
  constructor
  · exact record_of_sameStart test h
  · exact record_of_sameStart test h.symm

/-- The statement for `0:a=y; t[0]=z; 1:a=1; 0:a=x; 1:b=0:l`: the name of the cell is no name of the
record, `a` starts with `x` in thread 0, and the assignments to thread 1 can come first. -/
theorem record_initial_shuffled :
    StartsAs
      ⟨"X86", "T", [], [(.register 0 "a", .symbolic "y"), (.cell (.symbolic "t") 0, .symbolic "z"),
        (.register 1 "a", .concrete "1"), (.register 0 "a", .symbolic "x"),
        (.register 1 "b", .label 0 "l")], [(0, []), (1, [])], .someState (.and []), none⟩
      ⟨"X86", "T", [], ["x", "y"], [⟨0, [("a", "y"), ("a", "x")], ""⟩,
        ⟨1, [("a", "1"), ("b", "l:")], ""⟩], ⟨[], .list [.atom "and"], .sat⟩⟩ ∧
    (⟨"X86", "T", [], [(.register 0 "a", .symbolic "x")], [(0, [])], .someState (.and []),
        none⟩ : Test).record.outcome =
      (⟨"X86", "T", [], [(.cell (.symbolic "t") 0, .symbolic "z"),
        (.register 0 "a", .symbolic "x")], [(0, [])], .someState (.and []),
        none⟩ : Test).record.outcome ∧
    (⟨"X86", "T", [], [(.register 1 "a", .concrete "1"), (.register 1 "b", .label 0 "l"),
        (.register 0 "a", .symbolic "y"), (.register 0 "a", .symbolic "x")], [(0, []), (1, [])],
        .someState (.and []), none⟩ : Test).record.outcome =
      .ok ⟨"X86", "T", [], ["x", "y"], [⟨0, [("a", "y"), ("a", "x")], ""⟩,
        ⟨1, [("a", "1"), ("b", "l:")], ""⟩], ⟨[], .list [.atom "and"], .sat⟩⟩ := by
  refine ⟨record_initial.1 _ _ rfl, record_initial.2.1
    ⟨"X86", "T", [], [(.cell (.symbolic "t") 0, .symbolic "z"), (.register 0 "a", .symbolic "x")],
      [(0, [])], .someState (.and []), none⟩ [(.register 0 "a", .symbolic "x")] (by decide), ?_⟩
  refine (record_initial.2.2
    ⟨"X86", "T", [], [(.register 0 "a", .symbolic "y"), (.cell (.symbolic "t") 0, .symbolic "z"),
      (.register 1 "a", .concrete "1"), (.register 0 "a", .symbolic "x"),
      (.register 1 "b", .label 0 "l")], [(0, []), (1, [])], .someState (.and []), none⟩
    _ ⟨by decide, fun thread => ?_⟩ _).mpr rfl
  rcases eq_or_ne thread 0 with rfl | hzero
  · rfl
  · rcases eq_or_ne thread 1 with rfl | hone
    · rfl
    · simp [assignmentsTo, givenTo, hzero.symm, hone.symm]

end Litmus
