import Litmus.Record
import Litmus.Proofs.Shapes
import Litmus.Proofs.Slots

/-!
# What is refused

A test has no record if it holds something that records have no room for. The checks are spread over
the five walks that make a record: through the initial assignments, through the code of each thread,
and twice through the condition, once for its locations and once for its atoms. This module says what
they come to, in terms of the test alone.

* **`Location.initialRefusal?`**, **`Pseudo.holdsTemplate`**, **`Location.refusal?`** and
  **`Atom.refusal?`** are the four checks, with the texts that they answer.
* **`Test.refusal?`** puts them in their order: no check of a later kind counts as long as one of an
  earlier kind finds something, wherever in the test the two are.
* **`refusalIn_ofAssignments`**, **`refusalIn_listing`**, **`refusalIn_mentions`**,
  **`refusalIn_assertion`**: what each walk refuses.
* **`record_refusal`**: a record is refused with exactly the text of `Test.refusal?`, and made if
  there is none.
-/

namespace Litmus

/-! ## The checks -/

/-- Why an initial assignment to a location is refused. -/
def Location.initialRefusal? : Location → Option String
  | .register _ _ => none
  | .cell _ _ => none
  | .global (.symbolic _) => some "Symbolic location not supported in initial state"
  | location => some ("Register type in " ++ location.spelling ++ " not supported by LitSMT")

/-- Whether an entry of the code is a template, under any number of labels. -/
def Pseudo.holdsTemplate : Pseudo → Bool
  | .instruction _ => false
  | .nop => false
  | .labelled _ entry => entry.holdsTemplate
  | .templateCall _ _ => true
  | .symbolic _ => true

/-- Why a condition that mentions a location is refused, whatever the atom that mentions it. -/
def Location.refusal? : Location → Option String
  | .register _ _ => none
  | .cell _ _ => none
  | .global (.symbolic _) => none
  | location => some ("Register type in " ++ location.spelling ++ " not supported by LitSMT")

/-- An atom of a proposition. -/
inductive Atom where
  | holds (location : Location) (value : Constant)
  | agree (left right : Location)

/-- Why an atom is refused whose locations are not. Of an atom with a cell and no number, the cell is
what is refused. -/
def Atom.refusal? : Atom → Option String
  | .agree _ _ => some "LL atom not yet supported"
  | .holds (.cell _ _) _ => some "Invalid location in final state"
  | .holds _ (.concrete _) => none
  | .holds _ _ => some "Failed to compile value to SMT in litmus assertion"

mutual

/-- The atoms of a proposition, from left to right. -/
def Proposition.atoms : Proposition → List Atom
  | .holds location value => [.holds location value]
  | .agree left right => [.agree left right]
  | .not operand => operand.atoms
  | .and operands => atomsOfAll operands
  | .or operands => atomsOfAll operands
  | .implies left right => left.atoms ++ right.atoms

/-- The atoms of all propositions of a list. -/
def atomsOfAll : List Proposition → List Atom
  | [] => []
  | operand :: operands => operand.atoms ++ atomsOfAll operands

end

/-- Why a test is refused: for the first of its initial assignments that is, or for a template in its
code, or for the first location of its condition that is, or for the first atom. -/
def Test.refusal? (test : Test) : Option String :=
  (test.init.findSome? fun (location, _) => location.initialRefusal?).or
    ((if test.threads.any fun (_, code) => code.any Pseudo.holdsTemplate then
        some "Macro or Symbolic instruction found in litmus file" else none).or
      ((test.condition.body.places.findSome? Location.refusal?).or
        (test.condition.body.atoms.findSome? Atom.refusal?)))

/-! ## Refusals of computations -/

section

variable {α β : Type}

/-- The text with which a computation fails, if it does. -/
def refusalIn : Except Unsupported α → Option String
  | .error cause => some cause.message
  | .ok _ => none

@[simp] theorem refusalIn_ok (a : α) : refusalIn (.ok a) = none := rfl

@[simp] theorem refusalIn_error (cause : Unsupported) :
    refusalIn (.error cause : Except Unsupported α) = some cause.message := rfl

theorem refusalIn_eq_some {x : Except Unsupported α} {text : String} :
    refusalIn x = some text ↔ ∃ cause, x = .error cause ∧ cause.message = text := by
  cases x with
  | error cause => simp
  | ok a => simp

theorem refusalIn_eq_none {x : Except Unsupported α} : refusalIn x = none ↔ ∃ a, x = .ok a := by
  cases x with
  | error cause => simp
  | ok a => simp

/-- A sequence refuses what its first part refuses, or else what the second part refuses of a result
of the first. -/
theorem refusalIn_bind {x : Except Unsupported α} {f : α → Except Unsupported β}
    {refusal? : Option String} (h : ∀ a, x = .ok a → refusalIn (f a) = refusal?) :
    refusalIn (x >>= f) = (refusalIn x).or refusal? := by
  cases x with
  | error cause => rfl
  | ok a => exact h a rfl

/-- A second part that always gives a result refuses nothing. -/
theorem refusalIn_bind_of_ok {x : Except Unsupported α} {f : α → Except Unsupported β}
    (h : ∀ a, refusalIn (f a) = none) : refusalIn (x >>= f) = refusalIn x := by
  rw [refusalIn_bind fun a _ => h a, Option.or_none]

@[simp] theorem refusalIn_map (x : Except Unsupported α) (f : α → β) :
    refusalIn (x.map f) = refusalIn x := by
  cases x <;> rfl

/-- On a list, the first member that is refused decides. -/
theorem refusalIn_mapM (f : α → Except Unsupported β) (as : List α) :
    refusalIn (as.mapM f) = as.findSome? fun a => refusalIn (f a) := by
  induction as with
  | nil => rfl
  | cons a as ih =>
    have hrest : ∀ b, f a = .ok b → refusalIn (do
        let bs ← as.mapM f
        pure (b :: bs)) = refusalIn (as.mapM f) :=
      fun b _ => refusalIn_bind_of_ok fun bs => rfl
    rw [List.mapM_cons, List.findSome?_cons, refusalIn_bind hrest, ih]
    cases refusalIn (f a) <;> rfl

end

/-! ## Initial assignments -/

/-- The walk through the initial assignments. -/
theorem refusalIn_ofAssignments (assignments : List (Location × Constant)) :
    refusalIn (InitialState.ofAssignments assignments).outcome =
      assignments.findSome? fun (location, _) => location.initialRefusal? := by
  induction assignments with
  | nil => rfl
  | cons assignment assignments ih =>
    obtain ⟨location, constant⟩ := assignment
    rw [InitialState.ofAssignments, Traced.outcome_bind, Traced.outcome_ofExcept,
      List.findSome?_cons]
    cases location with
    | register thread name =>
      show refusalIn (Traced.outcome (_ >>= _)) = _
      rw [Traced.outcome_bind, refusalIn_bind_of_ok fun state => rfl, ih]
      rfl
    | symbolicRegister name => rfl
    | global address =>
      cases address with
      | concrete text => rfl
      | symbolic name => rfl
      | label thread name => rfl
    | cell base index =>
      show refusalIn (Traced.outcome (_ >>= _)) = _
      rw [Traced.outcome_bind, Traced.outcome_note, refusalIn_bind fun _ _ => ih]
      rfl

/-! ## Code -/

/-- The walk through an entry of the code. -/
theorem refusalIn_listing (entry : Pseudo) :
    refusalIn entry.listing = if entry.holdsTemplate then
      some "Macro or Symbolic instruction found in litmus file" else none := by
  induction entry with
  | instruction text => rfl
  | nop => rfl
  | labelled label entry ih =>
    rw [Pseudo.listing, Pseudo.holdsTemplate, refusalIn_bind_of_ok fun rest => rfl, ih]
  | templateCall name arguments => rfl
  | symbolic text => rfl

/-- The first of a list that has one and the same text, if some member has it. -/
theorem findSome?_ite {α : Type} (p : α → Bool) (text : String) (as : List α) :
    (as.findSome? fun a => if p a then some text else none) =
      if as.any p then some text else none := by
  induction as with
  | nil => rfl
  | cons a as ih =>
    rw [List.findSome?_cons, List.any_cons, ih]
    cases p a <;> rfl

/-- The walk through the code of all threads, whatever the initial state. -/
theorem refusalIn_threads (state : InitialState) (threads : List (Int × List Pseudo)) :
    refusalIn (threads.mapM fun (thread, code) => ThreadRecord.ofCode state thread code) =
      if threads.any fun (_, code) => code.any Pseudo.holdsTemplate then
        some "Macro or Symbolic instruction found in litmus file" else none := by
  have hthread : ∀ (thread : Int) (code : List Pseudo),
      refusalIn (ThreadRecord.ofCode state thread code) =
        if code.any Pseudo.holdsTemplate then
          some "Macro or Symbolic instruction found in litmus file" else none := by
    intro thread code
    rw [ThreadRecord.ofCode, refusalIn_bind_of_ok fun lines => rfl, listing,
      refusalIn_bind_of_ok fun lines => rfl, refusalIn_mapM]
    simp only [refusalIn_listing]
    exact findSome?_ite Pseudo.holdsTemplate _ code
  rw [refusalIn_mapM]
  simp only [hthread]
  exact findSome?_ite (fun (_, code) => code.any Pseudo.holdsTemplate) _ threads

/-! ## Locations of the condition -/

@[simp] theorem refusalIn_resolve (location : Location) :
    refusalIn location.resolve = location.refusal? := by
  cases location with
  | register thread name => rfl
  | symbolicRegister name => rfl
  | global address => cases address <;> rfl
  | cell base index => rfl

@[simp] theorem refusalIn_mention (location : Location) :
    refusalIn location.mention = location.refusal? := by
  rw [Location.mention, refusalIn_map, refusalIn_resolve]

mutual

/-- The first walk through a proposition: it is refused for the first location that is. -/
theorem refusalIn_mentions : ∀ proposition : Proposition,
    refusalIn proposition.mentions = proposition.places.findSome? Location.refusal?
  | .holds location _ => by
    rw [Proposition.mentions, Proposition.places, refusalIn_mention, List.findSome?_singleton]
  | .agree left right => by
    have hplaces : [left, right].findSome? Location.refusal? = left.refusal?.or right.refusal? := by
      show ([left] ++ [right]).findSome? Location.refusal? = _
      rw [List.findSome?_append, List.findSome?_singleton, List.findSome?_singleton]
    rw [Proposition.mentions, Proposition.places, hplaces, ← refusalIn_mention left,
      ← refusalIn_mention right]
    exact refusalIn_bind fun first _ => refusalIn_bind_of_ok fun second => rfl
  | .not operand => by
    rw [Proposition.mentions, Proposition.places, refusalIn_mentions]
  | .and operands => by
    rw [Proposition.mentions, Proposition.places, refusalIn_mentionsOfAll]
  | .or operands => by
    rw [Proposition.mentions, Proposition.places, refusalIn_mentionsOfAll]
  | .implies left right => by
    rw [Proposition.mentions, Proposition.places, List.findSome?_append, ← refusalIn_mentions left,
      ← refusalIn_mentions right]
    exact refusalIn_bind fun first _ => refusalIn_bind_of_ok fun second => rfl

theorem refusalIn_mentionsOfAll : ∀ operands : List Proposition,
    refusalIn (mentionsOfAll operands) = (placesOfAll operands).findSome? Location.refusal?
  | [] => rfl
  | operand :: operands => by
    rw [mentionsOfAll, placesOfAll, List.findSome?_append, ← refusalIn_mentions operand,
      ← refusalIn_mentionsOfAll operands]
    exact refusalIn_bind fun first _ => refusalIn_bind_of_ok fun rest => rfl

end

/-! ## Atoms of the condition -/

/-- An atom whose location is not refused is refused for what it is: the location is looked at before
the value. -/
theorem refusalIn_assertion_holds {location : Location} (value : Constant)
    (h : location.refusal? = none) :
    refusalIn (Proposition.holds location value).assertion =
      (Atom.holds location value).refusal? := by
  cases location with
  | register thread name => cases value <;> rfl
  | symbolicRegister name => cases h
  | global address =>
    cases address with
    | concrete text => cases h
    | symbolic name => cases value <;> rfl
    | label thread name => cases h
  | cell base index => rfl

/-- Nothing is found in two lists exactly if nothing is found in either. -/
theorem findSome?_append_eq_none {α β : Type} {f : α → Option β} {as bs : List α} :
    (as ++ bs).findSome? f = none ↔ as.findSome? f = none ∧ bs.findSome? f = none := by
  rw [List.findSome?_append, Option.or_eq_none_iff]

mutual

/-- The second walk through a proposition, which is made only if the first one finds nothing: it is
refused for the first atom that is. -/
theorem refusalIn_assertion : ∀ {proposition : Proposition},
    proposition.places.findSome? Location.refusal? = none →
      refusalIn proposition.assertion = proposition.atoms.findSome? Atom.refusal?
  | .holds location value, h => by
    rw [Proposition.places, List.findSome?_singleton] at h
    rw [refusalIn_assertion_holds value h, Proposition.atoms, List.findSome?_singleton]
  | .agree left right, h => by
    rw [Proposition.assertion, Proposition.atoms]
    rfl
  | .not operand, h => by
    rw [Proposition.places] at h
    rw [Proposition.assertion, Proposition.atoms, refusalIn_bind_of_ok fun term => rfl,
      refusalIn_assertion h]
  | .and operands, h => by
    rw [Proposition.places] at h
    rw [Proposition.assertion, Proposition.atoms, refusalIn_bind_of_ok fun terms => rfl,
      refusalIn_assertionsOfAll h]
  | .or operands, h => by
    rw [Proposition.places] at h
    rw [Proposition.assertion, Proposition.atoms, refusalIn_bind_of_ok fun terms => rfl,
      refusalIn_assertionsOfAll h]
  | .implies left right, h => by
    rw [Proposition.places] at h
    obtain ⟨hleft, hright⟩ := findSome?_append_eq_none.mp h
    rw [Proposition.assertion, Proposition.atoms, List.findSome?_append,
      ← refusalIn_assertion hleft, ← refusalIn_assertion hright]
    exact refusalIn_bind fun first _ => refusalIn_bind_of_ok fun second => rfl

theorem refusalIn_assertionsOfAll : ∀ {operands : List Proposition},
    (placesOfAll operands).findSome? Location.refusal? = none →
      refusalIn (assertionsOfAll operands) = (atomsOfAll operands).findSome? Atom.refusal?
  | [], _ => rfl
  | operand :: operands, h => by
    rw [placesOfAll] at h
    obtain ⟨hfirst, hrest⟩ := findSome?_append_eq_none.mp h
    rw [assertionsOfAll, atomsOfAll, List.findSome?_append, ← refusalIn_assertion hfirst,
      ← refusalIn_assertionsOfAll hrest]
    exact refusalIn_bind fun first _ => refusalIn_bind_of_ok fun rest => rfl

end

/-- Both walks, one after the other. -/
theorem refusalIn_ofProposition (proposition : Proposition) (expect : Verdict) :
    refusalIn (FinalState.ofProposition proposition expect) =
      (proposition.places.findSome? Location.refusal?).or
        (proposition.atoms.findSome? Atom.refusal?) := by
  have hlocations : refusalIn proposition.locations =
      proposition.places.findSome? Location.refusal? := by
    rw [Proposition.locations, refusalIn_map, refusalIn_mentions]
  rw [FinalState.ofProposition, refusalIn_bind, hlocations]
  intro locations h
  have hnone : proposition.places.findSome? Location.refusal? = none := by
    rw [← hlocations, h, refusalIn_ok]
  rw [refusalIn_bind_of_ok fun term => rfl, refusalIn_assertion hnone]

/-- The quantifier has no say. -/
theorem refusalIn_finalState (condition : Condition) :
    refusalIn condition.finalState =
      (condition.body.places.findSome? Location.refusal?).or
        (condition.body.atoms.findSome? Atom.refusal?) := by
  cases condition with
  | someState body => exact refusalIn_ofProposition body .sat
  | noState body => exact refusalIn_ofProposition body .unsat
  | everyState body =>
    rw [Condition.finalState, refusalIn_bind_of_ok fun state => rfl]
    exact refusalIn_ofProposition body .unsat

/-! ## Records -/

/-- The text with which a test is refused. -/
theorem refusalIn_record (test : Test) : refusalIn test.record.outcome = test.refusal? := by
  rw [Test.record, Test.refusal?, ← refusalIn_ofAssignments, ← refusalIn_finalState,
    Traced.outcome_bind]
  refine refusalIn_bind fun state _ => ?_
  rw [← refusalIn_threads state, Traced.outcome_bind, Traced.outcome_ofExcept]
  refine refusalIn_bind fun threads _ => ?_
  rw [Traced.outcome_bind, Traced.outcome_ofExcept]
  exact refusalIn_bind_of_ok fun final => rfl

/-- **A test is refused exactly for what it holds.** The text of a refusal is that of the first check
that finds something, and a record is made exactly if none does. -/
theorem record_refusal (test : Test) :
    (∀ text, (∃ cause, test.record.outcome = .error cause ∧ cause.message = text) ↔
      test.refusal? = some text) ∧
    ((∃ record, test.record.outcome = .ok record) ↔ test.refusal? = none) := by
  rw [← refusalIn_record]
  exact ⟨fun text => refusalIn_eq_some.symm, refusalIn_eq_none.symm⟩

/-- A location on the right comes before two compared locations on the left. -/
example : Test.refusal? ⟨"X86", "T", [], [(.cell (.label 0 "a") 0, .label 0 "a")], [(0, [.nop])],
    .noState (.and [.agree (.register 0 "EAX") (.register 1 "EAX"),
      .not (.holds (.symbolicRegister "r") (.concrete "1"))]), none⟩ =
    some "Register type in %r not supported by LitSMT" := by
  decide

end Litmus
