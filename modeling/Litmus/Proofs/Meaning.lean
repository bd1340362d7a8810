import Litmus.Proofs.Assertion

/-!
# The meaning of conditions and of assertions

A final state gives a value to every register of every thread and to every name in memory. This
module says, each time without the other, what it is for a proposition to hold in such a state and
what it is for a term of SMT-LIB to hold in it, and then ties the two together.

* **`Proposition.Holds`**, **`Condition.HoldsOf`**: the reading of the test. A location is looked up
  by what it is in the text of the test.
* **`Sexpr.Holds`**, **`FinalState.AnsweredBy`**: the reading of a solver. A location is looked up by
  the reference that stands in the term; `and` and `or` take any number of operands.
* **`assertion_holds_iff`**: a proposition and its assertion hold in the same states.
* **`finalState_holds_iff`**: a condition holds of a set of states exactly if the question that it
  comes down to has the expected answer there.
-/

namespace Litmus

universe u

/-! ## Final states -/

/-- What the registers and the names in memory hold when a test has run. -/
structure Store (V : Type u) where
  register : Int → String → V
  memory : String → V

section

variable {V : Type u} (value : String → V) (store : Store V)

/-- What a location of a test holds, if it is one that a final state has a value for. -/
def Store.at? : Location → Option V
  | .register thread name => some (store.register thread name)
  | .global (.symbolic name) => some (store.memory name)
  | _ => none

/-- What a resolved location holds. -/
def Store.resolved : Resolved → V
  | .register thread name => store.register thread name
  | .memory name => store.memory name

/-- The value of a constant: only numbers have one. -/
def Constant.value? : Constant → Option V
  | .concrete text => some (value text)
  | _ => none

/-! ## The reading of a test -/

mutual

/-- Whether a proposition is true of a final state. -/
def Proposition.Holds : Proposition → Prop
  | .holds location constant =>
    ∃ v, store.at? location = some v ∧ constant.value? value = some v
  | .agree left right => ∃ v, store.at? left = some v ∧ store.at? right = some v
  | .not operand => ¬ operand.Holds
  | .and operands => AllHold operands
  | .or operands => SomeHolds operands
  | .implies left right => left.Holds → right.Holds

/-- Whether every proposition of a list is true. -/
def AllHold : List Proposition → Prop
  | [] => True
  | operand :: operands => operand.Holds ∧ AllHold operands

/-- Whether some proposition of a list is true. -/
def SomeHolds : List Proposition → Prop
  | [] => False
  | operand :: operands => operand.Holds ∨ SomeHolds operands

end

/-- Whether a condition is true of a set of final states. -/
def Condition.HoldsOf (stores : Set (Store V)) : Condition → Prop
  | .someState body => ∃ store ∈ stores, body.Holds value store
  | .noState body => ¬ ∃ store ∈ stores, body.Holds value store
  | .everyState body => ∀ store ∈ stores, body.Holds value store

/-! ## The reading of a solver -/

mutual

/-- Whether an assertion is true of a final state. What is no assertion is true of none. -/
def Sexpr.Holds : Sexpr → Prop
  | .list [.atom "=", reference, .atom text] =>
    ∃ place, reference.reference? = some place ∧ store.resolved place = value text
  | .list [.atom "not", operand] => ¬ operand.Holds
  | .list (.atom "and" :: operands) => Sexpr.AllHold operands
  | .list (.atom "or" :: operands) => Sexpr.SomeHolds operands
  | .list [.atom "=>", left, right] => left.Holds → right.Holds
  | _ => False

/-- Whether every term of a list is true. -/
def Sexpr.AllHold : List Sexpr → Prop
  | [] => True
  | operand :: operands => operand.Holds ∧ Sexpr.AllHold operands

/-- Whether some term of a list is true. -/
def Sexpr.SomeHolds : List Sexpr → Prop
  | [] => False
  | operand :: operands => operand.Holds ∨ Sexpr.SomeHolds operands

end

/-- Whether a set of final states gives a question the answer that is expected: `sat` if one of the
states satisfies the assertion, `unsat` if none does. -/
def FinalState.AnsweredBy (stores : Set (Store V)) (state : FinalState) : Prop :=
  (state.expect = .sat ∧ ∃ store ∈ stores, state.assertion.Holds value store) ∨
    (state.expect = .unsat ∧ ¬ ∃ store ∈ stores, state.assertion.Holds value store)

end

/-! ## Assertions mean what their propositions mean -/

section

variable {V : Type u} {value : String → V} {store : Store V}

/-- A location that comes down to a register or a name holds what that holds. -/
theorem at?_of_resolve {location : Location} {place : Resolved}
    (h : location.resolve = .ok (some place)) :
    store.at? location = some (store.resolved place) := by
  cases location with
  | register thread name =>
    obtain rfl := Option.some.inj (Except.ok.inj h)
    rfl
  | symbolicRegister name => cases h
  | global address =>
    cases address with
    | symbolic name =>
      obtain rfl := Option.some.inj (Except.ok.inj h)
      rfl
    | concrete text => cases h
    | label thread name => cases h
  | cell base index => cases h

mutual

/-- **A proposition and its assertion are true of the same final states.** The statement is an
equivalence because a negation turns its two directions around. -/
theorem assertion_holds_iff : ∀ {proposition : Proposition} {assertion : Sexpr},
    proposition.assertion = .ok assertion →
      (assertion.Holds value store ↔ proposition.Holds value store)
  | .holds location constant, assertion, h => by
    obtain ⟨place, text, hplace, rfl, rfl⟩ := assertion_holds h
    rw [Sexpr.Holds, Proposition.Holds, reference?_term, at?_of_resolve hplace, Constant.value?]
    -- both sides compare what the one place holds with the value of the text
    constructor
    · rintro ⟨place', hplace', hvalue⟩
      obtain rfl := Option.some.inj hplace'
      exact ⟨store.resolved place, rfl, congrArg some hvalue.symm⟩
    · rintro ⟨v, hv, hvalue⟩
      exact ⟨place, rfl, (Option.some.inj hv).trans (Option.some.inj hvalue).symm⟩
  | .agree left right, assertion, h => (assertion_agree h).elim
  | .not operand, assertion, h => by
    obtain ⟨term, hterm, rfl⟩ := assertion_not h
    rw [Sexpr.Holds, Proposition.Holds, assertion_holds_iff hterm]
  | .and operands, assertion, h => by
    obtain ⟨terms, hterms, rfl⟩ := assertion_and h
    rw [Sexpr.Holds, Proposition.Holds]
    exact (assertions_hold_iff hterms).1
  | .or operands, assertion, h => by
    obtain ⟨terms, hterms, rfl⟩ := assertion_or h
    rw [Sexpr.Holds, Proposition.Holds]
    exact (assertions_hold_iff hterms).2
  | .implies left right, assertion, h => by
    obtain ⟨first, second, hfirst, hsecond, rfl⟩ := assertion_implies h
    rw [Sexpr.Holds, Proposition.Holds, assertion_holds_iff hfirst, assertion_holds_iff hsecond]

/-- The same for the operands of a conjunction or a disjunction. -/
theorem assertions_hold_iff : ∀ {operands : List Proposition} {terms : List Sexpr},
    assertionsOfAll operands = .ok terms →
      (Sexpr.AllHold value store terms ↔ AllHold value store operands) ∧
        (Sexpr.SomeHolds value store terms ↔ SomeHolds value store operands)
  | [], terms, h => by
    obtain rfl := assertionsOfAll_nil h
    rw [Sexpr.AllHold, AllHold, Sexpr.SomeHolds, SomeHolds]
    exact ⟨Iff.rfl, Iff.rfl⟩
  | operand :: operands, terms, h => by
    obtain ⟨first, rest, hfirst, hrest, rfl⟩ := assertionsOfAll_cons h
    obtain ⟨hall, hsome⟩ := assertions_hold_iff hrest
    rw [Sexpr.AllHold, AllHold, Sexpr.SomeHolds, SomeHolds, assertion_holds_iff hfirst, hall, hsome]
    exact ⟨Iff.rfl, Iff.rfl⟩

end

end

/-! ## Conditions mean what their questions mean -/

/-- **A condition holds of a set of final states exactly if the set gives its question the expected
answer.** -/
theorem finalState_holds_iff {V : Type u} (value : String → V) (stores : Set (Store V))
    {condition : Condition} {state : FinalState} (h : condition.finalState = .ok state) :
    condition.HoldsOf value stores ↔ state.AnsweredBy value stores := by
  cases condition with
  | someState body =>
    obtain ⟨-, -, -, hassertion, hexpect⟩ := ofProposition_eq_ok h
    simp only [FinalState.AnsweredBy, hexpect, assertion_holds_iff hassertion, Condition.HoldsOf]
    simp
  | noState body =>
    obtain ⟨-, -, -, hassertion, hexpect⟩ := ofProposition_eq_ok h
    simp only [FinalState.AnsweredBy, hexpect, assertion_holds_iff hassertion, Condition.HoldsOf]
    simp
  | everyState body =>
    obtain ⟨question, hquestion, h⟩ := bind_eq_ok.mp h
    obtain rfl := Except.ok.inj h
    obtain ⟨-, -, -, hassertion, hexpect⟩ := ofProposition_eq_ok hquestion
    -- no state satisfies the negation exactly if every state satisfies the proposition
    have hnot : ∀ store, (Sexpr.list [.atom "not", question.assertion]).Holds value store ↔
        ¬ body.Holds value store := by
      intro store
      rw [Sexpr.Holds, assertion_holds_iff hassertion]
    simp only [FinalState.AnsweredBy, hexpect, hnot, Condition.HoldsOf]
    simp

/-- The statement for `forall (0:r1 = 1 => x = 2)` and the states in which `x` holds 2. -/
theorem finalState_holds_iff_implication :
    (Condition.everyState (.implies (.holds (.register 0 "r1") (.concrete "1"))
        (.holds (.global (.symbolic "x")) (.concrete "2")))).finalState =
      .ok ⟨[⟨0, "output 0", "r1"⟩], .list [.atom "not", .list [.atom "=>",
        .list [.atom "=", .list [.atom "register", .atom "r1", .atom "0"], .atom "1"],
        .list [.atom "=", .list [.atom "last_write_to", .atom "x"], .atom "2"]]], .unsat⟩ ∧
    ((Condition.everyState (.implies (.holds (.register 0 "r1") (.concrete "1"))
        (.holds (.global (.symbolic "x")) (.concrete "2")))).HoldsOf
          id {store | store.memory "x" = "2"} ↔
      FinalState.AnsweredBy id {store | store.memory "x" = "2"}
        ⟨[⟨0, "output 0", "r1"⟩], .list [.atom "not", .list [.atom "=>",
          .list [.atom "=", .list [.atom "register", .atom "r1", .atom "0"], .atom "1"],
          .list [.atom "=", .list [.atom "last_write_to", .atom "x"], .atom "2"]]], .unsat⟩) := by
  refine ⟨rfl, ?_⟩
  exact finalState_holds_iff id {store | store.memory "x" = "2"} rfl

end Litmus
