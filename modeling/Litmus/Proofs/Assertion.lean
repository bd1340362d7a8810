import Litmus.FinalState
import Litmus.Proofs.Sequence
import Mathlib

/-!
# What assertions are made of

The assertion of a proposition follows the proposition: one list for each connective and each atom,
the atoms made of a reference and a value. This module says so constructor by constructor, in the
form in which it is used: *an assertion was made, so its operands were*.

* **`Resolved.term`** is the term for a resolved location, **`Sexpr.reference?`** reads such a term;
  reading undoes writing (`reference?_term`).
* **`assertion_not`**, …, **`assertionsOfAll_cons`**: what an assertion of each kind consists of.
-/

namespace Litmus

/-! ## References -/

/-- The term for what a resolved location holds in a final state. -/
def Resolved.term : Resolved → Sexpr
  | .register thread name => .list [.atom "register", .atom name, .atom (toString thread)]
  | .memory name => .list [.atom "last_write_to", .atom name]

/-- The resolved location that a term refers to. -/
def Sexpr.reference? : Sexpr → Option Resolved
  | .list [.atom "register", .atom name, .atom thread] =>
    thread.toInt?.map fun thread => .register thread name
  | .list [.atom "last_write_to", .atom name] => some (.memory name)
  | _ => none

/-- The term for a resolved location refers to that location: a thread is written in decimal, and
reading that back gives the thread. -/
@[simp] theorem reference?_term (place : Resolved) : place.term.reference? = some place := by
  cases place with
  | register thread name =>
    have hthread : (toString thread).toInt? = some thread := Int.toInt?_repr thread
    rw [Resolved.term, Sexpr.reference?, hthread]
    rfl
  | memory name => rfl

/-- The locations that an assertion can mention are those that come down to a register or a name. -/
theorem reference_eq_ok {location : Location} {term : Sexpr}
    (h : location.reference = .ok term) :
    ∃ place, location.resolve = .ok (some place) ∧ term = place.term := by
  rw [Location.reference] at h
  obtain ⟨place?, hplace, h⟩ := bind_eq_ok.mp h
  cases place? with
  | none => cases h
  | some place =>
    refine ⟨place, hplace, ?_⟩
    cases place with
    | register thread name => exact (Except.ok.inj h).symm
    | memory name => exact (Except.ok.inj h).symm

/-- The values that an assertion can mention are the numbers. -/
theorem term_eq_ok {constant : Constant} {term : Sexpr} (h : constant.term = .ok term) :
    ∃ text, constant = .concrete text ∧ term = .atom text := by
  cases constant with
  | concrete text => exact ⟨text, rfl, (Except.ok.inj h).symm⟩
  | symbolic name => cases h
  | label thread name => cases h

/-! ## Atoms and connectives -/

variable {assertion : Sexpr}

theorem assertion_holds {location : Location} {constant : Constant}
    (h : (Proposition.holds location constant).assertion = .ok assertion) :
    ∃ place text, location.resolve = .ok (some place) ∧ constant = .concrete text ∧
      assertion = .list [.atom "=", place.term, .atom text] := by
  rw [Proposition.assertion] at h
  obtain ⟨reference, hreference, h⟩ := bind_eq_ok.mp h
  obtain ⟨term, hterm, h⟩ := bind_eq_ok.mp h
  obtain ⟨place, hplace, rfl⟩ := reference_eq_ok hreference
  obtain ⟨text, htext, rfl⟩ := term_eq_ok hterm
  exact ⟨place, text, hplace, htext, (Except.ok.inj h).symm⟩

/-- Two locations compared with each other make no assertion. -/
theorem assertion_agree {left right : Location}
    (h : (Proposition.agree left right).assertion = .ok assertion) : False := by
  rw [Proposition.assertion] at h
  cases h

theorem assertion_not {operand : Proposition}
    (h : (Proposition.not operand).assertion = .ok assertion) :
    ∃ term, operand.assertion = .ok term ∧ assertion = .list [.atom "not", term] := by
  rw [Proposition.assertion] at h
  obtain ⟨term, hterm, h⟩ := bind_eq_ok.mp h
  exact ⟨term, hterm, (Except.ok.inj h).symm⟩

theorem assertion_and {operands : List Proposition}
    (h : (Proposition.and operands).assertion = .ok assertion) :
    ∃ terms, assertionsOfAll operands = .ok terms ∧ assertion = .list (.atom "and" :: terms) := by
  rw [Proposition.assertion] at h
  obtain ⟨terms, hterms, h⟩ := bind_eq_ok.mp h
  exact ⟨terms, hterms, (Except.ok.inj h).symm⟩

theorem assertion_or {operands : List Proposition}
    (h : (Proposition.or operands).assertion = .ok assertion) :
    ∃ terms, assertionsOfAll operands = .ok terms ∧ assertion = .list (.atom "or" :: terms) := by
  rw [Proposition.assertion] at h
  obtain ⟨terms, hterms, h⟩ := bind_eq_ok.mp h
  exact ⟨terms, hterms, (Except.ok.inj h).symm⟩

theorem assertion_implies {left right : Proposition}
    (h : (Proposition.implies left right).assertion = .ok assertion) :
    ∃ first second, left.assertion = .ok first ∧ right.assertion = .ok second ∧
      assertion = .list [.atom "=>", first, second] := by
  rw [Proposition.assertion] at h
  obtain ⟨first, hfirst, h⟩ := bind_eq_ok.mp h
  obtain ⟨second, hsecond, h⟩ := bind_eq_ok.mp h
  exact ⟨first, second, hfirst, hsecond, (Except.ok.inj h).symm⟩

theorem assertionsOfAll_nil {terms : List Sexpr} (h : assertionsOfAll [] = .ok terms) :
    terms = [] := by
  rw [assertionsOfAll] at h
  exact (Except.ok.inj h).symm

theorem assertionsOfAll_cons {operand : Proposition} {operands : List Proposition}
    {terms : List Sexpr} (h : assertionsOfAll (operand :: operands) = .ok terms) :
    ∃ first rest, operand.assertion = .ok first ∧ assertionsOfAll operands = .ok rest ∧
      terms = first :: rest := by
  rw [assertionsOfAll] at h
  obtain ⟨first, hfirst, h⟩ := bind_eq_ok.mp h
  obtain ⟨rest, hrest, h⟩ := bind_eq_ok.mp h
  exact ⟨first, rest, hfirst, hrest, (Except.ok.inj h).symm⟩

/-! ## Questions -/

/-- The question that a proposition comes down to asks for its assertion and has a slot for each
register that it mentions. -/
theorem ofProposition_eq_ok {proposition : Proposition} {expect : Verdict} {state : FinalState}
    (h : FinalState.ofProposition proposition expect = .ok state) :
    ∃ locations, proposition.locations = .ok locations ∧
      state.slots = slotsOf locations ∧
      proposition.assertion = .ok state.assertion ∧ state.expect = expect := by
  rw [FinalState.ofProposition] at h
  obtain ⟨locations, hlocations, h⟩ := bind_eq_ok.mp h
  obtain ⟨assertion, hassertion, h⟩ := bind_eq_ok.mp h
  obtain rfl := Except.ok.inj h
  exact ⟨locations, hlocations, rfl, hassertion, rfl⟩

end Litmus
