import Litmus.Location

/-!
# Propositions and conditions

What a test claims of its final states: a proposition over the values of locations under one of
three quantifiers. Conjunctions and disjunctions have any number of operands; the empty ones are
the propositions *true* and *false*.
-/

namespace Litmus

/-- A statement about one final state. -/
inductive Proposition where
  /-- The location holds the constant. -/
  | holds (location : Location) (value : Constant)
  /-- The two locations hold the same. -/
  | agree (left right : Location)
  | not (operand : Proposition)
  | and (operands : List Proposition)
  | or (operands : List Proposition)
  | implies (left right : Proposition)
deriving Inhabited

/-- A statement about the set of final states. -/
inductive Condition where
  /-- Some final state satisfies the proposition. -/
  | someState (body : Proposition)
  /-- No final state satisfies the proposition. -/
  | noState (body : Proposition)
  /-- Every final state satisfies the proposition. -/
  | everyState (body : Proposition)
deriving Inhabited

end Litmus
