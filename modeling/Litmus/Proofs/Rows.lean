import Litmus.Proofs.Lines
import Litmus.Proofs.Sequence
import Litmus.Source.Grouping

/-!
# Rows of pieces

How the pieces of a proposition are put together, from the other side: a row is made of smaller rows
under one connective, and a row in parentheses is one operand of the row around it.

* **`Level`**: how tightly a proposition binds. A row of a level holds no connective that is looser.
* **`Level.IsRow`**: a row of pieces that makes a proposition at a level.
* **`Connects`**: the connectives of conjunctions and disjunctions. **`Connects.isRow`**,
  **`isRow_implies`**: rows under a connective.
* **`Groups`**: pieces with parentheses that come down to a row without.
-/

namespace Litmus.Source

open Litmus.Text

/-! ## Levels -/

/-- How tightly a proposition binds, the tightest first. -/
inductive Level where
  | negation
  | conjunction
  | disjunction
  | implication

/-- The reading of a row at a level. -/
def Level.read? : Level → List Piece → Option Proposition
  | .negation => negation?
  | .conjunction => conjunction?
  | .disjunction => disjunction?
  | .implication => implication?

/-- Whether a piece is a connective that binds looser than a level. -/
def Level.loose : Level → Piece → Bool
  | .negation, piece => piece.isAnd || piece.isOr || piece.isImplies
  | .conjunction, piece => piece.isOr || piece.isImplies
  | .disjunction, piece => piece.isImplies
  | .implication, _ => false

/-- A row of pieces that makes a proposition at a level. -/
structure Level.IsRow (level : Level) (p : Proposition) (row : List Piece) : Prop where
  read : level.read? row = some p
  tight : ∀ piece ∈ row, level.loose piece = false

theorem isRow_operand (p : Proposition) : Level.negation.IsRow p [.operand p] where
  read := rfl
  tight := by simp [Level.loose, Piece.isAnd, Piece.isOr, Piece.isImplies]

theorem isRow_not {p : Proposition} {row : List Piece} (h : Level.negation.IsRow p row) :
    Level.negation.IsRow (.not p) (.not :: row) where
  read := by
    have hread : negation? row = some p := h.read
    show negation? (.not :: row) = some (.not p)
    rw [negation?, hread, Option.map_some]
  tight := by
    intro piece hpiece
    rcases List.mem_cons.mp hpiece with rfl | hpiece
    · rfl
    · exact h.tight piece hpiece

/-! ## Rows under a connective -/

/-- A connective: it makes a proposition of its own level from parts of the level below, and its
piece is what sets the two levels apart. -/
structure Connects (below above : Level) (sep : Piece) (isSep : Piece → Bool)
    (connect : List Proposition → Proposition) : Prop where
  read : ∀ row, above.read? row = ((splitWhen isSep row).mapM below.read?).map (gather connect)
  cut : isSep sep = true
  loose : ∀ piece, below.loose piece = (isSep piece || above.loose piece)
  tight : above.loose sep = false

theorem connects_and : Connects .negation .conjunction .and Piece.isAnd .and where
  read := fun _ => rfl
  cut := rfl
  loose := fun _ => Bool.or_assoc _ _ _
  tight := rfl

theorem connects_or : Connects .conjunction .disjunction .or Piece.isOr .or where
  read := fun _ => rfl
  cut := rfl
  loose := fun _ => rfl
  tight := rfl

/-- Parts under a connective. A single part stays what it is. -/
theorem Connects.isRow {below above : Level} {sep : Piece} {isSep : Piece → Bool}
    {connect : List Proposition → Proposition} (c : Connects below above sep isSep connect)
    {parts : List (Proposition × List Piece)} (hne : parts ≠ [])
    (h : ∀ part ∈ parts, below.IsRow part.1 part.2) :
    above.IsRow (gather connect (parts.map (·.1))) (joinWith sep (parts.map (·.2))) := by
  have hloose : ∀ part ∈ parts, ∀ piece ∈ part.2,
      isSep piece = false ∧ above.loose piece = false := by
    intro part hpart piece hpiece
    have htight := (h part hpart).tight piece hpiece
    rwa [c.loose, Bool.or_eq_false_iff] at htight
  constructor
  · have hsplit : splitWhen isSep (joinWith sep (parts.map (·.2))) = parts.map (·.2) := by
      refine splitWhen_joinWith c.cut (by simpa using hne) fun row hrow piece hpiece => ?_
      obtain ⟨part, hpart, rfl⟩ := List.mem_map.mp hrow
      exact (hloose part hpart piece hpiece).1
    have hread := mapM_map_eq_some fun part hpart => (h part hpart).read
    rw [c.read, hsplit, hread]
    rfl
  · intro piece hpiece
    rcases mem_joinWith hpiece with rfl | ⟨row, hrow, hpiece⟩
    · exact c.tight
    · obtain ⟨part, hpart, rfl⟩ := List.mem_map.mp hrow
      exact (hloose part hpart piece hpiece).2

/-- What stands under no connective is of its level as it is. -/
theorem Connects.isRow_single {below above : Level} {sep : Piece} {isSep : Piece → Bool}
    {connect : List Proposition → Proposition} (c : Connects below above sep isSep connect)
    {p : Proposition} {row : List Piece} (h : below.IsRow p row) : above.IsRow p row :=
  c.isRow (List.cons_ne_nil (p, row) []) (by simpa using h)

theorem gather_of_two_le {connect : List Proposition → Proposition} {ps : List Proposition}
    (h : 2 ≤ ps.length) : gather connect ps = connect ps := by
  match ps, h with
  | _ :: _ :: _, _ => rfl

/-- A disjunction is an implication with nothing before it. -/
theorem Level.IsRow.implication {p : Proposition} {row : List Piece}
    (h : Level.disjunction.IsRow p row) : Level.implication.IsRow p row where
  read := by
    have hread : disjunction? row = some p := h.read
    have htight : ∀ piece ∈ row, piece.isImplies = false := h.tight
    show implication? row = some p
    rw [implication?, splitWhen_of_forall htight, List.mapM_cons, hread]
    rfl
  tight := fun _ _ => rfl

/-- An implication goes on to the right. -/
theorem isRow_implies {p q : Proposition} {left right : List Piece}
    (hp : Level.disjunction.IsRow p left) (hq : Level.implication.IsRow q right) :
    Level.implication.IsRow (.implies p q) (left ++ .implies :: right) where
  read := by
    have hleft : disjunction? left = some p := hp.read
    have hright : implication? right = some q := hq.read
    show implication? (left ++ .implies :: right) = some (.implies p q)
    rw [implication?] at hright ⊢
    obtain ⟨ps, hps, hchain⟩ := Option.bind_eq_some_iff.mp hright
    have htight : ∀ piece ∈ left, piece.isImplies = false := hp.tight
    rw [splitWhen_append_cons htight rfl, List.mapM_cons, hleft, hps]
    cases ps with
    | nil => exact absurd hchain (by simp [chain])
    | cons r rs =>
      show chain (p :: r :: rs) = some (.implies p q)
      rw [chain, hchain, Option.map_some]
      simp
  tight := fun _ _ => rfl

/-! ## Parentheses -/

/-- Pieces that come down to a row, wherever they stand. -/
def Groups (pieces row : List Piece) : Prop :=
  ∀ stack before rest, groupFrom stack before (pieces ++ rest)
    = groupFrom stack (row.reverse ++ before) rest

theorem Groups.append {pieces pieces' row row' : List Piece} (h : Groups pieces row)
    (h' : Groups pieces' row') : Groups (pieces ++ pieces') (row ++ row') := by
  intro stack before rest
  rw [List.append_assoc, h, h', List.reverse_append, List.append_assoc]

theorem Groups.single {piece : Piece} (hopening : piece ≠ .opening) (hclosing : piece ≠ .closing) :
    Groups [piece] [piece] := by
  intro stack before rest
  cases piece with
  | opening => exact absurd rfl hopening
  | closing => exact absurd rfl hclosing
  | _ => rfl

/-- What stands in parentheses is one operand. -/
theorem Groups.parentheses {pieces row : List Piece} {p : Proposition} (h : Groups pieces row)
    (hrow : Level.implication.IsRow p row) :
    Groups (.opening :: (pieces ++ [.closing])) [.operand p] := by
  intro stack before rest
  have hread : implication? row = some p := hrow.read
  have hinner := h (before :: stack) [] (.closing :: rest)
  rw [List.cons_append, List.append_assoc, groupFrom]
  refine hinner.trans ?_
  rw [List.append_nil, groupFrom, List.reverse_reverse, hread]
  rfl

/-- The pieces of a whole proposition. -/
theorem grouped?_of_groups {pieces row : List Piece} {p : Proposition} (h : Groups pieces row)
    (hrow : Level.implication.IsRow p row) : grouped? pieces = some p := by
  have hread : implication? row = some p := hrow.read
  have hgroup := h [] [] []
  rw [List.append_nil, List.append_nil] at hgroup
  rw [grouped?, hgroup, groupFrom, List.reverse_reverse, hread]

end Litmus.Source
