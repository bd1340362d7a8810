import Litmus.Condition
import Litmus.Source.Lexeme

/-!
# The pieces of a proposition

The text of a proposition is cut into pieces: parentheses, connectives and operands. An operand is
one of the keywords `true` and `false`, or an atom `location = constant` or `location = location`.

A piece is recognised by its first characters alone, wherever it stands: operands start with a
letter, a digit or one of `_ % [`, and no connective does.

* `piece` reads one piece; it reads at least one character (`length_piece`).
* `pieces?` reads a whole text.
-/

namespace Litmus.Source

open Litmus.Text

/-- What a proposition is made of. -/
inductive Piece where
  | operand (proposition : Proposition)
  | opening
  | closing
  | not
  | and
  | or
  | implies

/-! ## Keywords -/

/-- A character that a keyword may not be followed by. -/
def isKeywordChar (c : Char) : Bool :=
  c.isAlphanum || c == '_' || c == '$'

/-- The text after a keyword, if the text starts with it. -/
def keyword (w s : List Char) : Option (List Char) :=
  if w.isPrefixOf s then
    match s.drop w.length with
    | [] => some []
    | c :: rest => if isKeywordChar c then none else some (c :: rest)
  else none

theorem length_keyword {w s rest : List Char} (h : keyword w s = some rest) :
    rest.length + w.length = s.length := by
  rw [keyword] at h
  split at h
  · rename_i hw
    have hlen : w.length ≤ s.length := (List.isPrefixOf_iff_prefix.mp hw).length_le
    have hdrop : (s.drop w.length).length = s.length - w.length := List.length_drop
    split at h
    · rename_i hs
      rw [hs] at hdrop
      simp only [Option.some.injEq] at h
      simp only [← h, List.length_nil] at hdrop ⊢
      omega
    · rename_i hs
      rw [hs] at hdrop
      split at h
      · simp at h
      · simp only [Option.some.injEq] at h
        rw [← h]
        omega
  · simp at h

/-! ## Atoms -/

/-- What stands on the right of an atom: a location that is no constant, or a constant. -/
def atomRight (left : Location) (s : List Char) : Option (Proposition × List Char) :=
  match markedLocation s with
  | some (right, s) => some (.agree left right, s)
  | none => (constant s).map fun (value, s) => (.holds left value, s)

/-- A statement about what one location holds. -/
def atom (s : List Char) : Option (Proposition × List Char) := do
  let (left, s) ← location s
  let s ← spacedMark '=' s
  atomRight left (skipBlanks s)

/-- A keyword or an atom. The keywords stand for the empty conjunction and disjunction. -/
def operand (s : List Char) : Option (Proposition × List Char) :=
  match keyword "true".toList s with
  | some s => some (.and [], s)
  | none =>
    match keyword "false".toList s with
    | some s => some (.or [], s)
    | none => atom s

theorem length_atomRight {left : Location} {s rest : List Char} {p : Proposition}
    (h : atomRight left s = some (p, rest)) : rest.length < s.length := by
  rw [atomRight] at h
  split at h
  · rename_i hl
    simp only [Option.some.injEq, Prod.mk.injEq] at h
    rw [← h.2]
    exact length_markedLocation hl
  · simp only [Option.map_eq_some_iff, Prod.exists, Prod.mk.injEq] at h
    obtain ⟨_, _, hc, -, rfl⟩ := h
    exact length_constant hc

theorem length_atom {s rest : List Char} {p : Proposition} (h : atom s = some (p, rest)) :
    rest.length < s.length := by
  simp only [atom, Option.bind_eq_bind, Option.bind_eq_some_iff, Prod.exists] at h
  obtain ⟨_, s₁, h₁, s₂, h₂, h₃⟩ := h
  have := length_location h₁
  have := length_spacedMark h₂
  have := length_atomRight h₃
  have := length_skipBlanks_le s₂
  omega

theorem length_operand {s rest : List Char} {p : Proposition} (h : operand s = some (p, rest)) :
    rest.length < s.length := by
  rw [operand] at h
  split at h
  · rename_i hk
    simp only [Option.some.injEq, Prod.mk.injEq] at h
    have := length_keyword hk
    have : "true".toList.length = 4 := by decide
    rw [← h.2]
    omega
  · split at h
    · rename_i hk
      simp only [Option.some.injEq, Prod.mk.injEq] at h
      have := length_keyword hk
      have : "false".toList.length = 5 := by decide
      rw [← h.2]
      omega
    · exact length_atom h

/-! ## Pieces -/

/-- The first piece of a text that starts with one. -/
def piece (s : List Char) : Option (Piece × List Char) :=
  match s with
  | '(' :: s => some (.opening, s)
  | ')' :: s => some (.closing, s)
  | '~' :: s => some (.not, s)
  | '/' :: '\\' :: s => some (.and, s)
  | '\\' :: '/' :: s => some (.or, s)
  | '=' :: '>' :: s => some (.implies, s)
  | s => (operand s).map fun (p, rest) => (.operand p, rest)

theorem length_piece {s rest : List Char} {p : Piece} (h : piece s = some (p, rest)) :
    rest.length < s.length := by
  unfold piece at h
  split at h
  case h_7 =>
    simp only [Option.map_eq_some_iff, Prod.exists, Prod.mk.injEq] at h
    obtain ⟨_, _, ho, -, rfl⟩ := h
    exact length_operand ho
  all_goals
    simp only [Option.some.injEq, Prod.mk.injEq] at h
    rw [← h.2]
    simp only [List.length_cons]
    omega

/-- The pieces of a whole text, with any blanks around them. -/
def pieces? (s : List Char) : Option (List Piece) :=
  match _hs : skipBlanks s with
  | [] => some []
  | c :: s' =>
    match _h : piece (c :: s') with
    | none => none
    | some (p, rest) => (pieces? rest).map (p :: ·)
termination_by s.length
decreasing_by
  have := length_piece _h
  have := length_skipBlanks_le s
  rw [_hs] at this
  omega

end Litmus.Source
