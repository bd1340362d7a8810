import Litmus.Source.Piece
import Litmus.Text.Lines

/-!
# From pieces to a proposition

The pieces of a proposition are put together by precedence: `~` binds tightest, then `/\`, then
`\/`, then `=>`. An implication associates to the right; a run of operands under one `/\` or `\/` is
a single conjunction or disjunction.

* `implication?` reads a *row*: pieces without parentheses. It cuts the row at the weakest
  connective first.
* `grouped?` goes through the pieces once. A stack holds the rows that are open to the left; a
  closing parenthesis turns its row into an operand of the row before.
-/

namespace Litmus.Source

open Litmus.Text

/-! ## Rows -/

/-- An operand with any number of negations in front. -/
def negation? : List Piece → Option Proposition
  | [.operand p] => some p
  | .not :: row => (negation? row).map .not
  | _ => none

/-- A single proposition as it is, several under one connective. -/
def gather (connect : List Proposition → Proposition) : List Proposition → Proposition
  | [p] => p
  | ps => connect ps

/-- Whether a piece is the connective of conjunctions. -/
def Piece.isAnd : Piece → Bool
  | .and => true
  | _ => false

/-- Whether a piece is the connective of disjunctions. -/
def Piece.isOr : Piece → Bool
  | .or => true
  | _ => false

/-- Whether a piece is the connective of implications. -/
def Piece.isImplies : Piece → Bool
  | .implies => true
  | _ => false

/-- Negations under `/\`. -/
def conjunction? (row : List Piece) : Option Proposition :=
  ((splitWhen Piece.isAnd row).mapM negation?).map (gather .and)

/-- Conjunctions under `\/`. -/
def disjunction? (row : List Piece) : Option Proposition :=
  ((splitWhen Piece.isOr row).mapM conjunction?).map (gather .or)

/-- The implication of the last proposition from all before, associated to the right. -/
def chain : List Proposition → Option Proposition
  | [] => none
  | [p] => some p
  | p :: ps => (chain ps).map (.implies p)

/-- Disjunctions under `=>`. -/
def implication? (row : List Piece) : Option Proposition :=
  ((splitWhen Piece.isImplies row).mapM disjunction?).bind chain

/-! ## Parentheses -/

/-- The proposition that the pieces make. `row` holds the pieces since the last parenthesis that is
still open, the last piece first, and `stack` the rows before each open parenthesis. -/
def groupFrom (stack : List (List Piece)) (row : List Piece) : List Piece → Option Proposition
  | [] =>
    match stack with
    | [] => implication? row.reverse
    | _ :: _ => none
  | .opening :: pieces => groupFrom (row :: stack) [] pieces
  | .closing :: pieces =>
    match stack with
    | [] => none
    | outer :: stack =>
      match implication? row.reverse with
      | none => none
      | some p => groupFrom stack (.operand p :: outer) pieces
  | p :: pieces => groupFrom stack (p :: row) pieces

/-- The proposition that a list of pieces makes. -/
def grouped? (pieces : List Piece) : Option Proposition :=
  groupFrom [] [] pieces

end Litmus.Source
