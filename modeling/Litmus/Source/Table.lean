import Litmus.Source.Lexeme
import Litmus.Test
import Litmus.Text.Lines
import Litmus.Text.Words

/-!
# The thread table

The code of a test is a table with a column for each thread. Its first row names the threads, each
further row holds one entry for each of the first threads; cells stand between bars, and a row may
end in a semicolon. The table ends where a line starts the final condition.

* `startsCondition` recognises that line.
* `tableRows` and `afterTable` cut the lines there.
* `threadsOf` transposes the rows: column `i` is what the rows hold in their `i`-th cell, from top
  to bottom, empty cells left out.
-/

namespace Litmus.Source

open Litmus.Text

/-! ## Where the table ends -/

/-- The text after a given word, if the text starts with it. -/
def afterWord? (w s : List Char) : Option (List Char) :=
  if w.isPrefixOf s then some (s.drop w.length) else none

/-- Whether a text starts with a given word that ends there. -/
def startsWithWord (w s : List Char) : Bool :=
  match afterWord? w s with
  | some rest => atWordEnd rest
  | none => false

/-- Whether a line is the start of the final condition. -/
def startsCondition (line : List Char) : Bool :=
  startsWithWord "exists".toList line || startsWithWord "forall".toList line
    || startsWithWord "locations".toList line
    || match line with
      | '~' :: rest => startsWithWord "exists".toList (rest.dropWhile isSpace)
      | _ => false

/-- The rows of the table: the lines before the condition, trimmed, blank ones left out. -/
def tableRows (lines : List (List Char)) : List (List Char) :=
  ((lines.takeWhile fun line => !startsCondition (trim line)).map trim).filter (!·.isEmpty)

/-- The lines after the table. -/
def afterTable (lines : List (List Char)) : List (List Char) :=
  lines.dropWhile fun line => !startsCondition (trim line)

/-! ## Cells -/

/-- The row without a semicolon at its end. -/
def dropSemicolon (row : List Char) : List Char :=
  if row.getLast? = some ';' then row.dropLast else row

/-- The cells of a row, trimmed. -/
def cells (row : List Char) : List (List Char) :=
  (splitAt '|' (dropSemicolon row)).map trim

/-- The thread that a cell of the first row names. -/
def threadName? (cell : List Char) : Option Int := do
  let s ← mark 'P' cell
  let (thread, s) ← digits s
  if s.isEmpty then some (naturalOf thread : Int) else none

/-- The label that a cell starts with and the text after its colon. Two colons make no label. -/
def cellLabel? (cell : List Char) : Option (List Char × List Char) := do
  let (label, s) ← labelName cell
  let s ← mark ':' s
  if s.head? = some ':' then none else some (label, s)

/-- An instruction, or no operation where there is no text. -/
def entryOf (text : List Char) : Pseudo :=
  if text.isEmpty then .nop else .instruction (String.ofList text)

/-- The entry that a cell holds. -/
def cellEntry (cell : List Char) : Pseudo :=
  let cell := expandTabs cell
  match cellLabel? cell with
  | some (label, rest) => .labelled (String.ofList label) (entryOf (trim rest))
  | none => entryOf (trim cell)

/-! ## Columns -/

/-- The entries of a column, from top to bottom. -/
def column (rows : List (List (List Char))) (i : Nat) : List Pseudo :=
  rows.filterMap fun row =>
    match row[i]? with
    | none => none
    | some cell => if cell.isEmpty then none else some (cellEntry cell)

/-- The first row that has more cells than there are threads. -/
def overfullRow? (threads : Nat) (rows : List (List Char)) : Option (List Char) :=
  rows.find? fun row => threads < (cells row).length

/-- The threads with their columns. -/
def threadsOf (names : List Int) (rows : List (List Char)) : List (Int × List Pseudo) :=
  names.zipIdx.map fun (thread, i) => (thread, column (rows.map cells) i)

end Litmus.Source
