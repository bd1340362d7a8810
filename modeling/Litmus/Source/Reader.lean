import Litmus.Notice
import Litmus.Source.Assignment
import Litmus.Source.Comment
import Litmus.Source.Doc
import Litmus.Source.Fault
import Litmus.Source.Quantified
import Litmus.Source.Table

/-!
# Litmus files

The text of a litmus test, from top to bottom:

* the *header*: the architecture and the name of the test;
* perhaps a documentation string, on a line of its own;
* lines `key = value`;
* the initial state between braces;
* the thread table;
* the final condition.

Comments are dropped first, and every line is trimmed; blank lines are ignored. The faults are
looked for in the order of the parts, the condition's absence before its shape.

`shaped` reads a text by the grammar of its part, `readTest` cuts a text into its parts and reads them.
-/

namespace Litmus.Source

open Litmus.Text

/-! ## Lines -/

/-- The lines of a text without its comments, trimmed. -/
def textLines (s : List Char) : List (List Char) :=
  (splitAt '\n' (dropComments s)).map trim

/-- The lines from the first one on that is not blank. -/
def skipBlankLines (lines : List (List Char)) : List (List Char) :=
  lines.dropWhile (·.isEmpty)

/-! ## Shapes -/

/-- What the grammar of a part reads from a text. -/
def shaped {α : Type} (part : Part) (read? : List Char → Option α) (text : List Char) :
    Except Fault α :=
  match read? text with
  | some a => .ok a
  | none => .error (.malformed ⟨part, String.ofList text⟩)

/-! ## The header -/

/-- A character of the name of an architecture: visible ASCII. -/
def isGraphic (c : Char) : Bool :=
  0x21 ≤ c.toNat && c.toNat ≤ 0x7E

/-- The architecture and the name that a header line gives; the name may be empty. -/
def header? (line : List Char) : Option (List Char × List Char) :=
  (word isGraphic isGraphic (expandTabs line)).map fun (arch, rest) => (arch, trim rest)

/-- A character of a key. -/
def isKeyChar (c : Char) : Bool :=
  c.isAlphanum || c == '_' || c == '-'

/-- The key and the value that a line gives. -/
def info? (line : List Char) : Option (String × String) := do
  let (key, s) ← word isKeyChar isKeyChar (expandTabs line)
  let s ← spacedMark '=' s
  return (String.ofList key, String.ofList (trim s))

/-! ## The parts of a test -/

/-- The documentation string that the lines start with, if they do, and the lines after it. -/
def takeDoc (lines : List (List Char)) : Except Fault (Option String × List (List Char)) :=
  match skipBlankLines lines with
  | [] => .ok (none, [])
  | line :: rest =>
    if line.head? = some '"' then do
      let doc ← shaped .doc (doc? ∘ expandTabs) line
      return (some (String.ofList doc), skipBlankLines rest)
    else .ok (none, line :: rest)

/-- Whether a line opens the initial state. -/
def opensInit (line : List Char) : Bool :=
  line.head? = some '\x7b'

/-- The keys and values of the lines before the initial state. -/
def infoOf (lines : List (List Char)) : Except Fault (List (String × String)) :=
  ((lines.takeWhile fun line => !opensInit line).filter (!·.isEmpty)).mapM (shaped .info info?)

/-- The text between the braces of the initial state and the text after them. -/
def braced (lines : List (List Char)) : Except Fault (List Char × List Char) :=
  match joinWith '\n' (lines.dropWhile fun line => !opensInit line) with
  | [] => .error .missingInitialState
  | _ :: s =>
    if s.contains '\x7d' then
      .ok (s.takeWhile (· != '\x7d'), (s.dropWhile (· != '\x7d')).tail)
    else .error .missingInitialState

/-- The assignments of an initial state. -/
def readInit (s : List Char) : Except Fault (List (Location × Constant)) :=
  (assignmentTexts s).mapM (shaped .assignment assignment?)

/-- The threads that the first row of a table names. -/
def readNames (row : List Char) : Except Fault (List Int) :=
  (cells row).mapM (shaped .thread threadName?)

/-- The threads of a table with these rows. -/
def readTable (rows : List (List Char)) : Except Fault (List (Int × List Pseudo)) :=
  match rows with
  | [] => .error .missingTable
  | first :: rows => do
    let names ← readNames first
    match overfullRow? names.length rows with
    | some row => throw (.overfull (String.ofList row))
    | none => return threadsOf names rows

/-- The condition that the lines after the table make. -/
def readCondition (lines : List (List Char)) : Except Fault Condition :=
  match trim (joinWith '\n' lines) with
  | [] => .error .missingCondition
  | s => shaped .condition condition? s

/-- The test that a text is. -/
def readTest (s : List Char) : Except Fault Test := do
  match skipBlankLines (textLines s) with
  | [] => throw .empty
  | line :: rest =>
    let (arch, name) ← shaped .header header? line
    if name.isEmpty then throw (.missingName (String.ofList line))
    let (doc, rest) ← takeDoc rest
    let info ← infoOf rest
    let (init, rest) ← braced rest
    let init ← readInit init
    let lines := splitAt '\n' rest
    let threads ← readTable (tableRows lines)
    let condition ← readCondition (afterTable lines)
    return {
      arch := String.ofList arch
      name := String.ofList name
      info := info
      init := init
      threads := threads
      condition := condition
      doc := doc }

end Litmus.Source

namespace Litmus

open Source

/-- The test that a text is. A test that has been read is worth a notice. -/
def Test.ofText (source text : String) : Traced ReadError Test :=
  match readTest text.toList with
  | .ok test => do
    Traced.note (.parsed test.name test.threads.length)
    return test
  | .error fault => throw ⟨source, fault⟩

/-! ## Formats of tests -/

/-- A way to write tests: the extensions of its files, and how a text is read. A format that is only
a base for others reads none. -/
structure TestFormat where
  extensions? : Option (List String)
  read? : Option (String → String → Traced ReadError Test)

/-- The base of all formats. -/
def TestFormat.base : TestFormat := ⟨none, none⟩

/-- The format of this library. -/
def TestFormat.litmus : TestFormat := ⟨some ["litmus"], some Test.ofText⟩

end Litmus
