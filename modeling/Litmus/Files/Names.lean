import Litmus.Text.Lines
import Litmus.Text.Space

/-!
# Lists of file names

Files are named one by one, several in one text with commas between them, or by lists of such texts
that may nest. How the names are grouped makes no difference: `NameTree.files` is the list of the
names in order, trimmed and without the empty ones.
-/

namespace Litmus

/-- The names that a text holds between its commas. -/
def namesIn (text : String) : List String :=
  (((Text.splitAt ',' text.toList).map Text.trim).filter (!·.isEmpty)).map String.ofList

/-- Texts with names, grouped in any way. -/
inductive NameTree where
  | leaf (text : String)
  | group (parts : List NameTree)
deriving Inhabited

namespace NameTree

mutual

/-- The names of a tree, in order. -/
def files : NameTree → List String
  | .leaf text => namesIn text
  | .group parts => allFiles parts

/-- The names of several trees, in order. -/
def allFiles : List NameTree → List String
  | [] => []
  | part :: parts => part.files ++ allFiles parts

end

/-- The names of a group are those of its parts, one part after the other. -/
theorem allFiles_eq_flatMap (parts : List NameTree) : allFiles parts = parts.flatMap files := by
  induction parts with
  | nil => rfl
  | cons part parts ih => rw [allFiles, ih, List.flatMap_cons]

end NameTree

end Litmus
