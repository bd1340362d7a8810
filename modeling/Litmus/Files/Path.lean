import Litmus.Text.Lines

/-!
# Paths

A path is a text; its components stand between slashes. The operations of this module only look at
the text: none of them asks which files exist.
-/

namespace Litmus.Path

/-- The components of a path, also the empty ones. -/
def components (path : String) : List String :=
  (Text.splitAt '/' path.toList).map String.ofList

/-- The last component of a path: empty if the path ends in a slash. -/
def baseName (path : String) : String :=
  (components path).getLastD ""

/-- The part of a text before the last occurrence of a character, if it occurs. -/
def beforeLast? (c : Char) (s : List Char) : Option (List Char) :=
  if s.contains c then some (s.reverse.dropWhile (· != c)).tail.reverse else none

/-- A file name without its extension. Dots at the start belong to the name. -/
def dropExtension (name : String) : String :=
  let dots := name.toList.takeWhile (· == '.')
  let rest := name.toList.dropWhile (· == '.')
  String.ofList (dots ++ (beforeLast? '.' rest).getD rest)

/-- The name of a file without its directories and its extension. -/
def stem (path : String) : String :=
  dropExtension (baseName path)

/-- The path of a name in a directory; the empty path is the directory that names start from. -/
def join (directory name : String) : String :=
  if directory.isEmpty ∨ directory.toList.getLast? = some '/' then directory ++ name
  else directory ++ "/" ++ name

/-- The path of the directory of a path and the last component, slashes at the end ignored. -/
def split (path : String) : String × String :=
  let parts (s : List Char) : List Char × List Char :=
    let name := (s.reverse.takeWhile (· != '/')).reverse
    let above := s.take (s.length - name.length)
    let kept := (above.reverse.dropWhile (· == '/')).reverse
    (if kept.isEmpty then above else kept, name)
  let (above, name) := parts path.toList
  let (above, name) := if name.isEmpty then parts above else (above, name)
  (String.ofList above, String.ofList name)

/-- The path without empty components and single dots; two slashes at the start, but not more, stay.
The path without any components is the single dot. -/
def normal (path : String) : String :=
  let parts := (components path).filter fun part => part != "" && part != "."
  let root :=
    match path.toList with
    | '/' :: '/' :: '/' :: _ => "/"
    | '/' :: '/' :: _ => "//"
    | '/' :: _ => "/"
    | _ => ""
  if root.isEmpty ∧ parts.isEmpty then "." else root ++ String.intercalate "/" parts

end Litmus.Path
