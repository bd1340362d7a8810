/-!
# Symbols of SMT-LIB

A name is written as it is if it is a simple symbol and no sort's name; any other is put between
bars, with bars and backslashes escaped.
-/

namespace Litmus.Text

/-- The characters of a simple symbol other than letters and digits. -/
def symbolMarks : List Char :=
  ['~', '!', '@', '$', '%', '^', '&', '*', '_', '-', '+', '=', '<', '>', '.', '?', '/']

/-- A character that a simple symbol may start with. -/
def isSymbolHead (c : Char) : Bool :=
  c.isAlpha || symbolMarks.contains c

/-- A character that a simple symbol may go on with. -/
def isSymbolTail (c : Char) : Bool :=
  c.isAlphanum || symbolMarks.contains c

/-- A text of the shape of a simple symbol. -/
def isSimpleSymbol : List Char → Bool
  | [] => false
  | c :: s => isSymbolHead c && s.all isSymbolTail

/-- The text without one line feed at its end. -/
def dropFinalNewline (s : List Char) : List Char :=
  if s.getLast? = some '\n' then s.dropLast else s

/-- The names of sorts, which are not free to be used as they are. -/
def sortNames : List String :=
  ["Int", "Real", "Bool"]

/-- A name that needs no bars: one line feed at its end goes unnoticed. -/
def isPlainSymbol (name : String) : Bool :=
  !sortNames.contains name && isSimpleSymbol (dropFinalNewline name.toList)

/-- One character between bars. -/
def barredChar (c : Char) : List Char :=
  if c = '\\' ∨ c = '|' then ['\\', c] else [c]

/-- The symbol of a name. -/
def symbol (name : String) : String :=
  if isPlainSymbol name then name
  else "|" ++ String.ofList (name.toList.flatMap barredChar) ++ "|"

end Litmus.Text
