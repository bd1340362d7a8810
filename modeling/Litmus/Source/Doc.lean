import Litmus.Source.Lexeme

/-!
# Documentation strings

The line after the header may be a documentation string between quotation marks. A backslash in it
introduces one of the following, tried in this order:

* `\t`, `\n`, `\f`, `\r`: that control character;
* one octal digit and a `3`: those two digits;
* `0`: the character NUL;
* `x`, a hexadecimal digit and a `2`, or `u`, a hexadecimal digit and a `4`: the character whose
  number the two digits are;
* any other character: that character.
-/

namespace Litmus.Source

/-! ## The extent of a string -/

/-- The text up to the closing quotation mark and the text after the mark. A backslash takes the
next character with it; a line end closes no string. -/
def quotedBody? : List Char → Option (List Char × List Char)
  | [] => none
  | '"' :: s => some ([], s)
  | '\\' :: c :: s =>
    if c = '\n' then none
    else (quotedBody? s).map fun (body, rest) => ('\\' :: c :: body, rest)
  | c :: s =>
    if c = '\n' ∨ c = '\r' ∨ c = '\\' then none
    else (quotedBody? s).map fun (body, rest) => (c :: body, rest)

/-! ## The meaning of a string -/

/-- A digit of an octal number. -/
def isOctalDigit (c : Char) : Bool := '0' ≤ c && c ≤ '7'

/-- The value of a hexadecimal digit. -/
def hexValue (c : Char) : Nat :=
  if c.isDigit then c.toNat - '0'.toNat
  else if 'a' ≤ c then c.toNat - 'a'.toNat + 10
  else c.toNat - 'A'.toNat + 10

/-- The control character that a letter after a backslash stands for. -/
def controlOf? : Char → Option Char
  | 't' => some '\t'
  | 'n' => some '\n'
  | 'f' => some '\x0c'
  | 'r' => some '\r'
  | _ => none

/-- The text that the inside of a string stands for. -/
def unescapeDoc : List Char → List Char
  | [] => []
  | ['\\'] => ['\\']
  | ['\\', c] =>
    match controlOf? c with
    | some control => [control]
    | none => if c = '0' then ['\x00'] else [c]
  | '\\' :: 'x' :: h :: '2' :: s =>
    if isHexDigit h then Char.ofNat (16 * hexValue h + 2) :: unescapeDoc s
    else 'x' :: unescapeDoc (h :: '2' :: s)
  | '\\' :: 'u' :: h :: '4' :: s =>
    if isHexDigit h then Char.ofNat (16 * hexValue h + 4) :: unescapeDoc s
    else 'u' :: unescapeDoc (h :: '4' :: s)
  | '\\' :: c :: d :: s =>
    match controlOf? c with
    | some control => control :: unescapeDoc (d :: s)
    | none =>
      if isOctalDigit c ∧ d = '3' then c :: d :: unescapeDoc s
      else if c = '0' then '\x00' :: unescapeDoc (d :: s)
      else c :: unescapeDoc (d :: s)
  | c :: s => c :: unescapeDoc s

/-- The documentation string that a line is. -/
def doc? (line : List Char) : Option (List Char) :=
  match line with
  | '"' :: s =>
    match quotedBody? s with
    | some (body, []) => some (unescapeDoc body)
    | _ => none
  | _ => none

end Litmus.Source
