import Litmus.Text.Printable

/-!
# Quoted literals

A name that a message mentions is shown between quotes, so that any text can be read off the
message: the delimiter, the backslash and characters that are not printable are escaped.

The delimiter is the apostrophe, unless the text holds an apostrophe and no quotation mark.
-/

namespace Litmus.Text

/-! ## Numbers of characters -/

/-- The lower case hexadecimal digit of a value below sixteen. -/
def hexDigit (n : Nat) : Char :=
  if n < 10 then Char.ofNat ('0'.toNat + n) else Char.ofNat ('a'.toNat + (n - 10))

/-- The lowest `width` hexadecimal digits of a number, the highest first. -/
def hexDigits : (width : Nat) → Nat → List Char
  | 0, _ => []
  | width + 1, n => hexDigits width (n / 16) ++ [hexDigit (n % 16)]

/-- The escape that names a character by its number, in as few digits as the number needs. -/
def numericEscape (c : Char) : List Char :=
  let n := c.toNat
  if n < 0x100 then '\\' :: 'x' :: hexDigits 2 n
  else if n < 0x10000 then '\\' :: 'u' :: hexDigits 4 n
  else '\\' :: 'U' :: hexDigits 8 n

/-! ## Literals -/

/-- The delimiter of the literal of a text. -/
def literalDelimiter (s : List Char) : Char :=
  if s.contains '\'' && !s.contains '"' then '"' else '\''

/-- One character inside a literal with the given delimiter. -/
def literalChar (delimiter c : Char) : List Char :=
  if c = delimiter ∨ c = '\\' then ['\\', c]
  else if c = '\n' then ['\\', 'n']
  else if c = '\r' then ['\\', 'r']
  else if c = '\t' then ['\\', 't']
  else if isPrintable c then [c]
  else numericEscape c

/-- The literal of a text: what a message shows in place of it. -/
def literal (s : String) : String :=
  let delimiter := literalDelimiter s.toList
  String.ofList
    (delimiter :: s.toList.flatMap (literalChar delimiter) ++ [delimiter])

end Litmus.Text
