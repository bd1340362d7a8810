/-!
# Escaped text

Every value of a record stands between quotation marks, written byte by byte of its UTF-8 form:
printable ASCII as it is, the quotation mark, the backslash and four control characters with a
letter after a backslash, any other byte as a backslash and three decimal digits.

`escapeBytes_append` says that the bytes are written one by one, each without regard to the others.
-/

namespace Litmus.Text

/-! ## Bytes -/

/-- The decimal digit of a value below ten. -/
def decimalDigit (n : Nat) : Char :=
  Char.ofNat ('0'.toNat + n % 10)

/-- One byte of an escaped text. -/
def escapeByte (b : UInt8) : List Char :=
  let n := b.toNat
  if n = 0x22 then ['\\', '"']
  else if n = 0x5C then ['\\', '\\']
  else if n = 0x0A then ['\\', 'n']
  else if n = 0x09 then ['\\', 't']
  else if n = 0x0D then ['\\', 'r']
  else if n = 0x08 then ['\\', 'b']
  else if 0x20 ≤ n ∧ n ≤ 0x7E then [Char.ofNat n]
  else ['\\', decimalDigit (n / 100), decimalDigit (n / 10), decimalDigit n]

/-- The bytes of a text in UTF-8. -/
def utf8Bytes (s : String) : List UInt8 :=
  s.toUTF8.data.toList

/-! ## Texts -/

/-- The characters of the escaped form of a byte sequence. -/
def escapeBytes (bytes : List UInt8) : List Char :=
  bytes.flatMap escapeByte

/-- The text in the form that a quoted value holds. -/
def escape (s : String) : String :=
  String.ofList (escapeBytes (utf8Bytes s))

/-- The text as a quoted value. -/
def quote (s : String) : String :=
  "\"" ++ escape s ++ "\""

@[simp] theorem escapeBytes_nil : escapeBytes [] = [] := rfl

@[simp] theorem escapeBytes_cons (b : UInt8) (bytes : List UInt8) :
    escapeBytes (b :: bytes) = escapeByte b ++ escapeBytes bytes := rfl

@[simp] theorem escapeBytes_append (xs ys : List UInt8) :
    escapeBytes (xs ++ ys) = escapeBytes xs ++ escapeBytes ys := by
  simp [escapeBytes]

/-! ## Letters, emphasis -/

/-- The text with the capital letters of ASCII made small; no other character changes. -/
def lowercaseAscii (s : String) : String :=
  String.ofList (s.toList.map Char.toLower)

/-- The text between the terminal's codes for bold face. -/
def bold (s : String) : String :=
  "\x1b[1m" ++ s ++ "\x1b[0m"

end Litmus.Text
