import Litmus.Text.Space

/-!
# Integers in text

The value of an option is read as a whole number in decimal notation: white space around it, one
sign, digits of any decimal script of Unicode, and single underscores between digits. The four
information separators do not count as white space here.

`naturalOf` reads a run of ASCII digits, which is all that the litmus format itself knows.
-/

namespace Litmus.Text

/-! ## Digits of every script -/

/-- The digits zero of Unicode (version 14); the digits one to nine follow each of them. -/
def zeroDigits : List Nat :=
  [0x30, 0x660, 0x6F0, 0x7C0, 0x966, 0x9E6, 0xA66, 0xAE6, 0xB66, 0xBE6, 0xC66, 0xCE6, 0xD66,
   0xDE6, 0xE50, 0xED0, 0xF20, 0x1040, 0x1090, 0x17E0, 0x1810, 0x1946, 0x19D0, 0x1A80, 0x1A90,
   0x1B50, 0x1BB0, 0x1C40, 0x1C50, 0xA620, 0xA8D0, 0xA900, 0xA9D0, 0xA9F0, 0xAA50, 0xABF0,
   0xFF10, 0x104A0, 0x10D30, 0x11066, 0x110F0, 0x11136, 0x111D0, 0x112F0, 0x11450, 0x114D0,
   0x11650, 0x116C0, 0x11730, 0x118E0, 0x11950, 0x11C50, 0x11D50, 0x11DA0, 0x16A60, 0x16AC0,
   0x16B50, 0x1D7CE, 0x1D7D8, 0x1D7E2, 0x1D7EC, 0x1D7F6, 0x1E140, 0x1E2F0, 0x1E950, 0x1FBF0]

/-- The value of a decimal digit of any script. -/
def digitValue? (c : Char) : Option Nat :=
  (zeroDigits.find? fun z => z ≤ c.toNat && c.toNat ≤ z + 9).map (c.toNat - ·)

/-- A decimal digit of any script. -/
def isDecimal (c : Char) : Bool :=
  (digitValue? c).isSome

/-! ## Reading -/

/-- The number whose decimal digits, the highest first, are these. -/
def ofDigits (digits : List Nat) : Nat :=
  digits.foldl (fun n digit => 10 * n + digit) 0

/-- The number that a run of ASCII digits writes. -/
def naturalOf (digits : List Char) : Nat :=
  ofDigits (digits.map fun c => c.toNat - '0'.toNat)

/-- White space that may surround a number. -/
def isNumberSpace (c : Char) : Bool :=
  isSpace c && !(28 ≤ c.toNat && c.toNat ≤ 31)

/-- The values of a run of digits in which single underscores may stand between digits. -/
def digitRun? : List Char → Option (List Nat)
  | [] => none
  | [c] => (digitValue? c).map ([·])
  | c :: '_' :: rest => do
    let digit ← digitValue? c
    return digit :: (← digitRun? rest)
  | c :: rest => do
    let digit ← digitValue? c
    return digit :: (← digitRun? rest)

/-- The number that a text writes, if it writes one. -/
def integer? (s : List Char) : Option Int :=
  let s := ((s.dropWhile isNumberSpace).reverse.dropWhile isNumberSpace).reverse
  match s with
  | '-' :: rest => (digitRun? rest).map fun digits => -(ofDigits digits : Int)
  | '+' :: rest => (digitRun? rest).map fun digits => (ofDigits digits : Int)
  | rest => (digitRun? rest).map fun digits => (ofDigits digits : Int)

end Litmus.Text
