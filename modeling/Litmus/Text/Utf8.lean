import Litmus.Text.Literal

/-!
# Reading UTF-8

A file is a sequence of bytes. `decodeUtf8` reads it as UTF-8 and tells where and why it cannot:
the cause is one of three, and the bad sequence is as long as it could have been the start of a
well-formed one (Unicode's table 3-7).
-/

namespace Litmus.Text

/-! ## What can be wrong -/

/-- Why a sequence of bytes is no UTF-8. -/
inductive Utf8Fault where
  /-- The first byte starts no character. -/
  | start
  /-- The bytes so far are followed by one that does not continue them. -/
  | continuation
  /-- The text ends inside a character. -/
  | truncated
deriving DecidableEq

/-- The words for a fault. -/
def Utf8Fault.message : Utf8Fault → String
  | .start => "invalid start byte"
  | .continuation => "invalid continuation byte"
  | .truncated => "unexpected end of data"

/-- The first bad sequence of a byte sequence: its place, its bytes (at least one) and the fault. -/
structure Utf8Error where
  position : Nat
  first : UInt8
  length : Nat
  fault : Utf8Fault
deriving DecidableEq

/-- The message for a bad sequence: one byte is shown, several are counted. -/
def Utf8Error.message (e : Utf8Error) : String :=
  let place :=
    if e.length = 1 then
      "byte 0x" ++ String.ofList (hexDigits 2 e.first.toNat) ++ " in position "
        ++ toString e.position
    else
      "bytes in position " ++ toString e.position ++ "-"
        ++ toString (e.position + e.length - 1)
  "'utf-8' codec can't decode " ++ place ++ ": " ++ e.fault.message

/-! ## Characters -/

/-- What the first byte of a character asks for: how many bytes follow, between which bounds the
next of them lies, and the bits that it contributes itself. -/
structure Lead where
  following : Nat
  lo : Nat
  hi : Nat
  bits : Nat

/-- The demand of a first byte; no character starts with a byte that has none. -/
def lead? (b : UInt8) : Option Lead :=
  let n := b.toNat
  if n < 0x80 then some ⟨0, 0x80, 0xBF, n⟩
  else if n < 0xC2 then none
  else if n < 0xE0 then some ⟨1, 0x80, 0xBF, n - 0xC0⟩
  else if n = 0xE0 then some ⟨2, 0xA0, 0xBF, 0⟩
  else if n = 0xED then some ⟨2, 0x80, 0x9F, 0xD⟩
  else if n < 0xF0 then some ⟨2, 0x80, 0xBF, n - 0xE0⟩
  else if n = 0xF0 then some ⟨3, 0x90, 0xBF, 0⟩
  else if n < 0xF4 then some ⟨3, 0x80, 0xBF, n - 0xF0⟩
  else if n = 0xF4 then some ⟨3, 0x80, 0x8F, 4⟩
  else none

/-- The number of a character of which `seen` bytes with the bits `code` have been read and
`following` are still to come, and the bytes after it. On failure, the length of the bad sequence
and what is wrong with it. -/
def readFollowing (seen lo hi code : Nat) :
    (following : Nat) → List UInt8 → Except (Nat × Utf8Fault) (Nat × List UInt8)
  | 0, rest => .ok (code, rest)
  | _ + 1, [] => .error (seen, .truncated)
  | following + 1, b :: rest =>
    if lo ≤ b.toNat ∧ b.toNat ≤ hi then
      readFollowing (seen + 1) 0x80 0xBF (code * 64 + b.toNat % 64) following rest
    else .error (seen, .continuation)

/-- The first character of a non-empty byte sequence and the bytes after it. -/
def decodeChar (b : UInt8) (rest : List UInt8) : Except (Nat × Utf8Fault) (Char × List UInt8) :=
  match lead? b with
  | none => .error (1, .start)
  | some lead =>
    (readFollowing 1 lead.lo lead.hi lead.bits lead.following rest).map fun (code, rest) =>
      (Char.ofNat code, rest)

theorem length_of_readFollowing {seen lo hi code following n : Nat} {rest rest' : List UInt8}
    (h : readFollowing seen lo hi code following rest = .ok (n, rest')) :
    rest'.length ≤ rest.length := by
  induction following generalizing seen lo hi code rest with
  | zero =>
    simp only [readFollowing, Except.ok.injEq, Prod.mk.injEq] at h
    exact Nat.le_of_eq (congrArg List.length h.2.symm)
  | succ following ih =>
    cases rest with
    | nil => simp [readFollowing] at h
    | cons b rest =>
      rw [readFollowing] at h
      split at h
      · exact Nat.le_succ_of_le (ih h)
      · simp at h

/-- The bytes after a character are an end of those after its first byte. -/
theorem length_of_decodeChar {b : UInt8} {rest rest' : List UInt8} {c : Char}
    (h : decodeChar b rest = .ok (c, rest')) : rest'.length ≤ rest.length := by
  unfold decodeChar at h
  split at h
  · simp at h
  · rename_i lead _
    cases hr : readFollowing 1 lead.lo lead.hi lead.bits lead.following rest with
    | error e => simp [hr, Except.map] at h
    | ok r =>
      obtain ⟨n, r⟩ := r
      simp only [hr, Except.map, Except.ok.injEq, Prod.mk.injEq] at h
      rw [← h.2]
      exact length_of_readFollowing hr

/-! ## Texts -/

/-- The characters of a byte sequence that starts at the given position of the whole. -/
def decodeUtf8From (position : Nat) : List UInt8 → Except Utf8Error (List Char)
  | [] => .ok []
  | b :: rest =>
    match h : decodeChar b rest with
    | .error (length, fault) => .error ⟨position, b, length, fault⟩
    | .ok (c, rest') =>
      (decodeUtf8From (position + (rest.length + 1 - rest'.length)) rest').map (c :: ·)
termination_by bytes => bytes.length
decreasing_by
  have := length_of_decodeChar h
  simp only [List.length_cons]
  omega

/-- The text that a byte sequence is in UTF-8. -/
def decodeUtf8 (bytes : List UInt8) : Except Utf8Error (List Char) :=
  decodeUtf8From 0 bytes

end Litmus.Text
