import Litmus.Text.Escape
import Litmus.Text.Utf8
import Mathlib.Tactic.SplitIfs

/-!
# Texts in UTF-8

What a text is written as in UTF-8 is read as that text.

* **`lead?_two`**, **`lead?_three`**, **`lead?_four`**: what the first byte of a longer character asks
  for. The byte behind it lies between the bounds it sets, as the character is no surrogate and is
  written as short as it can be.
* **`decodeChar_utf8EncodeChar`**: one character is read, whatever follows it.
* **`decodeUtf8_utf8Bytes`**: a text is read.
-/

namespace Litmus.Text

/-! ## First bytes -/

theorem toNat_byte {n : Nat} (h : n < 256) : (UInt8.ofNat n).toNat = n :=
  UInt8.toNat_ofNat_of_lt' h

theorem lead?_one {n : Nat} (h : n ≤ 0x7F) : lead? (UInt8.ofNat n) = some ⟨0, 0x80, 0xBF, n⟩ := by
  simp only [lead?, toNat_byte (show n < 256 by omega)]
  rw [if_pos (by omega)]

theorem lead?_two {n : Nat} (hlo : 0x80 ≤ n) (hhi : n ≤ 0x7FF) :
    lead? (UInt8.ofNat (n / 64 % 32 + 192)) = some ⟨1, 0x80, 0xBF, n / 64 % 32⟩ := by
  simp only [lead?, toNat_byte (show n / 64 % 32 + 192 < 256 by omega)]
  rw [if_neg (by omega), if_neg (by omega), if_pos (by omega), Nat.add_sub_cancel]

theorem lead?_three {n : Nat} (hlo : 0x800 ≤ n) (hhi : n ≤ 0xFFFF)
    (hvalid : n < 0xD800 ∨ 0xDFFF < n) :
    ∃ lo hi, lead? (UInt8.ofNat (n / 4096 % 16 + 224)) = some ⟨2, lo, hi, n / 4096 % 16⟩ ∧
      lo ≤ n / 64 % 64 + 128 ∧ n / 64 % 64 + 128 ≤ hi := by
  simp only [lead?, toNat_byte (show n / 4096 % 16 + 224 < 256 by omega)]
  rw [if_neg (by omega), if_neg (by omega), if_neg (by omega)]
  split_ifs with hshortest hsurrogate hlead
  · have hbits : n / 4096 % 16 = 0 := by omega
    exact ⟨_, _, by rw [hbits], by omega, by omega⟩
  · have hbits : n / 4096 % 16 = 13 := by omega
    exact ⟨_, _, by rw [hbits], by omega, by omega⟩
  · exact ⟨_, _, by rw [Nat.add_sub_cancel], by omega, by omega⟩
  all_goals omega

theorem lead?_four {n : Nat} (hlo : 0x10000 ≤ n) (hhi : n < 0x110000) :
    ∃ lo hi, lead? (UInt8.ofNat (n / 262144 % 8 + 240)) = some ⟨3, lo, hi, n / 262144 % 8⟩ ∧
      lo ≤ n / 4096 % 64 + 128 ∧ n / 4096 % 64 + 128 ≤ hi := by
  simp only [lead?, toNat_byte (show n / 262144 % 8 + 240 < 256 by omega)]
  rw [if_neg (by omega), if_neg (by omega), if_neg (by omega), if_neg (by omega), if_neg (by omega),
    if_neg (by omega)]
  split_ifs with hshortest hlead hlast
  · have hbits : n / 262144 % 8 = 0 := by omega
    exact ⟨_, _, by rw [hbits], by omega, by omega⟩
  · exact ⟨_, _, by rw [Nat.add_sub_cancel], by omega, by omega⟩
  · have hbits : n / 262144 % 8 = 4 := by omega
    exact ⟨_, _, by rw [hbits], by omega, by omega⟩
  · omega

/-! ## Characters -/

/-- A byte between the bounds adds its six lowest bits. -/
theorem readFollowing_cons {seen lo hi code following n : Nat} (hlt : n < 256)
    (h : lo ≤ n ∧ n ≤ hi) (rest : List UInt8) :
    readFollowing seen lo hi code (following + 1) (UInt8.ofNat n :: rest) =
      readFollowing (seen + 1) 0x80 0xBF (code * 64 + n % 64) following rest := by
  rw [readFollowing, toNat_byte hlt, if_pos h]

/-- **One character** is read, whatever follows it. -/
theorem decodeChar_utf8EncodeChar (c : Char) (rest : List UInt8) :
    ∃ b bytes, String.utf8EncodeChar c = b :: bytes ∧
      decodeChar b (bytes ++ rest) = .ok (c, rest) := by
  have hvalid : c.toNat < 0xD800 ∨ (0xDFFF < c.toNat ∧ c.toNat < 0x110000) := c.valid
  have hread : ∀ {code : Nat}, code = c.toNat →
      (Except.ok (ε := Nat × Utf8Fault) (code, rest)).map
        (fun read => (Char.ofNat read.1, read.2)) = .ok (c, rest) := by
    rintro _ rfl
    exact congrArg (fun c => Except.ok (c, rest)) (Char.ofNat_toNat c)
  simp only [String.utf8EncodeChar, Char.toNat_val]
  -- one byte after the other adds its bits, and in the end they are the number of the character
  split_ifs with hone htwo hthree
  · refine ⟨_, _, rfl, ?_⟩
    rw [decodeChar, lead?_one hone]
    exact hread rfl
  · refine ⟨_, _, rfl, ?_⟩
    rw [decodeChar, lead?_two (by omega) htwo]
    simp only [List.cons_append, List.nil_append]
    rw [readFollowing_cons (by omega) (by omega), readFollowing]
    exact hread (by omega)
  · obtain ⟨lo, hi, hlead, hnext⟩ := lead?_three (by omega) hthree (by omega)
    refine ⟨_, _, rfl, ?_⟩
    rw [decodeChar, hlead]
    simp only [List.cons_append, List.nil_append]
    rw [readFollowing_cons (by omega) hnext, readFollowing_cons (by omega) (by omega),
      readFollowing]
    exact hread (by omega)
  · obtain ⟨lo, hi, hlead, hnext⟩ := lead?_four (n := c.toNat) (by omega) (by omega)
    refine ⟨_, _, rfl, ?_⟩
    rw [decodeChar, hlead]
    simp only [List.cons_append, List.nil_append]
    rw [readFollowing_cons (by omega) hnext, readFollowing_cons (by omega) (by omega),
      readFollowing_cons (by omega) (by omega), readFollowing]
    exact hread (by omega)

/-! ## Texts -/

/-- A text is written character by character. -/
theorem utf8Bytes_eq_flatMap (s : String) :
    utf8Bytes s = s.toList.flatMap String.utf8EncodeChar := by
  have hbytes : s.toUTF8 = (s.toList.flatMap String.utf8EncodeChar).toByteArray :=
    String.utf8Encode_toList.symm
  rw [utf8Bytes, hbytes, List.toList_data_toByteArray]

theorem decodeUtf8From_flatMap (position : Nat) (s : List Char) :
    decodeUtf8From position (s.flatMap String.utf8EncodeChar) = .ok s := by
  induction s generalizing position with
  | nil => rw [List.flatMap_nil, decodeUtf8From]
  | cons c s ih =>
    obtain ⟨b, bytes, hcode, hread⟩ :=
      decodeChar_utf8EncodeChar c (s.flatMap String.utf8EncodeChar)
    rw [List.flatMap_cons, hcode, List.cons_append, decodeUtf8From]
    split
    · rename_i hfault
      rw [hread] at hfault
      cases hfault
    · rename_i hchar
      rw [hread] at hchar
      obtain ⟨rfl, rfl⟩ := Prod.mk.inj (Except.ok.inj hchar)
      rw [ih]
      rfl

/-- **A text** that has been written in UTF-8 is read as it is. -/
theorem decodeUtf8_utf8Bytes (s : String) : decodeUtf8 (utf8Bytes s) = .ok s.toList := by
  rw [decodeUtf8, utf8Bytes_eq_flatMap, decodeUtf8From_flatMap]

end Litmus.Text
