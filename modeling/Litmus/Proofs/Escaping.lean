import Litmus.Proofs.Delimited
import Litmus.Proofs.Utf8

/-!
# Escaping and quoting

Nothing is lost when a text is escaped, and a quoted value shows where it ends.

* **`unescape?`** reads a whole escaped text: `unescape?_escape` gives the bytes of the text, and
  `decodeUtf8_utf8Bytes` the text.
* **`opensEscape`**: whether the next character is escaped. It is not after an escaped text, whatever
  that ends with, and inside one every quotation mark is (`MarksEscaped`, `marksEscaped_escape`).
* **`ClosesAt`**: the place of the first quotation mark behind an opening one that is not escaped. In
  a quoted value it is the last place (`closesAt_quote`).
-/

namespace Litmus.Text

/-! ## Unescaping -/

/-- The byte that three decimal digits write, if they write one. -/
def byteOfDigits? (d e f : Char) : Option UInt8 :=
  let n := 100 * (d.toNat - 48) + 10 * (e.toNat - 48) + (f.toNat - 48)
  if d.isDigit ∧ e.isDigit ∧ f.isDigit ∧ n < 256 then some (UInt8.ofNat n) else none

/-- The bytes that an escaped text stands for: one byte for a letter behind a backslash, and for three
digits there; for every other character the bytes of that character. -/
def unescape? : List Char → Option (List UInt8)
  | [] => some []
  | c :: rest =>
    if c = '\\' then
      match rest with
      | [] => none
      | d :: rest =>
        match byteOfLetter? d, rest with
        | some b, rest => (unescape? rest).map (b :: ·)
        | none, e :: f :: rest => (byteOfDigits? d e f).bind fun b => (unescape? rest).map (b :: ·)
        | none, _ => none
    else (unescape? rest).map (String.utf8EncodeChar c ++ ·)

theorem isDigit_decimalDigit (n : Nat) : (decimalDigit n).isDigit = true := by
  rw [Source.isDigit_iff_toNat, toNat_decimalDigit]
  omega

theorem decimalDigit_ne {c : Char} (h : c.isDigit = false) (n : Nat) : decimalDigit n ≠ c := by
  rintro rfl
  rw [isDigit_decimalDigit] at h
  cases h

theorem byteOfDigits?_decimalDigit (b : UInt8) :
    byteOfDigits? (decimalDigit (b.toNat / 100)) (decimalDigit (b.toNat / 10))
      (decimalDigit b.toNat) = some b := by
  have hlt : b.toNat < 256 := b.toNat_lt
  simp [byteOfDigits?, isDigit_decimalDigit, toNat_decimalDigit, digits_toNat, hlt]

theorem utf8EncodeChar_of_ascii {c : Char} (h : c.toNat ≤ 127) :
    String.utf8EncodeChar c = [UInt8.ofNat c.toNat] := by
  simp only [String.utf8EncodeChar, Char.toNat_val]
  rw [if_pos h]

theorem unescape?_plain {c : Char} (h : c ≠ '\\') (rest : List Char) :
    unescape? (c :: rest) = (unescape? rest).map (String.utf8EncodeChar c ++ ·) := by
  rw [unescape?.eq_def]
  exact if_neg h

/-- What is written for one byte is read as that byte, whatever follows: also digits. -/
theorem unescape?_append (b : UInt8) (rest : List Char) :
    unescape? (escapeByte b ++ rest) = (unescape? rest).map (b :: ·) := by
  rcases escapeByte_cases b with ⟨c, hcode, hc⟩ | ⟨c, hcode, hc, hrange, -, hbackslash⟩ | hcode
  · simp [hcode, unescape?, hc]
  · rw [hcode, List.singleton_append, unescape?_plain hbackslash,
      utf8EncodeChar_of_ascii (by omega), hc, ofNat_toNat]
    rfl
  · simp [hcode, unescape?, byteOfLetter?_decimalDigit, byteOfDigits?_decimalDigit]

theorem unescape?_escapeBytes (bytes : List UInt8) : unescape? (escapeBytes bytes) = some bytes := by
  induction bytes with
  | nil => rfl
  | cons b bytes ih => rw [escapeBytes_cons, unescape?_append, ih, Option.map_some]

theorem unescape?_escape (s : String) : unescape? (escape s).toList = some (utf8Bytes s) := by
  rw [toList_escape, unescape?_escapeBytes]

/-! ## Quotation marks -/

/-- Whether a text ends with an escaping backslash: one that no escaping backslash stands in front
of. -/
def opensEscape (s : List Char) : Bool :=
  s.foldl (fun escaping c => c == '\\' && !escaping) false

/-- Every quotation mark has an escaping backslash in front of it. -/
def MarksEscaped (s : List Char) : Prop :=
  ∀ i, s[i]? = some '"' → opensEscape (s.take i) = true

theorem MarksEscaped.nil : MarksEscaped [] := by
  simp [MarksEscaped]

theorem opensEscape_append {s : List Char} (h : opensEscape s = false) (t : List Char) :
    opensEscape (s ++ t) = opensEscape t := by
  unfold opensEscape at h ⊢
  rw [List.foldl_append, h]

/-- In a longer text the marks in front are escaped as before, and those behind have all of the text
in front of them. -/
theorem MarksEscaped.extend {s t : List Char} (hs : MarksEscaped s)
    (ht : ∀ i, t[i]? = some '"' → opensEscape (s ++ t.take i) = true) : MarksEscaped (s ++ t) := by
  intro i hi
  rcases Nat.lt_or_ge i s.length with hlt | hge
  · rw [List.getElem?_append_left hlt] at hi
    rw [List.take_append_of_le_length hlt.le]
    exact hs i hi
  · rw [List.getElem?_append_right hge] at hi
    rw [List.take_append, List.take_of_length_le hge]
    exact ht _ hi

theorem MarksEscaped.append {s t : List Char} (hs : MarksEscaped s) (hend : opensEscape s = false)
    (ht : MarksEscaped t) : MarksEscaped (s ++ t) := by
  refine hs.extend fun i hi => ?_
  rw [opensEscape_append hend]
  exact ht i hi

theorem MarksEscaped.concat {s : List Char} (h : MarksEscaped s) {c : Char} (hc : c ≠ '"') :
    MarksEscaped (s ++ [c]) :=
  h.extend fun _ hi => absurd (List.mem_singleton.mp (List.mem_of_getElem? hi)).symm hc

/-- Behind another character than a backslash nothing is escaped. -/
theorem opensEscape_concat {c : Char} (h : c ≠ '\\') (s : List Char) :
    opensEscape (s ++ [c]) = false := by
  simp [opensEscape, List.foldl_append, h]

theorem marksEscaped_of_notMem {s : List Char} (h : '"' ∉ s) : MarksEscaped s :=
  fun _ hi => absurd (List.mem_of_getElem? hi) h

/-- Where every quotation mark is escaped, no two of them stand side by side. -/
theorem MarksEscaped.not_infix {s : List Char} (h : MarksEscaped s) : ¬ ['"', '"'] <:+: s := by
  rintro ⟨before, after, rfl⟩
  have hsecond := h (before.length + 1) (by simp)
  have htake : (before ++ ['"', '"'] ++ after).take (before.length + 1) = before ++ ['"'] := by
    simp [List.take_append]
  rw [htake, opensEscape_concat (by decide)] at hsecond
  cases hsecond

/-- Behind what is written for one byte nothing is escaped. The backslash that a letter or a digit
follows has done its work. -/
theorem opensEscape_escapeByte (b : UInt8) : opensEscape (escapeByte b) = false := by
  rcases escapeByte_cases b with ⟨c, hcode, -⟩ | ⟨c, hcode, -, -, -, hbackslash⟩ | hcode
  · simp [hcode, opensEscape]
  · simp [hcode, opensEscape, hbackslash]
  · simp [hcode, opensEscape, decimalDigit_ne]

theorem marksEscaped_escapeByte (b : UInt8) : MarksEscaped (escapeByte b) := by
  intro i hi
  rcases escapeByte_cases b with ⟨c, hcode, -⟩ | ⟨c, hcode, -, -, hquote, -⟩ | hcode
  · rw [hcode] at hi ⊢
    rcases i with _ | _ | i
    · simp at hi
    · rfl
    · simp at hi
  · rw [hcode] at hi
    rcases i with _ | i
    · exact absurd (by simpa using hi) hquote
    · simp at hi
  · have hdigit : ∀ n, decimalDigit n ≠ '"' := decimalDigit_ne rfl
    rw [hcode] at hi
    rcases i with _ | _ | _ | _ | i <;> simp [hdigit] at hi

theorem marksEscaped_escapeBytes (bytes : List UInt8) :
    MarksEscaped (escapeBytes bytes) ∧ opensEscape (escapeBytes bytes) = false := by
  induction bytes with
  | nil => exact ⟨MarksEscaped.nil, rfl⟩
  | cons b bytes ih =>
    rw [escapeBytes_cons, opensEscape_append (opensEscape_escapeByte b)]
    exact ⟨(marksEscaped_escapeByte b).append (opensEscape_escapeByte b) ih.1, ih.2⟩

/-- **Inside an escaped text** every quotation mark is escaped, and behind it nothing is. -/
theorem marksEscaped_escape (s : String) :
    MarksEscaped (escape s).toList ∧ opensEscape (escape s).toList = false := by
  rw [toList_escape]
  exact marksEscaped_escapeBytes (utf8Bytes s)

/-- The place of the first quotation mark, the one at the start apart, that has no escaping backslash
in front of it. -/
structure ClosesAt (s : List Char) (n : Nat) : Prop where
  behind : 0 < n
  mark : s[n]? = some '"'
  unescaped : opensEscape (s.take n) = false
  first : ∀ i, 0 < i → i < n → s[i]? = some '"' → opensEscape (s.take i) = true

theorem closesAt_of_marksEscaped {body : List Char} (hbody : MarksEscaped body)
    (hend : opensEscape body = false) (rest : List Char) :
    ClosesAt ('"' :: (body ++ '"' :: rest)) (body.length + 1) := by
  have hopening : opensEscape ['"'] = false := rfl
  have htake : ∀ i, i ≤ body.length →
      opensEscape (('"' :: (body ++ '"' :: rest)).take (i + 1)) = opensEscape (body.take i) := by
    intro i hi
    rw [List.take_succ_cons, List.take_append_of_le_length hi]
    exact opensEscape_append hopening _
  refine ⟨by omega, by simp, ?_, ?_⟩
  · rw [htake _ le_rfl, List.take_length, hend]
  · intro i hpos hlt hi
    obtain ⟨i, rfl⟩ := Nat.exists_eq_succ_of_ne_zero hpos.ne'
    have hinside : i < body.length := by omega
    rw [List.getElem?_cons_succ, List.getElem?_append_left hinside] at hi
    rw [htake i hinside.le]
    exact hbody i hi

/-! ## Quoted values -/

theorem toList_quote_append (s r : String) :
    (quote s ++ r).toList = '"' :: ((escape s).toList ++ '"' :: r.toList) := by
  simp [quote]

/-- **A quoted value** ends with the first quotation mark in it that is not escaped. -/
theorem closesAt_quote (s r : String) : ClosesAt (quote s ++ r).toList ((quote s).length - 1) := by
  have hlast : (quote s).length - 1 = (escape s).toList.length + 1 := by
    rw [← String.length_toList, ← String.append_empty (s := quote s), toList_quote_append]
    simp
  obtain ⟨hmarks, hend⟩ := marksEscaped_escape s
  rw [toList_quote_append, hlast]
  exact closesAt_of_marksEscaped hmarks hend r.toList

theorem quote_append_inj {s t r₁ r₂ : String} : quote s ++ r₁ = quote t ++ r₂ ↔ s = t ∧ r₁ = r₂ := by
  constructor
  · intro h
    have hchars := congrArg String.toList h
    rw [String.toList_append, String.toList_append] at hchars
    obtain ⟨hst, hr⟩ := delimited_quote s t _ _ trivial trivial hchars
    exact ⟨hst, String.toList_inj.mp hr⟩
  · rintro ⟨rfl, rfl⟩
    rfl

/-- **Escaping loses nothing, and a quoted value shows its end.** An escaped text is printable ASCII,
and is read as the bytes of the text, which are those of no other one. Whatever follows a quoted
value, its last character is the first quotation mark behind the opening one that is not escaped; so
what is quoted, and what follows, can be told from the whole. -/
theorem escape_roundTrip (s : String) :
    (∀ c ∈ (escape s).toList, 32 ≤ c.toNat ∧ c.toNat ≤ 126) ∧
    unescape? (escape s).toList = some (utf8Bytes s) ∧
    decodeUtf8 (utf8Bytes s) = .ok s.toList ∧
    (∀ r, ClosesAt (quote s ++ r).toList ((quote s).length - 1)) ∧
    ∀ t r₁ r₂, quote s ++ r₁ = quote t ++ r₂ ↔ s = t ∧ r₁ = r₂ :=
  ⟨escape_chars s, unescape?_escape s, decodeUtf8_utf8Bytes s, closesAt_quote s,
    fun _ _ _ => quote_append_inj⟩

/-- The statement for a text with a backslash in front of a quotation mark, digits behind a byte that
is written with three digits, and a backslash at its end. -/
theorem escape_roundTrip_digits :
    escape "\\\"é1\\" = "\\\\\\\"\\195\\1691\\\\" ∧
    (∀ c ∈ "\\\\\\\"\\195\\1691\\\\".toList, 32 ≤ c.toNat ∧ c.toNat ≤ 126) ∧
    unescape? "\\\\\\\"\\195\\1691\\\\".toList =
      some [0x5C, 0x22, 0xC3, 0xA9, 0x31, 0x5C] ∧
    decodeUtf8 [0x5C, 0x22, 0xC3, 0xA9, 0x31, 0x5C] = .ok ['\\', '"', 'é', '1', '\\'] ∧
    ClosesAt "\"\\\\\\\"\\195\\1691\\\\\"\"".toList 16 := by
  have htext : escape "\\\"é1\\" = "\\\\\\\"\\195\\1691\\\\" := by decide
  have hbytes : utf8Bytes "\\\"é1\\" = [0x5C, 0x22, 0xC3, 0xA9, 0x31, 0x5C] := by decide
  obtain ⟨hchars, hunescape, hdecode, hcloses, -⟩ := escape_roundTrip "\\\"é1\\"
  rw [htext] at hchars hunescape
  rw [hbytes] at hunescape hdecode
  refine ⟨htext, hchars, hunescape, hdecode, ?_⟩
  have hlast := hcloses "\""
  rw [quote, htext] at hlast
  exact hlast

end Litmus.Text
