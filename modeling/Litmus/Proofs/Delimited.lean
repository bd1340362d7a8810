import Litmus.Text.Escape
import Litmus.Proofs.Words
import Mathlib

/-!
# Texts that show where they end

A text made of parts can be taken apart again if each part shows where it ends, whatever the next
part is. This module says what that is for one way to write things, and how it is passed on to lists;
then it shows it of quoted values.

* **`Delimited`**: what is written, and what follows it, can be told from the whole.
* **`Delimited.list`**, **`Delimited.separated`**: lists with a stop behind them that no member starts
  with.
* **`unescapeByte?`** reads one byte of an escaped text (`unescapeByte?_append`), so the bytes of an
  escaped text can be told up to a quotation mark or a line feed (`delimited_escape`).
* **`delimited_quote`**: a quoted value ends with its second quotation mark.
* **`AllPrinted`**: the characters of which the text of a record is made. Those of escaped texts are
  among them (`allPrinted_escape`).
-/

namespace Litmus

/-! ## Parts of texts -/

section

variable {α : Type} {good : α → Prop} {write : α → List Char} {stop sep : List Char}

/-- A way to write things in which a text shows what it starts with and where that ends. -/
def Delimited {α : Type} (good : α → Prop) (write : α → List Char) : Prop :=
  ∀ a b x y, good a → good b → write a ++ x = write b ++ y → a = b ∧ x = y

/-- A list is delimited by a stop with which no member starts. -/
theorem Delimited.list (h : Delimited good write)
    (hstop : ∀ a x y, good a → write a ++ x ≠ stop ++ y) {as bs : List α} {x y : List Char}
    (has : ∀ a ∈ as, good a) (hbs : ∀ b ∈ bs, good b)
    (heq : as.flatMap write ++ (stop ++ x) = bs.flatMap write ++ (stop ++ y)) :
    as = bs ∧ x = y := by
  induction as generalizing bs with
  | nil =>
    cases bs with
    | nil => exact ⟨rfl, List.append_cancel_left heq⟩
    | cons b bs =>
      rw [List.flatMap_cons, List.append_assoc] at heq
      exact absurd heq.symm (hstop b _ _ (hbs b (by simp)))
  | cons a as ih =>
    obtain ⟨ha, has⟩ := List.forall_mem_cons.mp has
    rw [List.flatMap_cons, List.append_assoc] at heq
    cases bs with
    | nil => exact absurd heq (hstop a _ _ ha)
    | cons b bs =>
      obtain ⟨hb, htail⟩ := List.forall_mem_cons.mp hbs
      rw [List.flatMap_cons, List.append_assoc] at heq
      obtain ⟨rfl, hrest⟩ := h a b _ _ ha hb heq
      obtain ⟨rfl, rfl⟩ := ih has htail hrest
      exact ⟨rfl, rfl⟩

/-- The members of a list between separators: the first one, and the others each behind its
separator. -/
theorem intercalate_cons (sep first : List Char) (texts : List (List Char)) :
    sep.intercalate (first :: texts) = first ++ texts.flatMap (sep ++ ·) := by
  induction texts generalizing first with
  | nil => simp
  | cons next texts ih =>
    rw [List.intercalate_cons_cons, ih, List.flatMap_cons, List.append_assoc, List.append_assoc]

/-- A list with separators is delimited by a stop with which neither a member nor a separator
starts. -/
theorem Delimited.separated (h : Delimited good write)
    (hstop : ∀ a x y, good a → write a ++ x ≠ stop ++ y) (hsep : ∀ x y, sep ++ x ≠ stop ++ y)
    {as bs : List α} {x y : List Char} (has : ∀ a ∈ as, good a) (hbs : ∀ b ∈ bs, good b)
    (heq : sep.intercalate (as.map write) ++ (stop ++ x) =
      sep.intercalate (bs.map write) ++ (stop ++ y)) :
    as = bs ∧ x = y := by
  have hcons : ∀ a as rest, sep.intercalate ((a :: as).map write) ++ rest =
      write a ++ (as.flatMap (fun a => sep ++ write a) ++ rest) := by
    intro a as rest
    rw [List.map_cons, intercalate_cons, List.flatMap_map, List.append_assoc]
  -- behind the first member comes a list whose members start with the separator
  have hnext : Delimited good fun a => sep ++ write a := by
    intro a b x y ha hb heq
    rw [List.append_assoc, List.append_assoc] at heq
    exact h a b x y ha hb (List.append_cancel_left heq)
  have hnextStop : ∀ a x y, good a → sep ++ write a ++ x ≠ stop ++ y := by
    intro a x y _
    rw [List.append_assoc]
    exact hsep _ _
  cases as with
  | nil =>
    cases bs with
    | nil => exact ⟨rfl, List.append_cancel_left heq⟩
    | cons b bs =>
      rw [hcons] at heq
      exact absurd heq.symm (hstop b _ _ (hbs b (by simp)))
  | cons a as =>
    obtain ⟨ha, has⟩ := List.forall_mem_cons.mp has
    rw [hcons] at heq
    cases bs with
    | nil => exact absurd heq (hstop a _ _ ha)
    | cons b bs =>
      obtain ⟨hb, htail⟩ := List.forall_mem_cons.mp hbs
      rw [hcons] at heq
      obtain ⟨rfl, hrest⟩ := h a b _ _ ha hb heq
      obtain ⟨rfl, rfl⟩ := hnext.list hnextStop has htail hrest
      exact ⟨rfl, rfl⟩

end

/-! ## Bytes of an escaped text -/

namespace Text

/-- The byte for which a letter stands behind a backslash. -/
def byteOfLetter? : Char → Option UInt8
  | '"' => some 0x22
  | '\\' => some 0x5C
  | 'n' => some 0x0A
  | 't' => some 0x09
  | 'r' => some 0x0D
  | 'b' => some 0x08
  | _ => none

/-- The byte that an escaped text starts with, and the text behind it. -/
def unescapeByte? : List Char → Option (UInt8 × List Char)
  | [] => none
  | c :: rest =>
    if c = '\\' then
      match rest with
      | [] => none
      | d :: rest =>
        match byteOfLetter? d, rest with
        | some b, rest => some (b, rest)
        | none, e :: f :: rest =>
          some (UInt8.ofNat (100 * (d.toNat - 48) + 10 * (e.toNat - 48) + (f.toNat - 48)), rest)
        | none, _ => none
    else some (UInt8.ofNat c.toNat, rest)

theorem toNat_ofNat_of_lt {n : Nat} (h : n < 128) : (Char.ofNat n).toNat = n := by
  rw [Char.toNat_ofNat, if_pos (Or.inl (by omega))]

theorem toNat_decimalDigit (n : Nat) : (decimalDigit n).toNat = 48 + n % 10 :=
  toNat_ofNat_of_lt (by have h := Nat.mod_lt n (show 10 > 0 by decide); simp; omega)

/-- No letter is a digit. -/
theorem byteOfLetter?_decimalDigit (n : Nat) : byteOfLetter? (decimalDigit n) = none := by
  have h : ∀ m < 10, byteOfLetter? (Char.ofNat (48 + m)) = none := by decide
  exact h (n % 10) (Nat.mod_lt n (by decide))

theorem ofNat_toNat (b : UInt8) : UInt8.ofNat b.toNat = b := by
  simp

/-- A letter is printable ASCII. -/
theorem byteOfLetter?_eq_some {c : Char} {b : UInt8} (h : byteOfLetter? c = some b) :
    32 ≤ c.toNat ∧ c.toNat ≤ 126 := by
  unfold byteOfLetter? at h
  split at h <;> first | decide | cases h

/-- One byte of an escaped text: a letter behind a backslash, a character for itself, or three digits
behind a backslash. -/
theorem escapeByte_cases (b : UInt8) :
    (∃ c, escapeByte b = ['\\', c] ∧ byteOfLetter? c = some b) ∨
    (∃ c, escapeByte b = [c] ∧ c.toNat = b.toNat ∧ (32 ≤ c.toNat ∧ c.toNat ≤ 126) ∧
      c ≠ '"' ∧ c ≠ '\\') ∨
    escapeByte b = ['\\', decimalDigit (b.toNat / 100), decimalDigit (b.toNat / 10),
      decimalDigit b.toNat] := by
  -- a byte with a letter of its own
  have hletter : ∀ (n : UInt8) {c : Char}, b.toNat = n.toNat → byteOfLetter? c = some n →
      ∃ c', ['\\', c] = ['\\', c'] ∧ byteOfLetter? c' = some b := by
    intro n c hn hc
    obtain rfl := UInt8.toNat_inj.mp hn
    exact ⟨c, rfl, hc⟩
  simp only [escapeByte]
  split_ifs with h₁ h₂ h₃ h₄ h₅ h₆ h₇
  · exact .inl (hletter 0x22 h₁ rfl)
  · exact .inl (hletter 0x5C h₂ rfl)
  · exact .inl (hletter 0x0A h₃ rfl)
  · exact .inl (hletter 0x09 h₄ rfl)
  · exact .inl (hletter 0x0D h₅ rfl)
  · exact .inl (hletter 0x08 h₆ rfl)
  · have htoNat : (Char.ofNat b.toNat).toNat = b.toNat := toNat_ofNat_of_lt (by omega)
    refine .inr (.inl ⟨_, rfl, htoNat, by omega, ?_, ?_⟩)
    · intro h
      rw [h] at htoNat
      exact h₁ htoNat.symm
    · intro h
      rw [h] at htoNat
      exact h₂ htoNat.symm
  · exact .inr (.inr rfl)

/-- Three decimal digits of a byte write the byte. -/
theorem digits_toNat (b : UInt8) :
    100 * (b.toNat / 100 % 10) + 10 * (b.toNat / 10 % 10) + b.toNat % 10 = b.toNat := by
  have hlt : b.toNat < 256 := b.toNat_lt
  omega

/-- One byte of an escaped text is read as that byte, whatever follows. -/
theorem unescapeByte?_append (b : UInt8) (rest : List Char) :
    unescapeByte? (escapeByte b ++ rest) = some (b, rest) := by
  rcases escapeByte_cases b with ⟨c, hcode, hc⟩ | ⟨c, hcode, hc, -, -, hbackslash⟩ | hcode
  · simp [hcode, unescapeByte?, hc]
  · simp [hcode, unescapeByte?, hbackslash, hc]
  · simp [hcode, unescapeByte?, byteOfLetter?_decimalDigit, toNat_decimalDigit, digits_toNat]

/-- The characters of one byte of an escaped text, and the one it starts with. -/
theorem escapeByte_chars (b : UInt8) :
    (∀ c ∈ escapeByte b, 32 ≤ c.toNat ∧ c.toNat ≤ 126) ∧ (escapeByte b).head? ≠ some '"' := by
  have hdigit : ∀ n, 32 ≤ (decimalDigit n).toNat ∧ (decimalDigit n).toNat ≤ 126 := by
    intro n
    rw [toNat_decimalDigit]
    omega
  rcases escapeByte_cases b with ⟨c, hcode, hc⟩ | ⟨c, hcode, -, hrange, hquote, -⟩ | hcode
  · simp [hcode, byteOfLetter?_eq_some hc]
  · simp [hcode, hrange, hquote]
  · simp [hcode, hdigit]

end Text

/-! ## Escaped texts -/

open Text

/-- One byte of an escaped text. -/
theorem delimited_escapeByte : Delimited (fun _ : UInt8 => True) escapeByte := by
  intro b b' x y _ _ heq
  have hread := unescapeByte?_append b x
  rw [heq, unescapeByte?_append] at hread
  obtain ⟨rfl, rfl⟩ := Prod.mk.inj (Option.some.inj hread)
  exact ⟨rfl, rfl⟩

/-- A text is determined by its bytes. -/
theorem utf8Bytes_inj {s t : String} (h : utf8Bytes s = utf8Bytes t) : s = t := by
  have hdata : s.toByteArray.data = t.toByteArray.data := Array.toList_inj.mp h
  exact String.toByteArray_inj.mp (ByteArray.ext hdata)

theorem toList_escape (s : String) : (escape s).toList = escapeBytes (utf8Bytes s) :=
  String.toList_ofList

/-- An escaped text is printable ASCII. -/
theorem escape_chars (s : String) : ∀ c ∈ (escape s).toList, 32 ≤ c.toNat ∧ c.toNat ≤ 126 := by
  intro c hc
  rw [toList_escape, escapeBytes] at hc
  obtain ⟨b, -, hb⟩ := List.mem_flatMap.mp hc
  exact (escapeByte_chars b).1 c hb

/-- An escaped text ends where a character comes with which no byte starts. -/
theorem delimited_escape {stop : Char} (hstop : stop = '"' ∨ stop.toNat < 32) {s t : String}
    {x y : List Char} (heq : (escape s).toList ++ stop :: x = (escape t).toList ++ stop :: y) :
    s = t ∧ x = y := by
  have hstart : ∀ b x y, True → escapeByte b ++ x ≠ [stop] ++ y := by
    intro b x y _ h
    obtain ⟨hchars, hhead⟩ := escapeByte_chars b
    cases hbyte : escapeByte b with
    | nil =>
      have hread := unescapeByte?_append b []
      rw [hbyte] at hread
      cases hread
    | cons c rest =>
      rw [hbyte] at h hchars hhead
      obtain rfl := (List.cons.inj h).1
      rcases hstop with rfl | hlow
      · exact hhead rfl
      · have hc := hchars c (by simp)
        omega
  rw [toList_escape, toList_escape] at heq
  obtain ⟨hbytes, hrest⟩ := delimited_escapeByte.list hstart (by simp) (by simp) heq
  exact ⟨utf8Bytes_inj hbytes, hrest⟩

/-- A quoted value. -/
theorem delimited_quote : Delimited (fun _ : String => True) fun s => (quote s).toList := by
  intro s t x y _ _ heq
  have hquote : ∀ (s : String) (x : List Char), (quote s).toList ++ x =
      '"' :: ((escape s).toList ++ '"' :: x) := by
    intro s x
    simp [quote]
  rw [hquote, hquote] at heq
  exact delimited_escape (.inl rfl) (List.cons.inj heq).2

/-! ## Printed characters -/

/-- The characters of which the text of a record is made. -/
def IsPrinted (c : Char) : Prop :=
  c = '\n' ∨ c = '\t' ∨ (32 ≤ c.toNat ∧ c.toNat ≤ 126)

instance (c : Char) : Decidable (IsPrinted c) := by unfold IsPrinted; infer_instance

/-- A text of such characters. -/
def AllPrinted (s : List Char) : Prop :=
  ∀ c ∈ s, IsPrinted c

@[simp] theorem AllPrinted.nil : AllPrinted [] := by
  simp [AllPrinted]

@[simp] theorem allPrinted_append {s t : List Char} :
    AllPrinted (s ++ t) ↔ AllPrinted s ∧ AllPrinted t :=
  List.forall_mem_append

@[simp] theorem allPrinted_cons {c : Char} {s : List Char} :
    AllPrinted (c :: s) ↔ IsPrinted c ∧ AllPrinted s :=
  List.forall_mem_cons

theorem AllPrinted.flatMap {α : Type} {write : α → List Char} {as : List α}
    (h : ∀ a ∈ as, AllPrinted (write a)) : AllPrinted (as.flatMap write) := by
  intro c hc
  obtain ⟨a, ha, hca⟩ := List.mem_flatMap.mp hc
  exact h a ha c hca

theorem AllPrinted.intercalate {sep : List Char} {texts : List (List Char)} (hsep : AllPrinted sep)
    (h : ∀ s ∈ texts, AllPrinted s) : AllPrinted (sep.intercalate texts) := by
  cases texts with
  | nil => simp
  | cons first texts =>
    obtain ⟨hfirst, htexts⟩ := List.forall_mem_cons.mp h
    rw [intercalate_cons, allPrinted_append]
    refine ⟨hfirst, AllPrinted.flatMap fun s hs => ?_⟩
    exact allPrinted_append.mpr ⟨hsep, htexts s hs⟩

/-- The characters of names are printed. -/
theorem isPrinted_of_isNameTail {c : Char} (h : Source.isNameTail c = true) : IsPrinted c := by
  have hrange := Source.toNat_of_isNameTail h
  exact .inr (.inr (by omega))

@[simp] theorem allPrinted_escape (s : String) : AllPrinted (escape s).toList :=
  fun c hc => .inr (.inr (escape_chars s c hc))

@[simp] theorem allPrinted_quote (s : String) : AllPrinted (quote s).toList := by
  have hquote : IsPrinted '"' := by decide
  simp [quote, hquote]

end Litmus
