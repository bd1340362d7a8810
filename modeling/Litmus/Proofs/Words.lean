import Litmus.Source.Lexeme
import Mathlib.Data.List.TakeWhile

/-!
# Words and numbers

What the scanners of single words read, seen from both sides: a word with something behind it that
could be no part of it is read whole, and what has been read is a word.

* **`IsWord`**, **`IsNumber`**: the shape of a word of two classes of characters, and of a number.
* **`Stops`**: the text after a word does not go on with a given class.
* **`word_append_of_stops`**, **`number_append`**: reading.
* **`isWord_of_word`**, **`isNumber_of_number`**: what reading says.
* **`naturalOf_toDigits`**: the decimal digits of a number write that number.
-/

namespace Litmus.Source

open Litmus.Text

/-! ## Classes of characters -/

theorem isDigit_iff_toNat {c : Char} : c.isDigit = true ↔ 48 ≤ c.toNat ∧ c.toNat ≤ 57 := by
  simp [Char.isDigit, UInt32.le_iff_toNat_le, ← Char.toNat_val]

theorem isUpper_iff_toNat {c : Char} : c.isUpper = true ↔ 65 ≤ c.toNat ∧ c.toNat ≤ 90 := by
  show decide (65 ≤ c.val ∧ c.val ≤ 90) = true ↔ 65 ≤ c.toNat ∧ c.toNat ≤ 90
  simp [UInt32.le_iff_toNat_le, ← Char.toNat_val]

theorem isLower_iff_toNat {c : Char} : c.isLower = true ↔ 97 ≤ c.toNat ∧ c.toNat ≤ 122 := by
  show (decide (97 ≤ c.val) && decide (c.val ≤ 122)) = true ↔ 97 ≤ c.toNat ∧ c.toNat ≤ 122
  simp [UInt32.le_iff_toNat_le, ← Char.toNat_val]

theorem isAlpha_iff_toNat {c : Char} : c.isAlpha = true ↔
    (65 ≤ c.toNat ∧ c.toNat ≤ 90) ∨ (97 ≤ c.toNat ∧ c.toNat ≤ 122) := by
  show (c.isUpper || c.isLower) = true ↔ _
  rw [Bool.or_eq_true, isUpper_iff_toNat, isLower_iff_toNat]

/-- The letters, digits and marks that names, numbers and labels are made of, by their numbers. -/
theorem toNat_of_isNameTail {c : Char} (h : isNameTail c = true) :
    (48 ≤ c.toNat ∧ c.toNat ≤ 57) ∨ (65 ≤ c.toNat ∧ c.toNat ≤ 90) ∨
      (97 ≤ c.toNat ∧ c.toNat ≤ 122) ∨ c.toNat = 95 ∨ c.toNat = 46 := by
  simp only [isNameTail, Char.isAlphanum, Bool.or_eq_true, isAlpha_iff_toNat, isDigit_iff_toNat,
    beq_iff_eq] at h
  rcases h with (((h | h) | h) | rfl) | rfl
  · exact .inr (.inl h)
  · exact .inr (.inr (.inl h))
  · exact .inl h
  · exact .inr (.inr (.inr (.inl rfl)))
  · exact .inr (.inr (.inr (.inr rfl)))

theorem isNameTail_of_isNameHead {c : Char} (h : isNameHead c = true) : isNameTail c = true := by
  simp only [isNameHead, Bool.or_eq_true] at h
  rcases h with h | h <;> simp [isNameTail, Char.isAlphanum, h]

theorem isNameTail_of_isDigit {c : Char} (h : c.isDigit = true) : isNameTail c = true := by
  simp [isNameTail, Char.isAlphanum, h]

theorem isNameTail_of_isRegisterTail {c : Char} (h : isRegisterTail c = true) :
    isNameTail c = true := by
  simp only [isRegisterTail, Bool.or_eq_true] at h
  rcases h with h | h <;> simp [isNameTail, h]

theorem isNameTail_of_isLabelHead {c : Char} (h : isLabelHead c = true) : isNameTail c = true := by
  simp only [isLabelHead, Bool.or_eq_true] at h
  rcases h with (h | h) | h <;> simp [isNameTail, Char.isAlphanum, h]

theorem isNameTail_of_isHexDigit {c : Char} (h : isHexDigit c = true) : isNameTail c = true := by
  simp only [isHexDigit, Bool.or_eq_true, Bool.and_eq_true, decide_eq_true_eq] at h
  rcases h with (h | ⟨h₁, h₂⟩) | ⟨h₁, h₂⟩
  · exact isNameTail_of_isDigit h
  · have halpha : c.isAlpha = true :=
      isAlpha_iff_toNat.mpr (.inr ⟨h₁, Nat.le_trans h₂ (by decide)⟩)
    simp [isNameTail, Char.isAlphanum, halpha]
  · have halpha : c.isAlpha = true :=
      isAlpha_iff_toNat.mpr (.inl ⟨h₁, Nat.le_trans h₂ (by decide)⟩)
    simp [isNameTail, Char.isAlphanum, halpha]

theorem isSpace_of_isNameTail {c : Char} (h : isNameTail c = true) : isSpace c = false := by
  have hrange := toNat_of_isNameTail h
  simp only [isSpace, Bool.or_eq_false_iff, Bool.and_eq_false_iff, decide_eq_false_iff_not,
    beq_eq_false_iff_ne]
  omega

/-- The characters of a text that can be looked through. -/
theorem isSpace_of_all {w : List Char} (h : w.all (!isSpace ·) = true) :
    ∀ c ∈ w, isSpace c = false := by
  intro c hc
  simpa using List.all_eq_true.mp h c hc

theorem isBlank_of_isSpace {c : Char} (h : isSpace c = false) : isBlank c = false := by
  cases hblank : isBlank c with
  | false => rfl
  | true => rw [isSpace_of_isBlank hblank] at h; exact h

theorem isNameHead_of_isDigit {c : Char} (h : c.isDigit = true) : isNameHead c = false := by
  have hdigit := isDigit_iff_toNat.mp h
  cases hhead : isNameHead c with
  | false => rfl
  | true =>
    simp only [isNameHead, Bool.or_eq_true, isAlpha_iff_toNat, beq_iff_eq] at hhead
    rcases hhead with hhead | rfl
    · omega
    · exact absurd hdigit (by decide)

/-! ## Words -/

/-- A character of one class followed by characters of another. -/
def IsWord (head tail : Char → Bool) : List Char → Prop
  | [] => False
  | c :: w => head c = true ∧ ∀ x ∈ w, tail x = true

instance (head tail : Char → Bool) : (w : List Char) → Decidable (IsWord head tail w)
  | [] => isFalse id
  | c :: w =>
    decidable_of_iff (head c = true ∧ w.all tail = true) (and_congr_right fun _ => List.all_eq_true)

/-- The text does not go on with a character of a class. -/
def Stops (tail : Char → Bool) (rest : List Char) : Prop :=
  ∀ x ∈ rest.head?, tail x = false

theorem Stops.nil (tail : Char → Bool) : Stops tail [] := by
  simp [Stops]

theorem Stops.cons {tail : Char → Bool} {c : Char} (h : tail c = false) (rest : List Char) :
    Stops tail (c :: rest) := by
  simp [Stops, h]

theorem Stops.of_initial {tail : Char → Bool} {s rest : List Char} (h : Stops tail rest)
    (hs : s <+: rest) : Stops tail s := by
  obtain ⟨t, rfl⟩ := hs
  intro c hc
  refine h c ?_
  rw [List.head?_append, show s.head? = some c from hc]
  rfl

/-- A text that does not go on with a class does not go on with part of it. -/
theorem Stops.mono {tail tail' : Char → Bool} {rest : List Char} (h : Stops tail rest)
    (hsub : ∀ c, tail' c = true → tail c = true) : Stops tail' rest := by
  intro x hx
  have hx' := h x hx
  cases htail : tail' x with
  | false => rfl
  | true => rw [hsub x htail] at hx'; exact hx'

/-- Where a run of a class ends does not depend on how the text is cut. -/
theorem append_inj_of_stops {tail : Char → Bool} {w w' rest rest' : List Char}
    (hw : ∀ x ∈ w, tail x = true) (hw' : ∀ x ∈ w', tail x = true) (hrest : Stops tail rest)
    (hrest' : Stops tail rest') (h : w ++ rest = w' ++ rest') : w = w' ∧ rest = rest' := by
  induction w generalizing w' with
  | nil =>
    cases w' with
    | nil => exact ⟨rfl, h⟩
    | cons x w' =>
      rw [List.nil_append] at h
      have hx := hrest x (by rw [h]; rfl)
      rw [hw' x (by simp)] at hx
      exact absurd hx (by decide)
  | cons x w ih =>
    cases w' with
    | nil =>
      rw [List.nil_append] at h
      have hx := hrest' x (by rw [← h]; rfl)
      rw [hw x (by simp)] at hx
      exact absurd hx (by decide)
    | cons x' w' =>
      obtain ⟨rfl, htail⟩ := List.cons.inj h
      have hwt : ∀ y ∈ w, tail y = true := fun y hy => hw y (List.mem_cons_of_mem x hy)
      have hwt' : ∀ y ∈ w', tail y = true := fun y hy => hw' y (List.mem_cons_of_mem x hy)
      obtain ⟨rfl, hrests⟩ := ih hwt hwt' htail
      exact ⟨rfl, hrests⟩

/-- A word is read whole if it stops there. -/
theorem word_append_of_stops {head tail : Char → Bool} {w rest : List Char}
    (hw : IsWord head tail w) (hrest : Stops tail rest) :
    word head tail (w ++ rest) = some (w, rest) := by
  cases w with
  | nil => exact absurd hw (by simp [IsWord])
  | cons c w => exact word_append hw.1 hw.2 hrest

/-- What is left behind the longest run of a class does not go on with the class. -/
theorem stops_dropWhile (tail : Char → Bool) (s : List Char) : Stops tail (s.dropWhile tail) := by
  intro x hx
  have h := List.head?_dropWhile_not tail s
  rw [hx] at h
  exact h

/-- What is read as a word is one, and it stops there. -/
theorem isWord_of_word {head tail : Char → Bool} {s w rest : List Char}
    (h : word head tail s = some (w, rest)) :
    IsWord head tail w ∧ s = w ++ rest ∧ Stops tail rest := by
  have happ := word_eq_append h
  cases s with
  | nil => exact absurd h (by simp [word])
  | cons c s =>
    rw [word] at h
    split at h
    · rename_i hc
      obtain ⟨rfl, rfl⟩ := Prod.mk.inj (Option.some.inj h)
      exact ⟨⟨hc, fun x hx => List.mem_takeWhile_imp hx⟩, happ, stops_dropWhile tail s⟩
    · exact absurd h (by simp)

theorem word_eq_none {head tail : Char → Bool} {s : List Char} (h : Stops head s) :
    word head tail s = none := by
  cases s with
  | nil => rfl
  | cons c s => rw [word, h c rfl]; rfl

/-- The shape of an identifier. -/
def IsName : List Char → Prop := IsWord isNameHead isNameTail

/-- The shape of the name of a register. -/
def IsRegisterName : List Char → Prop := IsWord isNameHead isRegisterTail

/-- The shape of the name of a label. -/
def IsLabelName : List Char → Prop := IsWord isLabelHead isNameTail

/-- A run of digits. -/
def IsDigits : List Char → Prop := IsWord Char.isDigit Char.isDigit

instance (w : List Char) : Decidable (IsName w) := by unfold IsName; infer_instance
instance (w : List Char) : Decidable (IsRegisterName w) := by unfold IsRegisterName; infer_instance
instance (w : List Char) : Decidable (IsLabelName w) := by unfold IsLabelName; infer_instance
instance (w : List Char) : Decidable (IsDigits w) := by unfold IsDigits; infer_instance

/-- Words of the format consist of the characters of names. -/
theorem isNameTail_of_isWord {head tail : Char → Bool} {w : List Char}
    (hhead : ∀ c, head c = true → isNameTail c = true)
    (htail : ∀ c, tail c = true → isNameTail c = true) (hw : IsWord head tail w) :
    ∀ c ∈ w, isNameTail c = true := by
  cases w with
  | nil => simp
  | cons c w =>
    intro x hx
    rcases List.mem_cons.mp hx with rfl | hx
    · exact hhead x hw.1
    · exact htail x (hw.2 x hx)

theorem isNameTail_of_isName {w : List Char} (hw : IsName w) : ∀ c ∈ w, isNameTail c = true :=
  isNameTail_of_isWord (fun _ => isNameTail_of_isNameHead) (fun _ h => h) hw

theorem isNameTail_of_isRegisterName {w : List Char} (hw : IsRegisterName w) :
    ∀ c ∈ w, isNameTail c = true :=
  isNameTail_of_isWord (fun _ => isNameTail_of_isNameHead) (fun _ => isNameTail_of_isRegisterTail) hw

theorem isNameTail_of_isLabelName {w : List Char} (hw : IsLabelName w) :
    ∀ c ∈ w, isNameTail c = true :=
  isNameTail_of_isWord (fun _ => isNameTail_of_isLabelHead) (fun _ h => h) hw

theorem isNameTail_of_isDigits {w : List Char} (hw : IsDigits w) : ∀ c ∈ w, isNameTail c = true :=
  isNameTail_of_isWord (fun _ => isNameTail_of_isDigit) (fun _ => isNameTail_of_isDigit) hw

/-! ## Numbers -/

/-- The shape of a number without sign. -/
def IsUnsigned (w : List Char) : Prop :=
  IsDigits w ∨ ∃ digits, w = '0' :: 'x' :: digits ∧ IsWord isHexDigit isHexDigit digits

/-- The shape of a number. -/
def IsNumber (w : List Char) : Prop :=
  IsUnsigned w ∨ ∃ digits, w = '-' :: digits ∧ IsUnsigned digits

theorem IsUnsigned.head {w : List Char} (hw : IsUnsigned w) :
    ∃ c r, w = c :: r ∧ c.isDigit = true := by
  rcases hw with hw | ⟨digits, rfl, -⟩
  · cases w with
    | nil => exact absurd hw (by simp [IsDigits, IsWord])
    | cons c r => exact ⟨c, r, rfl, hw.1⟩
  · exact ⟨'0', 'x' :: digits, rfl, by decide⟩

theorem IsUnsigned.isNameTail {w : List Char} (hw : IsUnsigned w) :
    ∀ c ∈ w, isNameTail c = true := by
  rcases hw with hw | ⟨digits, rfl, hdigits⟩
  · exact isNameTail_of_isDigits hw
  · intro c hc
    rcases List.mem_cons.mp hc with rfl | hc
    · decide
    rcases List.mem_cons.mp hc with rfl | hc
    · decide
    exact isNameTail_of_isWord (fun _ => isNameTail_of_isHexDigit)
      (fun _ => isNameTail_of_isHexDigit) hdigits c hc

theorem IsNumber.isSpace {w : List Char} (hw : IsNumber w) : ∀ c ∈ w, isSpace c = false := by
  rcases hw with hw | ⟨digits, rfl, hdigits⟩
  · exact fun c hc => isSpace_of_isNameTail (hw.isNameTail c hc)
  · intro c hc
    rcases List.mem_cons.mp hc with rfl | hc
    · decide
    · exact isSpace_of_isNameTail (hdigits.isNameTail c hc)

/-- Decimal digits are read as such where no `x` and no digit follows. -/
theorem unsignedNumber_of_isDigits {w rest : List Char} (hw : IsDigits w)
    (hrest : Stops isNameTail rest) : unsignedNumber (w ++ rest) = some (w, rest) := by
  have hdigits : digits (w ++ rest) = some (w, rest) :=
    word_append_of_stops hw (hrest.mono fun _ => isNameTail_of_isDigit)
  unfold unsignedNumber
  split
  · rename_i r heq
    -- the `x` would be part of the digits or stand right behind them
    exfalso
    cases w with
    | nil => exact hw
    | cons c w =>
      cases w with
      | nil =>
        have hx : rest = 'x' :: r := (List.cons.inj heq).2
        exact absurd (hrest 'x' (by rw [hx]; rfl)) (by decide)
      | cons d w =>
        have hd : d = 'x' := (List.cons.inj (List.cons.inj heq).2).1
        have hdigit := hw.2 d (by simp)
        rw [hd] at hdigit
        exact absurd hdigit (by decide)
  · exact hdigits

theorem unsignedNumber_append {w rest : List Char} (hw : IsUnsigned w)
    (hrest : Stops isNameTail rest) : unsignedNumber (w ++ rest) = some (w, rest) := by
  rcases hw with hw | ⟨digits, rfl, hdigits⟩
  · exact unsignedNumber_of_isDigits hw hrest
  · have hread : word isHexDigit isHexDigit (digits ++ rest) = some (digits, rest) :=
      word_append_of_stops hdigits (hrest.mono fun _ => isNameTail_of_isHexDigit)
    rw [List.cons_append, List.cons_append, unsignedNumber, hread]

/-- A number is read whole where no letter, digit or mark of a name follows. -/
theorem number_append {w rest : List Char} (hw : IsNumber w) (hrest : Stops isNameTail rest) :
    number (w ++ rest) = some (w, rest) := by
  rcases hw with hw | ⟨digits, rfl, hdigits⟩
  · obtain ⟨c, r, rfl, hc⟩ := hw.head
    have hread := unsignedNumber_append hw hrest
    unfold number
    split
    · rename_i heq
      rw [(List.cons.inj heq).1] at hc
      exact absurd hc (by decide)
    · exact hread
  · rw [List.cons_append, number, unsignedNumber_append hdigits hrest]
    rfl

/-- No number is read where neither a digit nor a minus sign stands. -/
theorem number_eq_none {s : List Char} (hdigit : Stops Char.isDigit s) (hminus : s.head? ≠ some '-') :
    number s = none := by
  unfold number
  split
  · exact absurd rfl hminus
  · unfold unsignedNumber
    split
    · exact absurd (hdigit '0' rfl) (by decide)
    · exact word_eq_none hdigit

theorem isUnsigned_of_unsignedNumber {s w rest : List Char}
    (h : unsignedNumber s = some (w, rest)) : IsUnsigned w ∧ s = w ++ rest := by
  unfold unsignedNumber at h
  split at h
  · split at h
    · rename_i r u v hword
      obtain ⟨rfl, rfl⟩ := Prod.mk.inj (Option.some.inj h)
      obtain ⟨hu, rfl, -⟩ := isWord_of_word hword
      exact ⟨.inr ⟨u, rfl, hu⟩, rfl⟩
    · obtain ⟨hw, happ, -⟩ := isWord_of_word h
      exact ⟨.inl hw, happ⟩
  · obtain ⟨hw, happ, -⟩ := isWord_of_word h
    exact ⟨.inl hw, happ⟩

theorem isNumber_of_number {s w rest : List Char} (h : number s = some (w, rest)) :
    IsNumber w ∧ s = w ++ rest := by
  unfold number at h
  split at h
  · obtain ⟨⟨u, v⟩, hu, heq⟩ := Option.map_eq_some_iff.mp h
    obtain ⟨rfl, rfl⟩ := Prod.mk.inj heq
    obtain ⟨hunsigned, rfl⟩ := isUnsigned_of_unsignedNumber hu
    exact ⟨.inr ⟨u, rfl, hunsigned⟩, rfl⟩
  · obtain ⟨hunsigned, happ⟩ := isUnsigned_of_unsignedNumber h
    exact ⟨.inl hunsigned, happ⟩

/-! ## Decimal digits -/

theorem naturalOf_eq_ofDigitChars (w : List Char) : naturalOf w = Nat.ofDigitChars 10 w 0 := by
  rw [naturalOf, ofDigits, List.foldl_map, Nat.ofDigitChars_eq_foldl]

@[simp] theorem naturalOf_toDigits (n : Nat) : naturalOf (Nat.toDigits 10 n) = n := by
  rw [naturalOf_eq_ofDigitChars, Nat.ofDigitChars_ten_toDigits]

theorem isDigits_toDigits (n : Nat) : IsDigits (Nat.toDigits 10 n) := by
  have hdigit : ∀ c ∈ Nat.toDigits 10 n, c.isDigit = true := fun c hc =>
    Nat.isDigit_of_mem_toDigits (by decide) (by decide) hc
  cases h : Nat.toDigits 10 n with
  | nil => exact absurd h Nat.toDigits_ne_nil
  | cons c w =>
    rw [h] at hdigit
    exact ⟨hdigit c (by simp), fun x hx => hdigit x (by simp [hx])⟩

end Litmus.Source
