/-!
# White space

Two classes of white space occur in a litmus file.

* `isSpace` is Unicode's: the characters with the property White_Space, and the four information
  separators U+001C to U+001F. Lines, cells, names and file lists are trimmed of these.
* `isBlank` is the format's own: space, tab, line feed and carriage return. These, and no others,
  may stand between the tokens of an assignment or of the final condition.

The main statements: every blank is a space (`isSpace_of_isBlank`), and skipping leaves a text that
starts with none (`skipBlanks_head`).
-/

namespace Litmus.Text

/-! ## The two classes -/

/-- A white space character of Unicode, or one of the four information separators. -/
def isSpace (c : Char) : Bool :=
  let n := c.toNat
  (9 ≤ n && n ≤ 13) || (28 ≤ n && n ≤ 32) || n == 0x85 || n == 0xA0 || n == 0x1680
    || (0x2000 ≤ n && n ≤ 0x200A) || n == 0x2028 || n == 0x2029 || n == 0x202F || n == 0x205F
    || n == 0x3000

/-- The white space that separates tokens. -/
def isBlank (c : Char) : Bool :=
  c == ' ' || c == '\t' || c == '\n' || c == '\r'

theorem isSpace_of_isBlank {c : Char} (h : isBlank c = true) : isSpace c = true := by
  simp only [isBlank, Bool.or_eq_true, beq_iff_eq] at h
  rcases h with ((rfl | rfl) | rfl) | rfl <;> decide

/-! ## Trimming and skipping -/

/-- The text without the spaces at its start. -/
def trimStart (s : List Char) : List Char :=
  s.dropWhile isSpace

/-- The text without the spaces at its end. -/
def trimEnd (s : List Char) : List Char :=
  (s.reverse.dropWhile isSpace).reverse

/-- The text without the spaces at either end. -/
def trim (s : List Char) : List Char :=
  trimEnd (trimStart s)

/-- The text from its first character on that is no blank. -/
def skipBlanks (s : List Char) : List Char :=
  s.dropWhile isBlank

@[simp] theorem trim_nil : trim [] = [] := rfl

@[simp] theorem skipBlanks_nil : skipBlanks [] = [] := rfl

theorem skipBlanks_cons_of_blank {c : Char} (h : isBlank c = true) (s : List Char) :
    skipBlanks (c :: s) = skipBlanks s := by
  simp [skipBlanks, h]

theorem skipBlanks_cons_of_not_blank {c : Char} (h : isBlank c = false) (s : List Char) :
    skipBlanks (c :: s) = c :: s := by
  simp [skipBlanks, h]

/-- Skipping only shortens a text: what bounds every scan that skips first. -/
theorem length_skipBlanks_le (s : List Char) : (skipBlanks s).length ≤ s.length := by
  induction s with
  | nil => simp
  | cons c s ih =>
    by_cases h : isBlank c = true
    · rw [skipBlanks_cons_of_blank h]
      simp only [List.length_cons]
      omega
    · exact Nat.le_of_eq (congrArg List.length (skipBlanks_cons_of_not_blank (by simpa using h) s))

/-- After skipping, the text is empty or starts with a character that is no blank. -/
theorem skipBlanks_head (s : List Char) :
    skipBlanks s = [] ∨ ∃ c r, skipBlanks s = c :: r ∧ isBlank c = false := by
  induction s with
  | nil => exact .inl rfl
  | cons c s ih =>
    by_cases h : isBlank c = true
    · rw [skipBlanks_cons_of_blank h]
      exact ih
    · have h' : isBlank c = false := by simpa using h
      exact .inr ⟨c, s, skipBlanks_cons_of_not_blank h' s, h'⟩

@[simp] theorem skipBlanks_skipBlanks (s : List Char) :
    skipBlanks (skipBlanks s) = skipBlanks s := by
  rcases skipBlanks_head s with h | ⟨c, r, h, hc⟩
  · rw [h, skipBlanks_nil]
  · rw [h, skipBlanks_cons_of_not_blank hc]

end Litmus.Text
