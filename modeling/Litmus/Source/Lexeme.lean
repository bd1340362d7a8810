import Litmus.Location
import Litmus.Text.Integer

/-!
# Lexemes

The words of the format: identifiers, numbers, labels, and the locations and constants that are made
of them. A scanner takes the text that starts at a word and gives what it read and the text after
it; what may stand between words is skipped by whoever expects a word next.

Every scanner takes as much as it can: `word` reads a character of its first class and then all
characters of its second one. Where several kinds of word could start, the order decides:

* a location is `thread:register`, `%register`, `[address]`, `name[index]` or `name`;
* a constant is `Pthread:label`, a number or a name.
-/

namespace Litmus.Source

open Litmus.Text

/-- A scanner: what it reads at the start of a text, and the text after it. -/
abbrev Scanner (α : Type) : Type := List Char → Option (α × List Char)

/-! ## Classes of characters -/

/-- A character that an identifier may start with. -/
def isNameHead (c : Char) : Bool := c.isAlpha || c == '_'

/-- A character that an identifier may go on with. -/
def isNameTail (c : Char) : Bool := c.isAlphanum || c == '_' || c == '.'

/-- A character that the name of a register may go on with. -/
def isRegisterTail (c : Char) : Bool := c.isAlphanum || c == '_'

/-- A character that a label may start with. -/
def isLabelHead (c : Char) : Bool := c.isAlpha || c == '_' || c == '.'

/-- A digit of a hexadecimal number. -/
def isHexDigit (c : Char) : Bool :=
  c.isDigit || ('a' ≤ c && c ≤ 'f') || ('A' ≤ c && c ≤ 'F')

/-! ## Words -/

/-- A character of one class followed by as many of another as there are. -/
def word (head tail : Char → Bool) : Scanner (List Char)
  | [] => none
  | c :: s => if head c then some (c :: s.takeWhile tail, s.dropWhile tail) else none

/-- What was read and what is left make up the text. -/
theorem word_eq_append {head tail : Char → Bool} {s w rest : List Char}
    (h : word head tail s = some (w, rest)) : s = w ++ rest := by
  cases s with
  | nil => simp [word] at h
  | cons c s =>
    rw [word] at h
    split at h
    · simp only [Option.some.injEq, Prod.mk.injEq] at h
      rw [← h.1, ← h.2, List.cons_append, List.takeWhile_append_dropWhile]
    · simp at h

/-- A word is read whole if no character after it could be part of it. -/
theorem word_append {head tail : Char → Bool} {c : Char} {w rest : List Char}
    (hc : head c = true) (hw : ∀ x ∈ w, tail x = true) (hrest : ∀ x ∈ rest.head?, tail x = false) :
    word head tail (c :: (w ++ rest)) = some (c :: w, rest) := by
  have htake : (w ++ rest).takeWhile tail = w := by
    rw [List.takeWhile_append_of_pos hw]
    cases rest with
    | nil => simp
    | cons x rest => simp [hrest x (by simp)]
  have hdrop : (w ++ rest).dropWhile tail = rest := by
    rw [List.dropWhile_append_of_pos hw]
    cases rest with
    | nil => simp
    | cons x rest => simp [hrest x (by simp)]
  rw [word, if_pos hc, htake, hdrop]

/-- An identifier. -/
def name : Scanner (List Char) := word isNameHead isNameTail

/-- A run of digits. -/
def digits : Scanner (List Char) := word Char.isDigit Char.isDigit

/-- The name of a label. -/
def labelName : Scanner (List Char) := word isLabelHead isNameTail

/-- The given character. -/
def mark (c : Char) : List Char → Option (List Char)
  | [] => none
  | d :: s => if d = c then some s else none

@[simp] theorem mark_cons (c : Char) (s : List Char) : mark c (c :: s) = some s := by
  simp [mark]

/-- The given character, after any blanks. -/
def spacedMark (c : Char) (s : List Char) : Option (List Char) :=
  mark c (skipBlanks s)

/-- A number without sign: hexadecimal after `0x` if a hexadecimal digit follows, else decimal. -/
def unsignedNumber (s : List Char) : Option (List Char × List Char) :=
  match s with
  | '0' :: 'x' :: rest =>
    match word isHexDigit isHexDigit rest with
    | some (w, rest) => some ('0' :: 'x' :: w, rest)
    | none => digits s
  | _ => digits s

/-- A number, perhaps with a minus sign. -/
def number (s : List Char) : Option (List Char × List Char) :=
  match s with
  | '-' :: rest => (unsignedNumber rest).map fun (w, rest) => ('-' :: w, rest)
  | _ => unsignedNumber s

/-! ## Constants -/

/-- The number of a thread and the name of one of its labels. -/
def labelConstant (s : List Char) : Option (Constant × List Char) := do
  let s ← mark 'P' s
  let (thread, s) ← digits s
  let s ← mark ':' s
  let (label, s) ← labelName s
  return (.label (naturalOf thread) (String.ofList label), s)

/-- A number as a constant. -/
def concreteConstant (s : List Char) : Option (Constant × List Char) := do
  let (w, s) ← number s
  return (.concrete (String.ofList w), s)

/-- An identifier as a constant. -/
def symbolicConstant (s : List Char) : Option (Constant × List Char) := do
  let (w, s) ← name s
  return (.symbolic (String.ofList w), s)

/-- A constant. -/
def constant (s : List Char) : Option (Constant × List Char) :=
  (labelConstant s).or ((concreteConstant s).or (symbolicConstant s))

/-! ## Locations -/

/-- A register of a thread: `thread:register`. -/
def registerLocation (s : List Char) : Option (Location × List Char) := do
  let (thread, s) ← digits s
  let s ← spacedMark ':' s
  let (register, s) ← word isNameHead isRegisterTail (skipBlanks s)
  return (.register (naturalOf thread) (String.ofList register), s)

/-- A symbolic register: `%register`. -/
def symbolicRegisterLocation (s : List Char) : Option (Location × List Char) := do
  let s ← mark '%' s
  let (register, s) ← name (skipBlanks s)
  return (.symbolicRegister (String.ofList register), s)

/-- The memory at an address: `[address]`. -/
def addressLocation (s : List Char) : Option (Location × List Char) := do
  let s ← mark '[' s
  let s := skipBlanks s
  let (address, s) ← (concreteConstant s).or (symbolicConstant s)
  let s ← spacedMark ']' s
  return (.global address, s)

/-- A cell of an array: `name[index]`. -/
def cellLocation (s : List Char) : Option (Location × List Char) := do
  let (base, s) ← name s
  let s ← spacedMark '[' s
  let (index, s) ← digits (skipBlanks s)
  let s ← spacedMark ']' s
  return (.cell (.symbolic (String.ofList base)) (naturalOf index), s)

/-- A name in memory. -/
def globalLocation (s : List Char) : Option (Location × List Char) := do
  let (w, s) ← name s
  return (.global (.symbolic (String.ofList w)), s)

/-- A location that cannot be taken for a constant. -/
def markedLocation (s : List Char) : Option (Location × List Char) :=
  (registerLocation s).or ((symbolicRegisterLocation s).or (addressLocation s))

/-- A location. -/
def location (s : List Char) : Option (Location × List Char) :=
  (markedLocation s).or ((cellLocation s).or (globalLocation s))

/-! ## Scanners shorten the text

Every scanner reads at least one character. This bounds whatever reads word after word. -/

theorem length_word {head tail : Char → Bool} {s w rest : List Char}
    (h : word head tail s = some (w, rest)) : rest.length < s.length := by
  have happ := word_eq_append h
  cases s with
  | nil => simp [word] at h
  | cons c s =>
    rw [word] at h
    split at h
    · simp only [Option.some.injEq, Prod.mk.injEq] at h
      rw [happ, ← h.1]
      simp only [List.cons_append, List.length_cons, List.length_append]
      omega
    · simp at h

theorem length_mark {c : Char} {s rest : List Char} (h : mark c s = some rest) :
    rest.length < s.length := by
  cases s with
  | nil => simp [mark] at h
  | cons d s =>
    rw [mark] at h
    split at h
    · obtain rfl := Option.some.inj h
      simp
    · simp at h

theorem length_spacedMark {c : Char} {s rest : List Char} (h : spacedMark c s = some rest) :
    rest.length < s.length :=
  Nat.lt_of_lt_of_le (length_mark h) (length_skipBlanks_le s)

theorem length_unsignedNumber {s w rest : List Char} (h : unsignedNumber s = some (w, rest)) :
    rest.length < s.length := by
  unfold unsignedNumber at h
  split at h
  · split at h
    · rename_i hw
      simp only [Option.some.injEq, Prod.mk.injEq] at h
      have := length_word hw
      rw [← h.2]
      simp only [List.length_cons]
      omega
    · exact length_word h
  · exact length_word h

theorem length_number {s w rest : List Char} (h : number s = some (w, rest)) :
    rest.length < s.length := by
  unfold number at h
  split at h
  · simp only [Option.map_eq_some_iff, Prod.exists, Prod.mk.injEq] at h
    obtain ⟨_, _, hn, -, rfl⟩ := h
    exact Nat.lt_succ_of_lt (length_unsignedNumber hn)
  · exact length_unsignedNumber h

theorem length_concreteConstant {s rest : List Char} {c : Constant}
    (h : concreteConstant s = some (c, rest)) : rest.length < s.length := by
  simp only [concreteConstant, Option.bind_eq_bind, Option.bind_eq_some_iff, Prod.exists,
    Option.pure_def, Option.some.injEq, Prod.mk.injEq] at h
  obtain ⟨_, _, h₁, -, rfl⟩ := h
  exact length_number h₁

theorem length_symbolicConstant {s rest : List Char} {c : Constant}
    (h : symbolicConstant s = some (c, rest)) : rest.length < s.length := by
  simp only [symbolicConstant, Option.bind_eq_bind, Option.bind_eq_some_iff, Prod.exists,
    Option.pure_def, Option.some.injEq, Prod.mk.injEq] at h
  obtain ⟨_, _, h₁, -, rfl⟩ := h
  exact length_word h₁

theorem length_constant {s rest : List Char} {c : Constant} (h : constant s = some (c, rest)) :
    rest.length < s.length := by
  simp only [constant, Option.or_eq_some_iff] at h
  rcases h with h | ⟨-, h | ⟨-, h⟩⟩
  · simp only [labelConstant, Option.bind_eq_bind, Option.bind_eq_some_iff, Prod.exists,
      Option.pure_def, Option.some.injEq, Prod.mk.injEq] at h
    obtain ⟨s₁, h₁, _, s₂, h₂, s₃, h₃, _, s₄, h₄, -, rfl⟩ := h
    have := length_mark h₁
    have := length_word h₂
    have := length_mark h₃
    have := length_word h₄
    omega
  · exact length_concreteConstant h
  · exact length_symbolicConstant h

theorem length_markedLocation {s rest : List Char} {l : Location}
    (h : markedLocation s = some (l, rest)) : rest.length < s.length := by
  simp only [markedLocation, Option.or_eq_some_iff] at h
  rcases h with h | ⟨-, h | ⟨-, h⟩⟩
  · simp only [registerLocation, Option.bind_eq_bind, Option.bind_eq_some_iff, Prod.exists,
      Option.pure_def, Option.some.injEq, Prod.mk.injEq] at h
    obtain ⟨_, s₁, h₁, s₂, h₂, _, s₃, h₃, -, rfl⟩ := h
    have := length_word h₁
    have := length_spacedMark h₂
    have := length_word h₃
    have := length_skipBlanks_le s₂
    omega
  · simp only [symbolicRegisterLocation, Option.bind_eq_bind, Option.bind_eq_some_iff,
      Prod.exists, Option.pure_def, Option.some.injEq, Prod.mk.injEq] at h
    obtain ⟨s₁, h₁, _, s₂, h₂, -, rfl⟩ := h
    have := length_mark h₁
    have := length_word h₂
    have := length_skipBlanks_le s₁
    omega
  · simp only [addressLocation, Option.bind_eq_bind, Option.bind_eq_some_iff, Prod.exists,
      Option.pure_def, Option.some.injEq, Prod.mk.injEq, Option.or_eq_some_iff] at h
    obtain ⟨s₁, h₁, _, s₂, h₂, s₃, h₃, -, rfl⟩ := h
    have := length_mark h₁
    have := length_skipBlanks_le s₁
    have := length_spacedMark h₃
    have : s₂.length < (skipBlanks s₁).length := by
      rcases h₂ with h₂ | ⟨-, h₂⟩
      · exact length_concreteConstant h₂
      · exact length_symbolicConstant h₂
    omega

theorem length_location {s rest : List Char} {l : Location} (h : location s = some (l, rest)) :
    rest.length < s.length := by
  simp only [location, Option.or_eq_some_iff] at h
  rcases h with h | ⟨-, h | ⟨-, h⟩⟩
  · exact length_markedLocation h
  · simp only [cellLocation, Option.bind_eq_bind, Option.bind_eq_some_iff, Prod.exists,
      Option.pure_def, Option.some.injEq, Prod.mk.injEq] at h
    obtain ⟨_, s₁, h₁, s₂, h₂, _, s₃, h₃, s₄, h₄, -, rfl⟩ := h
    have := length_word h₁
    have := length_spacedMark h₂
    have := length_word h₃
    have := length_spacedMark h₄
    have := length_skipBlanks_le s₂
    omega
  · simp only [globalLocation, Option.bind_eq_bind, Option.bind_eq_some_iff, Prod.exists,
      Option.pure_def, Option.some.injEq, Prod.mk.injEq] at h
    obtain ⟨_, _, h₁, -, rfl⟩ := h
    exact length_word h₁

end Litmus.Source
