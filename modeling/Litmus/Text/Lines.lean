/-!
# Lines, fields and columns

Cutting a text at the elements that satisfy a test and putting the pieces together again, the two
spellings of a line end, and tabs as columns.

* `splitWhen` and `joinWith` are inverse to each other: `joinWith_splitWhen` for a separator that is
  one element, `splitWhen_joinWith` for pieces that hold no separator.
* `unifyNewlines` writes every line end as one line feed.
* `expandTabs` fills each tab up to the next column that is a multiple of eight.
-/

namespace Litmus.Text

/-! ## Pieces between separators -/

/-- The pieces of a list between the elements that satisfy `p`, always one more than those. -/
def splitWhen {α : Type} (p : α → Bool) : List α → List (List α)
  | [] => [[]]
  | a :: as =>
    if p a then [] :: splitWhen p as
    else match splitWhen p as with
      | [] => [[a]]
      | piece :: pieces => (a :: piece) :: pieces

/-- The pieces of a text between the occurrences of one character. -/
def splitAt (sep : Char) (s : List Char) : List (List Char) :=
  splitWhen (· == sep) s

/-- The pieces in order, with one separator between neighbours. -/
def joinWith {α : Type} (sep : α) : List (List α) → List α
  | [] => []
  | [piece] => piece
  | piece :: pieces => piece ++ sep :: joinWith sep pieces

theorem splitWhen_ne_nil {α : Type} (p : α → Bool) (as : List α) : splitWhen p as ≠ [] := by
  cases as with
  | nil => simp [splitWhen]
  | cons a as =>
    rw [splitWhen]
    split
    · simp
    · split <;> simp

/-- What holds no separator is one piece. -/
theorem splitWhen_of_forall {α : Type} {p : α → Bool} {as : List α} (h : ∀ a ∈ as, p a = false) :
    splitWhen p as = [as] := by
  induction as with
  | nil => rfl
  | cons a as ih =>
    have ha : p a = false := h a (by simp)
    rw [splitWhen, ih fun b hb => h b (by simp [hb])]
    simp [ha]

/-- The first piece ends at the first separator. -/
theorem splitWhen_append_cons {α : Type} {p : α → Bool} {piece : List α}
    (h : ∀ a ∈ piece, p a = false) {sep : α} (hsep : p sep = true) (rest : List α) :
    splitWhen p (piece ++ sep :: rest) = piece :: splitWhen p rest := by
  induction piece with
  | nil => simp [splitWhen, hsep]
  | cons a piece ih =>
    have ha : p a = false := h a (by simp)
    rw [List.cons_append, splitWhen, ih fun b hb => h b (by simp [hb])]
    simp [ha]

theorem splitWhen_joinWith {α : Type} {p : α → Bool} {sep : α} (hsep : p sep = true)
    {pieces : List (List α)} (hne : pieces ≠ [])
    (h : ∀ piece ∈ pieces, ∀ a ∈ piece, p a = false) :
    splitWhen p (joinWith sep pieces) = pieces := by
  induction pieces with
  | nil => exact absurd rfl hne
  | cons piece pieces ih =>
    have hpiece := h piece (by simp)
    cases pieces with
    | nil => rw [joinWith, splitWhen_of_forall hpiece]
    | cons next pieces =>
      rw [joinWith, splitWhen_append_cons hpiece hsep,
        ih (by simp) fun q hq => h q (by simp [hq])]
      simp

theorem joinWith_splitWhen {α : Type} [BEq α] [LawfulBEq α] (sep : α) (as : List α) :
    joinWith sep (splitWhen (· == sep) as) = as := by
  induction as with
  | nil => rfl
  | cons a as ih =>
    rw [splitWhen]
    cases hs : splitWhen (· == sep) as with
    | nil => exact absurd hs (splitWhen_ne_nil _ _)
    | cons piece pieces =>
      rw [hs] at ih
      by_cases ha : (a == sep) = true
      · rw [if_pos ha, joinWith, ih, eq_of_beq ha]
        · rfl
        · simp
      · rw [if_neg ha]
        cases pieces with
        | nil =>
          rw [joinWith] at ih ⊢
          rw [ih]
        | cons next pieces =>
          rw [joinWith] at ih ⊢
          · rw [← ih]
            rfl
          · simp
          · simp

/-! ## Line ends and tabs -/

/-- Every line end, whether a line feed, a carriage return or the two together, as a line feed. -/
def unifyNewlines : List Char → List Char
  | [] => []
  | '\r' :: '\n' :: s => '\n' :: unifyNewlines s
  | '\r' :: s => '\n' :: unifyNewlines s
  | c :: s => c :: unifyNewlines s

/-- The text with tabs filled up, where `column` is the column that it starts in. -/
def expandTabsFrom (column : Nat) : List Char → List Char
  | [] => []
  | c :: s =>
    if c = '\t' then
      List.replicate (8 - column % 8) ' ' ++ expandTabsFrom (column + (8 - column % 8)) s
    else if c = '\n' ∨ c = '\r' then c :: expandTabsFrom 0 s
    else c :: expandTabsFrom (column + 1) s

/-- The text with each tab written as the spaces up to the next multiple of eight columns. -/
def expandTabs (s : List Char) : List Char :=
  expandTabsFrom 0 s

/-- A text without tabs is its own expansion. -/
theorem expandTabsFrom_of_no_tab {s : List Char} (h : '\t' ∉ s) (column : Nat) :
    expandTabsFrom column s = s := by
  induction s generalizing column with
  | nil => rfl
  | cons c s ih =>
    have hc : c ≠ '\t' := fun e => h (by simp [e])
    have hs : '\t' ∉ s := fun e => h (by simp [e])
    rw [expandTabsFrom, if_neg hc, ih hs, ih hs]
    simp

theorem expandTabs_of_no_tab {s : List Char} (h : '\t' ∉ s) : expandTabs s = s :=
  expandTabsFrom_of_no_tab h 0

/-- An expanded text holds no tab. -/
theorem no_tab_expandTabsFrom (s : List Char) (column : Nat) :
    '\t' ∉ expandTabsFrom column s := by
  induction s generalizing column with
  | nil => simp [expandTabsFrom]
  | cons c s ih =>
    rw [expandTabsFrom]
    split
    · simp [ih, List.mem_replicate]
    · rename_i hc
      split <;> simp [ih, Ne.symm hc]

end Litmus.Text
