import Litmus.Text.Lines

/-!
# Pieces and separators

Cutting a list at a separator and putting pieces together around one, for lists that are made of
known parts.

* **`splitWhen_append`**, **`joinWith_append`**: what happens at a separator.
* **`splitAt_joinWith`**: pieces without the separator are found again.
* **`mem_joinWith`**, **`mem_of_mem_splitWhen`**, **`not_mem_of_mem_splitWhen`**: what a joined list
  and a piece consist of.
* **`splitAt_eq_cons`**: the first piece of a text.
-/

namespace Litmus.Text

/-! ## Pieces -/

theorem splitWhen_append {α : Type} {p : α → Bool} {sep : α} (hsep : p sep = true) (a b : List α) :
    splitWhen p (a ++ sep :: b) = splitWhen p a ++ splitWhen p b := by
  induction a with
  | nil => simp [splitWhen, hsep]
  | cons c a ih =>
    rw [List.cons_append, splitWhen, splitWhen, ih]
    split
    · rfl
    · cases hsplit : splitWhen p a with
      | nil => exact absurd hsplit (splitWhen_ne_nil p a)
      | cons piece pieces => rfl

theorem joinWith_cons {α : Type} (sep : α) (piece : List α) {pieces : List (List α)}
    (h : pieces ≠ []) : joinWith sep (piece :: pieces) = piece ++ sep :: joinWith sep pieces := by
  cases pieces with
  | nil => exact absurd rfl h
  | cons next pieces => simp [joinWith]

theorem joinWith_append {α : Type} (sep : α) {as bs : List (List α)} (ha : as ≠ []) (hb : bs ≠ []) :
    joinWith sep (as ++ bs) = joinWith sep as ++ sep :: joinWith sep bs := by
  induction as with
  | nil => exact absurd rfl ha
  | cons piece as ih =>
    cases as with
    | nil => exact joinWith_cons sep piece hb
    | cons next as =>
      rw [List.cons_append, joinWith_cons sep piece (by simp), ih (by simp),
        joinWith_cons sep piece (by simp), List.append_assoc, List.cons_append]

theorem mem_joinWith_of_mem {α : Type} {sep a : α} {piece : List α} {pieces : List (List α)}
    (hpiece : piece ∈ pieces) (ha : a ∈ piece) : a ∈ joinWith sep pieces := by
  induction pieces with
  | nil => exact absurd hpiece (by simp)
  | cons first pieces ih =>
    by_cases hne : pieces = []
    · subst hne
      rw [List.mem_singleton.mp hpiece] at ha
      exact ha
    · rw [joinWith_cons sep first hne]
      rcases List.mem_cons.mp hpiece with rfl | hpiece
      · exact List.mem_append_left _ ha
      · exact List.mem_append_right _ (List.mem_cons_of_mem sep (ih hpiece))

/-- What the members of a joined list are. -/
theorem mem_joinWith {α : Type} {sep a : α} {pieces : List (List α)} (h : a ∈ joinWith sep pieces) :
    a = sep ∨ ∃ piece ∈ pieces, a ∈ piece := by
  induction pieces with
  | nil => exact absurd h (by simp [joinWith])
  | cons piece pieces ih =>
    by_cases hne : pieces = []
    · subst hne
      exact .inr ⟨piece, by simp, h⟩
    · rw [joinWith_cons sep piece hne] at h
      rcases List.mem_append.mp h with h | h
      · exact .inr ⟨piece, by simp, h⟩
      rcases List.mem_cons.mp h with h | h
      · exact .inl h
      · rcases ih h with h | ⟨q, hq, h⟩
        · exact .inl h
        · exact .inr ⟨q, List.mem_cons_of_mem piece hq, h⟩

/-- A piece holds no separator. -/
theorem not_mem_of_mem_splitWhen {α : Type} {p : α → Bool} {as piece : List α}
    (h : piece ∈ splitWhen p as) : ∀ a ∈ piece, p a = false := by
  induction as generalizing piece with
  | nil =>
    rw [splitWhen, List.mem_singleton] at h
    rw [h]
    simp
  | cons c as ih =>
    rw [splitWhen] at h
    split at h
    · rcases List.mem_cons.mp h with rfl | h
      · simp
      · exact ih h
    · rename_i hc
      cases hsplit : splitWhen p as with
      | nil => exact absurd hsplit (splitWhen_ne_nil p as)
      | cons first pieces =>
        rw [hsplit] at h ih
        rcases List.mem_cons.mp h with rfl | h
        · intro a ha
          rcases List.mem_cons.mp ha with rfl | ha
          · simpa using hc
          · exact ih (by simp) a ha
        · exact ih (List.mem_cons_of_mem first h)

/-- A piece is part of the list. -/
theorem mem_of_mem_splitWhen {α : Type} {p : α → Bool} {as piece : List α}
    (h : piece ∈ splitWhen p as) : piece ⊆ as := by
  induction as generalizing piece with
  | nil =>
    rw [splitWhen, List.mem_singleton] at h
    rw [h]
    exact List.Subset.refl []
  | cons c as ih =>
    rw [splitWhen] at h
    split at h
    · rcases List.mem_cons.mp h with rfl | h
      · exact List.nil_subset _
      · exact List.Subset.trans (ih h) (List.subset_cons_self c as)
    · cases hsplit : splitWhen p as with
      | nil => exact absurd hsplit (splitWhen_ne_nil p as)
      | cons first pieces =>
        rw [hsplit] at h ih
        rcases List.mem_cons.mp h with rfl | h
        · exact List.cons_subset_cons c (ih (by simp))
        · exact List.Subset.trans (ih (List.mem_cons_of_mem first h)) (List.subset_cons_self c as)

/-! ## Lines -/

theorem newline_of_mem_splitAt {s line : List Char} (h : line ∈ splitAt '\n' s) : '\n' ∉ line := by
  intro hmem
  have hfalse := not_mem_of_mem_splitWhen h '\n' hmem
  exact absurd hfalse (by simp)

theorem bne_of_not_mem {sep : Char} {s : List Char} (h : sep ∉ s) : ∀ c ∈ s, (c != sep) = true := by
  intro c hc
  have hne : c ≠ sep := fun e => h (e ▸ hc)
  simpa using hne

theorem splitAt_of_not_mem {sep : Char} {s : List Char} (h : sep ∉ s) : splitAt sep s = [s] :=
  splitWhen_of_forall fun c hc => by simpa using bne_of_not_mem h c hc

theorem splitAt_joinWith {sep : Char} {pieces : List (List Char)} (hne : pieces ≠ [])
    (h : ∀ piece ∈ pieces, sep ∉ piece) : splitAt sep (joinWith sep pieces) = pieces := by
  refine splitWhen_joinWith (by simp) hne fun piece hpiece c hc => ?_
  simpa using bne_of_not_mem (h piece hpiece) c hc

theorem splitAt_sep_cons (sep : Char) (s : List Char) : splitAt sep (sep :: s) = [] :: splitAt sep s := by
  simp [splitAt, splitWhen]

theorem splitAt_cons {sep c : Char} (hc : c ≠ sep) {s piece : List Char} {pieces : List (List Char)}
    (h : splitAt sep s = piece :: pieces) : splitAt sep (c :: s) = (c :: piece) :: pieces := by
  rw [splitAt] at h
  rw [splitAt, splitWhen, if_neg (by simpa using hc), h]

/-- The first piece ends at the first separator. -/
theorem splitAt_eq_cons (sep : Char) (s : List Char) :
    ∃ pieces, splitAt sep s = s.takeWhile (· != sep) :: pieces := by
  induction s with
  | nil => exact ⟨[], rfl⟩
  | cons c s ih =>
    obtain ⟨pieces, hpieces⟩ := ih
    rw [splitAt] at hpieces ⊢
    rw [splitWhen]
    by_cases hc : c = sep
    · subst hc
      exact ⟨splitWhen (· == c) s, by simp⟩
    · refine ⟨pieces, ?_⟩
      rw [if_neg (by simpa using hc), hpieces, List.takeWhile_cons_of_pos (by simpa using hc)]

end Litmus.Text
