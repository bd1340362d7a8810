import Litmus.Proofs.Layout

/-!
# Tabs

What filling up the tabs of a text does not change: the characters that are no blanks, and the ends
of a text that is trimmed.

* **`mem_expandTabsFrom`**: the characters.
* **`expandTabsFrom_append`**, **`expandTabsFrom_cons`**: a text is filled up part by part.
* **`flush_expandTabs`**, **`dropWhile_expandTabsFrom`**: its ends.
-/

namespace Litmus.Source

open Litmus.Text

theorem mem_expandTabsFrom {s : List Char} {c : Char} {column : Nat}
    (h : c ∈ expandTabsFrom column s) : c = ' ' ∨ c ∈ s := by
  induction s generalizing column with
  | nil => exact .inr h
  | cons d s ih =>
    rw [expandTabsFrom] at h
    split at h
    · rcases List.mem_append.mp h with h | h
      · exact .inl (List.eq_of_mem_replicate h)
      · exact (ih h).imp_right (List.mem_cons_of_mem d)
    · split at h <;>
      · rcases List.mem_cons.mp h with rfl | h
        · exact .inr List.mem_cons_self
        · exact (ih h).imp_right (List.mem_cons_of_mem d)

theorem not_mem_expandTabs {s : List Char} {c : Char} (hc : c ≠ ' ') (h : c ∉ s) :
    c ∉ expandTabs s := by
  intro hmem
  rcases mem_expandTabsFrom hmem with hblank | hmem
  · exact hc hblank
  · exact h hmem

/-- The columns that a text takes decide how the rest is filled up. -/
theorem expandTabsFrom_append (a b : List Char) (column : Nat) :
    ∃ next, expandTabsFrom column (a ++ b) = expandTabsFrom column a ++ expandTabsFrom next b := by
  induction a generalizing column with
  | nil => exact ⟨column, rfl⟩
  | cons c a ih =>
    rw [List.cons_append, expandTabsFrom, expandTabsFrom]
    split
    · obtain ⟨next, hnext⟩ := ih (column + (8 - column % 8))
      exact ⟨next, by rw [hnext, List.append_assoc]⟩
    · split
      · obtain ⟨next, hnext⟩ := ih 0
        exact ⟨next, by rw [hnext, List.cons_append]⟩
      · obtain ⟨next, hnext⟩ := ih (column + 1)
        exact ⟨next, by rw [hnext, List.cons_append]⟩

/-- A character that is no tab stays where it is. -/
theorem expandTabsFrom_cons {c : Char} (hc : c ≠ '\t') (s : List Char) (column : Nat) :
    ∃ next, expandTabsFrom column (c :: s) = c :: expandTabsFrom next s := by
  rw [expandTabsFrom, if_neg hc]
  split
  · exact ⟨0, rfl⟩
  · exact ⟨column + 1, rfl⟩

theorem ne_tab_of_isSpace {c : Char} (h : isSpace c = false) : c ≠ '\t' := by
  rintro rfl
  exact absurd h (by decide)

/-- Filling up tabs leaves the ends of a text alone if they are no spaces. -/
theorem flush_expandTabs {s : List Char} (h : Flush s) : Flush (expandTabs s) := by
  by_cases hne : s = []
  · subst hne
    exact Flush.nil
  constructor
  · obtain ⟨c, r, rfl⟩ := List.exists_cons_of_ne_nil hne
    have hc : isSpace c = false := h.1 c rfl
    obtain ⟨next, hnext⟩ := expandTabsFrom_cons (ne_tab_of_isSpace hc) r 0
    rw [expandTabs, hnext]
    exact Stops.cons hc _
  · obtain ⟨r, c, rfl⟩ : ∃ r c, s = r ++ [c] :=
      ⟨s.dropLast, s.getLast hne, (List.dropLast_concat_getLast hne).symm⟩
    have hc : isSpace c = false := h.2 c (by simp)
    obtain ⟨next, hnext⟩ := expandTabsFrom_append r [c] 0
    rw [expandTabsFrom_of_no_tab (by simpa using Ne.symm (ne_tab_of_isSpace hc)) next] at hnext
    rw [expandTabs, hnext, List.reverse_append]
    exact Stops.cons hc _

theorem expandTabs_ne_nil {s : List Char} (hne : s ≠ []) (h : Flush s) : expandTabs s ≠ [] := by
  obtain ⟨c, r, rfl⟩ := List.exists_cons_of_ne_nil hne
  obtain ⟨next, hnext⟩ := expandTabsFrom_cons (ne_tab_of_isSpace (h.1 c rfl)) r 0
  rw [expandTabs, hnext]
  exact List.cons_ne_nil c _

/-- The blanks that tabs are filled up with are skipped as the tabs are. -/
theorem dropWhile_expandTabsFrom (s : List Char) (column : Nat) :
    ∃ next, (expandTabsFrom column s).dropWhile isSpace = expandTabsFrom next (s.dropWhile isSpace) := by
  induction s generalizing column with
  | nil => exact ⟨column, rfl⟩
  | cons c s ih =>
    by_cases hc : c = '\t'
    · subst hc
      obtain ⟨next, hnext⟩ := ih (column + (8 - column % 8))
      refine ⟨next, ?_⟩
      have hblanks : ∀ d ∈ List.replicate (8 - column % 8) ' ', isSpace d = true := by
        intro d hd
        rw [List.eq_of_mem_replicate hd]
        decide
      rw [expandTabsFrom, if_pos rfl, List.dropWhile_append_of_pos hblanks, hnext,
        List.dropWhile_cons_of_pos (by decide)]
    · obtain ⟨next, hnext⟩ := expandTabsFrom_cons hc s column
      by_cases hspace : isSpace c = true
      · obtain ⟨next', hnext'⟩ := ih next
        exact ⟨next', by rw [hnext, List.dropWhile_cons_of_pos hspace,
          List.dropWhile_cons_of_pos hspace, hnext']⟩
      · exact ⟨column, by rw [hnext, List.dropWhile_cons_of_neg hspace,
          List.dropWhile_cons_of_neg hspace, hnext]⟩

end Litmus.Source
