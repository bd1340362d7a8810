import Litmus.Proofs.Tabs
import Litmus.Source.Table

/-!
# Where the table ends

Whether a line starts the condition is decided by its first word. So it does not change when tabs
are filled up, when something follows that is part of no word, or when the line is cut behind the
word.

* **`startsCondition_append`**: nothing is decided behind a mark.
* **`startsCondition_expandTabs`**, **`startsCondition_mono`**: what does not matter.
-/

namespace Litmus.Source

open Litmus.Text

/-! ## Words -/

theorem startsWithWord_nil (s : List Char) : startsWithWord [] s = atWordEnd s := rfl

theorem startsWithWord_cons (a c : Char) (w s : List Char) :
    startsWithWord (a :: w) (c :: s) = (a == c && startsWithWord w s) := by
  rw [startsWithWord, afterWord?, startsWithWord, afterWord?]
  cases hac : a == c with
  | false => simp [List.isPrefixOf, hac]
  | true =>
    simp only [List.isPrefixOf, hac, Bool.true_and, List.length_cons, List.drop_succ_cons]

/-- The spaces beyond ASCII are no letters and no numbers. -/
theorem inRanges_of_isSpace : ∀ n ∈ [0x85, 0xA0, 0x1680, 0x2000, 0x2001, 0x2002, 0x2003, 0x2004,
    0x2005, 0x2006, 0x2007, 0x2008, 0x2009, 0x200A, 0x2028, 0x2029, 0x202F, 0x205F, 0x3000],
    inRanges alphanumericRanges n = false := by
  decide +kernel

/-- A space is part of no word. -/
theorem isWordChar_of_isSpace {c : Char} (h : isSpace c = true) : isWordChar c = false := by
  rw [isWordChar]
  split
  · rename_i hascii
    cases hname : c.isAlphanum || c == '_' with
    | false => rfl
    | true =>
      have htail : isNameTail c = true := by
        rw [isNameTail, hname]
        rfl
      rw [isSpace_of_isNameTail htail] at h
      exact absurd h (by decide)
  · rename_i hlarge
    refine inRanges_of_isSpace c.toNat ?_
    simp only [isSpace, Bool.or_eq_true, Bool.and_eq_true, decide_eq_true_eq, beq_iff_eq] at h
    simp only [List.mem_cons, List.not_mem_nil, or_false]
    omega

theorem atWordEnd_spaces {u r : List Char} (hu : ∀ c ∈ u, isSpace c = true)
    (hr : atWordEnd r = true) : atWordEnd (u ++ r) = true := by
  cases u with
  | nil => exact hr
  | cons c u =>
    rw [List.cons_append, atWordEnd_cons, isWordChar_of_isSpace (hu c (by simp))]
    rfl

/-- A mark that ends every word and is part of none: a bar, a semicolon or a colon. -/
def IsMark (d : Char) : Prop :=
  d ∈ ['|', ';', ':']

/-- A word at the start of a text ends before a mark. -/
theorem startsWithWord_append {w : List Char} {d : Char} (hd : d ∉ w) (hword : isWordChar d = false)
    (x r : List Char) : startsWithWord w (x ++ d :: r) = startsWithWord w x := by
  have hprefix : w.isPrefixOf (x ++ d :: r) = w.isPrefixOf x := by
    rw [Bool.eq_iff_iff, List.isPrefixOf_iff_prefix, List.isPrefixOf_iff_prefix]
    constructor
    · intro h
      by_cases hlen : w.length ≤ x.length
      · exact List.prefix_of_prefix_length_le h (List.prefix_append x _) hlen
      · -- the mark would be part of the word
        exfalso
        have hmark : x ++ [d] <+: x ++ d :: r := ⟨r, by simp⟩
        have hshort : x ++ [d] <+: w := by
          refine List.prefix_of_prefix_length_le hmark h ?_
          rw [List.length_append, List.length_singleton]
          omega
        exact hd (hshort.subset (by simp))
    · exact fun h => h.trans (List.prefix_append x _)
  rw [startsWithWord, afterWord?, startsWithWord, afterWord?, hprefix]
  by_cases h : w.isPrefixOf x = true
  · rw [if_pos h, if_pos h]
    obtain ⟨t, rfl⟩ := List.isPrefixOf_iff_prefix.mp h
    rw [List.append_assoc, List.drop_left, List.drop_left]
    cases t with
    | nil =>
      show (!isWordChar d) = true
      rw [hword]
      rfl
    | cons c t => rfl
  · rw [if_neg h, if_neg h]

theorem startsWithWord_mono {w x r : List Char} (hr : atWordEnd r = true)
    (h : startsWithWord w x = true) : startsWithWord w (x ++ r) = true := by
  induction w generalizing x with
  | nil =>
    cases x with
    | nil => exact hr
    | cons c x => exact h
  | cons a w ih =>
    cases x with
    | nil => exact absurd h (by simp [startsWithWord, afterWord?])
    | cons c x =>
      rw [startsWithWord_cons, Bool.and_eq_true] at h
      rw [List.cons_append, startsWithWord_cons, Bool.and_eq_true]
      exact ⟨h.1, ih h.2⟩

/-- A word at the start of a text starts its first line. -/
theorem startsWithWord_takeWhile {w r : List Char} (hline : '\n' ∉ w) (hend : atWordEnd r = true) :
    startsWithWord w ((w ++ r).takeWhile (· != '\n')) = true := by
  have hw : ∀ c ∈ w, (c != '\n') = true := bne_of_not_mem hline
  have hprefix : w.isPrefixOf (w ++ r.takeWhile (· != '\n')) = true :=
    List.isPrefixOf_iff_prefix.mpr (List.prefix_append w _)
  rw [List.takeWhile_append_of_pos hw, startsWithWord, afterWord?, if_pos hprefix, List.drop_left]
  show atWordEnd (r.takeWhile (· != '\n')) = true
  cases r with
  | nil => rfl
  | cons c r =>
    rw [List.takeWhile_cons]
    split
    · exact hend
    · rfl

/-- Filling up tabs does not change whether a word starts a text. -/
theorem startsWithWord_expandTabsFrom {w : List Char} (hw : ∀ c ∈ w, isSpace c = false)
    (s : List Char) (column : Nat) :
    startsWithWord w (expandTabsFrom column s) = startsWithWord w s := by
  induction w generalizing s column with
  | nil =>
    rw [startsWithWord_nil, startsWithWord_nil]
    cases s with
    | nil => rfl
    | cons c s =>
      by_cases hc : c = '\t'
      · subst hc
        obtain ⟨n, hn⟩ : ∃ n, 8 - column % 8 = n + 1 := ⟨7 - column % 8, by omega⟩
        rw [expandTabsFrom, if_pos rfl, hn, List.replicate_succ, List.cons_append, atWordEnd_cons,
          atWordEnd_cons]
        decide
      · obtain ⟨next, hnext⟩ := expandTabsFrom_cons hc s column
        rw [hnext, atWordEnd_cons, atWordEnd_cons]
  | cons a w ih =>
    have ha := hw a (by simp)
    have hw' : ∀ c ∈ w, isSpace c = false := fun c hc => hw c (List.mem_cons_of_mem a hc)
    cases s with
    | nil => rfl
    | cons c s =>
      by_cases hc : c = '\t'
      · subst hc
        obtain ⟨n, hn⟩ : ∃ n, 8 - column % 8 = n + 1 := ⟨7 - column % 8, by omega⟩
        have hblank : (a == ' ') = false := by
          refine beq_eq_false_iff_ne.mpr ?_
          rintro rfl
          exact absurd ha (by decide)
        have htab : (a == '\t') = false := beq_eq_false_iff_ne.mpr (ne_tab_of_isSpace ha)
        rw [expandTabsFrom, if_pos rfl, hn, List.replicate_succ, List.cons_append,
          startsWithWord_cons, startsWithWord_cons, hblank, htab, Bool.false_and, Bool.false_and]
      · obtain ⟨next, hnext⟩ := expandTabsFrom_cons hc s column
        rw [hnext, startsWithWord_cons, startsWithWord_cons, ih hw']

/-! ## Conditions -/

theorem startsCondition_nil : startsCondition [] = false := by
  decide

theorem startsCondition_of_word {w line : List Char}
    (hw : w ∈ ["exists".toList, "forall".toList, "locations".toList])
    (h : startsWithWord w line = true) : startsCondition line = true := by
  simp only [List.mem_cons, List.not_mem_nil, or_false] at hw
  simp only [startsCondition, Bool.or_eq_true]
  rcases hw with rfl | rfl | rfl
  · exact .inl (.inl (.inl h))
  · exact .inl (.inl (.inr h))
  · exact .inl (.inr h)

/-- Without a tilde, a condition starts with one of three words. -/
theorem startsCondition_of_head {s : List Char} (h : s.head? ≠ some '~') :
    startsCondition s = (startsWithWord "exists".toList s || startsWithWord "forall".toList s
      || startsWithWord "locations".toList s) := by
  unfold startsCondition
  split
  · exact absurd rfl h
  · rw [Bool.or_false]

/-- Behind a tilde stands one word. -/
theorem startsCondition_tilde (s : List Char) :
    startsCondition ('~' :: s) = startsWithWord "exists".toList (s.dropWhile isSpace) := rfl

/-- Whether a text starts a condition is decided before its first mark. -/
theorem startsCondition_append {d : Char} (hd : IsMark d) (x r : List Char) :
    startsCondition (x ++ d :: r) = startsCondition x := by
  have hcases : d = '|' ∨ d = ';' ∨ d = ':' := by simpa [IsMark] using hd
  have hword : isWordChar d = false := by rcases hcases with rfl | rfl | rfl <;> decide
  have hspace : isSpace d = false := by rcases hcases with rfl | rfl | rfl <;> decide
  have hexists : d ∉ "exists".toList := by rcases hcases with rfl | rfl | rfl <;> decide
  have hforall : d ∉ "forall".toList := by rcases hcases with rfl | rfl | rfl <;> decide
  have hlocations : d ∉ "locations".toList := by rcases hcases with rfl | rfl | rfl <;> decide
  have htilde : d ≠ '~' := by rcases hcases with rfl | rfl | rfl <;> decide
  by_cases hhead : x.head? = some '~'
  · obtain ⟨y, rfl⟩ := List.head?_eq_some_iff.mp hhead
    have hdrop : (y ++ d :: r).dropWhile isSpace = y.dropWhile isSpace ++ d :: r :=
      trimStart_append y (Stops.cons hspace r)
    rw [List.cons_append, startsCondition_tilde, startsCondition_tilde, hdrop,
      startsWithWord_append hexists hword]
  · have hhead' : (x ++ d :: r).head? ≠ some '~' := by
      cases x with
      | nil => simpa using htilde
      | cons c x => simpa using hhead
    rw [startsCondition_of_head hhead, startsCondition_of_head hhead',
      startsWithWord_append hexists hword, startsWithWord_append hforall hword,
      startsWithWord_append hlocations hword]

/-- Filling up tabs does not change whether a text starts a condition. -/
theorem startsCondition_expandTabs (s : List Char) :
    startsCondition (expandTabs s) = startsCondition s := by
  by_cases hhead : s.head? = some '~'
  · obtain ⟨r, rfl⟩ := List.head?_eq_some_iff.mp hhead
    obtain ⟨next, hnext⟩ := expandTabsFrom_cons (show '~' ≠ '\t' by decide) r 0
    obtain ⟨next', hnext'⟩ := dropWhile_expandTabsFrom r next
    rw [expandTabs, hnext, startsCondition_tilde, startsCondition_tilde, hnext',
      startsWithWord_expandTabsFrom (isSpace_of_all (by decide))]
  · have hhead' : (expandTabs s).head? ≠ some '~' := by
      cases s with
      | nil => exact hhead
      | cons c s =>
        by_cases hc : c = '\t'
        · subst hc
          exact fun h => absurd h (by simp [expandTabs, expandTabsFrom, List.replicate_succ])
        · obtain ⟨next, hnext⟩ := expandTabsFrom_cons hc s 0
          rw [expandTabs, hnext]
          exact hhead
    rw [startsCondition_of_head hhead, startsCondition_of_head hhead', expandTabs,
      startsWithWord_expandTabsFrom (isSpace_of_all (by decide)),
      startsWithWord_expandTabsFrom (isSpace_of_all (by decide)),
      startsWithWord_expandTabsFrom (isSpace_of_all (by decide))]

/-- A condition that starts a text starts every text that goes on with no word. -/
theorem startsCondition_mono {x r : List Char} (hr : atWordEnd r = true)
    (h : startsCondition x = true) : startsCondition (x ++ r) = true := by
  by_cases hhead : x.head? = some '~'
  · obtain ⟨y, rfl⟩ := List.head?_eq_some_iff.mp hhead
    rw [startsCondition_tilde] at h
    have hne : ¬ (y.dropWhile isSpace).isEmpty = true := by
      intro hempty
      rw [List.isEmpty_iff.mp hempty] at h
      exact absurd h (by decide)
    rw [List.cons_append, startsCondition_tilde, List.dropWhile_append, if_neg hne]
    exact startsWithWord_mono hr h
  · rw [startsCondition_of_head hhead] at h
    simp only [Bool.or_eq_true] at h
    rcases h with (h | h) | h
    · exact startsCondition_of_word (by simp) (startsWithWord_mono hr h)
    · exact startsCondition_of_word (by simp) (startsWithWord_mono hr h)
    · exact startsCondition_of_word (by simp) (startsWithWord_mono hr h)

/-! ## First cells -/

theorem dropSemicolon_initial (row : List Char) : dropSemicolon row <+: row := by
  unfold dropSemicolon
  split
  · exact List.dropLast_prefix row
  · exact List.prefix_rfl

theorem startsCondition_dropSemicolon (row : List Char) :
    startsCondition (dropSemicolon row) = startsCondition row := by
  unfold dropSemicolon
  split
  · rename_i hlast
    obtain ⟨front, rfl⟩ := List.getLast?_eq_some_iff.mp hlast
    rw [List.dropLast_concat]
    exact (startsCondition_append (by simp [IsMark]) front []).symm
  · rfl

theorem startsCondition_takeWhile_bar (row : List Char) :
    startsCondition (row.takeWhile (· != '|')) = startsCondition row := by
  have hsplit : row.takeWhile (· != '|') ++ row.dropWhile (· != '|') = row :=
    List.takeWhile_append_dropWhile
  cases hrest : row.dropWhile (· != '|') with
  | nil =>
    rw [hrest, List.append_nil] at hsplit
    rw [hsplit]
  | cons d rest =>
    have hstop : Stops (· != '|') (row.dropWhile (· != '|')) := stops_dropWhile _ row
    have hbar : d = '|' := by simpa using hstop d (by rw [hrest]; rfl)
    rw [hrest, hbar] at hsplit
    conv => rhs; rw [← hsplit]
    exact (startsCondition_append (by simp [IsMark]) _ rest).symm

/-- A row whose first cell starts a condition starts one itself. -/
theorem startsCondition_of_first {row cell : List Char} (hrow : Stops isSpace row)
    (h : (cells row)[0]? = some cell) (hcell : startsCondition cell = true) :
    startsCondition row = true := by
  obtain ⟨pieces, hpieces⟩ := splitAt_eq_cons '|' (dropSemicolon row)
  rw [cells, hpieces] at h
  obtain rfl := Option.some.inj h
  rw [← startsCondition_dropSemicolon, ← startsCondition_takeWhile_bar]
  have hpiece : Stops isSpace ((dropSemicolon row).takeWhile (· != '|')) :=
    (hrow.of_initial (dropSemicolon_initial row)).of_initial (List.takeWhile_prefix _)
  obtain ⟨u, hsplit, hspaces⟩ := eq_trim_append hpiece
  have hend : atWordEnd u = true := by
    have hspaced := atWordEnd_spaces hspaces (r := []) rfl
    rwa [List.append_nil] at hspaced
  rw [hsplit]
  exact startsCondition_mono hend hcell

end Litmus.Source
