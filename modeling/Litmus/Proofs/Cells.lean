import Litmus.Proofs.Preamble
import Litmus.Proofs.Shapes
import Litmus.Proofs.TableEnd
import Mathlib.Data.List.Basic

/-!
# Written tables

The entries that can stand in a thread table, the text of each, and the rows that a list of threads
is written in. What is written is read: cell by cell, and then column by column.

* **`Pseudo.Readable`**, **`Pseudo.cell`**: entries and their cells. **`cellEntry_cell`**.
* **`rowLine`**: a row. **`cells_rowLine`**: its cells.
* **`startsCondition_rowLine`**: only the first cell of a row can end the table.
* **`readNames_namesRow`**, **`threadsOf_entryRows`**: the threads are read from their rows.
-/

namespace Litmus

open Source Text

/-! ## Entries -/

/-- A text that fits on a line: no spaces at its ends, no tab and no line feed. -/
structure IsLine (s : List Char) : Prop where
  flush : Flush s
  tab : '\t' ∉ s
  newline : '\n' ∉ s

/-- A text that fits in a cell. -/
structure IsCellText (s : List Char) : Prop where
  ne_nil : s ≠ []
  line : IsLine s
  bar : '|' ∉ s

/-- The entries that a cell can hold: an instruction that does not start like a label, or a label,
perhaps with an instruction. -/
def Pseudo.Readable : Pseudo → Prop
  | .instruction text => IsCellText text.toList ∧ cellLabel? text.toList = none
  | .labelled label (.instruction text) => IsLabelName label.toList ∧ IsCellText text.toList
  | .labelled label .nop => IsLabelName label.toList
  | _ => False

/-- The cell of an entry. The blank behind a colon keeps it apart from a colon that starts the
instruction. -/
def Pseudo.cell : Pseudo → List Char
  | .instruction text => text.toList
  | .labelled label (.instruction text) => label.toList ++ ':' :: ' ' :: text.toList
  | .labelled label _ => label.toList ++ [':']
  | _ => []

theorem not_mem_of_isLabelName {label : List Char} (h : IsLabelName label) {c : Char}
    (hc : isNameTail c = false) : c ∉ label := by
  intro hmem
  rw [isNameTail_of_isLabelName h c hmem] at hc
  exact absurd hc (by decide)

theorem stops_of_isLabelName {label : List Char} (h : IsLabelName label) (s : List Char) :
    Stops isSpace (label ++ s) := by
  cases label with
  | nil => exact absurd rfl h.ne_nil
  | cons c label =>
    exact Stops.cons (isSpace_of_isNameTail (isNameTail_of_isLabelName h c (by simp))) _

theorem isCellText_label {label text : List Char} (hlabel : IsLabelName label)
    (htext : text = [] ∨ ∃ t, text = ' ' :: t ∧ IsCellText t) :
    IsCellText (label ++ ':' :: text) := by
  have hend : Stops isSpace (label ++ ':' :: text).reverse := by
    rw [List.reverse_append, List.reverse_cons]
    rcases htext with rfl | ⟨t, rfl, ht⟩
    · exact Stops.cons (by decide) _
    · rw [List.reverse_cons]
      cases hr : t.reverse with
      | nil => exact absurd (List.reverse_eq_nil_iff.mp hr) ht.ne_nil
      | cons c r => exact Stops.cons (ht.line.flush.2 c (by rw [hr]; rfl)) _
  have hmem : ∀ c, isNameTail c = false → c ≠ ':' → c ≠ ' ' →
      (∀ t, text = ' ' :: t → IsCellText t → c ∉ t) → c ∉ label ++ ':' :: text := by
    intro c hc hcolon hblank ht hcmem
    rcases List.mem_append.mp hcmem with h | h
    · exact not_mem_of_isLabelName hlabel hc h
    rcases List.mem_cons.mp h with h | h
    · exact hcolon h
    rcases htext with rfl | ⟨t, rfl, hcell⟩
    · exact absurd h (by simp)
    rcases List.mem_cons.mp h with h | h
    · exact hblank h
    · exact ht t rfl hcell h
  exact ⟨by simp, ⟨⟨stops_of_isLabelName hlabel _, hend⟩,
    hmem '\t' (by decide) (by decide) (by decide) fun _ _ ht => ht.line.tab,
    hmem '\n' (by decide) (by decide) (by decide) fun _ _ ht => ht.line.newline⟩,
    hmem '|' (by decide) (by decide) (by decide) fun _ _ ht => ht.bar⟩

theorem Pseudo.Readable.isCellText {entry : Pseudo} (h : entry.Readable) : IsCellText entry.cell := by
  match entry, h with
  | .instruction _, h => exact h.1
  | .labelled _ (.instruction text), h => exact isCellText_label h.1 (.inr ⟨text.toList, rfl, h.2⟩)
  | .labelled _ .nop, h => exact isCellText_label h (.inl rfl)

/-- A label is read from the start of a cell. -/
theorem cellLabel?_append {label rest : List Char} (h : IsLabelName label)
    (hrest : rest.head? ≠ some ':') : cellLabel? (label ++ ':' :: rest) = some (label, rest) := by
  have hread : labelName (label ++ ':' :: rest) = some (label, ':' :: rest) :=
    word_append_of_stops h (Stops.cons (by decide) _)
  simp [cellLabel?, hread, hrest]

theorem cellEntry_of_label {cell label rest : List Char} (htab : '\t' ∉ cell)
    (h : cellLabel? cell = some (label, rest)) :
    cellEntry cell = .labelled (String.ofList label) (entryOf (trim rest)) := by
  simp only [cellEntry, expandTabs_of_no_tab htab, h]

theorem cellEntry_of_no_label {cell : List Char} (hcell : IsCellText cell)
    (h : cellLabel? cell = none) : cellEntry cell = entryOf cell := by
  simp only [cellEntry, expandTabs_of_no_tab hcell.line.tab, h, trim_of_flush hcell.line.flush]

theorem entryOf_toList {text : String} (h : text.toList ≠ []) :
    entryOf text.toList = .instruction text := by
  rw [entryOf, if_neg (by simpa using h), String.ofList_toList]

theorem cellEntry_cell {entry : Pseudo} (h : entry.Readable) : cellEntry entry.cell = entry := by
  have hcell := h.isCellText
  match entry, h with
  | .instruction text, h =>
    show cellEntry text.toList = .instruction text
    rw [cellEntry_of_no_label h.1 h.2, entryOf_toList h.1.ne_nil]
  | .labelled label (.instruction text), h =>
    have htab : '\t' ∉ label.toList ++ ':' :: ' ' :: text.toList := hcell.line.tab
    have hlabel := cellLabel?_append h.1 (show (' ' :: text.toList).head? ≠ some ':' by simp)
    show cellEntry (label.toList ++ ':' :: ' ' :: text.toList) = .labelled label (.instruction text)
    rw [cellEntry_of_label htab hlabel, trim_space_cons h.2.line.flush,
      entryOf_toList h.2.ne_nil, String.ofList_toList]
  | .labelled label .nop, h =>
    have htab : '\t' ∉ label.toList ++ [':'] := hcell.line.tab
    have hlabel := cellLabel?_append h (show ([] : List Char).head? ≠ some ':' by simp)
    show cellEntry (label.toList ++ [':']) = .labelled label .nop
    rw [cellEntry_of_label htab hlabel, String.ofList_toList]
    rfl

/-! ## Rows -/

/-- A row with these cells. -/
def rowLine (texts : List (List Char)) : List Char :=
  joinWith '|' texts ++ [';']

/-- A text that a row can hold: a cell, or nothing. -/
def IsRowText (s : List Char) : Prop :=
  s = [] ∨ IsCellText s

theorem IsRowText.flush {s : List Char} (h : IsRowText s) : Flush s := by
  rcases h with rfl | h
  · exact Flush.nil
  · exact h.line.flush

theorem IsRowText.bar {s : List Char} (h : IsRowText s) : '|' ∉ s := by
  rcases h with rfl | h
  · simp
  · exact h.bar

/-- The cells of a row are read from it. -/
theorem cells_rowLine {texts : List (List Char)} (hne : texts ≠ [])
    (h : ∀ text ∈ texts, IsRowText text) : cells (rowLine texts) = texts := by
  have hlast : (joinWith '|' texts ++ [';']).getLast? = some ';' := by simp
  have hsplit : splitAt '|' (joinWith '|' texts) = texts :=
    splitAt_joinWith hne fun text htext => (h text htext).bar
  have htrim : texts.map trim = texts := map_trim_of_flush fun text htext => (h text htext).flush
  rw [cells, rowLine, dropSemicolon, if_pos hlast, List.dropLast_concat, hsplit, htrim]

/-- Only the first cell of a row can end the table. -/
theorem startsCondition_rowLine (text : List Char) (texts : List (List Char)) :
    startsCondition (rowLine (text :: texts)) = startsCondition text := by
  rw [rowLine]
  cases texts with
  | nil => exact startsCondition_append (by simp [IsMark]) text []
  | cons next texts =>
    rw [joinWith_cons '|' text (List.cons_ne_nil next texts), List.append_assoc, List.cons_append]
    exact startsCondition_append (by simp [IsMark]) text _

theorem isLine_rowLine {texts : List (List Char)} (h : ∀ text ∈ texts, IsRowText text) :
    IsLine (rowLine texts) := by
  have hmem : ∀ c, c ∉ ['|', ';'] → (∀ text ∈ texts, c ∉ text) → c ∉ rowLine texts := by
    intro c hc hnot hrow
    simp only [List.mem_cons, List.not_mem_nil, or_false, not_or] at hc
    rcases List.mem_append.mp hrow with hrow | hrow
    · rcases mem_joinWith hrow with hbar | ⟨text, htext, hmem⟩
      · exact hc.1 hbar
      · exact hnot text htext hmem
    · exact hc.2 (List.mem_singleton.mp hrow)
  have hstart : Stops isSpace (rowLine texts) := by
    cases texts with
    | nil => exact Stops.cons (by decide) []
    | cons text texts =>
      have hfirst := (h text (by simp)).flush.1
      cases text with
      | nil =>
        cases texts with
        | nil => exact Stops.cons (by decide) []
        | cons next texts => exact Stops.cons (by decide) _
      | cons c text =>
        have hc := hfirst c rfl
        cases texts with
        | nil => exact Stops.cons hc _
        | cons next texts => exact Stops.cons hc _
  have hend : Stops isSpace (rowLine texts).reverse := by
    rw [rowLine, List.reverse_append]
    exact Stops.cons (by decide) _
  refine ⟨⟨hstart, hend⟩, hmem '\t' (by decide) fun text htext => ?_,
    hmem '\n' (by decide) fun text htext => ?_⟩
  · rcases h text htext with rfl | hcell
    · simp
    · exact hcell.line.tab
  · rcases h text htext with rfl | hcell
    · simp
    · exact hcell.line.newline

theorem rowLine_ne_nil (texts : List (List Char)) : rowLine texts ≠ [] := by
  simp [rowLine]

/-! ## Threads -/

/-- The threads that a table can hold: numbers that are not negative, and entries for cells. -/
def ReadableThread (thread : Int × List Pseudo) : Prop :=
  0 ≤ thread.1 ∧ ∀ entry ∈ thread.2, entry.Readable

/-- The row that names the threads. -/
def namesRow (threads : List (Int × List Pseudo)) : List Char :=
  rowLine (threads.map fun thread => 'P' :: decimal thread.1)

/-- The cells of the row with this number, empty where a thread has ended. -/
def entryTexts (threads : List (Int × List Pseudo)) (j : Nat) : List (List Char) :=
  threads.map fun thread => (thread.2[j]?.map Pseudo.cell).getD []

/-- The number of rows that the threads take. -/
def depth (threads : List (Int × List Pseudo)) : Nat :=
  (threads.map (·.2.length)).foldr max 0

/-- The rows of the entries. -/
def entryRows (threads : List (Int × List Pseudo)) : List (List Char) :=
  (List.range (depth threads)).map fun j => rowLine (entryTexts threads j)

theorem threadName?_decimal {n : Int} (h : 0 ≤ n) : threadName? ('P' :: decimal n) = some n := by
  have hdigits : digits (decimal n) = some (decimal n, []) := by
    have hread := word_append_of_stops (isDigits_decimal n) (Stops.nil Char.isDigit)
    rwa [List.append_nil] at hread
  simp [threadName?, hdigits, naturalOf_decimal h]

theorem isCellText_name (n : Int) : IsCellText ('P' :: decimal n) := by
  have hname : IsName ('P' :: decimal n) :=
    ⟨by decide, isNameTail_of_isDigits (isDigits_decimal n)⟩
  have hspace : ∀ c ∈ 'P' :: decimal n, isNameTail c = true := isNameTail_of_isName hname
  have hmem : ∀ c, isNameTail c = false → c ∉ 'P' :: decimal n := by
    intro c hc hcmem
    rw [hspace c hcmem] at hc
    exact absurd hc (by decide)
  have hend : Stops isSpace ('P' :: decimal n).reverse := fun c hc =>
    isSpace_of_isNameTail (hspace c (List.mem_reverse.mp (List.mem_of_mem_head? hc)))
  exact ⟨by simp, ⟨⟨Stops.cons (by decide) _, hend⟩, hmem '\t' (by decide), hmem '\n' (by decide)⟩,
    hmem '|' (by decide)⟩

theorem readNames_namesRow {threads : List (Int × List Pseudo)} (hne : threads ≠ [])
    (h : ∀ thread ∈ threads, ReadableThread thread) :
    readNames (namesRow threads) = .ok (threads.map (·.1)) := by
  have hcells : cells (namesRow threads) = threads.map fun thread => 'P' :: decimal thread.1 := by
    refine cells_rowLine (by simpa using hne) fun text htext => ?_
    obtain ⟨thread, -, rfl⟩ := List.mem_map.mp htext
    exact .inr (isCellText_name thread.1)
  rw [readNames, hcells, mapM_shaped_eq_ok, List.forall₂_map_left_iff, List.forall₂_map_right_iff,
    List.forall₂_same]
  exact fun thread hthread => threadName?_decimal (h thread hthread).1

theorem le_depth {threads : List (Int × List Pseudo)} {thread : Int × List Pseudo}
    (h : thread ∈ threads) : thread.2.length ≤ depth threads := by
  induction threads with
  | nil => exact absurd h (by simp)
  | cons first threads ih =>
    show thread.2.length ≤ max first.2.length (depth threads)
    rcases List.mem_cons.mp h with rfl | h
    · exact Nat.le_max_left _ _
    · exact Nat.le_trans (ih h) (Nat.le_max_right _ _)

theorem isRowText_entryTexts {threads : List (Int × List Pseudo)}
    (h : ∀ thread ∈ threads, ReadableThread thread) (j : Nat) :
    ∀ text ∈ entryTexts threads j, IsRowText text := by
  intro text htext
  obtain ⟨thread, hthread, rfl⟩ := List.mem_map.mp htext
  cases hentry : thread.2[j]? with
  | none => exact .inl rfl
  | some entry =>
    exact .inr ((h thread hthread).2 entry (List.mem_of_getElem? hentry)).isCellText

theorem cells_entryRow {threads : List (Int × List Pseudo)} (hne : threads ≠ [])
    (h : ∀ thread ∈ threads, ReadableThread thread) (j : Nat) :
    cells (rowLine (entryTexts threads j)) = entryTexts threads j :=
  cells_rowLine (by simpa [entryTexts] using hne) (isRowText_entryTexts h j)

theorem filterMap_range_getElem? {α : Type} (as : List α) (n : Nat) :
    (List.range n).filterMap (fun j => as[j]?) = as.take n := by
  induction n with
  | zero => rfl
  | succ n ih =>
    rw [List.range_succ, List.filterMap_append, ih, List.take_add_one]
    cases hn : as[n]? <;> simp [hn]

/-- A column of the written table holds the entries of its thread. -/
theorem column_entryRows {threads : List (Int × List Pseudo)} (hne : threads ≠ [])
    (h : ∀ thread ∈ threads, ReadableThread thread) {i : Nat} {thread : Int × List Pseudo}
    (hi : threads[i]? = some thread) :
    column ((entryRows threads).map cells) i = thread.2 := by
  have hmem : thread ∈ threads := List.mem_of_getElem? hi
  have hrows : (entryRows threads).map cells = (List.range (depth threads)).map (entryTexts threads) := by
    rw [entryRows, List.map_map]
    exact List.map_congr_left fun j _ => cells_entryRow hne h j
  -- row `j` holds entry `j` of the thread, and an empty cell once the thread has ended
  rw [column, hrows, List.filterMap_map, ← List.take_of_length_le (le_depth hmem),
    ← filterMap_range_getElem?]
  refine List.filterMap_congr fun j _ => ?_
  rw [Function.comp_apply, entryTexts, List.getElem?_map, hi, Option.map_some]
  cases hj : thread.2[j]? with
  | none => rfl
  | some entry =>
    have hreadable := (h thread hmem).2 entry (List.mem_of_getElem? hj)
    have hcell : entry.cell.isEmpty = false := by simpa using hreadable.isCellText.ne_nil
    show (if entry.cell.isEmpty = true then none else some (cellEntry entry.cell)) = some entry
    rw [hcell, cellEntry_cell hreadable]
    rfl

theorem threadsOf_entryRows {threads : List (Int × List Pseudo)} (hne : threads ≠ [])
    (h : ∀ thread ∈ threads, ReadableThread thread) :
    threadsOf (threads.map (·.1)) (entryRows threads) = threads := by
  refine List.ext_getElem? fun i => ?_
  rw [threadsOf, List.getElem?_map, List.getElem?_zipIdx, List.getElem?_map]
  cases hi : threads[i]? with
  | none => rfl
  | some thread =>
    simp only [Option.map_some, Nat.zero_add]
    rw [column_entryRows hne h hi]

end Litmus
