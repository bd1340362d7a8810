import Litmus.Proofs.Rendering
import Litmus.Proofs.Scanned

/-!
# Read tests

Every test that is read can be written, and what is written for it is read as the same test.

* **`header?_isLine`**, **`info?_isLine`**, **`readInit_readable`**: the lines before the table.
* **`cellEntry_readable`**, **`startsCondition_of_first`**: the cells of a row.
* **`readTable_readable`**: the threads.
* **`readable_iff_readTest`**: the tests that can be written are those that are read, and they are
  read from their texts.
-/

namespace Litmus

open Source Text

/-! ## The header and the keys -/

theorem isLine_trim {s : List Char} (htab : '\t' ∉ s) (hnewline : '\n' ∉ s) : IsLine (trim s) :=
  ⟨flush_trim s, fun h => htab (mem_trim h), fun h => hnewline (mem_trim h)⟩

theorem header?_isLine {line arch name : List Char} (hline : '\n' ∉ line)
    (h : header? line = some (arch, name)) : IsWord isGraphic isGraphic arch ∧ IsLine name := by
  obtain ⟨⟨w, rest⟩, hword, heq⟩ := Option.map_eq_some_iff.mp h
  obtain ⟨rfl, rfl⟩ := Prod.mk.inj heq
  obtain ⟨harch, happ, -⟩ := isWord_of_word hword
  have htab : '\t' ∉ expandTabs line := no_tab_expandTabsFrom line 0
  have hnewline : '\n' ∉ expandTabs line := not_mem_expandTabs (by decide) hline
  rw [happ] at htab hnewline
  exact ⟨harch, isLine_trim (fun hmem => htab (List.mem_append_right w hmem))
    fun hmem => hnewline (List.mem_append_right w hmem)⟩

theorem info?_isLine {line : List Char} {entry : String × String} (hline : '\n' ∉ line)
    (h : info? line = some entry) :
    IsWord isKeyChar isKeyChar entry.1.toList ∧ IsLine entry.2.toList := by
  simp only [info?, Option.bind_eq_bind, Option.bind_eq_some_iff, Prod.exists, Option.pure_def,
    Option.some.injEq] at h
  obtain ⟨key, s, hword, rest, hmark, rfl⟩ := h
  obtain ⟨hkey, happ, -⟩ := isWord_of_word hword
  have htab : '\t' ∉ expandTabs line := no_tab_expandTabsFrom line 0
  have hnewline : '\n' ∉ expandTabs line := not_mem_expandTabs (by decide) hline
  rw [happ] at htab hnewline
  have hrest : rest ⊆ s := by
    have hskip := skipBlanks_of_spacedMark hmark
    have hsub : '=' :: rest ⊆ s := hskip ▸ (List.dropWhile_sublist isBlank).subset
    exact fun c hc => hsub (List.mem_cons_of_mem '=' hc)
  refine ⟨?_, ?_⟩
  · rwa [String.toList_ofList]
  · rw [String.toList_ofList]
    exact isLine_trim (fun hmem => htab (List.mem_append_right key (hrest hmem)))
      fun hmem => hnewline (List.mem_append_right key (hrest hmem))

theorem infoOf_isLine {lines : List (List Char)} {info : List (String × String)}
    (hlines : ∀ line ∈ lines, '\n' ∉ line) (h : infoOf lines = .ok info) :
    ∀ entry ∈ info, IsWord isKeyChar isKeyChar entry.1.toList ∧ IsLine entry.2.toList := by
  intro entry hentry
  obtain ⟨line, hline, hinfo⟩ := exists_of_mem_shaped h hentry
  have hmem : line ∈ lines := (List.takeWhile_sublist _).subset (List.mem_of_mem_filter hline)
  exact info?_isLine (hlines line hmem) hinfo

/-! ## The initial state -/

theorem assignment?_readable {s : List Char} {assignment : Location × Constant}
    (h : assignment? s = some assignment) : assignment.1.Readable ∧ assignment.2.Readable := by
  simp only [assignment?, Option.bind_eq_bind, Option.bind_eq_some_iff, Prod.exists] at h
  obtain ⟨place, _, hplace, _, -, value, _, hvalue, h⟩ := h
  split at h
  · rw [← Option.some.inj h]
    exact ⟨location_readable hplace, constant_readable hvalue⟩
  · cases h

theorem readInit_readable {s : List Char} {init : List (Location × Constant)}
    (h : readInit s = .ok init) :
    ∀ assignment ∈ init, assignment.1.Readable ∧ assignment.2.Readable := by
  intro assignment hmem
  obtain ⟨text, -, hread⟩ := exists_of_mem_shaped h hmem
  exact assignment?_readable hread

/-! ## Cells -/

theorem of_mem_cells {row cell : List Char} (hrow : '\n' ∉ row) (h : cell ∈ cells row) :
    Flush cell ∧ '|' ∉ cell ∧ '\n' ∉ cell := by
  obtain ⟨piece, hpiece, rfl⟩ := List.mem_map.mp h
  refine ⟨flush_trim piece, fun hbar => ?_, fun hline => ?_⟩
  · have hnot := not_mem_of_mem_splitWhen hpiece '|' (mem_trim hbar)
    exact absurd hnot (by simp)
  · exact hrow ((dropSemicolon_initial row).subset (mem_of_mem_splitWhen hpiece (mem_trim hline)))

theorem cellLabel?_eq_some {cell label rest : List Char} (h : cellLabel? cell = some (label, rest)) :
    IsLabelName label ∧ cell = label ++ ':' :: rest := by
  simp only [cellLabel?, Option.bind_eq_bind, Option.bind_eq_some_iff, Prod.exists] at h
  obtain ⟨w, s, hword, s', hmark, h⟩ := h
  split at h
  · cases h
  · obtain ⟨rfl, rfl⟩ := Prod.mk.inj (Option.some.inj h)
    obtain ⟨hlabel, happ, -⟩ := isWord_of_word hword
    refine ⟨hlabel, ?_⟩
    rw [happ]
    cases s with
    | nil => cases hmark
    | cons c s =>
      rw [mark] at hmark
      split at hmark
      · rename_i hc
        rw [hc, Option.some.inj hmark]
      · cases hmark

/-- The two kinds of entries that a cell holds. -/
theorem cellEntry_cases {cell : List Char} (hne : cell ≠ []) (hflush : Flush cell) :
    (∃ label rest, cellEntry cell = .labelled (String.ofList label) (entryOf (trim rest)) ∧
      IsLabelName label ∧ expandTabs cell = label ++ ':' :: rest) ∨
    (cellEntry cell = .instruction (String.ofList (expandTabs cell)) ∧
      cellLabel? (expandTabs cell) = none) := by
  cases hlabel : cellLabel? (expandTabs cell) with
  | some read =>
    obtain ⟨label, rest⟩ := read
    obtain ⟨hname, happ⟩ := cellLabel?_eq_some hlabel
    refine .inl ⟨label, rest, ?_, hname, happ⟩
    simp only [cellEntry, hlabel]
  | none =>
    refine .inr ⟨?_, rfl⟩
    have hempty : (expandTabs cell).isEmpty = false := by simpa using expandTabs_ne_nil hne hflush
    simp only [cellEntry, hlabel, trim_of_flush (flush_expandTabs hflush), entryOf, hempty]
    rfl

theorem cellEntry_readable {cell : List Char} (hne : cell ≠ []) (hflush : Flush cell)
    (hbar : '|' ∉ cell) (hnewline : '\n' ∉ cell) : (cellEntry cell).Readable := by
  have htab' : '\t' ∉ expandTabs cell := no_tab_expandTabsFrom cell 0
  have hbar' : '|' ∉ expandTabs cell := not_mem_expandTabs (by decide) hbar
  have hnewline' : '\n' ∉ expandTabs cell := not_mem_expandTabs (by decide) hnewline
  rcases cellEntry_cases hne hflush with ⟨label, rest, hentry, hlabel, happ⟩ | ⟨hentry, hnone⟩
  · have hsub : ∀ c ∈ rest, c ∈ expandTabs cell := by
      intro c hc
      rw [happ]
      exact List.mem_append_right _ (List.mem_cons_of_mem ':' hc)
    rw [hentry, entryOf]
    cases hrest : (trim rest).isEmpty with
    | true =>
      show IsLabelName (String.ofList label).toList
      rwa [String.toList_ofList]
    | false =>
      have hcell : IsCellText (trim rest) :=
        ⟨by simpa using hrest, isLine_trim (fun hmem => htab' (hsub _ hmem))
          fun hmem => hnewline' (hsub _ hmem), fun hmem => hbar' (hsub _ (mem_trim hmem))⟩
      show IsLabelName (String.ofList label).toList ∧ IsCellText (String.ofList (trim rest)).toList
      rw [String.toList_ofList, String.toList_ofList]
      exact ⟨hlabel, hcell⟩
  · rw [hentry]
    show IsCellText (String.ofList (expandTabs cell)).toList ∧
      cellLabel? (String.ofList (expandTabs cell)).toList = none
    rw [String.toList_ofList]
    exact ⟨⟨expandTabs_ne_nil hne hflush, ⟨flush_expandTabs hflush, htab', hnewline'⟩, hbar'⟩, hnone⟩

/-- The text of an entry starts a condition only if the cell does that it was read from. -/
theorem startsCondition_cellEntry {cell : List Char} (hne : cell ≠ []) (hflush : Flush cell) :
    startsCondition (cellEntry cell).cell = startsCondition cell := by
  rw [← startsCondition_expandTabs cell]
  rcases cellEntry_cases hne hflush with ⟨label, rest, hentry, -, happ⟩ | ⟨hentry, -⟩
  · have hcell : ∃ tail, (cellEntry cell).cell = label ++ ':' :: tail := by
      rw [hentry, entryOf]
      split
      · exact ⟨[], by rw [Pseudo.cell, String.toList_ofList]; simp⟩
      · exact ⟨' ' :: trim rest, by rw [Pseudo.cell, String.toList_ofList, String.toList_ofList]⟩
    obtain ⟨tail, htail⟩ := hcell
    -- entry and cell have the label and the colon in common, and nothing is decided behind a colon
    rw [htail, happ, startsCondition_append (by simp [IsMark]), startsCondition_append (by simp [IsMark])]
  · rw [hentry, Pseudo.cell, String.toList_ofList]

/-! ## Threads -/

theorem threadName?_nonneg {cell : List Char} {n : Int} (h : threadName? cell = some n) : 0 ≤ n := by
  simp only [threadName?, Option.bind_eq_bind, Option.bind_eq_some_iff, Prod.exists] at h
  obtain ⟨s, -, thread, rest, -, h⟩ := h
  split at h
  · rw [← Option.some.inj h]
    exact Int.natCast_nonneg _
  · cases h

/-- Where the entries of a column come from. -/
theorem exists_of_mem_column {rows : List (List Char)} {i : Nat} {entry : Pseudo}
    (h : entry ∈ column (rows.map cells) i) :
    ∃ row ∈ rows, ∃ cell, (cells row)[i]? = some cell ∧ cell ≠ [] ∧ cellEntry cell = entry := by
  rw [column, List.filterMap_map] at h
  obtain ⟨row, hrow, hentry⟩ := List.mem_filterMap.mp h
  refine ⟨row, hrow, ?_⟩
  rw [Function.comp_apply] at hentry
  cases hcell : (cells row)[i]? with
  | none =>
    rw [hcell] at hentry
    cases hentry
  | some cell =>
    rw [hcell] at hentry
    cases cell with
    | nil => cases hentry
    | cons c cell => exact ⟨c :: cell, rfl, List.cons_ne_nil c cell, Option.some.inj hentry⟩

theorem of_mem_tableRows {lines : List (List Char)} {row : List Char}
    (hlines : ∀ line ∈ lines, '\n' ∉ line) (h : row ∈ tableRows lines) :
    Flush row ∧ '\n' ∉ row ∧ startsCondition row = false := by
  obtain ⟨line, hline, rfl⟩ := List.mem_map.mp (List.mem_of_mem_filter h)
  have hstart : startsCondition (trim line) = false := by simpa using List.mem_takeWhile_imp hline
  have hmem : line ∈ lines := (List.takeWhile_sublist _).subset hline
  exact ⟨flush_trim line, fun hnewline => hlines line hmem (mem_trim hnewline), hstart⟩

theorem readTable_eq_ok {rows : List (List Char)} {threads : List (Int × List Pseudo)}
    (h : readTable rows = .ok threads) :
    ∃ first rest names, rows = first :: rest ∧ readNames first = .ok names ∧
      threadsOf names rest = threads := by
  unfold readTable at h
  split at h
  · cases h
  · rename_i first rest
    obtain ⟨names, hnames, h⟩ := bind_eq_ok.mp h
    split at h
    · cases h
    · exact ⟨first, rest, names, rfl, hnames, Except.ok.inj h⟩

theorem exists_of_mem_threadsOf {names : List Int} {rows : List (List Char)}
    {thread : Int × List Pseudo} (h : thread ∈ threadsOf names rows) :
    thread.1 ∈ names ∧ ∃ i, thread.2 = column (rows.map cells) i := by
  obtain ⟨⟨n, i⟩, hmem, rfl⟩ := List.mem_map.mp h
  exact ⟨(List.mem_zipIdx' hmem).2 ▸ List.getElem_mem _, i, rfl⟩

theorem head?_threadsOf {names : List Int} {rows : List (List Char)} {thread : Int × List Pseudo}
    (h : (threadsOf names rows).head? = some thread) : thread.2 = column (rows.map cells) 0 := by
  cases names with
  | nil => cases h
  | cons n names => rw [← Option.some.inj h]

theorem readTable_readable {lines : List (List Char)} {threads : List (Int × List Pseudo)}
    (hlines : ∀ line ∈ lines, '\n' ∉ line) (h : readTable (tableRows lines) = .ok threads) :
    threads ≠ [] ∧ (∀ thread ∈ threads, ReadableThread thread) ∧
      ∀ thread ∈ threads.head?, ∀ entry ∈ thread.2, startsCondition entry.cell = false := by
  obtain ⟨first, rest, names, hrows, hnames, rfl⟩ := readTable_eq_ok h
  have hrest : ∀ row ∈ rest, Flush row ∧ '\n' ∉ row ∧ startsCondition row = false := by
    intro row hrow
    refine of_mem_tableRows hlines ?_
    rw [hrows]
    exact List.mem_cons_of_mem first hrow
  refine ⟨?_, fun thread hthread => ?_, fun thread hthread entry hentry => ?_⟩
  · have hne := readNames_ne_nil hnames
    simpa [threadsOf] using hne
  · -- the thread takes its number from the first row and its entries from the others
    obtain ⟨hname, i, hcolumn⟩ := exists_of_mem_threadsOf hthread
    refine ⟨?_, fun entry hentry => ?_⟩
    · obtain ⟨cell, -, hcell⟩ := exists_of_mem_shaped hnames hname
      exact threadName?_nonneg hcell
    · rw [hcolumn] at hentry
      obtain ⟨row, hrow, cell, hcell, hne, rfl⟩ := exists_of_mem_column hentry
      obtain ⟨hflush, hbar, hnewline⟩ :=
        of_mem_cells (hrest row hrow).2.1 (List.mem_of_getElem? hcell)
      exact cellEntry_readable hne hflush hbar hnewline
  · rw [head?_threadsOf hthread] at hentry
    obtain ⟨row, hrow, cell, hcell, hne, rfl⟩ := exists_of_mem_column hentry
    obtain ⟨hflush, hnewline, hstart⟩ := hrest row hrow
    rw [startsCondition_cellEntry hne (of_mem_cells hnewline (List.mem_of_getElem? hcell)).1]
    -- otherwise the row would have ended the table
    cases hcond : startsCondition cell with
    | false => rfl
    | true =>
      rw [startsCondition_of_first hflush.1 hcell hcond] at hstart
      exact absurd hstart (by decide)

/-! ## Tests -/

theorem readCondition_readable {lines : List (List Char)} {c : Condition}
    (h : readCondition lines = .ok c) : c.body.Readable := by
  unfold readCondition at h
  split at h
  · cases h
  · exact condition?_readable (shaped_eq_ok.mp h)

theorem textLines_newline {s line : List Char} (h : line ∈ textLines s) : '\n' ∉ line := by
  obtain ⟨piece, hpiece, rfl⟩ := List.mem_map.mp h
  exact fun hmem => newline_of_mem_splitAt hpiece (mem_trim hmem)

/-- Every test that is read can be written. -/
theorem readable_of_readTest {s : List Char} {t : Test} (h : readTest s = .ok t) : t.Readable := by
  rw [readTest_eq] at h
  obtain ⟨⟨test, after⟩, hfront, h⟩ := bind_eq_ok.mp h
  obtain ⟨c, hcondition, h⟩ := bind_eq_ok.mp h
  obtain rfl := Except.ok.inj h
  obtain ⟨line, rest, arch, name, doc, rest₁, info, init, rest₂, assignments, threads, hlines, hheader,
    hname, hdoc, hinfo, -, hassign, htable, -, rfl⟩ := readFront_eq_ok.mp hfront
  -- all of the front is made of lines of the text, and no line holds a line feed
  have hnewline : ∀ l ∈ line :: rest, '\n' ∉ l := by
    intro l hl
    rw [← hlines] at hl
    exact textLines_newline ((List.dropWhile_sublist _).subset hl)
  have hrest : ∀ l ∈ rest₁, '\n' ∉ l := fun l hl =>
    hnewline l (List.mem_cons_of_mem line (takeDoc_subset hdoc hl))
  obtain ⟨harch, hline⟩ := header?_isLine (hnewline line (by simp)) hheader
  obtain ⟨hthreads_ne, hthreads, hcolumn⟩ :=
    readTable_readable (fun l hl => newline_of_mem_splitAt hl) htable
  exact {
    arch := by rwa [String.toList_ofList]
    name_ne_nil := by rwa [String.toList_ofList]
    name := by rwa [String.toList_ofList]
    info := infoOf_isLine hrest hinfo
    init := readInit_readable hassign
    threads_ne_nil := hthreads_ne
    threads := hthreads
    column := hcolumn
    condition := readCondition_readable hcondition }

/-- The tests that can be written are the tests that are read, and what is written for one of them
is read as that test. -/
theorem readable_iff_readTest (t : Test) :
    (t.Readable ↔ readTest t.render = .ok t) ∧ (t.Readable ↔ ∃ s, readTest s = .ok t) := by
  refine ⟨⟨fun h => h.readTest_render, readable_of_readTest⟩, fun h => ⟨t.render, h.readTest_render⟩, ?_⟩
  rintro ⟨s, hs⟩
  exact readable_of_readTest hs

end Litmus
