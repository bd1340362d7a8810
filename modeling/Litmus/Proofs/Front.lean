import Litmus.Proofs.Layout
import Litmus.Proofs.Preamble

/-!
# The front of a test

A test is read in two steps: everything up to the table, and the condition from the lines behind it.

* **`readFront`**: the first step, the preamble and the table. **`readTest_eq`**: reading is this and the
  condition.
* **`readFront_eq_ok`**: what the first step reads, part by part.
* **`readFront_append_table`**, **`readFront_append`**: lines behind a table do not change what stands
  before them.
-/

namespace Litmus.Source

open Litmus.Text

/-! ## The two steps -/

/-- Everything of a test but the condition, and the lines that are to hold the condition. -/
def readFront (lines : List (List Char)) :
    Except Fault ((Condition → Test) × List (List Char)) := do
  let (p, rest) ← readPreamble lines
  let threads ← readTable (tableRows rest)
  return (p.test threads, afterTable rest)

/-- A test is read in two steps. -/
theorem readTest_eq (s : List Char) :
    readTest s = do
      let (test, rest) ← readFront (skipBlankLines (textLines s))
      let condition ← readCondition rest
      return test condition := by
  simp only [readTest_eq_preamble, readFront, bind_assoc, pure_bind]

/-- What has been read when the front of a test is read, part by part. -/
theorem readFront_eq_ok {lines after : List (List Char)} {test : Condition → Test} :
    readFront lines = .ok (test, after) ↔
      ∃ line rest arch name doc rest₁ info init rest₂ assignments threads,
        lines = line :: rest ∧ header? line = some (arch, name) ∧ name ≠ [] ∧
        takeDoc rest = .ok (doc, rest₁) ∧ infoOf rest₁ = .ok info ∧
        braced rest₁ = .ok (init, rest₂) ∧ readInit init = .ok assignments ∧
        readTable (tableRows (splitAt '\n' rest₂)) = .ok threads ∧
        afterTable (splitAt '\n' rest₂) = after ∧
        (fun condition => (⟨String.ofList arch, String.ofList name, info, assignments, threads,
          condition, doc⟩ : Test)) = test := by
  constructor
  · intro h
    obtain ⟨⟨p, behind⟩, hpreamble, h⟩ := bind_eq_ok.mp h
    obtain ⟨threads, htable, h⟩ := bind_eq_ok.mp h
    obtain ⟨htest, hafter⟩ := Prod.mk.inj (Except.ok.inj h)
    obtain ⟨line, rest, arch, name, doc, rest₁, info, init, rest₂, assignments, hlines, hheader, hne,
      hdoc, hinfo, hbraced, hassign, rfl, rfl⟩ := readPreamble_eq_ok.mp hpreamble
    exact ⟨line, rest, arch, name, doc, rest₁, info, init, rest₂, assignments, threads, hlines,
      hheader, hne, hdoc, hinfo, hbraced, hassign, htable, hafter, htest⟩
  · rintro ⟨line, rest, arch, name, doc, rest₁, info, init, rest₂, assignments, threads, hlines,
      hheader, hne, hdoc, hinfo, hbraced, hassign, htable, rfl, rfl⟩
    have hpreamble := readPreamble_eq_ok.mpr ⟨line, rest, arch, name, doc, rest₁, info, init, rest₂,
      assignments, hlines, hheader, hne, hdoc, hinfo, hbraced, hassign, rfl, rfl⟩
    exact bind_eq_ok.mpr ⟨_, hpreamble, bind_eq_ok.mpr ⟨threads, htable, rfl⟩⟩

/-- The lines behind a documentation string are lines of the text. -/
theorem takeDoc_subset {lines rest : List (List Char)} {doc : Option String}
    (h : takeDoc lines = .ok (doc, rest)) : rest ⊆ lines := by
  have hskip : ∀ lines, skipBlankLines lines ⊆ lines := fun lines =>
    (List.dropWhile_sublist _).subset
  unfold takeDoc at h
  split at h
  · rw [← (Prod.mk.inj (Except.ok.inj h)).2]
    exact List.nil_subset lines
  · rename_i line tail hlines
    have htail : line :: tail ⊆ lines := hlines ▸ hskip lines
    split at h
    · obtain ⟨_, -, h⟩ := bind_eq_ok.mp h
      rw [← (Prod.mk.inj (Except.ok.inj h)).2]
      exact fun l hl => htail (List.mem_cons_of_mem line (hskip tail hl))
    · rw [← (Prod.mk.inj (Except.ok.inj h)).2]
      exact htail

theorem takeDoc_error {lines : List (List Char)} {fault : Fault} (h : takeDoc lines = .error fault) :
    ∃ misshape, fault = .malformed misshape := by
  unfold takeDoc at h
  split at h
  · cases h
  · split at h
    · rcases bind_eq_error.mp h with h | ⟨_, -, h⟩
      · exact ⟨_, shaped_error h⟩
      · cases h
    · cases h

theorem braced_error {lines : List (List Char)} {fault : Fault} (h : braced lines = .error fault) :
    fault = .missingInitialState := by
  unfold braced at h
  split at h
  · exact (Except.error.inj h).symm
  · split at h
    · cases h
    · exact (Except.error.inj h).symm

/-- Every row has a cell, so the first one names a thread. -/
theorem readNames_ne_nil {row : List Char} {names : List Int} (h : readNames row = .ok names) :
    names ≠ [] := by
  rintro rfl
  have hcells : cells row = [] := List.forall₂_nil_right_iff.mp (mapM_shaped_eq_ok.mp h)
  exact splitWhen_ne_nil _ _ (List.map_eq_nil_iff.mp hcells)

theorem readTable_error {rows : List (List Char)} {fault : Fault}
    (h : readTable rows = .error fault) : fault ≠ .missingCondition := by
  rintro rfl
  unfold readTable at h
  split at h
  · cases h
  · rcases bind_eq_error.mp h with h | ⟨names, -, h⟩
    · obtain ⟨_, -, hfault⟩ := mapM_shaped_error h
      cases hfault
    · split at h
      · cases h
      · cases h

theorem readPreamble_error {lines : List (List Char)} {fault : Fault}
    (h : readPreamble lines = .error fault) : fault ≠ .missingCondition := by
  rintro rfl
  unfold readPreamble at h
  cases lines with
  | nil => cases h
  | cons line rest =>
    rcases bind_eq_error.mp h with hheader | ⟨⟨arch, name⟩, -, h⟩
    · cases shaped_error hheader
    cases hname : name.isEmpty with
    | true =>
      simp only [hname] at h
      cases h
    | false =>
      simp only [hname] at h
      rcases bind_eq_error.mp h with hdoc | ⟨⟨doc, rest₁⟩, -, h⟩
      · obtain ⟨_, hfault⟩ := takeDoc_error hdoc
        cases hfault
      rcases bind_eq_error.mp h with hinfo | ⟨info, -, h⟩
      · obtain ⟨_, -, hfault⟩ := mapM_shaped_error hinfo
        cases hfault
      rcases bind_eq_error.mp h with hbraced | ⟨⟨init, rest₂⟩, -, h⟩
      · cases braced_error hbraced
      rcases bind_eq_error.mp h with hassign | ⟨assignments, -, h⟩
      · obtain ⟨_, -, hfault⟩ := mapM_shaped_error hassign
        cases hfault
      · cases h

/-- The front of a test never lacks the condition. -/
theorem readFront_error {lines : List (List Char)} {fault : Fault}
    (h : readFront lines = .error fault) : fault ≠ .missingCondition := by
  rcases bind_eq_error.mp h with h | ⟨_, -, h⟩
  · exact readPreamble_error h
  · rcases bind_eq_error.mp h with h | ⟨_, -, h⟩
    · exact readTable_error h
    · cases h

/-! ## Lines behind the table -/

theorem skipBlankLines_append {lines : List (List Char)} (h : ∃ line ∈ lines, line ≠ [])
    (more : List (List Char)) : skipBlankLines (lines ++ more) = skipBlankLines lines ++ more := by
  obtain ⟨line, hmem, hne⟩ := h
  have hstop : skipBlankLines lines ≠ [] := by
    intro hnil
    have hblank := List.dropWhile_eq_nil_iff.mp hnil line hmem
    exact hne (List.isEmpty_iff.mp hblank)
  rw [skipBlankLines, List.dropWhile_append, if_neg (by simpa [skipBlankLines] using hstop),
    skipBlankLines]

theorem ne_nil_of_skipBlankLines {lines rest : List (List Char)} {line : List Char}
    (h : skipBlankLines lines = line :: rest) : line ≠ [] := by
  rintro rfl
  have hhead := List.head?_dropWhile_not (·.isEmpty) lines
  rw [← skipBlankLines, h] at hhead
  exact absurd hhead (by simp)

theorem takeDoc_append {lines rest : List (List Char)} {doc : Option String}
    (h : takeDoc lines = .ok (doc, rest)) (hrest : ∃ line ∈ rest, line ≠ [])
    (more : List (List Char)) : takeDoc (lines ++ more) = .ok (doc, rest ++ more) := by
  unfold takeDoc at h
  split at h
  · obtain ⟨rfl, rfl⟩ := Prod.mk.inj (Except.ok.inj h)
    exact absurd hrest (by simp)
  · rename_i line tail hskip
    -- the first line that is not blank is found in front of the added lines
    have hline : ∃ line ∈ lines, line ≠ [] :=
      ⟨line, (List.dropWhile_sublist _).subset (by rw [← skipBlankLines, hskip]; simp),
        ne_nil_of_skipBlankLines hskip⟩
    rw [takeDoc, skipBlankLines_append hline, hskip, List.cons_append]
    split at h
    · -- the blank lines behind the documentation string end in front of the added lines, too
      rename_i hquote
      obtain ⟨text, hdoc, h⟩ := bind_eq_ok.mp h
      obtain ⟨rfl, rfl⟩ := Prod.mk.inj (Except.ok.inj h)
      have htail : ∃ line ∈ tail, line ≠ [] := by
        obtain ⟨l, hl, hne⟩ := hrest
        exact ⟨l, (List.dropWhile_sublist _).subset hl, hne⟩
      simp only [if_pos hquote, hdoc, skipBlankLines_append htail]
      rfl
    · rename_i hquote
      obtain ⟨rfl, rfl⟩ := Prod.mk.inj (Except.ok.inj h)
      simp only [if_neg hquote, List.cons_append]

theorem infoOf_append {lines : List (List Char)} (h : ∃ line ∈ lines, opensInit line = true)
    (more : List (List Char)) : infoOf (lines ++ more) = infoOf lines := by
  obtain ⟨line, hmem, hopen⟩ := h
  have htake : (lines ++ more).takeWhile (fun line => !opensInit line)
      = lines.takeWhile fun line => !opensInit line := by
    rw [List.takeWhile_append, if_neg]
    -- were all lines taken, the one with the brace would be among them
    intro hlen
    have hall := List.takeWhile_prefix (p := fun line => !opensInit line) (l := lines)
    have hself := hall.eq_of_length hlen
    rw [← hself] at hmem
    have hclosed := List.mem_takeWhile_imp hmem
    rw [hopen] at hclosed
    exact absurd hclosed (by decide)
  rw [infoOf, htake, infoOf]

theorem opensInit_of_braced {lines : List (List Char)} {init rest : List Char}
    (h : braced lines = .ok (init, rest)) : ∃ line ∈ lines, opensInit line = true := by
  cases hdrop : lines.dropWhile fun line => !opensInit line with
  | nil =>
    rw [braced, hdrop] at h
    cases h
  | cons line tail =>
    have hhead := List.head?_dropWhile_not (fun line => !opensInit line) lines
    rw [hdrop] at hhead
    refine ⟨line, (List.dropWhile_sublist _).subset (by rw [hdrop]; simp), ?_⟩
    simpa using hhead

theorem braced_append {lines more : List (List Char)} {init rest : List Char}
    (h : braced lines = .ok (init, rest)) (hmore : more ≠ []) :
    braced (lines ++ more) = .ok (init, rest ++ '\n' :: joinWith '\n' more) := by
  unfold braced at h
  split at h
  · cases h
  · rename_i c s hjoin
    split at h
    · rename_i hbrace
      obtain ⟨rfl, rfl⟩ := Prod.mk.inj (Except.ok.inj h)
      have hdrop : lines.dropWhile (fun line => !opensInit line) ≠ [] := by
        intro hnil
        rw [hnil] at hjoin
        exact absurd hjoin (by simp [joinWith])
      have hsplit : (lines ++ more).dropWhile (fun line => !opensInit line)
          = lines.dropWhile (fun line => !opensInit line) ++ more := by
        rw [List.dropWhile_append, if_neg (by simpa using hdrop)]
      -- the brace is found in front of what is added
      have hmem : '\x7d' ∈ s := by simpa using hbrace
      obtain ⟨u, v, rfl, hu⟩ := List.eq_append_cons_of_mem hmem
      have hclose : ∀ d ∈ u, (d != '\x7d') = true := bne_of_not_mem hu
      rw [braced, hsplit, joinWith_append '\n' hdrop hmore, hjoin]
      simp [List.takeWhile_append_of_pos hclose, List.dropWhile_append_of_pos hclose]
    · cases h

theorem tableRows_append {lines : List (List Char)} (h : afterTable lines = [])
    (more : List (List Char)) : tableRows (lines ++ more) = tableRows lines ++ tableRows more := by
  have hall : ∀ line ∈ lines, (!startsCondition (trim line)) = true := List.dropWhile_eq_nil_iff.mp h
  have hself : lines.takeWhile (fun line => !startsCondition (trim line)) = lines :=
    List.takeWhile_eq_self_iff.mpr hall
  rw [tableRows, List.takeWhile_append_of_pos hall, List.map_append, List.filter_append, tableRows,
    hself, tableRows]

theorem afterTable_append {lines : List (List Char)} (h : afterTable lines = [])
    (more : List (List Char)) : afterTable (lines ++ more) = afterTable more := by
  rw [afterTable, List.dropWhile_append_of_pos (List.dropWhile_eq_nil_iff.mp h), afterTable]

/-- Lines behind a front that ends with its table: their rows make its table grow, and the rest of
them belong to the condition. -/
theorem readFront_append_table {lines more : List (List Char)} {test : Condition → Test}
    {grow : List (Int × List Pseudo) → List (Int × List Pseudo)} (h : readFront lines = .ok (test, []))
    (hmore : more ≠ []) (hline : ∀ line ∈ more, '\n' ∉ line)
    (htable : ∀ rows threads, readTable rows = .ok threads →
      readTable (rows ++ tableRows more) = .ok (grow threads)) :
    readFront (lines ++ more) =
      .ok (fun c => { test c with threads := grow (test c).threads }, afterTable more) := by
  obtain ⟨line, rest, arch, name, doc, rest₁, info, init, rest₂, assignments, threads, rfl, hheader,
    hname, hdoc, hinfo, hbraced, hassign, hrows, hafter, rfl⟩ := readFront_eq_ok.mp h
  -- the opening brace stands before the added lines, so the parts in front of it stay as they are
  have hopen := opensInit_of_braced hbraced
  have hnonblank : ∃ line ∈ rest₁, line ≠ [] := by
    obtain ⟨l, hl, hopen⟩ := hopen
    refine ⟨l, hl, ?_⟩
    rintro rfl
    exact absurd hopen (by decide)
  have hinfo' : infoOf (rest₁ ++ more) = .ok info := by rw [infoOf_append hopen, hinfo]
  have hlines : splitAt '\n' (rest₂ ++ '\n' :: joinWith '\n' more) = splitAt '\n' rest₂ ++ more := by
    rw [splitAt, splitWhen_append (by simp)]
    exact congrArg (splitAt '\n' rest₂ ++ ·) (splitAt_joinWith hmore hline)
  refine readFront_eq_ok.mpr ⟨line, rest ++ more, arch, name, doc, rest₁ ++ more, info, init,
    rest₂ ++ '\n' :: joinWith '\n' more, assignments, grow threads, rfl, hheader, hname,
    takeDoc_append hdoc hnonblank more, hinfo', braced_append hbraced hmore, hassign, ?_, ?_, rfl⟩
  · rw [hlines, tableRows_append hafter, htable _ _ hrows]
  · rw [hlines, afterTable_append hafter]

/-- Lines that hold no rows leave the table as it is. -/
theorem readFront_append {lines more : List (List Char)} {test : Condition → Test}
    (h : readFront lines = .ok (test, [])) (hmore : more ≠ [])
    (hline : ∀ line ∈ more, '\n' ∉ line) (htable : tableRows more = []) :
    readFront (lines ++ more) = .ok (test, afterTable more) := by
  have hrows : ∀ rows threads, readTable rows = .ok threads →
      readTable (rows ++ tableRows more) = .ok (id threads) := by
    intro rows threads hrows
    rw [htable, List.append_nil, hrows]
    rfl
  exact readFront_append_table h hmore hline hrows

end Litmus.Source
