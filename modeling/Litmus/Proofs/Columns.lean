import Litmus.Proofs.Outcomes
import Litmus.Proofs.Preamble
import Mathlib.Data.List.Perm.Basic
import Mathlib.Data.List.ReduceOption

/-!
# Columns of a table

A thread table may be ragged: a row may have fewer cells than there are threads, cells may be empty,
and a row may end in a semicolon or not. What the threads do is read column by column, and each cell
that is not empty becomes one entry of the thread in whose column it stands.

* **`WrittenCell`**, **`WrittenRow`**, **`WrittenLine`**: how a cell, a row of cells and a line of the
  table are written, whatever the layout.
* **`rowEntries`**: the entries that a line holds. **`writtenTable`**: those that are written.
* **`entriesOf`**: a column. **`perm_entriesOf`**: the columns hold what the rows hold.
* **`readTest_columns`**: the threads that are read from a table, and the row that is refused.
-/

namespace Litmus.Source

open Litmus.Text

/-! ## Written rows -/

/-- A row with cells like these between bars. A semicolon at its end is no part of the last cell. -/
inductive WrittenRow {α : Type} (cell : α → List Char → Prop) : List α → List Char → Prop
  | closed {row : List α} {pieces : List (List Char)} {v : List Char} (hne : pieces ≠ [])
      (hbar : ∀ piece ∈ pieces, '|' ∉ piece) (hcells : List.Forall₂ cell row pieces)
      (hv : ∀ c ∈ v, isSpace c = true) : WrittenRow cell row (joinWith '|' pieces ++ ';' :: v)
  | plain {row : List α} {pieces : List (List Char)} (hne : pieces ≠ [])
      (hbar : ∀ piece ∈ pieces, '|' ∉ piece) (hcells : List.Forall₂ cell row pieces)
      (hend : (trim (joinWith '|' pieces)).getLast? ≠ some ';') :
      WrittenRow cell row (joinWith '|' pieces)

/-- The name of a thread, with spaces around it. -/
inductive WrittenName : Int → List Char → Prop
  | name {u w v : List Char} (hu : ∀ c ∈ u, isSpace c = true) (hw : IsDigits w)
      (hv : ∀ c ∈ v, isSpace c = true) : WrittenName (naturalOf w) (u ++ ('P' :: w ++ v))

/-- A cell: empty, or an entry with spaces around its parts. An instruction without a label does not
start with a name and one colon. -/
inductive WrittenCell : Option Pseudo → List Char → Prop
  | empty {u : List Char} (hu : ∀ c ∈ u, isSpace c = true) : WrittenCell none u
  | instruction {u t v : List Char} (hu : ∀ c ∈ u, isSpace c = true) (hne : t ≠ []) (ht : Flush t)
      (hlabel : ∀ label rest, IsLabelName label → t = label ++ ':' :: rest → rest.head? = some ':')
      (hv : ∀ c ∈ v, isSpace c = true) :
      WrittenCell (some (.instruction (String.ofList t))) (u ++ (t ++ v))
  | labelled {u label v t w : List Char} (hu : ∀ c ∈ u, isSpace c = true) (hlabel : IsLabelName label)
      (hv : ∀ c ∈ v, isSpace c = true) (hne : t ≠ []) (ht : Flush t)
      (hcolon : (v ++ t).head? ≠ some ':') (hw : ∀ c ∈ w, isSpace c = true) :
      WrittenCell (some (.labelled (String.ofList label) (.instruction (String.ofList t))))
        (u ++ (label ++ ':' :: (v ++ (t ++ w))))
  | label {u label v : List Char} (hu : ∀ c ∈ u, isSpace c = true) (hlabel : IsLabelName label)
      (hv : ∀ c ∈ v, isSpace c = true) :
      WrittenCell (some (.labelled (String.ofList label) .nop)) (u ++ (label ++ ':' :: v))

/-- A line of the table: blank, or a row. -/
inductive WrittenLine : List (Option Pseudo) → List Char → Prop
  | blank {line : List Char} (h : ∀ c ∈ line, isSpace c = true) : WrittenLine [] line
  | row {row : List (Option Pseudo)} {line : List Char} (hne : ∃ c ∈ line, isSpace c = false)
      (h : WrittenRow WrittenCell row line) : WrittenLine row line

/-! ## Pieces and trimming -/

/-- Trimming a row trims its last piece at most at its end. -/
theorem map_trimEnd_splitAt_append {sep : Char} (hsep : isSpace sep = false) (s : List Char)
    {v : List Char} (hv : ∀ c ∈ v, isSpace c = true) :
    (splitAt sep (s ++ v)).map trimEnd = (splitAt sep s).map trimEnd := by
  induction s with
  | nil =>
    have hmem : sep ∉ v := fun h => by
      rw [hv sep h] at hsep
      cases hsep
    rw [List.nil_append, splitAt_of_not_mem hmem, splitAt_of_not_mem (by simp), List.map_singleton,
      List.map_singleton, trimEnd_spaces hv]
    rfl
  | cons c s ih =>
    obtain ⟨pieces, hs⟩ := splitAt_eq_cons sep s
    obtain ⟨pieces', hs'⟩ := splitAt_eq_cons sep (s ++ v)
    by_cases hc : c = sep
    · rw [hc, List.cons_append, splitAt_sep_cons, splitAt_sep_cons, List.map_cons, List.map_cons, ih]
    · rw [hs, hs', List.map_cons, List.map_cons] at ih
      obtain ⟨hpiece, hpieces⟩ := List.cons.inj ih
      rw [List.cons_append, splitAt_cons hc hs, splitAt_cons hc hs', List.map_cons, List.map_cons,
        hpieces, trimEnd_cons, hpiece, ← trimEnd_cons]

/-- The pieces of a row are the same when it is trimmed. -/
theorem map_trim_splitAt_trim {sep : Char} (hsep : isSpace sep = false) (s : List Char) :
    (splitAt sep (trim s)).map trim = (splitAt sep s).map trim := by
  induction s with
  | nil => rfl
  | cons c s ih =>
    by_cases hc : isSpace c = true
    · have hne : c ≠ sep := by
        rintro rfl
        rw [hc] at hsep
        cases hsep
      obtain ⟨pieces, hs⟩ := splitAt_eq_cons sep s
      rw [trim_cons_of_isSpace hc, ih, splitAt_cons hne hs, hs, List.map_cons, List.map_cons,
        trim_cons_of_isSpace hc]
    · obtain ⟨v, hv, hspaces⟩ := eq_trim_append (s := c :: s) (Stops.cons (by simpa using hc) s)
      have hpieces := map_trimEnd_splitAt_append hsep (trim (c :: s)) hspaces
      rw [← hv] at hpieces
      have hmap := congrArg (List.map trimStart) hpieces
      rw [List.map_map, List.map_map] at hmap
      simpa only [Function.comp_def, trimStart_trimEnd] using hmap.symm

/-! ## Reading cells -/

/-- The entry that a trimmed cell holds, if it holds one. -/
def heldIn (cell : List Char) : Option Pseudo :=
  if cell.isEmpty then none else some (cellEntry cell)

theorem heldIn_eq_some {cell : List Char} (hne : cell ≠ []) : heldIn cell = some (cellEntry cell) := by
  rw [heldIn, if_neg (by simpa using hne)]

theorem cellLabel?_iff {cell label rest : List Char} : cellLabel? cell = some (label, rest) ↔
    IsLabelName label ∧ cell = label ++ ':' :: rest ∧ rest.head? ≠ some ':' := by
  constructor
  · intro h
    obtain ⟨hlabel, rfl⟩ := cellLabel?_eq_some h
    refine ⟨hlabel, rfl, fun hcolon => ?_⟩
    have hread : labelName (label ++ ':' :: rest) = some (label, ':' :: rest) :=
      word_append_of_stops hlabel (Stops.cons (by decide) _)
    simp [cellLabel?, hread, hcolon] at h
  · rintro ⟨hlabel, rfl, hcolon⟩
    exact cellLabel?_append hlabel hcolon

theorem trim_label {label : List Char} (hlabel : IsLabelName label) (rest : List Char) :
    trim (label ++ ':' :: rest) = label ++ ':' :: trimEnd rest := by
  have hflush : Flush (label ++ [':']) :=
    ⟨stops_of_isLabelName hlabel _, by rw [List.reverse_append]; exact Stops.cons (by decide) _⟩
  have htrim := trim_append (by simp) hflush [] rest
  rwa [List.nil_append, List.append_assoc, List.append_assoc] at htrim

/-- The entry of a labelled cell is that of what stands behind the colon. -/
theorem heldIn_label {u label rest : List Char} (hu : ∀ c ∈ u, isSpace c = true)
    (hlabel : IsLabelName label) (htab : '\t' ∉ label ++ ':' :: rest) (hcolon : rest.head? ≠ some ':') :
    heldIn (trim (u ++ (label ++ ':' :: rest)))
      = some (.labelled (String.ofList label) (entryOf (trim rest))) := by
  obtain ⟨w, hw, hspaces⟩ := eq_trimEnd_append rest
  have htab' : '\t' ∉ label ++ ':' :: trimEnd rest := by
    rw [hw] at htab
    rw [← List.cons_append, ← List.append_assoc] at htab
    exact fun hmem => htab (List.mem_append_left w hmem)
  have hcolon' : (trimEnd rest).head? ≠ some ':' := by
    rw [hw, List.head?_append] at hcolon
    intro hhead
    rw [hhead] at hcolon
    exact hcolon rfl
  have htrim : trim (trimEnd rest) = trim rest := by
    have happend := trim_append_spaces (trimEnd rest) hspaces
    rwa [← hw, eq_comm] at happend
  rw [trim_spaces_append hu, trim_label hlabel, heldIn_eq_some (by simp),
    cellEntry_of_label htab' (cellLabel?_append hlabel hcolon'), htrim]

theorem WrittenCell.eq_heldIn {entry : Option Pseudo} {piece : List Char} (h : WrittenCell entry piece)
    (htab : '\t' ∉ piece) : entry = heldIn (trim piece) := by
  cases h with
  | empty hu =>
    rw [trim_eq_nil.mpr hu]
    rfl
  | @instruction u t v hu hne ht hlabel hv =>
    have htrim : trim (u ++ (t ++ v)) = t := by
      rw [trim_spaces_append hu, trim_append_spaces t hv, trim_of_flush ht]
    have htab' : '\t' ∉ t := fun hmem => htab (by simp [hmem])
    -- a label would be followed by two colons, and that is none
    have hnone : cellLabel? t = none := by
      cases hread : cellLabel? t with
      | none => rfl
      | some read =>
        obtain ⟨hname, heq, hcolon⟩ := cellLabel?_iff.mp hread
        exact absurd (hlabel _ _ hname heq) hcolon
    rw [htrim, heldIn_eq_some hne]
    simp only [cellEntry, expandTabs_of_no_tab htab', hnone, trim_of_flush ht, entryOf]
    rw [if_neg (by simpa using hne)]
  | @labelled u label v t w hu hlabel hv hne ht hcolon hw =>
    have htab' : '\t' ∉ label ++ ':' :: (v ++ (t ++ w)) := fun hmem => htab (by simp [hmem])
    have hcolon' : (v ++ (t ++ w)).head? ≠ some ':' := by
      rw [← List.append_assoc, List.head?_append_of_ne_nil _ (by simp [hne])]
      exact hcolon
    have htrim : trim (v ++ (t ++ w)) = t := by
      rw [trim_spaces_append hv, trim_append_spaces t hw, trim_of_flush ht]
    rw [heldIn_label hu hlabel htab' hcolon', htrim, entryOf, if_neg (by simpa using hne)]
  | @label u label v hu hlabel hv =>
    have htab' : '\t' ∉ label ++ ':' :: v := fun hmem => htab (by simp [hmem])
    have hcolon : v.head? ≠ some ':' := fun hhead =>
      absurd (hv ':' (List.mem_of_mem_head? hhead)) (by decide)
    rw [heldIn_label hu hlabel htab' hcolon, trim_eq_nil.mpr hv]
    rfl

/-- Every cell is written in one of the ways. -/
theorem writtenCell_heldIn {piece : List Char} (htab : '\t' ∉ piece) :
    WrittenCell (heldIn (trim piece)) piece := by
  by_cases hempty : trim piece = []
  · rw [hempty]
    exact .empty (trim_eq_nil.mp hempty)
  obtain ⟨u, v, heq, hu, hv⟩ := eq_append_trim piece
  cases hread : cellLabel? (trim piece) with
  | none =>
    have htab' : '\t' ∉ trim piece := fun hmem => htab (mem_trim hmem)
    have hentry : heldIn (trim piece) = some (.instruction (String.ofList (trim piece))) := by
      rw [heldIn_eq_some hempty]
      simp only [cellEntry, expandTabs_of_no_tab htab', hread, trim_trim, entryOf]
      rw [if_neg (by simpa using hempty)]
    have hlabel : ∀ label rest, IsLabelName label → trim piece = label ++ ':' :: rest →
        rest.head? = some ':' := by
      intro label rest hname hpiece
      by_contra hcolon
      rw [cellLabel?_iff.mpr ⟨hname, hpiece, hcolon⟩] at hread
      cases hread
    have hwritten := WrittenCell.instruction hu hempty (flush_trim piece) hlabel hv
    rw [hentry]
    rwa [← heq] at hwritten
  | some read =>
    obtain ⟨label, rest⟩ := read
    obtain ⟨hname, hpiece, hcolon⟩ := cellLabel?_iff.mp hread
    -- the spaces behind the entry were trimmed with the cell or with what follows the colon
    rw [hpiece, List.append_assoc, List.cons_append] at heq
    obtain ⟨a, b, hrest, ha, hb⟩ := eq_append_trim rest
    by_cases hnop : trim rest = []
    · have hspaces : ∀ c ∈ rest ++ v, isSpace c = true :=
        List.forall_mem_append.mpr ⟨trim_eq_nil.mp hnop, hv⟩
      have hwritten := WrittenCell.label hu hname hspaces
      have hentry := hwritten.eq_heldIn (heq ▸ htab)
      rw [← heq] at hwritten hentry
      rwa [← hentry]
    · have hspaces : ∀ c ∈ b ++ v, isSpace c = true := List.forall_mem_append.mpr ⟨hb, hv⟩
      have hfirst : (a ++ trim rest).head? ≠ some ':' := by
        rw [hrest, ← List.append_assoc, List.head?_append_of_ne_nil _ (by simp [hnop])] at hcolon
        exact hcolon
      have hwritten := WrittenCell.labelled hu hname ha hnop (flush_trim rest) hfirst hspaces
      have hsplit : a ++ (trim rest ++ (b ++ v)) = rest ++ v := by
        rw [← List.append_assoc (trim rest), ← List.append_assoc, ← hrest]
      rw [hsplit] at hwritten
      have hentry := hwritten.eq_heldIn (heq ▸ htab)
      rw [← heq] at hwritten hentry
      rwa [← hentry]

/-! ## Reading rows -/

variable {α : Type} {cell : α → List Char → Prop}

/-- What a relation gives for each member of a list is what a function gives. -/
theorem eq_map_of_forall₂ {β : Type} {r : α → β → Prop} {f : β → α} {as : List α} {bs : List β}
    (h : List.Forall₂ r as bs) (hf : ∀ b ∈ bs, ∀ a, r a b → a = f b) : as = bs.map f := by
  induction h with
  | nil => rfl
  | cons hab _ ih =>
    rw [List.map_cons, ← hf _ (by simp) _ hab, ← ih fun b hb => hf b (List.mem_cons_of_mem _ hb)]

theorem dropSemicolon_concat (s : List Char) : dropSemicolon (s ++ [';']) = s := by
  rw [dropSemicolon, if_pos (by simp), List.dropLast_concat]

/-- The cells of a row are its pieces, trimmed. -/
theorem WrittenRow.cells {row : List α} {line : List Char} (h : WrittenRow cell row line) :
    ∃ pieces, Source.cells (trim line) = pieces.map trim ∧ List.Forall₂ cell row pieces ∧
      ∀ piece ∈ pieces, piece ⊆ line := by
  have hpieces : ∀ {pieces : List (List Char)}, pieces ≠ [] → (∀ piece ∈ pieces, '|' ∉ piece) →
      ∀ {s}, trim s = trim (joinWith '|' pieces) → (splitAt '|' s).map trim = pieces.map trim := by
    intro pieces hne hbar s hs
    rw [← map_trim_splitAt_trim (by decide), hs, map_trim_splitAt_trim (by decide),
      splitAt_joinWith hne hbar]
  cases h with
  | @closed pieces v hne hbar hcells hv =>
    refine ⟨pieces, ?_, hcells, fun piece hpiece c hc =>
      List.mem_append_left _ (mem_joinWith_of_mem hpiece hc)⟩
    have htrim : trim (joinWith '|' pieces ++ ';' :: v) = trimStart (joinWith '|' pieces) ++ [';'] := by
      have hflush : Flush [';'] := ⟨Stops.cons (by decide) [], Stops.cons (by decide) []⟩
      have happend := trim_append (by simp) hflush (joinWith '|' pieces) v
      rwa [trimEnd_spaces hv] at happend
    rw [Source.cells, htrim, dropSemicolon_concat]
    exact hpieces hne hbar (trim_trimStart _)
  | @plain pieces hne hbar hcells hend =>
    refine ⟨pieces, ?_, hcells, fun piece hpiece c hc => mem_joinWith_of_mem hpiece hc⟩
    rw [Source.cells, dropSemicolon, if_neg hend]
    exact hpieces hne hbar (trim_trim _)

theorem exists_writtenRow {f : List Char → α} (line : List Char)
    (h : ∀ piece, piece ⊆ line → cell (f piece) piece) : ∃ row, WrittenRow cell row line := by
  have hcells : ∀ {pieces : List (List Char)}, (∀ piece ∈ pieces, piece ⊆ line) →
      List.Forall₂ cell (pieces.map f) pieces := fun hsub =>
    List.forall₂_map_left_iff.mpr (List.forall₂_same.mpr fun piece hpiece => h piece (hsub piece hpiece))
  have hbar : ∀ s, ∀ piece ∈ splitAt '|' s, '|' ∉ piece := by
    intro s piece hpiece hmem
    exact absurd (not_mem_of_mem_splitWhen hpiece '|' hmem) (by simp)
  have hjoin : ∀ s, joinWith '|' (splitAt '|' s) = s := fun s => joinWith_splitWhen '|' s
  have hne : ∀ s, splitAt '|' s ≠ [] := fun s => splitWhen_ne_nil _ s
  by_cases hend : (trim line).getLast? = some ';'
  · -- the spaces in front of the row belong to its first cell, those behind the semicolon to none
    obtain ⟨u, v, heq, -, hv⟩ := eq_append_trim line
    obtain ⟨x, hx⟩ := List.getLast?_eq_some_iff.mp hend
    have hline : line = u ++ x ++ ';' :: v := by
      rw [heq, hx]
      simp
    have hsub : ∀ piece ∈ splitAt '|' (u ++ x), piece ⊆ line := fun piece hpiece c hc =>
      hline ▸ List.mem_append_left _ (mem_of_mem_splitWhen hpiece hc)
    have hrow := WrittenRow.closed (hne (u ++ x)) (hbar (u ++ x)) (hcells hsub) hv
    rw [hjoin, ← hline] at hrow
    exact ⟨_, hrow⟩
  · have hrow := WrittenRow.plain (hne line) (hbar line)
      (hcells fun piece hpiece => mem_of_mem_splitWhen hpiece) (by rwa [hjoin])
    rw [hjoin] at hrow
    exact ⟨_, hrow⟩

/-- The entries that a line of the table holds. -/
def rowEntries (line : List Char) : List (Option Pseudo) :=
  if trim line = [] then [] else (cells (trim line)).map heldIn

theorem WrittenLine.eq_rowEntries {row : List (Option Pseudo)} {line : List Char}
    (h : WrittenLine row line) (htab : '\t' ∉ line) : row = rowEntries line := by
  cases h with
  | blank h => rw [rowEntries, if_pos (trim_eq_nil.mpr h)]
  | row hne h =>
    obtain ⟨c, hc, hspace⟩ := hne
    have hnonblank : trim line ≠ [] := fun hnil => by
      rw [trim_eq_nil.mp hnil c hc] at hspace
      cases hspace
    obtain ⟨pieces, hcells, hrow, hsub⟩ := h.cells
    rw [rowEntries, if_neg hnonblank, hcells, List.map_map]
    exact eq_map_of_forall₂ hrow fun piece hpiece entry hentry =>
      hentry.eq_heldIn fun hmem => htab (hsub piece hpiece hmem)

/-- Every line is written in one of the ways. -/
theorem exists_writtenLine {line : List Char} (htab : '\t' ∉ line) : ∃ row, WrittenLine row line := by
  by_cases hblank : trim line = []
  · exact ⟨[], .blank (trim_eq_nil.mp hblank)⟩
  · have hne : ∃ c ∈ line, isSpace c = false := by
      by_contra hall
      refine hblank (trim_eq_nil.mpr fun c hc => ?_)
      by_contra hspace
      exact hall ⟨c, hc, by simpa using hspace⟩
    obtain ⟨row, hrow⟩ := exists_writtenRow line fun piece hsub =>
      writtenCell_heldIn fun hmem => htab (hsub hmem)
    exact ⟨row, .row hne hrow⟩

theorem writtenTable {rows : List (List Char)} (h : ∀ row ∈ rows, '\t' ∉ row)
    (table : List (List (Option Pseudo))) :
    List.Forall₂ WrittenLine table rows ↔ table = rows.map rowEntries := by
  constructor
  · exact fun hrows => eq_map_of_forall₂ hrows fun line hline row hrow => hrow.eq_rowEntries (h line hline)
  · rintro rfl
    refine List.forall₂_map_left_iff.mpr (List.forall₂_same.mpr fun line hline => ?_)
    obtain ⟨row, hrow⟩ := exists_writtenLine (h line hline)
    rwa [← hrow.eq_rowEntries (h line hline)]

/-! ## Columns -/

/-- The entries of a column of a table, from top to bottom. -/
def entriesOf (table : List (List (Option Pseudo))) (i : Nat) : List Pseudo :=
  table.filterMap fun row => row[i]?.join

theorem entriesOf_cons (row : List (Option Pseudo)) (table : List (List (Option Pseudo))) (i : Nat) :
    entriesOf (row :: table) i = row[i]?.join.toList ++ entriesOf table i := by
  rw [entriesOf, List.filterMap_cons]
  cases row[i]?.join <;> rfl

/-- If no row is longer than there are columns, then the columns hold what the rows hold: each entry
as often, and none besides. -/
theorem perm_entriesOf {n : Nat} {table : List (List (Option Pseudo))}
    (h : ∀ row ∈ table, row.length ≤ n) :
    ((List.range n).flatMap (entriesOf table)).Perm (table.flatMap List.reduceOption) := by
  induction table with
  | nil => simp [entriesOf]
  | cons row table ih =>
    -- a row adds to each column what it has there, and read along the columns that is the row
    have hrow : (List.range n).flatMap (fun i => row[i]?.join.toList) = row.reduceOption := by
      calc (List.range n).flatMap (fun i => row[i]?.join.toList)
          = (List.range n).filterMap (fun i => row[i]?.join) :=
            (List.filterMap_eq_flatMap_toList _ _).symm
        _ = ((List.range n).filterMap (row[·]?)).reduceOption := by
            rw [List.reduceOption, List.filterMap_filterMap]
            exact List.filterMap_congr fun i _ => Option.bind_id_eq_join.symm
        _ = row.reduceOption := by
            rw [filterMap_range_getElem?, List.take_of_length_le (h row (by simp))]
    have hrest := ih fun row hrow => h row (List.mem_cons_of_mem _ hrow)
    rw [funext (entriesOf_cons row table), List.flatMap_cons, ← hrow]
    exact (List.flatMap_append_perm _ _ _).symm.trans (hrest.append_left _)

theorem column_eq_filterMap (rows : List (List (List Char))) (i : Nat) :
    column rows i = rows.filterMap fun row => row[i]?.bind heldIn := by
  refine List.filterMap_congr fun row _ => ?_
  cases row[i]? <;> rfl

theorem column_cons (row : List (List Char)) (rows : List (List (List Char))) (i : Nat) :
    column (row :: rows) i = (row[i]?.bind heldIn).toList ++ column rows i := by
  rw [column_eq_filterMap, column_eq_filterMap, List.filterMap_cons]
  cases row[i]?.bind heldIn <;> rfl

/-- A column that is read holds the entries of that column of the written table. -/
theorem column_eq_entriesOf (rows : List (List Char)) (i : Nat) :
    column (((rows.map trim).filter (!·.isEmpty)).map cells) i = entriesOf (rows.map rowEntries) i := by
  induction rows with
  | nil => rfl
  | cons line rows ih =>
    rw [List.map_cons, List.map_cons, List.filter_cons, entriesOf_cons, rowEntries, ← ih]
    by_cases hblank : trim line = []
    · rw [if_neg (by simp [hblank]), if_pos hblank]
      rfl
    · rw [if_pos (by simpa using hblank), if_neg hblank, List.map_cons, column_cons,
        List.getElem?_map]
      cases (cells (trim line))[i]? <;> rfl

/-! ## Reading a table -/

theorem threadName?_of_writtenName {thread : Int} {piece : List Char} (h : WrittenName thread piece) :
    threadName? (trim piece) = some thread := by
  cases h with
  | @name u w v hu hw hv =>
    have hname : IsName ('P' :: w) := ⟨by decide, isNameTail_of_isDigits hw⟩
    have hflush : Flush ('P' :: w) := ⟨Stops.cons (by decide) w, fun c hc =>
      isSpace_of_isNameTail (isNameTail_of_isName hname c (List.mem_reverse.mp (List.mem_of_mem_head? hc)))⟩
    have hdigits : digits w = some (w, []) := by
      have hread := word_append_of_stops hw (Stops.nil Char.isDigit)
      rwa [List.append_nil] at hread
    have htrim : trim (u ++ ('P' :: w ++ v)) = 'P' :: w := by
      rw [trim_spaces_append hu, trim_append_spaces _ hv, trim_of_flush hflush]
    rw [htrim]
    simp [threadName?, hdigits]

theorem readNames_of_writtenRow {names : List Int} {line : List Char}
    (h : WrittenRow WrittenName names line) : readNames (trim line) = .ok names := by
  obtain ⟨pieces, hcells, hnames, -⟩ := h.cells
  rw [readNames, hcells, mapM_shaped_eq_ok, List.forall₂_map_left_iff]
  exact hnames.flip.imp fun _ _ hname => threadName?_of_writtenName hname

/-- The rows of a table are the lines from the first one on that is not blank to the condition. -/
theorem tableRows_of_table {blanks rows after : List (List Char)} {first : List Char}
    (hblank : ∀ line ∈ blanks, ∀ c ∈ line, isSpace c = true) (hne : trim first ≠ [])
    (hfirst : startsCondition (trim first) = false)
    (hrows : ∀ row ∈ rows, startsCondition (trim row) = false)
    (hafter : ∀ line ∈ after.head?, startsCondition (trim line) = true) :
    tableRows (blanks ++ first :: (rows ++ after))
      = trim first :: (rows.map trim).filter (!·.isEmpty) ∧
    afterTable (blanks ++ first :: (rows ++ after)) = after := by
  have htable : ∀ line ∈ blanks ++ first :: rows, (!startsCondition (trim line)) = true := by
    intro line hline
    rcases List.mem_append.mp hline with hline | hline
    · rw [trim_eq_nil.mpr (hblank line hline), startsCondition_nil]
      rfl
    rcases List.mem_cons.mp hline with rfl | hline
    · rw [hfirst]
      rfl
    · rw [hrows line hline]
      rfl
  have hstop : after.takeWhile (fun line => !startsCondition (trim line)) = [] ∧
      after.dropWhile (fun line => !startsCondition (trim line)) = after := by
    cases after with
    | nil => exact ⟨rfl, rfl⟩
    | cons line after =>
      have hstart : ¬ (!startsCondition (trim line)) = true := by simp [hafter line rfl]
      exact ⟨List.takeWhile_cons_of_neg hstart, List.dropWhile_cons_of_neg hstart⟩
  have hsplit : blanks ++ first :: (rows ++ after) = (blanks ++ first :: rows) ++ after := by simp
  have hnil : (blanks.map trim).filter (!·.isEmpty) = [] := by
    rw [List.filter_eq_nil_iff]
    intro line hline
    obtain ⟨blank, hmem, rfl⟩ := List.mem_map.mp hline
    rw [trim_eq_nil.mpr (hblank blank hmem)]
    decide
  constructor
  · rw [tableRows, hsplit, List.takeWhile_append_of_pos htable, hstop.1, List.append_nil,
      List.map_append, List.filter_append, hnil, List.nil_append, List.map_cons,
      List.filter_cons_of_pos (by simpa using hne)]
  · rw [afterTable, hsplit, List.dropWhile_append_of_pos htable, hstop.2]

/-- The row that names the threads starts like the first name. -/
theorem startsCondition_of_writtenRow {names : List Int} {line : List Char}
    (h : WrittenRow WrittenName names line) :
    trim line ≠ [] ∧ startsCondition (trim line) = false := by
  -- the first piece is a name, so behind spaces the row starts with the letter of names
  have hjoin : ∀ {pieces : List (List Char)}, pieces ≠ [] → List.Forall₂ WrittenName names pieces →
      ∃ u r, joinWith '|' pieces = u ++ 'P' :: r ∧ ∀ c ∈ u, isSpace c = true := by
    intro pieces hne hnames
    cases hnames with
    | nil => exact absurd rfl hne
    | @cons _ _ names pieces hname _ =>
      cases hname with
      | @name u w v hu hw hv =>
        by_cases hlast : pieces = []
        · exact ⟨u, w ++ v, by rw [hlast]; rfl, hu⟩
        · refine ⟨u, w ++ (v ++ '|' :: joinWith '|' pieces), ?_, hu⟩
          rw [joinWith_cons '|' _ hlast]
          simp
  obtain ⟨u, r, rfl, hu⟩ : ∃ u r, line = u ++ 'P' :: r ∧ ∀ c ∈ u, isSpace c = true := by
    cases h with
    | closed hne _ hcells _ =>
      obtain ⟨u, r, heq, hu⟩ := hjoin hne hcells
      exact ⟨u, r ++ ';' :: _, by rw [heq, List.append_assoc]; rfl, hu⟩
    | plain hne _ hcells _ => exact hjoin hne hcells
  have hflush : Flush ['P'] := ⟨Stops.cons (by decide) [], Stops.cons (by decide) []⟩
  have htrim : trim ('P' :: r) = 'P' :: trimEnd r := trim_append (by simp) hflush [] r
  rw [trim_spaces_append hu, htrim]
  exact ⟨List.cons_ne_nil _ _, rfl⟩

/-- The first row with too many cells is the first line with too many. -/
theorem overfullRow?_lines (threads : Nat) (rows : List (List Char)) :
    overfullRow? threads ((rows.map trim).filter (!·.isEmpty))
      = (rows.find? fun line => threads < (rowEntries line).length).map trim := by
  induction rows with
  | nil => rfl
  | cons line rows ih =>
    rw [List.map_cons, List.filter_cons, List.find?_cons, rowEntries]
    by_cases hblank : trim line = []
    · rw [if_neg (by simp [hblank]), if_pos hblank]
      exact ih
    · rw [if_pos (by simpa using hblank), if_neg hblank, List.length_map, overfullRow?,
        List.find?_cons, ← overfullRow?, ih]
      split <;> rfl

section

variable {names : List Int} {first : List Char} {rows : List (List Char)}
  (hfirst : WrittenRow WrittenName names first)

include hfirst

/-- If no row is longer than there are threads, each thread has its column. -/
theorem readTable_columns (hshort : ∀ row ∈ rows.map rowEntries, row.length ≤ names.length) :
    readTable (trim first :: (rows.map trim).filter (!·.isEmpty))
      = .ok (names.zipIdx.map fun (thread, i) => (thread, entriesOf (rows.map rowEntries) i)) := by
  have hnone : (rows.find? fun line => names.length < (rowEntries line).length) = none := by
    refine List.find?_eq_none.mpr fun line hline => ?_
    have hlength := hshort _ (List.mem_map_of_mem hline)
    simpa using hlength
  refine bind_eq_ok.mpr ⟨names, readNames_of_writtenRow hfirst, ?_⟩
  simp only [overfullRow?_lines, hnone, Option.map_none, threadsOf, column_eq_entriesOf]
  rfl

/-- The first row that is longer is refused. -/
theorem readTable_overfull {above below : List (List (Option Pseudo))} {row : List (Option Pseudo)}
    {line : List Char} (htable : rows.map rowEntries = above ++ row :: below)
    (hline : rows[above.length]? = some line) (habove : ∀ row ∈ above, row.length ≤ names.length)
    (hlong : names.length < row.length) :
    readTable (trim first :: (rows.map trim).filter (!·.isEmpty))
      = .error (.overfull (String.ofList (trim line))) := by
  obtain ⟨rows₁, rows₂, rfl, rfl, hrest⟩ := List.map_eq_append_iff.mp htable
  obtain ⟨line', rows₃, rfl, rfl, rfl⟩ := List.map_eq_cons_iff.mp hrest
  obtain rfl : line' = line := by simpa using hline
  have hfound : ((rows₁ ++ line' :: rows₃).find? fun line =>
      names.length < (rowEntries line).length) = some line' := by
    refine List.find?_eq_some_iff_append.mpr ⟨by simpa using hlong, rows₁, rows₃, rfl, ?_⟩
    intro earlier hearlier
    have hlength := habove _ (List.mem_map_of_mem hearlier)
    simpa using hlength
  refine bind_eq_error.mpr (.inr ⟨names, readNames_of_writtenRow hfirst, ?_⟩)
  simp only [overfullRow?_lines, hfound, Option.map_some]
  rfl

end

/-- **A table is transposed without loss.** Let the first line of a table that is not blank name the
threads, and let the other lines hold no tab. Then every line is a row of cells, in one way. If no row
has more cells than there are threads, each thread has the entries of its column, and all columns
together have the entries of all rows; otherwise the first row that has more is refused. -/
theorem readTest_columns {s : List Char} {p : Preamble} {blanks rows after : List (List Char)}
    {first : List Char} {names : List Int}
    (hpreamble : readPreamble (skipBlankLines (textLines s))
      = .ok (p, blanks ++ first :: (rows ++ after)))
    (hblank : ∀ line ∈ blanks, ∀ c ∈ line, isSpace c = true)
    (hfirst : WrittenRow WrittenName names first)
    (hrows : ∀ row ∈ rows, '\t' ∉ row ∧ startsCondition (trim row) = false)
    (hafter : ∀ line ∈ after.head?, startsCondition (trim line) = true) :
    (∃ table, List.Forall₂ WrittenLine table rows) ∧
    ∀ table, List.Forall₂ WrittenLine table rows →
      ((∀ row ∈ table, row.length ≤ names.length) →
        readTest s = (readCondition after).map
          (p.test (names.zipIdx.map fun (thread, i) => (thread, entriesOf table i))) ∧
        ((List.range names.length).flatMap (entriesOf table)).Perm
          (table.flatMap List.reduceOption)) ∧
      ∀ above row below line, table = above ++ row :: below → rows[above.length]? = some line →
        (∀ row ∈ above, row.length ≤ names.length) → names.length < row.length →
        readTest s = .error (.overfull (String.ofList (trim line))) := by
  have htable := writtenTable fun row hrow => (hrows row hrow).1
  refine ⟨⟨_, (htable _).mpr rfl⟩, fun table hwritten => ?_⟩
  obtain rfl := (htable table).mp hwritten
  obtain ⟨hne, hstart⟩ := startsCondition_of_writtenRow hfirst
  obtain ⟨hlines, hcondition⟩ := tableRows_of_table hblank hne hstart
    (fun row hrow => (hrows row hrow).2) hafter
  -- reading goes on behind the preamble with the rows of the table
  have hread : readTest s = do
      let threads ← readTable (trim first :: (rows.map trim).filter (!·.isEmpty))
      let condition ← readCondition after
      return p.test threads condition := by
    rw [readTest_eq_preamble, hpreamble, ← hlines]
    show (readTable _ >>= fun threads => readCondition (afterTable _) >>= _) = _
    rw [hcondition]
  constructor
  · intro hshort
    refine ⟨?_, perm_entriesOf hshort⟩
    rw [hread, readTable_columns hfirst hshort]
    cases readCondition after <;> rfl
  · intro above row below line htable hline habove hlong
    rw [hread, readTable_overfull hfirst htable hline habove hlong]
    rfl

/-- Two threads: a row with an empty cell and a label, a blank line, and a row with one cell, in which
two colons make no label. With a third cell the last row is refused. -/
theorem readTest_columns_ragged :
    readTest "X86 T\n\x7b \x7d\nP0 | P1 ;\n | L: NOP\n\na::b;\nexists (x=1)".toList
      = .ok {
        arch := "X86"
        name := "T"
        info := []
        init := []
        threads := [(0, [.instruction "a::b"]), (1, [.labelled "L" (.instruction "NOP")])]
        condition := .someState (.holds (.global (.symbolic "x")) (.concrete "1"))
        doc := none } ∧
    readTest "X86 T\n\x7b \x7d\nP0 | P1 ;\n | L: NOP\n\na | b | c;\nexists (x=1)".toList
      = .error (.overfull "a | b | c;") := by
  have hspace : ∀ c ∈ [' '], isSpace c = true := List.all_eq_true.mp rfl
  have hfirst : WrittenRow WrittenName [0, 1] "P0 | P1 ;".toList :=
    @WrittenRow.closed _ _ [0, 1] ["P0 ".toList, " P1 ".toList] [] (by simp) (by decide)
      (.cons (@WrittenName.name [] ['0'] [' '] (by simp) (by decide) hspace)
        (.cons (@WrittenName.name [' '] ['1'] [' '] hspace (by decide) hspace) .nil)) (by simp)
  have hpreamble : ∀ row : List Char, row ∈ ["a::b;".toList, "a | b | c;".toList] →
      readPreamble (skipBlankLines (textLines
        ("X86 T\n\x7b \x7d\nP0 | P1 ;\n | L: NOP\n\n".toList ++ row ++ "\nexists (x=1)".toList)))
        = .ok (⟨"X86", "T", [], [], none⟩, [[]] ++ "P0 | P1 ;".toList ::
          (["| L: NOP".toList, [], row] ++ ["exists (x=1)".toList])) := by
    intro row hrow
    simp only [List.mem_cons, List.not_mem_nil, or_false] at hrow
    rcases hrow with rfl | rfl <;> (rw [textLines, dropComments_of_no_star (by decide)]; rfl)
  have hragged := readTest_columns (hpreamble "a::b;".toList (by simp)) (by simp) hfirst (by decide)
    (by decide)
  have hlong := readTest_columns (hpreamble "a | b | c;".toList (by simp)) (by simp) hfirst
    (by decide) (by decide)
  have htable : List.Forall₂ WrittenLine
      [[none, some (.labelled "L" (.instruction "NOP"))], [], [some (.instruction "a::b")]]
      ["| L: NOP".toList, [], "a::b;".toList] := (writtenTable (by decide) _).mpr rfl
  have hlongTable : List.Forall₂ WrittenLine
      ([[none, some (.labelled "L" (.instruction "NOP"))], []] ++
        [["a", "b", "c"].map fun text => some (.instruction text)])
      ["| L: NOP".toList, [], "a | b | c;".toList] := (writtenTable (by decide) _).mpr rfl
  have hcondition : readCondition ["exists (x=1)".toList]
      = .ok (.someState (.holds (.global (.symbolic "x")) (.concrete "1"))) := by
    with_unfolding_all rfl
  refine ⟨((hragged.2 _ htable).1 (by decide)).1.trans ?_,
    (hlong.2 _ hlongTable).2 _ _ _ _ rfl rfl (by decide) (by decide)⟩
  rw [hcondition]
  rfl

end Litmus.Source
