import Litmus.Proofs.Escaping
import Litmus.Proofs.Lines
import Litmus.Proofs.Refusals
import Litmus.Proofs.Sequence

/-!
# Listings

A listing has a line for each label and each instruction of the code, in the order in which they
come up, and nothing else. Code that is listed alike has the same labels and instructions.

* **`Pseudo.lines`**: what an entry of the code says, label by label, down to its instruction.
* **`listing_eq`**: the listing is the text of these lines, one after the other (`linesText`).
* **`ListingLine.read?_chars`**: a line tells what it says. An instruction is known by the tab in front
  of it, so no label may start with one.
* **`splitAt_linesText`**: the lines are found again, so no label may have a line end in it. An
  instruction may: its text is escaped.
* **`listing_lossless`** puts these together.
-/

namespace Litmus

open Text

/-! ## Lines -/

/-- What a line of a listing says. -/
inductive ListingLine where
  | label (name : String)
  | instruction (text : String)
deriving DecidableEq

/-- The labels and instructions of an entry of the code, from left to right. -/
def Pseudo.lines : Pseudo → List ListingLine
  | .instruction text => [.instruction text]
  | .nop => []
  | .labelled label entry => .label label :: entry.lines
  | .templateCall _ _ => []
  | .symbolic _ => []

/-- The labels and instructions of the code of a thread. -/
def codeLines (code : List Pseudo) : List ListingLine :=
  code.flatMap Pseudo.lines

/-- The characters of a line, without its end. -/
def ListingLine.chars : ListingLine → List Char
  | .label name => name.toList ++ [':']
  | .instruction text => '\t' :: (escape text).toList

/-- What the characters of a line say: behind a tab an instruction, otherwise a label in front of a
colon. -/
def ListingLine.read? : List Char → Option ListingLine
  | '\t' :: code => do
    let bytes ← unescape? code
    let text ← (decodeUtf8 bytes).toOption
    return .instruction (String.ofList text)
  | line => if line.getLast? = some ':' then some (.label (String.ofList line.dropLast)) else none

/-- The text of some lines, each with its end. -/
def linesText (lines : List ListingLine) : List Char :=
  lines.flatMap fun line => line.chars ++ ['\n']

/-! ## The listing of code -/

theorem Pseudo.listing_eq {entry : Pseudo} (h : entry.holdsTemplate = false) :
    entry.listing = .ok (String.ofList (linesText entry.lines)) := by
  induction entry with
  | instruction text =>
    refine congrArg Except.ok (String.toList_inj.mp ?_)
    simp [linesText, lines, ListingLine.chars]
  | nop => rfl
  | labelled label entry ih =>
    rw [listing, ih h]
    refine congrArg Except.ok (String.toList_inj.mp ?_)
    simp [linesText, lines, ListingLine.chars]
  | templateCall name arguments => cases h
  | symbolic text => cases h

/-- **The listing of code** without templates is the text of its lines. -/
theorem listing_eq {code : List Pseudo} (h : ∀ entry ∈ code, entry.holdsTemplate = false) :
    listing code = .ok (String.ofList (linesText (codeLines code))) := by
  have hmapM : code.mapM Pseudo.listing =
      .ok (code.map fun entry => String.ofList (linesText entry.lines)) := by
    rw [mapM_eq_ok_iff, List.forall₂_map_right_iff, List.forall₂_same]
    exact fun entry hentry => Pseudo.listing_eq (h entry hentry)
  rw [listing, hmapM]
  refine congrArg Except.ok (String.toList_inj.mp ?_)
  simp [linesText, codeLines, List.flatMap_map, List.flatMap_assoc, String.toList_join]

/-! ## Reading lines -/

/-- A line that can be found in a listing and read: a label has no line end in it, and no tab in front
that would make it an instruction. -/
def ListingLine.Legible : ListingLine → Prop
  | .label name => '\n' ∉ name.toList ∧ name.toList.head? ≠ some '\t'
  | .instruction _ => True

instance : (line : ListingLine) → Decidable line.Legible
  | .label name => inferInstanceAs (Decidable ('\n' ∉ name.toList ∧ name.toList.head? ≠ some '\t'))
  | .instruction _ => .isTrue trivial

namespace ListingLine

/-- A line starts with a tab exactly if it is an instruction. -/
theorem head?_chars {line : ListingLine} (h : line.Legible) :
    line.chars.head? = some '\t' ↔ ∃ text, line = .instruction text := by
  cases line with
  | instruction text => simp [chars]
  | label name =>
    have hhead : (label name).chars.head? ≠ some '\t' := by
      cases hname : name.toList with
      | nil => simp [chars, hname]
      | cons c rest =>
        have hc : c ≠ '\t' := by simpa [hname] using h.2
        simp [chars, hname, hc]
    simp [hhead]

/-- **A line tells what it says.** -/
theorem read?_chars {line : ListingLine} (h : line.Legible) : read? line.chars = some line := by
  cases line with
  | instruction text =>
    simp [chars, read?, unescape?_escape, decodeUtf8_utf8Bytes, Except.toOption]
  | label name =>
    have hhead : (label name).chars.head? ≠ some '\t' := fun htab => by
      obtain ⟨text, htext⟩ := (head?_chars h).mp htab
      cases htext
    unfold read?
    split
    · rename_i code hchars
      exact absurd (congrArg List.head? hchars) hhead
    · simp [chars]

theorem newline_notMem_chars {line : ListingLine} (h : line.Legible) : '\n' ∉ line.chars := by
  cases line with
  | label name => simpa [chars] using h.1
  | instruction text =>
    have hrange := fun hmem => (escape_chars text '\n' hmem).1
    simpa [chars] using hrange

end ListingLine

/-- The lines of a text are found again, and nothing stands behind the last of them. -/
theorem splitAt_linesText {lines : List ListingLine} (h : ∀ line ∈ lines, line.Legible) :
    splitAt '\n' (linesText lines) = lines.map ListingLine.chars ++ [[]] := by
  induction lines with
  | nil => rfl
  | cons line lines ih =>
    obtain ⟨hline, hlines⟩ := List.forall_mem_cons.mp h
    have hchars : ∀ c ∈ line.chars, (c == '\n') = false := fun c hc =>
      beq_eq_false_iff_ne.mpr fun hnewline => line.newline_notMem_chars hline (hnewline ▸ hc)
    have hrest := ih hlines
    rw [splitAt] at hrest ⊢
    rw [linesText, List.flatMap_cons, List.append_assoc, List.singleton_append,
      splitWhen_append_cons hchars (by simp), ← linesText, hrest]
    rfl

/-- Lines with the same text are the same. -/
theorem linesText_inj {lines lines' : List ListingLine} (h : ∀ line ∈ lines, line.Legible)
    (h' : ∀ line ∈ lines', line.Legible) : linesText lines = linesText lines' ↔ lines = lines' := by
  constructor
  · intro heq
    have hread : ∀ {lines : List ListingLine}, (∀ line ∈ lines, line.Legible) →
        (lines.map ListingLine.chars).map ListingLine.read? = lines.map some := by
      intro lines h
      rw [List.map_map]
      exact List.map_congr_left fun line hline => ListingLine.read?_chars (h line hline)
    have hsplit := congrArg (splitAt '\n') heq
    rw [splitAt_linesText h, splitAt_linesText h'] at hsplit
    have hsame := congrArg (List.map ListingLine.read?) (List.append_cancel_right hsplit)
    rw [hread h, hread h'] at hsame
    exact List.map_injective_iff.mpr (Option.some_injective _) hsame
  · rintro rfl
    rfl

/-! ## Quotation marks in a listing -/

theorem marksEscaped_instruction (text : String) :
    MarksEscaped (ListingLine.instruction text).chars := by
  have htab : MarksEscaped ['\t'] := marksEscaped_of_notMem (by decide)
  exact htab.append rfl (marksEscaped_escape text).1

/-- If no label holds a quotation mark, those of the instructions are all there are. -/
theorem marksEscaped_linesText {lines : List ListingLine}
    (h : ∀ name, .label name ∈ lines → '"' ∉ name.toList) : MarksEscaped (linesText lines) := by
  induction lines with
  | nil => exact MarksEscaped.nil
  | cons line lines ih =>
    have hline : MarksEscaped line.chars := by
      cases line with
      | instruction text => exact marksEscaped_instruction text
      | label name =>
        have hname := h name List.mem_cons_self
        exact marksEscaped_of_notMem (by simpa [ListingLine.chars] using hname)
    -- the line ends with its line feed, behind which nothing is escaped
    exact (hline.concat (by decide)).append (opensEscape_concat (by decide) _)
      (ih fun name hname => h name (List.mem_cons_of_mem line hname))

/-! ## Lossless listings -/

/-- Code without templates, whose labels can be found in its listing. -/
structure Listable (code : List Pseudo) : Prop where
  templates : ∀ entry ∈ code, entry.holdsTemplate = false
  labels : ∀ line ∈ codeLines code, line.Legible

/-- **Listings are lossless.** Code without templates has a listing, and cut at its line ends it has
one line for each label and each instruction, in their order, and nothing behind the last one. A line
that starts with a tab is that of an instruction, and each line is read as what it was written for, so
that two listings are the same exactly if the labels and instructions are. No instruction brings in
a quotation mark that is not escaped; if the labels have none, no two of them stand side by side. -/
theorem listing_lossless {code : List Pseudo} (h : Listable code) :
    ∃ text, listing code = .ok text ∧
      splitAt '\n' text.toList = (codeLines code).map ListingLine.chars ++ [[]] ∧
      (∀ line ∈ codeLines code,
        (line.chars.head? = some '\t' ↔ ∃ text, line = .instruction text) ∧
        ListingLine.read? line.chars = some line) ∧
      (∀ other, Listable other → (listing other = .ok text ↔ codeLines other = codeLines code)) ∧
      (∀ text, .instruction text ∈ codeLines code →
        MarksEscaped (ListingLine.instruction text).chars) ∧
      ((∀ name, .label name ∈ codeLines code → '"' ∉ name.toList) →
        MarksEscaped text.toList ∧ ¬ ['"', '"', '"'] <:+: text.toList) := by
  refine ⟨_, listing_eq h.templates, ?_, ?_, ?_, ?_, ?_⟩
  · rw [String.toList_ofList, splitAt_linesText h.labels]
  · intro line hline
    exact ⟨ListingLine.head?_chars (h.labels line hline),
      ListingLine.read?_chars (h.labels line hline)⟩
  · intro other hother
    rw [listing_eq hother.templates, Except.ok.injEq, String.ofList_inj,
      linesText_inj hother.labels h.labels]
  · exact fun text _ => marksEscaped_instruction text
  · intro hlabels
    have hmarks := marksEscaped_linesText hlabels
    have htwo : ['"', '"'] <:+: ['"', '"', '"'] := ⟨[], ['"'], rfl⟩
    rw [String.toList_ofList]
    exact ⟨hmarks, fun hthree => hmarks.not_infix (htwo.trans hthree)⟩

/-- The statement for two labels in front of an instruction with a line end and a quotation mark in its
text, and an instruction that looks like a label. With the labels on entries of their own the listing
is the same. -/
theorem listing_lossless_quotes :
    Listable [.labelled "A" (.labelled "B:" (.instruction "\n\"")), .nop, .instruction "B:"] ∧
    listing [.labelled "A" (.labelled "B:" (.instruction "\n\"")), .nop, .instruction "B:"] =
      .ok "A:\nB::\n\t\\n\\\"\n\tB:\n" ∧
    splitAt '\n' "A:\nB::\n\t\\n\\\"\n\tB:\n".toList =
      ["A:".toList, "B::".toList, "\t\\n\\\"".toList, "\tB:".toList, []] ∧
    ListingLine.read? "\t\\n\\\"".toList = some (.instruction "\n\"") ∧
    Listable [.labelled "A" .nop, .labelled "B:" .nop, .instruction "\n\"", .instruction "B:"] ∧
    listing [.labelled "A" .nop, .labelled "B:" .nop, .instruction "\n\"", .instruction "B:"] =
      .ok "A:\nB::\n\t\\n\\\"\n\tB:\n" ∧
    MarksEscaped "A:\nB::\n\t\\n\\\"\n\tB:\n".toList ∧
    ¬ ['"', '"', '"'] <:+: "A:\nB::\n\t\\n\\\"\n\tB:\n".toList := by
  have hcode : Listable
      [.labelled "A" (.labelled "B:" (.instruction "\n\"")), .nop, .instruction "B:"] :=
    ⟨by decide, by decide⟩
  have hother : Listable
      [.labelled "A" .nop, .labelled "B:" .nop, .instruction "\n\"", .instruction "B:"] :=
    ⟨by decide, by decide⟩
  obtain ⟨text, htext, hlines, hread, hsame, -, hmarks⟩ := listing_lossless hcode
  obtain rfl : "A:\nB::\n\t\\n\\\"\n\tB:\n" = text := Except.ok.inj htext
  have hinstruction := (hread (.instruction "\n\"") (by decide)).2
  exact ⟨hcode, htext, hlines, hinstruction, hother, (hsame _ hother).mpr (by decide),
    hmarks (by simp [codeLines, Pseudo.lines])⟩

end Litmus
