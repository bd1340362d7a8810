import Litmus.Proofs.Assignments
import Litmus.Proofs.Cells
import Litmus.Proofs.Placement
import Litmus.Proofs.Quoting
import Litmus.Source.Reader

/-!
# Rendered tests

The tests that can be written, and the text of each: the header, the documentation string between
quotation marks, a line for each key, the initial state, the thread table and the condition.

* **`Test.Readable`**: what a test is to be like. **`Test.render`**: its text.
* **`header?_headerLine`**, **`info?_infoLine`**, **`readInit_initText`**: the lines, one kind
  after the other.
* **`readTest_render`**: a rendered test is read as the test.
-/

namespace Litmus

open Source Text

/-! ## Tests and their texts -/

/-- The tests that can be written. -/
structure Test.Readable (t : Test) : Prop where
  arch : IsWord isGraphic isGraphic t.arch.toList
  name_ne_nil : t.name.toList ≠ []
  name : IsLine t.name.toList
  info : ∀ entry ∈ t.info, IsWord isKeyChar isKeyChar entry.1.toList ∧ IsLine entry.2.toList
  init : ∀ assignment ∈ t.init, assignment.1.Readable ∧ assignment.2.Readable
  threads_ne_nil : t.threads ≠ []
  threads : ∀ thread ∈ t.threads, ReadableThread thread
  /-- No cell of the first column starts the condition. -/
  column : ∀ thread ∈ t.threads.head?, ∀ entry ∈ thread.2, startsCondition entry.cell = false
  condition : t.condition.body.Readable

/-- The line with the architecture and the name. -/
def headerLine (arch name : List Char) : List Char :=
  arch ++ ' ' :: name

/-- The line of a documentation string, if there is one. -/
def docLines : Option String → List (List Char)
  | none => []
  | some doc => [docLine doc.toList]

/-- The line of a key and its value. -/
def infoLine (entry : String × String) : List Char :=
  entry.1.toList ++ '=' :: entry.2.toList

/-- The text of an initial assignment. -/
def assignmentText (assignment : Location × Constant) : List Char :=
  assignment.1.written ++ '=' :: assignment.2.written

/-- The assignments of an initial state. -/
def initText (init : List (Location × Constant)) : List Char :=
  joinWith ';' (init.map assignmentText)

/-- The initial state between its braces. -/
def initLine (init : List (Location × Constant)) : List Char :=
  '\x7b' :: (initText init ++ ['\x7d'])

/-- The text of a quantifier. -/
def Condition.quantifier : Condition → List Char
  | .someState _ => "exists".toList
  | .noState _ => '~' :: "exists".toList
  | .everyState _ => "forall".toList

/-- The text of a condition. -/
def Condition.written (c : Condition) : List Char :=
  c.quantifier ++ ([' '] ++ c.body.written)

/-- The lines of a test in front of its condition. -/
def Test.frontLines (t : Test) : List (List Char) :=
  headerLine t.arch.toList t.name.toList :: (docLines t.doc ++ (t.info.map infoLine ++
    initLine t.init :: namesRow t.threads :: entryRows t.threads))

/-- The text of a test. -/
def Test.render (t : Test) : List Char :=
  protect (joinWith '\n' (t.frontLines ++ [t.condition.written]))

/-! ## The header -/

theorem isSpace_of_isGraphic {c : Char} (h : isGraphic c = true) : isSpace c = false := by
  simp only [isGraphic, Bool.and_eq_true, decide_eq_true_eq] at h
  simp only [isSpace, Bool.or_eq_false_iff, Bool.and_eq_false_iff, decide_eq_false_iff_not,
    beq_eq_false_iff_ne]
  omega

/-- A word of characters that are no spaces. -/
theorem isSpace_of_isWord {class' : Char → Bool} (hclass : ∀ c, class' c = true → isSpace c = false)
    {w : List Char} (hw : IsWord class' class' w) : ∀ c ∈ w, isSpace c = false := by
  cases w with
  | nil => exact absurd rfl hw.ne_nil
  | cons c w =>
    intro d hd
    rcases List.mem_cons.mp hd with rfl | hd
    · exact hclass d hw.1
    · exact hclass d (hw.2 d hd)

/-- A line that starts with a word and ends in a line, or in a mark with nothing behind it. -/
theorem isLine_append {w s : List Char} {d : Char} (hne : w ≠ [])
    (hw : ∀ c ∈ w, isSpace c = false) (hd : d ∉ ['\t', '\n']) (hs : IsLine s)
    (hend : s = [] → isSpace d = false) : IsLine (w ++ d :: s) := by
  have hstart : Stops isSpace (w ++ d :: s) := by
    cases w with
    | nil => exact absurd rfl hne
    | cons c w => exact Stops.cons (hw c (by simp)) _
  have hlast : Stops isSpace (w ++ d :: s).reverse := by
    rw [List.reverse_append, List.reverse_cons]
    cases hr : s.reverse with
    | nil => exact Stops.cons (hend (List.reverse_eq_nil_iff.mp hr)) _
    | cons c r => exact Stops.cons (hs.flush.2 c (by rw [hr]; rfl)) _
  have hmem : ∀ c, isSpace c = true → c ≠ d → c ∉ s → c ∉ w ++ d :: s := by
    intro c hc hne hnot h
    rcases List.mem_append.mp h with h | h
    · rw [hw c h] at hc
      exact absurd hc (by decide)
    rcases List.mem_cons.mp h with h | h
    · exact hne h
    · exact hnot h
  simp only [List.mem_cons, List.not_mem_nil, or_false, not_or] at hd
  exact ⟨⟨hstart, hlast⟩, hmem '\t' (by decide) (Ne.symm hd.1) hs.tab,
    hmem '\n' (by decide) (Ne.symm hd.2) hs.newline⟩

theorem Test.Readable.isLine_header {t : Test} (h : t.Readable) :
    IsLine (headerLine t.arch.toList t.name.toList) :=
  isLine_append h.arch.ne_nil (isSpace_of_isWord (fun _ => isSpace_of_isGraphic) h.arch) (by decide)
    h.name fun hnil => absurd hnil h.name_ne_nil

/-- The architecture and the name are read from the header. -/
theorem Test.Readable.header?_headerLine {t : Test} (h : t.Readable) :
    header? (headerLine t.arch.toList t.name.toList) = some (t.arch.toList, t.name.toList) := by
  have hword : word isGraphic isGraphic (t.arch.toList ++ ' ' :: t.name.toList)
      = some (t.arch.toList, ' ' :: t.name.toList) :=
    word_append_of_stops h.arch (Stops.cons (by decide) _)
  rw [header?, expandTabs_of_no_tab h.isLine_header.tab, headerLine, hword, Option.map_some]
  show some (t.arch.toList, trim (' ' :: t.name.toList)) = _
  rw [trim_space_cons h.name.flush]

/-! ## Keys -/

theorem isSpace_of_isKeyChar {c : Char} (h : isKeyChar c = true) : isSpace c = false := by
  simp only [isKeyChar, Bool.or_eq_true, beq_iff_eq] at h
  rcases h with (h | rfl) | rfl
  · exact isSpace_of_isNameTail (by simp [isNameTail, h])
  all_goals decide

theorem isLine_infoLine {entry : String × String}
    (hkey : IsWord isKeyChar isKeyChar entry.1.toList) (hvalue : IsLine entry.2.toList) :
    IsLine (infoLine entry) :=
  isLine_append hkey.ne_nil (isSpace_of_isWord (fun _ => isSpace_of_isKeyChar) hkey) (by decide)
    hvalue fun _ => by decide

theorem info?_infoLine {entry : String × String}
    (hkey : IsWord isKeyChar isKeyChar entry.1.toList) (hvalue : IsLine entry.2.toList) :
    info? (infoLine entry) = some entry := by
  have hword : word isKeyChar isKeyChar (entry.1.toList ++ '=' :: entry.2.toList)
      = some (entry.1.toList, '=' :: entry.2.toList) :=
    word_append_of_stops hkey (Stops.cons (by decide) _)
  have hmark : spacedMark '=' ('=' :: entry.2.toList) = some entry.2.toList :=
    spacedMark_append Blanks.nil (by decide) _
  rw [info?, expandTabs_of_no_tab (isLine_infoLine hkey hvalue).tab, infoLine, hword]
  simp [hmark, trim_of_flush hvalue.flush, String.ofList_toList]

/-- The line of a key does not open the initial state. -/
theorem opensInit_infoLine {entry : String × String}
    (hkey : IsWord isKeyChar isKeyChar entry.1.toList) :
    opensInit (infoLine entry) = false ∧ (infoLine entry).head? ≠ some '"' := by
  rw [infoLine]
  cases hword : entry.1.toList with
  | nil =>
    rw [hword] at hkey
    exact absurd rfl hkey.ne_nil
  | cons c w =>
    rw [hword] at hkey
    have hc := hkey.1
    have hbrace : c ≠ '\x7b' := by rintro rfl; exact absurd hc (by decide)
    have hquote : c ≠ '"' := by rintro rfl; exact absurd hc (by decide)
    exact ⟨by simp [opensInit, hbrace], by simpa using hquote⟩

/-! ## Characters of written texts -/

/-- The characters that constants, locations and propositions are written with. -/
def isTextChar (c : Char) : Bool :=
  isNameTail c || "%:[]-=()~/\\>".toList.contains c

theorem isTextChar_of_isNameTail {c : Char} (h : isNameTail c = true) : isTextChar c = true := by
  simp [isTextChar, h]

theorem isSpace_of_isTextChar {c : Char} (h : isTextChar c = true) : isSpace c = false := by
  simp only [isTextChar, Bool.or_eq_true, List.contains_iff_mem] at h
  rcases h with h | h
  · exact isSpace_of_isNameTail h
  · have hmarks : ∀ d ∈ "%:[]-=()~/\\>".toList, isSpace d = false := isSpace_of_all (by decide)
    exact hmarks c h

/-- A text that is written with these characters only. -/
def TextChars (s : List Char) : Prop :=
  ∀ c ∈ s, isTextChar c = true

theorem TextChars.append {s t : List Char} (hs : TextChars s) (ht : TextChars t) :
    TextChars (s ++ t) := by
  intro c hc
  rcases List.mem_append.mp hc with hc | hc
  · exact hs c hc
  · exact ht c hc

theorem TextChars.cons {c : Char} {s : List Char} (hc : isTextChar c = true) (hs : TextChars s) :
    TextChars (c :: s) := by
  intro d hd
  rcases List.mem_cons.mp hd with rfl | hd
  · exact hc
  · exact hs d hd

theorem TextChars.nil : TextChars [] := by
  simp [TextChars]

theorem TextChars.of_name {w : List Char} (h : ∀ c ∈ w, isNameTail c = true) : TextChars w :=
  fun c hc => isTextChar_of_isNameTail (h c hc)

theorem TextChars.decimal (n : Int) : TextChars (decimal n) :=
  .of_name (isNameTail_of_isDigits (isDigits_decimal n))

theorem TextChars.not_mem {s : List Char} (hs : TextChars s) {c : Char} (hc : isTextChar c = false) :
    c ∉ s := by
  intro h
  rw [hs c h] at hc
  exact absurd hc (by decide)

theorem TextChars.flush {s : List Char} (hs : TextChars s) : Flush s :=
  ⟨fun c hc => isSpace_of_isTextChar (hs c (List.mem_of_mem_head? hc)),
    fun c hc => isSpace_of_isTextChar (hs c (List.mem_reverse.mp (List.mem_of_mem_head? hc)))⟩

theorem Constant.Readable.textChars {value : Constant} (h : value.Readable) :
    TextChars value.written := by
  cases value with
  | concrete text =>
    rcases (show IsNumber text.toList from h) with h | ⟨ds, hds, h⟩
    · exact .of_name h.isNameTail
    · rw [Constant.written, hds]
      exact .cons (by decide) (.of_name h.isNameTail)
  | symbolic name => exact .of_name (isNameTail_of_isName h)
  | label thread name =>
    exact .cons (by decide) ((TextChars.decimal thread).append
      (.cons (by decide) (.of_name (isNameTail_of_isLabelName h.2))))

theorem Location.Readable.textChars {place : Location} (h : place.Readable) :
    TextChars place.written := by
  match place, h with
  | .register thread _, h =>
    exact (TextChars.decimal thread).append
      (.cons (by decide) (.of_name (isNameTail_of_isRegisterName h.2)))
  | .symbolicRegister _, h => exact .cons (by decide) (.of_name (isNameTail_of_isName h))
  | .global (.concrete text), h =>
    have haddress : TextChars (Constant.concrete text).written :=
      Constant.Readable.textChars (show (Constant.concrete text).Readable from h)
    exact .cons (by decide) (haddress.append (.cons (by decide) .nil))
  | .global (.symbolic _), h =>
    exact .cons (by decide) ((TextChars.of_name (isNameTail_of_isName h)).append
      (.cons (by decide) .nil))
  | .cell (.symbolic _) index, h =>
    exact (TextChars.of_name (isNameTail_of_isName h.1)).append
      (.cons (by decide) ((TextChars.decimal index).append (.cons (by decide) .nil)))

theorem TextChars.intercalate {mark : List Char} {texts : List (List Char)} (hmark : TextChars mark)
    (h : ∀ text ∈ texts, TextChars text) : TextChars (mark.intercalate texts) := by
  induction texts with
  | nil => exact .nil
  | cons text texts ih =>
    have htext := h text (by simp)
    cases texts with
    | nil =>
      rw [List.intercalate_singleton]
      exact htext
    | cons next texts =>
      rw [List.intercalate_cons_cons]
      exact (htext.append hmark).append (ih fun q hq => h q (List.mem_cons_of_mem text hq))

theorem TextChars.parentheses {mark : List Char} {ps : List Proposition} (hmark : TextChars mark)
    (h : ∀ p ∈ ps, TextChars p.written) :
    TextChars ('(' :: (mark.intercalate (writtenOfAll ps) ++ [')'])) := by
  have hall : ∀ text ∈ writtenOfAll ps, TextChars text := by
    intro text htext
    rw [writtenOfAll_eq_map] at htext
    obtain ⟨p, hp, rfl⟩ := List.mem_map.mp htext
    exact h p hp
  exact .cons (by decide) ((TextChars.intercalate hmark hall).append (.cons (by decide) .nil))

theorem Proposition.Readable.textChars {p : Proposition} (h : p.Readable) :
    TextChars p.written := by
  induction h with
  | holds hplace _ hvalue =>
    rw [Proposition.written]
    exact hplace.textChars.append (.cons (by decide) hvalue.textChars)
  | agree hleft _ hright _ =>
    rw [Proposition.written]
    exact hleft.textChars.append (.cons (by decide) hright.textChars)
  | not _ ih =>
    rw [Proposition.written]
    exact .cons (by decide) ih
  | and _ _ ih =>
    rw [Proposition.written]
    split
    · exact .of_name (List.all_eq_true.mp (by decide))
    · exact .parentheses (List.all_eq_true.mp (by decide)) ih
  | or _ _ ih =>
    rw [Proposition.written]
    split
    · exact .of_name (List.all_eq_true.mp (by decide))
    · exact .parentheses (List.all_eq_true.mp (by decide)) ih
  | implies _ _ ihp ihq =>
    rw [Proposition.written]
    exact .cons (by decide) (ihp.append (.cons (by decide) (.cons (by decide)
      (ihq.append (.cons (by decide) .nil)))))

/-! ## The initial state -/

theorem writtenAssignment {assignment : Location × Constant} (hplace : assignment.1.Readable)
    (hvalue : assignment.2.Readable) : WrittenAssignment assignment (assignmentText assignment) :=
  .untyped (.pair (Location.Readable.written hplace fun _ _ _ => trivial) Blanks.nil Blanks.nil
    hvalue.written)

theorem textChars_assignmentText {assignment : Location × Constant}
    (hplace : assignment.1.Readable) (hvalue : assignment.2.Readable) :
    TextChars (assignmentText assignment) :=
  hplace.textChars.append (.cons (by decide) hvalue.textChars)

theorem writtenInit_initText {init : List (Location × Constant)}
    (h : ∀ assignment ∈ init, assignment.1.Readable ∧ assignment.2.Readable) :
    WrittenInit init (initText init) := by
  cases hinit : init with
  | nil => exact .nil
  | cons first rest =>
    rw [← hinit]
    have hslots : List.Forall₂ WrittenSlot (init.map some) (init.map assignmentText) := by
      rw [List.forall₂_map_left_iff, List.forall₂_map_right_iff, List.forall₂_same]
      intro assignment hmem
      have hwritten := WrittenSlot.assignment Blanks.nil
        (writtenAssignment (h assignment hmem).1 (h assignment hmem).2) Blanks.nil
      rwa [List.nil_append, List.append_nil] at hwritten
    have hwritten := WrittenInit.slots (by simp [hinit]) hslots
    rwa [List.reduceOption, List.filterMap_map, Function.id_comp, List.filterMap_some] at hwritten

/-- The assignments are read from between the braces. -/
theorem readInit_initText {init : List (Location × Constant)}
    (h : ∀ assignment ∈ init, assignment.1.Readable ∧ assignment.2.Readable) :
    readInit (initText init) = .ok init :=
  readInit_written (writtenInit_initText h)

theorem not_mem_initText {init : List (Location × Constant)}
    (h : ∀ assignment ∈ init, assignment.1.Readable ∧ assignment.2.Readable) {c : Char}
    (hc : isTextChar c = false) (hsemicolon : c ≠ ';') : c ∉ initText init := by
  intro hmem
  rcases mem_joinWith hmem with hmem | ⟨text, htext, hmem⟩
  · exact hsemicolon hmem
  · obtain ⟨assignment, ha, rfl⟩ := List.mem_map.mp htext
    exact (textChars_assignmentText (h assignment ha).1 (h assignment ha).2).not_mem hc hmem

theorem Test.Readable.isLine_init {t : Test} (h : t.Readable) : IsLine (initLine t.init) := by
  have hmem : ∀ c, isTextChar c = false → c ∉ [';', '\x7b', '\x7d'] → c ∉ initLine t.init := by
    intro c hc hmarks hmem
    simp only [List.mem_cons, List.not_mem_nil, or_false, not_or] at hmarks
    rcases List.mem_cons.mp hmem with hmem | hmem
    · exact hmarks.2.1 hmem
    rcases List.mem_append.mp hmem with hmem | hmem
    · exact not_mem_initText h.init hc hmarks.1 hmem
    · exact hmarks.2.2 (List.mem_singleton.mp hmem)
  have hend : Stops isSpace (initLine t.init).reverse := by
    rw [initLine, List.reverse_cons, List.reverse_append]
    exact Stops.cons (by decide) _
  exact ⟨⟨Stops.cons (by decide) _, hend⟩, hmem '\t' (by decide) (by decide),
    hmem '\n' (by decide) (by decide)⟩

/-! ## The front -/

/-- The documentation string is read from its line, or found missing. -/
theorem Test.Readable.takeDoc_docLines {t : Test} (h : t.Readable) (rest : List (List Char)) :
    takeDoc (docLines t.doc ++ (t.info.map infoLine ++ initLine t.init :: rest))
      = .ok (t.doc, t.info.map infoLine ++ initLine t.init :: rest) := by
  have hrest : ∃ line lines, t.info.map infoLine ++ initLine t.init :: rest = line :: lines ∧
      line ≠ [] ∧ line.head? ≠ some '"' := by
    cases hinfo : t.info with
    | nil => exact ⟨_, _, rfl, by simp [initLine], by simp [initLine]⟩
    | cons entry info =>
      have hkey := (h.info entry (by simp [hinfo])).1
      exact ⟨_, _, rfl, by simp [infoLine], (opensInit_infoLine hkey).2⟩
  obtain ⟨line, lines, hlines, hne, hquote⟩ := hrest
  -- no blank line stands behind the header or behind the documentation string
  have hskip : skipBlankLines (line :: lines) = line :: lines :=
    List.dropWhile_cons_of_neg (by simpa using hne)
  rw [hlines]
  cases t.doc with
  | none =>
    rw [docLines, List.nil_append, takeDoc, hskip]
    simp only [if_neg hquote]
  | some doc =>
    have hdocskip : skipBlankLines (docLine doc.toList :: (line :: lines))
        = docLine doc.toList :: (line :: lines) := List.dropWhile_cons_of_neg (by simp [docLine])
    have hhead : (docLine doc.toList).head? = some '"' := rfl
    have hread : doc? (expandTabs (docLine doc.toList)) = some doc.toList := by
      rw [expandTabs_of_no_tab (not_mem_docLine (by simp) doc.toList), doc?_docLine]
    rw [docLines, List.singleton_append, takeDoc, hdocskip]
    simp only [if_pos hhead, hskip]
    exact bind_eq_ok.mpr ⟨doc.toList, shaped_eq_ok.mpr hread, by rw [String.ofList_toList]; rfl⟩

theorem Test.Readable.opensInit_infoLines {t : Test} (h : t.Readable) :
    ∀ line ∈ t.info.map infoLine, (!opensInit line) = true := by
  intro line hline
  obtain ⟨entry, hentry, rfl⟩ := List.mem_map.mp hline
  rw [(opensInit_infoLine (h.info entry hentry).1).1]
  rfl

theorem opensInit_initLine (init : List (Location × Constant)) :
    ¬ (!opensInit (initLine init)) = true := by
  simp [opensInit, initLine]

theorem Test.Readable.infoOf_infoLines {t : Test} (h : t.Readable) (rest : List (List Char)) :
    infoOf (t.info.map infoLine ++ initLine t.init :: rest) = .ok t.info := by
  have htake : (t.info.map infoLine ++ initLine t.init :: rest).takeWhile (!opensInit ·)
      = t.info.map infoLine := by
    have hstop : (initLine t.init :: rest).takeWhile (!opensInit ·) = [] :=
      List.takeWhile_cons_of_neg (opensInit_initLine t.init)
    rw [List.takeWhile_append_of_pos h.opensInit_infoLines, hstop, List.append_nil]
  have hfilter : (t.info.map infoLine).filter (!·.isEmpty) = t.info.map infoLine := by
    refine List.filter_eq_self.mpr fun line hline => ?_
    obtain ⟨entry, -, rfl⟩ := List.mem_map.mp hline
    simp [infoLine]
  rw [infoOf, htake, hfilter, mapM_shaped_eq_ok, List.forall₂_map_left_iff, List.forall₂_same]
  exact fun entry hentry => info?_infoLine (h.info entry hentry).1 (h.info entry hentry).2

theorem Test.Readable.braced_initLine {t : Test} (h : t.Readable) {rest : List (List Char)}
    (hne : rest ≠ []) : braced (t.info.map infoLine ++ initLine t.init :: rest)
      = .ok (initText t.init, '\n' :: joinWith '\n' rest) := by
  have hdrop : (t.info.map infoLine ++ initLine t.init :: rest).dropWhile (!opensInit ·)
      = initLine t.init :: rest := by
    rw [List.dropWhile_append_of_pos h.opensInit_infoLines]
    exact List.dropWhile_cons_of_neg (opensInit_initLine t.init)
  -- no assignment holds a brace, so the first closing one is the one that was written
  have hbrace : ∀ c ∈ initText t.init, (c != '\x7d') = true :=
    bne_of_not_mem (not_mem_initText h.init (by decide) (by decide))
  rw [braced, hdrop, joinWith_cons '\n' _ hne, initLine]
  simp [List.takeWhile_append_of_pos hbrace, List.dropWhile_append_of_pos hbrace]

/-- No row of the table starts the condition. -/
theorem Test.Readable.startsCondition_rows {t : Test} (h : t.Readable) :
    ∀ row ∈ namesRow t.threads :: entryRows t.threads, startsCondition row = false := by
  obtain ⟨first, others, hthreads⟩ := List.exists_cons_of_ne_nil h.threads_ne_nil
  intro row hrow
  rcases List.mem_cons.mp hrow with rfl | hrow
  · rw [namesRow, hthreads, List.map_cons, startsCondition_rowLine]
    rfl
  · obtain ⟨j, -, rfl⟩ := List.mem_map.mp hrow
    rw [entryTexts, hthreads, List.map_cons, startsCondition_rowLine]
    cases hentry : first.2[j]? with
    | none => rfl
    | some entry => exact h.column first (by rw [hthreads]; rfl) entry (List.mem_of_getElem? hentry)

theorem Test.Readable.readTable_rows {t : Test} (h : t.Readable) :
    readTable (namesRow t.threads :: entryRows t.threads) = .ok t.threads := by
  have hfit : overfullRow? (t.threads.map (·.1)).length (entryRows t.threads) = none := by
    refine List.find?_eq_none.mpr fun row hrow => ?_
    obtain ⟨j, -, rfl⟩ := List.mem_map.mp hrow
    rw [cells_entryRow h.threads_ne_nil h.threads]
    simp [entryTexts]
  refine bind_eq_ok.mpr ⟨_, readNames_namesRow h.threads_ne_nil h.threads, ?_⟩
  simp only [hfit, threadsOf_entryRows h.threads_ne_nil h.threads]
  rfl

theorem Test.Readable.isLine_rows {t : Test} (h : t.Readable) :
    ∀ row ∈ namesRow t.threads :: entryRows t.threads, IsLine row ∧ row ≠ [] := by
  have hline : ∀ row ∈ namesRow t.threads :: entryRows t.threads,
      ∃ texts, row = rowLine texts ∧ ∀ text ∈ texts, IsRowText text := by
    intro row hrow
    rcases List.mem_cons.mp hrow with rfl | hrow
    · refine ⟨_, rfl, fun text htext => ?_⟩
      obtain ⟨thread, -, rfl⟩ := List.mem_map.mp htext
      exact .inr (isCellText_name thread.1)
    · obtain ⟨j, -, rfl⟩ := List.mem_map.mp hrow
      exact ⟨_, rfl, isRowText_entryTexts h.threads j⟩
  intro row hrow
  obtain ⟨texts, rfl, htexts⟩ := hline row hrow
  exact ⟨isLine_rowLine htexts, rowLine_ne_nil texts⟩

/-- The rows are found again in what stands behind the closing brace: a blank line, and no line that
starts the condition. -/
theorem Test.Readable.lines_behind_brace {t : Test} (h : t.Readable) {lines : List (List Char)}
    (hlines : lines = [] :: namesRow t.threads :: entryRows t.threads) :
    tableRows lines = namesRow t.threads :: entryRows t.threads ∧ afterTable lines = [] := by
  have htrim : lines.map trim = lines := by
    refine map_trim_of_flush fun row hrow => ?_
    rw [hlines] at hrow
    rcases List.mem_cons.mp hrow with rfl | hrow
    · exact Flush.nil
    · exact (h.isLine_rows row hrow).1.flush
  have hstart : ∀ row ∈ lines, (!startsCondition (trim row)) = true := by
    intro row hrow
    rw [hlines] at hrow
    rcases List.mem_cons.mp hrow with rfl | hrow
    · rfl
    · rw [trim_of_flush (h.isLine_rows row hrow).1.flush, h.startsCondition_rows row hrow]
      rfl
  have hne : ∀ row ∈ namesRow t.threads :: entryRows t.threads, (!row.isEmpty) = true :=
    fun row hrow => by simpa using (h.isLine_rows row hrow).2
  constructor
  · rw [tableRows, List.takeWhile_eq_self_iff.mpr hstart, htrim, hlines,
      List.filter_cons_of_neg (by simp), List.filter_eq_self.mpr hne]
  · exact List.dropWhile_eq_nil_iff.mpr hstart

/-- The front of a rendered test is read, and no line of it belongs to the condition. -/
theorem Test.Readable.readFront_frontLines {t : Test} (h : t.Readable) :
    readFront t.frontLines = .ok (fun condition => { t with condition := condition }, []) := by
  have hsplit : splitAt '\n' ('\n' :: joinWith '\n' (namesRow t.threads :: entryRows t.threads))
      = [] :: namesRow t.threads :: entryRows t.threads :=
    congrArg ([] :: ·) (splitAt_joinWith (List.cons_ne_nil _ _) fun row hrow =>
      (h.isLine_rows row hrow).1.newline)
  obtain ⟨hrows, hafter⟩ := h.lines_behind_brace hsplit
  refine readFront_eq_ok.mpr ⟨_, _, t.arch.toList, t.name.toList, t.doc, _, t.info, _, _, t.init,
    t.threads, rfl, h.header?_headerLine, h.name_ne_nil, h.takeDoc_docLines _, h.infoOf_infoLines _,
    h.braced_initLine (by simp), readInit_initText h.init, ?_, hafter, ?_⟩
  · rw [hrows, h.readTable_rows]
  · rw [String.ofList_toList, String.ofList_toList]

/-! ## The condition -/

theorem Condition.writtenCondition {c : Condition} (h : c.body.Readable) :
    WrittenCondition c c.written := by
  have hbody : Written .implication c.body c.body.written :=
    .implication (.disjunction (.conjunction h.written))
  have hblank : Blanks [' '] := by decide
  have hgap : [' '] = [] → Stops isKeywordChar c.body.written :=
    fun hnil => absurd hnil (List.cons_ne_nil ' ' [])
  cases c with
  | someState body => exact .mk .none .someState hblank hgap hbody
  | noState body => exact .mk .none (.noState Blanks.nil (by simp)) hblank hgap hbody
  | everyState body => exact .mk .none .everyState hblank hgap hbody

theorem Condition.newline_written {c : Condition} (h : c.body.Readable) : '\n' ∉ c.written := by
  have hbody : '\n' ∉ c.body.written := h.textChars.not_mem (by decide)
  have hquantifier : '\n' ∉ c.quantifier := by
    cases c with
    | someState =>
      show '\n' ∉ "exists".toList
      decide
    | noState =>
      show '\n' ∉ '~' :: "exists".toList
      decide
    | everyState =>
      show '\n' ∉ "forall".toList
      decide
  simp [Condition.written, hbody, hquantifier]

/-! ## Whole tests -/

theorem Test.Readable.isLine_frontLines {t : Test} (h : t.Readable) :
    ∀ line ∈ t.frontLines, IsLine line := by
  intro line hline
  rcases List.mem_cons.mp hline with rfl | hline
  · exact h.isLine_header
  rcases List.mem_append.mp hline with hline | hline
  · cases hdoc : t.doc with
    | none =>
      rw [hdoc] at hline
      exact absurd hline (by simp [docLines])
    | some doc =>
      rw [hdoc, docLines, List.mem_singleton] at hline
      rw [hline]
      exact ⟨flush_docLine _, not_mem_docLine (by simp) _, not_mem_docLine (by simp) _⟩
  rcases List.mem_append.mp hline with hline | hline
  · obtain ⟨entry, hentry, rfl⟩ := List.mem_map.mp hline
    exact isLine_infoLine (h.info entry hentry).1 (h.info entry hentry).2
  rcases List.mem_cons.mp hline with rfl | hline
  · exact h.isLine_init
  · exact (h.isLine_rows line hline).1

/-- A rendered test is read as the test. -/
theorem Test.Readable.readTest_render {t : Test} (h : t.Readable) : readTest t.render = .ok t := by
  have hcondition := Condition.writtenCondition h.condition
  have htrim : trim t.condition.written = t.condition.written := by
    have hself := hcondition.trim Blanks.nil
    rwa [List.append_nil] at hself
  have hsplit : splitAt '\n' (joinWith '\n' (t.frontLines ++ [t.condition.written]))
      = t.frontLines ++ [t.condition.written] := by
    refine splitAt_joinWith (by simp) fun line hline => ?_
    rcases List.mem_append.mp hline with hline | hline
    · exact (h.isLine_frontLines line hline).newline
    · rw [List.mem_singleton.mp hline]
      exact Condition.newline_written h.condition
  have hlines : textLines t.render = t.frontLines ++ [t.condition.written] := by
    rw [textLines, Test.render, dropComments_protect, hsplit, List.map_append]
    have hfront := map_trim_of_flush fun line hline => (h.isLine_frontLines line hline).flush
    rw [hfront, List.map_singleton, htrim]
  have hskip : skipBlankLines (t.frontLines ++ [t.condition.written])
      = t.frontLines ++ [t.condition.written] :=
    List.dropWhile_cons_of_neg (by simp [headerLine])
  have hline : [t.condition.written]
      = (splitAt '\n' ([] ++ (t.condition.written ++ []))).map trim := by
    rw [List.nil_append, List.append_nil,
      splitAt_of_not_mem (Condition.newline_written h.condition), List.map_singleton, htrim]
  obtain ⟨hrows, hread⟩ := readCondition_written hcondition Blanks.nil Blanks.nil hline
  -- the front is read as if it stood alone, since no line of the condition is a row of the table
  have hfront := readFront_append h.readFront_frontLines (List.cons_ne_nil t.condition.written [])
    (by simpa using Condition.newline_written h.condition) hrows
  rw [readTest_eq, hlines, hskip, hfront]
  show (readCondition (afterTable [t.condition.written]) >>= fun condition =>
    pure { t with condition := condition }) = .ok t
  rw [hread]
  rfl

end Litmus
