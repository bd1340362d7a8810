import Litmus.Proofs.Initializers
import Litmus.Proofs.Listings
import Litmus.Proofs.Outcomes
import Litmus.Proofs.Terms

/-!
# The text of a record determines the record

Names of registers, initial values, labels and keys stand in the text of a record as they are. That
they can be told apart again rests on what a test that has been read can hold: this module says what
that is, and takes the text of a record apart from the front.

* **`ThreadRecord.Plain`**, **`Record.Plain`**: the shapes of what stands in the text as it is.
* **`delimited_infoLine`**, **`delimited_endLine`**, **`delimited_initPair`**,
  **`delimited_threadText`**: the parts of the text, each with the character at which it ends.
* **`Record.Plain.eq_of_text_eq`**: equal texts are texts of records that differ in the case of their
  keys only. The output slots, which are not in the text, follow from the assertion.
* **`Test.Readable.plain`**: the records of tests that have been read are plain.
* **`recordText_inj`** puts these together.
-/

namespace Litmus

open Source Text

/-! ## Keys -/

/-- The entry of the header with the letters of its key made small. -/
def lowerKey (entry : String × String) : String × String :=
  (lowercaseAscii entry.1, entry.2)

/-- The record with the letters of its keys made small. -/
def Record.lowered (r : Record) : Record :=
  { r with info := r.info.map lowerKey }

/-- A character of a key stays one when it is made small, and is printed. -/
theorem isKeyChar_toLower {c : Char} (h : isKeyChar c = true) :
    isKeyChar c.toLower = true ∧ IsPrinted c.toLower := by
  have hall : ∀ n < 128, isKeyChar (Char.ofNat n) = true →
      isKeyChar (Char.ofNat n).toLower = true ∧ IsPrinted (Char.ofNat n).toLower := by
    decide +kernel
  have hlt : c.toNat < 128 := by
    simp only [isKeyChar, Char.isAlphanum, Bool.or_eq_true, isAlpha_iff_toNat, isDigit_iff_toNat,
      beq_iff_eq] at h
    rcases h with ((h | h) | rfl) | rfl
    · omega
    · omega
    · decide
    · decide
  have hc := hall c.toNat hlt
  rw [Char.ofNat_toNat] at hc
  exact hc h

/-- A line with a key and a value. The key ends with the space before the sign. -/
theorem toList_pairLine (key value : String) (x : List Char) :
    (pairLine key value).toList ++ x =
      key.toList ++ ' ' :: '=' :: ' ' :: ((quote value).toList ++ '\n' :: x) := by
  simp [pairLine]

/-- A text of characters of keys. -/
def IsKeyText (s : String) : Prop :=
  ∀ c ∈ s.toList, isKeyChar c = true ∧ IsPrinted c

theorem delimited_infoLine : Delimited (fun entry : String × String => IsKeyText entry.1)
    fun entry => (pairLine entry.1 entry.2).toList := by
  rintro ⟨key, value⟩ ⟨key', value'⟩ x y h h' heq
  rw [toList_pairLine, toList_pairLine] at heq
  obtain ⟨hkey, hrest⟩ := append_inj_of_stops (fun c hc => (h c hc).1) (fun c hc => (h' c hc).1)
    (Stops.cons (by decide) _) (Stops.cons (by decide) _) heq
  simp only [List.cons.injEq, true_and] at hrest
  obtain ⟨rfl, hline⟩ := delimited_quote value value' _ _ trivial trivial hrest
  exact ⟨Prod.ext (String.toList_inj.mp hkey) rfl, (List.cons.inj hline).2⟩

/-- A line of the header is not the line with the symbolic names, whatever its key. -/
theorem infoLine_ne_symbolic {entry : String × String} (h : IsKeyText entry.1) (x y : List Char) :
    (pairLine entry.1 entry.2).toList ++ x ≠ "symbolic = [".toList ++ y := by
  intro heq
  have hsymbolic : "symbolic = [".toList ++ y = "symbolic".toList ++ ' ' :: '=' :: ' ' :: '[' :: y :=
    by simp
  rw [toList_pairLine, hsymbolic] at heq
  obtain ⟨-, hrest⟩ := append_inj_of_stops (fun c hc => (h c hc).1) (by simp [isKeyChar])
    (Stops.cons (by decide) _) (Stops.cons (by decide) _) heq
  simp [quote] at hrest

/-! ## Listings -/

/-- A line of a listing. It does not start like the marks behind a listing. -/
def IsListingLine (line : List Char) : Prop :=
  line.head? ≠ some '"' ∧ ∀ c ∈ line, c ≠ '\n' ∧ IsPrinted c

/-- A line with its end. -/
def endLine (line : List Char) : List Char :=
  line ++ ['\n']

/-- The text of a listing. -/
def IsListing (s : List Char) : Prop :=
  ∃ lines : List (List Char), (∀ line ∈ lines, IsListingLine line) ∧ s = lines.flatMap endLine

theorem IsListing.allPrinted {s : List Char} (h : IsListing s) : AllPrinted s := by
  obtain ⟨lines, hlines, rfl⟩ := h
  refine AllPrinted.flatMap fun line hline => ?_
  rw [endLine, allPrinted_append, allPrinted_cons]
  exact ⟨fun c hc => ((hlines line hline).2 c hc).2, by decide, AllPrinted.nil⟩

theorem delimited_endLine : Delimited IsListingLine endLine := by
  intro line line' x y h h' heq
  rw [endLine, endLine, List.append_assoc, List.append_assoc] at heq
  have hclass : ∀ {line : List Char}, IsListingLine line → ∀ c ∈ line, (c != '\n') = true :=
    fun h c hc => bne_iff_ne.mpr (h.2 c hc).1
  obtain ⟨rfl, hrest⟩ := append_inj_of_stops (hclass h) (hclass h') (Stops.cons (by decide) _)
    (Stops.cons (by decide) _) heq
  exact ⟨rfl, (List.cons.inj hrest).2⟩

/-- A listing ends at a quotation mark where a line would start. -/
theorem IsListing.eq_of_append_eq {s t x y : List Char} (hs : IsListing s) (ht : IsListing t)
    (heq : s ++ '"' :: x = t ++ '"' :: y) : s = t ∧ x = y := by
  obtain ⟨lines, hlines, rfl⟩ := hs
  obtain ⟨lines', hlines', rfl⟩ := ht
  have hstop : ∀ line x y, IsListingLine line → endLine line ++ x ≠ ['"'] ++ y := by
    intro line x y hline h
    cases line with
    | nil => exact absurd (List.cons.inj h).1 (by decide)
    | cons c line => exact hline.1 (congrArg some (List.cons.inj h).1)
  obtain ⟨rfl, hrest⟩ := delimited_endLine.list hstop hlines hlines' heq
  exact ⟨rfl, hrest⟩

/-- The line of an instruction. -/
theorem isListingLine_instruction (text : String) :
    IsListingLine (ListingLine.instruction text).chars := by
  refine ⟨by simp [ListingLine.chars], List.forall_mem_cons.mpr ⟨by decide, fun c hc => ?_⟩⟩
  refine ⟨?_, allPrinted_escape text c hc⟩
  rintro rfl
  exact absurd (escape_chars text '\n' hc).1 (by decide)

/-- The line of a label. -/
theorem isListingLine_label {label : String} (h : IsLabelName label.toList) :
    IsListingLine (ListingLine.label label).chars := by
  have hchars := isNameTail_of_isLabelName h
  refine ⟨?_, fun c hc => ?_⟩
  · cases hlabel : label.toList with
    | nil => simp [ListingLine.chars, hlabel]
    | cons c w =>
      have hc : isNameTail c = true := hchars c (by simp [hlabel])
      rw [ListingLine.chars, hlabel]
      rintro heq
      obtain rfl := Option.some.inj heq
      exact absurd hc (by decide)
  · rcases List.mem_append.mp hc with hc | hc
    · refine ⟨?_, isPrinted_of_isNameTail (hchars c hc)⟩
      rintro rfl
      exact absurd (hchars '\n' hc) (by decide)
    · obtain rfl := List.mem_singleton.mp hc
      decide

/-- The lines of an entry that can be read. -/
theorem Pseudo.Readable.isListingLine {entry : Pseudo} (h : entry.Readable) :
    entry.holdsTemplate = false ∧ ∀ line ∈ entry.lines, IsListingLine line.chars := by
  match entry, h with
  | .instruction code, _ =>
    exact ⟨rfl, List.forall_mem_singleton.mpr (isListingLine_instruction code)⟩
  | .labelled label (.instruction code), h =>
    refine ⟨rfl, List.forall_mem_cons.mpr ⟨isListingLine_label h.1, ?_⟩⟩
    exact List.forall_mem_singleton.mpr (isListingLine_instruction code)
  | .labelled label .nop, h =>
    exact ⟨rfl, List.forall_mem_singleton.mpr (isListingLine_label h)⟩

/-- The listing of the code of a thread that can be read. -/
theorem isListing_listing {code : List Pseudo} {text : String} (h : ∀ entry ∈ code, entry.Readable)
    (htext : listing code = .ok text) : IsListing text.toList := by
  rw [listing_eq fun entry hentry => (h entry hentry).isListingLine.1] at htext
  obtain rfl := Except.ok.inj htext
  refine ⟨(codeLines code).map ListingLine.chars, ?_, ?_⟩
  · rw [List.forall_mem_map]
    intro line hline
    obtain ⟨entry, hentry, hmem⟩ := List.mem_flatMap.mp hline
    exact (h entry hentry).isListingLine.2 line hmem
  · rw [String.toList_ofList, List.flatMap_map]
    rfl

/-! ## Threads -/

/-- A register with the text of its value. -/
def IsInitPair (pair : String × String) : Prop :=
  IsRegisterName pair.1.toList ∧ ∀ c ∈ pair.2.toList, c ≠ '"' ∧ IsPrinted c

/-- The text of a register with the text of its value. -/
def initPair (pair : String × String) : List Char :=
  pair.1.toList ++ ' ' :: '=' :: ' ' :: '"' :: (pair.2.toList ++ ['"'])

theorem delimited_initPair : Delimited IsInitPair initPair := by
  rintro ⟨register, value⟩ ⟨register', value'⟩ x y h h' heq
  simp only [initPair, List.append_assoc, List.cons_append, List.nil_append] at heq
  obtain ⟨hregister, hrest⟩ := append_inj_of_stops (isNameTail_of_isRegisterName h.1)
    (isNameTail_of_isRegisterName h'.1) (Stops.cons (by decide) _) (Stops.cons (by decide) _) heq
  simp only [List.cons.injEq, true_and] at hrest
  obtain ⟨hvalue, hend⟩ := append_inj_of_stops (fun c hc => bne_iff_ne.mpr (h.2 c hc).1)
    (fun c hc => bne_iff_ne.mpr (h'.2 c hc).1) (Stops.cons (by decide) _)
    (Stops.cons (by decide) _) hrest
  refine ⟨Prod.ext (String.toList_inj.mp hregister) (String.toList_inj.mp hvalue), ?_⟩
  exact (List.cons.inj hend).2

/-- The part of a record that belongs to a thread, if what stands in its text as it is can be told
apart there. -/
structure ThreadRecord.Plain (t : ThreadRecord) : Prop where
  thread : 0 ≤ t.thread
  init : ∀ pair ∈ t.init, IsInitPair pair
  code : IsListing t.code.toList

/-- The text of the part of a thread, with what stands as it is apart from the rest. -/
theorem toList_threadText {t : ThreadRecord} (h : 0 ≤ t.thread) (x : List Char) :
    t.text.toList ++ x = "\n[thread.".toList ++ (decimal t.thread ++ ']' ::
      ("\ninit = \x7b ".toList ++ ([',', ' '].intercalate (t.init.map initPair) ++ ([' ', '\x7d'] ++
        ("\ncode = \"\"\"\n".toList ++ (t.code.toList ++ '"' :: ("\"\"\n".toList ++ x))))))) := by
  unfold ThreadRecord.text
  simp only [String.toList_append, String.toList_intercalate, List.map_map,
    Function.comp_def, toList_toString_of_nonneg h, List.append_assoc]
  rfl

/-- The decimal digits of a thread determine the thread. -/
theorem decimal_inj {m n : Int} (hm : 0 ≤ m) (hn : 0 ≤ n) (h : decimal m = decimal n) : m = n := by
  rw [← naturalOf_decimal hm, ← naturalOf_decimal hn, h]

/-- The pairs of a thread between commas end at the space in front of the brace. -/
theorem initPairs_eq_of_append_eq {pairs pairs' : List (String × String)} {x y : List Char}
    (h : ∀ pair ∈ pairs, IsInitPair pair) (h' : ∀ pair ∈ pairs', IsInitPair pair)
    (heq : [',', ' '].intercalate (pairs.map initPair) ++ ([' ', '\x7d'] ++ x) =
      [',', ' '].intercalate (pairs'.map initPair) ++ ([' ', '\x7d'] ++ y)) :
    pairs = pairs' ∧ x = y := by
  have hstop : ∀ pair x y, IsInitPair pair → initPair pair ++ x ≠ [' ', '\x7d'] ++ y := by
    rintro ⟨register, value⟩ x y hpair hspace
    have hchars := isNameTail_of_isRegisterName hpair.1
    cases hregister : register.toList with
    | nil => exact hpair.1.ne_nil hregister
    | cons c w =>
      rw [initPair, hregister] at hspace
      obtain rfl := (List.cons.inj hspace).1
      exact absurd (hchars ' ' (by simp [hregister])) (by decide)
  have hsep : ∀ x y : List Char, [',', ' '] ++ x ≠ [' ', '\x7d'] ++ y := by
    intro x y hspace
    exact absurd (List.cons.inj hspace).1 (by decide)
  exact delimited_initPair.separated hstop hsep h h' heq

theorem delimited_threadText : Delimited ThreadRecord.Plain fun t => t.text.toList := by
  intro t t' x y h h' heq
  rw [toList_threadText h.thread, toList_threadText h'.thread] at heq
  obtain ⟨hthread, hinit⟩ := append_inj_of_stops (isNameTail_of_isDigits (isDigits_decimal t.thread))
    (isNameTail_of_isDigits (isDigits_decimal t'.thread)) (Stops.cons (by decide) _)
    (Stops.cons (by decide) _) (List.append_cancel_left heq)
  obtain ⟨hpairs, hcode⟩ := initPairs_eq_of_append_eq h.init h'.init 
    (List.append_cancel_left (List.cons.inj hinit).2)
  obtain ⟨hlisting, hrest⟩ := h.code.eq_of_append_eq h'.code (List.append_cancel_left hcode)
  refine ⟨?_, List.append_cancel_left hrest⟩
  obtain ⟨thread, init, code⟩ := t
  obtain ⟨thread', init', code'⟩ := t'
  obtain rfl : thread = thread' := decimal_inj h.thread h'.thread hthread
  obtain rfl : init = init' := hpairs
  obtain rfl : code = code' := String.toList_inj.mp hlisting
  rfl

/-! ## Records -/

/-- A record whose text can be taken apart. -/
structure Record.Plain (r : Record) : Prop where
  keys : ∀ entry ∈ r.lowered.info, IsKeyText entry.1
  threads : ∀ t ∈ r.threads, t.Plain
  assertion : r.final.assertion.Plain
  /-- The slots are those of the registers in the assertion. -/
  slots : SlotsFor r.final.assertion.registers r.final.slots

/-- The text of a record, part by part. -/
theorem toList_recordText (r : Record) :
    r.text.toList = (pairLine "arch" r.arch).toList ++ ((pairLine "name" r.name).toList ++
      (r.lowered.info.flatMap (fun entry => (pairLine entry.1 entry.2).toList) ++
        ("symbolic = [".toList ++ ([',', ' '].intercalate (r.symbols.map fun s => (quote s).toList) ++
          ([']'] ++ ('\n' :: (r.threads.flatMap (fun t => t.text.toList) ++
            ("\n[final]\n".toList ++ ((pairLine "expect" r.final.expect.word).toList ++
              (pairLine "assertion" r.final.assertion.text).toList))))))))) := by
  have hinfo : r.lowered.info.flatMap (fun entry => (pairLine entry.1 entry.2).toList) =
      r.info.flatMap fun entry => (pairLine (lowercaseAscii entry.1) entry.2).toList := by
    rw [Record.lowered, List.flatMap_map]
    rfl
  rw [hinfo]
  simp only [Record.text, String.toList_append, String.toList_join, String.toList_intercalate,
    List.flatMap_map, List.map_map, List.append_assoc, Function.comp_def]
  rfl

/-- A line with a fixed key determines its value. -/
theorem pairLine_inj {key value value' : String} {x y : List Char}
    (heq : (pairLine key value).toList ++ x = (pairLine key value').toList ++ y) :
    value = value' ∧ x = y := by
  rw [toList_pairLine, toList_pairLine] at heq
  obtain ⟨hvalue, hrest⟩ := delimited_quote value value' _ _ trivial trivial
    (List.cons.inj (List.cons.inj (List.cons.inj (List.append_cancel_left heq)).2).2).2
  exact ⟨hvalue, (List.cons.inj hrest).2⟩

/-- The quoted names between commas end at the bracket. -/
theorem symbols_eq_of_append_eq {names names' : List String} {x y : List Char}
    (heq : [',', ' '].intercalate (names.map fun s => (quote s).toList) ++ ([']'] ++ x) =
      [',', ' '].intercalate (names'.map fun s => (quote s).toList) ++ ([']'] ++ y)) :
    names = names' ∧ x = y := by
  have hstop : ∀ (s : String) (x y : List Char), True → (quote s).toList ++ x ≠ [']'] ++ y := by
    intro s x y _ h
    simp [quote] at h
  have hsep : ∀ x y : List Char, [',', ' '] ++ x ≠ [']'] ++ y := by
    intro x y h
    exact absurd (List.cons.inj h).1 (by decide)
  exact delimited_quote.separated hstop hsep (by simp) (by simp) heq

/-- The words for the verdicts differ. -/
theorem Verdict.word_inj {v v' : Verdict} (h : v.word = v'.word) : v = v' := by
  cases v <;> cases v' <;> first | rfl | exact absurd h (by decide)

/-- The text of a thread starts otherwise than the end of a record. -/
theorem threadText_ne_final {t : ThreadRecord} (h : t.Plain) (x y : List Char) :
    t.text.toList ++ x ≠ "\n[final]\n".toList ++ y := by
  rw [toList_threadText h.thread]
  simp

/-- A question is determined by its assertion and its verdict, as its slots are. -/
theorem finalState_eq {final final' : FinalState}
    (hslots : SlotsFor final.assertion.registers final.slots)
    (hslots' : SlotsFor final'.assertion.registers final'.slots)
    (hassertion : final.assertion = final'.assertion) (hexpect : final.expect = final'.expect) :
    final = final' := by
  obtain ⟨slots, assertion, expect⟩ := final
  obtain ⟨slots', assertion', expect'⟩ := final'
  obtain rfl : assertion = assertion' := hassertion
  obtain rfl : expect = expect' := hexpect
  obtain rfl : slots = slots' := hslots.unique hslots'
  rfl

/-- **The text of a plain record determines the record**, the case of its keys apart. -/
theorem Record.Plain.eq_of_text_eq {r r' : Record} (h : r.Plain) (h' : r'.Plain)
    (heq : r.text = r'.text) : r.lowered = r'.lowered := by
  have hchars := congrArg String.toList heq
  rw [toList_recordText, toList_recordText] at hchars
  -- the parts from the front, each with what is left behind it
  obtain ⟨harch, hbehindArch⟩ := pairLine_inj hchars
  obtain ⟨hname, hbehindName⟩ := pairLine_inj hbehindArch
  obtain ⟨hinfo, hbehindInfo⟩ := delimited_infoLine.list
    (fun _ _ _ hkey => infoLine_ne_symbolic hkey _ _) h.keys h'.keys hbehindName
  obtain ⟨hsymbols, hbehindSymbols⟩ := symbols_eq_of_append_eq hbehindInfo
  obtain ⟨hthreads, hbehindThreads⟩ := delimited_threadText.list
    (fun _ _ _ ht => threadText_ne_final ht _ _) h.threads h'.threads
    (List.cons.inj hbehindSymbols).2
  obtain ⟨hexpect, hlast⟩ := pairLine_inj hbehindThreads
  rw [← List.append_nil (pairLine _ r.final.assertion.text).toList,
    ← List.append_nil (pairLine _ r'.final.assertion.text).toList] at hlast
  obtain ⟨hterm, -⟩ := pairLine_inj hlast
  obtain ⟨hassertion, -⟩ := text_inj h.assertion.legible h'.assertion.legible (Stops.nil _)
    (Stops.nil _) (congrArg (·.toList ++ []) hterm)
  have hfinal := finalState_eq h.slots h'.slots hassertion (Verdict.word_inj hexpect)
  rw [Record.lowered, Record.lowered] at hinfo ⊢
  exact (Record.mk.injEq ..).mpr ⟨harch, hname, hinfo, hsymbols, hthreads, hfinal⟩

/-! ## Printed characters of a record -/

/-- A line with a key is printed if the key is. -/
theorem allPrinted_pairLine {key : String} (h : AllPrinted key.toList) (value : String) :
    AllPrinted (pairLine key value).toList := by
  rw [← List.append_nil (pairLine key value).toList, toList_pairLine]
  simp [h, IsPrinted]

theorem allPrinted_initPair {pair : String × String} (h : IsInitPair pair) :
    AllPrinted (initPair pair) := by
  have hregister : AllPrinted pair.1.toList := fun c hc =>
    isPrinted_of_isNameTail (isNameTail_of_isRegisterName h.1 c hc)
  have hvalue : AllPrinted pair.2.toList := fun c hc => (h.2 c hc).2
  simp [initPair, hregister, hvalue, IsPrinted]

theorem ThreadRecord.Plain.allPrinted {t : ThreadRecord} (h : t.Plain) :
    AllPrinted t.text.toList := by
  have hthread : AllPrinted (decimal t.thread) := fun c hc =>
    isPrinted_of_isNameTail (isNameTail_of_isDigits (isDigits_decimal t.thread) c hc)
  have hinit : AllPrinted ([',', ' '].intercalate (t.init.map initPair)) := by
    refine AllPrinted.intercalate (by simp [IsPrinted]) fun s hs => ?_
    obtain ⟨pair, hpair, rfl⟩ := List.mem_map.mp hs
    exact allPrinted_initPair (h.init pair hpair)
  rw [← List.append_nil t.text.toList, toList_threadText h.thread]
  simp [hthread, hinit, h.code.allPrinted, IsPrinted]

theorem Record.Plain.allPrinted {r : Record} (h : r.Plain) : AllPrinted r.text.toList := by
  have hinfo : AllPrinted
      (r.lowered.info.flatMap fun entry => (pairLine entry.1 entry.2).toList) :=
    AllPrinted.flatMap fun entry hentry =>
      allPrinted_pairLine (fun c hc => (h.keys entry hentry c hc).2) entry.2
  have hsymbols : AllPrinted ([',', ' '].intercalate (r.symbols.map fun s => (quote s).toList)) := by
    refine AllPrinted.intercalate (by simp [IsPrinted]) fun s hs => ?_
    obtain ⟨name, -, rfl⟩ := List.mem_map.mp hs
    exact allPrinted_quote name
  have hthreads : AllPrinted (r.threads.flatMap fun t => t.text.toList) :=
    AllPrinted.flatMap fun t ht => (h.threads t ht).allPrinted
  have hkey : ∀ key ∈ ["arch", "name", "expect", "assertion"], AllPrinted key.toList := by
    simp [IsPrinted]
  have hline : ∀ key ∈ ["arch", "name", "expect", "assertion"], ∀ value,
      AllPrinted (pairLine key value).toList := fun key hmem => allPrinted_pairLine (hkey key hmem)
  rw [toList_recordText]
  simp only [allPrinted_append, allPrinted_cons]
  exact ⟨hline _ (by simp) _, hline _ (by simp) _, hinfo, by simp [IsPrinted], hsymbols,
    by simp [IsPrinted], by decide, hthreads, by simp [IsPrinted], hline _ (by simp) _,
    hline _ (by simp) _⟩

/-! ## Records of tests that have been read -/

/-- The text of an initial value holds no quotation mark. -/
theorem Constant.Readable.initialText {constant : Constant} (h : constant.Readable) :
    ∀ c ∈ constant.initialText.toList, c ≠ '"' ∧ IsPrinted c := by
  have hname : ∀ {c : Char}, isNameTail c = true → c ≠ '"' ∧ IsPrinted c := by
    intro c hc
    refine ⟨?_, isPrinted_of_isNameTail hc⟩
    rintro rfl
    exact absurd hc (by decide)
  intro c hc
  cases constant with
  | concrete text =>
    rcases isNameTail_or_minus_of_isNumber h c hc with hc | rfl
    · exact hname hc
    · decide
  | symbolic name => exact hname (isNameTail_of_isName h c hc)
  | label thread name =>
    rw [Constant.initialText, String.toList_append] at hc
    rcases List.mem_append.mp hc with hc | hc
    · exact hname (isNameTail_of_isLabelName h.2 c hc)
    · obtain rfl : c = ':' := by simpa using hc
      decide

/-- The texts of the initial values of a thread can be told apart. -/
theorem isInitPair_initialTexts {assignments : List (Location × Constant)}
    (h : ∀ assignment ∈ assignments, assignment.1.Readable ∧ assignment.2.Readable) (thread : Int) :
    ∀ pair ∈ initialTexts thread assignments, IsInitPair pair := by
  intro pair hpair
  obtain ⟨⟨register, constant⟩, hgiven, rfl⟩ := List.mem_map.mp hpair
  obtain ⟨assignment, hmem, hassignment⟩ := List.mem_filterMap.mp hgiven
  obtain rfl := givenTo_eq_some.mp hassignment
  obtain ⟨hlocation, hconstant⟩ := h _ hmem
  exact ⟨hlocation.2, hconstant.initialText⟩

/-- The parts of the threads can be told apart. -/
theorem plain_threads {state : InitialState} {codes : List (Int × List Pseudo)}
    {threads : List ThreadRecord} (hcodes : ∀ code ∈ codes, ReadableThread code)
    (hinit : ∀ thread, ∀ pair ∈ state.ofThread thread, IsInitPair pair)
    (h : List.Forall₂ (fun code thread => ThreadRecord.ofCode state code.1 code.2 = .ok thread)
      codes threads) :
    ∀ t ∈ threads, t.Plain := by
  induction h with
  | nil => simp
  | cons hcode _ ih =>
    obtain ⟨hreadable, hrest⟩ := List.forall_mem_cons.mp hcodes
    obtain ⟨lines, hlines, rfl⟩ := ofCode_eq_ok hcode
    refine List.forall_mem_cons.mpr ⟨?_, ih hrest⟩
    exact ⟨hreadable.1, hinit _, isListing_listing hreadable.2 hlines⟩

/-- The keys of a record whose keys have been read. -/
theorem isKeyText_lowered {info : List (String × String)}
    (h : ∀ entry ∈ info, IsWord isKeyChar isKeyChar entry.1.toList) :
    ∀ entry ∈ info.map lowerKey, IsKeyText entry.1 := by
  intro entry hentry c hc
  obtain ⟨entry, hmem, rfl⟩ := List.mem_map.mp hentry
  rw [lowerKey, lowercaseAscii, String.toList_ofList] at hc
  obtain ⟨d, hd, rfl⟩ := List.mem_map.mp hc
  have hkey : ∀ d ∈ entry.1.toList, isKeyChar d = true := by
    have hword := h entry hmem
    cases hchars : entry.1.toList with
    | nil => simp
    | cons e w =>
      rw [hchars] at hword
      exact List.forall_mem_cons.mpr hword
  exact isKeyChar_toLower (hkey d hd)

/-- The record of a test that can be written is plain. -/
theorem Test.Readable.plain {test : Test} {record : Record} (h : test.Readable)
    (hrecord : test.record.outcome = .ok record) : record.Plain := by
  rw [record_outcome] at hrecord
  obtain ⟨state, hstate, hrecord⟩ := bind_eq_ok.mp hrecord
  obtain rfl := ofAssignments_eq_ok hstate
  obtain ⟨threads, final, hthreads, hfinal, rfl⟩ := recordWith_eq_ok hrecord
  refine ⟨isKeyText_lowered fun entry hentry => (h.info entry hentry).1, ?_,
    plain_finalState h.condition hfinal, slotsFor_finalState hfinal⟩
  refine plain_threads h.threads (fun thread => ?_) hthreads
  rw [ofThread_eq]
  exact isInitPair_initialTexts h.init thread

/-- What is read is a test that can be written. -/
theorem readable_of_ofText {source text : String} {test : Test}
    (h : (Test.ofText source text).outcome = .ok test) : test.Readable := by
  rw [Test.ofText] at h
  cases hread : readTest text.toList with
  | error fault =>
    rw [hread] at h
    cases h
  | ok other =>
    rw [hread] at h
    obtain rfl := Except.ok.inj h
    exact readable_of_readTest hread

/-- **The text of a record determines the record.** If two tests that have been read have records with
the same text, the records are the same up to the case of their keys. Such a text holds nothing but
line feeds, tabs and printable ASCII. -/
theorem recordText_inj {source₁ source₂ text₁ text₂ : String} {test₁ test₂ : Test}
    {record₁ record₂ : Record} (htest₁ : (Test.ofText source₁ text₁).outcome = .ok test₁)
    (htest₂ : (Test.ofText source₂ text₂).outcome = .ok test₂)
    (hrecord₁ : test₁.record.outcome = .ok record₁)
    (hrecord₂ : test₂.record.outcome = .ok record₂) :
    (record₁.text = record₂.text → record₁.lowered = record₂.lowered) ∧
      ∀ c ∈ record₁.text.toList, c = '\n' ∨ c = '\t' ∨ (32 ≤ c.toNat ∧ c.toNat ≤ 126) := by
  have hplain₁ := (readable_of_ofText htest₁).plain hrecord₁
  have hplain₂ := (readable_of_ofText htest₂).plain hrecord₂
  exact ⟨hplain₁.eq_of_text_eq hplain₂, hplain₁.allPrinted⟩

/-- The statement for two tests whose keys are `k` and `K`: the records differ, their texts do not. -/
theorem recordText_inj_keyCase : ∃ (test₁ test₂ : Test) (record₁ record₂ : Record),
    (Test.ofText "" (String.ofList test₁.render)).outcome = .ok test₁ ∧
    (Test.ofText "" (String.ofList test₂.render)).outcome = .ok test₂ ∧
    test₁.record.outcome = .ok record₁ ∧ test₂.record.outcome = .ok record₂ ∧
    record₁.info = [("k", "v")] ∧ record₂.info = [("K", "v")] ∧ record₁.text = record₂.text ∧
    record₁.lowered = record₂.lowered ∧
    ∀ c ∈ record₁.text.toList, c = '\n' ∨ c = '\t' ∨ (32 ≤ c.toNat ∧ c.toNat ≤ 126) := by
  have hread : ∀ {test : Test}, test.Readable →
      (Test.ofText "" (String.ofList test.render)).outcome = .ok test := by
    intro test h
    rw [Test.ofText, String.toList_ofList, h.readTest_render]
    rfl
  have hline : ∀ c, isSpace c = false → IsLine [c] := by
    intro c hc
    have hne : ∀ d ∈ ['\t', '\n'], d ∉ [c] := by
      simp only [List.mem_cons, List.not_mem_nil, or_false]
      rintro d (rfl | rfl) rfl <;> exact absurd hc (by decide)
    exact ⟨⟨Stops.cons hc [], Stops.cons hc []⟩, hne _ (by simp), hne _ (by simp)⟩
  have hreadable : ∀ key, IsWord isKeyChar isKeyChar key.toList →
      Test.Readable ⟨"X86", "n", [(key, "v")], [(.register 0 "r", .symbolic "y")], [(0, [])],
        .someState (.holds (.register 0 "r") (.concrete "1")), none⟩ := fun key hkey => {
    arch := (by decide : IsWord isGraphic isGraphic "X86".toList)
    name_ne_nil := (by decide : "n".toList ≠ [])
    name := by simpa using hline 'n' (by decide)
    info := List.forall_mem_singleton.mpr ⟨hkey, by simpa using hline 'v' (by decide)⟩
    init := List.forall_mem_singleton.mpr ⟨⟨by decide, (by decide : IsRegisterName "r".toList)⟩,
      (by decide : IsName "y".toList)⟩
    threads_ne_nil := List.cons_ne_nil _ _
    threads := List.forall_mem_singleton.mpr ⟨by decide, by simp⟩
    column := by simp
    condition := .holds ⟨by decide, (by decide : IsRegisterName "r".toList)⟩ trivial
      (.inl (.inl (by decide : IsDigits "1".toList))) }
  have htest₁ := hread (hreadable "k" (by decide))
  have htest₂ := hread (hreadable "K" (by decide))
  have hresult := recordText_inj htest₁ htest₂ rfl rfl
  exact ⟨_, _, _, _, htest₁, htest₂, rfl, rfl, rfl, rfl, rfl, hresult.1 rfl, hresult.2⟩

end Litmus
