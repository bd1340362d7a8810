import Litmus.Proofs.Assignments
import Litmus.Proofs.Comments
import Litmus.Proofs.Preamble

/-!
# Initial states in their place

An initial state between the braces of a test. The lines of the test are trimmed first, so what is
read is a trimmed text of the initial state. It is still written for the same assignments: trimming
takes blanks between words, and where blanks keep two words apart it leaves one of them.

* **`WrittenAssignment.trimmed`**, **`WrittenInit.trimmed`**: trimming the lines of what is written
  leaves what is written for the same.
* **`AwaitsInit`**: a text behind which a brace opens the initial state.
* **`readAround`**: the test that stands around an initial state, which is not read.
* **`readTest_initial`**: the test that is read is the one around its initial state, with the written
  assignments.
-/

namespace Litmus.Source

open Litmus.Text

/-! ## Trimmed assignments -/

theorem WrittenPair.thinned {a : Location × Constant} {s s' : List Char} (h : WrittenPair a s)
    (hs : Thinned s s') : WrittenPair a s' := by
  cases h with
  | pair hplace hu hv hvalue =>
    obtain ⟨place', u', v', t', rfl, hplace', hu', hv', ht'⟩ := hs.of_around (by decide)
    obtain rfl := ht'.word hvalue.isSpace
    exact .pair (hplace.thinned hplace') (hu'.blanks hu) (hv'.blanks hv) hvalue

/-- Blanks between a type and a location do not all stand at a margin: a line feed is left, or what
stands around it. -/
theorem WrittenAssignment.trimmed {a : Location × Constant} {s s' : List Char}
    (h : WrittenAssignment a s) (hs : Trimmed isMargin s s') : WrittenAssignment a s' := by
  cases h with
  | untyped h => exact .untyped (h.thinned hs.thinned)
  | @typed w u t hw hu hgap hbracket h =>
    have hword : ∀ c ∈ w, isMargin c = false ∧ c ≠ '\n' := by
      intro c hc
      have hspace := isSpace_of_isNameTail (isNameTail_of_isName hw c hc)
      exact ⟨by simp [isMargin, hspace], ne_newline hspace⟩
    obtain ⟨b, rfl, hb⟩ := hs.of_append hword
    obtain ⟨u', t', rfl, hu', ht'⟩ := hb.thinned.of_append
    -- the gap matters only where no blank is left, and then there was none
    obtain ⟨c, r, rfl, hc⟩ := h.head
    obtain ⟨r', rfl, -⟩ := ht'.of_cons (.inl (isSpace_of_startsProposition hc))
    refine .typed hw (hu'.blanks hu) (fun hnil => ?_) hbracket (h.thinned ht')
    cases u with
    | nil => exact Stops.cons (hgap rfl c rfl) r'
    | cons d u =>
      -- the location would stand where there was a blank
      exfalso
      rw [hnil, List.nil_append] at hb
      have hspace := isSpace_of_startsProposition hc
      have hblank := isSpace_of_isBlank (hu d (by simp))
      rcases hb.cases with ⟨e, x, y, heq, -, he, hline, -⟩ | ⟨-, hpause⟩
      · obtain rfl := (List.cons.inj heq).1
        simp [isMargin, hblank, hline] at he
      · exact hpause.head?_ne (by simp [isMargin, hspace]) (ne_newline hspace) rfl

theorem Thinned.of_concat {u u' : List Char} {m : Char} (h : Thinned (u ++ [m]) (u' ++ [m]))
    (hm : isSpace m = false) : Thinned u u' := by
  obtain ⟨x, y, heq, hx, hy⟩ := h.of_append
  obtain rfl := hy.word (by simpa using hm)
  rwa [List.append_cancel_right heq]

theorem Trimmed.of_concat {a t : List Char} {m : Char} (h : Trimmed isMargin (a ++ [m]) t)
    (hm : isSpace m = false) : ∃ a', t = a' ++ [m] ∧ Trimmed isMargin (a ++ [m]) (a' ++ [m]) := by
  obtain ⟨a', b', rfl, ha, hb⟩ := h.of_mark (by simp [isMargin, hm]) (ne_newline hm)
  cases hb
  exact ⟨a', rfl, ha⟩

/-- In front of a mark, what starts and ends with no space is trimmed on its own. -/
theorem Trimmed.of_flush {u t v s : List Char} {m : Char} (hm : isSpace m = false) (hne : t ≠ [])
    (ht : Flush t) (h : Trimmed isMargin (u ++ (t ++ v) ++ [m]) (s ++ [m])) :
    ∃ u' t' v', s = u' ++ (t' ++ v') ∧ Thinned u u' ∧ Trimmed isMargin t t' ∧ Thinned v v' := by
  have hmargin : ∀ {c : Char}, isSpace c = false → isMargin c = false := fun hc => by
    simp [isMargin, hc]
  -- the text is cut in front of the first character of `t` and behind the last, and both are kept
  obtain ⟨c, r, rfl⟩ := List.exists_cons_of_ne_nil hne
  obtain ⟨x, d, hlast⟩ : ∃ x d, c :: r = x ++ [d] :=
    ⟨_, _, (List.dropLast_concat_getLast hne).symm⟩
  have hc : isSpace c = false := ht.1 c rfl
  have hd : isSpace d = false := ht.2 d (by rw [hlast]; simp)
  have hfirst : u ++ (c :: r ++ v) ++ [m] = u ++ c :: (r ++ (v ++ [m])) := by simp
  rw [hfirst] at h
  obtain ⟨u', b, heq, hu, hb⟩ := h.of_mark (hmargin hc) (ne_newline hc)
  have hrest := Trimmed.keep c hb
  have hsecond : c :: (r ++ (v ++ [m])) = x ++ d :: (v ++ [m]) := by
    rw [← List.cons_append, hlast, List.append_assoc]
    rfl
  rw [hsecond] at hrest
  obtain ⟨x', b', heq', hx, hb'⟩ := hrest.of_mark (hmargin hd) (ne_newline hd)
  obtain ⟨v', rfl, hv⟩ := hb'.of_concat hm
  refine ⟨u', x' ++ [d], v', ?_, hu.thinned.of_concat hc, by rwa [hlast], hv.thinned.of_concat hm⟩
  refine (List.append_left_inj [m]).mp ?_
  rw [heq, heq']
  simp

theorem WrittenSlot.trimmed {slot : Option (Location × Constant)} {s s' : List Char} {m : Char}
    (h : WrittenSlot slot s) (hm : isSpace m = false)
    (hs : Trimmed isMargin (s ++ [m]) (s' ++ [m])) : WrittenSlot slot s' := by
  cases h with
  | empty hu => exact .empty ((hs.thinned.of_concat hm).blanks hu)
  | assignment hu h hv =>
    obtain ⟨c, r, hhead, -⟩ := h.head
    obtain ⟨u', t', v', rfl, hu', ht', hv'⟩ := Trimmed.of_flush hm (by simp [hhead]) h.flush hs
    exact .assignment (hu'.blanks hu) (h.trimmed ht') (hv'.blanks hv)

theorem trimmed_slots {slots : List (Option (Location × Constant))} {pieces : List (List Char)}
    {w : List Char} {m : Char} (h : List.Forall₂ WrittenSlot slots pieces) (hne : pieces ≠ [])
    (hm : isSpace m = false) (hw : Trimmed isMargin (joinWith ';' pieces ++ [m]) (w ++ [m])) :
    ∃ pieces', pieces' ≠ [] ∧ List.Forall₂ WrittenSlot slots pieces' ∧ w = joinWith ';' pieces' := by
  -- behind each piece stands a mark that is kept: its semicolon, and `m` behind the last one
  induction h generalizing w with
  | nil => exact absurd rfl hne
  | @cons slot piece slots pieces hslot hslots ih =>
    by_cases hlast : pieces = []
    · obtain rfl := hlast
      cases hslots
      exact ⟨[w], by simp, .cons (hslot.trimmed hm hw) .nil, rfl⟩
    · rw [joinWith_cons ';' piece hlast, List.append_assoc, List.cons_append] at hw
      obtain ⟨piece', b, heq, hpiece, hb⟩ := hw.of_mark (by decide) (by decide)
      obtain ⟨rest, rfl, hrest⟩ := hb.of_concat hm
      obtain ⟨pieces', hne', hslots', rfl⟩ := ih hlast hrest
      refine ⟨piece' :: pieces', by simp, .cons (hslot.trimmed (by decide) hpiece) hslots', ?_⟩
      rw [joinWith_cons ';' piece' hne']
      exact (List.append_left_inj [m]).mp (by simpa using heq)

/-- Trimming the lines of an initial state leaves its assignments as they are. -/
theorem WrittenInit.trimmed {init : List (Location × Constant)} {w w' : List Char} {m : Char}
    (h : WrittenInit init w) (hm : isSpace m = false)
    (hw : Trimmed isMargin (w ++ [m]) (w' ++ [m])) : WrittenInit init w' := by
  cases h with
  | slots hne h =>
    obtain ⟨pieces', hne', h', rfl⟩ := trimmed_slots h hne hm hw
    exact .slots hne' h'

/-! ## The lines of an initial state -/

theorem tidy_append_line {p : List Char} (hp : '\n' ∉ p) (x : List Char) {c : Char}
    (hc : isSpace c = false) : tidy (x ++ c :: p) = tidy (x ++ [c]) ++ trimEnd p := by
  -- the lines in front of the last one are trimmed on their own, one after the other
  by_cases h : '\n' ∈ x
  · obtain ⟨a, y, rfl, -⟩ := List.eq_append_cons_of_mem h
    rw [List.append_assoc, List.cons_append, tidy_append, tidy_append_line hp y hc, List.append_assoc,
      List.cons_append, tidy_append, List.append_assoc, List.cons_append]
  · have hflush : Flush [c] := ⟨Stops.cons hc [], Stops.cons hc []⟩
    have htrim := trim_append (by simp) hflush x
    have hline : '\n' ∉ [c] ++ p := by simp [hp, (ne_newline hc).symm]
    have hwhole := htrim p
    have hstart := htrim []
    rw [List.append_nil] at hstart
    rw [← List.singleton_append, tidy_of_line (by simpa using ⟨h, (ne_newline hc).symm, hp⟩), hwhole,
      tidy_of_line (by simpa using ⟨h, (ne_newline hc).symm⟩), hstart]
    simp [trimEnd]
termination_by x.length
decreasing_by
  subst_vars
  simp only [List.length_append, List.length_cons]
  omega

/-- What stands behind a mark on its line and on the lines after it is trimmed on its own, but for the
spaces `u` right behind the mark. -/
theorem exists_tidy_append (p : List Char) : ∃ q,
    (∀ (x : List Char) {c : Char}, isSpace c = false → tidy (x ++ c :: p) = tidy (x ++ [c]) ++ q) ∧
    ∃ u line rest, (∀ c ∈ u, isSpace c = true) ∧ splitAt '\n' q = (u ++ line) :: rest ∧
      (splitAt '\n' p).map trim = line :: rest := by
  -- a line that is trimmed at its end still has its spaces in front
  have hspaces : ∀ line, ∃ u, (∀ c ∈ u, isSpace c = true) ∧ trimEnd line = u ++ trim line := by
    intro line
    refine ⟨(trimEnd line).takeWhile isSpace, fun c hc => List.mem_takeWhile_imp hc, ?_⟩
    rw [← trimStart_trimEnd, trimStart, List.takeWhile_append_dropWhile]
  by_cases h : '\n' ∈ p
  · obtain ⟨line, rest, rfl, hline⟩ := List.eq_append_cons_of_mem h
    obtain ⟨u, hu, htrim⟩ := hspaces line
    have hend : '\n' ∉ trimEnd line := fun hmem => hline ((thinned_trimEnd hline).sublist.subset hmem)
    refine ⟨trimEnd line ++ '\n' :: tidy rest, fun x c hc => ?_, u, trim line,
      (splitAt '\n' rest).map trim, hu, ?_, ?_⟩
    · have hsplit : x ++ c :: (line ++ '\n' :: rest) = (x ++ c :: line) ++ '\n' :: rest := by simp
      rw [hsplit, tidy_append, tidy_append_line hline x hc, List.append_assoc]
    · rw [splitAt, splitWhen_append (by simp), ← splitAt, ← splitAt, splitAt_of_not_mem hend, htrim,
        splitAt_tidy]
      rfl
    · rw [splitAt, splitWhen_append (by simp), ← splitAt, ← splitAt, splitAt_of_not_mem hline]
      rfl
  · obtain ⟨u, hu, htrim⟩ := hspaces p
    have hend : '\n' ∉ trimEnd p := fun hmem => h ((thinned_trimEnd h).sublist.subset hmem)
    refine ⟨trimEnd p, fun x _ hc => tidy_append_line h x hc, u, trim p, [], hu, ?_, ?_⟩
    · rw [splitAt_of_not_mem hend, htrim]
    · rw [splitAt_of_not_mem h]
      rfl

/-- A text behind which a brace opens the initial state: no comment is open, there is a header, the line
of the brace is blank up to the brace, and no line in between starts with a brace. -/
structure AwaitsInit (s : List Char) : Prop where
  closed : ¬ ['(', '*'] <:+: dropComments s
  lines : ∃ header lines, skipBlankLines (textLines s) = header :: (lines ++ [[]]) ∧
    ∀ line ∈ lines, opensInit line = false

theorem dropComments_init {init : List (Location × Constant)} {s w post : List Char}
    (hs : ¬ ['(', '*'] <:+: dropComments s) (hw : WrittenInit init w) :
    dropComments (s ++ '\x7b' :: (w ++ '\x7d' :: post))
      = dropComments s ++ '\x7b' :: (w ++ '\x7d' :: dropComments post) := by
  have hstar : '*' ∉ w := Foreign.not_mem_init (by decide) hw (by decide)
  have hopen : ¬ ['(', '*'] <:+: dropComments w := by
    rw [dropComments_of_no_star hstar]
    exact fun h => hstar (h.subset (by simp))
  rw [dropComments_append hs (by simp), dropComments_cons (.inl (by decide)),
    dropComments_append hopen (by simp), dropComments_of_no_star hstar,
    dropComments_cons (.inl (by decide))]

/-- Lines behind a blank end of a text follow its lines. -/
theorem map_trim_splitAt_append {s : List Char} {lines : List (List Char)}
    (h : (splitAt '\n' s).map trim = lines ++ [[]]) (x : List Char) :
    (splitAt '\n' (s ++ x)).map trim = lines ++ (splitAt '\n' x).map trim := by
  -- the last line of the text is blank, so what follows on it is trimmed as a line of its own
  obtain ⟨pieces, last, hsplit, rfl, hlast⟩ := List.map_eq_append_iff.mp h
  obtain ⟨u, _, rfl, hu, hnil⟩ := List.map_eq_cons_iff.mp hlast
  obtain rfl := List.map_eq_nil_iff.mp hnil
  have hspaces := trim_eq_nil.mp hu
  have hu' : '\n' ∉ u := newline_of_mem_splitAt (s := s) (by rw [hsplit]; simp)
  have hline : (splitAt '\n' (u ++ x)).map trim = (splitAt '\n' x).map trim :=
    (trimmed_after (isMargin_of_isSpace hspaces hu') hu' (.refl ('\n' :: x))).map_trim_splitAt
  have hs : joinWith '\n' (splitAt '\n' s) = s := joinWith_splitWhen '\n' s
  rw [hsplit] at hs
  by_cases hpieces : pieces = []
  · rw [hpieces, List.nil_append] at hs
    rw [← hs, hpieces]
    exact hline
  · have hmem : ∀ piece ∈ pieces, '\n' ∉ piece := fun piece hpiece =>
      newline_of_mem_splitAt (s := s) (by rw [hsplit]; simp [hpiece])
    rw [joinWith_append '\n' hpieces (by simp)] at hs
    have hwhole : s ++ x = joinWith '\n' pieces ++ '\n' :: (u ++ x) := by
      rw [← hs]
      simp [joinWith]
    rw [hwhole, splitAt, splitWhen_append (by simp), List.map_append, ← splitAt, ← splitAt, hline,
      splitAt_joinWith hpieces hmem]

/-- The lines of a text with an initial state: those in front of the brace, and the lines of what starts
there. -/
theorem skipBlankLines_init {init : List (Location × Constant)} {s w header : List Char}
    {lines : List (List Char)} (hs : ¬ ['(', '*'] <:+: dropComments s)
    (hlines : skipBlankLines (textLines s) = header :: (lines ++ [[]])) (hw : WrittenInit init w)
    (post : List Char) : skipBlankLines (textLines (s ++ '\x7b' :: (w ++ '\x7d' :: post))) = header :: (lines ++
      (splitAt '\n' ('\x7b' :: (w ++ '\x7d' :: dropComments post))).map trim) := by
  have hnonblank : header ≠ [] := ne_nil_of_skipBlankLines hlines
  -- the blank lines in front of the header stay in front of it
  obtain ⟨front, hfront⟩ : ∃ front, textLines s = front ++ header :: (lines ++ [[]]) := by
    refine ⟨(textLines s).takeWhile (·.isEmpty), ?_⟩
    rw [← hlines, skipBlankLines, List.takeWhile_append_dropWhile]
  have hend : textLines s = (front ++ header :: lines) ++ [[]] := by rw [hfront]; simp
  have hmem : ∃ line ∈ front ++ header :: lines, line ≠ [] := ⟨header, by simp, hnonblank⟩
  have hskip : skipBlankLines (front ++ header :: lines) = header :: lines := by
    rw [hend, skipBlankLines_append hmem] at hlines
    exact (List.append_left_inj [[]]).mp (by simpa using hlines)
  rw [textLines, dropComments_init hs hw, map_trim_splitAt_append hend, skipBlankLines_append hmem,
    hskip, List.cons_append]

/-! ## The parts in front of the brace -/

section

variable {lines : List (List Char)} {b : List Char} (bs : List (List Char))

theorem skipBlankLines_append_cons (lines : List (List Char)) (hb : b ≠ []) :
    skipBlankLines (lines ++ b :: bs) = skipBlankLines lines ++ b :: bs := by
  by_cases h : ∃ line ∈ lines, line ≠ []
  · exact skipBlankLines_append h (b :: bs)
  · have hblank : ∀ line ∈ lines, line.isEmpty = true := fun line hline => by
      by_contra hne
      exact h ⟨line, hline, by simpa using hne⟩
    rw [skipBlankLines, skipBlankLines, List.dropWhile_append_of_pos hblank,
      List.dropWhile_eq_nil_iff.mpr hblank, List.dropWhile_cons_of_neg (by simpa using hb),
      List.nil_append]

theorem ne_nil_of_opensInit (hb : opensInit b = true) : b ≠ [] := by
  rintro rfl
  exact absurd hb (by decide)

/-- The line of the brace is no documentation string. -/
theorem takeDoc_append_brace (lines : List (List Char)) (hb : opensInit b = true) :
    takeDoc (lines ++ b :: bs) = (takeDoc lines).map fun (doc, rest) => (doc, rest ++ b :: bs) := by
  have hne := ne_nil_of_opensInit hb
  have hquote : b.head? ≠ some '"' := by
    rw [opensInit, decide_eq_true_eq] at hb
    rw [hb]
    decide
  rw [takeDoc, skipBlankLines_append_cons bs lines hne, takeDoc]
  cases skipBlankLines lines with
  | nil => simp only [List.nil_append, if_neg hquote, Except.map]
  | cons line rest =>
    rw [List.cons_append]
    by_cases hline : line.head? = some '"'
    · simp only [if_pos hline]
      cases shaped .doc (doc? ∘ expandTabs) line with
      | error fault => rfl
      | ok doc =>
        show Except.ok _ = Except.ok _
        rw [skipBlankLines_append_cons bs rest hne]
    · simp only [if_neg hline, Except.map, List.cons_append]

/-- The keys stand in front of the line of the brace. -/
theorem infoOf_append_brace (hlines : ∀ line ∈ lines, opensInit line = false)
    (hb : opensInit b = true) : infoOf (lines ++ b :: bs) = infoOf lines := by
  have hall : ∀ line ∈ lines, (!opensInit line) = true := fun line hline => by simp [hlines line hline]
  have hself : lines.takeWhile (fun line => !opensInit line) = lines :=
    List.takeWhile_eq_self_iff.mpr hall
  rw [infoOf, List.takeWhile_append_of_pos hall, List.takeWhile_cons_of_neg (by simp [hb]),
    List.append_nil, infoOf, hself]

/-- The initial state starts at the line of the brace. -/
theorem braced_append_brace (hlines : ∀ line ∈ lines, opensInit line = false)
    (hb : opensInit b = true) {w q : List Char} (hw : '\x7d' ∉ w)
    (hjoin : joinWith '\n' (b :: bs) = '\x7b' :: (w ++ '\x7d' :: q)) :
    braced (lines ++ b :: bs) = .ok (w, q) := by
  have hall : ∀ line ∈ lines, (!opensInit line) = true := fun line hline => by simp [hlines line hline]
  have hclose : ∀ c ∈ w, (c != '\x7d') = true := bne_of_not_mem hw
  rw [braced, List.dropWhile_append_of_pos hall, List.dropWhile_cons_of_neg (by simp [hb]), hjoin]
  simp [List.takeWhile_append_of_pos hclose, List.dropWhile_append_of_pos hclose]

end

theorem opensInit_of_joinWith {b r : List Char} {bs : List (List Char)}
    (h : joinWith '\n' (b :: bs) = '\x7b' :: r) : opensInit b = true := by
  cases b with
  | nil =>
    cases bs with
    | nil => cases h
    | cons next bs => exact absurd (List.cons.inj h).1 (by decide)
  | cons c b =>
    have hc : c = '\x7b' := by
      cases bs with
      | nil => exact (List.cons.inj h).1
      | cons next bs => exact (List.cons.inj h).1
    simp [opensInit, hc]

/-- What the lines in front of an initial state give: a preamble without assignments. -/
def readHead (lines : List (List Char)) : Except Fault Preamble := do
  match lines with
  | [] => throw .empty
  | line :: rest =>
    let (arch, name) ← shaped .header header? line
    if name.isEmpty then throw (.missingName (String.ofList line))
    let (doc, rest) ← takeDoc rest
    let info ← infoOf rest
    return ⟨String.ofList arch, String.ofList name, info, [], doc⟩

/-- Between its braces an initial state gives its assignments, and it changes nothing else. -/
theorem readPreamble_brace (header : List Char) {lines bs : List (List Char)} {b w q : List Char}
    {init : List (Location × Constant)} (hlines : ∀ line ∈ lines, opensInit line = false)
    (hw : WrittenInit init w) (hjoin : joinWith '\n' (b :: bs) = '\x7b' :: (w ++ '\x7d' :: q)) :
    readPreamble (header :: (lines ++ b :: bs))
      = (readHead (header :: lines)).map fun p => ({ p with init := init }, splitAt '\n' q) := by
  have hb := opensInit_of_joinWith hjoin
  have hclose : '\x7d' ∉ w := Foreign.not_mem_init (by decide) hw (by decide)
  unfold readPreamble readHead
  dsimp only
  cases shaped .header header? header with
  | error fault => rfl
  | ok read =>
    obtain ⟨arch, name⟩ := read
    simp only [bind, Except.bind]
    cases name.isEmpty with
    | true => rfl
    | false =>
      simp only [Bool.false_eq_true, if_false, takeDoc_append_brace bs lines hb]
      cases hdoc : takeDoc lines with
      | error fault => rfl
      | ok read =>
        obtain ⟨doc, rest⟩ := read
        have hrest : ∀ line ∈ rest, opensInit line = false := fun line hline =>
          hlines line (takeDoc_subset hdoc hline)
        have hbraced := braced_append_brace bs hrest hb hclose hjoin
        show (infoOf (rest ++ b :: bs) >>= _) = (infoOf rest >>= _).map _
        rw [infoOf_append_brace bs hrest hb]
        cases infoOf rest with
        | error fault => rfl
        | ok info =>
          show (braced (rest ++ b :: bs) >>= _) = _
          rw [hbraced]
          simp only [bind, Except.bind, readInit_written hw]
          rfl

/-! ## Behind the closing brace -/

section

variable {u line : List Char} (rest : List (List Char))

/-- Spaces in front of the first line change neither the rows of a table nor the condition. -/
theorem tableRows_spaces (hu : ∀ c ∈ u, isSpace c = true) :
    tableRows ((u ++ line) :: rest) = tableRows (line :: rest) := by
  have htrim := trim_spaces_append hu line
  cases hstart : startsCondition (trim line) with
  | true =>
    rw [tableRows, tableRows, List.takeWhile_cons_of_neg (by simp [htrim, hstart]),
      List.takeWhile_cons_of_neg (by simp [hstart])]
  | false =>
    rw [tableRows, tableRows, List.takeWhile_cons_of_pos (by simp [htrim, hstart]),
      List.takeWhile_cons_of_pos (by simp [hstart]), List.map_cons, List.map_cons, htrim]

theorem readCondition_spaces (hu : ∀ c ∈ u, isSpace c = true) :
    readCondition (afterTable ((u ++ line) :: rest)) = readCondition (afterTable (line :: rest)) := by
  have htrim := trim_spaces_append hu line
  cases hstart : startsCondition (trim line) with
  | true =>
    -- the line is the first of the condition, and that is trimmed as a whole
    have hjoin : joinWith '\n' ((u ++ line) :: rest) = u ++ joinWith '\n' (line :: rest) := by
      cases rest with
      | nil => rfl
      | cons next rest =>
        have hne : next :: rest ≠ [] := List.cons_ne_nil next rest
        rw [joinWith_cons '\n' _ hne, joinWith_cons '\n' _ hne, List.append_assoc]
    rw [afterTable, afterTable, List.dropWhile_cons_of_neg (by simp [htrim, hstart]),
      List.dropWhile_cons_of_neg (by simp [hstart]), readCondition, readCondition, hjoin,
      trim_spaces_append hu]
  | false =>
    rw [afterTable, afterTable, List.dropWhile_cons_of_pos (by simp [htrim, hstart]),
      List.dropWhile_cons_of_pos (by simp [hstart])]

end

/-! ## The test that is read -/

/-- The test around an initial state, with no assignments: the lines of `s` in front of the opening
brace give its header, its documentation string and its keys, and those of `post` its table and its
condition. -/
def readAround (s post : List Char) : Except Fault Test := do
  let p ← readHead (skipBlankLines (textLines s)).dropLast
  let threads ← readTable (tableRows (textLines post))
  let condition ← readCondition (afterTable (textLines post))
  return p.test threads condition

/-- The lines of an initial state hold its trimmed text between the braces; what stands behind them are
the lines of `post`, but for the spaces `u` behind the closing brace. -/
theorem exists_tidy_init {init : List (Location × Constant)} {w : List Char}
    (hw : WrittenInit init w) (post : List Char) : ∃ w' q u line rest, WrittenInit init w' ∧
      tidy ('\x7b' :: (w ++ '\x7d' :: post)) = '\x7b' :: (w' ++ '\x7d' :: q) ∧
      (∀ c ∈ u, isSpace c = true) ∧ splitAt '\n' q = (u ++ line) :: rest ∧
      (splitAt '\n' post).map trim = line :: rest := by
  obtain ⟨q, hq, u, line, rest, hu, hbehind, hpost⟩ := exists_tidy_append post
  have htidy : Trimmed isMargin ('\x7b' :: (w ++ ['\x7d'])) (tidy ('\x7b' :: (w ++ ['\x7d']))) :=
    trimmed_tidy (Stops.cons (by decide) _)
  obtain ⟨t, heq, ht⟩ := htidy.of_cons (by decide) (by decide)
  obtain ⟨w', rfl, hw'⟩ := ht.of_concat (by decide)
  refine ⟨w', q, u, line, rest, hw.trimmed (by decide) hw', ?_, hu, hbehind, hpost⟩
  have hsplit := hq ('\x7b' :: w) (c := '\x7d') (by decide)
  rw [List.cons_append, List.cons_append, heq] at hsplit
  rw [hsplit]
  simp

/-- **Initial assignments are read, whatever their types and their layout.** The text between the braces
is read as the written assignments, in their order, and a text with that initial state is read as the
test around it with these assignments. It fails only where what stands around the initial state does. -/
theorem readTest_initial {s w post : List Char} {init : List (Location × Constant)} (hs : AwaitsInit s)
    (hw : WrittenInit init w) :
    readInit w = .ok init ∧
    readTest (s ++ '\x7b' :: (w ++ '\x7d' :: post))
      = (readAround s post).map fun test => { test with init := init } := by
  refine ⟨readInit_written hw, ?_⟩
  obtain ⟨header, lines, hheader, hlines⟩ := hs.lines
  obtain ⟨w', q, u, line, rest, hw', htidy, hu, hbehind, hpost⟩ :=
    exists_tidy_init hw (dropComments post)
  obtain ⟨pieces, hpieces⟩ := splitAt_eq_cons '\n' ('\x7b' :: (w ++ '\x7d' :: dropComments post))
  have hskip := skipBlankLines_init hs.closed hheader hw post
  rw [tidy, hpieces] at htidy
  rw [hpieces] at hskip
  have hfront : (header :: (lines ++ [[]])).dropLast = header :: lines := by
    rw [← List.cons_append, List.dropLast_concat]
  rw [readTest_eq_preamble, hskip, List.map_cons, readPreamble_brace header hlines hw' htidy, readAround,
    hheader, hfront, textLines, hpost, hbehind]
  cases readHead (header :: lines) with
  | error fault => rfl
  | ok p =>
    -- neither the table nor the condition depends on the assignments
    show (readTable (tableRows ((u ++ line) :: rest)) >>= fun threads =>
        readCondition (afterTable ((u ++ line) :: rest)) >>= _)
      = (readTable (tableRows (line :: rest)) >>= _).map _
    rw [tableRows_spaces rest hu, readCondition_spaces rest hu]
    cases readTable (tableRows (line :: rest)) with
    | error fault => rfl
    | ok threads =>
      show (readCondition (afterTable (line :: rest)) >>= _)
        = (readCondition (afterTable (line :: rest)) >>= _).map _
      cases readCondition (afterTable (line :: rest)) <;> rfl

/-- A number behind a type, a label of a thread behind a type on a line of its own, and a name for a
cell of what could be a type, with an empty assignment in between. -/
theorem readTest_initial_types :
    readTest ("X86 T\n".toList ++ '\x7b' ::
        ("int x = -0x1 ;;\n u64\n 0:X1 = P0:L; int[2]=P0".toList ++ '\x7d' ::
          "  P0 ;\n NOP ;\nexists (x=1)\n".toList))
      = .ok {
        arch := "X86"
        name := "T"
        info := []
        init := [(.global (.symbolic "x"), .concrete "-0x1"), (.register 0 "X1", .label 0 "L"),
          (.cell (.symbolic "int") 2, .symbolic "P0")]
        threads := [(0, [.instruction "NOP"])]
        condition := .someState (.holds (.global (.symbolic "x")) (.concrete "1"))
        doc := none } := by
  have hawaits : AwaitsInit "X86 T\n".toList := by
    have hdrop : dropComments "X86 T\n".toList = "X86 T\n".toList :=
      dropComments_of_no_star (by decide)
    refine ⟨?_, "X86 T".toList, [], ?_, by simp⟩
    · rw [hdrop]
      exact fun h => absurd (h.subset (List.mem_cons_self ..)) (by decide)
    · rw [textLines, hdrop]
      rfl
  have hnumber : WrittenPair (.global (.symbolic "x"), .concrete "-0x1") "x = -0x1".toList :=
    @WrittenPair.pair _ _ ['x'] [' '] [' '] "-0x1".toList (@WrittenLocation.name _ ['x'] (by decide) trivial)
      (by decide) (by decide)
      (@WrittenConstant.concrete "-0x1".toList (.inr ⟨_, rfl, .inr ⟨['1'], rfl, by decide⟩⟩))
  have hlabel : WrittenPair (.register 0 "X1", .label 0 "L") "0:X1 = P0:L".toList :=
    @WrittenPair.pair _ _ "0:X1".toList [' '] [' '] "P0:L".toList
      (.marked (@WrittenMarked.register ['0'] [] [] "X1".toList (by decide) Blanks.nil Blanks.nil (by decide)))
      (by decide) (by decide) (@WrittenConstant.label ['0'] ['L'] (by decide) (by decide))
  have hcell : WrittenPair (.cell (.symbolic "int") 2, .symbolic "P0") "int[2]=P0".toList :=
    @WrittenPair.pair _ _ "int[2]".toList [] [] "P0".toList
      (@WrittenLocation.cell _ "int".toList [] [] [] ['2'] (by decide) trivial Blanks.nil Blanks.nil
        (by decide) Blanks.nil)
      Blanks.nil Blanks.nil (@WrittenConstant.symbolic "P0".toList (by decide))
  have hfirst : WrittenSlot (some (.global (.symbolic "x"), .concrete "-0x1")) "int x = -0x1 ".toList :=
    @WrittenSlot.assignment _ [] "int x = -0x1".toList [' '] Blanks.nil
      (@WrittenAssignment.typed _ "int".toList [' '] _ (by decide) (by decide) (by simp) (by decide) hnumber)
      (by decide)
  have hsecond : WrittenSlot (some (.register 0 "X1", .label 0 "L")) "\n u64\n 0:X1 = P0:L".toList :=
    @WrittenSlot.assignment _ ['\n', ' '] "u64\n 0:X1 = P0:L".toList [] (by decide)
      (@WrittenAssignment.typed _ "u64".toList ['\n', ' '] _ (by decide) (by decide) (by simp) (by decide)
        hlabel) Blanks.nil
  have hthird : WrittenSlot (some (.cell (.symbolic "int") 2, .symbolic "P0")) " int[2]=P0".toList :=
    @WrittenSlot.assignment _ [' '] "int[2]=P0".toList [] (by decide) (.untyped hcell) Blanks.nil
  have hinit : WrittenInit [(.global (.symbolic "x"), .concrete "-0x1"), (.register 0 "X1", .label 0 "L"),
      (.cell (.symbolic "int") 2, .symbolic "P0")]
      "int x = -0x1 ;;\n u64\n 0:X1 = P0:L; int[2]=P0".toList :=
    @WrittenInit.slots [some _, none, some _, some _] ["int x = -0x1 ".toList, [],
      "\n u64\n 0:X1 = P0:L".toList, " int[2]=P0".toList] (by simp)
      (.cons hfirst (.cons (.empty Blanks.nil) (.cons hsecond (.cons hthird .nil))))
  have haround : readAround "X86 T\n".toList "  P0 ;\n NOP ;\nexists (x=1)\n".toList
      = .ok ⟨"X86", "T", [], [], [(0, [.instruction "NOP"])],
        .someState (.holds (.global (.symbolic "x")) (.concrete "1")), none⟩ := by
    with_unfolding_all rfl
  rw [(readTest_initial hawaits hinit).2, haround]
  rfl

end Litmus.Source
