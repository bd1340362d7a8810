import Litmus.Proofs.Placement
import Litmus.Proofs.TrimmedCondition

/-!
# Where the condition is looked for

The condition starts at the first line that looks like its beginning, and is then read from that line
on. The two agree on where it starts: a text that is a condition on its own is that condition behind
every table, wherever its lines are broken outside of strings. There is one place where they do not. A
tilde that is alone on its line does not look like a beginning, though the word for some state may
stand on a later line. Such a tilde is a row of the table, and the condition goes without it.

* **`breaksQuantifier`**: a line ends between a tilde and what follows it.
* **`startsCondition_of_condition?`**: the first line of any other condition is found.
* **`readCondition_unbroken`**, **`readCondition_broken`**: what is read from the lines of a condition.
* **`readTable_tilde`**: what a tilde on a row of its own adds to a table.
* **`readTest_append`**: what is read from a text that goes on behind its table.
-/

namespace Litmus.Source

open Litmus.Text

/-! ## Keywords and words -/

/-- What starts a text that is cut into pieces is ASCII, and no dollar sign. -/
theorem ascii_of_pieces? {c : Char} {s : List Char} {pieces : List Piece}
    (h : pieces? (c :: s) = some pieces) : c.toNat < 0x80 ∧ c ≠ '$' := by
  have hname : ∀ {d : Char}, isNameTail d = true → d.toNat < 0x80 ∧ d ≠ '$' := by
    intro d hd
    have hrange := toNat_of_isNameTail hd
    refine ⟨by omega, ?_⟩
    rintro rfl
    exact absurd hd (by decide)
  by_cases hblank : isBlank c = true
  · simp only [isBlank, Bool.or_eq_true, beq_iff_eq] at hblank
    rcases hblank with ((rfl | rfl) | rfl) | rfl <;> decide
  · rw [pieces?_of_cons (skipBlanks_cons_of_not_blank (by simpa using hblank) s)] at h
    obtain ⟨⟨p, rest⟩, hpiece, -⟩ := Option.bind_eq_some_iff.mp h
    unfold piece at hpiece
    split at hpiece
    case h_7 =>
      obtain ⟨⟨q, r⟩, hoperand, -⟩ := Option.map_eq_some_iff.mp hpiece
      by_contra hascii
      -- an operand starts with a digit, a letter or one of two marks
      have hdigit : c.isDigit = false := Bool.eq_false_iff.mpr fun hd =>
        hascii (hname (isNameTail_of_isDigit hd))
      have hhead : isNameHead c = false := Bool.eq_false_iff.mpr fun hd =>
        hascii (hname (isNameTail_of_isNameHead hd))
      rw [operand_eq_none hdigit hhead (by rintro rfl; exact hascii (by decide))
        (by rintro rfl; exact hascii (by decide))] at hoperand
      cases hoperand
    all_goals
      rename_i heq
      obtain ⟨rfl, -⟩ := List.cons.inj heq
      decide

theorem isWordChar_of_ascii {c : Char} (hc : c.toNat < 0x80) (hdollar : c ≠ '$') :
    isWordChar c = isKeywordChar c := by
  rw [isWordChar, if_pos hc, isKeywordChar]
  simp [hdollar]

/-- In front of pieces, a word ends where a keyword does. -/
theorem atWordEnd_of_pieces? {s : List Char} {pieces : List Piece} (h : pieces? s = some pieces) :
    atWordEnd s = true ↔ Stops isKeywordChar s := by
  cases s with
  | nil => simp [Stops]
  | cons c s =>
    obtain ⟨hc, hdollar⟩ := ascii_of_pieces? h
    rw [atWordEnd_cons, isWordChar_of_ascii hc hdollar]
    simp [Stops]

/-! ## The first line of a condition -/

/-- Whether a line ends between a tilde that the text starts with and what follows. -/
def breaksQuantifier (s : List Char) : Bool :=
  match skipBlanks s with
  | '~' :: rest => (rest.takeWhile isSpace).contains '\n'
  | _ => false

/-- Trimming does not add a line end in front of what follows. -/
theorem Trimmed.newline_mem {s t : List Char} (h : Trimmed isSpace s t)
    (ht : '\n' ∈ t.takeWhile isSpace) : '\n' ∈ s.takeWhile isSpace := by
  induction h with
  | nil => exact ht
  | keep c _ ih =>
    by_cases hc : isSpace c = true
    · rw [List.takeWhile_cons_of_pos hc] at ht ⊢
      rcases List.mem_cons.mp ht with hline | ht
      · exact List.mem_cons.mpr (.inl hline)
      · exact List.mem_cons_of_mem c (ih ht)
    · rw [List.takeWhile_cons_of_neg hc] at ht
      cases ht
  | before hc _ _ ih =>
    rw [List.takeWhile_cons_of_pos hc]
    exact List.mem_cons_of_mem _ (ih ht)
  | after =>
    rw [List.takeWhile_cons_of_pos (by decide)]
    exact List.mem_cons_self
  | last => cases ht

theorem breaksQuantifier_trimmed {s t : List Char} (h : Trimmed isSpace s t)
    (hstart : Stops isSpace s) (hs : breaksQuantifier s = false) : breaksQuantifier t = false := by
  rw [breaksQuantifier, skipBlanks_of_stops hstart] at hs
  rw [breaksQuantifier, skipBlanks_of_stops (h.start hstart)]
  split
  · rename_i rest
    obtain ⟨a, rfl, ha⟩ := h.to_append (w := ['~']) (List.forall_mem_singleton.mpr (by decide))
    rw [Bool.eq_false_iff]
    intro hline
    have hmem := ha.newline_mem (by simpa using hline)
    simp [hmem] at hs
  · rfl

/-- The first line of a condition starts a condition, unless it ends behind a tilde. -/
theorem startsCondition_of_condition? {s : List Char} {q : Condition} (hstart : Stops isSpace s)
    (hs : breaksQuantifier s = false) (hq : condition? s = some q) :
    startsCondition (s.takeWhile (· != '\n')) = true := by
  obtain ⟨quantify, rest, pieces, body, hquantifier, hpieces, -⟩ := condition?_eq_some.mp hq
  rw [skipBlanks_of_stops hstart] at hquantifier
  rcases skipLocations_cases s with hnone | ⟨a, b, rfl, -, hopen, -⟩
  · rw [hnone, skipBlanks_of_stops hstart] at hquantifier
    have hend := (atWordEnd_of_pieces? hpieces).mpr
    rcases quantifier?_eq_some.mp hquantifier with ⟨-, rfl, hstop⟩ | ⟨-, rfl, hstop⟩ |
      ⟨-, hword, u, rfl, hu⟩
    · exact startsCondition_of_word (by simp) (startsWithWord_takeWhile (by decide) (hend hstop))
    · exact startsCondition_of_word (by simp) (startsWithWord_takeWhile (by decide) (hend hstop))
    · -- the tilde and its word stand on one line
      refine startsCondition_noState hu ?_ hword
      rw [breaksQuantifier, skipBlanks_of_stops hstart] at hs
      simp only [List.takeWhile_append_of_pos hu] at hs
      intro hline
      simp [hline] at hs
  · -- the word is complete: blanks or the bracket follow it
    have hend : atWordEnd a = true := by
      rw [← List.takeWhile_append_dropWhile (p := isBlank) (l := a)]
      refine atWordEnd_spaces (fun c hc => isSpace_of_isBlank (List.mem_takeWhile_imp hc)) ?_
      rw [← skipBlanks, hopen]
      rfl
    exact startsCondition_of_word (by simp) (startsWithWord_takeWhile (by decide) hend)

/-! ## The lines of a condition -/

/-- A condition no line end of which breaks its quantifier or a string is read from its lines, and
none of them is a row of a table. -/
theorem readCondition_unbroken {u s : List Char} {q : Condition} (hu : ∀ c ∈ u, isSpace c = true)
    (hstart : Stops isSpace s) (hs : breaksQuantifier s = false)
    (hstring : skipLocations s = s ∨ breaksString s = false) (hq : condition? s = some q)
    {lines : List (List Char)} (hlines : lines = (splitAt '\n' (u ++ s)).map trim) :
    tableRows lines = [] ∧ readCondition (afterTable lines) = .ok q := by
  have htidy : Trimmed isSpace s (tidy s) :=
    (trimmed_tidy hstart).mono fun _ _ => isSpace_of_isMargin
  have hfirst := startsCondition_of_condition? (htidy.start hstart)
    (breaksQuantifier_trimmed htidy hstart hs) (condition?_trimmed htidy hstart hstring hq)
  obtain ⟨hrows, hafter⟩ := tableRows_of_startsCondition hu hfirst hlines
  -- the lines are joined and trimmed once more
  obtain ⟨v, hv, hspaces⟩ := eq_trim_append (htidy.start hstart)
  rw [hv] at htidy
  have hread := condition?_trimmed (htidy.dropEnd hspaces) hstart hstring hq
  refine ⟨hrows, ?_⟩
  rw [hafter]
  refine readCondition_splitAt (fun hnil => ?_) hread
  rw [hnil] at hread
  cases hread

theorem stops_exists (s : List Char) : Stops isSpace ("exists".toList ++ s) :=
  Stops.cons (by decide) _

theorem skipLocations_exists (s : List Char) :
    skipLocations ("exists".toList ++ s) = "exists".toList ++ s :=
  skipLocations_of_head (by decide)

/-- Between a tilde and its word any spaces may stand, line feeds among them. -/
theorem condition?_tilde {u rest : List Char} {p : Proposition} (hu : ∀ c ∈ u, isSpace c = true)
    (hend : atWordEnd rest = true) (hp : (pieces? rest).bind grouped? = some p) :
    condition? ('~' :: (u ++ ("exists".toList ++ rest))) = some (.noState p) := by
  obtain ⟨pieces, hpieces, hbody⟩ := Option.bind_eq_some_iff.mp hp
  have hskip : skipBlanks ('~' :: (u ++ ("exists".toList ++ rest)))
      = '~' :: (u ++ ("exists".toList ++ rest)) := skipBlanks_cons_of_not_blank (by decide) _
  refine condition?_eq_some.mpr ⟨.noState, rest, pieces, p, ?_, hpieces, hbody, rfl⟩
  rw [hskip, skipLocations_of_head (by decide), hskip, quantifier?_tilde hu hend]

/-- What a condition looks like whose quantifier is broken: from its word on it is the condition for
some state. -/
theorem condition?_of_breaksQuantifier {s : List Char} {q : Condition} (hstart : Stops isSpace s)
    (hs : breaksQuantifier s = true) (hq : condition? s = some q) :
    ∃ body u v rest, q = .noState body ∧ s = '~' :: (u ++ '\n' :: (v ++ ("exists".toList ++ rest))) ∧
      (∀ c ∈ u, isSpace c = true) ∧ '\n' ∉ u ∧ (∀ c ∈ v, isSpace c = true) ∧
      condition? ("exists".toList ++ rest) = some (.someState body) := by
  obtain ⟨quantify, rest, pieces, body, hquantifier, hpieces, hbody, rfl⟩ := condition?_eq_some.mp hq
  rw [breaksQuantifier, skipBlanks_of_stops hstart] at hs
  split at hs
  · rename_i r
    rw [skipBlanks_of_stops hstart, skipLocations_of_head (by decide), skipBlanks_of_stops hstart]
      at hquantifier
    rcases quantifier?_eq_some.mp hquantifier with ⟨-, h, -⟩ | ⟨-, h, -⟩ | ⟨rfl, hend, w, h, hw⟩
    · exact absurd (List.cons.inj h).1 (by decide)
    · exact absurd (List.cons.inj h).1 (by decide)
    obtain rfl := (List.cons.inj h).2
    have htake : (w ++ ("exists".toList ++ rest)).takeWhile isSpace = w := by
      have hword : ("exists".toList ++ rest).takeWhile isSpace = [] :=
        List.takeWhile_cons_of_neg (by decide)
      rw [List.takeWhile_append_of_pos hw, hword, List.append_nil]
    rw [htake] at hs
    have hline : '\n' ∈ w := by simpa using hs
    obtain ⟨u, v, rfl, hu⟩ := List.eq_append_cons_of_mem hline
    refine ⟨body, u, v, rest, rfl, by simp, fun c hc => hw c (by simp [hc]), hu,
      fun c hc => hw c (by simp [hc]), ?_⟩
    -- no keyword goes on where the word ends, since pieces follow
    have hstop := (atWordEnd_of_pieces? hpieces).mp hend
    have hskip := skipBlanks_of_stops (stops_exists rest)
    refine condition?_eq_some.mpr ⟨.someState, rest, pieces, body, ?_, hpieces, hbody, rfl⟩
    rw [hskip, skipLocations_exists, hskip, quantifier?_exists hstop]
  · cases hs

/-- Where a line ends behind the tilde, the tilde is a row of a table, and the lines from the word
on are the condition for some state. -/
theorem readCondition_broken {u s : List Char} {q : Condition} (hu : ∀ c ∈ u, isSpace c = true)
    (hstart : Stops isSpace s) (hs : breaksQuantifier s = true) (hq : condition? s = some q)
    {lines : List (List Char)} (hlines : lines = (splitAt '\n' (u ++ s)).map trim) :
    ∃ body, q = .noState body ∧ tableRows lines = [['~']] ∧
      readCondition (afterTable lines) = .ok (.someState body) := by
  obtain ⟨body, w, v, rest, rfl, rfl, hw, hline, hv, hread⟩ :=
    condition?_of_breaksQuantifier hstart hs hq
  -- the lines up to the tilde, and those behind it
  obtain ⟨n, hn⟩ := lines_spaces hu ('~' :: w)
  have htilde : (splitAt '\n' ('~' :: w)).map trim = [['~']] := by
    have htrim : trim ([] ++ (['~'] ++ w)) = trimStart [] ++ (['~'] ++ trimEnd w) :=
      trim_append (by simp) ⟨Stops.cons (by decide) _, Stops.cons (by decide) _⟩ [] w
    rw [splitAt_of_not_mem (by simp [hline]), List.map_singleton]
    rw [trimEnd_spaces hw] at htrim
    exact congrArg (fun line => [line]) htrim
  rw [htilde] at hn
  obtain ⟨hrows, hcondition⟩ := readCondition_unbroken hv (stops_exists rest) rfl
    (.inl (skipLocations_exists rest)) hread rfl
  have hsplit : lines = (List.replicate n [] ++ [['~']]) ++
      (splitAt '\n' (v ++ ("exists".toList ++ rest))).map trim := by
    have happend : u ++ '~' :: (w ++ '\n' :: (v ++ ("exists".toList ++ rest)))
        = (u ++ '~' :: w) ++ '\n' :: (v ++ ("exists".toList ++ rest)) := by simp
    rw [hlines, happend, splitAt, splitWhen_append rfl, List.map_append, ← hn]
    rfl
  have hall : ∀ line ∈ List.replicate n [] ++ [['~']], (!startsCondition (trim line)) = true := by
    intro line hmem
    rcases List.mem_append.mp hmem with hmem | hmem
    · rw [List.eq_of_mem_replicate hmem]
      decide
    · rw [List.mem_singleton.mp hmem]
      decide
  have hafter : afterTable (List.replicate n [] ++ [['~']]) = [] := List.dropWhile_eq_nil_iff.mpr hall
  have htable : tableRows (List.replicate n [] ++ [['~']]) = [['~']] := by
    have hrow : trim ['~'] = ['~'] := by decide
    rw [tableRows, List.takeWhile_eq_self_iff.mpr hall]
    simp [hrow]
  refine ⟨body, rfl, ?_, ?_⟩
  · rw [hsplit, tableRows_append hafter, htable, hrows, List.append_nil]
  · rw [hsplit, afterTable_append hafter, hcondition]

/-! ## A tilde in the table -/

/-- The threads with a tilde behind the code of the first of them. -/
def withTilde : List (Int × List Pseudo) → List (Int × List Pseudo)
  | [] => []
  | (thread, code) :: threads => (thread, code ++ [.instruction "~"]) :: threads

theorem column_append (rows rows' : List (List (List Char))) (i : Nat) :
    column (rows ++ rows') i = column rows i ++ column rows' i :=
  List.filterMap_append

/-- The row of a tilde has one cell. -/
theorem cells_tilde : cells ['~'] = [['~']] := by
  decide

theorem threadsOf_tilde (names : List Int) (rows : List (List Char)) :
    threadsOf names (rows ++ [['~']]) = withTilde (threadsOf names rows) := by
  have hcolumn : ∀ i, column ((rows ++ [['~']]).map cells) i
      = column (rows.map cells) i ++ column [[['~']]] i := by
    intro i
    rw [List.map_append, column_append, List.map_singleton, cells_tilde]
  cases names with
  | nil => rfl
  | cons name names =>
    have hfirst : column [[['~']]] 0 = [.instruction "~"] := rfl
    have hothers : ∀ entry ∈ names.zipIdx 1,
        (entry.1, column ((rows ++ [['~']]).map cells) entry.2)
          = (entry.1, column (rows.map cells) entry.2) := by
      intro entry hentry
      obtain ⟨i, hi⟩ := Nat.exists_eq_add_of_le (List.le_snd_of_mem_zipIdx hentry)
      have hnone : column [[['~']]] entry.2 = [] := by
        rw [hi, Nat.add_comm]
        rfl
      rw [hcolumn, hnone, List.append_nil]
    show (name, column ((rows ++ [['~']]).map cells) 0) :: (names.zipIdx 1).map _
      = (name, column (rows.map cells) 0 ++ [.instruction "~"]) :: (names.zipIdx 1).map _
    rw [hcolumn, hfirst, List.map_congr_left hothers]

/-- A row that is a tilde belongs to the first thread. -/
theorem readTable_tilde {rows : List (List Char)} {threads : List (Int × List Pseudo)}
    (h : readTable rows = .ok threads) : readTable (rows ++ [['~']]) = .ok (withTilde threads) := by
  cases rows with
  | nil => cases h
  | cons first rows =>
    rw [List.cons_append]
    obtain ⟨names, hnames, h⟩ := bind_eq_ok.mp h
    refine bind_eq_ok.mpr ⟨names, hnames, ?_⟩
    -- there is a thread, so one cell is not too many
    have hlen : ¬ names.length < (cells ['~']).length := by
      have hpos := List.length_pos_iff.mpr (readNames_ne_nil hnames)
      rw [cells_tilde, List.length_singleton]
      omega
    have hrow : overfullRow? names.length [['~']] = none := by simpa [overfullRow?] using hlen
    cases hrows : overfullRow? names.length rows with
    | some row =>
      simp only [hrows] at h
      cases h
    | none =>
      have hall : overfullRow? names.length (rows ++ [['~']]) = none := by
        rw [overfullRow?, List.find?_append, ← overfullRow?, ← overfullRow?, hrows, hrow]
        rfl
      simp only [hrows] at h
      simp only [hall]
      rw [threadsOf_tilde, Except.ok.inj h]
      rfl

/-! ## Whole tests -/

/-- What is read from a text that goes on behind its table: rows may still come, and then the
condition. -/
theorem readTest_append {plain text s : List Char} {test : Condition → Test}
    {grow : List (Int × List Pseudo) → List (Int × List Pseudo)} {c : Condition}
    (hfront : readFront (skipBlankLines (textLines plain)) = .ok (test, []))
    (htext : dropComments text = dropComments plain ++ '\n' :: s)
    (htable : ∀ rows threads, readTable rows = .ok threads →
      readTable (rows ++ tableRows ((splitAt '\n' s).map trim)) = .ok (grow threads))
    (hcondition : readCondition (afterTable ((splitAt '\n' s).map trim)) = .ok c) :
    readTest text =
      .ok { test default with condition := c, threads := grow (test default).threads } := by
  have hlines : textLines text = textLines plain ++ (splitAt '\n' s).map trim := by
    rw [textLines, htext, splitAt, splitWhen_append (by simp), List.map_append, textLines]
    rfl
  have hnewline : ∀ line ∈ (splitAt '\n' s).map trim, '\n' ∉ line := by
    rw [← splitAt_tidy]
    exact fun line hline => newline_of_mem_splitAt hline
  -- what was read in front of the condition does not depend on it
  have htest : { test c with threads := grow (test c).threads }
      = { test default with condition := c, threads := grow (test default).threads } := by
    obtain ⟨_, _, _, _, _, _, _, _, _, _, _, -, -, -, -, -, -, -, -, -, rfl⟩ :=
      readFront_eq_ok.mp hfront
    rfl
  rw [readTest_eq, hlines, skipBlankLines_append (exists_of_readFront hfront),
    readFront_append_table hfront (map_trim_splitAt_ne_nil s) hnewline htable]
  show (readCondition (afterTable ((splitAt '\n' s).map trim)) >>= fun condition =>
    pure { test condition with threads := grow (test condition).threads }) = _
  rw [hcondition, ← htest]
  rfl

/-- **A condition is found where it starts, but for one line end.** Take a text that is a test but
for the condition that it lacks, and behind it a text that is a condition on its own.

* If no line ends between the tilde of the quantifier and its word, and none ends in a backslash
  inside a quoted string, the parser reads the test that was there with that condition.
* If a line ends between the tilde and its word, the parser reads that test with the tilde as a last
  instruction of the first thread, and the condition asks for what it should exclude. -/
theorem readTest_of_condition? {plain : List Char}
    (hplain : readTest plain = .error .missingCondition) :
    ∃ test : Test, ∀ {s text : List Char} {q : Condition}, condition? s = some q →
      dropComments text = dropComments plain ++ '\n' :: s →
      (breaksQuantifier s = false → breaksString s = false →
        readTest text = .ok { test with condition := q }) ∧
      (breaksQuantifier s = true → ∃ body, q = .noState body ∧ readTest text =
        .ok { test with condition := .someState body, threads := withTilde test.threads }) := by
  obtain ⟨test, hfront⟩ := readFront_of_missingCondition hplain
  refine ⟨test default, fun {s text q} hq htext => ?_⟩
  -- the condition without the blanks in front of it
  have hstart : Stops isSpace (skipBlanks s) := stops_of_condition? hq
  have hblanks : ∀ c ∈ s.takeWhile isBlank, isSpace c = true := fun c hc =>
    isSpace_of_isBlank (List.mem_takeWhile_imp hc)
  have hsplit : s = s.takeWhile isBlank ++ skipBlanks s := List.takeWhile_append_dropWhile.symm
  have hread : condition? (skipBlanks s) = some q := by
    rw [condition?, skipBlanks_skipBlanks, ← condition?, hq]
  have hbreaks : breaksQuantifier (skipBlanks s) = breaksQuantifier s := by
    rw [breaksQuantifier, skipBlanks_skipBlanks, ← breaksQuantifier]
  have hlines : (splitAt '\n' s).map trim
      = (splitAt '\n' (s.takeWhile isBlank ++ skipBlanks s)).map trim := by rw [← hsplit]
  constructor
  · intro hquantifier hstring
    have hstring' : breaksString (skipBlanks s) = false := by rwa [breaksString_skipBlanks]
    obtain ⟨hrows, hcondition⟩ := readCondition_unbroken hblanks hstart (hbreaks.trans hquantifier)
      (.inr hstring') hread hlines
    have hgrow : ∀ rows threads, readTable rows = .ok threads →
        readTable (rows ++ tableRows ((splitAt '\n' s).map trim)) = .ok (id threads) := by
      intro rows threads htable
      rw [hrows, List.append_nil, htable]
      rfl
    exact readTest_append hfront htext hgrow hcondition
  · intro hquantifier
    obtain ⟨body, rfl, hrows, hcondition⟩ := readCondition_broken hblanks hstart
      (hbreaks.trans hquantifier) hread hlines
    refine ⟨body, rfl, readTest_append hfront htext (fun rows threads htable => ?_) hcondition⟩
    rw [hrows, readTable_tilde htable]

/-- The same condition, with a blank and with a line end behind its tilde. -/
theorem readTest_of_condition?_tilde :
    readTest "X86 T\n\x7b \x7d\nP0 ;\nNOP ;".toList = .error .missingCondition ∧
    condition? "~\nexists (0:EAX=1)\n".toList
      = some (.noState (.holds (.register 0 "EAX") (.concrete "1"))) ∧
    ∃ test : Test,
      readTest "X86 T\n\x7b \x7d\nP0 ;\nNOP ;\n~ exists (0:EAX=1)\n".toList
        = .ok { test with condition := .noState (.holds (.register 0 "EAX") (.concrete "1")) } ∧
      readTest "X86 T\n\x7b \x7d\nP0 ;\nNOP ;\n~\nexists (0:EAX=1)\n".toList
        = .ok { test with
            condition := .someState (.holds (.register 0 "EAX") (.concrete "1")),
            threads := withTilde test.threads } := by
  have hplain : readTest "X86 T\n\x7b \x7d\nP0 ;\nNOP ;".toList = .error .missingCondition := by
    rw [readTest, textLines, dropComments_of_no_star (by decide)]
    rfl
  have hplace : WrittenMarked (.register 0 "EAX") "0:EAX".toList :=
    @WrittenMarked.register ['0'] [] [] "EAX".toList (by decide) Blanks.nil Blanks.nil (by decide)
  have hatom : Written .negation (.holds (.register 0 "EAX") (.concrete "1")) "0:EAX=1".toList :=
    .holds (.marked hplace) Blanks.nil Blanks.nil (@WrittenConstant.concrete ['1'] (.inl (.inl (by decide))))
  have hbody : Written .implication (.holds (.register 0 "EAX") (.concrete "1")) "(0:EAX=1)".toList :=
    .implication (.disjunction (.conjunction
      (.parentheses Blanks.nil Blanks.nil (.implication (.disjunction (.conjunction hatom))))))
  have hread := read_written (u := [' ']) (v := ['\n']) hbody (by decide) (by decide)
  -- on their own, both layouts are the same condition
  have hblank := condition?_tilde (u := [' ']) (List.forall_mem_singleton.mpr (by decide)) rfl hread
  have hline := condition?_tilde (u := ['\n']) (List.forall_mem_singleton.mpr (by decide)) rfl hread
  have htext : ∀ u, '*' ∉ u → dropComments ("X86 T\n\x7b \x7d\nP0 ;\nNOP ;".toList ++ '\n' :: u)
      = dropComments "X86 T\n\x7b \x7d\nP0 ;\nNOP ;".toList ++ '\n' :: u := by
    intro u hu
    have hnone : '*' ∉ "X86 T\n\x7b \x7d\nP0 ;\nNOP ;".toList := by decide
    rw [dropComments_of_no_star hnone, dropComments_of_no_star (by simp [hu])]
  obtain ⟨test, htest⟩ := readTest_of_condition? hplain
  obtain ⟨body, hbody, hbroken⟩ := (htest hline (htext _ (by decide))).2 (by decide)
  obtain rfl := Condition.noState.inj hbody
  exact ⟨hplain, hline, test, (htest hblank (htext _ (by decide))).1 (by decide) (by decide +kernel), hbroken⟩

end Litmus.Source
