import Litmus.Proofs.Steady
import Litmus.Proofs.Conditions
import Litmus.Proofs.TableEnd

/-!
# Conditions and margins

A condition is read as the same condition when its lines are trimmed, wherever the format admits a
line end. Only a quoted string in a list of locations may change: a backslash at the end of its line
escapes what stands behind it, and that is a space before the line is trimmed and the line feed
afterwards.

* **`breaksString`**: a backslash stands at the end of a line inside a string.
* **`afterString?_trimmed`**, **`afterBrackets?_trimmed`**: a list ends where it ended before.
* **`quantifier?_eq_some`**: the quantifiers that are read, and what must follow them.
* **`condition?_trimmed`**: the condition stays the same.
-/

namespace Litmus.Source

open Litmus.Text

/-! ## Backslashes at the end of a line -/

/-- Whether only spaces are left of the line. -/
@[irreducible] def atLineEnd (s : List Char) : Bool :=
  (s.dropWhile fun c => isSpace c && c != '\n').head? == some '\n'

/-- Whether a line ends in a backslash, spaces aside, before the string ends whose opening quotation mark
has been read. The string is followed as `afterString?` follows it. -/
def breaksInside (quote : Char) : List Char → Bool
  | [] => false
  | '\\' :: 'x' :: h :: s => if isHexDigit h then breaksInside quote s else false
  | '\\' :: c :: s => if c = 'x' then false else atLineEnd (c :: s) || breaksInside quote s
  | [_] => false
  | c :: d :: s =>
    if c = quote then if d = quote then breaksInside quote s else false
    else if c = '\n' ∨ c = '\r' then false
    else breaksInside quote (d :: s)

/-- Whether a line ends in a backslash, spaces aside, inside a string. -/
def breaksString (s : List Char) : Bool :=
  match s with
  | [] => false
  | c :: s =>
    if c = '"' ∨ c = '\'' then
      breaksInside c s ||
        match _h : afterString? c s with
        | some rest => breaksString rest
        | none => breaksString s
    else breaksString s
termination_by s.length
decreasing_by
  all_goals simp only [List.length_cons]
  any_goals omega
  have := length_afterString? _h
  omega

theorem atLineEnd_of_trimmed {s b : List Char} (h : Trimmed isSpace s ('\n' :: b)) :
    atLineEnd s = true := by
  obtain ⟨u, r, rfl, hu⟩ := h.of_newline
  have hspaces : ∀ c ∈ u, (isSpace c && c != '\n') = true := by
    intro c hc
    simp [hu c hc]
  rw [atLineEnd, List.dropWhile_append_of_pos hspaces, List.dropWhile_cons_of_neg (by decide)]
  rfl

theorem breaksString_cons {c : Char} (hc : ¬ (c = '"' ∨ c = '\'')) (s : List Char) :
    breaksString (c :: s) = breaksString s := by
  rw [breaksString, if_neg hc]

/-- What holds no quotation mark opens no string. -/
theorem breaksString_append {u : List Char} (hu : ∀ c ∈ u, ¬ (c = '"' ∨ c = '\'')) (s : List Char) :
    breaksString (u ++ s) = breaksString s := by
  induction u with
  | nil => rfl
  | cons c u ih =>
    rw [List.cons_append, breaksString_cons (hu c List.mem_cons_self)]
    exact ih fun d hd => hu d (List.mem_cons_of_mem c hd)

theorem breaksString_skipBlanks (s : List Char) : breaksString (skipBlanks s) = breaksString s := by
  have hblank : ∀ c ∈ s.takeWhile isBlank, ¬ (c = '"' ∨ c = '\'') := by
    intro c hc hquote
    have hc := List.mem_takeWhile_imp hc
    rcases hquote with rfl | rfl <;> exact absurd hc (by decide)
  have hsplit := breaksString_append hblank (skipBlanks s)
  rwa [skipBlanks, List.takeWhile_append_dropWhile, ← skipBlanks, eq_comm] at hsplit

/-- A quotation mark opens a string, or it stands for itself. -/
theorem breaksString_quote {quote : Char} (h : quote = '"' ∨ quote = '\'') (s : List Char) :
    breaksString (quote :: s) =
      (breaksInside quote s || breaksString ((afterString? quote s).getD s)) := by
  rw [breaksString, if_pos h]
  congr 1
  split
  · rename_i hstring
    rw [hstring, Option.getD_some]
  · rename_i hstring
    rw [hstring, Option.getD_none]

/-- A closed string breaks nothing, even in front of a backslash at the end of a line. -/
example : breaksString "locations [\"a\";]\nexists (x=1 /\\ \n y=2)".toList = false := by decide +kernel

/-! ## Quoted strings -/

section Strings

variable {quote : Char}

/-- What a character that is no backslash does to the string. -/
theorem afterString?_cons {c : Char} (hescape : c ≠ '\\') (s : List Char) :
    afterString? quote (c :: s) =
      if c = quote then if s.head? = some quote then afterString? quote s.tail else some s
      else if c = '\n' ∨ c = '\r' then none
      else afterString? quote s := by
  cases s with
  | nil => simp [afterString?]
  | cons d s => simp [afterString?, hescape]

theorem afterString?_plain {c : Char} (hquote : c ≠ quote) (hescape : c ≠ '\\') (hline : c ≠ '\n')
    (hreturn : c ≠ '\r') (s : List Char) : afterString? quote (c :: s) = afterString? quote s := by
  rw [afterString?_cons hescape, if_neg hquote, if_neg (not_or.mpr ⟨hline, hreturn⟩)]

theorem afterString?_lineEnd {c : Char} (hquote : c ≠ quote) (hline : c = '\n' ∨ c = '\r')
    (s : List Char) : afterString? quote (c :: s) = none := by
  have hescape : c ≠ '\\' := by
    rintro rfl
    simp at hline
  rw [afterString?_cons hescape, if_neg hquote, if_pos hline]

theorem afterString?_doubled (hescape : quote ≠ '\\') (s : List Char) :
    afterString? quote (quote :: quote :: s) = afterString? quote s := by
  rw [afterString?_cons hescape, if_pos rfl, List.head?_cons, if_pos rfl, List.tail_cons]

theorem afterString?_close (hescape : quote ≠ '\\') {s : List Char} (hs : s.head? ≠ some quote) :
    afterString? quote (quote :: s) = some s := by
  rw [afterString?_cons hescape, if_pos rfl, if_neg hs]

theorem afterString?_escape {c : Char} (hc : c ≠ 'x') (s : List Char) :
    afterString? quote ('\\' :: c :: s) = afterString? quote s := by
  simp [afterString?, hc]

theorem afterString?_hex {c : Char} (hc : isHexDigit c = true) (s : List Char) :
    afterString? quote ('\\' :: 'x' :: c :: s) = afterString? quote s := by
  simp [afterString?, hc]

theorem afterString?_not_hex {s : List Char} (hs : Stops isHexDigit s) :
    afterString? quote ('\\' :: 'x' :: s) = none := by
  cases s with
  | nil => simp [afterString?]
  | cons c s => simp [afterString?, hs c rfl]

/-- What a character that is no backslash does to the string. -/
theorem breaksInside_cons {c : Char} (hescape : c ≠ '\\') (s : List Char) :
    breaksInside quote (c :: s) =
      if c = quote then s.head? = some quote && breaksInside quote s.tail
      else if c = '\n' ∨ c = '\r' then false
      else breaksInside quote s := by
  cases s with
  | nil => simp [breaksInside]
  | cons d s => simp [breaksInside, hescape]

theorem breaksInside_plain {c : Char} (hquote : c ≠ quote) (hescape : c ≠ '\\') (hline : c ≠ '\n')
    (hreturn : c ≠ '\r') (s : List Char) : breaksInside quote (c :: s) = breaksInside quote s := by
  rw [breaksInside_cons hescape, if_neg hquote, if_neg (not_or.mpr ⟨hline, hreturn⟩)]

theorem breaksInside_doubled (hescape : quote ≠ '\\') (s : List Char) :
    breaksInside quote (quote :: quote :: s) = breaksInside quote s := by
  rw [breaksInside_cons hescape, if_pos rfl, List.head?_cons, List.tail_cons, decide_eq_true rfl,
    Bool.true_and]

theorem breaksInside_escape {c : Char} (hc : c ≠ 'x') (s : List Char) :
    breaksInside quote ('\\' :: c :: s) = (atLineEnd (c :: s) || breaksInside quote s) := by
  simp [breaksInside, hc]

theorem breaksInside_hex {c : Char} (hc : isHexDigit c = true) (s : List Char) :
    breaksInside quote ('\\' :: 'x' :: c :: s) = breaksInside quote s := by
  simp [breaksInside, hc]

/-- A backslash in a string that is not broken does not end its line. -/
theorem atLineEnd_of_breaksInside {s : List Char} (h : breaksInside quote ('\\' :: s) = false) :
    atLineEnd s = false := by
  cases s with
  | nil => rw [atLineEnd, List.dropWhile_nil, List.head?_nil, Option.none_beq_some]
  | cons c s =>
    by_cases hc : c = 'x'
    · rw [hc, atLineEnd, List.dropWhile_cons_of_neg (by decide)]
      rfl
    · rw [breaksInside_escape hc, Bool.or_eq_false_iff] at h
      exact h.1

/-- Behind a backslash that does not end its line, both texts go on alike. `ih` is about what is left
behind the escaped character. -/
theorem afterString?_trimmed_escape (hescape : quote ≠ '\\') {s t : List Char}
    (h : Trimmed isSpace s t) (hs : breaksInside quote ('\\' :: s) = false)
    (ih : ∀ {r r'}, r.length < s.length → breaksInside quote r = false → Trimmed isSpace r r' →
      Option.Rel (Trimmed isSpace) (afterString? quote r) (afterString? quote r')) :
    Option.Rel (Trimmed isSpace) (afterString? quote ('\\' :: s)) (afterString? quote ('\\' :: t)) := by
  have hend : afterString? quote ['\\'] = none := by simp [afterString?, hescape.symm]
  have hline := atLineEnd_of_breaksInside hs
  have hhex : ∀ c, isSpace c = true → isHexDigit c = false := by
    intro c hc
    cases hdigit : isHexDigit c with
    | false => rfl
    | true =>
      rw [isSpace_of_isNameTail (isNameTail_of_isHexDigit hdigit)] at hc
      cases hc
  cases h with
  | nil =>
    rw [hend]
    exact .none
  | @keep a b c hab =>
    by_cases hc : c = 'x'
    · subst hc
      -- a hexadecimal digit must follow at once
      rcases hab.cases with ⟨d, a', b', rfl, rfl, -, -, hab'⟩ | ⟨ha, hb⟩
      · by_cases hd : isHexDigit d = true
        · rw [afterString?_hex hd, afterString?_hex hd]
          rw [breaksInside_hex hd] at hs
          exact ih (by simp only [List.length_cons]; omega) hs hab'
        · have hstop : ∀ r, Stops isHexDigit (d :: r) := Stops.cons (by simpa using hd)
          rw [afterString?_not_hex (hstop a'), afterString?_not_hex (hstop b')]
          exact .none
      · rw [afterString?_not_hex (ha.stops hhex (by decide)),
          afterString?_not_hex (hb.stops hhex (by decide))]
        exact .none
    · rw [afterString?_escape hc, afterString?_escape hc]
      rw [breaksInside_escape hc, Bool.or_eq_false_iff] at hs
      exact ih (by simp) hs.2 hab
  -- a space that is lost in front of a line feed would be the escaped character
  | before hc hne hab =>
    rw [atLineEnd_of_trimmed (.before hc hne hab)] at hline
    cases hline
  | after hc hne hab =>
    rw [atLineEnd_of_trimmed (.after hc hne hab)] at hline
    cases hline
  | @last a c hc hab =>
    have hx : c ≠ 'x' := by
      rintro rfl
      exact absurd hc (by decide)
    rw [afterString?_escape hx, hend]
    rw [breaksInside_escape hx, Bool.or_eq_false_iff] at hs
    exact ih (by simp) hs.2 hab

/-- A string that is not broken ends where it ended before its lines were trimmed. -/
theorem afterString?_trimmed (hquote : quote = '"' ∨ quote = '\'') {s t : List Char}
    (h : Trimmed isSpace s t) (hs : breaksInside quote s = false) :
    Option.Rel (Trimmed isSpace) (afterString? quote s) (afterString? quote t) := by
  have hescape : quote ≠ '\\' := by rcases hquote with rfl | rfl <;> decide
  have hspace : isSpace quote = false := by rcases hquote with rfl | rfl <;> decide
  have hnewline : '\n' ≠ quote := by rcases hquote with rfl | rfl <;> decide
  have hend : ∀ r, afterString? quote ('\n' :: r) = none := afterString?_lineEnd hnewline (.inl rfl)
  -- white space is no quotation mark, so it ends the string or belongs to it
  have hplain : ∀ {c}, isSpace c = true → ¬ (c = '\n' ∨ c = '\r') → ∀ r,
      afterString? quote (c :: r) = afterString? quote r ∧
        breaksInside quote (c :: r) = breaksInside quote r := by
    intro c hc hline r
    rw [not_or] at hline
    have hcq : c ≠ quote := by
      rintro rfl
      rw [hc] at hspace
      cases hspace
    have hce : c ≠ '\\' := by
      rintro rfl
      exact absurd hc (by decide)
    exact ⟨afterString?_plain hcq hce hline.1 hline.2 r, breaksInside_plain hcq hce hline.1 hline.2 r⟩
  cases h with
  | nil => exact .none
  | @keep a b c hab =>
    by_cases hc : c = '\\'
    · subst hc
      exact afterString?_trimmed_escape hescape hab hs fun _ hr hab' =>
        afterString?_trimmed hquote hab' hr
    by_cases hcq : quote = c
    · subst hcq
      -- the string ends here unless the mark is doubled
      rcases hab.cases with ⟨d, a', b', rfl, rfl, -, -, hab'⟩ | ⟨ha, hb⟩
      · by_cases hd : quote = d
        · subst hd
          rw [afterString?_doubled hescape, afterString?_doubled hescape]
          rw [breaksInside_doubled hescape] at hs
          exact afterString?_trimmed hquote hab' hs
        · have hne : d ≠ quote := fun e => hd e.symm
          rw [afterString?_close hescape (by simpa using hne),
            afterString?_close hescape (by simpa using hne)]
          exact .some hab
      · rw [afterString?_close hescape (ha.head?_ne hspace hnewline.symm),
          afterString?_close hescape (hb.head?_ne hspace hnewline.symm)]
        exact .some hab
    have hcq' : c ≠ quote := fun e => hcq e.symm
    by_cases hline : c = '\n' ∨ c = '\r'
    · rw [afterString?_lineEnd hcq' hline, afterString?_lineEnd hcq' hline]
      exact .none
    · rw [not_or] at hline
      rw [afterString?_plain hcq' hc hline.1 hline.2, afterString?_plain hcq' hc hline.1 hline.2]
      rw [breaksInside_plain hcq' hc hline.1 hline.2] at hs
      exact afterString?_trimmed hquote hab hs
  | @before a b c hc hne hab =>
    rw [hend]
    by_cases hline : c = '\n' ∨ c = '\r'
    · rw [afterString?_lineEnd (fun e => by rw [e, hspace] at hc; cases hc) hline]
      exact .none
    · obtain ⟨hafter, hbreaks⟩ := hplain hc hline a
      have hrest := afterString?_trimmed hquote hab (hbreaks ▸ hs)
      rwa [hend, ← hafter] at hrest
  | after =>
    rw [hend, hend]
    exact .none
  | @last a c hc hab =>
    by_cases hline : c = '\n' ∨ c = '\r'
    · rw [afterString?_lineEnd (fun e => by rw [e, hspace] at hc; cases hc) hline]
      exact .none
    · obtain ⟨hafter, hbreaks⟩ := hplain hc hline a
      rw [hafter]
      exact afterString?_trimmed hquote hab (hbreaks ▸ hs)
termination_by s.length
decreasing_by
  all_goals
    subst_vars
    simp only [List.length_cons]
    omega

end Strings

/-! ## Lists in brackets -/

/-- A quotation mark that starts no string stands for itself. -/
theorem afterBrackets?_quote {quote : Char} (h : quote = '"' ∨ quote = '\'') (depth : Nat)
    (s : List Char) :
    afterBrackets? depth (quote :: s) = afterBrackets? depth ((afterString? quote s).getD s) := by
  have hopen : quote ≠ '[' := by rcases h with rfl | rfl <;> decide
  have hclose : quote ≠ ']' := by rcases h with rfl | rfl <;> decide
  rw [afterBrackets?.eq_def]
  simp only [hopen, hclose, h, if_true, if_false]
  split
  · rename_i hstring
    rw [hstring, Option.getD_some]
  · rename_i hstring
    rw [hstring, Option.getD_none]

/-- A list in brackets ends where it ended before its lines were trimmed. -/
theorem afterBrackets?_trimmed {depth : Nat} {s t : List Char} (h : Trimmed isSpace s t)
    (hs : breaksString s = false) :
    Option.Rel (Trimmed isSpace) (afterBrackets? depth s) (afterBrackets? depth t) := by
  have hmark : ∀ {c}, isSpace c = true → c ∉ ['[', ']', '"', '\''] := by
    intro c hc hmem
    simp only [List.mem_cons, List.not_mem_nil, or_false] at hmem
    rcases hmem with rfl | rfl | rfl | rfl <;> exact absurd hc (by decide)
  have hspace : ∀ {c}, isSpace c = true → ∀ d r, afterBrackets? d (c :: r) = afterBrackets? d r :=
    fun hc => afterBrackets?_char (hmark hc)
  have hplain : ∀ {c}, isSpace c = true → ∀ r, breaksString (c :: r) = breaksString r := by
    intro c hc
    refine breaksString_cons fun hquote => ?_
    rcases hquote with rfl | rfl <;> exact absurd hc (by decide)
  cases h with
  | nil =>
    rw [afterBrackets?.eq_def]
    exact .none
  | @keep a b c hab =>
    by_cases hquote : c = '"' ∨ c = '\''
    · -- the string is skipped in both texts, or it is a string in neither
      rw [breaksString_quote hquote, Bool.or_eq_false_iff] at hs
      have hstring := afterString?_trimmed hquote hab hs.1
      have hrest := hs.2
      rw [afterBrackets?_quote hquote, afterBrackets?_quote hquote]
      generalize hx : afterString? c a = x, afterString? c b = y at hstring hrest
      cases hstring with
      | none =>
        rw [Option.getD_none, Option.getD_none]
        exact afterBrackets?_trimmed hab hrest
      | some hab' =>
        rw [Option.getD_some, Option.getD_some]
        exact afterBrackets?_trimmed hab' hrest
    have hrest : breaksString a = false := by rwa [breaksString_cons hquote] at hs
    by_cases hopen : c = '['
    · subst hopen
      rw [afterBrackets?_open, afterBrackets?_open]
      exact afterBrackets?_trimmed hab hrest
    by_cases hclose : c = ']'
    · subst hclose
      cases depth with
      | zero =>
        rw [afterBrackets?_last, afterBrackets?_last]
        exact .some hab
      | succ depth =>
        rw [afterBrackets?_close, afterBrackets?_close]
        exact afterBrackets?_trimmed hab hrest
    · have hchar : c ∉ ['[', ']', '"', '\''] := by
        rw [not_or] at hquote
        simp [hopen, hclose, hquote.1, hquote.2]
      rw [afterBrackets?_char hchar, afterBrackets?_char hchar]
      exact afterBrackets?_trimmed hab hrest
  -- a space at a margin opens and closes nothing
  | @before a b c hc _ hab =>
    rw [hspace hc]
    exact afterBrackets?_trimmed hab (hplain hc a ▸ hs)
  | @after a b c hc _ hab =>
    have hrest : breaksString ('\n' :: a) = false := by
      rw [hplain (by decide), hplain hc] at hs
      rwa [hplain (by decide)]
    have hlines : Option.Rel (Trimmed isSpace) (afterBrackets? depth ('\n' :: a))
        (afterBrackets? depth ('\n' :: b)) := afterBrackets?_trimmed hab hrest
    rw [hspace (by decide)] at hlines ⊢
    rwa [hspace hc]
  | @last a c hc hab =>
    rw [hspace hc]
    exact afterBrackets?_trimmed hab (hplain hc a ▸ hs)
termination_by s.length
decreasing_by
  all_goals subst_vars
  any_goals
    simp only [List.length_cons]
    omega
  have hlen := length_afterString? hx
  simp only [List.length_cons]
  omega

/-! ## Quantifiers -/

theorem isKeywordChar_of_isSpace {c : Char} (h : isSpace c = true) : isKeywordChar c = false := by
  cases hc : isKeywordChar c with
  | false => rfl
  | true =>
    simp only [isKeywordChar, Bool.or_eq_true, beq_iff_eq] at hc
    have hword : isSpace c = false := by
      rcases hc with hc | rfl
      · exact isSpace_of_isNameTail (by simpa [isNameTail] using .inl hc)
      · decide
    rw [h] at hword
    cases hword

/-- The quantifiers that are read, with what is left behind them. -/
theorem quantifier?_eq_some {quantify : Proposition → Condition} {s rest : List Char} :
    quantifier? s = some (quantify, rest) ↔
      (quantify = .someState ∧ s = "exists".toList ++ rest ∧ Stops isKeywordChar rest) ∨
      (quantify = .everyState ∧ s = "forall".toList ++ rest ∧ Stops isKeywordChar rest) ∨
      (quantify = .noState ∧ atWordEnd rest = true ∧
        ∃ u, s = '~' :: (u ++ ("exists".toList ++ rest)) ∧ ∀ c ∈ u, isSpace c = true) := by
  constructor
  · intro h
    unfold quantifier? at h
    split at h
    · rename_i r
      dsimp only at h
      split at h
      · rename_i hexists
        obtain ⟨rfl, rfl⟩ := Prod.mk.inj (Option.some.inj h)
        rw [Bool.and_eq_true, List.isPrefixOf_iff_prefix] at hexists
        obtain ⟨⟨t, ht⟩, hend⟩ := hexists
        have hdrop : (r.dropWhile isSpace).drop 6 = t := by
          rw [← ht]
          rfl
        rw [hdrop] at hend ⊢
        refine .inr (.inr ⟨rfl, hend, r.takeWhile isSpace, ?_, fun c hc => List.mem_takeWhile_imp hc⟩)
        rw [ht, List.takeWhile_append_dropWhile]
      · cases h
    · split at h
      · rename_i hkeyword
        obtain ⟨rfl, rfl⟩ := Prod.mk.inj (Option.some.inj h)
        exact .inl ⟨rfl, keyword_eq_some.mp hkeyword⟩
      · obtain ⟨t, hkeyword, heq⟩ := Option.map_eq_some_iff.mp h
        obtain ⟨rfl, rfl⟩ := Prod.mk.inj heq
        exact .inr (.inl ⟨rfl, keyword_eq_some.mp hkeyword⟩)
  · rintro (⟨rfl, rfl, hrest⟩ | ⟨rfl, rfl, hrest⟩ | ⟨rfl, hrest, u, rfl, hu⟩)
    · exact quantifier?_exists hrest
    · exact quantifier?_forall hrest
    · exact quantifier?_tilde hu hrest

theorem atWordEnd_iff_stops {s : List Char} : atWordEnd s = true ↔ Stops isWordChar s := by
  cases s with
  | nil => simp [Stops]
  | cons c s => simp [Stops]

theorem Trimmed.of_word {w a t : List Char} (h : Trimmed isSpace (w ++ a) t)
    (hw : ∀ c ∈ w, isSpace c = false) : ∃ b, t = w ++ b ∧ Trimmed isSpace a b :=
  h.of_append fun c hc => ⟨hw c hc, ne_newline (hw c hc)⟩

/-- A quantifier is read before and after trimming. -/
theorem quantifier?_trimmed {quantify : Proposition → Condition} {s t rest : List Char}
    (h : Trimmed isSpace s t) (hs : quantifier? s = some (quantify, rest)) :
    ∃ rest', quantifier? t = some (quantify, rest') ∧ Trimmed isSpace rest rest' := by
  have hkeyword : ∀ {a b}, Trimmed isSpace a b → Stops isKeywordChar a → Stops isKeywordChar b :=
    fun hab => (hab.stops_iff (fun _ => isKeywordChar_of_isSpace) (by decide)).mp
  rcases quantifier?_eq_some.mp hs with ⟨rfl, rfl, hrest⟩ | ⟨rfl, rfl, hrest⟩ |
    ⟨rfl, hend, u, rfl, hu⟩
  · obtain ⟨b, rfl, hb⟩ := h.of_word (isSpace_of_all (by decide))
    exact ⟨b, quantifier?_exists (hkeyword hb hrest), hb⟩
  · obtain ⟨b, rfl, hb⟩ := h.of_word (isSpace_of_all (by decide))
    exact ⟨b, quantifier?_forall (hkeyword hb hrest), hb⟩
  · -- whatever spaces are left behind the tilde are skipped, too
    obtain ⟨t', rfl, ht'⟩ := h.of_cons (by decide) (by decide)
    have hdrop : (u ++ ("exists".toList ++ rest)).dropWhile isSpace = "exists".toList ++ rest := by
      rw [List.dropWhile_append_of_pos hu]
      exact List.dropWhile_cons_of_neg (by decide)
    have hskip : Trimmed isSpace ("exists".toList ++ rest) (t'.dropWhile isSpace) := by
      rw [← hdrop]
      exact ht'.dropWhile (by decide) (stops_dropWhile isSpace _)
    obtain ⟨b, hb, hrest⟩ := hskip.of_word (isSpace_of_all (by decide))
    have hword := (hrest.stops_iff (fun _ => isWordChar_of_isSpace) (by decide)).mp
      (atWordEnd_iff_stops.mp hend)
    refine ⟨b, ?_, hrest⟩
    rw [← List.takeWhile_append_dropWhile (p := isSpace) (l := t'), hb]
    exact quantifier?_tilde (fun c hc => List.mem_takeWhile_imp hc) (atWordEnd_iff_stops.mpr hword)

/-! ## Conditions -/

/-- What a quantifier starts with. -/
theorem head_of_quantifier? {quantify : Proposition → Condition} {s rest : List Char}
    (h : quantifier? s = some (quantify, rest)) :
    ∃ c r, s = c :: r ∧ c ≠ 'l' ∧ isSpace c = false := by
  rcases quantifier?_eq_some.mp h with ⟨-, rfl, -⟩ | ⟨-, rfl, -⟩ | ⟨-, -, u, rfl, -⟩
  · exact ⟨'e', _, rfl, by decide, by decide⟩
  · exact ⟨'f', _, rfl, by decide, by decide⟩
  · exact ⟨'~', _, rfl, by decide, by decide⟩

/-- The parts of a condition that is read. -/
theorem condition?_eq_some {s : List Char} {q : Condition} :
    condition? s = some q ↔ ∃ quantify rest pieces body,
      quantifier? (skipBlanks (skipLocations (skipBlanks s))) = some (quantify, rest) ∧
      pieces? rest = some pieces ∧ grouped? pieces = some body ∧ quantify body = q := by
  simp [condition?, Option.bind_eq_some_iff]

/-- A list of locations is skipped, or nothing is. -/
theorem skipLocations_cases (s : List Char) :
    skipLocations s = s ∨ ∃ a b, s = "locations".toList ++ a ∧ Stops isKeywordChar a ∧
      skipBlanks a = '[' :: b ∧ afterBrackets? 0 b = some (skipLocations s) := by
  rw [skipLocations]
  cases hkeyword : keyword "locations".toList s with
  | none => exact .inl rfl
  | some a =>
    obtain ⟨hs, hstop⟩ := keyword_eq_some.mp hkeyword
    cases hlist : (spacedMark '[' a).bind (afterBrackets? 0) with
    | none =>
      left
      simp only [hlist]
    | some rest =>
      obtain ⟨b, hmark, hbrackets⟩ := Option.bind_eq_some_iff.mp hlist
      right
      refine ⟨a, b, hs, hstop, mark_eq_some.mp hmark, ?_⟩
      simp only [hlist]
      exact hbrackets

theorem skipLocations_of_list {a b rest : List Char} (hstop : Stops isKeywordChar a)
    (hopen : skipBlanks a = '[' :: b) (hlist : afterBrackets? 0 b = some rest) :
    skipLocations ("locations".toList ++ a) = rest := by
  have hmark : spacedMark '[' a = some b := mark_eq_some.mpr hopen
  rw [skipLocations, keyword_append _ hstop]
  simp only [hmark, Option.bind_some, hlist]

/-- Behind a list of locations the same is left when the lines are trimmed. -/
theorem skipLocations_trimmed {s t : List Char} (h : Trimmed isSpace s t)
    (hs : breaksString s = false) (hlist : skipLocations s ≠ s) :
    Trimmed isSpace (skipLocations s) (skipLocations t) := by
  rcases skipLocations_cases s with hnone | ⟨a, b, rfl, hstop, hopen, hbrackets⟩
  · exact absurd hnone hlist
  · obtain ⟨a', rfl, ha⟩ := h.of_word (isSpace_of_all (by decide))
    have hstop' := (ha.stops_iff (fun _ => isKeywordChar_of_isSpace) (by decide)).mp hstop
    have hskip := ha.skipBlanks (by rw [hopen]; exact Stops.cons (by decide) b)
    rw [hopen] at hskip
    obtain ⟨b', hopen', hb⟩ := hskip.of_cons (by decide) (by decide)
    -- no string is opened in front of the list
    have hword : ∀ c ∈ "locations".toList, ¬ (c = '"' ∨ c = '\'') := by
      intro c hc hquote
      rcases hquote with rfl | rfl <;> exact absurd hc (by decide)
    rw [breaksString_append hword, ← breaksString_skipBlanks, hopen,
      breaksString_cons (by decide)] at hs
    have hlists : Option.Rel (Trimmed isSpace) (afterBrackets? 0 b) (afterBrackets? 0 b') :=
      afterBrackets?_trimmed hb hs
    rw [hbrackets] at hlists
    generalize hrest : afterBrackets? 0 b' = y at hlists
    cases hlists with
    | some hab => rwa [skipLocations_of_list hstop' hopen' hrest]

/-- What a condition starts with. -/
theorem stops_of_condition? {s : List Char} {q : Condition} (h : condition? s = some q) :
    Stops isSpace (skipBlanks s) := by
  obtain ⟨quantify, rest, pieces, body, hquantifier, -⟩ := condition?_eq_some.mp h
  rcases skipLocations_cases (skipBlanks s) with hnone | ⟨a, b, hs, -⟩
  · rw [hnone, skipBlanks_skipBlanks] at hquantifier
    obtain ⟨c, r, hs, -, hc⟩ := head_of_quantifier? hquantifier
    rw [hs]
    exact Stops.cons hc r
  · rw [hs]
    exact Stops.cons (by decide) _

theorem skipBlanks_of_stops {s : List Char} (h : Stops isSpace s) : skipBlanks s = s := by
  cases s with
  | nil => rfl
  | cons c s => exact skipBlanks_cons_of_not_blank (isBlank_of_isSpace (h c rfl)) s

/-- A condition stays the same condition when its lines are trimmed, unless that breaks a string in
its list of locations. -/
theorem condition?_trimmed {s t : List Char} {q : Condition} (h : Trimmed isSpace s t)
    (hstart : Stops isSpace s) (hs : skipLocations s = s ∨ breaksString s = false)
    (hq : condition? s = some q) : condition? t = some q := by
  obtain ⟨quantify, rest, pieces, body, hquantifier, hpieces, hbody, rfl⟩ := condition?_eq_some.mp hq
  have hstart' : Stops isSpace t := h.start hstart
  rw [skipBlanks_of_stops hstart] at hquantifier
  have hlist : Trimmed isSpace (skipLocations s) (skipLocations t) := by
    by_cases hnone : skipLocations s = s
    · -- neither text starts with a list, since a quantifier comes first
      rw [hnone, skipBlanks_of_stops hstart] at hquantifier
      obtain ⟨c, r, rfl, hl, hc⟩ := head_of_quantifier? hquantifier
      obtain ⟨r', rfl, -⟩ := h.of_word (w := [c]) (by simpa using hc)
      rw [hnone, List.singleton_append, skipLocations_of_head hl]
      exact h
    · exact skipLocations_trimmed h (hs.resolve_left hnone) hnone
  obtain ⟨c, r, hrest, -, hc⟩ := head_of_quantifier? hquantifier
  have hskip := hlist.skipBlanks (by rw [hrest]; exact Stops.cons hc r)
  obtain ⟨rest', hquantifier', hrest'⟩ := quantifier?_trimmed hskip hquantifier
  -- behind the quantifier all white space is blanks, so the pieces do not change
  have hplain := plain_of_pieces? hpieces
  have hpieces' := pieces?_trimmed (hrest'.mono hplain)
  rw [hpieces] at hpieces'
  refine condition?_eq_some.mpr ⟨quantify, rest', pieces, body, ?_, hpieces', hbody, rfl⟩
  rwa [skipBlanks_of_stops hstart']

end Litmus.Source
