import Litmus.Proofs.Grammar
import Litmus.Source.Quantified

/-!
# Written conditions

The ways to write a condition: perhaps a list of locations, a quantifier and a proposition. Each of
them is read as the condition that it was written for.

* **`WrittenQuantifier`**, **`WrittenLocations`**, **`WrittenCondition`**: the grammar.
* **`afterBrackets?_balanced`**: a list ends at the bracket that closes it.
* **`condition?_written`**: a written condition is read, whatever blanks stand around it.
-/

namespace Litmus.Source

open Litmus.Text

/-! ## The grammar -/

/-- What is written for a quantifier. No line ends between the two words of `~exists`. -/
inductive WrittenQuantifier : (Proposition → Condition) → List Char → Prop
  | someState : WrittenQuantifier .someState "exists".toList
  | noState {u : List Char} (hu : Blanks u) (hline : '\n' ∉ u) :
      WrittenQuantifier .noState ('~' :: (u ++ "exists".toList))
  | everyState : WrittenQuantifier .everyState "forall".toList

/-- A text whose brackets are balanced and that holds no quotes. -/
inductive Balanced : List Char → Prop
  | nil : Balanced []
  | char {c : Char} {s : List Char} (hc : c ∉ ['[', ']', '"', '\'']) (h : Balanced s) :
      Balanced (c :: s)
  | brackets {s t : List Char} (hs : Balanced s) (ht : Balanced t) :
      Balanced ('[' :: (s ++ ']' :: t))

/-- A list of locations, or nothing. -/
inductive WrittenLocations : List Char → Prop
  | none : WrittenLocations []
  | list {u s v : List Char} (hu : Blanks u) (hs : Balanced s) (hv : Blanks v) :
      WrittenLocations ("locations".toList ++ (u ++ '[' :: (s ++ ']' :: v)))

/-- What is written for a condition. The quantifier and the proposition are apart where they would
otherwise be one word. -/
inductive WrittenCondition : Condition → List Char → Prop
  | mk {quantify : Proposition → Condition} {p : Proposition} {l q u s : List Char}
      (hl : WrittenLocations l) (hq : WrittenQuantifier quantify q) (hu : Blanks u)
      (hgap : u = [] → Stops isKeywordChar s) (hs : Written .implication p s) :
      WrittenCondition (quantify p) (l ++ (q ++ (u ++ s)))

/-! ## What a proposition starts and ends with -/

/-- A character that a proposition may start with. -/
def startsProposition (c : Char) : Bool :=
  isNameTail c || c == '(' || c == '~' || c == '%' || c == '['

theorem isSpace_of_startsProposition {c : Char} (h : startsProposition c = true) :
    isSpace c = false := by
  simp only [startsProposition, Bool.or_eq_true, beq_iff_eq] at h
  rcases h with (((h | rfl) | rfl) | rfl) | rfl
  · exact isSpace_of_isNameTail h
  all_goals decide

/-- Where no keyword could go on, no word could. -/
theorem isWordChar_of_startsProposition {c : Char} (h : startsProposition c = true)
    (hkeyword : isKeywordChar c = false) : isWordChar c = false := by
  simp only [startsProposition, Bool.or_eq_true, beq_iff_eq] at h
  rcases h with (((h | rfl) | rfl) | rfl) | rfl
  · by_cases hdot : c = '.'
    · subst hdot
      decide
    · rw [isKeywordChar_of_isNameTail h hdot] at hkeyword
      exact absurd hkeyword (by decide)
  all_goals decide

theorem head_of_names {w : List Char} (hw : ∀ c ∈ w, isNameTail c = true) (hne : w ≠ [])
    (s : List Char) : ∃ c r, w ++ s = c :: r ∧ startsProposition c = true := by
  cases w with
  | nil => exact absurd rfl hne
  | cons c w => exact ⟨c, w ++ s, rfl, by simp [startsProposition, hw c (by simp)]⟩

theorem WrittenLocation.head {allowed : List Char → Prop} {place : Location} {s : List Char}
    (h : WrittenLocation allowed place s) (rest : List Char) :
    ∃ c r, s ++ rest = c :: r ∧ startsProposition c = true := by
  cases h with
  | marked h =>
    cases h with
    | register hdigits =>
      rw [List.append_assoc]
      exact head_of_names (isNameTail_of_isDigits hdigits) hdigits.ne_nil _
    | symbolicRegister => exact ⟨'%', _, rfl, by decide⟩
    | number => exact ⟨'[', _, rfl, by decide⟩
    | name => exact ⟨'[', _, rfl, by decide⟩
  | cell hname =>
    rw [List.append_assoc]
    exact head_of_names (isNameTail_of_isName hname) hname.ne_nil _
  | name hname => exact head_of_names (isNameTail_of_isName hname) hname.ne_nil _

/-- Joined texts start as the first of them does. -/
theorem Joined.head {mark : List Char} {texts : List (List Char)} {s : List Char}
    (hs : Joined mark texts s) {start : Char → Bool}
    (h : ∀ t ∈ texts, ∀ rest, ∃ c r, t ++ rest = c :: r ∧ start c = true) (rest : List Char) :
    ∃ c r, s ++ rest = c :: r ∧ start c = true := by
  cases hs with
  | one => exact h s (by simp) rest
  | more hu hv hjoin =>
    rw [List.append_assoc]
    exact h _ (by simp) _

theorem Written.head {level : Level} {p : Proposition} {s : List Char} (h : Written level p s)
    (rest : List Char) : ∃ c r, s ++ rest = c :: r ∧ startsProposition c = true := by
  induction h generalizing rest with
  | truth => exact ⟨'t', _, rfl, by decide⟩
  | falsity => exact ⟨'f', _, rfl, by decide⟩
  | holds hs _ _ _ =>
    rw [List.append_assoc]
    exact hs.head _
  | agree hs _ _ _ =>
    rw [List.append_assoc]
    exact hs.head _
  | parentheses _ _ _ _ => exact ⟨'(', _, rfl, by decide⟩
  | not _ _ _ => exact ⟨'~', _, rfl, by decide⟩
  | and _ _ hs ih =>
    refine hs.head (fun t ht rest => ?_) rest
    obtain ⟨part, hpart, rfl⟩ := List.mem_map.mp ht
    exact ih part hpart rest
  | or _ _ hs ih =>
    refine hs.head (fun t ht rest => ?_) rest
    obtain ⟨part, hpart, rfl⟩ := List.mem_map.mp ht
    exact ih part hpart rest
  | implies _ _ _ _ ihp _ =>
    rw [List.append_assoc]
    exact ihp _
  | conjunction _ ih => exact ih rest
  | disjunction _ ih => exact ih rest
  | implication _ ih => exact ih rest

/-! ## Lists of locations -/

theorem afterBrackets?_char {c : Char} (hc : c ∉ ['[', ']', '"', '\'']) (depth : Nat)
    (s : List Char) : afterBrackets? depth (c :: s) = afterBrackets? depth s := by
  simp only [List.mem_cons, List.not_mem_nil, or_false, not_or] at hc
  obtain ⟨hopen, hclose, hquote, hapostrophe⟩ := hc
  rw [afterBrackets?.eq_def]
  show (if c = '[' then _ else _) = _
  rw [if_neg hopen, if_neg hclose, if_neg (by simp [hquote, hapostrophe])]

theorem afterBrackets?_open (depth : Nat) (s : List Char) :
    afterBrackets? depth ('[' :: s) = afterBrackets? (depth + 1) s := by
  rw [afterBrackets?.eq_def]
  rfl

theorem afterBrackets?_close (depth : Nat) (s : List Char) :
    afterBrackets? (depth + 1) (']' :: s) = afterBrackets? depth s := by
  rw [afterBrackets?.eq_def]
  rfl

theorem afterBrackets?_last (s : List Char) : afterBrackets? 0 (']' :: s) = some s := by
  rw [afterBrackets?.eq_def]
  rfl

/-- A list in brackets is skipped up to its closing bracket. -/
theorem afterBrackets?_balanced {s : List Char} (h : Balanced s) (depth : Nat) (rest : List Char) :
    afterBrackets? depth (s ++ rest) = afterBrackets? depth rest := by
  induction h generalizing depth rest with
  | nil => rfl
  | char hc _ ih => rw [List.cons_append, afterBrackets?_char hc, ih]
  | @brackets s t _ _ ihs iht =>
    have hsplit : '[' :: (s ++ ']' :: t) ++ rest = '[' :: (s ++ (']' :: (t ++ rest))) := by simp
    rw [hsplit, afterBrackets?_open, ihs, afterBrackets?_close, iht]

theorem skipLocations_of_head {c : Char} {s : List Char} (hc : c ≠ 'l') :
    skipLocations (c :: s) = c :: s := by
  have hkeyword : keyword "locations".toList (c :: s) = none := keyword_eq_none_of_head hc
  rw [skipLocations, hkeyword]

theorem stops_keyword_of_blanks {u : List Char} (hu : Blanks u) {c : Char}
    (hc : isKeywordChar c = false) (hblank : isBlank c = false) (s : List Char) :
    Stops isKeywordChar (u ++ c :: s) := by
  refine stops_of_skipBlanks ?_
  rw [skipBlanks_append hu, skipBlanks_cons_of_not_blank hblank]
  exact Stops.cons hc s

/-- A list of locations is skipped, with the blanks behind it. -/
theorem skipLocations_written {l : List Char} (hl : WrittenLocations l) {c : Char} {s : List Char}
    (hc : c ≠ 'l') (hblank : isBlank c = false) :
    skipBlanks (skipLocations (skipBlanks (l ++ c :: s))) = c :: s := by
  cases hl with
  | none =>
    rw [List.nil_append, skipBlanks_cons_of_not_blank hblank, skipLocations_of_head hc,
      skipBlanks_cons_of_not_blank hblank]
  | @list u t v hu ht hv =>
    have hstart : skipBlanks ("locations".toList ++ (u ++ '[' :: (t ++ ']' :: v)) ++ c :: s)
        = "locations".toList ++ (u ++ '[' :: (t ++ (']' :: (v ++ c :: s)))) := by
      have hskip : skipBlanks ('l' :: ("ocations".toList ++ (u ++ '[' :: (t ++ (']' :: (v ++ c :: s))))))
          = 'l' :: ("ocations".toList ++ (u ++ '[' :: (t ++ (']' :: (v ++ c :: s))))) :=
        skipBlanks_cons_of_not_blank (by decide) _
      simpa using hskip
    have hkeyword : keyword "locations".toList
        ("locations".toList ++ (u ++ '[' :: (t ++ (']' :: (v ++ c :: s)))))
        = some (u ++ '[' :: (t ++ (']' :: (v ++ c :: s)))) :=
      keyword_append _ (stops_keyword_of_blanks hu (by decide) (by decide) _)
    have hmark : spacedMark '[' (u ++ '[' :: (t ++ (']' :: (v ++ c :: s))))
        = some (t ++ (']' :: (v ++ c :: s))) := spacedMark_append hu (by decide) _
    have hlist : afterBrackets? 0 (t ++ (']' :: (v ++ c :: s))) = some (v ++ c :: s) := by
      rw [afterBrackets?_balanced ht, afterBrackets?_last]
    rw [hstart, skipLocations, hkeyword]
    simp only [hmark, Option.bind_some, hlist]
    rw [skipBlanks_append hv, skipBlanks_cons_of_not_blank hblank]

/-! ## Reading -/

theorem WrittenQuantifier.head {quantify : Proposition → Condition} {q : List Char}
    (hq : WrittenQuantifier quantify q) (rest : List Char) :
    ∃ c r, q ++ rest = c :: r ∧ c ≠ 'l' ∧ isBlank c = false := by
  cases hq with
  | someState => exact ⟨'e', _, rfl, by decide, by decide⟩
  | noState => exact ⟨'~', _, rfl, by decide, by decide⟩
  | everyState => exact ⟨'f', _, rfl, by decide, by decide⟩

theorem quantifier?_exists {rest : List Char} (hrest : Stops isKeywordChar rest) :
    quantifier? ("exists".toList ++ rest) = some (.someState, rest) := by
  have hkeyword := keyword_append "exists".toList hrest
  unfold quantifier?
  split
  · rename_i heq
    exact absurd (List.cons.inj heq).1 (by decide)
  · rw [hkeyword]

theorem quantifier?_forall {rest : List Char} (hrest : Stops isKeywordChar rest) :
    quantifier? ("forall".toList ++ rest) = some (.everyState, rest) := by
  have hexists : keyword "exists".toList ("forall".toList ++ rest) = none :=
    keyword_eq_none_of_head (by decide)
  have hkeyword := keyword_append "forall".toList hrest
  unfold quantifier?
  split
  · rename_i heq
    exact absurd (List.cons.inj heq).1 (by decide)
  · rw [hexists]
    simp only [hkeyword, Option.map_some]

/-- Behind the tilde any spaces are skipped, not only the blanks of the format. -/
theorem quantifier?_tilde {u rest : List Char} (hu : ∀ c ∈ u, isSpace c = true)
    (hend : atWordEnd rest = true) :
    quantifier? ('~' :: (u ++ ("exists".toList ++ rest))) = some (.noState, rest) := by
  have hskip : (u ++ ("exists".toList ++ rest)).dropWhile isSpace = "exists".toList ++ rest := by
    rw [List.dropWhile_append_of_pos hu]
    exact List.dropWhile_cons_of_neg (by decide)
  have hprefix : "exists".toList.isPrefixOf ("exists".toList ++ rest) = true :=
    List.isPrefixOf_iff_prefix.mpr (List.prefix_append _ rest)
  have hdrop : ("exists".toList ++ rest).drop 6 = rest := rfl
  rw [quantifier?]
  simp only [hskip, hprefix, hdrop, hend, Bool.and_true]
  rfl

/-- A quantifier is read where no word goes on. -/
theorem quantifier?_written {quantify : Proposition → Condition} {q rest : List Char}
    (hq : WrittenQuantifier quantify q) (hrest : Stops isKeywordChar rest)
    (hend : atWordEnd rest = true) : quantifier? (q ++ rest) = some (quantify, rest) := by
  cases hq with
  | someState => exact quantifier?_exists hrest
  | noState hu hline =>
    rw [List.cons_append, List.append_assoc]
    exact quantifier?_tilde (fun c hc => isSpace_of_isBlank (hu c hc)) hend
  | everyState => exact quantifier?_forall hrest

/-- What stands behind a quantifier does not continue it. -/
theorem stops_of_gap {p : Proposition} {u s : List Char} (hu : Blanks u)
    (hgap : u = [] → Stops isKeywordChar s) (hs : Written .implication p s) (rest : List Char) :
    Stops isKeywordChar (u ++ (s ++ rest)) ∧ atWordEnd (u ++ (s ++ rest)) = true := by
  cases u with
  | nil =>
    -- what starts a proposition and continues no keyword is part of no word either
    obtain ⟨c, r, hcr, hc⟩ := hs.head rest
    have hkeyword : isKeywordChar c = false := by
      obtain ⟨c', r', hcr', hc'⟩ := hs.head []
      rw [List.append_nil] at hcr'
      have hstop := hgap rfl c' (by rw [hcr']; rfl)
      rw [hcr', List.cons_append] at hcr
      rwa [(List.cons.inj hcr).1] at hstop
    rw [List.nil_append, hcr]
    refine ⟨Stops.cons hkeyword r, ?_⟩
    rw [atWordEnd_cons, isWordChar_of_startsProposition hc hkeyword]
    rfl
  | cons d u =>
    have hd := hu d (by simp)
    simp only [isBlank, Bool.or_eq_true, beq_iff_eq] at hd
    rcases hd with ((rfl | rfl) | rfl) | rfl <;>
      exact ⟨Stops.cons (by decide) _, rfl⟩

/-- A written condition is read as the condition that it was written for. -/
theorem condition?_written {c : Condition} {s u v : List Char} (h : WrittenCondition c s)
    (hu : Blanks u) (hv : Blanks v) : condition? (u ++ (s ++ v)) = some c := by
  cases h with
  | @mk quantify p l q w body hl hq hw hgap hbody =>
    -- the list of locations is skipped first, then the quantifier is read, then the proposition
    obtain ⟨hstop, hend⟩ := stops_of_gap hw hgap hbody v
    have hquantifier := quantifier?_written hq hstop hend
    obtain ⟨d, r, hdr, hd, hblank⟩ := hq.head (w ++ (body ++ v))
    have hskip : skipBlanks (skipLocations (skipBlanks (u ++ (l ++ (q ++ (w ++ body)) ++ v))))
        = q ++ (w ++ (body ++ v)) := by
      have hsplit : l ++ (q ++ (w ++ body)) ++ v = l ++ d :: r := by
        rw [← hdr]
        simp
      rw [skipBlanks_append hu, hsplit, skipLocations_written hl hd hblank, hdr]
    obtain ⟨pieces, hpieces, hgrouped⟩ := Option.bind_eq_some_iff.mp (read_written hbody hw hv)
    simp only [condition?, hskip]
    simp [hquantifier, hpieces, hgrouped]

end Litmus.Source
