import Litmus.Proofs.Lexemes
import Litmus.Source.Grouping

/-!
# Reading pieces

The pieces of a text, one after the other: marks are pieces wherever they stand, an operand is a
piece where something follows that can stand behind it.

* **`Closes`**: what may follow an operand.
* **`operand_true`**, **`operand_holds`**, **`operand_agree`**: the operands that are read.
* **`pieces?_of_piece`**, **`pieces?_of_operand`**: one piece at a time.
-/

namespace Litmus.Source

open Litmus.Text

/-! ## Keywords -/

/-- A keyword is read where no character follows that could continue it. -/
theorem keyword_append (w : List Char) {rest : List Char} (hrest : Stops isKeywordChar rest) :
    keyword w (w ++ rest) = some rest := by
  have hprefix : w.isPrefixOf (w ++ rest) = true :=
    List.isPrefixOf_iff_prefix.mpr (List.prefix_append w rest)
  rw [keyword, if_pos hprefix, List.drop_left]
  cases rest with
  | nil => rfl
  | cons c rest =>
    show (if isKeywordChar c = true then none else some (c :: rest)) = some (c :: rest)
    rw [hrest c rfl]
    rfl

/-- Only what starts with a word starts with it as a keyword. -/
theorem keyword_eq_none {w s : List Char} (h : ¬ w <+: s) : keyword w s = none := by
  have hprefix : ¬ w.isPrefixOf s = true := fun hw => h (List.isPrefixOf_iff_prefix.mp hw)
  rw [keyword, if_neg hprefix]

theorem keyword_eq_none_of_head {c d : Char} {w s : List Char} (h : d ≠ c) :
    keyword (c :: w) (d :: s) = none :=
  keyword_eq_none fun hprefix => h (List.cons_prefix_cons.mp hprefix).1.symm

/-- A name that is read as a keyword where a location is expected: the keyword itself, or the
keyword and a dot. -/
def ReadsAsKeyword (name : List Char) : Prop :=
  ∃ w ∈ ["true".toList, "false".toList], name = w ∨ w ++ ['.'] <+: name

instance (name : List Char) : Decidable (ReadsAsKeyword name) := by
  unfold ReadsAsKeyword
  infer_instance

/-- What continues a keyword, if it is part of a name and no dot. -/
theorem isKeywordChar_of_isNameTail {c : Char} (h : isNameTail c = true) (hdot : c ≠ '.') :
    isKeywordChar c = true := by
  simp only [isNameTail, Bool.or_eq_true, beq_iff_eq] at h
  rcases h with (h | h) | h
  · simp [isKeywordChar, h]
  · simp [isKeywordChar, h]
  · exact absurd h hdot

/-- A name starts with a keyword only if it reads as one. -/
theorem keyword_append_name {w n rest : List Char} (hw : w ∈ ["true".toList, "false".toList])
    (hn : IsName n) (hallowed : ¬ ReadsAsKeyword n) (hrest : Stops isNameTail rest) :
    keyword w (n ++ rest) = none := by
  have hword : ∀ c ∈ w, isNameTail c = true := by
    have hcases : w = "true".toList ∨ w = "false".toList := by simpa using hw
    rcases hcases with rfl | rfl <;> exact List.all_eq_true.mp (by decide)
  by_cases hprefix : w <+: n ++ rest
  · obtain ⟨t, ht⟩ := hprefix
    -- the keyword ends inside the name
    have hinside : w <+: n := by
      have hmax : n = (n ++ rest).takeWhile isNameTail := by
        rw [List.takeWhile_append_of_pos (isNameTail_of_isName hn)]
        cases rest with
        | nil => simp
        | cons c rest => simp [hrest c rfl]
      rw [hmax, ← ht, List.takeWhile_append_of_pos hword]
      exact List.prefix_append _ _
    obtain ⟨m, rfl⟩ := hinside
    cases m with
    | nil => exact absurd ⟨w, hw, .inl (List.append_nil w)⟩ hallowed
    | cons c m =>
      have hdot : c ≠ '.' := by
        rintro rfl
        exact hallowed ⟨w, hw, .inr ⟨m, by simp⟩⟩
      have hc := isKeywordChar_of_isNameTail (isNameTail_of_isName hn c (by simp)) hdot
      have hself : w.isPrefixOf (w ++ c :: m ++ rest) = true :=
        List.isPrefixOf_iff_prefix.mpr ⟨c :: m ++ rest, by simp⟩
      rw [keyword, if_pos hself, List.append_assoc, List.drop_left, List.cons_append]
      show (if isKeywordChar c = true then none else some (c :: (m ++ rest))) = none
      rw [if_pos hc]
  · exact keyword_eq_none hprefix

theorem isKeywordChar_of_isBlank {c : Char} (h : isBlank c = true) : isKeywordChar c = false := by
  simp only [isBlank, Bool.or_eq_true, beq_iff_eq] at h
  rcases h with ((rfl | rfl) | rfl) | rfl <;> decide

/-- What follows the blanks decides whether a keyword goes on. -/
theorem stops_of_skipBlanks {s : List Char} (h : Stops isKeywordChar (skipBlanks s)) :
    Stops isKeywordChar s := by
  cases s with
  | nil => exact Stops.nil _
  | cons c s =>
    by_cases hblank : isBlank c = true
    · exact Stops.cons (isKeywordChar_of_isBlank hblank) s
    · rwa [skipBlanks_cons_of_not_blank (Bool.eq_false_iff.mpr hblank)] at h

/-! ## Operands -/

/-- What may follow an operand: the marks that close, connect or chain. -/
def Closes (rest : List Char) : Prop :=
  ∀ c ∈ (skipBlanks rest).head?, c ∈ [')', '/', '\\', '=']

theorem Closes.ends {rest : List Char} (h : Closes rest) : Ends rest := by
  intro c hc
  have hmark := h c hc
  simp only [List.mem_cons, List.not_mem_nil, or_false] at hmark
  rcases hmark with rfl | rfl | rfl | rfl <;> decide

theorem Closes.blanks {u : List Char} (hu : Blanks u) : Closes u := by
  have hskip : skipBlanks u = [] := by
    have h := skipBlanks_append hu []
    rwa [List.append_nil] at h
  intro c hc
  rw [hskip] at hc
  exact absurd hc (by simp)

theorem Closes.mark {u : List Char} (hu : Blanks u) {c : Char} (hc : c ∈ [')', '/', '\\', '='])
    (s : List Char) : Closes (u ++ c :: s) := by
  have hblank : isBlank c = false := by
    simp only [List.mem_cons, List.not_mem_nil, or_false] at hc
    rcases hc with rfl | rfl | rfl | rfl <;> decide
  intro d hd
  rw [skipBlanks_append hu, skipBlanks_cons_of_not_blank hblank] at hd
  rw [← Option.some.inj hd]
  exact hc

theorem Closes.stops {rest : List Char} (h : Closes rest) : Stops isKeywordChar rest := by
  refine stops_of_skipBlanks fun c hc => ?_
  have hmark := h c hc
  simp only [List.mem_cons, List.not_mem_nil, or_false] at hmark
  rcases hmark with rfl | rfl | rfl | rfl <;> decide

theorem operand_true {rest : List Char} (h : Closes rest) :
    operand ("true".toList ++ rest) = some (.and [], rest) := by
  rw [operand, keyword_append _ h.stops]

theorem operand_false {rest : List Char} (h : Closes rest) :
    operand ("false".toList ++ rest) = some (.or [], rest) := by
  have htrue : keyword "true".toList ("false".toList ++ rest) = none :=
    keyword_eq_none_of_head (by decide)
  have hfalse : keyword "false".toList ("false".toList ++ rest) = some rest :=
    keyword_append _ h.stops
  simp only [operand, htrue, hfalse]

theorem keyword_eq_none_of_isNameHead {w : List Char} (hw : w ∈ ["true".toList, "false".toList])
    {c : Char} (hc : isNameHead c = false) (s : List Char) : keyword w (c :: s) = none := by
  have hcases : w = "true".toList ∨ w = "false".toList := by simpa using hw
  rcases hcases with rfl | rfl
  · refine keyword_eq_none_of_head ?_
    rintro rfl
    exact absurd hc (by decide)
  · refine keyword_eq_none_of_head ?_
    rintro rfl
    exact absurd hc (by decide)

/-- A location on the left of an atom starts with no keyword. -/
theorem keyword_append_location {w s rest : List Char} {place : Location}
    (hw : w ∈ ["true".toList, "false".toList])
    (hs : WrittenLocation (fun n => ¬ ReadsAsKeyword n) place s) (hrest : Stops isNameTail rest) :
    keyword w (s ++ rest) = none := by
  cases hs with
  | marked hs =>
    have hhead : ∃ c r, s = c :: r ∧ isNameHead c = false := by
      cases hs with
      | @register ds u v n hdigits _ _ _ =>
        cases ds with
        | nil => exact absurd rfl hdigits.ne_nil
        | cons c ds => exact ⟨c, _, rfl, isNameHead_of_isDigit hdigits.1⟩
      | symbolicRegister => exact ⟨'%', _, rfl, by decide⟩
      | number => exact ⟨'[', _, rfl, by decide⟩
      | name => exact ⟨'[', _, rfl, by decide⟩
    obtain ⟨c, r, rfl, hc⟩ := hhead
    exact keyword_eq_none_of_isNameHead hw hc _
  | cell hname hallowed hu hv hdigits hw' =>
    rw [List.append_assoc]
    refine keyword_append_name hw hname hallowed ?_
    rw [List.append_assoc]
    exact stops_blanks_append hu (by decide) _
  | name hname hallowed => exact keyword_append_name hw hname hallowed hrest

/-- Behind the left side of an atom stands what is read from its right side. -/
theorem operand_atom {place : Location} {s u v t rest : List Char} {p : Proposition}
    (hs : WrittenLocation (fun n => ¬ ReadsAsKeyword n) place s) (hu : Blanks u) (hv : Blanks v)
    (ht : skipBlanks (t ++ rest) = t ++ rest) (hright : atomRight place (t ++ rest) = some (p, rest)) :
    operand (s ++ (u ++ '=' :: (v ++ t)) ++ rest) = some (p, rest) := by
  simp only [List.append_assoc, List.cons_append]
  -- neither keyword is read, and the location ends at the equals sign
  have hstop : Stops isNameTail (u ++ '=' :: (v ++ (t ++ rest))) :=
    stops_blanks_append hu (by decide) _
  have htrue := keyword_append_location (w := "true".toList) (by simp) hs hstop
  have hfalse := keyword_append_location (w := "false".toList) (by simp) hs hstop
  have hends : Ends (u ++ '=' :: (v ++ (t ++ rest))) := (Closes.mark hu (by simp) _).ends
  have hskip : skipBlanks (u ++ '=' :: (v ++ (t ++ rest))) = '=' :: (v ++ (t ++ rest)) := by
    rw [skipBlanks_append hu, skipBlanks_cons_of_not_blank (by decide)]
  have hplace := location_append hs hends (by rw [hskip]; simp)
  have hmark : spacedMark '=' (u ++ '=' :: (v ++ (t ++ rest))) = some (v ++ (t ++ rest)) :=
    spacedMark_append hu (by decide) _
  have hatom : atom (s ++ (u ++ '=' :: (v ++ (t ++ rest)))) = some (p, rest) := by
    simp [atom, hplace, hmark, skipBlanks_append hv, ht, hright]
  rw [operand, htrue, hfalse]
  exact hatom

theorem operand_holds {place : Location} {value : Constant} {s u v t rest : List Char}
    (hs : WrittenLocation (fun n => ¬ ReadsAsKeyword n) place s) (hu : Blanks u) (hv : Blanks v)
    (ht : WrittenConstant value t) (hrest : Closes rest) :
    operand (s ++ (u ++ '=' :: (v ++ t)) ++ rest) = some (.holds place value, rest) := by
  refine operand_atom hs hu hv (ht.skipBlanks rest) ?_
  rw [atomRight, markedLocation_eq_none ht hrest.ends, constant_append ht hrest.ends]
  rfl

theorem operand_agree {left right : Location} {s u v t rest : List Char}
    (hs : WrittenLocation (fun n => ¬ ReadsAsKeyword n) left s) (hu : Blanks u) (hv : Blanks v)
    (ht : WrittenMarked right t) (hrest : Closes rest) :
    operand (s ++ (u ++ '=' :: (v ++ t)) ++ rest) = some (.agree left right, rest) := by
  refine operand_atom hs hu hv (ht.skipBlanks rest) ?_
  rw [atomRight, markedLocation_append ht hrest.ends]

/-! ## Pieces -/

theorem operand_eq_none {c : Char} {s : List Char} (hdigit : c.isDigit = false)
    (hname : isNameHead c = false) (hpercent : c ≠ '%') (hbracket : c ≠ '[') :
    operand (c :: s) = none := by
  have htrue : keyword "true".toList (c :: s) = none :=
    keyword_eq_none_of_isNameHead (by simp) hname s
  have hfalse : keyword "false".toList (c :: s) = none :=
    keyword_eq_none_of_isNameHead (by simp) hname s
  have hword : name (c :: s) = none := word_eq_none (Stops.cons hname s)
  have hlocation : location (c :: s) = none := by
    rw [location, markedLocation, registerLocation_eq_none (Stops.cons hdigit s),
      symbolicRegisterLocation_eq_none (by simpa using hpercent),
      addressLocation_eq_none (by simpa using hbracket)]
    simp [cellLocation, globalLocation, hword]
  rw [operand, htrue, hfalse]
  simp [atom, hlocation]

/-- The characters that operands start with. -/
theorem head_of_operand {c : Char} {s rest : List Char} {p : Proposition}
    (h : operand (c :: s) = some (p, rest)) :
    isBlank c = false ∧ c ∉ ['(', ')', '~', '/', '\\', '='] := by
  constructor
  · cases hblank : isBlank c with
    | false => rfl
    | true =>
      have htail := isNameTail_of_isBlank hblank
      have hdigit : c.isDigit = false := by
        cases hd : c.isDigit with
        | false => rfl
        | true => rw [isNameTail_of_isDigit hd] at htail; exact htail
      have hname : isNameHead c = false := by
        cases hn : isNameHead c with
        | false => rfl
        | true => rw [isNameTail_of_isNameHead hn] at htail; exact htail
      rw [operand_eq_none hdigit hname (by rintro rfl; exact absurd hblank (by decide))
        (by rintro rfl; exact absurd hblank (by decide))] at h
      exact absurd h (by simp)
  · intro hmark
    have hnone : operand (c :: s) = none := by
      simp only [List.mem_cons, List.not_mem_nil, or_false] at hmark
      rcases hmark with rfl | rfl | rfl | rfl | rfl | rfl <;>
        exact operand_eq_none (by decide) (by decide) (by decide) (by decide)
    rw [hnone] at h
    exact absurd h (by simp)

theorem piece_of_operand {s rest : List Char} {p : Proposition} (h : operand s = some (p, rest)) :
    piece s = some (.operand p, rest) := by
  cases s with
  | nil => exact absurd (length_operand h) (by simp)
  | cons c s =>
    have hc := (head_of_operand h).2
    unfold piece
    split
    case h_7 => rw [h]; rfl
    -- the other pieces start with a mark, and no operand does
    all_goals
      rename_i heq
      rw [(List.cons.inj heq).1] at hc
      exact absurd hc (by simp)

theorem pieces?_append_blanks {u : List Char} (hu : Blanks u) (s : List Char) :
    pieces? (u ++ s) = pieces? s := by
  rw [pieces?, pieces?, skipBlanks_append hu]

theorem pieces?_of_piece {c : Char} {s rest : List Char} {p : Piece} (hc : isBlank c = false)
    (h : piece (c :: s) = some (p, rest)) : pieces? (c :: s) = (pieces? rest).map (p :: ·) := by
  rw [pieces?]
  split
  · rename_i hskip
    rw [skipBlanks_cons_of_not_blank hc] at hskip
    exact absurd hskip (by simp)
  · rename_i c' s' hskip
    rw [skipBlanks_cons_of_not_blank hc] at hskip
    obtain ⟨rfl, rfl⟩ := List.cons.inj hskip
    split
    · rename_i hnone
      rw [h] at hnone
      exact absurd hnone (by simp)
    · rename_i p' rest' hsome
      rw [h] at hsome
      obtain ⟨rfl, rfl⟩ := Prod.mk.inj (Option.some.inj hsome)
      rfl

theorem pieces?_of_operand {s rest : List Char} {p : Proposition}
    (h : operand s = some (p, rest)) : pieces? s = (pieces? rest).map (.operand p :: ·) := by
  cases s with
  | nil => exact absurd (length_operand h) (by simp)
  | cons c s => exact pieces?_of_piece (head_of_operand h).1 (piece_of_operand h)

end Litmus.Source
