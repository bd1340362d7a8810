import Litmus.Proofs.Margins
import Litmus.Proofs.Pieces

/-!
# Scanners and margins

What the scanners read does not depend on the margins of the lines. Scanners are put together from
marks and words, one behind the other or as alternatives, and so is the proof: a property that marks
and words have, and that putting together keeps.

* **`Steady`**: a scanner reads no white space but blanks, and reads a text and the trimmed text
  alike. **`Steady.andThen`**, **`Steady.or`** and their likes: what is made of steady scanners.
* **`steady_constant`**, **`steady_location`**, **`steady_operand`**, **`steady_piece`**: scanners.
* **`pieces?_trimmed`**: a text and the trimmed text are cut into the same pieces.
* **`plain_of_pieces?`**: a text that is cut into pieces holds no white space but blanks.
-/

namespace Litmus.Source

open Litmus.Text

/-! ## Steady scanners -/

/-- A text whose white space is blanks. -/
def Plain (s : List Char) : Prop :=
  ∀ c ∈ s, isSpace c = true → isBlank c = true

theorem Plain.append {s t : List Char} (hs : Plain s) (ht : Plain t) : Plain (s ++ t) := by
  intro c hc
  rcases List.mem_append.mp hc with hc | hc
  · exact hs c hc
  · exact ht c hc

theorem plain_of_words {w : List Char} (hw : ∀ c ∈ w, isSpace c = false) : Plain w := by
  intro c hc hspace
  rw [hw c hc] at hspace
  cases hspace

/-- What has been read in front of the rest of a text holds no white space but blanks. -/
def Reads (s rest : List Char) : Prop :=
  ∃ w, s = w ++ rest ∧ Plain w

theorem Reads.trans {s t u : List Char} (h : Reads s t) (h' : Reads t u) : Reads s u := by
  obtain ⟨w, rfl, hw⟩ := h
  obtain ⟨w', rfl, hw'⟩ := h'
  exact ⟨w ++ w', (List.append_assoc w w' u).symm, hw.append hw'⟩

theorem Reads.refl (s : List Char) : Reads s s :=
  ⟨[], rfl, plain_of_words (by simp)⟩

theorem reads_skipBlanks (s : List Char) : Reads s (skipBlanks s) :=
  ⟨s.takeWhile isBlank, List.takeWhile_append_dropWhile.symm,
    fun _ hc _ => List.mem_takeWhile_imp hc⟩

/-- Two readings of the same, with rests of which one is the other trimmed. -/
def Alike {α : Type} (x y : Option (α × List Char)) : Prop :=
  Option.Rel (fun p q => p.1 = q.1 ∧ Trimmed isBlank p.2 q.2) x y

/-- A scanner that does not mind where the lines have their margins. -/
structure Steady {α : Type} (scan : Scanner α) : Prop where
  reads : ∀ {s rest a}, scan s = some (a, rest) → Reads s rest
  alike : ∀ {s t}, Trimmed isBlank s t → Alike (scan s) (scan t)

section Together

variable {α β : Type}

theorem Steady.pure (a : α) : Steady fun s => some (a, s) where
  reads h := by
    rw [(Prod.mk.inj (Option.some.inj h)).2]
    exact Reads.refl _
  alike h := .some ⟨rfl, h⟩

/-- One scanner behind another. -/
theorem Steady.andThen {scan : Scanner α} {next : α → Scanner β} (h : Steady scan)
    (h' : ∀ a, Steady (next a)) : Steady fun s => (scan s).bind fun x => next x.1 x.2 where
  reads hread := by
    obtain ⟨⟨a, t⟩, hscan, hnext⟩ := Option.bind_eq_some_iff.mp hread
    exact (h.reads hscan).trans ((h' a).reads hnext)
  alike {s t} hst := by
    have hscan := h.alike hst
    generalize scan s = x, scan t = y at hscan
    cases hscan with
    | none => exact .none
    | @some p q hpq =>
      obtain ⟨a, s'⟩ := p
      obtain ⟨b, t'⟩ := q
      obtain ⟨hab, hrest⟩ := hpq
      obtain rfl : a = b := hab
      exact (h' a).alike hrest

/-- A scanner and, where it reads nothing, another. -/
theorem Steady.or {scan scan' : Scanner α} (h : Steady scan) (h' : Steady scan') :
    Steady fun s => (scan s).or (scan' s) where
  reads hread := by
    rcases Option.or_eq_some_iff.mp hread with hread | ⟨-, hread⟩
    · exact h.reads hread
    · exact h'.reads hread
  alike {s t} hst := by
    have hscan := h.alike hst
    have hscan' := h'.alike hst
    -- the first scanner fails on both texts or on neither, so the same alternative is taken
    show Alike ((scan s).or (scan' s)) ((scan t).or (scan' t))
    generalize scan s = x, scan t = y at hscan
    cases hscan with
    | none => exact hscan'
    | some hpq => exact .some hpq

theorem Steady.map {scan : Scanner α} (h : Steady scan) (f : α → β) :
    Steady fun s => (scan s).map fun x => (f x.1, x.2) where
  reads hread := by
    obtain ⟨⟨a, t⟩, hscan, heq⟩ := Option.map_eq_some_iff.mp hread
    rw [← (Prod.mk.inj heq).2]
    exact h.reads hscan
  alike {s t} hst := by
    have hscan := h.alike hst
    generalize scan s = x, scan t = y at hscan
    cases hscan with
    | none => exact .none
    | some hpq => exact .some ⟨congrArg f hpq.1, hpq.2⟩

/-- A scanner behind blanks. -/
theorem Steady.skipped {scan : Scanner α} (h : Steady scan) :
    Steady fun s => scan (skipBlanks s) where
  reads hread := (reads_skipBlanks _).trans (h.reads hread)
  alike {s t} hst := by
    have hstop : Stops isBlank (skipBlanks s) := stops_dropWhile isBlank s
    exact h.alike (hst.skipBlanks hstop)

/-- A scanner behind a mark. -/
theorem Steady.marked {d : Char} (hd : isSpace d = false) {scan : Scanner α} (h : Steady scan) :
    Steady fun s => (mark d s).bind scan where
  reads {s rest a} hread := by
    obtain ⟨t, hmark, hscan⟩ := Option.bind_eq_some_iff.mp hread
    have hs : s = [d] ++ t := mark_eq_some.mp hmark
    exact Reads.trans ⟨[d], hs, plain_of_words (by simpa using hd)⟩ (h.reads hscan)
  alike {s t} hst := by
    -- both start with the mark, or neither does
    rcases hst.cases with ⟨c, a, b, rfl, rfl, -, -, hab⟩ | ⟨hs, ht⟩
    · by_cases hc : c = d
      · subst hc
        simpa using h.alike hab
      · have hnone : ∀ r, mark d (c :: r) = none := fun r => mark_eq_none (by simpa using hc)
        rw [hnone, hnone]
        exact .none
    · have hnone : ∀ {r}, Pauses isBlank r → mark d r = none := fun hr =>
        mark_eq_none (hr.head?_ne (isBlank_of_isSpace hd) (ne_newline hd))
      rw [hnone hs, hnone ht]
      exact .none

/-- A scanner behind blanks and a mark. -/
theorem Steady.spaced {d : Char} (hd : isSpace d = false) {scan : Scanner α} (h : Steady scan) :
    Steady fun s => (spacedMark d s).bind scan :=
  (h.marked hd).skipped

end Together

/-! ## Words -/

theorem steady_word {head tail : Char → Bool} (hhead : ∀ c, head c = true → isSpace c = false)
    (htail : ∀ c, tail c = true → isSpace c = false) : Steady (word head tail) where
  reads {s rest w} hread := by
    obtain ⟨hw, rfl, -⟩ := isWord_of_word hread
    refine ⟨w, rfl, plain_of_words fun c hc => ?_⟩
    cases w with
    | nil => exact absurd hw id
    | cons d w =>
      rcases List.mem_cons.mp hc with rfl | hc
      · exact hhead c hw.1
      · exact htail c (hw.2 c hc)
  alike {s t} hst := by
    have hblank : ∀ {p : Char → Bool}, (∀ c, p c = true → isSpace c = false) →
        ∀ c, isBlank c = true → p c = false := by
      intro p hp c hc
      cases hpc : p c with
      | false => rfl
      | true =>
        have hspace := hp c hpc
        rw [isSpace_of_isBlank hc] at hspace
        cases hspace
    rcases hst.cases with ⟨c, a, b, rfl, rfl, -, -, hab⟩ | ⟨hs, ht⟩
    · obtain ⟨hword, hrest⟩ := hab.word (hblank htail) (hblank htail '\n' (by decide))
      rw [word, word]
      split
      · exact .some ⟨congrArg (c :: ·) hword, hrest⟩
      · exact .none
    · have hnone : ∀ {r}, Pauses isBlank r → word head tail r = none := fun hr =>
        word_eq_none (hr.stops (hblank hhead) (hblank hhead '\n' (by decide)))
      rw [hnone hs, hnone ht]
      exact .none

theorem steady_name : Steady name :=
  steady_word (fun _ h => isSpace_of_isNameTail (isNameTail_of_isNameHead h))
    fun _ h => isSpace_of_isNameTail h

theorem steady_digits : Steady digits :=
  steady_word (fun _ h => isSpace_of_isNameTail (isNameTail_of_isDigit h))
    fun _ h => isSpace_of_isNameTail (isNameTail_of_isDigit h)

theorem steady_labelName : Steady labelName :=
  steady_word (fun _ h => isSpace_of_isNameTail (isNameTail_of_isLabelHead h))
    fun _ h => isSpace_of_isNameTail h

theorem steady_hexDigits : Steady (word isHexDigit isHexDigit) :=
  steady_word (fun _ h => isSpace_of_isNameTail (isNameTail_of_isHexDigit h))
    fun _ h => isSpace_of_isNameTail (isNameTail_of_isHexDigit h)

theorem steady_registerName : Steady (word isNameHead isRegisterTail) :=
  steady_word (fun _ h => isSpace_of_isNameTail (isNameTail_of_isNameHead h))
    fun _ h => isSpace_of_isNameTail (isNameTail_of_isRegisterTail h)

/-! ## Numbers -/

theorem mark_mark_eq_none {c d : Char} {s : List Char} (h : ∀ rest, s = c :: d :: rest → False) :
    (mark c s).bind (mark d) = none := by
  refine Option.eq_none_iff_forall_ne_some.mpr fun rest hrest => ?_
  obtain ⟨t, ht, hrest⟩ := Option.bind_eq_some_iff.mp hrest
  exact h rest (by rw [mark_eq_some.mp ht, mark_eq_some.mp hrest])

/-- A number without sign is hexadecimal digits behind their mark or, failing that, decimal ones. -/
theorem unsignedNumber_eq (s : List Char) :
    unsignedNumber s = ((mark '0' s).bind fun s => (mark 'x' s).bind fun s =>
      (word isHexDigit isHexDigit s).map fun x => ('0' :: 'x' :: x.1, x.2)).or (digits s) := by
  unfold unsignedNumber
  split
  · rename_i rest
    cases hword : word isHexDigit isHexDigit rest with
    | none => simp [hword]
    | some x => simp [hword]
  · rename_i hne
    rw [← Option.bind_assoc, mark_mark_eq_none hne]
    rfl

theorem steady_unsignedNumber : Steady unsignedNumber := by
  have hhex := steady_hexDigits.map fun w => '0' :: 'x' :: w
  have h := ((hhex.marked (d := 'x') (by decide)).marked (d := '0') (by decide)).or steady_digits
  rwa [← funext unsignedNumber_eq] at h

/-- A sign and a number, or a number without sign. -/
theorem number_eq (s : List Char) :
    number s = ((mark '-' s).bind fun s => (unsignedNumber s).map fun x => ('-' :: x.1, x.2)).or
      (unsignedNumber s) := by
  unfold number
  split
  · rename_i rest
    -- behind a sign that no number follows, no number starts either
    have hdigits : digits ('-' :: rest) = none := word_eq_none (Stops.cons (by decide) rest)
    have hsign : unsignedNumber ('-' :: rest) = none := hdigits
    rw [mark_cons, hsign, Option.or_none]
    rfl
  · rename_i hne
    have hnone : mark '-' s = none :=
      Option.eq_none_iff_forall_ne_some.mpr fun rest hrest => hne rest (mark_eq_some.mp hrest)
    rw [hnone]
    rfl

theorem steady_number : Steady number := by
  have h := ((steady_unsignedNumber.map fun w => '-' :: w).marked (d := '-') (by decide)).or
    steady_unsignedNumber
  rwa [← funext number_eq] at h

/-! ## Constants and locations -/

theorem steady_labelConstant : Steady labelConstant := by
  have h : Steady _ := Steady.marked (d := 'P') (by decide) (steady_digits.andThen fun thread =>
    Steady.marked (d := ':') (by decide) (steady_labelName.andThen fun label =>
      Steady.pure (Constant.label (naturalOf thread) (String.ofList label))))
  exact h

theorem steady_concreteConstant : Steady concreteConstant := by
  have h : Steady _ := steady_number.andThen fun w => .pure (Constant.concrete (String.ofList w))
  exact h

theorem steady_symbolicConstant : Steady symbolicConstant := by
  have h : Steady _ := steady_name.andThen fun w => .pure (Constant.symbolic (String.ofList w))
  exact h

theorem steady_constant : Steady constant :=
  steady_labelConstant.or (steady_concreteConstant.or steady_symbolicConstant)

theorem steady_registerLocation : Steady registerLocation := by
  have h : Steady _ := steady_digits.andThen fun thread =>
    Steady.spaced (d := ':') (by decide) (steady_registerName.andThen fun register =>
      Steady.pure (Location.register (naturalOf thread) (String.ofList register))).skipped
  exact h

theorem steady_symbolicRegisterLocation : Steady symbolicRegisterLocation := by
  have h : Steady _ := Steady.marked (d := '%') (by decide) (steady_name.andThen fun register =>
    Steady.pure (Location.symbolicRegister (String.ofList register))).skipped
  exact h

theorem steady_addressLocation : Steady addressLocation := by
  have h : Steady _ := Steady.marked (d := '[') (by decide)
    ((steady_concreteConstant.or steady_symbolicConstant).andThen fun address =>
      Steady.spaced (d := ']') (by decide) (.pure (Location.global address))).skipped
  exact h

theorem steady_cellLocation : Steady cellLocation := by
  have h : Steady _ := steady_name.andThen fun base =>
    Steady.spaced (d := '[') (by decide) (steady_digits.andThen fun index =>
      Steady.spaced (d := ']') (by decide)
        (.pure (Location.cell (.symbolic (String.ofList base)) (naturalOf index)))).skipped
  exact h

theorem steady_globalLocation : Steady globalLocation := by
  have h : Steady _ := steady_name.andThen fun w =>
    .pure (Location.global (.symbolic (String.ofList w)))
  exact h

theorem steady_markedLocation : Steady markedLocation :=
  steady_registerLocation.or (steady_symbolicRegisterLocation.or steady_addressLocation)

theorem steady_location : Steady location :=
  steady_markedLocation.or (steady_cellLocation.or steady_globalLocation)

/-! ## Pieces -/

theorem keyword_eq_some {w s rest : List Char} :
    keyword w s = some rest ↔ s = w ++ rest ∧ Stops isKeywordChar rest := by
  constructor
  · intro h
    rw [keyword] at h
    split at h
    · rename_i hprefix
      obtain ⟨t, rfl⟩ := List.isPrefixOf_iff_prefix.mp hprefix
      rw [List.drop_left] at h
      cases t with
      | nil =>
        rw [← Option.some.inj h]
        exact ⟨rfl, Stops.nil _⟩
      | cons c t =>
        cases hc : isKeywordChar c with
        | true => simp [hc] at h
        | false =>
          simp only [hc, Bool.false_eq_true, if_false, Option.some.injEq] at h
          rw [← h]
          exact ⟨rfl, Stops.cons hc t⟩
    · cases h
  · rintro ⟨rfl, hrest⟩
    exact keyword_append w hrest

/-- A keyword is there before and after trimming, and the same is left behind it. -/
theorem alike_keyword {w : List Char} (hw : ∀ c ∈ w, isSpace c = false) {s t : List Char}
    (h : Trimmed isBlank s t) :
    Option.Rel (Trimmed isBlank) (keyword w s) (keyword w t) := by
  have hstay : ∀ c ∈ w, isBlank c = false ∧ c ≠ '\n' := fun c hc =>
    ⟨isBlank_of_isSpace (hw c hc), ne_newline (hw c hc)⟩
  -- blanks and line feeds continue no keyword
  have hstops : ∀ {a b}, Trimmed isBlank a b → (Stops isKeywordChar a ↔ Stops isKeywordChar b) :=
    fun hab => hab.stops_iff (fun _ => isKeywordChar_of_isBlank) (by decide)
  cases hs : keyword w s with
  | some a =>
    obtain ⟨rfl, hstop⟩ := keyword_eq_some.mp hs
    obtain ⟨b, rfl, hab⟩ := h.of_append hstay
    rw [keyword_append w ((hstops hab).mp hstop)]
    exact .some hab
  | none =>
    cases ht : keyword w t with
    | none => exact .none
    | some b =>
      obtain ⟨rfl, hstop⟩ := keyword_eq_some.mp ht
      obtain ⟨a, rfl, hab⟩ := h.to_append hstay
      rw [keyword_append w ((hstops hab).mpr hstop)] at hs
      cases hs

theorem steady_keyword {w : List Char} (hw : ∀ c ∈ w, isSpace c = false) {α : Type} (a : α) :
    Steady fun s => (keyword w s).map fun rest => (a, rest) where
  reads {s rest b} hread := by
    obtain ⟨t, hkeyword, heq⟩ := Option.map_eq_some_iff.mp hread
    obtain ⟨-, rfl⟩ := Prod.mk.inj heq
    exact ⟨w, (keyword_eq_some.mp hkeyword).1, plain_of_words hw⟩
  alike {s t} hst := by
    have hkeyword := alike_keyword hw hst
    generalize keyword w s = x, keyword w t = y at hkeyword
    cases hkeyword with
    | none => exact .none
    | some hab => exact .some ⟨rfl, hab⟩

theorem atomRight_eq (left : Location) (s : List Char) :
    atomRight left s = ((markedLocation s).map fun x => (.agree left x.1, x.2)).or
      ((constant s).map fun x => (.holds left x.1, x.2)) := by
  rw [atomRight]
  cases markedLocation s with
  | none => rfl
  | some x => rfl

theorem steady_atomRight (left : Location) : Steady (atomRight left) := by
  have h := (steady_markedLocation.map (Proposition.agree left)).or
    (steady_constant.map (Proposition.holds left))
  rwa [← funext (atomRight_eq left)] at h

theorem steady_atom : Steady atom := by
  have h : Steady _ := steady_location.andThen fun left =>
    Steady.spaced (d := '=') (by decide) (steady_atomRight left).skipped
  exact h

theorem operand_eq (s : List Char) :
    operand s = ((keyword "true".toList s).map fun rest => (Proposition.and [], rest)).or
      (((keyword "false".toList s).map fun rest => (Proposition.or [], rest)).or (atom s)) := by
  rw [operand]
  cases keyword "true".toList s with
  | none =>
    cases keyword "false".toList s with
    | none => rfl
    | some rest => rfl
  | some rest => rfl

theorem steady_operand : Steady operand := by
  have h := (steady_keyword (w := "true".toList) (isSpace_of_all (by decide)) (Proposition.and [])).or
    ((steady_keyword (w := "false".toList) (isSpace_of_all (by decide)) (Proposition.or [])).or
      steady_atom)
  rwa [← funext operand_eq] at h

/-- A piece is one of the marks or, where none of them stands, an operand. -/
theorem piece_eq (s : List Char) :
    piece s = ((mark '(' s).bind fun s => some (.opening, s)).or
      (((mark ')' s).bind fun s => some (.closing, s)).or
      (((mark '~' s).bind fun s => some (.not, s)).or
      (((mark '/' s).bind fun s => (mark '\\' s).bind fun s => some (.and, s)).or
      (((mark '\\' s).bind fun s => (mark '/' s).bind fun s => some (.or, s)).or
      (((mark '=' s).bind fun s => (mark '>' s).bind fun s => some (.implies, s)).or
      ((operand s).map fun x => (.operand x.1, x.2))))))) := by
  have hone : ∀ {c}, (∀ r, s = c :: r → False) → mark c s = none := fun hne =>
    Option.eq_none_iff_forall_ne_some.mpr fun r hr => hne r (mark_eq_some.mp hr)
  unfold piece
  split
  case h_7 h₁ h₂ h₃ h₄ h₅ h₆ =>
    -- none of the marks stands here
    rw [hone h₁, hone h₂, hone h₃, ← Option.bind_assoc, mark_mark_eq_none h₄, ← Option.bind_assoc,
      mark_mark_eq_none h₅, ← Option.bind_assoc, mark_mark_eq_none h₆]
    rfl
  all_goals rfl

theorem steady_piece : Steady piece := by
  have hoperand := steady_operand.map Piece.operand
  have hlong : ∀ {c d : Char} (_ : isSpace c = false) (_ : isSpace d = false) (p : Piece),
      Steady fun s => (mark c s).bind fun s => (mark d s).bind fun s => some (p, s) :=
    fun hc hd p => ((Steady.pure p).marked hd).marked hc
  have h := ((Steady.pure Piece.opening).marked (d := '(') (by decide)).or
    (((Steady.pure Piece.closing).marked (d := ')') (by decide)).or
    (((Steady.pure Piece.not).marked (d := '~') (by decide)).or
    ((hlong (c := '/') (d := '\\') (by decide) (by decide) .and).or
    ((hlong (c := '\\') (d := '/') (by decide) (by decide) .or).or
    ((hlong (c := '=') (d := '>') (by decide) (by decide) .implies).or hoperand)))))
  rwa [← funext piece_eq] at h

/-! ## Whole texts -/

/-- A text that is cut into pieces holds no white space but blanks. -/
theorem plain_of_pieces? {s : List Char} {pieces : List Piece} (h : pieces? s = some pieces) :
    Plain s := by
  fun_induction pieces? s generalizing pieces with
  | case1 s hskip =>
    have hblanks : ∀ c ∈ s, isBlank c = true := List.dropWhile_eq_nil_iff.mp hskip
    exact fun c hc _ => hblanks c hc
  | case2 => cases h
  | case3 s c s' hskip p rest hpiece ih =>
    obtain ⟨pieces', hpieces', -⟩ := Option.map_eq_some_iff.mp h
    have hread : Reads s rest := by
      have hskipped := reads_skipBlanks s
      rw [hskip] at hskipped
      exact hskipped.trans (steady_piece.reads hpiece)
    obtain ⟨w, rfl, hw⟩ := hread
    exact hw.append (ih hpieces')

theorem pieces?_of_blank {s : List Char} (h : skipBlanks s = []) : pieces? s = some [] := by
  rw [pieces?]
  split
  · rfl
  · rename_i hskip
    rw [h] at hskip
    cases hskip

theorem pieces?_of_cons {s r : List Char} {c : Char} (h : skipBlanks s = c :: r) :
    pieces? s = (piece (c :: r)).bind fun x => (pieces? x.2).map (x.1 :: ·) := by
  rw [pieces?]
  split
  · rename_i hskip
    rw [h] at hskip
    cases hskip
  · rename_i c' r' hskip
    rw [h] at hskip
    obtain ⟨rfl, rfl⟩ := List.cons.inj hskip
    split
    · rename_i hpiece
      simp only [hpiece, Option.bind_none]
    · rename_i p rest hpiece
      simp only [hpiece, Option.bind_some]

/-- A text and the text with trimmed lines are cut into the same pieces. -/
theorem pieces?_trimmed {s t : List Char} (h : Trimmed isBlank s t) : pieces? t = pieces? s := by
  have hskip := h.skipBlanks (stops_dropWhile isBlank s)
  cases hs : skipBlanks s with
  | nil =>
    rw [hs] at hskip
    have ht : skipBlanks t = [] := by
      generalize skipBlanks t = r at hskip
      cases hskip
      rfl
    rw [pieces?_of_blank hs, pieces?_of_blank ht]
  | cons c a =>
    rw [hs] at hskip
    have hstop : Stops isBlank (skipBlanks s) := stops_dropWhile isBlank s
    have hc : isBlank c = false := hstop c (by rw [hs]; rfl)
    have hline : c ≠ '\n' := by
      rintro rfl
      exact absurd hc (by decide)
    obtain ⟨b, ht, -⟩ := hskip.of_cons hc hline
    -- the first pieces are the same, and the texts behind them are shorter
    have hpiece := steady_piece.alike hskip
    rw [ht] at hpiece
    rw [pieces?_of_cons hs, pieces?_of_cons ht]
    generalize hx : piece (c :: a) = x, piece (c :: b) = y at hpiece
    cases hpiece with
    | none => rfl
    | @some p q hpq =>
      obtain ⟨p, rest⟩ := p
      obtain ⟨q, rest'⟩ := q
      obtain ⟨hpq, hrest⟩ := hpq
      obtain rfl : p = q := hpq
      show (pieces? rest').map (p :: ·) = (pieces? rest).map (p :: ·)
      rw [pieces?_trimmed hrest]
termination_by s.length
decreasing_by
  have hlen := length_piece hx
  have hle := length_skipBlanks_le s
  rw [hs] at hle
  omega

end Litmus.Source
