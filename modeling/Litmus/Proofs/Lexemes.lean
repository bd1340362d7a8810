import Litmus.Proofs.Words

/-!
# Locations and constants as they are written

The ways to write a location or a constant, and the scanners that read them. Blanks may stand
between the words of a location; a constant is one word.

* **`Blanks`**: text that may stand between words.
* **`WrittenConstant`**, **`WrittenMarked`**, **`WrittenLocation`**: what is written for what.
* **`constant_append`**, **`markedLocation_append`**, **`location_append`**: the scanners read what
  is written. The alternatives share their beginnings, so each lemma asks what may follow.
-/

namespace Litmus.Source

open Litmus.Text

/-! ## Blanks -/

/-- Text that may stand between words. -/
def Blanks (u : List Char) : Prop :=
  ∀ c ∈ u, isBlank c = true

instance (u : List Char) : Decidable (Blanks u) :=
  decidable_of_iff (u.all isBlank = true) List.all_eq_true

theorem Blanks.nil : Blanks [] := by
  simp [Blanks]

theorem skipBlanks_append {u : List Char} (hu : Blanks u) (s : List Char) :
    skipBlanks (u ++ s) = skipBlanks s := by
  rw [skipBlanks, List.dropWhile_append_of_pos hu, skipBlanks]

theorem spacedMark_append {u : List Char} (hu : Blanks u) {c : Char} (hc : isBlank c = false)
    (s : List Char) : spacedMark c (u ++ c :: s) = some s := by
  rw [spacedMark, skipBlanks_append hu, skipBlanks_cons_of_not_blank hc, mark_cons]

theorem spacedMark_eq_none {c : Char} {s : List Char} (h : (skipBlanks s).head? ≠ some c) :
    spacedMark c s = none := by
  rw [spacedMark]
  cases hs : skipBlanks s with
  | nil => rfl
  | cons d r =>
    rw [hs] at h
    have hd : d ≠ c := fun e => h (by rw [e]; rfl)
    rw [mark, if_neg hd]

theorem mark_eq_none {c : Char} {s : List Char} (h : s.head? ≠ some c) : mark c s = none := by
  cases s with
  | nil => rfl
  | cons d r =>
    have hd : d ≠ c := fun e => h (by rw [e]; rfl)
    rw [mark, if_neg hd]

theorem mark_eq_some {c : Char} {s rest : List Char} : mark c s = some rest ↔ s = c :: rest := by
  constructor
  · intro h
    cases s with
    | nil => cases h
    | cons d s =>
      rw [mark] at h
      split at h
      · rename_i hd
        rw [hd, Option.some.inj h]
      · cases h
  · rintro rfl
    exact mark_cons c rest

theorem isNameTail_of_isBlank {c : Char} (h : isBlank c = true) : isNameTail c = false := by
  cases htail : isNameTail c with
  | false => rfl
  | true =>
    rw [isBlank_of_isSpace (isSpace_of_isNameTail htail)] at h
    exact absurd h (by decide)

/-- A name ends where blanks and then a mark stand. -/
theorem stops_blanks_append {u : List Char} (hu : Blanks u) {c : Char}
    (hc : isNameTail c = false) (s : List Char) : Stops isNameTail (u ++ c :: s) := by
  cases u with
  | nil => exact Stops.cons hc s
  | cons d u => exact Stops.cons (isNameTail_of_isBlank (hu d (by simp))) _

theorem skipBlanks_append_word {u w : List Char} (hu : Blanks u)
    (hw : ∀ c ∈ w, isNameTail c = true) (hne : w ≠ []) (s : List Char) :
    skipBlanks (u ++ (w ++ s)) = w ++ s := by
  rw [skipBlanks_append hu]
  cases w with
  | nil => exact absurd rfl hne
  | cons c w =>
    have hc := isBlank_of_isSpace (isSpace_of_isNameTail (hw c (by simp)))
    exact skipBlanks_cons_of_not_blank hc (w ++ s)

theorem IsWord.ne_nil {head tail : Char → Bool} {w : List Char} (hw : IsWord head tail w) :
    w ≠ [] := by
  rintro rfl
  exact hw

theorem IsNumber.ne_nil {w : List Char} (hw : IsNumber w) : w ≠ [] := by
  rintro rfl
  exact absurd hw (by simp [IsNumber, IsUnsigned, IsDigits, IsWord])

/-! ## Written forms -/

/-- What is written for a constant. -/
inductive WrittenConstant : Constant → List Char → Prop
  | label {digits label : List Char} (hdigits : IsDigits digits) (hlabel : IsLabelName label) :
      WrittenConstant (.label (naturalOf digits) (String.ofList label))
        ('P' :: (digits ++ ':' :: label))
  | concrete {w : List Char} (hw : IsNumber w) : WrittenConstant (.concrete (String.ofList w)) w
  | symbolic {w : List Char} (hw : IsName w) : WrittenConstant (.symbolic (String.ofList w)) w

/-- What is written for a location that cannot be taken for a constant. -/
inductive WrittenMarked : Location → List Char → Prop
  | register {digits u v name : List Char} (hdigits : IsDigits digits) (hu : Blanks u)
      (hv : Blanks v) (hname : IsRegisterName name) :
      WrittenMarked (.register (naturalOf digits) (String.ofList name))
        (digits ++ (u ++ ':' :: (v ++ name)))
  | symbolicRegister {u name : List Char} (hu : Blanks u) (hname : IsName name) :
      WrittenMarked (.symbolicRegister (String.ofList name)) ('%' :: (u ++ name))
  | number {u v w : List Char} (hu : Blanks u) (hv : Blanks v) (hw : IsNumber w) :
      WrittenMarked (.global (.concrete (String.ofList w))) ('[' :: (u ++ (w ++ (v ++ [']']))))
  | name {u v w : List Char} (hu : Blanks u) (hv : Blanks v) (hw : IsName w) :
      WrittenMarked (.global (.symbolic (String.ofList w))) ('[' :: (u ++ (w ++ (v ++ [']']))))

/-- What is written for a location whose name, if it stands bare at the beginning, is allowed. -/
inductive WrittenLocation (allowed : List Char → Prop) : Location → List Char → Prop
  | marked {place : Location} {s : List Char} (h : WrittenMarked place s) :
      WrittenLocation allowed place s
  | cell {name u v w digits : List Char} (hname : IsName name) (hallowed : allowed name)
      (hu : Blanks u) (hv : Blanks v) (hdigits : IsDigits digits) (hw : Blanks w) :
      WrittenLocation allowed (.cell (.symbolic (String.ofList name)) (naturalOf digits))
        (name ++ (u ++ '[' :: (v ++ (digits ++ (w ++ [']'])))))
  | name {name : List Char} (hname : IsName name) (hallowed : allowed name) :
      WrittenLocation allowed (.global (.symbolic (String.ofList name))) name

/-! ## Reading -/

/-- What may follow a constant or a location: after any blanks, neither a character of a name nor a
colon. -/
def Ends (rest : List Char) : Prop :=
  ∀ c ∈ (skipBlanks rest).head?, isNameTail c = false ∧ c ≠ ':'

theorem Ends.stops {rest : List Char} (h : Ends rest) : Stops isNameTail rest := by
  intro c hc
  cases rest with
  | nil => exact absurd hc (by simp)
  | cons d rest =>
    have hd : d = c := Option.some.inj hc
    subst hd
    by_cases hblank : isBlank d = true
    · exact isNameTail_of_isBlank hblank
    · have hskip := skipBlanks_cons_of_not_blank (Bool.eq_false_iff.mpr hblank) rest
      exact (h d (by rw [hskip]; rfl)).1

theorem Ends.spaced_colon {rest : List Char} (h : Ends rest) : spacedMark ':' rest = none :=
  spacedMark_eq_none fun hcolon => (h ':' hcolon).2 rfl

theorem Ends.colon {rest : List Char} (h : Ends rest) : mark ':' rest = none := by
  refine mark_eq_none fun hcolon => ?_
  cases rest with
  | nil => exact absurd hcolon (by simp)
  | cons d rest =>
    have hd : d = ':' := Option.some.inj hcolon
    subst hd
    have hskip : skipBlanks (':' :: rest) = ':' :: rest :=
      skipBlanks_cons_of_not_blank (by decide) rest
    exact (h ':' (by rw [hskip]; rfl)).2 rfl

/-- A name is no label of a thread, unless a colon stands right behind it. -/
theorem labelConstant_eq_none {w rest : List Char} (hw : ∀ c ∈ w, isNameTail c = true)
    (hrest : Ends rest) : labelConstant (w ++ rest) = none := by
  cases w with
  | nil =>
    refine Option.eq_none_iff_forall_ne_some.mpr fun r hr => ?_
    simp only [labelConstant, Option.bind_eq_bind, Option.bind_eq_some_iff] at hr
    obtain ⟨s, hs, -⟩ := hr
    cases rest with
    | nil => exact absurd hs (by simp [mark])
    | cons d rest =>
      have hd := hrest.stops d rfl
      rw [List.nil_append, mark] at hs
      split at hs
      · rename_i heq
        rw [heq] at hd
        exact absurd hd (by decide)
      · exact absurd hs (by simp)
  | cons c w =>
    have hw' : ∀ x ∈ w, isNameTail x = true := fun x hx => hw x (List.mem_cons_of_mem c hx)
    rw [List.cons_append, labelConstant]
    by_cases hc : c = 'P'
    · subst hc
      rw [mark_cons]
      cases hdigits : digits (w ++ rest) with
      | none => simp [hdigits]
      | some read =>
        obtain ⟨ds, r⟩ := read
        obtain ⟨hds, happ, -⟩ := isWord_of_word hdigits
        -- the digits end inside the name, or with it
        have hmark : mark ':' r = none := by
          by_cases hcolon : r.head? = some ':'
          · have hr : Stops isNameTail r := by
              intro x hx
              rw [hcolon] at hx
              rw [← Option.some.inj hx]
              decide
            obtain ⟨-, rfl⟩ := append_inj_of_stops hw' (isNameTail_of_isDigits hds) hrest.stops hr happ
            exact hrest.colon
          · exact mark_eq_none hcolon
        simp [hdigits, hmark]
    · have hmark : mark 'P' (c :: (w ++ rest)) = none :=
        mark_eq_none fun h => hc (Option.some.inj h)
      rw [hmark]
      rfl

/-! ### Alternatives that are not taken -/

theorem stops_isDigit_of_isName {w : List Char} (hw : IsName w) (rest : List Char) :
    Stops Char.isDigit (w ++ rest) := by
  cases w with
  | nil => exact absurd rfl hw.ne_nil
  | cons c w =>
    have hc : c.isDigit = false := by
      cases hdigit : c.isDigit with
      | false => rfl
      | true => exact absurd hw.1 (by simp [isNameHead_of_isDigit hdigit])
    exact Stops.cons hc _

/-- A name does not start with a character that no name starts with. -/
theorem head?_ne_of_isName {w : List Char} (hw : IsName w) {c : Char} (hc : isNameHead c = false)
    (rest : List Char) : (w ++ rest).head? ≠ some c := by
  cases w with
  | nil => exact absurd rfl hw.ne_nil
  | cons d w =>
    intro h
    have hd := hw.1
    rw [Option.some.inj h, hc] at hd
    exact absurd hd (by decide)

theorem registerLocation_eq_none {s : List Char} (h : Stops Char.isDigit s) :
    registerLocation s = none := by
  rw [registerLocation, digits, word_eq_none h]
  rfl

theorem symbolicRegisterLocation_eq_none {s : List Char} (h : s.head? ≠ some '%') :
    symbolicRegisterLocation s = none := by
  rw [symbolicRegisterLocation, mark_eq_none h]
  rfl

theorem addressLocation_eq_none {s : List Char} (h : s.head? ≠ some '[') :
    addressLocation s = none := by
  rw [addressLocation, mark_eq_none h]
  rfl

theorem markedLocation_bracket {s rest : List Char} {place : Location}
    (h : addressLocation ('[' :: s) = some (place, rest)) :
    markedLocation ('[' :: s) = some (place, rest) := by
  rw [markedLocation, registerLocation_eq_none (Stops.cons (by decide) _),
    symbolicRegisterLocation_eq_none (by simp), h, Option.none_or, Option.none_or]

/-- A number is the number of no thread, unless a colon comes next. -/
theorem registerLocation_number {w rest : List Char} (hw : IsNumber w) (hrest : Ends rest) :
    registerLocation (w ++ rest) = none := by
  rcases hw with (hw | ⟨ds, rfl, hds⟩) | ⟨ds, rfl, -⟩
  · have hread : digits (w ++ rest) = some (w, rest) :=
      word_append_of_stops hw (hrest.stops.mono fun _ => isNameTail_of_isDigit)
    simp [registerLocation, hread, hrest.spaced_colon]
  · -- of a number in hexadecimal digits, the thread would be the zero in front of the `x`
    have hread : digits ('0' :: 'x' :: (ds ++ rest)) = some (['0'], 'x' :: (ds ++ rest)) :=
      word_append_of_stops (show IsDigits ['0'] by decide) (Stops.cons (by decide) _)
    have hmark : spacedMark ':' ('x' :: (ds ++ rest)) = none := by
      refine spacedMark_eq_none ?_
      rw [skipBlanks_cons_of_not_blank (by decide)]
      simp
    simp only [List.cons_append]
    simp [registerLocation, hread, hmark]
  · exact registerLocation_eq_none (Stops.cons (by decide) _)

theorem markedLocation_eq_none_of_isName {w : List Char} (hw : IsName w) (rest : List Char) :
    markedLocation (w ++ rest) = none := by
  rw [markedLocation, registerLocation_eq_none (stops_isDigit_of_isName hw rest),
    symbolicRegisterLocation_eq_none (head?_ne_of_isName hw (by decide) rest),
    addressLocation_eq_none (head?_ne_of_isName hw (by decide) rest)]
  rfl

theorem skipBlanks_append_number {u w : List Char} (hu : Blanks u) (hw : IsNumber w)
    (s : List Char) : skipBlanks (u ++ (w ++ s)) = w ++ s := by
  rw [skipBlanks_append hu]
  cases w with
  | nil => exact absurd rfl hw.ne_nil
  | cons c w =>
    exact skipBlanks_cons_of_not_blank (isBlank_of_isSpace (hw.isSpace c (by simp))) (w ++ s)

theorem WrittenConstant.skipBlanks {value : Constant} {w : List Char} (hw : WrittenConstant value w)
    (rest : List Char) : Text.skipBlanks (w ++ rest) = w ++ rest := by
  cases hw with
  | label => exact skipBlanks_cons_of_not_blank (by decide) _
  | concrete hw => exact skipBlanks_append_number Blanks.nil hw rest
  | symbolic hw => exact skipBlanks_append_word Blanks.nil (isNameTail_of_isName hw) hw.ne_nil rest

theorem WrittenMarked.skipBlanks {place : Location} {s : List Char} (hs : WrittenMarked place s)
    (rest : List Char) : Text.skipBlanks (s ++ rest) = s ++ rest := by
  cases hs with
  | register hdigits =>
    rw [List.append_assoc]
    exact skipBlanks_append_word Blanks.nil (isNameTail_of_isDigits hdigits) hdigits.ne_nil _
  | symbolicRegister => exact skipBlanks_cons_of_not_blank (by decide) _
  | number => exact skipBlanks_cons_of_not_blank (by decide) _
  | name => exact skipBlanks_cons_of_not_blank (by decide) _

/-! ### What is read -/

/-- A constant is read whole. The label of a thread is tried first, a number next: neither is read
from a later form. -/
theorem constant_append {value : Constant} {w rest : List Char} (hw : WrittenConstant value w)
    (hrest : Ends rest) : constant (w ++ rest) = some (value, rest) := by
  cases hw with
  | @label ds label hdigits hlabel =>
    have hds : digits (ds ++ (':' :: (label ++ rest))) = some (ds, ':' :: (label ++ rest)) :=
      word_append_of_stops hdigits (Stops.cons (by decide) _)
    have hname : labelName (label ++ rest) = some (label, rest) :=
      word_append_of_stops hlabel hrest.stops
    have hread : labelConstant ('P' :: (ds ++ ':' :: label) ++ rest)
        = some (.label (naturalOf ds) (String.ofList label), rest) := by
      simp [labelConstant, hds, hname]
    rw [constant, hread, Option.some_or]
  | concrete hw =>
    -- a number starts with a digit or a minus sign, so with no `P`
    have hlabel : labelConstant (w ++ rest) = none := by
      have hmark : mark 'P' (w ++ rest) = none := by
        refine mark_eq_none fun hP => ?_
        rcases hw with hw | ⟨ds, rfl, -⟩
        · obtain ⟨c, r, rfl, hc⟩ := hw.head
          rw [Option.some.inj hP] at hc
          exact absurd hc (by decide)
        · exact absurd (Option.some.inj hP) (by decide)
      rw [labelConstant, hmark]
      rfl
    have hread : concreteConstant (w ++ rest) = some (.concrete (String.ofList w), rest) := by
      simp [concreteConstant, number_append hw hrest.stops]
    rw [constant, hlabel, hread, Option.none_or, Option.some_or]
  | symbolic hw =>
    have hlabel := labelConstant_eq_none (isNameTail_of_isName hw) hrest
    have hnumber : concreteConstant (w ++ rest) = none := by
      rw [concreteConstant, number_eq_none (stops_isDigit_of_isName hw rest)
        (head?_ne_of_isName hw (by decide) rest)]
      rfl
    have hread : symbolicConstant (w ++ rest) = some (.symbolic (String.ofList w), rest) := by
      have hname : name (w ++ rest) = some (w, rest) := word_append_of_stops hw hrest.stops
      simp [symbolicConstant, hname]
    rw [constant, hlabel, hnumber, hread, Option.none_or, Option.none_or]

/-- A location that is marked as one is read whole. -/
theorem markedLocation_append {place : Location} {s rest : List Char} (hs : WrittenMarked place s)
    (hrest : Ends rest) : markedLocation (s ++ rest) = some (place, rest) := by
  cases hs with
  | @register ds u v register hdigits hu hv hname =>
    have hstop : Stops Char.isDigit (u ++ ':' :: (v ++ (register ++ rest))) :=
      (stops_blanks_append hu (by decide) _).mono fun _ => isNameTail_of_isDigit
    have hds := word_append_of_stops hdigits hstop
    have hmark := spacedMark_append hu (c := ':') (by decide) (v ++ (register ++ rest))
    have hskip := skipBlanks_append_word hv (isNameTail_of_isRegisterName hname) hname.ne_nil rest
    have hregister := word_append_of_stops hname
      (hrest.stops.mono fun _ => isNameTail_of_isRegisterTail)
    have hread : registerLocation (ds ++ (u ++ ':' :: (v ++ register)) ++ rest)
        = some (.register (naturalOf ds) (String.ofList register), rest) := by
      simp only [List.append_assoc, List.cons_append]
      simp [registerLocation, digits, hds, hmark, hskip, hregister]
    rw [markedLocation, hread, Option.some_or]
  | @symbolicRegister u register hu hname =>
    have hskip := skipBlanks_append_word hu (isNameTail_of_isName hname) hname.ne_nil rest
    have hregister : name (register ++ rest) = some (register, rest) :=
      word_append_of_stops hname hrest.stops
    have hread : symbolicRegisterLocation ('%' :: (u ++ register) ++ rest)
        = some (.symbolicRegister (String.ofList register), rest) := by
      simp [symbolicRegisterLocation, hskip, hregister]
    have hregisters : registerLocation ('%' :: (u ++ register) ++ rest) = none :=
      registerLocation_eq_none (Stops.cons (by decide) _)
    rw [markedLocation, hregisters, hread, Option.none_or, Option.some_or]
  | @number u v w hu hv hw =>
    have hskip := skipBlanks_append_number hu hw (v ++ ']' :: rest)
    have hnumber := number_append hw (stops_blanks_append hv (c := ']') (by decide) rest)
    have hmark := spacedMark_append hv (c := ']') (by decide) rest
    rw [List.cons_append]
    refine markedLocation_bracket ?_
    simp only [List.append_assoc, List.cons_append, List.nil_append]
    simp [addressLocation, concreteConstant, hskip, hnumber, hmark]
  | @name u v w hu hv hw =>
    -- a number is tried first between the brackets, but a name starts with no digit
    have hskip := skipBlanks_append_word hu (isNameTail_of_isName hw) hw.ne_nil (v ++ ']' :: rest)
    have hnumber : number (w ++ (v ++ ']' :: rest)) = none :=
      number_eq_none (stops_isDigit_of_isName hw _) (head?_ne_of_isName hw (by decide) _)
    have hname : name (w ++ (v ++ ']' :: rest)) = some (w, v ++ ']' :: rest) :=
      word_append_of_stops hw (stops_blanks_append hv (c := ']') (by decide) rest)
    have hmark := spacedMark_append hv (c := ']') (by decide) rest
    rw [List.cons_append]
    refine markedLocation_bracket ?_
    simp only [List.append_assoc, List.cons_append, List.nil_append]
    simp [addressLocation, concreteConstant, symbolicConstant, hskip, hnumber, hname, hmark]

/-- No constant is taken for a marked location. -/
theorem markedLocation_eq_none {value : Constant} {w rest : List Char}
    (hw : WrittenConstant value w) (hrest : Ends rest) : markedLocation (w ++ rest) = none := by
  cases hw with
  | @label ds label hdigits hlabel =>
    have hregisters : registerLocation ('P' :: (ds ++ ':' :: label) ++ rest) = none :=
      registerLocation_eq_none (Stops.cons (by decide) _)
    rw [markedLocation, hregisters, symbolicRegisterLocation_eq_none (by simp),
      addressLocation_eq_none (by simp)]
    rfl
  | concrete hw =>
    -- the number of a thread would have to be followed by a colon
    have hregister : registerLocation (w ++ rest) = none := registerLocation_number hw hrest
    rcases hw with hw | ⟨ds, rfl, -⟩
    · obtain ⟨c, r, rfl, hc⟩ := hw.head
      have hpercent : c ≠ '%' := fun h => absurd (h ▸ hc) (by decide)
      have hbracket : c ≠ '[' := fun h => absurd (h ▸ hc) (by decide)
      rw [markedLocation, hregister, symbolicRegisterLocation_eq_none (by simp [hpercent]),
        addressLocation_eq_none (by simp [hbracket])]
      rfl
    · rw [markedLocation, hregister, symbolicRegisterLocation_eq_none (by simp),
        addressLocation_eq_none (by simp)]
      rfl
  | symbolic hw => exact markedLocation_eq_none_of_isName hw rest

/-- A location is read whole where no bracket opens behind it. -/
theorem location_append {allowed : List Char → Prop} {place : Location} {s rest : List Char}
    (hs : WrittenLocation allowed place s) (hrest : Ends rest)
    (hbracket : (skipBlanks rest).head? ≠ some '[') : location (s ++ rest) = some (place, rest) := by
  cases hs with
  | marked hs => rw [location, markedLocation_append hs hrest, Option.some_or]
  | @cell base u v w ds hname hallowed hu hv hdigits hw =>
    have hbase : name (base ++ (u ++ '[' :: (v ++ (ds ++ (w ++ ']' :: rest)))))
        = some (base, u ++ '[' :: (v ++ (ds ++ (w ++ ']' :: rest)))) :=
      word_append_of_stops hname (stops_blanks_append hu (by decide) _)
    have hopen := spacedMark_append hu (c := '[') (by decide) (v ++ (ds ++ (w ++ ']' :: rest)))
    have hskip := skipBlanks_append_word hv (isNameTail_of_isDigits hdigits) hdigits.ne_nil
      (w ++ ']' :: rest)
    have hds : digits (ds ++ (w ++ ']' :: rest)) = some (ds, w ++ ']' :: rest) :=
      word_append_of_stops hdigits
        ((stops_blanks_append hw (by decide) rest).mono fun _ => isNameTail_of_isDigit)
    have hclose := spacedMark_append hw (c := ']') (by decide) rest
    have hread : cellLocation (base ++ (u ++ '[' :: (v ++ (ds ++ (w ++ [']'])))) ++ rest)
        = some (.cell (.symbolic (String.ofList base)) (naturalOf ds), rest) := by
      simp only [List.append_assoc, List.cons_append, List.nil_append]
      simp [cellLocation, hbase, hopen, hskip, hds, hclose]
    have hmarked := markedLocation_eq_none_of_isName hname
      ((u ++ '[' :: (v ++ (ds ++ (w ++ [']'])))) ++ rest)
    rw [← List.append_assoc] at hmarked
    rw [location, hmarked, hread, Option.none_or, Option.some_or]
  | name hname hallowed =>
    have hread : name (s ++ rest) = some (s, rest) := word_append_of_stops hname hrest.stops
    have hcell : cellLocation (s ++ rest) = none := by
      simp [cellLocation, hread, spacedMark_eq_none hbracket]
    have hglobal : globalLocation (s ++ rest) = some (.global (.symbolic (String.ofList s)), rest) := by
      simp [globalLocation, hread]
    rw [location, markedLocation_eq_none_of_isName hname rest, hcell, hglobal, Option.none_or,
      Option.none_or]

end Litmus.Source
