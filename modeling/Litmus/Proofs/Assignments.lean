import Litmus.Proofs.Placement
import Litmus.Source.Assignment
import Mathlib.Data.List.ReduceOption

/-!
# Written assignments

The ways to write an initial state: assignments between semicolons, each a location, an equals sign
and a constant, perhaps behind the name of a type, with blanks wherever two words meet. The type is
told from the location by what stands behind it, so it may be any name, and any name may be the
location.

* **`WrittenAssignment`**, **`WrittenSlot`**, **`WrittenInit`**: what is written for an assignment,
  between two semicolons, and between the braces.
* **`skipType_pair`**, **`skipType_type`**: a location is no type, and a type is no location.
* **`readInit_written`**: what is written is read.
-/

namespace Litmus.Source

open Litmus.Text

/-! ## Written forms -/

/-- A location and the constant that it is given. -/
inductive WrittenPair : Location × Constant → List Char → Prop
  | pair {place : Location} {value : Constant} {s u v t : List Char}
      (hplace : WrittenLocation (fun _ => True) place s) (hu : Blanks u) (hv : Blanks v)
      (hvalue : WrittenConstant value t) : WrittenPair (place, value) (s ++ (u ++ '=' :: (v ++ t)))

/-- An assignment, perhaps with a type, unless its location starts with a bracket. Blanks keep the type
apart from a location that it would run into. -/
inductive WrittenAssignment : Location × Constant → List Char → Prop
  | untyped {a : Location × Constant} {s : List Char} (h : WrittenPair a s) : WrittenAssignment a s
  | typed {a : Location × Constant} {w u s : List Char} (hw : IsName w) (hu : Blanks u)
      (hgap : u = [] → Stops isNameTail s) (hbracket : s.head? ≠ some '[') (h : WrittenPair a s) :
      WrittenAssignment a (w ++ (u ++ s))

/-- What stands between two semicolons: an assignment or nothing. -/
inductive WrittenSlot : Option (Location × Constant) → List Char → Prop
  | empty {u : List Char} (hu : Blanks u) : WrittenSlot none u
  | assignment {a : Location × Constant} {u s v : List Char} (hu : Blanks u)
      (h : WrittenAssignment a s) (hv : Blanks v) : WrittenSlot (some a) (u ++ (s ++ v))

/-- What is written for an initial state. -/
inductive WrittenInit : List (Location × Constant) → List Char → Prop
  | slots {slots : List (Option (Location × Constant))} {pieces : List (List Char)}
      (hne : pieces ≠ []) (h : List.Forall₂ WrittenSlot slots pieces) :
      WrittenInit slots.reduceOption (joinWith ';' pieces)

theorem WrittenInit.nil : WrittenInit [] [] :=
  @WrittenInit.slots [none] [[]] (by simp) (.cons (.empty Blanks.nil) .nil)

/-! ## Where assignments start and end -/

theorem WrittenPair.head {a : Location × Constant} {s : List Char} (h : WrittenPair a s) :
    ∃ c r, s = c :: r ∧ startsProposition c = true := by
  cases h with
  | pair hplace => exact hplace.head _

theorem WrittenPair.endsFlush {a : Location × Constant} {s : List Char} (h : WrittenPair a s) :
    EndsFlush s := by
  cases h with
  | @pair place value s u v t _ _ _ hvalue =>
    exact (((hvalue.endsFlush.append v).cons '=').append u).append s

theorem WrittenPair.skipBlanks {a : Location × Constant} {s : List Char} (h : WrittenPair a s) :
    Text.skipBlanks s = s := by
  obtain ⟨c, r, rfl, hc⟩ := h.head
  exact skipBlanks_cons_of_not_blank (isBlank_of_isSpace (isSpace_of_startsProposition hc)) r

theorem WrittenAssignment.head {a : Location × Constant} {s : List Char} (h : WrittenAssignment a s) :
    ∃ c r, s = c :: r ∧ startsProposition c = true := by
  cases h with
  | untyped h => exact h.head
  | @typed w u s hw => exact head_of_names (isNameTail_of_isName hw) hw.ne_nil (u ++ s)

theorem WrittenAssignment.flush {a : Location × Constant} {s : List Char} (h : WrittenAssignment a s) :
    Flush s := by
  have hend : EndsFlush s := by
    cases h with
    | untyped h => exact h.endsFlush
    | @typed w u s _ _ _ _ h => exact (h.endsFlush.append u).append w
  obtain ⟨c, r, rfl, hc⟩ := h.head
  exact ⟨Stops.cons (isSpace_of_startsProposition hc) r, hend.stops⟩

/-! ## Types and locations -/

/-- No location is taken for a type: if it starts with a name, a bracket or an equals sign comes
next. -/
theorem skipType_pair {a : Location × Constant} {s : List Char} (h : WrittenPair a s) :
    skipType s = s := by
  have hnone : ∀ s : List Char, Stops isNameHead s → skipType s = s := by
    intro s hs
    rw [skipType, show name s = none from word_eq_none hs]
  have hname : ∀ {w u r : List Char} {c : Char}, IsName w → Blanks u → c = '=' ∨ c = '[' →
      skipType (w ++ (u ++ c :: r)) = w ++ (u ++ c :: r) := by
    intro w u r c hw hu hc
    have hread : name (w ++ (u ++ c :: r)) = some (w, u ++ c :: r) :=
      word_append_of_stops hw (stops_blanks_append hu (by rcases hc with rfl | rfl <;> decide) r)
    have hskip : Text.skipBlanks (u ++ c :: r) = c :: r := by
      rw [skipBlanks_append hu, skipBlanks_cons_of_not_blank (by rcases hc with rfl | rfl <;> decide)]
    rw [skipType, hread]
    simp only [hskip]
    rcases hc with rfl | rfl <;> rfl
  -- a mark or a digit starts no type, and behind a name comes the bracket or the equals sign
  cases h with
  | @pair place value s u v t hplace hu hv hvalue =>
    cases hplace with
    | marked hmarked =>
      refine hnone _ ?_
      cases hmarked with
      | @register ds _ _ _ hdigits =>
        cases ds with
        | nil => exact absurd rfl hdigits.ne_nil
        | cons c ds => exact Stops.cons (isNameHead_of_isDigit hdigits.1) _
      | symbolicRegister => exact Stops.cons (by decide) _
      | number => exact Stops.cons (by decide) _
      | name => exact Stops.cons (by decide) _
    | @cell base x y z ds hbase _ hx hy hdigits hz =>
      rw [List.append_assoc, List.append_assoc]
      exact hname hbase hx (.inr rfl)
    | name hw => exact hname hw hu (.inl rfl)

/-- A type is no location: neither a bracket nor an equals sign comes next. -/
theorem skipType_type {a : Location × Constant} {w u s : List Char} (hw : IsName w) (hu : Blanks u)
    (hgap : u = [] → Stops isNameTail s) (hbracket : s.head? ≠ some '[') (h : WrittenPair a s) :
    skipType (w ++ (u ++ s)) = u ++ s := by
  have hstop : Stops isNameTail (u ++ s) := by
    cases u with
    | nil => exact hgap rfl
    | cons c u => exact Stops.cons (isNameTail_of_isBlank (hu c (by simp))) _
  have hread : name (w ++ (u ++ s)) = some (w, u ++ s) := word_append_of_stops hw hstop
  have hskip : Text.skipBlanks (u ++ s) = s := by rw [skipBlanks_append hu, h.skipBlanks]
  rw [skipType, hread]
  simp only [hskip]
  -- the location behind the type starts with none of the two
  obtain ⟨c, r, rfl, hc⟩ := h.head
  split
  · rename_i heq
    rw [(List.cons.inj heq).1] at hc
    exact absurd hc (by decide)
  · rename_i heq
    exact absurd (congrArg List.head? heq) hbracket
  · rfl

/-! ## Reading -/

/-- An assignment is read from its location on. -/
theorem assignment?_pair {a : Location × Constant} {s t : List Char}
    (ht : Text.skipBlanks (skipType (Text.skipBlanks t)) = s) (h : WrittenPair a s) :
    assignment? t = some a := by
  cases h with
  | @pair place value s u v r hplace hu hv hvalue =>
    have hends : Ends (u ++ '=' :: (v ++ r)) := (Closes.mark hu (by simp) _).ends
    have hbracket : (Text.skipBlanks (u ++ '=' :: (v ++ r))).head? ≠ some '[' := by
      rw [skipBlanks_append hu, skipBlanks_cons_of_not_blank (by decide)]
      simp
    have hlocation := location_append hplace hends hbracket
    have hmark : spacedMark '=' (u ++ '=' :: (v ++ r)) = some (v ++ r) :=
      spacedMark_append hu (by decide) _
    have hconstant : constant (Text.skipBlanks (v ++ r)) = some (value, []) := by
      have hskip := hvalue.skipBlanks []
      have hread := constant_append hvalue (Closes.blanks Blanks.nil).ends
      rw [List.append_nil] at hskip hread
      rw [skipBlanks_append hv, hskip, hread]
    simp only [assignment?, ht]
    simp [hlocation, hmark, hconstant]

theorem assignment?_written {a : Location × Constant} {s : List Char} (h : WrittenAssignment a s) :
    assignment? s = some a := by
  cases h with
  | untyped h => exact assignment?_pair (by rw [h.skipBlanks, skipType_pair h, h.skipBlanks]) h
  | @typed w u s hw hu hgap hbracket h =>
    refine assignment?_pair ?_ h
    have hskip := skipBlanks_append_word Blanks.nil (isNameTail_of_isName hw) hw.ne_nil (u ++ s)
    rw [List.nil_append] at hskip
    rw [hskip, skipType_type hw hu hgap hbracket h, skipBlanks_append hu, h.skipBlanks]

/-! ## Characters -/

/-- A character that no assignment is written with. -/
def Foreign (c : Char) : Prop :=
  isNameTail c = false ∧ isBlank c = false ∧ c ∉ [':', '%', '[', ']', '-', '=']

instance (c : Char) : Decidable (Foreign c) := by unfold Foreign; infer_instance

section

variable {c : Char} (hc : Foreign c)

include hc

theorem Foreign.not_mem_name {w : List Char} (hw : ∀ d ∈ w, isNameTail d = true) : c ∉ w := by
  intro hmem
  have htail := hc.1
  rw [hw c hmem] at htail
  cases htail

theorem Foreign.not_mem_blanks {u : List Char} (hu : Blanks u) : c ∉ u := by
  intro hmem
  have hblank := hc.2.1
  rw [hu c hmem] at hblank
  cases hblank

theorem Foreign.ne_mark : c ≠ ':' ∧ c ≠ '%' ∧ c ≠ '[' ∧ c ≠ ']' ∧ c ≠ '-' ∧ c ≠ '=' := by
  simpa using hc.2.2

theorem Foreign.not_mem_number {w : List Char} (hw : IsNumber w) : c ∉ w := by
  rcases hw with hw | ⟨ds, rfl, hds⟩
  · exact hc.not_mem_name hw.isNameTail
  · simp [hc.ne_mark, hc.not_mem_name hds.isNameTail]

theorem Foreign.not_mem_constant {value : Constant} {w : List Char} (h : WrittenConstant value w) :
    c ∉ w := by
  cases h with
  | label hdigits hlabel =>
    have hP : c ≠ 'P' := by
      rintro rfl
      exact absurd hc.1 (by decide)
    simp [hP, hc.ne_mark, hc.not_mem_name (isNameTail_of_isDigits hdigits),
      hc.not_mem_name (isNameTail_of_isLabelName hlabel)]
  | concrete hw => exact hc.not_mem_number hw
  | symbolic hw => exact hc.not_mem_name (isNameTail_of_isName hw)

theorem Foreign.not_mem_location {allowed : List Char → Prop} {place : Location} {s : List Char}
    (h : WrittenLocation allowed place s) : c ∉ s := by
  cases h with
  | marked h =>
    cases h with
    | register hdigits hu hv hname =>
      simp [hc.ne_mark, hc.not_mem_blanks hu, hc.not_mem_blanks hv,
        hc.not_mem_name (isNameTail_of_isDigits hdigits),
        hc.not_mem_name (isNameTail_of_isRegisterName hname)]
    | symbolicRegister hu hname =>
      simp [hc.ne_mark, hc.not_mem_blanks hu, hc.not_mem_name (isNameTail_of_isName hname)]
    | number hu hv hw =>
      simp [hc.ne_mark, hc.not_mem_blanks hu, hc.not_mem_blanks hv, hc.not_mem_number hw]
    | name hu hv hw =>
      simp [hc.ne_mark, hc.not_mem_blanks hu, hc.not_mem_blanks hv,
        hc.not_mem_name (isNameTail_of_isName hw)]
  | cell hname _ hu hv hdigits hw =>
    simp [hc.ne_mark, hc.not_mem_blanks hu, hc.not_mem_blanks hv, hc.not_mem_blanks hw,
      hc.not_mem_name (isNameTail_of_isName hname), hc.not_mem_name (isNameTail_of_isDigits hdigits)]
  | name hname => exact hc.not_mem_name (isNameTail_of_isName hname)

theorem Foreign.not_mem_pair {a : Location × Constant} {s : List Char} (h : WrittenPair a s) :
    c ∉ s := by
  cases h with
  | pair hplace hu hv hvalue =>
    simp [hc.ne_mark, hc.not_mem_location hplace, hc.not_mem_blanks hu, hc.not_mem_blanks hv,
      hc.not_mem_constant hvalue]

theorem Foreign.not_mem_slot {slot : Option (Location × Constant)} {s : List Char}
    (h : WrittenSlot slot s) : c ∉ s := by
  cases h with
  | empty hu => exact hc.not_mem_blanks hu
  | assignment hu h hv =>
    cases h with
    | untyped h => simp [hc.not_mem_blanks hu, hc.not_mem_blanks hv, hc.not_mem_pair h]
    | typed hw hgap _ _ h =>
      simp [hc.not_mem_blanks hu, hc.not_mem_blanks hv, hc.not_mem_blanks hgap,
        hc.not_mem_name (isNameTail_of_isName hw), hc.not_mem_pair h]

/-- An initial state holds such a character only as a semicolon. -/
theorem Foreign.not_mem_init {init : List (Location × Constant)} {w : List Char}
    (h : WrittenInit init w) (hsemicolon : c ≠ ';') : c ∉ w := by
  cases h with
  | @slots slots pieces hne h =>
    intro hmem
    rcases mem_joinWith hmem with hmem | ⟨piece, hpiece, hmem⟩
    · exact hsemicolon hmem
    · obtain ⟨slot, -, hslot⟩ := exists_of_forall₂_right h hpiece
      exact hc.not_mem_slot hslot hmem

end

/-! ## The initial state -/

/-- What stands between two semicolons is blank, or trimmed it is an assignment. -/
theorem WrittenSlot.read {slot : Option (Location × Constant)} {s : List Char}
    (h : WrittenSlot slot s) : slot = none ∧ trim s = [] ∨
      ∃ a, slot = some a ∧ trim s ≠ [] ∧ assignment? (trim s) = some a := by
  cases h with
  | empty hu => exact .inl ⟨rfl, trim_eq_nil.mpr fun c hc => isSpace_of_isBlank (hu c hc)⟩
  | @assignment a u t v hu h hv =>
    have htrim : trim (u ++ (t ++ v)) = t := by
      rw [trim_spaces_append fun c hc => isSpace_of_isBlank (hu c hc),
        trim_append_spaces _ fun c hc => isSpace_of_isBlank (hv c hc), trim_of_flush h.flush]
    obtain ⟨c, r, hhead, -⟩ := h.head
    rw [htrim]
    exact .inr ⟨a, rfl, by simp [hhead], assignment?_written h⟩

/-- **What is written for an initial state is read.** -/
theorem readInit_written {init : List (Location × Constant)} {w : List Char}
    (h : WrittenInit init w) : readInit w = .ok init := by
  cases h with
  | @slots slots pieces hne h =>
    have hsemicolon : ∀ piece ∈ pieces, ';' ∉ piece := by
      intro piece hpiece
      obtain ⟨slot, -, hslot⟩ := exists_of_forall₂_right h hpiece
      exact Foreign.not_mem_slot (by decide) hslot
    refine mapM_shaped_eq_ok.mpr ?_
    rw [assignmentTexts, splitAt_joinWith hne hsemicolon]
    clear hne hsemicolon
    -- blank slots are left out, on both sides
    induction h with
    | nil => exact .nil
    | @cons slot piece slots pieces hslot _ ih =>
      rw [List.map_cons, List.filter_cons]
      rcases hslot.read with ⟨rfl, hblank⟩ | ⟨a, rfl, hne, hread⟩
      · rw [if_neg (by simp [hblank]), List.reduceOption_cons_of_none]
        exact ih
      · rw [if_pos (by simpa using hne), List.reduceOption_cons_of_some]
        exact .cons hread ih

end Litmus.Source
