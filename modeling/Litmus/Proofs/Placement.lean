import Litmus.Proofs.Conditions
import Litmus.Proofs.Front
import Litmus.Proofs.TableEnd

/-!
# Conditions in their place

A condition that stands behind a test. The lines of the test are trimmed before they are read, so
the condition that the parser sees is a thinned one: it is still written for the same condition, and
its first line is where the table ends.

* **`WrittenCondition.tidy`**: trimming the lines of a written condition leaves a written condition.
* **`startsCondition_written`**: its first line starts a condition.
* **`readTest_condition`**: a text that lacks nothing but its condition becomes, with a written
  condition behind it, a test with that condition.
-/

namespace Litmus.Source

open Litmus.Text

/-! ## Thinned words -/

theorem WrittenConstant.isSpace {value : Constant} {w : List Char} (h : WrittenConstant value w) :
    ∀ c ∈ w, isSpace c = false := by
  cases h with
  | label hdigits hlabel =>
    intro c hc
    rcases List.mem_cons.mp hc with rfl | hc
    · decide
    rcases List.mem_append.mp hc with hc | hc
    · exact isSpace_of_isNameTail (isNameTail_of_isDigits hdigits c hc)
    rcases List.mem_cons.mp hc with rfl | hc
    · decide
    · exact isSpace_of_isNameTail (isNameTail_of_isLabelName hlabel c hc)
  | concrete hw => exact hw.isSpace
  | symbolic hw => exact fun c hc => isSpace_of_isNameTail (isNameTail_of_isName hw c hc)

theorem Thinned.of_name {w s : List Char} (hw : ∀ c ∈ w, isNameTail c = true) (h : Thinned w s) :
    s = w :=
  h.word fun c hc => isSpace_of_isNameTail (hw c hc)

/-- Two marks keep what stands between them. -/
theorem Thinned.of_enclosed {a b : Char} (ha : isSpace a = false) (hb : isSpace b = false)
    {u w v s : List Char} (h : Thinned (a :: (u ++ (w ++ (v ++ [b])))) s) :
    ∃ u' w' v', s = a :: (u' ++ (w' ++ (v' ++ [b]))) ∧ Thinned u u' ∧ Thinned w w' ∧
      Thinned v v' := by
  obtain ⟨t₁, rfl, h₁⟩ := h.of_cons (.inl ha)
  obtain ⟨u', t₂, rfl, hu', h₂⟩ := h₁.of_append
  obtain ⟨w', t₃, rfl, hw', h₃⟩ := h₂.of_append
  obtain ⟨v', t₄, rfl, hv', h₄⟩ := h₃.of_append
  obtain rfl := h₄.word (by simpa using hb)
  exact ⟨u', w', v', rfl, hu', hw', hv'⟩

/-- A mark keeps what stands on its sides. -/
theorem Thinned.of_around {m : Char} (hm : isSpace m = false) {a u v b s : List Char}
    (h : Thinned (a ++ (u ++ m :: (v ++ b))) s) :
    ∃ a' u' v' b', s = a' ++ (u' ++ m :: (v' ++ b')) ∧ Thinned a a' ∧ Thinned u u' ∧
      Thinned v v' ∧ Thinned b b' := by
  obtain ⟨a', t₁, rfl, ha', h₁⟩ := h.of_append
  obtain ⟨u', t₂, rfl, hu', h₂⟩ := h₁.of_append
  obtain ⟨t₃, rfl, h₃⟩ := h₂.of_cons (.inl hm)
  obtain ⟨v', b', rfl, hv', hb'⟩ := h₃.of_append
  exact ⟨a', u', v', b', rfl, ha', hu', hv', hb'⟩

theorem WrittenMarked.thinned {place : Location} {s s' : List Char} (h : WrittenMarked place s)
    (hs : Thinned s s') : WrittenMarked place s' := by
  cases h with
  | register hdigits hu hv hname =>
    obtain ⟨ds, u', v', name', rfl, hds, hu', hv', hname'⟩ := hs.of_around (by decide)
    obtain rfl := hds.of_name (isNameTail_of_isDigits hdigits)
    obtain rfl := hname'.of_name (isNameTail_of_isRegisterName hname)
    exact .register hdigits (hu'.blanks hu) (hv'.blanks hv) hname
  | symbolicRegister hu hname =>
    obtain ⟨t₁, rfl, h₁⟩ := hs.of_cons (.inl (by decide))
    obtain ⟨u', name', rfl, hu', hname'⟩ := h₁.of_append
    obtain rfl := hname'.of_name (isNameTail_of_isName hname)
    exact .symbolicRegister (hu'.blanks hu) hname
  | number hu hv hw =>
    obtain ⟨u', w', v', rfl, hu', hw', hv'⟩ := hs.of_enclosed (by decide) (by decide)
    obtain rfl := hw'.word hw.isSpace
    exact .number (hu'.blanks hu) (hv'.blanks hv) hw
  | name hu hv hw =>
    obtain ⟨u', w', v', rfl, hu', hw', hv'⟩ := hs.of_enclosed (by decide) (by decide)
    obtain rfl := hw'.of_name (isNameTail_of_isName hw)
    exact .name (hu'.blanks hu) (hv'.blanks hv) hw

theorem WrittenLocation.thinned {allowed : List Char → Prop} {place : Location} {s s' : List Char}
    (h : WrittenLocation allowed place s) (hs : Thinned s s') : WrittenLocation allowed place s' := by
  cases h with
  | marked h => exact .marked (h.thinned hs)
  | cell hname hallowed hu hv hdigits hw =>
    obtain ⟨name', t₁, rfl, hname', h₁⟩ := hs.of_append
    obtain ⟨u', t₂, rfl, hu', h₂⟩ := h₁.of_append
    obtain ⟨v', ds, w', rfl, hv', hds, hw'⟩ := h₂.of_enclosed (by decide) (by decide)
    obtain rfl := hname'.of_name (isNameTail_of_isName hname)
    obtain rfl := hds.of_name (isNameTail_of_isDigits hdigits)
    exact .cell hname hallowed (hu'.blanks hu) (hv'.blanks hv) hdigits (hw'.blanks hw)
  | name hname hallowed =>
    obtain rfl := hs.of_name (isNameTail_of_isName hname)
    exact .name hname hallowed

/-! ## Thinned propositions -/

theorem Joined.thinned {mark : List Char} (hmark : ∀ c ∈ mark, isSpace c = false) {level : Level}
    {parts : List (Proposition × List Char)} {s s' : List Char}
    (hs : Joined mark (parts.map (·.2)) s) (hthin : Thinned s s')
    (h : ∀ part ∈ parts, ∀ t, Thinned part.2 t → Written level part.1 t) :
    ∃ parts' : List (Proposition × List Char), parts'.length = parts.length ∧
      parts'.map (·.1) = parts.map (·.1) ∧ Joined mark (parts'.map (·.2)) s' ∧
      ∀ part ∈ parts', Written level part.1 part.2 := by
  induction parts generalizing s s' with
  | nil => cases hs
  | cons part parts ih =>
    rw [List.map_cons] at hs
    generalize htexts : parts.map (·.2) = texts at hs
    cases hs with
    | one =>
      have hnil : parts = [] := List.map_eq_nil_iff.mp htexts
      subst hnil
      exact ⟨[(part.1, s')], rfl, rfl, .one s', by simpa using h part (by simp) s' hthin⟩
    | more hu hv hjoin =>
      subst htexts
      obtain ⟨t', t₁, rfl, ht', h₁⟩ := hthin.of_append
      obtain ⟨u', t₂, rfl, hu', h₂⟩ := h₁.of_append
      obtain ⟨mark', t₃, rfl, hmark', h₃⟩ := h₂.of_append
      obtain ⟨v', t₄, rfl, hv', h₄⟩ := h₃.of_append
      obtain rfl := hmark'.word hmark
      obtain ⟨parts', hlength, hfst, hjoin', hparts'⟩ :=
        ih hjoin h₄ fun q hq => h q (List.mem_cons_of_mem part hq)
      refine ⟨(part.1, t') :: parts', by rw [List.length_cons, hlength, List.length_cons],
        by rw [List.map_cons, hfst, List.map_cons], .more (hu'.blanks hu) (hv'.blanks hv) hjoin', ?_⟩
      intro q hq
      rcases List.mem_cons.mp hq with rfl | hq
      · exact h part (by simp) t' ht'
      · exact hparts' q hq

/-- Every way to write a proposition stays one when spaces are lost at the margins. -/
theorem Written.thinned {level : Level} {p : Proposition} {s s' : List Char}
    (h : Written level p s) (hs : Thinned s s') : Written level p s' := by
  induction h generalizing s' with
  | truth =>
    obtain rfl := hs.word (isSpace_of_all (by decide))
    exact .truth
  | falsity =>
    obtain rfl := hs.word (isSpace_of_all (by decide))
    exact .falsity
  | holds hplace hu hv ht =>
    obtain ⟨place', u', v', t', rfl, hplace', hu', hv', ht'⟩ := hs.of_around (by decide)
    obtain rfl := ht'.word ht.isSpace
    exact .holds (hplace.thinned hplace') (hu'.blanks hu) (hv'.blanks hv) ht
  | agree hplace hu hv ht =>
    obtain ⟨place', u', v', t', rfl, hplace', hu', hv', ht'⟩ := hs.of_around (by decide)
    exact .agree (hplace.thinned hplace') (hu'.blanks hu) (hv'.blanks hv) (ht.thinned ht')
  | parentheses hu hv _ ih =>
    obtain ⟨u', body', v', rfl, hu', hbody', hv'⟩ := hs.of_enclosed (by decide) (by decide)
    exact .parentheses (hu'.blanks hu) (hv'.blanks hv) (ih hbody')
  | not hu _ ih =>
    obtain ⟨t₁, rfl, h₁⟩ := hs.of_cons (.inl (by decide))
    obtain ⟨u', t₂, rfl, hu', h₂⟩ := h₁.of_append
    exact .not (hu'.blanks hu) (ih h₂)
  | and hlen _ hjoin ih =>
    obtain ⟨parts', hlength, hfst, hjoin', hparts'⟩ := hjoin.thinned (isSpace_of_all (by decide)) hs
      fun part hpart _ ht => ih part hpart ht
    rw [← hfst]
    exact .and (by rwa [hlength]) hparts' hjoin'
  | or hlen _ hjoin ih =>
    obtain ⟨parts', hlength, hfst, hjoin', hparts'⟩ := hjoin.thinned (isSpace_of_all (by decide)) hs
      fun part hpart _ ht => ih part hpart ht
    rw [← hfst]
    exact .or (by rwa [hlength]) hparts' hjoin'
  | implies hu hv _ _ ihp ihq =>
    obtain ⟨s₁, t₁, rfl, hs₁, h₁⟩ := hs.of_append
    obtain ⟨u', t₂, rfl, hu', h₂⟩ := h₁.of_append
    obtain ⟨t₃, rfl, h₃⟩ := h₂.of_cons (.inl (by decide))
    obtain ⟨t₄, rfl, h₄⟩ := h₃.of_cons (.inl (by decide))
    obtain ⟨v', t', rfl, hv', ht'⟩ := h₄.of_append
    exact .implies (hu'.blanks hu) (hv'.blanks hv) (ihp hs₁) (ihq ht')
  | conjunction _ ih => exact .conjunction (ih hs)
  | disjunction _ ih => exact .disjunction (ih hs)
  | implication _ ih => exact .implication (ih hs)

/-! ## Thinned conditions -/

theorem Balanced.thinned {s s' : List Char} (h : Balanced s) (hs : Thinned s s') : Balanced s' := by
  induction h generalizing s' with
  | nil =>
    obtain rfl := hs.word (by simp)
    exact .nil
  | char hc _ ih =>
    cases hs with
    | keep _ hs => exact .char hc (ih hs)
    | drop _ _ hs => exact ih hs
  | brackets _ _ ihs iht =>
    obtain ⟨t₁, rfl, h₁⟩ := hs.of_cons (.inl (by decide))
    obtain ⟨s₁, t₂, rfl, hs₁, h₂⟩ := h₁.of_append
    obtain ⟨t₃, rfl, h₃⟩ := h₂.of_cons (.inl (by decide))
    exact .brackets (ihs hs₁) (iht h₃)

theorem WrittenLocations.thinned {l l' : List Char} (h : WrittenLocations l) (hl : Thinned l l') :
    WrittenLocations l' := by
  cases h with
  | none =>
    obtain rfl := hl.word (by simp)
    exact .none
  | list hu hs hv =>
    obtain ⟨w, t₁, rfl, hw, h₁⟩ := hl.of_append
    obtain ⟨u', t₂, rfl, hu', h₂⟩ := h₁.of_append
    obtain ⟨t₃, rfl, h₃⟩ := h₂.of_cons (.inl (by decide))
    obtain ⟨s', t₄, rfl, hs', h₄⟩ := h₃.of_append
    obtain ⟨v', rfl, hv'⟩ := h₄.of_cons (.inl (by decide))
    obtain rfl := hw.word (isSpace_of_all (by decide))
    exact .list (hu'.blanks hu) (hs.thinned hs') (hv'.blanks hv)

theorem WrittenQuantifier.thinned {quantify : Proposition → Condition} {q q' : List Char}
    (h : WrittenQuantifier quantify q) (hq : Thinned q q') : WrittenQuantifier quantify q' := by
  cases h with
  | someState =>
    obtain rfl := hq.word (isSpace_of_all (by decide))
    exact .someState
  | noState hu hline =>
    obtain ⟨t₁, rfl, h₁⟩ := hq.of_cons (.inl (by decide))
    obtain ⟨u', w, rfl, hu', hw⟩ := h₁.of_append
    obtain rfl := hw.word (isSpace_of_all (by decide))
    exact .noState (hu'.blanks hu) fun hmem => hline (hu'.sublist.subset hmem)
  | everyState =>
    obtain rfl := hq.word (isSpace_of_all (by decide))
    exact .everyState

/-! ## Where a condition ends -/

/-- A text whose last character is no space. -/
def EndsFlush (s : List Char) : Prop :=
  ∃ r c, s = r ++ [c] ∧ isSpace c = false

theorem EndsFlush.append (s : List Char) {t : List Char} (h : EndsFlush t) : EndsFlush (s ++ t) := by
  obtain ⟨r, c, rfl, hc⟩ := h
  exact ⟨s ++ r, c, (List.append_assoc s r [c]).symm, hc⟩

theorem EndsFlush.cons (c : Char) {t : List Char} (h : EndsFlush t) : EndsFlush (c :: t) :=
  h.append [c]

theorem EndsFlush.of_forall {w : List Char} (hne : w ≠ []) (hw : ∀ c ∈ w, isSpace c = false) :
    EndsFlush w :=
  ⟨w.dropLast, w.getLast hne, (List.dropLast_concat_getLast hne).symm,
    hw _ (List.getLast_mem hne)⟩

theorem EndsFlush.of_name {w : List Char} (hw : ∀ c ∈ w, isNameTail c = true) (hne : w ≠ []) :
    EndsFlush w :=
  .of_forall hne fun c hc => isSpace_of_isNameTail (hw c hc)

theorem EndsFlush.stops {s : List Char} (h : EndsFlush s) : Stops isSpace s.reverse := by
  obtain ⟨r, c, rfl, hc⟩ := h
  rw [List.reverse_append]
  exact Stops.cons hc _

theorem EndsFlush.ne_nil {s : List Char} (h : EndsFlush s) : s ≠ [] := by
  obtain ⟨r, c, rfl, -⟩ := h
  simp

theorem WrittenQuantifier.endsFlush {quantify : Proposition → Condition} {q : List Char}
    (h : WrittenQuantifier quantify q) : EndsFlush q := by
  cases h with
  | someState => exact ⟨"exist".toList, 's', rfl, by decide⟩
  | @noState u => exact ⟨'~' :: (u ++ "exist".toList), 's', by simp, by decide⟩
  | everyState => exact ⟨"foral".toList, 'l', rfl, by decide⟩

theorem WrittenConstant.endsFlush {value : Constant} {w : List Char} (h : WrittenConstant value w) :
    EndsFlush w := by
  refine .of_forall ?_ h.isSpace
  cases h with
  | label => simp
  | concrete hw => exact hw.ne_nil
  | symbolic hw => exact hw.ne_nil

theorem WrittenMarked.endsFlush {place : Location} {s : List Char} (h : WrittenMarked place s) :
    EndsFlush s := by
  cases h with
  | @register ds u v name _ _ _ hname =>
    have hlast := EndsFlush.of_name (isNameTail_of_isRegisterName hname) hname.ne_nil
    exact (((hlast.append v).cons ':').append u).append ds
  | @symbolicRegister u name _ hname =>
    have hlast := EndsFlush.of_name (isNameTail_of_isName hname) hname.ne_nil
    exact (hlast.append u).cons '%'
  | @number u v w => exact ⟨'[' :: (u ++ (w ++ v)), ']', by simp, by decide⟩
  | @name u v w => exact ⟨'[' :: (u ++ (w ++ v)), ']', by simp, by decide⟩

theorem Joined.endsFlush {mark : List Char} {texts : List (List Char)} {s : List Char}
    (hs : Joined mark texts s) (h : ∀ t ∈ texts, EndsFlush t) : EndsFlush s := by
  induction hs with
  | one s => exact h s (by simp)
  | @more s u v rest texts _ _ _ ih =>
    have hrest := ih fun t ht => h t (List.mem_cons_of_mem s ht)
    exact (((hrest.append v).append mark).append u).append s

theorem Written.endsFlush {level : Level} {p : Proposition} {s : List Char}
    (h : Written level p s) : EndsFlush s := by
  induction h with
  | truth => exact ⟨"tru".toList, 'e', rfl, by decide⟩
  | falsity => exact ⟨"fals".toList, 'e', rfl, by decide⟩
  | @holds place value s u v t _ _ _ ht => exact (((ht.endsFlush.append v).cons '=').append u).append s
  | @agree left right s u v t _ _ _ ht => exact (((ht.endsFlush.append v).cons '=').append u).append s
  | @parentheses p u s v => exact ⟨'(' :: (u ++ (s ++ v)), ')', by simp, by decide⟩
  | @not p u s _ _ ih => exact (ih.append u).cons '~'
  | and _ _ hs ih =>
    refine hs.endsFlush fun t ht => ?_
    obtain ⟨part, hpart, rfl⟩ := List.mem_map.mp ht
    exact ih part hpart
  | or _ _ hs ih =>
    refine hs.endsFlush fun t ht => ?_
    obtain ⟨part, hpart, rfl⟩ := List.mem_map.mp ht
    exact ih part hpart
  | @implies p q s u v t _ _ _ _ _ ihq =>
    exact ((((ihq.append v).cons '>').cons '=').append u).append s
  | conjunction _ ih => exact ih
  | disjunction _ ih => exact ih
  | implication _ ih => exact ih

theorem Written.stops {level : Level} {p : Proposition} {s : List Char} (h : Written level p s)
    (rest : List Char) : Stops isSpace (s ++ rest) := by
  obtain ⟨c, r, hcr, hc⟩ := h.head rest
  rw [hcr]
  exact Stops.cons (isSpace_of_startsProposition hc) r

theorem Thinned.stops {tail : Char → Bool} {p : Proposition} {level : Level} {s s' : List Char}
    (h : Thinned s s') (hs : Written level p s) (hstop : Stops tail s) : Stops tail s' := by
  obtain ⟨c, r, hcr, hc⟩ := hs.head []
  rw [List.append_nil] at hcr
  subst hcr
  obtain ⟨r', rfl, -⟩ := h.of_cons (.inl (isSpace_of_startsProposition hc))
  exact Stops.cons (hstop c rfl) r'

/-! ## Trimmed conditions -/

/-- Trimming the lines of a written condition leaves a written condition. -/
theorem WrittenCondition.tidy {c : Condition} {s v : List Char} (h : WrittenCondition c s)
    (hv : Blanks v) :
    ∃ s' v', Source.tidy (s ++ v) = s' ++ v' ∧ WrittenCondition c s' ∧ Blanks v' := by
  cases h with
  | @mk quantify p l q u body hl hq hu hgap hbody =>
    by_cases hne : u = []
    · -- no gap to lose: the quantifier and the proposition are told apart by their characters
      subst hne
      have hthin := thinned_tidy (l ++ (q ++ ([] ++ body)) ++ v)
      obtain ⟨t, v', htidy, hthin, hv'⟩ := hthin.of_append
      obtain ⟨l', t₁, rfl, hl', h₁⟩ := hthin.of_append
      obtain ⟨q', body', rfl, hq', hbody'⟩ := h₁.of_append
      exact ⟨l' ++ (q' ++ ([] ++ body')), v', htidy, .mk (hl.thinned hl') (hq.thinned hq') Blanks.nil
        (fun _ => hbody'.stops hbody (hgap rfl)) (hbody.thinned hbody'), hv'.blanks hv⟩
    · -- the gap may shrink to its line feeds or lose its margins, but some of it is left
      obtain ⟨x', u', y', htidy, hx', hy', hu', hne'⟩ := tidy_gap (hq.endsFlush.append l).ne_nil
        (hq.endsFlush.append l).stops (by simp [hbody.endsFlush.ne_nil]) (hbody.stops v) hu hne
      obtain ⟨l', q', rfl, hl', hq'⟩ := hx'.of_append
      obtain ⟨body', v', rfl, hbody', hv'⟩ := hy'.of_append
      refine ⟨l' ++ (q' ++ (u' ++ body')), v', ?_, .mk (hl.thinned hl') (hq.thinned hq') hu'
        (fun hnil => absurd hnil hne') (hbody.thinned hbody'), hv'.blanks hv⟩
      have hsplit : l ++ (q ++ (u ++ body)) ++ v = l ++ q ++ (u ++ (body ++ v)) := by simp
      rw [hsplit, htidy]
      simp

theorem WrittenCondition.endsFlush {c : Condition} {s : List Char} (h : WrittenCondition c s) :
    EndsFlush s := by
  cases h with
  | @mk quantify p l q u body _ _ _ _ hbody =>
    exact ((hbody.endsFlush.append u).append q).append l

/-- Blanks behind a written condition are trimmed off. -/
theorem WrittenCondition.trim {c : Condition} {s v : List Char} (h : WrittenCondition c s)
    (hv : Blanks v) : Text.trim (s ++ v) = s := by
  have hstart : Stops isSpace s := by
    cases h with
    | @mk quantify p l q u body hl hq _ _ _ =>
      cases hl with
      | list => exact Stops.cons (by decide) _
      | none => cases hq <;> exact Stops.cons (by decide) _
  have htrim := trim_append h.endsFlush.ne_nil ⟨hstart, h.endsFlush.stops⟩ [] v
  have hspaces : trimEnd v = [] := trimEnd_spaces fun d hd => isSpace_of_isBlank (hv d hd)
  rw [List.nil_append, hspaces, List.append_nil] at htrim
  exact htrim

/-! ## Where the table ends -/

/-- A tilde, spaces on its line and the word for some state start a condition. -/
theorem startsCondition_noState {w r : List Char} (hw : ∀ c ∈ w, isSpace c = true) (hline : '\n' ∉ w)
    (hend : atWordEnd r = true) :
    startsCondition (('~' :: (w ++ ("exists".toList ++ r))).takeWhile (· != '\n')) = true := by
  have hwline : ∀ d ∈ w, (d != '\n') = true := bne_of_not_mem hline
  rw [List.takeWhile_cons_of_pos (by decide), List.takeWhile_append_of_pos hwline,
    startsCondition_tilde, List.dropWhile_append_of_pos hw]
  exact startsWithWord_takeWhile (by decide) hend

/-- The first line of a written condition starts a condition. -/
theorem startsCondition_written {c : Condition} {s v : List Char} (h : WrittenCondition c s) :
    startsCondition ((s ++ v).takeWhile (· != '\n')) = true := by
  cases h with
  | @mk quantify p l q u body hl hq hu hgap hbody =>
    cases hl with
    | @list u' t v' hu' ht hv' =>
      -- the word is complete: blanks or the bracket follow it
      have hend : atWordEnd (u' ++ '[' :: (t ++ (']' :: (v' ++ (q ++ (u ++ (body ++ v))))))) = true :=
        atWordEnd_spaces (fun d hd => isSpace_of_isBlank (hu' d hd)) rfl
      have hsplit : "locations".toList ++ (u' ++ '[' :: (t ++ ']' :: v')) ++ (q ++ (u ++ body)) ++ v
          = "locations".toList ++ (u' ++ '[' :: (t ++ (']' :: (v' ++ (q ++ (u ++ (body ++ v))))))) := by
        simp
      rw [hsplit]
      exact startsCondition_of_word (by simp) (startsWithWord_takeWhile (by decide) hend)
    | none =>
      obtain ⟨-, hend⟩ := stops_of_gap hu hgap hbody v
      have hsplit : [] ++ (q ++ (u ++ body)) ++ v = q ++ (u ++ (body ++ v)) := by simp
      rw [hsplit]
      cases hq with
      | someState =>
        exact startsCondition_of_word (by simp) (startsWithWord_takeWhile (by decide) hend)
      | everyState =>
        exact startsCondition_of_word (by simp) (startsWithWord_takeWhile (by decide) hend)
      | noState hw hline =>
        rw [List.cons_append, List.append_assoc]
        exact startsCondition_noState (fun d hd => isSpace_of_isBlank (hw d hd)) hline hend

/-- Spaces in front of a text are blank lines and a margin. -/
theorem lines_spaces {u : List Char} (hu : ∀ c ∈ u, isSpace c = true) (s : List Char) :
    ∃ n, (splitAt '\n' (u ++ s)).map trim = List.replicate n [] ++ (splitAt '\n' s).map trim := by
  induction u with
  | nil => exact ⟨0, rfl⟩
  | cons c u ih =>
    obtain ⟨n, hn⟩ := ih fun d hd => hu d (List.mem_cons_of_mem c hd)
    by_cases hc : c = '\n'
    · -- the text up to here is a line of its own, and it is blank
      subst hc
      refine ⟨n + 1, ?_⟩
      have hsplit : splitAt '\n' ('\n' :: u ++ s) = [] :: splitAt '\n' (u ++ s) := rfl
      rw [hsplit, List.map_cons, hn, List.replicate_succ, List.cons_append, trim_nil]
    · -- the space belongs to the margin of the next line
      refine ⟨n, ?_⟩
      obtain ⟨lines, hlines⟩ := splitAt_eq_cons '\n' (u ++ s)
      have hsplit : splitAt '\n' (c :: (u ++ s)) = (c :: (u ++ s).takeWhile (· != '\n')) :: lines := by
        rw [splitAt] at hlines ⊢
        rw [splitWhen, if_neg (by simpa using hc), hlines]
      have hspace : isSpace c = true := hu c (by simp)
      have htrim : trim (c :: (u ++ s).takeWhile (· != '\n')) = trim ((u ++ s).takeWhile (· != '\n')) := by
        rw [trim, trimStart, List.dropWhile_cons_of_pos hspace, ← trimStart, ← trim]
      rw [List.cons_append, hsplit, List.map_cons, htrim, ← hn, hlines, List.map_cons]

/-- Where the first line of a text starts a condition, none of its lines is a row, and all of them
from that line on are left. -/
theorem tableRows_of_startsCondition {u s : List Char} (hu : ∀ c ∈ u, isSpace c = true)
    (hs : startsCondition ((tidy s).takeWhile (· != '\n')) = true) {lines : List (List Char)}
    (hlines : lines = (splitAt '\n' (u ++ s)).map trim) :
    tableRows lines = [] ∧ afterTable lines = splitAt '\n' (tidy s) := by
  obtain ⟨n, hn⟩ := lines_spaces hu s
  obtain ⟨rest, hrest⟩ := splitAt_eq_cons '\n' (tidy s)
  rw [← splitAt_tidy s, hrest] at hn
  have htrim : trim ((tidy s).takeWhile (· != '\n')) = (tidy s).takeWhile (· != '\n') := by
    have hmem : (tidy s).takeWhile (· != '\n') ∈ (splitAt '\n' s).map trim := by
      rw [← splitAt_tidy, hrest]
      exact List.mem_cons_self
    obtain ⟨raw, -, hraw⟩ := List.mem_map.mp hmem
    rw [← hraw, trim_trim]
  have hstart : (!startsCondition (trim ((tidy s).takeWhile (· != '\n')))) = false := by
    rw [htrim, hs]
    rfl
  have hblank : ∀ line ∈ List.replicate n ([] : List Char), (!startsCondition (trim line)) = true := by
    intro line hline
    rw [List.eq_of_mem_replicate hline, trim_nil, startsCondition_nil]
    rfl
  rw [hlines, hn]
  constructor
  · rw [tableRows, List.takeWhile_append_of_pos hblank, List.takeWhile_cons_of_neg (by simp [hstart])]
    simp
  · rw [afterTable, List.dropWhile_append_of_pos hblank, List.dropWhile_cons_of_neg (by simp [hstart]),
      hrest]

/-- The lines of a text make the condition that the text is between its margins. -/
theorem readCondition_splitAt {s : List Char} {c : Condition} (hne : trim s ≠ [])
    (h : condition? (trim s) = some c) : readCondition (splitAt '\n' s) = .ok c := by
  have hjoin : joinWith '\n' (splitAt '\n' s) = s := joinWith_splitWhen '\n' s
  rw [readCondition, hjoin]
  split
  · rename_i hnil
    exact absurd hnil hne
  · exact shaped_eq_ok.mpr h

/-- The trimmed lines of a written condition hold no row of a table and make that condition. -/
theorem readCondition_written {c : Condition} {s u v : List Char} (h : WrittenCondition c s)
    (hu : Blanks u) (hv : Blanks v) {lines : List (List Char)}
    (hlines : lines = (splitAt '\n' (u ++ (s ++ v))).map trim) :
    tableRows lines = [] ∧ readCondition (afterTable lines) = .ok c := by
  obtain ⟨s', v', htidy, hs', hv'⟩ := h.tidy hv
  have hfirst := startsCondition_written (v := v') hs'
  rw [← htidy] at hfirst
  obtain ⟨hrows, hafter⟩ := tableRows_of_startsCondition (fun d hd => isSpace_of_isBlank (hu d hd))
    hfirst hlines
  have hread := condition?_written hs' Blanks.nil Blanks.nil
  rw [List.nil_append, List.append_nil] at hread
  -- trimmed as a whole, the lines are the tidied condition again
  have htrim : Text.trim (Source.tidy (s ++ v)) = s' := by rw [htidy, hs'.trim hv']
  refine ⟨hrows, ?_⟩
  rw [hafter]
  exact readCondition_splitAt (by rw [htrim]; exact hs'.endsFlush.ne_nil) (by rw [htrim, hread])

/-! ## Whole tests -/

/-- Where the condition is missing, the table ends with the text. -/
theorem afterTable_of_missingCondition {lines : List (List Char)}
    (h : readCondition (afterTable lines) = .error .missingCondition) : afterTable lines = [] := by
  cases hafter : afterTable lines with
  | nil => rfl
  | cons line rest =>
    have hhead := List.head?_dropWhile_not (fun line => !startsCondition (trim line)) lines
    rw [← afterTable, hafter] at hhead
    have hstart : startsCondition (trim line) = true := by simpa using hhead
    rw [readCondition, hafter] at h
    split at h
    · -- a line that starts the condition is not blank
      rename_i hnil
      have hspace : ∀ c ∈ line, isSpace c = true := fun c hc =>
        trim_eq_nil.mp hnil c (mem_joinWith_of_mem List.mem_cons_self hc)
      rw [trim_eq_nil.mpr hspace] at hstart
      exact absurd hstart (by decide)
    · cases shaped_error h

/-- What a text lacks that lacks only its condition. -/
theorem readFront_of_missingCondition {plain : List Char}
    (h : readTest plain = .error .missingCondition) :
    ∃ test, readFront (skipBlankLines (textLines plain)) = .ok (test, []) := by
  rw [readTest_eq] at h
  rcases bind_eq_error.mp h with hfront | ⟨⟨test, rest⟩, hfront, h⟩
  · exact absurd rfl (readFront_error hfront)
  rcases bind_eq_error.mp h with hcondition | ⟨c, -, h⟩
  · obtain ⟨_, _, _, _, _, _, _, _, rest₂, _, _, -, -, -, -, -, -, -, -, hafter, -⟩ :=
      readFront_eq_ok.mp hfront
    rw [← hafter] at hcondition
    rw [afterTable_of_missingCondition hcondition] at hafter
    exact ⟨test, by rw [hfront, hafter]⟩
  · cases h

theorem exists_of_readFront {lines : List (List Char)} {test : Condition → Test}
    {after : List (List Char)} (h : readFront (skipBlankLines lines) = .ok (test, after)) :
    ∃ line ∈ lines, line ≠ [] := by
  by_contra hblank
  have hnil : skipBlankLines lines = [] :=
    List.dropWhile_eq_nil_iff.mpr fun line hline =>
      List.isEmpty_iff.mpr (not_not.mp fun h => hblank ⟨line, hline, h⟩)
  rw [hnil] at h
  cases h

/-- **Conditions are read as they are written.** Take a text that is a test but for the condition
that it lacks. Then there is a test such that, whatever condition is written behind the text, in
whatever layout, the parser reads that test with that condition. -/
theorem readTest_condition {plain : List Char} (hplain : readTest plain = .error .missingCondition) :
    ∃ test : Test, ∀ {c : Condition} {s u v text : List Char}, WrittenCondition c s → Blanks u →
      Blanks v → dropComments text = dropComments plain ++ '\n' :: (u ++ (s ++ v)) →
      readTest text = .ok { test with condition := c } := by
  obtain ⟨test, hfront⟩ := readFront_of_missingCondition hplain
  refine ⟨test default, fun {c s u v text} hs hu hv htext => ?_⟩
  have hlines : textLines text = textLines plain ++ (splitAt '\n' (u ++ (s ++ v))).map trim := by
    rw [textLines, htext, splitAt, splitWhen_append (by simp), List.map_append, textLines]
    rfl
  have hne : (splitAt '\n' (u ++ (s ++ v))).map trim ≠ [] := map_trim_splitAt_ne_nil _
  have hnewline : ∀ line ∈ (splitAt '\n' (u ++ (s ++ v))).map trim, '\n' ∉ line := by
    rw [← splitAt_tidy]
    exact fun line hline => newline_of_mem_splitAt hline
  obtain ⟨hrows, hcondition⟩ := readCondition_written hs hu hv rfl
  -- the plain text is not blank, so its header is still the first line of the whole
  have hstart : ∃ line ∈ textLines plain, line ≠ [] := exists_of_readFront hfront
  -- what was read in front of the condition does not depend on it
  have htest : ∀ c, test c = { test default with condition := c } := by
    obtain ⟨_, _, _, _, _, _, _, _, _, _, _, -, -, -, -, -, -, -, -, -, rfl⟩ :=
      readFront_eq_ok.mp hfront
    exact fun _ => rfl
  rw [readTest_eq, hlines, skipBlankLines_append hstart, readFront_append hfront hne hnewline hrows]
  show (readCondition (afterTable _) >>= fun condition => pure (test condition)) = _
  rw [hcondition, ← htest]
  rfl

theorem readTest_condition_noState :
    readTest "X86 n\n\x7b\x7d\nP0 ;\nnop ;".toList = .error .missingCondition ∧
    ∃ test : Test, readTest "X86 n\n\x7b\x7d\nP0 ;\nnop ;\n~ exists\n 0:r0=1 =>\n (true)\n".toList
      = .ok { test with
          condition := .noState (.implies (.holds (.register 0 "r0") (.concrete "1")) (.and [])) } := by
  have hplain : readTest "X86 n\n\x7b\x7d\nP0 ;\nnop ;".toList = .error .missingCondition := by
    rw [readTest, textLines, dropComments_of_no_star (by decide)]
    rfl
  have hplace : WrittenMarked (.register 0 "r0") "0:r0".toList :=
    @WrittenMarked.register ['0'] [] [] "r0".toList (by decide) Blanks.nil Blanks.nil (by decide)
  have hleft : Written .negation (.holds (.register 0 "r0") (.concrete "1")) "0:r0=1".toList :=
    .holds (.marked hplace) Blanks.nil Blanks.nil (@WrittenConstant.concrete ['1'] (.inl (.inl (by decide))))
  have hright : Written .implication (.and []) "(true)".toList :=
    .implication (.disjunction (.conjunction
      (.parentheses Blanks.nil Blanks.nil (.implication (.disjunction (.conjunction .truth))))))
  have hbody := Written.implies (u := [' ']) (v := "\n ".toList) (by decide) (by decide)
    (.disjunction (.conjunction hleft)) hright
  have hcondition := WrittenCondition.mk (u := "\n ".toList) .none
    (.noState (u := [' ']) (by decide) (by decide)) (by decide) (by simp) hbody
  obtain ⟨test, htest⟩ := readTest_condition hplain
  refine ⟨hplain, test, htest (u := []) (v := ['\n']) hcondition Blanks.nil (by decide) ?_⟩
  rw [dropComments_of_no_star (by decide), dropComments_of_no_star (by decide)]
  rfl

end Litmus.Source
