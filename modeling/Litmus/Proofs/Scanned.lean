import Litmus.Proofs.Shapes
import Litmus.Source.Quantified

/-!
# What has been read

Whatever the scanners read has one of the shapes that can be written, and putting pieces together
keeps that: a connective never stands for one operand alone.

* **`constant_readable`**, **`location_readable`**, **`operand_readable`**: the scanners.
* **`AllReadable`**: a row whose operands have such shapes. **`grouped?_readable`**: what becomes of
  it.
* **`condition?_readable`**: every condition that is read can be written.
-/

namespace Litmus.Source

open Litmus.Text

/-! ## Constants and locations -/

theorem concreteConstant_eq_some {s rest : List Char} {value : Constant}
    (h : concreteConstant s = some (value, rest)) :
    ∃ w, value = .concrete (String.ofList w) ∧ IsNumber w := by
  simp only [concreteConstant, Option.bind_eq_bind, Option.bind_eq_some_iff, Prod.exists,
    Option.pure_def, Option.some.injEq, Prod.mk.injEq] at h
  obtain ⟨w, _, hw, rfl, -⟩ := h
  exact ⟨w, rfl, (isNumber_of_number hw).1⟩

theorem symbolicConstant_eq_some {s rest : List Char} {value : Constant}
    (h : symbolicConstant s = some (value, rest)) :
    ∃ w, value = .symbolic (String.ofList w) ∧ IsName w := by
  simp only [symbolicConstant, Option.bind_eq_bind, Option.bind_eq_some_iff, Prod.exists,
    Option.pure_def, Option.some.injEq, Prod.mk.injEq] at h
  obtain ⟨w, _, hw, rfl, -⟩ := h
  exact ⟨w, rfl, (isWord_of_word hw).1⟩

theorem constant_readable {s rest : List Char} {value : Constant}
    (h : constant s = some (value, rest)) : value.Readable := by
  simp only [constant, Option.or_eq_some_iff] at h
  rcases h with h | ⟨-, h | ⟨-, h⟩⟩
  · simp only [labelConstant, Option.bind_eq_bind, Option.bind_eq_some_iff, Prod.exists,
      Option.pure_def, Option.some.injEq, Prod.mk.injEq] at h
    obtain ⟨_, -, _, _, -, _, -, label, _, hlabel, rfl, -⟩ := h
    refine ⟨Int.natCast_nonneg _, ?_⟩
    rw [String.toList_ofList]
    exact (isWord_of_word hlabel).1
  · obtain ⟨w, rfl, hw⟩ := concreteConstant_eq_some h
    rwa [Constant.Readable, String.toList_ofList]
  · obtain ⟨w, rfl, hw⟩ := symbolicConstant_eq_some h
    rwa [Constant.Readable, String.toList_ofList]

theorem markedLocation_readable {s rest : List Char} {place : Location}
    (h : markedLocation s = some (place, rest)) : place.Readable ∧ place.Marked := by
  simp only [markedLocation, Option.or_eq_some_iff] at h
  rcases h with h | ⟨-, h | ⟨-, h⟩⟩
  · simp only [registerLocation, Option.bind_eq_bind, Option.bind_eq_some_iff, Prod.exists,
      Option.pure_def, Option.some.injEq, Prod.mk.injEq] at h
    obtain ⟨_, _, -, _, -, name, _, hname, rfl, -⟩ := h
    refine ⟨⟨Int.natCast_nonneg _, ?_⟩, trivial⟩
    rw [String.toList_ofList]
    exact (isWord_of_word hname).1
  · simp only [symbolicRegisterLocation, Option.bind_eq_bind, Option.bind_eq_some_iff, Prod.exists,
      Option.pure_def, Option.some.injEq, Prod.mk.injEq] at h
    obtain ⟨_, -, name, _, hname, rfl, -⟩ := h
    refine ⟨?_, trivial⟩
    rw [Location.Readable, String.toList_ofList]
    exact (isWord_of_word hname).1
  · simp only [addressLocation, Option.bind_eq_bind, Option.bind_eq_some_iff, Prod.exists,
      Option.pure_def, Option.some.injEq, Prod.mk.injEq, Option.or_eq_some_iff] at h
    obtain ⟨_, -, address, _, haddress, _, -, rfl, -⟩ := h
    refine ⟨?_, trivial⟩
    rcases haddress with haddress | ⟨-, haddress⟩
    · obtain ⟨w, rfl, hw⟩ := concreteConstant_eq_some haddress
      rwa [Location.Readable, String.toList_ofList]
    · obtain ⟨w, rfl, hw⟩ := symbolicConstant_eq_some haddress
      rwa [Location.Readable, String.toList_ofList]

theorem skipBlanks_of_spacedMark {c : Char} {s rest : List Char}
    (h : spacedMark c s = some rest) : skipBlanks s = c :: rest :=
  mark_eq_some.mp h

/-- The name of a cell stands at the beginning, and a blank or a bracket behind it. -/
theorem cellLocation_eq_some {s rest : List Char} {place : Location}
    (h : cellLocation s = some (place, rest)) :
    ∃ name tail index, place = .cell (.symbolic (String.ofList name)) index ∧ IsName name ∧
      0 ≤ index ∧ s = name ++ tail ∧ Stops isKeywordChar tail := by
  simp only [cellLocation, Option.bind_eq_bind, Option.bind_eq_some_iff, Prod.exists,
    Option.pure_def, Option.some.injEq, Prod.mk.injEq] at h
  obtain ⟨name, tail, hname, _, hopen, ds, _, _, _, -, rfl, -⟩ := h
  obtain ⟨hword, happ, -⟩ := isWord_of_word hname
  refine ⟨name, tail, _, rfl, hword, Int.natCast_nonneg _, happ, stops_of_skipBlanks ?_⟩
  rw [skipBlanks_of_spacedMark hopen]
  exact Stops.cons (by decide) _

theorem globalLocation_eq_some {s rest : List Char} {place : Location}
    (h : globalLocation s = some (place, rest)) :
    ∃ w, place = .global (.symbolic (String.ofList w)) ∧ IsName w := by
  simp only [globalLocation, Option.bind_eq_bind, Option.bind_eq_some_iff, Prod.exists,
    Option.pure_def, Option.some.injEq, Prod.mk.injEq] at h
  obtain ⟨w, _, hw, rfl, -⟩ := h
  exact ⟨w, rfl, (isWord_of_word hw).1⟩

theorem location_readable {s rest : List Char} {place : Location}
    (h : location s = some (place, rest)) : place.Readable := by
  simp only [location, Option.or_eq_some_iff] at h
  rcases h with h | ⟨-, h | ⟨-, h⟩⟩
  · exact (markedLocation_readable h).1
  · obtain ⟨name, tail, index, rfl, hname, hindex, -⟩ := cellLocation_eq_some h
    refine ⟨?_, hindex⟩
    rwa [String.toList_ofList]
  · obtain ⟨w, rfl, hw⟩ := globalLocation_eq_some h
    rwa [Location.Readable, String.toList_ofList]

/-- A name that reads as a keyword is read as one. -/
theorem keyword_of_readsAsKeyword {name tail : List Char} (h : ReadsAsKeyword name)
    (htail : Stops isKeywordChar tail) :
    ∃ w ∈ ["true".toList, "false".toList], keyword w (name ++ tail) ≠ none := by
  -- what follows the keyword is what follows the name, or a dot, and neither continues it
  obtain ⟨w, hw, rfl | ⟨r, rfl⟩⟩ := h
  · refine ⟨_, hw, ?_⟩
    rw [keyword_append _ htail]
    exact Option.some_ne_none _
  · refine ⟨w, hw, ?_⟩
    have hdot : Stops isKeywordChar ('.' :: (r ++ tail)) := Stops.cons (by decide) _
    rw [List.append_assoc, List.append_assoc, List.singleton_append, keyword_append w hdot]
    exact Option.some_ne_none _

/-- Where no keyword is read, no location is read that starts like one. -/
theorem location_leads {s rest : List Char} {place : Location}
    (h : location s = some (place, rest)) (htrue : keyword "true".toList s = none)
    (hfalse : keyword "false".toList s = none) : place.Leads := by
  simp only [location, Option.or_eq_some_iff] at h
  rcases h with h | ⟨-, h | ⟨-, h⟩⟩
  · have hmarked := (markedLocation_readable h).2
    cases place with
    | cell => exact absurd hmarked id
    | _ => trivial
  · -- such a name would have been read as the keyword before any location was tried
    obtain ⟨name, tail, index, rfl, -, -, rfl, htail⟩ := cellLocation_eq_some h
    intro hkeyword
    rw [String.toList_ofList] at hkeyword
    obtain ⟨w, hw, hread⟩ := keyword_of_readsAsKeyword hkeyword htail
    have hcases : w = "true".toList ∨ w = "false".toList := by simpa using hw
    rcases hcases with rfl | rfl
    · exact hread htrue
    · exact hread hfalse
  · obtain ⟨w, rfl, -⟩ := globalLocation_eq_some h
    trivial

/-! ## Operands -/

theorem operand_readable {s rest : List Char} {p : Proposition}
    (h : operand s = some (p, rest)) : p.Readable := by
  rw [operand] at h
  split at h
  · obtain ⟨rfl, -⟩ := Prod.mk.inj (Option.some.inj h)
    exact .and (by decide) (by simp)
  · rename_i htrue
    split at h
    · obtain ⟨rfl, -⟩ := Prod.mk.inj (Option.some.inj h)
      exact .or (by decide) (by simp)
    · rename_i hfalse
      simp only [atom, Option.bind_eq_bind, Option.bind_eq_some_iff, Prod.exists] at h
      obtain ⟨left, _, hleft, _, -, hright⟩ := h
      have hreadable := location_readable hleft
      have hleads := location_leads hleft htrue hfalse
      rw [atomRight] at hright
      split at hright
      · rename_i hmarked
        obtain ⟨rfl, -⟩ := Prod.mk.inj (Option.some.inj hright)
        obtain ⟨hright, hmarked⟩ := markedLocation_readable hmarked
        exact .agree hreadable hleads hright hmarked
      · obtain ⟨⟨value, _⟩, hvalue, heq⟩ := Option.map_eq_some_iff.mp hright
        obtain ⟨rfl, -⟩ := Prod.mk.inj heq
        exact .holds hreadable hleads (constant_readable hvalue)

/-! ## Rows -/

/-- A row whose operands can be written. -/
def AllReadable (row : List Piece) : Prop :=
  ∀ p, .operand p ∈ row → p.Readable

theorem AllReadable.append {row row' : List Piece} (h : AllReadable row) (h' : AllReadable row') :
    AllReadable (row ++ row') := by
  intro p hp
  rcases List.mem_append.mp hp with hp | hp
  · exact h p hp
  · exact h' p hp

theorem AllReadable.nil : AllReadable [] :=
  fun p hp => absurd hp (by simp)

theorem AllReadable.head {piece : Piece} {row : List Piece} (h : AllReadable (piece :: row)) :
    AllReadable [piece] :=
  fun p hp => h p (List.mem_cons.mpr (.inl (List.mem_singleton.mp hp)))

theorem AllReadable.tail {piece : Piece} {row : List Piece} (h : AllReadable (piece :: row)) :
    AllReadable row :=
  fun p hp => h p (List.mem_cons_of_mem piece hp)

theorem AllReadable.of_subset {row row' : List Piece} (h : AllReadable row) (hsub : row' ⊆ row) :
    AllReadable row' :=
  fun p hp => h p (hsub hp)

theorem piece_readable {s rest : List Char} {piece' : Piece} (h : piece s = some (piece', rest)) :
    AllReadable [piece'] := by
  intro p hp
  rw [← List.mem_singleton.mp hp] at h
  unfold piece at h
  split at h
  case h_7 =>
    obtain ⟨⟨q, _⟩, hoperand, heq⟩ := Option.map_eq_some_iff.mp h
    obtain ⟨hpiece, -⟩ := Prod.mk.inj heq
    rw [← Piece.operand.inj hpiece]
    exact operand_readable hoperand
  all_goals cases (Prod.mk.inj (Option.some.inj h)).1

theorem pieces?_readable {s : List Char} {pieces : List Piece} (h : pieces? s = some pieces) :
    AllReadable pieces := by
  fun_induction pieces? s generalizing pieces with
  | case1 =>
    rw [← Option.some.inj h]
    exact AllReadable.nil
  | case2 => cases h
  | case3 s c s' hskip piece' rest hpiece ih =>
    obtain ⟨pieces', hpieces', rfl⟩ := Option.map_eq_some_iff.mp h
    exact (piece_readable hpiece).append (ih hpieces')

/-! ## Levels of precedence -/

/-- What a row is cut into can be written if every part can. -/
theorem mapM_readable {f : List Piece → Option Proposition} {rows : List (List Piece)}
    {ps : List Proposition} (h : rows.mapM f = some ps)
    (hf : ∀ row ∈ rows, ∀ p, f row = some p → p.Readable) : ∀ p ∈ ps, p.Readable := by
  intro p hp
  obtain ⟨row, hrow, hread⟩ := exists_of_mem_mapM h p hp
  exact hf row hrow p hread

/-- A connective is put over several operands or none. -/
theorem gather_readable {connect : List Proposition → Proposition} {ps : List Proposition}
    (hconnect : ps.length ≠ 1 → (connect ps).Readable) (h : ∀ p ∈ ps, p.Readable) :
    (gather connect ps).Readable := by
  match ps, hconnect, h with
  | [], hconnect, _ => exact hconnect (by decide)
  | [p], _, h => exact h p (by simp)
  | _ :: _ :: _, hconnect, _ => exact hconnect (by simp)

theorem negation?_readable {row : List Piece} {p : Proposition} (hrow : AllReadable row)
    (h : negation? row = some p) : p.Readable := by
  fun_induction negation? row generalizing p with
  | case1 q =>
    rw [← Option.some.inj h]
    exact hrow q (by simp)
  | case2 row ih =>
    obtain ⟨q, hq, rfl⟩ := Option.map_eq_some_iff.mp h
    exact .not (ih (hrow.of_subset (List.subset_cons_self _ _)) hq)
  | case3 => cases h

theorem conjunction?_readable {row : List Piece} {p : Proposition} (hrow : AllReadable row)
    (h : conjunction? row = some p) : p.Readable := by
  obtain ⟨ps, hps, rfl⟩ := Option.map_eq_some_iff.mp h
  have hall := mapM_readable hps fun part hpart q hq =>
    negation?_readable (hrow.of_subset (mem_of_mem_splitWhen hpart)) hq
  exact gather_readable (fun hlen => .and hlen hall) hall

theorem disjunction?_readable {row : List Piece} {p : Proposition} (hrow : AllReadable row)
    (h : disjunction? row = some p) : p.Readable := by
  obtain ⟨ps, hps, rfl⟩ := Option.map_eq_some_iff.mp h
  have hall := mapM_readable hps fun part hpart q hq =>
    conjunction?_readable (hrow.of_subset (mem_of_mem_splitWhen hpart)) hq
  exact gather_readable (fun hlen => .or hlen hall) hall

theorem chain_readable {ps : List Proposition} {p : Proposition} (hall : ∀ q ∈ ps, q.Readable)
    (h : chain ps = some p) : p.Readable := by
  fun_induction chain ps generalizing p with
  | case1 => cases h
  | case2 q =>
    rw [← Option.some.inj h]
    exact hall q (by simp)
  | case3 q qs _ ih =>
    obtain ⟨r, hr, rfl⟩ := Option.map_eq_some_iff.mp h
    exact .implies (hall q (by simp)) (ih (fun x hx => hall x (List.mem_cons_of_mem q hx)) hr)

theorem implication?_readable {row : List Piece} {p : Proposition} (hrow : AllReadable row)
    (h : implication? row = some p) : p.Readable := by
  obtain ⟨ps, hps, hchain⟩ := Option.bind_eq_some_iff.mp h
  have hall := mapM_readable hps fun part hpart q hq =>
    disjunction?_readable (hrow.of_subset (mem_of_mem_splitWhen hpart)) hq
  exact chain_readable hall hchain

/-! ## Parentheses -/

/-- Every row that is open, and what comes next, has operands that can be written; so has what they
make. -/
theorem groupFrom_readable {stack : List (List Piece)} {row pieces : List Piece} {p : Proposition}
    (hstack : ∀ outer ∈ stack, AllReadable outer) (hrow : AllReadable row)
    (hpieces : AllReadable pieces) (h : groupFrom stack row pieces = some p) : p.Readable := by
  fun_induction groupFrom stack row pieces with
  | case1 row => exact implication?_readable (hrow.of_subset (by simp)) h
  | case2 => cases h
  | case3 stack row pieces ih =>
    refine ih (fun outer houter => ?_) AllReadable.nil hpieces.tail h
    rcases List.mem_cons.mp houter with rfl | houter
    · exact hrow
    · exact hstack outer houter
  | case4 => cases h
  | case5 => cases h
  | case6 row pieces before stack q hq ih =>
    -- what stood in the parentheses is an operand of the row before
    have hoperand : AllReadable [.operand q] := by
      intro r hr
      rw [Piece.operand.inj (List.mem_singleton.mp hr)]
      exact implication?_readable (hrow.of_subset (by simp)) hq
    exact ih (fun outer houter => hstack outer (List.mem_cons_of_mem _ houter))
      (hoperand.append (hstack before (by simp))) hpieces.tail h
  | case7 stack row piece pieces _ _ ih =>
    exact ih hstack (hpieces.head.append hrow) hpieces.tail h

theorem grouped?_readable {pieces : List Piece} {p : Proposition} (hpieces : AllReadable pieces)
    (h : grouped? pieces = some p) : p.Readable :=
  groupFrom_readable (by simp) AllReadable.nil hpieces h

/-! ## Conditions -/

theorem body_of_quantifier? {s rest : List Char} {quantify : Proposition → Condition}
    (h : quantifier? s = some (quantify, rest)) (p : Proposition) : (quantify p).body = p := by
  unfold quantifier? at h
  split at h
  · dsimp only at h
    split at h
    · rw [← (Prod.mk.inj (Option.some.inj h)).1]
      rfl
    · cases h
  · split at h
    · rw [← (Prod.mk.inj (Option.some.inj h)).1]
      rfl
    · obtain ⟨_, -, heq⟩ := Option.map_eq_some_iff.mp h
      rw [← (Prod.mk.inj heq).1]
      rfl

theorem condition?_readable {s : List Char} {c : Condition} (h : condition? s = some c) :
    c.body.Readable := by
  simp only [condition?, Option.bind_eq_bind, Option.bind_eq_some_iff, Prod.exists, Option.pure_def,
    Option.some.injEq] at h
  obtain ⟨quantify, _, hquantifier, pieces, hpieces, p, hp, rfl⟩ := h
  rw [body_of_quantifier? hquantifier]
  exact grouped?_readable (pieces?_readable hpieces) hp

end Litmus.Source
