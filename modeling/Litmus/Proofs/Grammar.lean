import Litmus.Proofs.Pieces
import Litmus.Proofs.Rows

/-!
# Written propositions

The ways to write a proposition, and that each of them is read back. Parentheses stand where a part
binds looser than its place asks for, and wherever else the writer likes; blanks stand between any
two words.

* **`Written`**: what is written for a proposition at a level of precedence.
* **`Written.makes`**: the pieces of a written proposition come down to a row of its level.
* **`read_written`**: a written proposition is read as what it was written for.
-/

namespace Litmus.Source

open Litmus.Text

/-! ## The grammar -/

/-- Texts in their order with a connective between neighbours, and any blanks around it. -/
inductive Joined (connective : List Char) : List (List Char) → List Char → Prop
  | one (s : List Char) : Joined connective [s] s
  | more {s u v rest : List Char} {texts : List (List Char)} (hu : Blanks u) (hv : Blanks v)
      (h : Joined connective texts rest) :
      Joined connective (s :: texts) (s ++ (u ++ (connective ++ (v ++ rest))))

/-- What is written for a proposition where a part of a level is expected. Atoms are written without
a name on the left that reads as a keyword. -/
inductive Written : Level → Proposition → List Char → Prop
  | truth : Written .negation (.and []) "true".toList
  | falsity : Written .negation (.or []) "false".toList
  | holds {place : Location} {value : Constant} {s u v t : List Char}
      (hs : WrittenLocation (fun n => ¬ ReadsAsKeyword n) place s) (hu : Blanks u) (hv : Blanks v)
      (ht : WrittenConstant value t) : Written .negation (.holds place value) (s ++ (u ++ '=' :: (v ++ t)))
  | agree {left right : Location} {s u v t : List Char}
      (hs : WrittenLocation (fun n => ¬ ReadsAsKeyword n) left s) (hu : Blanks u) (hv : Blanks v)
      (ht : WrittenMarked right t) : Written .negation (.agree left right) (s ++ (u ++ '=' :: (v ++ t)))
  | parentheses {p : Proposition} {u s v : List Char} (hu : Blanks u) (hv : Blanks v)
      (h : Written .implication p s) : Written .negation p ('(' :: (u ++ (s ++ (v ++ [')']))))
  | not {p : Proposition} {u s : List Char} (hu : Blanks u) (h : Written .negation p s) :
      Written .negation (.not p) ('~' :: (u ++ s))
  | and {parts : List (Proposition × List Char)} {s : List Char} (hlen : 2 ≤ parts.length)
      (h : ∀ part ∈ parts, Written .negation part.1 part.2)
      (hs : Joined ['/', '\\'] (parts.map (·.2)) s) : Written .conjunction (.and (parts.map (·.1))) s
  | or {parts : List (Proposition × List Char)} {s : List Char} (hlen : 2 ≤ parts.length)
      (h : ∀ part ∈ parts, Written .conjunction part.1 part.2)
      (hs : Joined ['\\', '/'] (parts.map (·.2)) s) : Written .disjunction (.or (parts.map (·.1))) s
  | implies {p q : Proposition} {s u v t : List Char} (hu : Blanks u) (hv : Blanks v)
      (hp : Written .disjunction p s) (hq : Written .implication q t) :
      Written .implication (.implies p q) (s ++ (u ++ '=' :: '>' :: (v ++ t)))
  | conjunction {p : Proposition} {s : List Char} (h : Written .negation p s) :
      Written .conjunction p s
  | disjunction {p : Proposition} {s : List Char} (h : Written .conjunction p s) :
      Written .disjunction p s
  | implication {p : Proposition} {s : List Char} (h : Written .disjunction p s) :
      Written .implication p s

/-! ## The pieces of a written proposition -/

/-- A text that is cut into pieces, whatever closes it. -/
def Cuts (s : List Char) (pieces : List Piece) : Prop :=
  ∀ rest, Closes rest → pieces? (s ++ rest) = (pieces? rest).map (pieces ++ ·)

/-- A text whose pieces come down to a row that makes a proposition at a level. -/
def Level.Makes (level : Level) (p : Proposition) (s : List Char) : Prop :=
  ∃ pieces row, Cuts s pieces ∧ Groups pieces row ∧ level.IsRow p row

theorem Cuts.operand {s : List Char} {p : Proposition}
    (h : ∀ rest, Closes rest → operand (s ++ rest) = some (p, rest)) : Cuts s [.operand p] :=
  fun rest hrest => pieces?_of_operand (h rest hrest)

theorem makes_operand {s : List Char} {p : Proposition}
    (h : ∀ rest, Closes rest → operand (s ++ rest) = some (p, rest)) :
    Level.negation.Makes p s :=
  ⟨[.operand p], [.operand p], Cuts.operand h, Groups.single (by simp) (by simp), isRow_operand p⟩

theorem makes_parentheses {p : Proposition} {u s v : List Char} (hu : Blanks u) (hv : Blanks v)
    (h : Level.implication.Makes p s) : Level.negation.Makes p ('(' :: (u ++ (s ++ (v ++ [')'])))) := by
  obtain ⟨pieces, row, hcuts, hgroups, hrow⟩ := h
  refine ⟨.opening :: (pieces ++ [.closing]), [.operand p], ?_, hgroups.parentheses hrow,
    isRow_operand p⟩
  intro rest _
  have hopen : pieces? ('(' :: (u ++ (s ++ (v ++ ')' :: rest))))
      = (pieces? (s ++ (v ++ ')' :: rest))).map (.opening :: ·) := by
    rw [← pieces?_append_blanks hu (s ++ (v ++ ')' :: rest))]
    exact pieces?_of_piece (by decide) rfl
  have hinner := hcuts (v ++ ')' :: rest) (Closes.mark hv (by simp) rest)
  have hclose : pieces? (v ++ ')' :: rest) = (pieces? rest).map (.closing :: ·) := by
    rw [pieces?_append_blanks hv]
    exact pieces?_of_piece (by decide) rfl
  simp only [List.cons_append, List.append_assoc, List.nil_append]
  rw [hopen, hinner, hclose, Option.map_map, Option.map_map]
  exact congrArg (Option.map · (pieces? rest)) (funext fun rest' => by simp)

theorem makes_not {p : Proposition} {u s : List Char} (hu : Blanks u)
    (h : Level.negation.Makes p s) : Level.negation.Makes (.not p) ('~' :: (u ++ s)) := by
  obtain ⟨pieces, row, hcuts, hgroups, hrow⟩ := h
  refine ⟨.not :: pieces, .not :: row, ?_, (Groups.single (by simp) (by simp)).append hgroups, isRow_not hrow⟩
  intro rest hrest
  have hnot : pieces? ('~' :: (u ++ (s ++ rest))) = (pieces? (s ++ rest)).map (.not :: ·) := by
    rw [← pieces?_append_blanks hu (s ++ rest)]
    exact pieces?_of_piece (by decide) rfl
  simp only [List.cons_append, List.append_assoc]
  rw [hnot, hcuts rest hrest, Option.map_map]
  rfl

/-- A connective as it is written and as a piece. -/
structure Marks (mark : List Char) (sep : Piece) : Prop where
  closes : ∀ u s, Blanks u → Closes (u ++ (mark ++ s))
  cuts : ∀ s, pieces? (mark ++ s) = (pieces? s).map (sep :: ·)
  groups : Groups [sep] [sep]

theorem marks_and : Marks ['/', '\\'] .and where
  closes := fun _ _ hu => Closes.mark hu (by simp) _
  cuts := fun _ => pieces?_of_piece (by decide) rfl
  groups := Groups.single (by simp) (by simp)

theorem marks_or : Marks ['\\', '/'] .or where
  closes := fun _ _ hu => Closes.mark hu (by simp) _
  cuts := fun _ => pieces?_of_piece (by decide) rfl
  groups := Groups.single (by simp) (by simp)

theorem marks_implies : Marks ['=', '>'] .implies where
  closes := fun _ _ hu => Closes.mark hu (by simp) _
  cuts := fun _ => pieces?_of_piece (by decide) rfl
  groups := Groups.single (by simp) (by simp)

/-- A connective between two texts. -/
theorem Marks.between {mark : List Char} {sep : Piece} (m : Marks mark sep)
    {s t u v : List Char} {pieces pieces' : List Piece} (hu : Blanks u) (hv : Blanks v)
    (h : Cuts s pieces) (h' : Cuts t pieces') :
    Cuts (s ++ (u ++ (mark ++ (v ++ t)))) (pieces ++ sep :: pieces') := by
  intro rest hrest
  simp only [List.append_assoc]
  rw [h _ (m.closes u _ hu), pieces?_append_blanks hu, m.cuts, pieces?_append_blanks hv, h' rest hrest,
    Option.map_map, Option.map_map]
  exact congrArg (Option.map · (pieces? rest)) (funext fun rest' => by simp)

/-- Joined parts make a row of joined rows. -/
theorem Joined.rows {mark : List Char} {parts : List (Proposition × List Char)} {s : List Char}
    (hs : Joined mark (parts.map (·.2)) s) {sep : Piece} (m : Marks mark sep) {level : Level}
    (h : ∀ part ∈ parts, level.Makes part.1 part.2) :
    ∃ (pieces : List Piece) (rows : List (Proposition × List Piece)), Cuts s pieces ∧
      Groups pieces (joinWith sep (rows.map (·.2))) ∧ rows.map (·.1) = parts.map (·.1) ∧
      ∀ row ∈ rows, level.IsRow row.1 row.2 := by
  induction parts generalizing s with
  | nil => cases hs
  | cons part parts ih =>
    obtain ⟨pieces, row, hcuts, hgroups, hrow⟩ := h part (by simp)
    rw [List.map_cons] at hs
    generalize htexts : parts.map (·.2) = texts at hs
    cases hs with
    | one =>
      have hnil : parts = [] := List.map_eq_nil_iff.mp htexts
      subst hnil
      exact ⟨pieces, [(part.1, row)], hcuts, hgroups, rfl, by simpa using hrow⟩
    | @more _ u v rest _ hu hv hrest =>
      subst htexts
      obtain ⟨pieces', rows, hcuts', hgroups', hparts, hrows⟩ :=
        ih hrest fun q hq => h q (List.mem_cons_of_mem part hq)
      have hne : ∃ next rows', rows = next :: rows' := by
        cases rows with
        | nil =>
          have hnil : parts = [] := List.map_eq_nil_iff.mp hparts.symm
          subst hnil
          cases hrest
        | cons next rows' => exact ⟨next, rows', rfl⟩
      obtain ⟨next, rows', rfl⟩ := hne
      refine ⟨pieces ++ sep :: pieces', (part.1, row) :: next :: rows',
        m.between hu hv hcuts hcuts', hgroups.append (m.groups.append hgroups'), ?_, ?_⟩
      · rw [List.map_cons, hparts, List.map_cons]
      · intro r hr
        rcases List.mem_cons.mp hr with rfl | hr
        · exact hrow
        · exact hrows r hr

/-- Several parts under a connective. -/
theorem Joined.makes {mark : List Char} {parts : List (Proposition × List Char)} {s : List Char}
    (hs : Joined mark (parts.map (·.2)) s) {sep : Piece} (m : Marks mark sep) {below above : Level}
    {isSep : Piece → Bool} {connect : List Proposition → Proposition}
    (c : Connects below above sep isSep connect) (hlen : 2 ≤ parts.length)
    (h : ∀ part ∈ parts, below.Makes part.1 part.2) :
    above.Makes (connect (parts.map (·.1))) s := by
  obtain ⟨pieces, rows, hcuts, hgroups, hparts, hrows⟩ := hs.rows m h
  have hlength : rows.length = parts.length := by
    have hmap := congrArg List.length hparts
    rwa [List.length_map, List.length_map] at hmap
  have hne : rows ≠ [] := by
    rintro rfl
    rw [← hlength] at hlen
    exact absurd hlen (by decide)
  refine ⟨pieces, joinWith sep (rows.map (·.2)), hcuts, hgroups, ?_⟩
  have hrow := c.isRow hne hrows
  rwa [hparts, gather_of_two_le (by rwa [List.length_map])] at hrow

theorem makes_implies {p q : Proposition} {s u v t : List Char} (hu : Blanks u) (hv : Blanks v)
    (hp : Level.disjunction.Makes p s) (hq : Level.implication.Makes q t) :
    Level.implication.Makes (.implies p q) (s ++ (u ++ '=' :: '>' :: (v ++ t))) := by
  obtain ⟨pieces, row, hcuts, hgroups, hrow⟩ := hp
  obtain ⟨pieces', row', hcuts', hgroups', hrow'⟩ := hq
  exact ⟨_, _, marks_implies.between hu hv hcuts hcuts',
    hgroups.append (marks_implies.groups.append hgroups'), isRow_implies hrow hrow'⟩

/-- One case for each way to write a proposition. -/
theorem Written.makes {level : Level} {p : Proposition} {s : List Char} (h : Written level p s) :
    level.Makes p s := by
  induction h with
  | truth => exact makes_operand fun _ hrest => operand_true hrest
  | falsity => exact makes_operand fun _ hrest => operand_false hrest
  | holds hs hu hv ht => exact makes_operand fun _ hrest => operand_holds hs hu hv ht hrest
  | agree hs hu hv ht => exact makes_operand fun _ hrest => operand_agree hs hu hv ht hrest
  | parentheses hu hv _ ih => exact makes_parentheses hu hv ih
  | not hu _ ih => exact makes_not hu ih
  | and hlen _ hs ih => exact hs.makes marks_and connects_and hlen ih
  | or hlen _ hs ih => exact hs.makes marks_or connects_or hlen ih
  | implies hu hv _ _ ihp ihq => exact makes_implies hu hv ihp ihq
  | conjunction _ ih =>
    obtain ⟨pieces, row, hcuts, hgroups, hrow⟩ := ih
    exact ⟨pieces, row, hcuts, hgroups, connects_and.isRow_single hrow⟩
  | disjunction _ ih =>
    obtain ⟨pieces, row, hcuts, hgroups, hrow⟩ := ih
    exact ⟨pieces, row, hcuts, hgroups, connects_or.isRow_single hrow⟩
  | implication _ ih =>
    obtain ⟨pieces, row, hcuts, hgroups, hrow⟩ := ih
    exact ⟨pieces, row, hcuts, hgroups, hrow.implication⟩

/-- A written proposition is read as what it was written for, whatever blanks stand around it. -/
theorem read_written {p : Proposition} {s u v : List Char} (h : Written .implication p s)
    (hu : Blanks u) (hv : Blanks v) : (pieces? (u ++ (s ++ v))).bind grouped? = some p := by
  obtain ⟨pieces, row, hcuts, hgroups, hrow⟩ := h.makes
  have hend : pieces? v = some [] := by
    have hblank := pieces?_append_blanks hv []
    rw [List.append_nil] at hblank
    rw [hblank, pieces?]
    rfl
  rw [pieces?_append_blanks hu, hcuts v (Closes.blanks hv), hend, Option.map_some, Option.bind_some,
    List.append_nil]
  exact grouped?_of_groups hgroups hrow

end Litmus.Source
