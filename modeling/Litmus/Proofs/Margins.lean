import Litmus.Proofs.Layout

/-!
# Margins

What trimming takes from the lines of a text, place by place: spaces in front of a line feed, spaces
behind one, and spaces at the end. This says more than that the text is thinned: what stands apart
stays apart, and what stands together stays together.

* **`Trimmed`**: a text without spaces at the margins of its lines.
* **`Trimmed.of_cons`**, **`Trimmed.cases`**: what is left starts as the text did, or both start with
  white space.
* **`Trimmed.dropWhile`**, **`Trimmed.word`**: the same is left behind white space and behind a word.
* **`trimmed_tidy`**: tidying a text trims it.
-/

namespace Litmus.Source

open Litmus.Text

/-- A text without some spaces of a class that stood at a margin of a line or at the end. -/
inductive Trimmed (space : Char → Bool) : List Char → List Char → Prop
  | nil : Trimmed space [] []
  | keep {a b : List Char} (c : Char) (h : Trimmed space a b) : Trimmed space (c :: a) (c :: b)
  | before {a b : List Char} {c : Char} (hc : space c = true) (hline : c ≠ '\n')
      (h : Trimmed space a ('\n' :: b)) : Trimmed space (c :: a) ('\n' :: b)
  | after {a b : List Char} {c : Char} (hc : space c = true) (hline : c ≠ '\n')
      (h : Trimmed space ('\n' :: a) ('\n' :: b)) : Trimmed space ('\n' :: c :: a) ('\n' :: b)
  | last {a : List Char} {c : Char} (hc : space c = true) (h : Trimmed space a []) :
      Trimmed space (c :: a) []

variable {space : Char → Bool}

theorem Trimmed.append {a b : List Char} (h : Trimmed space a b) (w : List Char) :
    Trimmed space (w ++ a) (w ++ b) := by
  induction w with
  | nil => exact h
  | cons c w ih => exact .keep c ih

theorem Trimmed.refl (a : List Char) : Trimmed space a a := by
  have h := Trimmed.append (.nil : Trimmed space [] []) a
  rwa [List.append_nil] at h

/-- What is lost belongs to a smaller class if the text holds no other spaces. -/
theorem Trimmed.mono {space' : Char → Bool} {s t : List Char} (h : Trimmed space s t)
    (hs : ∀ c ∈ s, space c = true → space' c = true) : Trimmed space' s t := by
  induction h with
  | nil => exact .nil
  | keep c _ ih => exact .keep c (ih fun d hd => hs d (List.mem_cons_of_mem c hd))
  | before hc hline _ ih =>
    exact .before (hs _ (by simp) hc) hline (ih fun d hd => hs d (List.mem_cons_of_mem _ hd))
  | after hc hline _ ih =>
    refine .after (hs _ (by simp) hc) hline (ih fun d hd => hs d ?_)
    rcases List.mem_cons.mp hd with rfl | hd
    · simp
    · simp [hd]
  | last hc _ ih => exact .last (hs _ (by simp) hc) (ih fun d hd => hs d (List.mem_cons_of_mem _ hd))

/-! ## Where a trimmed text starts -/

/-- Only spaces are trimmed to nothing. -/
theorem Trimmed.of_nil {s : List Char} (h : Trimmed space s []) : ∀ c ∈ s, space c = true := by
  generalize ht : ([] : List Char) = t at h
  induction h with
  | nil => simp
  | keep => cases ht
  | before => cases ht
  | after => cases ht
  | last hc _ ih =>
    intro d hd
    rcases List.mem_cons.mp hd with rfl | hd
    · exact hc
    · exact ih rfl d hd

theorem trimmed_nil {s : List Char} (h : ∀ c ∈ s, space c = true) : Trimmed space s [] := by
  induction s with
  | nil => exact .nil
  | cons c s ih => exact .last (h c (by simp)) (ih fun d hd => h d (List.mem_cons_of_mem c hd))

/-- What is no space stays where it is. -/
theorem Trimmed.of_cons {c : Char} {a t : List Char} (h : Trimmed space (c :: a) t)
    (hc : space c = false) (hline : c ≠ '\n') : ∃ b, t = c :: b ∧ Trimmed space a b := by
  cases h with
  | keep _ h => exact ⟨_, rfl, h⟩
  | before hspace => rw [hspace] at hc; cases hc
  | after => exact absurd rfl hline
  | last hspace => rw [hspace] at hc; cases hc

/-- A word stays where it is. -/
theorem Trimmed.of_append {w a t : List Char} (h : Trimmed space (w ++ a) t)
    (hw : ∀ c ∈ w, space c = false ∧ c ≠ '\n') : ∃ b, t = w ++ b ∧ Trimmed space a b := by
  induction w generalizing t with
  | nil => exact ⟨t, rfl, h⟩
  | cons c w ih =>
    obtain ⟨t', rfl, h'⟩ := h.of_cons (hw c (by simp)).1 (hw c (by simp)).2
    obtain ⟨b, rfl, hb⟩ := ih h' fun d hd => hw d (List.mem_cons_of_mem c hd)
    exact ⟨b, rfl, hb⟩

/-- What is trimmed to a text that starts with a line feed starts with spaces and a line feed. -/
theorem Trimmed.of_newline {s b : List Char} (h : Trimmed space s ('\n' :: b)) :
    ∃ u r, s = u ++ '\n' :: r ∧ ∀ c ∈ u, space c = true ∧ c ≠ '\n' := by
  generalize ht : '\n' :: b = t at h
  induction h generalizing b with
  | nil => cases ht
  | @keep a _ c =>
    rw [← (List.cons.inj ht).1]
    exact ⟨[], a, rfl, by simp⟩
  | @before a _ c hc hline _ ih =>
    obtain ⟨u, r, rfl, hu⟩ := ih rfl
    refine ⟨c :: u, r, rfl, fun d hd => ?_⟩
    rcases List.mem_cons.mp hd with rfl | hd
    · exact ⟨hc, hline⟩
    · exact hu d hd
  | @after a _ c => exact ⟨[], c :: a, rfl, by simp⟩
  | last => cases ht

/-- A text that starts with a space, with a line feed or not at all. -/
def Pauses (space : Char → Bool) (s : List Char) : Prop :=
  ∀ c ∈ s.head?, space c = true ∨ c = '\n'

theorem Pauses.stops {tail : Char → Bool} {s : List Char} (h : Pauses space s)
    (htail : ∀ c, space c = true → tail c = false) (hline : tail '\n' = false) : Stops tail s := by
  intro c hc
  rcases h c hc with hspace | rfl
  · exact htail c hspace
  · exact hline

theorem Pauses.head?_ne {c : Char} {s : List Char} (h : Pauses space s) (hc : space c = false)
    (hline : c ≠ '\n') : s.head? ≠ some c := by
  intro hhead
  rcases h c hhead with hspace | hnewline
  · rw [hc] at hspace
    cases hspace
  · exact hline hnewline

theorem ne_newline {c : Char} (h : isSpace c = false) : c ≠ '\n' := by
  rintro rfl
  exact absurd h (by decide)

/-- A text and what is left of it start alike: with the same character, or not with a word. -/
theorem Trimmed.cases {s t : List Char} (h : Trimmed space s t) :
    (∃ c a b, s = c :: a ∧ t = c :: b ∧ space c = false ∧ c ≠ '\n' ∧ Trimmed space a b) ∨
      Pauses space s ∧ Pauses space t := by
  cases h with
  | nil => exact .inr ⟨by simp [Pauses], by simp [Pauses]⟩
  | @keep a b c h =>
    by_cases hc : space c = true ∨ c = '\n'
    · exact .inr ⟨by simpa [Pauses] using hc, by simpa [Pauses] using hc⟩
    · exact .inl ⟨c, a, b, rfl, rfl, by simpa using (not_or.mp hc).1, (not_or.mp hc).2, h⟩
  | before hc => exact .inr ⟨by simp [Pauses, hc], by simp [Pauses]⟩
  | after => exact .inr ⟨by simp [Pauses], by simp [Pauses]⟩
  | last hc => exact .inr ⟨by simp [Pauses, hc], by simp [Pauses]⟩

/-- A word of a trimmed text was there before. -/
theorem Trimmed.to_append {s w b : List Char} (h : Trimmed space s (w ++ b))
    (hw : ∀ c ∈ w, space c = false ∧ c ≠ '\n') : ∃ a, s = w ++ a ∧ Trimmed space a b := by
  induction w generalizing s with
  | nil => exact ⟨s, rfl, h⟩
  | cons d w ih =>
    obtain ⟨hd, hline⟩ := hw d (by simp)
    rcases h.cases with ⟨c, a, b', rfl, heq, -, -, hab⟩ | ⟨-, hpause⟩
    · obtain ⟨rfl, rfl⟩ := List.cons.inj heq
      obtain ⟨a', rfl, ha'⟩ := ih hab fun e he => hw e (List.mem_cons_of_mem d he)
      exact ⟨a', rfl, ha'⟩
    · exact absurd rfl (hpause.head?_ne hd hline)

/-- A mark stays where it is, and so does what stands in front of it. -/
theorem Trimmed.of_mark {a b t : List Char} {m : Char} (h : Trimmed space (a ++ m :: b) t)
    (hm : space m = false) (hline : m ≠ '\n') : ∃ a' b', t = a' ++ m :: b' ∧
      Trimmed space (a ++ [m]) (a' ++ [m]) ∧ Trimmed space b b' := by
  have hne : ∀ {c : Char}, space c = true → m ≠ c := by
    rintro c hc rfl
    rw [hm] at hc
    cases hc
  generalize hs : a ++ m :: b = s at h
  induction h generalizing a with
  | nil => exact absurd hs (by simp)
  | @keep _ _ c h ih =>
    cases a with
    | nil =>
      obtain ⟨rfl, rfl⟩ := List.cons.inj hs
      exact ⟨[], _, rfl, .refl _, h⟩
    | cons d a =>
      obtain ⟨rfl, rfl⟩ := List.cons.inj hs
      obtain ⟨a', b', rfl, ha, hb⟩ := ih rfl
      exact ⟨d :: a', b', rfl, .keep d ha, hb⟩
  | before hc hnewline _ ih =>
    cases a with
    | nil => exact absurd (List.cons.inj hs).1 (hne hc)
    | cons d a =>
      obtain ⟨rfl, rfl⟩ := List.cons.inj hs
      obtain ⟨a', b', heq, ha, hb⟩ := ih rfl
      cases a' with
      | nil => exact absurd (List.cons.inj heq).1.symm hline
      | cons e a' =>
        obtain ⟨rfl, rfl⟩ := List.cons.inj heq
        exact ⟨'\n' :: a', b', rfl, .before hc hnewline ha, hb⟩
  | @after _ _ c hc hnewline _ ih =>
    cases a with
    | nil => exact absurd (List.cons.inj hs).1 hline
    | cons d a =>
      obtain ⟨rfl, htail⟩ := List.cons.inj hs
      cases a with
      | nil => exact absurd (List.cons.inj htail).1 (hne hc)
      | cons d a =>
        obtain ⟨rfl, rfl⟩ := List.cons.inj htail
        obtain ⟨a', b', heq, ha, hb⟩ := ih (a := '\n' :: a) rfl
        cases a' with
        | nil => exact absurd (List.cons.inj heq).1.symm hline
        | cons e a' =>
          obtain ⟨rfl, rfl⟩ := List.cons.inj heq
          exact ⟨'\n' :: a', b', rfl, .after hc hnewline ha, hb⟩
  | last hc _ ih =>
    cases a with
    | nil => exact absurd (List.cons.inj hs).1 (hne hc)
    | cons d a =>
      obtain ⟨rfl, rfl⟩ := List.cons.inj hs
      obtain ⟨a', b', heq, -⟩ := ih rfl
      exact absurd heq (by simp)

/-- Whether a class of characters goes on is not decided at the margins. -/
theorem Trimmed.stops_iff {tail : Char → Bool} (htail : ∀ c, space c = true → tail c = false)
    (hline : tail '\n' = false) {s t : List Char} (h : Trimmed space s t) :
    Stops tail s ↔ Stops tail t := by
  rcases h.cases with ⟨c, a, b, rfl, rfl, -⟩ | ⟨hs, ht⟩
  · exact ⟨fun hc => Stops.cons (hc c rfl) b, fun hc => Stops.cons (hc c rfl) a⟩
  · exact ⟨fun _ => ht.stops htail hline, fun _ => hs.stops htail hline⟩

/-- A text that starts with no space does not start with one afterwards. -/
theorem Trimmed.start {s t : List Char} (h : Trimmed isSpace s t) (hs : Stops isSpace s) :
    Stops isSpace t := by
  have hspace : ∀ {c r}, s = c :: r → isSpace c = true → False := by
    rintro c r rfl hc
    rw [hs c rfl] at hc
    cases hc
  cases h with
  | nil => exact hs
  | keep c => exact Stops.cons (hs c rfl) _
  | before hc => exact (hspace rfl hc).elim
  | after => exact (hspace rfl (by decide)).elim
  | last hc => exact (hspace rfl hc).elim

/-! ## White space and words -/

/-- The same is left when white space is skipped, if no space stands behind it. -/
theorem Trimmed.dropWhile {skip : Char → Bool} (hskip : skip '\n' = true) {s t : List Char}
    (h : Trimmed space s t) (hs : Stops space (s.dropWhile skip)) :
    Trimmed space (s.dropWhile skip) (t.dropWhile skip) := by
  induction h with
  | nil => exact .nil
  | @keep a b c h ih =>
    by_cases hc : skip c = true
    · rw [List.dropWhile_cons_of_pos hc] at hs ⊢
      rw [List.dropWhile_cons_of_pos hc]
      exact ih hs
    · rw [List.dropWhile_cons_of_neg hc, List.dropWhile_cons_of_neg hc]
      exact .keep c h
  | @before a b c hspace hline h ih =>
    by_cases hc : skip c = true
    · rw [List.dropWhile_cons_of_pos hc] at hs ⊢
      exact ih hs
    · rw [List.dropWhile_cons_of_neg hc] at hs
      have hstop := hs c rfl
      rw [hspace] at hstop
      cases hstop
  | @after a b c hspace hline h ih =>
    rw [List.dropWhile_cons_of_pos hskip] at hs ih ⊢
    by_cases hc : skip c = true
    · rw [List.dropWhile_cons_of_pos hc] at hs ⊢
      exact ih hs
    · rw [List.dropWhile_cons_of_neg hc] at hs
      have hstop := hs c rfl
      rw [hspace] at hstop
      cases hstop
  | @last a c hspace h ih =>
    by_cases hc : skip c = true
    · rw [List.dropWhile_cons_of_pos hc] at hs ⊢
      exact ih hs
    · rw [List.dropWhile_cons_of_neg hc]
      exact .last hspace h

theorem Trimmed.skipBlanks {s t : List Char} (h : Trimmed space s t)
    (hs : Stops space (skipBlanks s)) : Trimmed space (skipBlanks s) (skipBlanks t) :=
  h.dropWhile (by decide) hs

/-- The same word stands at the start, and the same is left behind it. -/
theorem Trimmed.word {tail : Char → Bool} (htail : ∀ c, space c = true → tail c = false)
    (hline : tail '\n' = false) {s t : List Char} (h : Trimmed space s t) :
    s.takeWhile tail = t.takeWhile tail ∧ Trimmed space (s.dropWhile tail) (t.dropWhile tail) := by
  induction h with
  | nil => exact ⟨rfl, .nil⟩
  | keep c h ih =>
    by_cases hc : tail c = true
    · rw [List.takeWhile_cons_of_pos hc, List.takeWhile_cons_of_pos hc, List.dropWhile_cons_of_pos hc,
        List.dropWhile_cons_of_pos hc]
      exact ⟨congrArg (c :: ·) ih.1, ih.2⟩
    · rw [List.takeWhile_cons_of_neg hc, List.takeWhile_cons_of_neg hc, List.dropWhile_cons_of_neg hc,
        List.dropWhile_cons_of_neg hc]
      exact ⟨rfl, .keep c h⟩
  | before hc hne h =>
    have hword := htail _ hc
    rw [List.takeWhile_cons_of_neg (by simp [hword]), List.takeWhile_cons_of_neg (by simp [hline]),
      List.dropWhile_cons_of_neg (by simp [hword]), List.dropWhile_cons_of_neg (by simp [hline])]
    exact ⟨rfl, .before hc hne h⟩
  | after hc hne h =>
    rw [List.takeWhile_cons_of_neg (by simp [hline]), List.takeWhile_cons_of_neg (by simp [hline]),
      List.dropWhile_cons_of_neg (by simp [hline]), List.dropWhile_cons_of_neg (by simp [hline])]
    exact ⟨rfl, .after hc hne h⟩
  | last hc h =>
    have hword := htail _ hc
    rw [List.takeWhile_cons_of_neg (by simp [hword]), List.dropWhile_cons_of_neg (by simp [hword])]
    exact ⟨rfl, .last hc h⟩

/-! ## Trimmed lines -/

theorem trimmed_before {u a b : List Char} (hu : ∀ c ∈ u, space c = true) (hline : '\n' ∉ u)
    (h : Trimmed space a ('\n' :: b)) : Trimmed space (u ++ a) ('\n' :: b) := by
  induction u with
  | nil => exact h
  | cons c u ih =>
    have hc : c ≠ '\n' := fun e => hline (by simp [e])
    exact .before (hu c (by simp)) hc
      (ih (fun d hd => hu d (List.mem_cons_of_mem c hd)) fun hmem => hline (List.mem_cons_of_mem c hmem))

theorem trimmed_after {u a b : List Char} (hu : ∀ c ∈ u, space c = true) (hline : '\n' ∉ u)
    (h : Trimmed space ('\n' :: a) ('\n' :: b)) : Trimmed space ('\n' :: (u ++ a)) ('\n' :: b) := by
  induction u with
  | nil => exact h
  | cons c u ih =>
    have hc : c ≠ '\n' := fun e => hline (by simp [e])
    exact .after (hu c (by simp)) hc
      (ih (fun d hd => hu d (List.mem_cons_of_mem c hd)) fun hmem => hline (List.mem_cons_of_mem c hmem))

/-- A space that stands at a margin: any but the line feed. -/
def isMargin (c : Char) : Bool :=
  isSpace c && c != '\n'

theorem isMargin_of_isSpace {u : List Char} (hu : ∀ c ∈ u, isSpace c = true) (hline : '\n' ∉ u) :
    ∀ c ∈ u, isMargin c = true := by
  intro c hc
  have hne : c ≠ '\n' := fun e => hline (e ▸ hc)
  simp [isMargin, hu c hc, hne]

theorem isSpace_of_isMargin {c : Char} (h : isMargin c = true) : isSpace c = true :=
  (Bool.and_eq_true_iff.mp h).1

theorem ne_newline_of_isMargin {c : Char} (h : isMargin c = true) : c ≠ '\n' :=
  bne_iff_ne.mp (Bool.and_eq_true_iff.mp h).2

theorem not_mem_of_isMargin {u : List Char} (hu : ∀ c ∈ u, isMargin c = true) : '\n' ∉ u :=
  fun h => absurd (hu '\n' h) (by decide)

/-- A trimmed text is a thinned one. -/
theorem Trimmed.thinned {s t : List Char} (h : Trimmed isMargin s t) : Thinned s t := by
  induction h with
  | nil => exact .nil
  | keep c _ ih => exact .keep c ih
  | before hc hline _ ih => exact .drop (isSpace_of_isMargin hc) hline ih
  | after hc hline _ ih =>
    obtain ⟨b, heq, hb⟩ := ih.of_cons (.inr rfl)
    obtain rfl := (List.cons.inj heq).2
    exact .keep '\n' (.drop (isSpace_of_isMargin hc) hline hb)
  | last hc _ ih => exact .drop (isSpace_of_isMargin hc) (ne_newline_of_isMargin hc) ih

/-- Behind a line feed, tidying trims both margins of every line. -/
theorem trimmed_newline_tidy (s : List Char) : Trimmed isMargin ('\n' :: s) ('\n' :: tidy s) := by
  by_cases h : '\n' ∈ s
  · -- the first line loses its own margins, and the line feed behind it stays
    obtain ⟨line, rest, rfl, hline⟩ := List.eq_append_cons_of_mem h
    obtain ⟨u, v, heq, hu, hv⟩ := eq_append_trim line
    have hu' : '\n' ∉ u := fun hmem => hline (by rw [heq]; simp [hmem])
    have hv' : '\n' ∉ v := fun hmem => hline (by rw [heq]; simp [hmem])
    have hrest := trimmed_before (isMargin_of_isSpace hv hv') hv' (trimmed_newline_tidy rest)
    have hsplit : line ++ '\n' :: rest = u ++ (trim line ++ (v ++ '\n' :: rest)) := by
      rw [← List.append_assoc (trim line), ← List.append_assoc, ← heq]
    rw [tidy_append, tidy_of_line hline, hsplit]
    exact trimmed_after (isMargin_of_isSpace hu hu') hu' (.keep '\n' (hrest.append (trim line)))
  · obtain ⟨u, v, heq, hu, hv⟩ := eq_append_trim s
    have hu' : '\n' ∉ u := fun hmem => h (by rw [heq]; simp [hmem])
    have hv' : '\n' ∉ v := fun hmem => h (by rw [heq]; simp [hmem])
    have hend := (trimmed_nil (isMargin_of_isSpace hv hv')).append (trim s)
    rw [List.append_nil] at hend
    have hwhole := trimmed_after (isMargin_of_isSpace hu hu') hu' (.keep '\n' hend)
    rw [← heq] at hwhole
    rwa [tidy_of_line h]
termination_by s.length
decreasing_by
  subst_vars
  simp only [List.length_append, List.length_cons]
  omega

/-- Tidying a text that starts with no space trims it. -/
theorem trimmed_tidy {s : List Char} (hs : Stops isSpace s) : Trimmed isMargin s (tidy s) := by
  have h := trimmed_newline_tidy s
  generalize tidy s = t at h
  -- the line feed put in front was kept, and no space was lost behind it
  cases h with
  | keep _ h => exact h
  | before _ hline => exact absurd rfl hline
  | after hc =>
    have hstop := hs _ rfl
    rw [isSpace_of_isMargin hc] at hstop
    cases hstop

/-- What is trimmed to spaces was nothing but spaces. -/
theorem Trimmed.of_spaces {s t : List Char} (h : Trimmed space s t)
    (ht : ∀ c ∈ t, space c = true) : ∀ c ∈ s, space c = true := by
  induction h with
  | nil => exact ht
  | keep c _ ih =>
    intro d hd
    rcases List.mem_cons.mp hd with rfl | hd
    · exact ht d (by simp)
    · exact ih (fun e he => ht e (List.mem_cons_of_mem c he)) d hd
  | before hc _ _ ih =>
    intro d hd
    rcases List.mem_cons.mp hd with rfl | hd
    · exact hc
    · exact ih ht d hd
  | after hc _ _ ih =>
    intro d hd
    rcases List.mem_cons.mp hd with rfl | hd
    · exact ht '\n' (by simp)
    rcases List.mem_cons.mp hd with rfl | hd
    · exact hc
    · exact ih ht d (List.mem_cons_of_mem _ hd)
  | last hc h =>
    intro d hd
    rcases List.mem_cons.mp hd with rfl | hd
    · exact hc
    · exact h.of_nil d hd

/-- Spaces at the end may be trimmed off, too. -/
theorem Trimmed.dropEnd {s x y : List Char} (h : Trimmed space s (x ++ y))
    (hy : ∀ c ∈ y, space c = true) : Trimmed space s x := by
  cases x with
  | nil => exact trimmed_nil (h.of_spaces hy)
  | cons d x =>
    generalize ht : d :: x ++ y = t at h
    -- what is dropped at a margin stands in front of a line feed that is not at the end
    induction h generalizing d x with
    | nil => cases ht
    | @keep a b c h ih =>
      obtain ⟨rfl, rfl⟩ := List.cons.inj ht
      refine .keep d ?_
      cases x with
      | nil => exact trimmed_nil (h.of_spaces hy)
      | cons e x => exact ih e x rfl
    | before hc hline _ ih =>
      obtain ⟨rfl, rfl⟩ := List.cons.inj ht
      exact .before hc hline (ih '\n' x rfl)
    | after hc hline _ ih =>
      obtain ⟨rfl, rfl⟩ := List.cons.inj ht
      exact .after hc hline (ih '\n' x rfl)
    | last => cases ht

end Litmus.Source
