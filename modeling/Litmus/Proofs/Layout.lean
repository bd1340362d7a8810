import Litmus.Proofs.Lexemes
import Litmus.Proofs.Lines

/-!
# Lines and their margins

Every line of a text is trimmed before the text is read on. What this does to a text that is made of
known parts: the parts lose white space at the margins of their lines and nothing else.

* **`trim_append`**: only the outer parts are trimmed.
* **`Thinned`**: a text that has lost some of its spaces, but no line feed.
* **`tidy`**: a text with its lines trimmed. **`tidy_gap`**: blanks inside it do not vanish.
-/

namespace Litmus.Source

open Litmus.Text

/-! ## Trimming -/

/-- A text without spaces at its ends. -/
def Flush (s : List Char) : Prop :=
  Stops isSpace s ∧ Stops isSpace s.reverse

theorem trimStart_append (x : List Char) {y : List Char} (h : Stops isSpace y) :
    trimStart (x ++ y) = trimStart x ++ y := by
  induction x with
  | nil =>
    cases y with
    | nil => rfl
    | cons c y => rw [List.nil_append, trimStart, List.dropWhile_cons_of_neg (by simp [h c rfl])]; rfl
  | cons c x ih =>
    by_cases hc : isSpace c = true
    · rw [List.cons_append, trimStart, List.dropWhile_cons_of_pos hc, ← trimStart, ih, trimStart,
        trimStart, List.dropWhile_cons_of_pos hc]
    · rw [List.cons_append, trimStart, List.dropWhile_cons_of_neg hc, trimStart,
        List.dropWhile_cons_of_neg hc, List.cons_append]

theorem trimEnd_append {x : List Char} (y : List Char) (h : Stops isSpace x.reverse) :
    trimEnd (x ++ y) = x ++ trimEnd y := by
  have hreverse := trimStart_append y.reverse h
  rw [trimStart, trimStart] at hreverse
  rw [trimEnd, trimEnd, List.reverse_append, hreverse, List.reverse_append, List.reverse_reverse]

/-- What stands between parts of a text is not trimmed. -/
theorem trim_append {m : List Char} (hm : m ≠ []) (hflush : Flush m) (a b : List Char) :
    trim (a ++ (m ++ b)) = trimStart a ++ (m ++ trimEnd b) := by
  have hstart : Stops isSpace (m ++ b) := by
    cases m with
    | nil => exact absurd rfl hm
    | cons c m => exact Stops.cons (hflush.1 c rfl) _
  have hend : Stops isSpace (trimStart a ++ m).reverse := by
    rw [List.reverse_append]
    cases hr : m.reverse with
    | nil => exact absurd (List.reverse_eq_nil_iff.mp hr) hm
    | cons c r => exact Stops.cons (hflush.2 c (by rw [hr]; rfl)) _
  rw [trim, trimStart_append a hstart, ← List.append_assoc, trimEnd_append b hend, List.append_assoc]

theorem trimEnd_spaces {u : List Char} (hu : ∀ c ∈ u, isSpace c = true) : trimEnd u = [] := by
  have hdrop : u.reverse.dropWhile isSpace = [] :=
    List.dropWhile_eq_nil_iff.mpr fun c hc => hu c (List.mem_reverse.mp hc)
  rw [trimEnd, hdrop, List.reverse_nil]

theorem trimEnd_cons (c : Char) (s : List Char) :
    trimEnd (c :: s) = if trimEnd s = [] then trimEnd [c] else c :: trimEnd s := by
  rw [trimEnd, List.reverse_cons, List.dropWhile_append]
  by_cases h : s.reverse.dropWhile isSpace = []
  · rw [if_pos (by rw [h]; rfl), if_pos (by rw [trimEnd, h]; rfl)]
    rfl
  · rw [if_neg (by simpa using h), if_neg (by rw [trimEnd]; simpa using h), List.reverse_append]
    rfl

theorem trim_cons_of_isSpace {c : Char} (hc : isSpace c = true) (s : List Char) :
    trim (c :: s) = trim s := by
  rw [trim, trimStart, List.dropWhile_cons_of_pos hc, ← trimStart, ← trim]

/-- The two ends of a text may be trimmed in any order. -/
theorem trimStart_trimEnd (s : List Char) : trimStart (trimEnd s) = trim s := by
  induction s with
  | nil => rfl
  | cons c s ih =>
    by_cases hc : isSpace c = true
    · rw [trim_cons_of_isSpace hc, ← ih, trimEnd_cons]
      split
      · rename_i hnil
        rw [trimEnd_spaces (by simpa using hc), hnil]
      · rw [trimStart, List.dropWhile_cons_of_pos hc, ← trimStart]
    · have hstop : Stops isSpace [c] := Stops.cons (by simpa using hc) []
      have hkeep : trimEnd (c :: s) = c :: trimEnd s := trimEnd_append (x := [c]) s hstop
      rw [trim, hkeep, trimStart, trimStart, List.dropWhile_cons_of_neg hc,
        List.dropWhile_cons_of_neg hc, hkeep]

theorem trimEnd_append_spaces (s : List Char) {v : List Char} (hv : ∀ c ∈ v, isSpace c = true) :
    trimEnd (s ++ v) = trimEnd s := by
  induction s with
  | nil => exact trimEnd_spaces hv
  | cons c s ih => rw [List.cons_append, trimEnd_cons, ih, ← trimEnd_cons]

theorem trim_append_spaces (s : List Char) {v : List Char} (hv : ∀ c ∈ v, isSpace c = true) :
    trim (s ++ v) = trim s := by
  rw [← trimStart_trimEnd, trimEnd_append_spaces s hv, trimStart_trimEnd]

theorem trim_spaces_append {u : List Char} (hu : ∀ c ∈ u, isSpace c = true) (s : List Char) :
    trim (u ++ s) = trim s := by
  induction u with
  | nil => rfl
  | cons c u ih =>
    rw [List.cons_append, trim_cons_of_isSpace (hu c (by simp)),
      ih fun d hd => hu d (List.mem_cons_of_mem c hd)]

theorem Flush.nil : Flush [] :=
  ⟨Stops.nil isSpace, Stops.nil isSpace⟩

theorem trim_of_flush {s : List Char} (h : Flush s) : trim s = s := by
  cases s with
  | nil => rfl
  | cons c s =>
    have htrim := trim_append (List.cons_ne_nil c s) h [] []
    rw [List.nil_append, List.append_nil] at htrim
    exact htrim.trans (List.append_nil (c :: s))

theorem map_trim_of_flush {pieces : List (List Char)} (h : ∀ piece ∈ pieces, Flush piece) :
    pieces.map trim = pieces :=
  (List.map_congr_left fun piece hpiece => trim_of_flush (h piece hpiece)).trans (List.map_id pieces)

/-- A blank in front of a text is trimmed off. -/
theorem trim_space_cons {s : List Char} (h : Flush s) : trim (' ' :: s) = s := by
  cases s with
  | nil => rfl
  | cons c s =>
    have htrim := trim_append (List.cons_ne_nil c s) h [' '] []
    rw [List.append_nil] at htrim
    exact htrim.trans (List.append_nil (c :: s))

theorem flush_trim (s : List Char) : Flush (trim s) := by
  have hstart : Stops isSpace (trimStart s) := stops_dropWhile isSpace s
  have hend : Stops isSpace (trim s).reverse := by
    rw [trim, trimEnd, List.reverse_reverse]
    exact stops_dropWhile isSpace _
  refine ⟨?_, hend⟩
  have hprefix : trimEnd (trimStart s) <+: trimStart s := by
    rw [trimEnd, ← List.reverse_suffix, List.reverse_reverse]
    exact List.dropWhile_suffix isSpace
  exact hstart.of_initial hprefix

@[simp] theorem trim_trim (s : List Char) : trim (trim s) = trim s :=
  trim_of_flush (flush_trim s)

/-- Nothing is left of a text by trimming if it is all white space. -/
theorem trim_eq_nil {s : List Char} : trim s = [] ↔ ∀ c ∈ s, isSpace c = true := by
  have hstart : trimStart s = [] ↔ ∀ c ∈ s, isSpace c = true := List.dropWhile_eq_nil_iff
  rw [← hstart]
  constructor
  · intro h
    have hend : ∀ c ∈ (trimStart s).reverse, isSpace c = true :=
      List.dropWhile_eq_nil_iff.mp (List.reverse_eq_nil_iff.mp h)
    cases hs : trimStart s with
    | nil => rfl
    | cons c r =>
      have hstop : Stops isSpace (trimStart s) := stops_dropWhile isSpace s
      have hc := hstop c (by rw [hs]; rfl)
      rw [hend c (by rw [hs]; simp)] at hc
      exact absurd hc (by decide)
  · intro h
    rw [trim, h]
    rfl

theorem mem_trim {s : List Char} {c : Char} (h : c ∈ trim s) : c ∈ s := by
  have hend : c ∈ trimStart s :=
    List.mem_reverse.mp ((List.dropWhile_sublist isSpace).subset (List.mem_reverse.mp h))
  exact (List.dropWhile_sublist isSpace).subset hend

/-- A text is what is left of it by trimming its end, and some spaces. -/
theorem eq_trimEnd_append (s : List Char) :
    ∃ u, s = trimEnd s ++ u ∧ ∀ c ∈ u, isSpace c = true := by
  refine ⟨(s.reverse.takeWhile isSpace).reverse, ?_, fun c hc => ?_⟩
  · rw [trimEnd, ← List.reverse_append, List.takeWhile_append_dropWhile, List.reverse_reverse]
  · exact List.mem_takeWhile_imp (List.mem_reverse.mp hc)

/-- A text that starts with no space is its trimming and some spaces. -/
theorem eq_trim_append {s : List Char} (h : Stops isSpace s) :
    ∃ u, s = trim s ++ u ∧ ∀ c ∈ u, isSpace c = true := by
  have hstart : trimStart s = s := by
    have htrim := trimStart_append [] h
    rwa [List.nil_append] at htrim
  rw [trim, hstart]
  exact eq_trimEnd_append s

theorem trim_trimStart (s : List Char) : trim (trimStart s) = trim s := by
  have hspaces : ∀ c ∈ s.takeWhile isSpace, isSpace c = true := fun c hc => List.mem_takeWhile_imp hc
  have htrim := trim_spaces_append hspaces (trimStart s)
  rwa [trimStart, List.takeWhile_append_dropWhile, eq_comm] at htrim

/-- A text is its trimming and some spaces on both sides. -/
theorem eq_append_trim (s : List Char) : ∃ u v, s = u ++ (trim s ++ v) ∧
    (∀ c ∈ u, isSpace c = true) ∧ ∀ c ∈ v, isSpace c = true := by
  obtain ⟨v, hv, hspaces⟩ := eq_trim_append (stops_dropWhile isSpace s)
  refine ⟨s.takeWhile isSpace, v, ?_, fun c hc => List.mem_takeWhile_imp hc, hspaces⟩
  rw [← trimStart, trim_trimStart] at hv
  rw [← hv, trimStart, List.takeWhile_append_dropWhile]

/-! ## Thinned texts -/

/-- A text that has lost some of its spaces, but no line feed. -/
inductive Thinned : List Char → List Char → Prop
  | nil : Thinned [] []
  | keep {a b : List Char} (c : Char) (h : Thinned a b) : Thinned (c :: a) (c :: b)
  | drop {a b : List Char} {c : Char} (hspace : isSpace c = true) (hline : c ≠ '\n')
      (h : Thinned a b) : Thinned (c :: a) b

theorem Thinned.refl (a : List Char) : Thinned a a := by
  induction a with
  | nil => exact .nil
  | cons c a ih => exact .keep c ih

theorem Thinned.append {a a' b b' : List Char} (ha : Thinned a a') (hb : Thinned b b') :
    Thinned (a ++ b) (a' ++ b') := by
  induction ha with
  | nil => exact hb
  | keep c _ ih => exact .keep c ih
  | drop hspace hline _ ih => exact .drop hspace hline ih

/-- A text thins part by part. -/
theorem Thinned.of_append {a b s : List Char} (h : Thinned (a ++ b) s) :
    ∃ a' b', s = a' ++ b' ∧ Thinned a a' ∧ Thinned b b' := by
  induction a generalizing s with
  | nil => exact ⟨[], s, rfl, .nil, h⟩
  | cons c a ih =>
    cases h with
    | keep _ h =>
      obtain ⟨a', b', rfl, ha, hb⟩ := ih h
      exact ⟨c :: a', b', rfl, .keep c ha, hb⟩
    | drop hspace hline h =>
      obtain ⟨a', b', rfl, ha, hb⟩ := ih h
      exact ⟨a', b', rfl, .drop hspace hline ha, hb⟩

/-- A character that is no space stays. -/
theorem Thinned.of_cons {c : Char} {a s : List Char} (h : Thinned (c :: a) s)
    (hc : isSpace c = false ∨ c = '\n') : ∃ a', s = c :: a' ∧ Thinned a a' := by
  cases h with
  | keep _ h => exact ⟨_, rfl, h⟩
  | drop hspace hline h =>
    rcases hc with hc | hc
    · exact absurd hspace (by simp [hc])
    · exact absurd hc hline

theorem Thinned.word {w s : List Char} (h : Thinned w s) (hw : ∀ c ∈ w, isSpace c = false) :
    s = w := by
  induction w generalizing s with
  | nil => cases h; rfl
  | cons c w ih =>
    obtain ⟨s', rfl, h'⟩ := h.of_cons (.inl (hw c (by simp)))
    rw [ih h' fun d hd => hw d (List.mem_cons_of_mem c hd)]

theorem Thinned.sublist {a b : List Char} (h : Thinned a b) : b.Sublist a := by
  induction h with
  | nil => exact .slnil
  | keep c _ ih => exact ih.cons_cons c
  | drop _ _ _ ih => exact ih.cons _

theorem Thinned.blanks {u s : List Char} (h : Thinned u s) (hu : Blanks u) : Blanks s :=
  fun c hc => hu c (h.sublist.subset hc)

theorem thinned_trimStart {s : List Char} (h : '\n' ∉ s) : Thinned s (trimStart s) := by
  induction s with
  | nil => exact .nil
  | cons c s ih =>
    by_cases hc : isSpace c = true
    · have hline : c ≠ '\n' := fun e => h (by simp [e])
      rw [trimStart, List.dropWhile_cons_of_pos hc]
      exact .drop hc hline (ih fun hs => h (List.mem_cons_of_mem c hs))
    · rw [trimStart, List.dropWhile_cons_of_neg hc]
      exact .refl _

theorem Thinned.reverse {a b : List Char} (h : Thinned a b) : Thinned a.reverse b.reverse := by
  induction h with
  | nil => exact .nil
  | keep c _ ih =>
    rw [List.reverse_cons, List.reverse_cons]
    exact ih.append (.refl [c])
  | drop hspace hline _ ih =>
    rw [List.reverse_cons]
    have hlast := ih.append (.drop hspace hline .nil)
    rwa [List.append_nil] at hlast

theorem thinned_trimEnd {s : List Char} (h : '\n' ∉ s) : Thinned s (trimEnd s) := by
  have hreverse := (thinned_trimStart (s := s.reverse) (by simpa using h)).reverse
  rwa [List.reverse_reverse] at hreverse

theorem Thinned.trans {a b c : List Char} (h : Thinned a b) (h' : Thinned b c) : Thinned a c := by
  induction h generalizing c with
  | nil => exact h'
  | keep d _ ih =>
    cases h' with
    | keep _ h' => exact .keep d (ih h')
    | drop hspace hline h' => exact .drop hspace hline (ih h')
  | drop hspace hline _ ih => exact .drop hspace hline (ih h')

theorem thinned_trim {s : List Char} (h : '\n' ∉ s) : Thinned s (trim s) := by
  have hstart := thinned_trimStart h
  exact hstart.trans (thinned_trimEnd fun hmem => h (hstart.sublist.subset hmem))

/-! ## Trimmed lines -/

/-- The text with its lines trimmed. -/
def tidy (s : List Char) : List Char :=
  joinWith '\n' ((splitAt '\n' s).map trim)

theorem map_trim_splitAt_ne_nil (s : List Char) : (splitAt '\n' s).map trim ≠ [] :=
  fun h => splitWhen_ne_nil _ s (List.map_eq_nil_iff.mp h)

theorem tidy_append (a b : List Char) : tidy (a ++ '\n' :: b) = tidy a ++ '\n' :: tidy b := by
  have hsplit : splitAt '\n' (a ++ '\n' :: b) = splitAt '\n' a ++ splitAt '\n' b :=
    splitWhen_append rfl a b
  rw [tidy, hsplit, List.map_append,
    joinWith_append '\n' (map_trim_splitAt_ne_nil a) (map_trim_splitAt_ne_nil b), tidy, tidy]

theorem tidy_of_line {s : List Char} (h : '\n' ∉ s) : tidy s = trim s := by
  rw [tidy, splitAt_of_not_mem h]
  rfl

/-- The lines of a tidy text are the trimmed ones. -/
theorem splitAt_tidy (s : List Char) : splitAt '\n' (tidy s) = (splitAt '\n' s).map trim := by
  refine splitAt_joinWith (map_trim_splitAt_ne_nil s) fun line hline => ?_
  obtain ⟨raw, hraw, rfl⟩ := List.mem_map.mp hline
  exact fun hmem => newline_of_mem_splitAt hraw (mem_trim hmem)

/-- Trimming its lines thins a text. -/
theorem thinned_tidy (s : List Char) : Thinned s (tidy s) := by
  by_cases h : '\n' ∈ s
  · obtain ⟨a, b, rfl, ha⟩ := List.eq_append_cons_of_mem h
    rw [tidy_append, tidy_of_line ha]
    exact (thinned_trim ha).append (.keep '\n' (thinned_tidy b))
  · rw [tidy_of_line h]
    exact thinned_trim h
termination_by s.length
decreasing_by
  subst_vars
  simp only [List.length_append, List.length_cons]
  omega

/-- A part without line feeds whose ends are no spaces stays as it is. -/
theorem tidy_around {m : List Char} (hm : m ≠ []) (hline : '\n' ∉ m) (hflush : Flush m)
    (a b : List Char) :
    ∃ a' b', tidy (a ++ (m ++ b)) = a' ++ (m ++ b') ∧ Thinned a a' ∧ Thinned b b' := by
  -- the lines in front are tidied one by one, until the part is reached
  by_cases ha : '\n' ∈ a
  · obtain ⟨a₁, a₂, rfl, -⟩ := List.eq_append_cons_of_mem ha
    obtain ⟨a', b', htidy, ha', hb'⟩ := tidy_around hm hline hflush a₂ b
    refine ⟨tidy a₁ ++ '\n' :: a', b', ?_, (thinned_tidy a₁).append (.keep '\n' ha'), hb'⟩
    rw [List.append_assoc, List.cons_append, tidy_append, htidy, List.append_assoc, List.cons_append]
  · -- now it stands in the first line, and that line ends with the text or before the rest of it
    by_cases hb : '\n' ∈ b
    · obtain ⟨b₁, b₂, rfl, hb₁⟩ := List.eq_append_cons_of_mem hb
      have hfirst : '\n' ∉ a ++ (m ++ b₁) := by simp [ha, hline, hb₁]
      refine ⟨trimStart a, trimEnd b₁ ++ '\n' :: tidy b₂, ?_, thinned_trimStart ha,
        (thinned_trimEnd hb₁).append (.keep '\n' (thinned_tidy b₂))⟩
      rw [← List.append_assoc m, ← List.append_assoc a, tidy_append, tidy_of_line hfirst,
        trim_append hm hflush]
      simp only [List.append_assoc]
    · have hfirst : '\n' ∉ a ++ (m ++ b) := by simp [ha, hline, hb]
      refine ⟨trimStart a, trimEnd b, ?_, thinned_trimStart ha, thinned_trimEnd hb⟩
      rw [tidy_of_line hfirst, trim_append hm hflush]
termination_by a.length
decreasing_by
  subst_vars
  simp only [List.length_append, List.length_cons]
  omega

/-- Blanks between parts do not vanish. -/
theorem tidy_gap {x u y : List Char} (hx : x ≠ []) (hxend : Stops isSpace x.reverse) (hy : y ≠ [])
    (hystart : Stops isSpace y) (hu : Blanks u) (hne : u ≠ []) :
    ∃ x' u' y', tidy (x ++ (u ++ y)) = x' ++ (u' ++ y') ∧ Thinned x x' ∧ Thinned y y' ∧ Blanks u' ∧
      u' ≠ [] := by
  by_cases hline : '\n' ∈ u
  · -- a line feed is never lost
    obtain ⟨u₁, u₂, rfl, -⟩ := List.eq_append_cons_of_mem hline
    have hleft := thinned_tidy (x ++ u₁)
    have hright := thinned_tidy (u₂ ++ y)
    obtain ⟨x', u₁', hx', hxt, hut⟩ := hleft.of_append
    obtain ⟨u₂', y', hy', hut', hyt⟩ := hright.of_append
    refine ⟨x', u₁' ++ '\n' :: u₂', y', ?_, hxt, hyt, ?_, by simp⟩
    · have hsplit : x ++ (u₁ ++ '\n' :: u₂ ++ y) = (x ++ u₁) ++ '\n' :: (u₂ ++ y) := by simp
      rw [hsplit, tidy_append, hx', hy']
      simp
    · have hu₁ : Blanks u₁ := fun c hc => hu c (by simp [hc])
      have hu₂ : Blanks u₂ := fun c hc => hu c (by simp [hc])
      intro c hc
      rcases List.mem_append.mp hc with hc | hc
      · exact hut.blanks hu₁ c hc
      rcases List.mem_cons.mp hc with rfl | hc
      · decide
      · exact hut'.blanks hu₂ c hc
  · -- the last character before the blanks and the first one behind them hold them in their line
    obtain ⟨x₀, c, rfl⟩ : ∃ x₀ c, x = x₀ ++ [c] :=
      ⟨x.dropLast, x.getLast hx, (List.dropLast_concat_getLast hx).symm⟩
    obtain ⟨d, y₀, rfl⟩ := List.exists_cons_of_ne_nil hy
    have hc : isSpace c = false := hxend c (by simp)
    have hd : isSpace d = false := hystart d rfl
    have hcline : c ≠ '\n' := by rintro rfl; exact absurd hc (by decide)
    have hdline : d ≠ '\n' := by rintro rfl; exact absurd hd (by decide)
    obtain ⟨a', b', htidy, ha', hb'⟩ := tidy_around (m := c :: (u ++ [d])) (by simp)
      (by simp [hline, hcline.symm, hdline.symm]) ⟨Stops.cons hc _, by simpa [Stops] using hd⟩ x₀ y₀
    refine ⟨a' ++ [c], u, d :: b', ?_, ha'.append (.refl [c]), .keep d hb', hu, hne⟩
    have hsplit : x₀ ++ [c] ++ (u ++ d :: y₀) = x₀ ++ (c :: (u ++ [d]) ++ y₀) := by simp
    rw [hsplit, htidy]
    simp

end Litmus.Source
