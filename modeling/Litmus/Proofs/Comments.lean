import Mathlib.Data.List.Forall2
import Litmus.Proofs.Margins
import Litmus.Proofs.Quoting
import Litmus.Source.Reader

/-!
# Comments and margins

A comment may stand anywhere in a text, and a line may be indented and padded at will: the test that
is read is the same, and so is the fault. Comments are looked for from left to right, so a comment is
recognised wherever no other is open and no parenthesis in front of it, or star behind it, makes an
opening mark with what it separates. White space at the margins of the lines makes and breaks no mark,
and none of it is left when the lines are trimmed.

* **`dropComments_append`**: behind a text without an open comment, comments are looked for anew.
* **`dropComments_comment`**: the same is left without a comment and with it.
* **`Trimmed.dropComments`**: white space is lost at the margins only, comments or not.
* **`Trimmed.textLines`**: the trimmed lines are the same.
* **`readTest_comments_margins`** puts these together.
-/

namespace Litmus.Source

open Litmus.Text

/-! ## Where a comment ends -/

theorem afterComment?_cons (c : Char) (s : List Char) : afterComment? (c :: s) =
    if c = '*' ∧ s.head? = some ')' then some s.tail else afterComment? s := by
  cases s with
  | nil => simp [afterComment?]
  | cons d s => simp [afterComment?]

theorem afterComment?_append {s rest : List Char} (h : afterComment? s = some rest) (v : List Char) :
    afterComment? (s ++ v) = some (rest ++ v) := by
  fun_induction afterComment? s with
  | case1 => cases h
  | case2 => cases h
  | case3 c d s hmark =>
    obtain rfl := Option.some.inj h
    rw [List.cons_append, List.cons_append, afterComment?, if_pos hmark]
  | case4 c d s hmark ih =>
    rw [List.cons_append, List.cons_append, afterComment?, if_neg hmark]
    exact ih h

theorem afterComment?_suffix {s rest : List Char} (h : afterComment? s = some rest) :
    rest <:+ s := by
  fun_induction afterComment? s with
  | case1 => cases h
  | case2 => cases h
  | case3 c d s hmark =>
    obtain rfl := Option.some.inj h
    exact ⟨[c, d], rfl⟩
  | case4 c d s hmark ih => exact (ih h).trans (List.suffix_cons c (d :: s))

/-- A comment ends at the first closing mark behind its body. -/
theorem afterComment?_body {b : List Char} (hb : ¬ ['*', ')'] <:+: b) (v : List Char) :
    afterComment? (b ++ '*' :: ')' :: v) = some v := by
  -- no character of the body starts the mark, so the scan passes them one by one
  induction b with
  | nil => rw [List.nil_append, afterComment?_cons, if_pos ⟨rfl, rfl⟩, List.tail_cons]
  | cons c b ih =>
    rw [List.cons_append, afterComment?_cons, if_neg, ih fun h => hb (List.infix_cons h)]
    rintro ⟨rfl, hclose⟩
    -- the mark would be part of the body, for what follows the body is a star
    cases b with
    | nil => exact absurd (Option.some.inj hclose) (by decide)
    | cons d b =>
      obtain rfl := Option.some.inj hclose
      exact hb ⟨[], b, rfl⟩

theorem dropComments_of_afterComment? {s rest : List Char} (h : afterComment? s = some rest) :
    dropComments ('(' :: '*' :: s) = dropComments rest := by
  rw [dropComments, if_pos ⟨rfl, rfl⟩]
  split
  · rename_i hrest
    rw [Option.some.inj (hrest.symm.trans h)]
  · rename_i hnone
    cases hnone.symm.trans h

theorem dropComments_of_open {s : List Char} (h : afterComment? s = none) :
    dropComments ('(' :: '*' :: s) = '(' :: '*' :: s := by
  rw [dropComments, if_pos ⟨rfl, rfl⟩]
  split
  · rename_i hrest
    cases hrest.symm.trans h
  · rfl

/-! ## Comments anywhere -/

/-- Where no comment is open, comments are looked for anew, if no mark stands across the place. -/
theorem dropComments_append {u v : List Char} (hu : ¬ ['(', '*'] <:+: dropComments u)
    (huv : ¬ (u.getLast? = some '(' ∧ v.head? = some '*')) :
    dropComments (u ++ v) = dropComments u ++ dropComments v := by
  -- the cases are those of the scan of `u`: its end, a comment, an open one, another character
  fun_induction dropComments u with
  | case1 => rfl
  | case2 c =>
    have hc : c ≠ '(' ∨ v.head? ≠ some '*' := by
      rw [List.getLast?_singleton, Option.some.injEq] at huv
      exact not_and_or.mp huv
    exact dropComments_cons hc
  | case3 c d s hmark rest hrest ih =>
    obtain ⟨rfl, rfl⟩ := hmark
    refine (dropComments_of_afterComment? (afterComment?_append hrest v)).trans (ih hu ?_)
    -- what is behind the comment ends as the whole text does
    rintro ⟨hlast, hstar⟩
    obtain ⟨body, rfl⟩ := afterComment?_suffix hrest
    refine huv ⟨?_, hstar⟩
    rw [← List.cons_append, ← List.cons_append, List.getLast?_append, hlast]
    rfl
  | case4 c d s hmark _ =>
    obtain ⟨rfl, rfl⟩ := hmark
    exact absurd ⟨[], s, rfl⟩ hu
  | case5 c d s hmark ih =>
    have hc : c ≠ '(' ∨ (d :: s ++ v).head? ≠ some '*' := by
      rcases not_and_or.mp hmark with hc | hd
      · exact .inl hc
      · exact .inr fun heq => hd (Option.some.inj heq)
    rw [List.cons_append, dropComments_cons hc, ih (fun h => hu (List.infix_cons h)) huv,
      List.cons_append]

/-- A comment may stand at any place where none is open, unless it keeps a mark apart. -/
theorem dropComments_comment {u b v : List Char} (hu : ¬ ['(', '*'] <:+: dropComments u)
    (hb : ¬ ['*', ')'] <:+: b) (huv : ¬ (u.getLast? = some '(' ∧ v.head? = some '*')) :
    dropComments (u ++ '(' :: '*' :: (b ++ '*' :: ')' :: v)) = dropComments (u ++ v) := by
  rw [dropComments_append hu (by simp), dropComments_append hu huv,
    dropComments_of_afterComment? (afterComment?_body hb v)]

/-! ## White space at the margins -/

/-- White space at the margins makes and breaks no closing mark. -/
theorem Trimmed.afterComment? {s t : List Char} (h : Trimmed isMargin s t) :
    Option.Rel (Trimmed isMargin) (afterComment? s) (afterComment? t) := by
  have hspace : ∀ {c : Char}, isMargin c = true → c ≠ '*' := by
    rintro c hc rfl
    exact absurd hc (by decide)
  induction h with
  | nil => exact .none
  | @keep a b c h ih =>
    rw [afterComment?_cons, afterComment?_cons]
    -- what follows is the same character in both, or in both a place where no mark goes on
    rcases h.cases with ⟨d, a, b, rfl, rfl, -, -, hab⟩ | ⟨ha, hb⟩
    · by_cases hmark : c = '*' ∧ d = ')'
      · rw [if_pos ⟨hmark.1, by rw [hmark.2]; rfl⟩, if_pos ⟨hmark.1, by rw [hmark.2]; rfl⟩]
        exact .some hab
      · rw [if_neg fun e => hmark ⟨e.1, Option.some.inj e.2⟩,
          if_neg fun e => hmark ⟨e.1, Option.some.inj e.2⟩]
        exact ih
    · rw [if_neg fun e => ha.head?_ne (by decide) (by decide) e.2,
        if_neg fun e => hb.head?_ne (by decide) (by decide) e.2]
      exact ih
  | before hc hline h ih =>
    rw [afterComment?_cons, if_neg fun e => hspace hc e.1]
    exact ih
  | @after a b c hc hline h ih =>
    rw [afterComment?_cons, if_neg fun e => absurd e.1 (by decide)] at ih ⊢
    rw [afterComment?_cons, if_neg fun e => hspace hc e.1]
    exact ih
  | last hc h ih =>
    rw [afterComment?_cons, if_neg fun e => hspace hc e.1]
    exact ih

theorem Trimmed.head?_star {s t : List Char} (h : Trimmed isMargin s t)
    (ht : t.head? = some '*') : s.head? = some '*' := by
  rcases h.cases with ⟨c, a, b, rfl, rfl, -⟩ | ⟨-, hpause⟩
  · exact ht
  · exact absurd ht (hpause.head?_ne (by decide) (by decide))

/-- White space at the margins of the lines stands at their margins without the comments, too. -/
theorem Trimmed.dropComments {s t : List Char} (h : Trimmed isMargin s t) :
    Trimmed isMargin (dropComments s) (dropComments t) := by
  have hspace : ∀ {c : Char}, isMargin c = true → c ≠ '(' := by
    rintro c hc rfl
    exact absurd hc (by decide)
  have hnewline : ∀ s, Source.dropComments ('\n' :: s) = '\n' :: Source.dropComments s := fun s =>
    dropComments_cons (.inl (by decide))
  -- not by induction on `h`: behind a comment the scan goes on with a shorter text that is no tail
  cases h with
  | nil => exact .refl _
  | @keep a b c hab =>
    by_cases hmark : c = '(' ∧ a.head? = some '*'
    · obtain ⟨rfl, hstar⟩ := hmark
      obtain ⟨a, rfl⟩ : ∃ a', a = '*' :: a' := by
        cases a with
        | nil => cases hstar
        | cons d a => exact ⟨a, by rw [Option.some.inj hstar]⟩
      obtain ⟨b, rfl, hinner⟩ := hab.of_cons (by decide) (by decide)
      -- the comment ends in both texts or in none of them
      have hrel := hinner.afterComment?
      generalize hrest : Source.afterComment? a = x, hrest' : Source.afterComment? b = y at hrel
      cases hrel with
      | none =>
        rw [dropComments_of_open hrest, dropComments_of_open hrest']
        exact .keep '(' hab
      | some hbehind =>
        have hshorter := length_afterComment? hrest
        rw [dropComments_of_afterComment? hrest, dropComments_of_afterComment? hrest']
        exact hbehind.dropComments
    · have hmark' : c ≠ '(' ∨ b.head? ≠ some '*' := by
        rcases not_and_or.mp hmark with hc | hstar
        · exact .inl hc
        · exact .inr fun h => hstar (hab.head?_star h)
      rw [dropComments_cons (not_and_or.mp hmark), dropComments_cons hmark']
      exact .keep c hab.dropComments
  | @before a b c hc hline hab =>
    have ih := hab.dropComments
    rw [hnewline] at ih ⊢
    rw [dropComments_cons (.inl (hspace hc))]
    exact .before hc hline ih
  | @after a b c hc hline hab =>
    have ih := hab.dropComments
    rw [hnewline, hnewline] at ih
    rw [hnewline, hnewline, dropComments_cons (.inl (hspace hc))]
    exact .after hc hline ih
  | @last a c hc hab =>
    have ih := hab.dropComments
    rw [dropComments_cons (.inl (hspace hc))]
    rw [show Source.dropComments [] = [] by rw [Source.dropComments]] at ih ⊢
    exact .last hc ih
termination_by s.length
decreasing_by
  all_goals subst_vars
  all_goals simp only [List.length_cons]
  all_goals omega

/-! ## Lines -/

/-- Two texts with the same lines but for what trimming takes, the first lines compared at their ends
only. -/
def SameLines (s t : List Char) : Prop :=
  ∃ line lines line' lines', splitAt '\n' s = line :: lines ∧ splitAt '\n' t = line' :: lines' ∧
    trimEnd line = trimEnd line' ∧ lines.map trim = lines'.map trim

theorem SameLines.refl (s : List Char) : SameLines s s := by
  obtain ⟨lines, h⟩ := splitAt_eq_cons '\n' s
  exact ⟨_, _, _, _, h, h, rfl, rfl⟩

theorem Trimmed.sameLines {s t : List Char} (h : Trimmed isMargin s t) : SameLines s t := by
  induction h with
  | nil => exact .refl []
  | keep c _ ih =>
    obtain ⟨line, lines, line', lines', hs, ht, hline, hlines⟩ := ih
    by_cases hc : c = '\n'
    · -- the first lines become lines behind a line feed, which are trimmed at both ends
      rw [hc]
      refine ⟨[], _, [], _, splitAt_sep_cons '\n' _, splitAt_sep_cons '\n' _, rfl, ?_⟩
      rw [hs, ht, List.map_cons, List.map_cons, hlines, ← trimStart_trimEnd, hline, trimStart_trimEnd]
    · refine ⟨_, _, _, _, splitAt_cons hc hs, splitAt_cons hc ht, ?_, hlines⟩
      rw [trimEnd_cons, hline, ← trimEnd_cons]
  | @before a b c hc hnewline _ ih =>
    obtain ⟨line, lines, line', lines', hs, ht, hline, hlines⟩ := ih
    -- nothing but white space is left of the first line
    rw [splitAt_sep_cons '\n'] at ht
    obtain ⟨rfl, rfl⟩ := List.cons.inj ht
    refine ⟨_, _, _, _, splitAt_cons hnewline hs, splitAt_sep_cons '\n' b, ?_, hlines⟩
    rw [trimEnd_cons, hline, ← trimEnd_cons, trimEnd_spaces (by simpa using isSpace_of_isMargin hc)]
    rfl
  | @after a b c hc hnewline _ ih =>
    obtain ⟨line, lines, line', lines', hs, ht, hline, hlines⟩ := ih
    rw [splitAt_sep_cons '\n'] at hs ht
    obtain ⟨rfl, rfl⟩ := List.cons.inj hs
    obtain ⟨rfl, rfl⟩ := List.cons.inj ht
    obtain ⟨rest, hrest⟩ := splitAt_eq_cons '\n' a
    refine ⟨_, _, _, _, splitAt_sep_cons '\n' _, splitAt_sep_cons '\n' _, rfl, ?_⟩
    rw [← hlines, splitAt_cons hnewline hrest, hrest, List.map_cons, List.map_cons,
      trim_cons_of_isSpace (isSpace_of_isMargin hc)]
  | @last a c hc _ ih =>
    obtain ⟨line, lines, line', lines', hs, ht, hline, hlines⟩ := ih
    obtain ⟨rfl, rfl⟩ := List.cons.inj (show [[]] = line' :: lines' from ht)
    refine ⟨_, _, _, _, splitAt_cons (ne_newline_of_isMargin hc) hs, ht, ?_, hlines⟩
    rw [trimEnd_cons, hline, ← trimEnd_cons, trimEnd_spaces (by simpa using isSpace_of_isMargin hc)]
    rfl

/-- Behind a line feed, the lines are the same when they are trimmed. -/
theorem Trimmed.map_trim_splitAt {s t : List Char} (h : Trimmed isMargin ('\n' :: s) ('\n' :: t)) :
    (splitAt '\n' s).map trim = (splitAt '\n' t).map trim := by
  obtain ⟨line, lines, line', lines', hs, ht, -, hlines⟩ := h.sameLines
  rw [splitAt_sep_cons '\n'] at hs ht
  obtain ⟨-, rfl⟩ := List.cons.inj hs
  obtain ⟨-, rfl⟩ := List.cons.inj ht
  exact hlines

theorem Trimmed.textLines {s t : List Char} (h : Trimmed isMargin ('\n' :: s) ('\n' :: t)) :
    textLines s = textLines t := by
  have hdrop := h.dropComments
  rw [dropComments_cons (.inl (by decide)), dropComments_cons (.inl (by decide))] at hdrop
  exact hdrop.map_trim_splitAt

/-! ## Padded texts -/

/-- A text with white space at the start and at the end of some of its lines. -/
def Padded (s t : List Char) : Prop :=
  List.Forall₂ (fun line padded => ∃ p q, padded = p ++ (line ++ q) ∧
    (∀ c ∈ p, isMargin c = true) ∧ ∀ c ∈ q, isMargin c = true) (splitAt '\n' s) (splitAt '\n' t)

/-- The text with a carriage return in front of every line feed. -/
def crlf (s : List Char) : List Char :=
  s.flatMap fun c => if c = '\n' then ['\r', '\n'] else [c]

theorem trimmed_joinWith {lines padded : List (List Char)}
    (h : List.Forall₂ (fun line padded => ∃ p q, padded = p ++ (line ++ q) ∧
      (∀ c ∈ p, isMargin c = true) ∧ ∀ c ∈ q, isMargin c = true) lines padded) :
    Trimmed isMargin ('\n' :: joinWith '\n' padded) ('\n' :: joinWith '\n' lines) := by
  induction h with
  | nil => exact .refl _
  | @cons line line' lines lines' hline hlines ih =>
    obtain ⟨p, q, rfl, hp, hq⟩ := hline
    have hp' := not_mem_of_isMargin hp
    -- behind the last line there is no line feed, only the end of the text
    by_cases hnil : lines = []
    · obtain rfl := hnil
      cases hlines
      have hend := (trimmed_nil hq).append line
      rw [List.append_nil] at hend
      exact trimmed_after hp hp' (.keep '\n' hend)
    · have hnil' : lines' ≠ [] := by
        rintro rfl
        exact hnil (List.forall₂_nil_right_iff.mp hlines)
      have hrest := (trimmed_before hq (not_mem_of_isMargin hq) ih).append line
      rw [joinWith_cons '\n' _ hnil, joinWith_cons '\n' _ hnil', List.append_assoc,
        List.append_assoc]
      exact trimmed_after hp hp' (.keep '\n' hrest)

theorem Padded.trimmed {s t : List Char} (h : Padded s t) :
    Trimmed isMargin ('\n' :: t) ('\n' :: s) := by
  have hjoin := trimmed_joinWith h
  rwa [splitAt, splitAt, joinWith_splitWhen, joinWith_splitWhen] at hjoin

theorem trimmed_crlf (s : List Char) : Trimmed isMargin (crlf s) s := by
  induction s with
  | nil => exact .nil
  | cons c s ih =>
    rw [crlf, List.flatMap_cons, ← crlf]
    split
    · rename_i hc
      rw [hc]
      exact .before (by decide) (by decide) (.keep '\n' ih)
    · exact .keep c ih

/-! ## The test that is read -/

theorem readTest_congr {s t : List Char} (h : textLines s = textLines t) : readTest s = readTest t := by
  rw [readTest, readTest, h]

/-- **Comments and margins are invisible.** Reading a text gives the same test, or the same fault,
with a comment at a place where no comment is open and no mark stands across, with white space at the
margins of its lines, and with line ends of two characters. -/
theorem readTest_comments_margins :
    (∀ u b v : List Char, ¬ ['(', '*'] <:+: dropComments u → ¬ ['*', ')'] <:+: b →
      ¬ (u.getLast? = some '(' ∧ v.head? = some '*') →
      readTest (u ++ '(' :: '*' :: (b ++ '*' :: ')' :: v)) = readTest (u ++ v)) ∧
    (∀ s t : List Char, Padded s t → readTest t = readTest s) ∧
    ∀ s : List Char, readTest (crlf s) = readTest s := by
  refine ⟨fun u b v hu hb huv => readTest_congr ?_, fun s t h => readTest_congr h.trimmed.textLines,
    fun s => readTest_congr (Trimmed.keep '\n' (trimmed_crlf s)).textLines⟩
  rw [textLines, dropComments_comment hu hb huv, ← textLines]

/-- A comment of two lines in the middle of an instruction, whose body ends like one; lines with margins
of several kinds; line ends of two characters. Each time the same test is read. -/
theorem readTest_comments_margins_star :
    let test : Test := {
      arch := "X86"
      name := "SB"
      info := []
      init := []
      threads := [(0, [.instruction "NOP"])]
      condition := .someState (.holds (.global (.symbolic "x")) (.concrete "1"))
      doc := none }
    readTest ("X86 SB\n{ }\nP0;\nNO".toList ++ '(' :: '*' :: (['(', '\n', '*'] ++
      '*' :: ')' :: "P;\nexists (x=1)".toList)) = .ok test ∧
    readTest "\tX86 SB \r\n\r { }\n P0;\nNOP; \nexists (x=1)".toList = .ok test ∧
    readTest (crlf "X86 SB\n{ }\nP0;\nNOP;\nexists (x=1)".toList) = .ok test := by
  intro test
  have hread : readTest "X86 SB\n{ }\nP0;\nNOP;\nexists (x=1)".toList = .ok test := by
    with_unfolding_all rfl
  refine ⟨(readTest_comments_margins.1 _ _ _ ?_ (by decide) fun h => absurd h.2 (by decide)).trans hread,
    (readTest_comments_margins.2.1 _ _ ?_).trans hread, (readTest_comments_margins.2.2 _).trans hread⟩
  · rw [dropComments_of_no_star (by decide)]
    exact fun h => absurd (h.subset (by decide : '*' ∈ ['(', '*'])) (by decide)
  · exact .cons ⟨"\t".toList, " \r".toList, rfl, List.all_eq_true.mp rfl, List.all_eq_true.mp rfl⟩
      (.cons ⟨"\r ".toList, [], rfl, List.all_eq_true.mp rfl, List.all_eq_true.mp rfl⟩
        (.cons ⟨" ".toList, [], rfl, List.all_eq_true.mp rfl, List.all_eq_true.mp rfl⟩
          (.cons ⟨[], " ".toList, rfl, List.all_eq_true.mp rfl, List.all_eq_true.mp rfl⟩
            (.cons ⟨[], [], rfl, List.all_eq_true.mp rfl, List.all_eq_true.mp rfl⟩ .nil))))

end Litmus.Source
