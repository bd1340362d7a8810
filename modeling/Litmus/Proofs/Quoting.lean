import Litmus.Proofs.Layout
import Litmus.Source.Comment
import Litmus.Source.Doc

/-!
# Quoted texts

Two ways to write a text so that what is read is the text itself: between quotation marks, for a
documentation string, and with empty comments inside what would open a comment.

* **`docLine`**: the line of a documentation string. **`doc?_docLine`**: it is read as that string.
* **`protect`**: a text in which nothing opens a comment but the empty comments put there.
  **`dropComments_protect`**: without its comments it is the text.
-/

namespace Litmus.Source

open Litmus.Text

/-! ## Documentation strings -/

/-- One character inside quotation marks. -/
def docChar (c : Char) : List Char :=
  if c = '\\' then ['\\', '\\']
  else if c = '"' then ['\\', '"']
  else if c = '\n' then ['\\', 'n']
  else if c = '\t' then ['\\', 't']
  else if c = '\r' then ['\\', 'r']
  else [c]

/-- The line that a documentation string is written in. -/
def docLine (s : List Char) : List Char :=
  '"' :: (s.flatMap docChar ++ ['"'])

/-- A character is written as it is, or as a backslash and a letter that stands for it. -/
theorem docChar_cases (c : Char) :
    (docChar c = [c] ∧ c ∉ ['\\', '"', '\n', '\t', '\r']) ∨
      ∃ d, docChar c = ['\\', d] ∧ d ∈ ['\\', '"', 'n', 't', 'r'] ∧ c = (controlOf? d).getD d := by
  unfold docChar
  split
  · rename_i h
    exact .inr ⟨'\\', rfl, by decide, h⟩
  split
  · rename_i h
    exact .inr ⟨'"', rfl, by decide, h⟩
  split
  · rename_i h
    exact .inr ⟨'n', rfl, by decide, h⟩
  split
  · rename_i h
    exact .inr ⟨'t', rfl, by decide, h⟩
  split
  · rename_i h
    exact .inr ⟨'r', rfl, by decide, h⟩
  · rename_i h₁ h₂ h₃ h₄ h₅
    exact .inl ⟨rfl, by simp [h₁, h₂, h₃, h₄, h₅]⟩

theorem quotedBody?_plain {c : Char} (hc : c ∉ ['\\', '"', '\n', '\t', '\r']) (s : List Char) :
    quotedBody? (c :: s) = (quotedBody? s).map fun (body, rest) => (c :: body, rest) := by
  simp only [List.mem_cons, List.not_mem_nil, or_false, not_or] at hc
  obtain ⟨hbackslash, hquote, hline, -, hreturn⟩ := hc
  rw [quotedBody?, if_neg (by simp [hline, hreturn, hbackslash])]
  · exact hquote
  · exact fun _ _ h _ => hbackslash h

theorem quotedBody?_escaped {c : Char} (hc : c ≠ '\n') (s : List Char) :
    quotedBody? ('\\' :: c :: s)
      = (quotedBody? s).map fun (body, rest) => ('\\' :: c :: body, rest) := by
  rw [quotedBody?, if_neg hc]

theorem quotedBody?_flatMap_docChar (s rest : List Char) :
    quotedBody? (s.flatMap docChar ++ '"' :: rest) = some (s.flatMap docChar, rest) := by
  induction s with
  | nil => rfl
  | cons c s ih =>
    rw [List.flatMap_cons, List.append_assoc]
    -- a plain character is no mark, and one behind a backslash is passed over
    rcases docChar_cases c with ⟨hchar, hc⟩ | ⟨d, hchar, hd, -⟩
    · rw [hchar, List.singleton_append, quotedBody?_plain hc, ih]
      rfl
    · have hline : d ≠ '\n' := by
        rintro rfl
        exact absurd hd (by decide)
      rw [hchar, List.cons_append, List.singleton_append, quotedBody?_escaped hline, ih]
      rfl

theorem unescapeDoc_plain {c : Char} (hc : c ≠ '\\') (s : List Char) :
    unescapeDoc (c :: s) = c :: unescapeDoc s := by
  rw [unescapeDoc]
  · exact fun h _ => hc h
  · exact fun _ h _ => hc h
  · exact fun _ _ h _ => hc h
  · exact fun _ _ h _ => hc h
  · exact fun _ _ _ h _ => hc h

theorem unescapeDoc_escaped {c : Char} (hc : c ∈ ['\\', '"', 'n', 't', 'r']) (s : List Char) :
    unescapeDoc ('\\' :: c :: s) = (controlOf? c).getD c :: unescapeDoc s := by
  simp only [List.mem_cons, List.not_mem_nil, or_false] at hc
  cases s with
  | nil => rcases hc with rfl | rfl | rfl | rfl | rfl <;> rfl
  | cons d s =>
    rcases hc with rfl | rfl | rfl | rfl | rfl <;> simp [unescapeDoc, controlOf?, isOctalDigit]

theorem unescapeDoc_flatMap_docChar (s : List Char) : unescapeDoc (s.flatMap docChar) = s := by
  induction s with
  | nil => rfl
  | cons c s ih =>
    rw [List.flatMap_cons]
    rcases docChar_cases c with ⟨hchar, hc⟩ | ⟨d, hchar, hd, rfl⟩
    · have hbackslash : c ≠ '\\' := by
        rintro rfl
        exact absurd hc (by decide)
      rw [hchar, List.singleton_append, unescapeDoc_plain hbackslash, ih]
    · rw [hchar, List.cons_append, List.singleton_append, unescapeDoc_escaped hd, ih]

theorem doc?_docLine (s : List Char) : doc? (docLine s) = some s := by
  rw [docLine, doc?, quotedBody?_flatMap_docChar]
  exact congrArg some (unescapeDoc_flatMap_docChar s)

theorem not_mem_docChar {c : Char} (hc : c ∈ ['\n', '\t']) (d : Char) : c ∉ docChar d := by
  intro h
  simp only [List.mem_cons, List.not_mem_nil, or_false] at hc
  rcases docChar_cases d with ⟨hchar, hplain⟩ | ⟨e, hchar, he, -⟩
  · rw [hchar, List.mem_singleton] at h
    subst h
    rcases hc with rfl | rfl <;> exact absurd hplain (by decide)
  · simp only [hchar, List.mem_cons, List.not_mem_nil, or_false] at h
    rcases h with rfl | rfl
    · rcases hc with hc | hc <;> exact absurd hc (by decide)
    · rcases hc with rfl | rfl <;> exact absurd he (by decide)

theorem not_mem_docLine {c : Char} (hc : c ∈ ['\n', '\t']) (s : List Char) : c ∉ docLine s := by
  intro h
  rcases List.mem_cons.mp h with rfl | h
  · exact absurd hc (by decide)
  rcases List.mem_append.mp h with h | h
  · obtain ⟨d, -, hd⟩ := List.mem_flatMap.mp h
    exact not_mem_docChar hc d hd
  · rw [List.mem_singleton.mp h] at hc
    exact absurd hc (by decide)

theorem flush_docLine (s : List Char) : Flush (docLine s) := by
  refine ⟨Stops.cons (by decide) _, ?_⟩
  rw [docLine, List.reverse_cons, List.reverse_append]
  exact Stops.cons (by decide) _

/-! ## Comments -/

/-- The text with an empty comment inside whatever would open one. -/
def protect : List Char → List Char
  | [] => []
  | '(' :: '*' :: s => '(' :: '(' :: '*' :: '*' :: ')' :: '*' :: protect s
  | c :: s => c :: protect s

theorem dropComments_cons {c : Char} {s : List Char} (h : c ≠ '(' ∨ s.head? ≠ some '*') :
    dropComments (c :: s) = c :: dropComments s := by
  cases s with
  | nil =>
    rw [dropComments, dropComments]
  | cons d s =>
    rw [dropComments, if_neg]
    rintro ⟨rfl, rfl⟩
    rcases h with h | h
    · exact h rfl
    · exact h rfl

theorem head?_protect (s : List Char) : (protect s).head? = s.head? := by
  fun_cases protect s <;> rfl

theorem dropComments_protect (s : List Char) : dropComments (protect s) = s := by
  fun_induction protect s with
  | case1 => rw [dropComments]
  | case2 s ih =>
    -- the parenthesis stays, the empty comment behind it goes, and the star is plain text again
    have hempty : dropComments ('(' :: '*' :: '*' :: ')' :: '*' :: protect s)
        = dropComments ('*' :: protect s) := by
      rw [dropComments, if_pos ⟨rfl, rfl⟩]
      rfl
    rw [dropComments_cons (.inr (by simp)), hempty, dropComments_cons (.inl (by decide)), ih]
  | case3 c s hopen ih =>
    -- a parenthesis without a star has none after protection either
    have hc : c ≠ '(' ∨ (protect s).head? ≠ some '*' := by
      by_cases hc : c = '('
      · right
        rw [head?_protect]
        intro hstar
        cases s with
        | nil => cases hstar
        | cons d s => exact hopen s hc (by rw [Option.some.inj hstar])
      · exact .inl hc
    rw [dropComments_cons hc, ih]

end Litmus.Source
