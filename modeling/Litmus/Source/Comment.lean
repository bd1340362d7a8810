/-!
# Comments

A comment starts with `(*` and goes on to the next `*)`, over line ends too; comments do not nest.
An opening mark that is never closed is ordinary text, and so is all that follows it.
-/

namespace Litmus.Source

/-- The text after the first closing mark. -/
def afterComment? : List Char → Option (List Char)
  | [] => none
  | [_] => none
  | c :: d :: s => if c = '*' ∧ d = ')' then some s else afterComment? (d :: s)

theorem length_afterComment? {s rest : List Char} (h : afterComment? s = some rest) :
    rest.length < s.length := by
  fun_induction afterComment? s with
  | case1 => simp at h
  | case2 => simp at h
  | case3 c d s _ =>
    obtain rfl := Option.some.inj h
    simp only [List.length_cons]
    omega
  | case4 c d s _ ih =>
    have := ih h
    simp only [List.length_cons] at this ⊢
    omega

/-- The text without its comments. -/
def dropComments (s : List Char) : List Char :=
  match s with
  | [] => []
  | [c] => [c]
  | c :: d :: s =>
    if c = '(' ∧ d = '*' then
      match _h : afterComment? s with
      | some rest => dropComments rest
      | none => c :: d :: s
    else c :: dropComments (d :: s)
termination_by s.length
decreasing_by
  · have := length_afterComment? _h
    simp only [List.length_cons]
    omega
  · simp

/-- A text without opening marks has no comments. -/
theorem dropComments_of_no_star {s : List Char} (h : '*' ∉ s) : dropComments s = s := by
  fun_induction dropComments s with
  | case1 => rfl
  | case2 => rfl
  | case3 c d s hcd _ _ _ => simp [hcd.2] at h
  | case4 => rfl
  | case5 c d s _ ih => rw [ih fun hs => h (List.mem_cons_of_mem _ hs)]

end Litmus.Source
