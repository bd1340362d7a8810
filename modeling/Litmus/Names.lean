/-!
# Sets of names

A set of names is kept as the list of its members in increasing order (by code point), each once, so
that equal sets are equal lists and need no sorting when they are shown.

`mem_insertName` and `pairwise_insertName` say what insertion does; `mem_namesOf` and
`pairwise_namesOf` say it of whole lists.
-/

namespace Litmus

/-- The name put in its place in an increasing list. -/
def insertName (name : String) : List String → List String
  | [] => [name]
  | next :: names =>
    if name < next then name :: next :: names
    else if name = next then next :: names
    else next :: insertName name names

/-- Exactly the name itself comes in. -/
theorem mem_insertName {name : String} {names : List String} {x : String} :
    x ∈ insertName name names ↔ x = name ∨ x ∈ names := by
  induction names with
  | nil => simp [insertName]
  | cons next names ih =>
    rw [insertName]
    split
    · simp
    · split
      · rename_i h
        simp [h]
      · simp only [List.mem_cons, ih]
        grind

/-- An increasing list stays increasing. -/
theorem pairwise_insertName {name : String} {names : List String}
    (h : names.Pairwise (· < ·)) : (insertName name names).Pairwise (· < ·) := by
  induction names with
  | nil => simp [insertName]
  | cons next names ih =>
    obtain ⟨hnext, hnames⟩ := List.pairwise_cons.mp h
    rw [insertName]
    split
    · rename_i hlt
      refine List.pairwise_cons.mpr ⟨fun x hx => ?_, h⟩
      rcases List.mem_cons.mp hx with rfl | hx
      · exact hlt
      · exact String.lt_trans hlt (hnext x hx)
    · split
      · exact h
      · rename_i hnlt hne
        refine List.pairwise_cons.mpr ⟨fun x hx => ?_, ih hnames⟩
        rcases mem_insertName.mp hx with rfl | hx
        · exact Std.lt_of_le_of_ne (String.not_lt.mp hnlt) (Ne.symm hne)
        · exact hnext x hx

/-- The set of the names of a list. -/
def namesOf (names : List String) : List String :=
  names.foldr insertName []

theorem mem_namesOf {names : List String} {x : String} : x ∈ namesOf names ↔ x ∈ names := by
  induction names with
  | nil => simp [namesOf]
  | cons name names ih =>
    have h : namesOf (name :: names) = insertName name (namesOf names) := rfl
    rw [h, mem_insertName, ih, List.mem_cons]

theorem pairwise_namesOf (names : List String) : (namesOf names).Pairwise (· < ·) := by
  induction names with
  | nil => simp [namesOf]
  | cons name names ih => exact pairwise_insertName ih

end Litmus
