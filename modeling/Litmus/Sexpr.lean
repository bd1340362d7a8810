/-!
# S-expressions

The terms of SMT-LIB that a record holds: atoms, and lists of terms between parentheses with one
space between neighbours.
-/

namespace Litmus

/-- A term of SMT-LIB. -/
inductive Sexpr where
  | atom (text : String)
  | list (items : List Sexpr)
deriving Inhabited

namespace Sexpr

mutual

/-- The text of a term. -/
def text : Sexpr → String
  | .atom text => text
  | .list items => "(" ++ String.intercalate " " (texts items) ++ ")"

/-- The texts of the terms of a list. -/
def texts : List Sexpr → List String
  | [] => []
  | item :: items => text item :: texts items

end

@[simp] theorem text_atom (s : String) : (atom s).text = s := by rw [text]

theorem text_list (items : List Sexpr) :
    (list items).text = "(" ++ String.intercalate " " (items.map text) ++ ")" := by
  have h : ∀ items : List Sexpr, texts items = items.map text := by
    intro items
    induction items with
    | nil => rw [texts, List.map_nil]
    | cons item items ih => rw [texts, ih, List.map_cons]
  rw [text, h]

end Sexpr

end Litmus
