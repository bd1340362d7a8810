import Litmus.Names
import Litmus.Text.Literal

/-!
# Forms

A *form* is the bare shape of a value: a simple value, a sequence, a set, or a node of a named kind
with its fields. Every term of a test and of a record has a form, and there are forms that no term
has.

* `Form.same` is equality of forms. A flag counts as the number one or zero.
* `Form.debug` shows a form in full: `Kind(field, field)`.
-/

namespace Litmus

/-- The shape of a value. -/
inductive Form where
  /-- The absent value. -/
  | absent
  | flag (value : Bool)
  | number (value : Int)
  | text (value : String)
  /-- A sequence of values. -/
  | sequence (items : List Form)
  /-- A set of values, listed in a fixed order and each once. -/
  | set (items : List Form)
  /-- A value of a named kind with its fields in order. -/
  | node (kind : String) (fields : List Form)
deriving Inhabited

namespace Form

/-- The name of the shape of a form. -/
def shape : Form → String
  | .absent => "NoneType"
  | .flag _ => "bool"
  | .number _ => "int"
  | .text _ => "str"
  | .sequence _ => "tuple"
  | .set _ => "frozenset"
  | .node kind _ => kind

/-- The number that a form counts as. -/
def number? : Form → Option Int
  | .flag value => some value.toInt
  | .number value => some value
  | _ => none

/-- The text that a form is. -/
def text? : Form → Option String
  | .text value => some value
  | _ => none

/-! ## Equality -/

mutual

/-- Whether two forms are the same. -/
def same : Form → Form → Bool
  | .absent, .absent => true
  | .text a, .text b => a == b
  | .sequence as, .sequence bs => allSame as bs
  | .set as, .set bs => as.length == bs.length && allAmong as bs
  | .node k as, .node l bs => k == l && allSame as bs
  | .flag a, b => b.number? == some a.toInt
  | .number a, b => b.number? == some a
  | _, _ => false

/-- Whether two lists hold the same forms in the same order. -/
def allSame : List Form → List Form → Bool
  | [], [] => true
  | a :: as, b :: bs => same a b && allSame as bs
  | _, _ => false

/-- Whether every form of a list is among those of another. -/
def allAmong : List Form → List Form → Bool
  | [], _ => true
  | a :: as, bs => bs.any (same a) && allAmong as bs

end

instance : BEq Form := ⟨same⟩

mutual

theorem same_self : (a : Form) → same a a = true
  | .absent => rfl
  | .flag _ | .number _ | .text _ => by simp [same, number?]
  | .sequence as | .node _ as => by simpa [same] using allSame_self as
  | .set as => by simpa [same] using allAmong_of_subset as as fun _ h => h

theorem allSame_self : (as : List Form) → allSame as as = true
  | [] => rfl
  | a :: as => by simp [allSame, same_self a, allSame_self as]

theorem allAmong_of_subset : (as bs : List Form) → (∀ a ∈ as, a ∈ bs) → allAmong as bs = true
  | [], _, _ => rfl
  | a :: as, bs, h => by
    have ha : bs.any (same a) = true :=
      List.any_eq_true.mpr ⟨a, h a (List.mem_cons_self ..), same_self a⟩
    have has := allAmong_of_subset as bs fun x hx => h x (List.mem_cons_of_mem _ hx)
    simp only [allAmong, ha, has, Bool.and_self]

end

/-- The forms of a list, each once, in the order of their first occurrences. -/
def distinct (forms : List Form) : List Form :=
  forms.foldl (fun seen form => if seen.contains form then seen else seen ++ [form]) []

/-- For each form of a list, the index of the first form that is the same. -/
def firstIndices (forms : List Form) : List Nat :=
  forms.map fun form => (forms.findIdx? (· == form)).getD 0

/-- The form of a set of values. Texts are listed in increasing order. -/
def ofMembers (members : List Form) : Form :=
  if members.all (·.text?.isSome) then .set ((namesOf (members.filterMap text?)).map .text)
  else .set (distinct members)

/-! ## Text -/

/-- Items between brackets; a single item is followed by a comma. -/
def sequenceText : List String → String
  | [] => "()"
  | [item] => "(" ++ item ++ ",)"
  | items => "(" ++ String.intercalate ", " items ++ ")"

/-- The items of a set between braces. -/
def setText : List String → String
  | [] => "frozenset()"
  | items => "frozenset(\x7b" ++ String.intercalate ", " items ++ "\x7d)"

mutual

/-- The form in full. -/
def debug : Form → String
  | .absent => "None"
  | .flag true => "True"
  | .flag false => "False"
  | .number n => toString n
  | .text s => Text.literal s
  | .sequence items => sequenceText (debugAll items)
  | .set items => setText (debugAll items)
  | .node kind fields => kind ++ "(" ++ String.intercalate ", " (debugAll fields) ++ ")"

/-- Every form of a list in full. -/
def debugAll : List Form → List String
  | [] => []
  | item :: items => debug item :: debugAll items

end

end Form

end Litmus
