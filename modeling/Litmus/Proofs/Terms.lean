import Litmus.Proofs.Assertion
import Litmus.Proofs.Delimited
import Litmus.Proofs.Shapes

/-!
# Texts of terms

The atoms of a term are written as they are, so the text of a term shows its structure only if no
atom holds a character that structure is made of. The text of such a term determines the term, and
the assertions of propositions that can be read are such terms.

* **`Sexpr.Legible`**: every atom is a word without spaces and parentheses.
* **`text_inj`**: legible terms are equal if a text starts with both of them.
* **`Sexpr.Plain`**: a legible term whose text is printed.
* **`Proposition.Readable.plain`**: the assertion of a proposition that can be read is plain.
-/

namespace Litmus

open Source Text

/-! ## Legible terms -/

/-- A character that an atom can hold. -/
def isAtomChar (c : Char) : Bool :=
  c != ' ' && c != '(' && c != ')'

/-- A word of such characters. -/
def IsAtomWord (w : List Char) : Prop :=
  w ≠ [] ∧ ∀ c ∈ w, isAtomChar c = true

mutual

/-- A term whose atoms can be told from what stands between them. -/
def Sexpr.Legible : Sexpr → Prop
  | .atom text => IsAtomWord text.toList
  | .list items => AllLegible items

/-- A list of such terms. -/
def AllLegible : List Sexpr → Prop
  | [] => True
  | item :: items => item.Legible ∧ AllLegible items

end

/-- The texts of terms, each behind a space. -/
def behindSpaces (items : List Sexpr) : List Char :=
  items.flatMap fun item => ' ' :: item.text.toList

/-- The first item of a list stands right behind the parenthesis, every other behind a space. -/
theorem text_list_append (item : Sexpr) (items : List Sexpr) (x : List Char) :
    (Sexpr.list (item :: items)).text.toList ++ x =
      '(' :: (item.text.toList ++ (behindSpaces items ++ ')' :: x)) := by
  rw [Sexpr.text_list, String.toList_append, String.toList_append, String.toList_intercalate,
    List.map_cons, List.map_cons, intercalate_cons, List.map_map, List.flatMap_map]
  simp [behindSpaces]

theorem text_nil_append (x : List Char) :
    (Sexpr.list []).text.toList ++ x = '(' :: ')' :: x := by
  rw [Sexpr.text_list]
  rfl

theorem behindSpaces_cons_append (item : Sexpr) (items : List Sexpr) (x : List Char) :
    behindSpaces (item :: items) ++ x = ' ' :: (item.text.toList ++ (behindSpaces items ++ x)) := by
  simp [behindSpaces]

theorem stops_behindSpaces (items : List Sexpr) (x : List Char) :
    Stops isAtomChar (behindSpaces items ++ ')' :: x) := by
  cases items with
  | nil => exact Stops.cons (by decide) x
  | cons item items => exact Stops.cons (by decide) _

/-- What an atom starts with. -/
theorem IsAtomWord.head {w : List Char} (h : IsAtomWord w) :
    ∃ c s, w = c :: s ∧ isAtomChar c = true := by
  obtain ⟨hne, hchars⟩ := h
  cases w with
  | nil => exact absurd rfl hne
  | cons c s => exact ⟨c, s, rfl, hchars c (by simp)⟩

/-- What a list starts with. -/
theorem text_list_head (items : List Sexpr) (x : List Char) :
    ∃ s, (Sexpr.list items).text.toList ++ x = '(' :: s := by
  cases items with
  | nil => exact ⟨_, text_nil_append x⟩
  | cons item items => exact ⟨_, text_list_append item items x⟩

/-- An atom is no list. -/
theorem IsAtomWord.ne_list {text : String} (h : IsAtomWord text.toList) (items : List Sexpr)
    (x y : List Char) : text.toList ++ x ≠ (Sexpr.list items).text.toList ++ y := by
  obtain ⟨c, w, hw, hc⟩ := h.head
  obtain ⟨s, hs⟩ := text_list_head items y
  rw [hw, hs]
  intro heq
  obtain rfl := (List.cons.inj heq).1
  exact absurd hc (by decide)

/-- No legible term starts with what closes a list. -/
theorem Sexpr.Legible.ne_close {term : Sexpr} (h : term.Legible) (x y : List Char) :
    term.text.toList ++ x ≠ ')' :: y := by
  cases term with
  | atom text =>
    rw [Sexpr.Legible] at h
    obtain ⟨c, w, hw, hc⟩ := h.head
    rw [Sexpr.text_atom, hw]
    intro heq
    obtain rfl := (List.cons.inj heq).1
    exact absurd hc (by decide)
  | list items =>
    obtain ⟨s, hs⟩ := text_list_head items x
    rw [hs]
    intro heq
    exact absurd (List.cons.inj heq).1 (by decide)

mutual

/-- A legible term is determined by a text that starts with it, as long as the text behind it does not
go on with an atom. -/
theorem text_inj : ∀ {term term' : Sexpr} {x y : List Char}, term.Legible → term'.Legible →
    Stops isAtomChar x → Stops isAtomChar y → term.text.toList ++ x = term'.text.toList ++ y →
      term = term' ∧ x = y
  | .atom text, .atom text', x, y, h, h', hx, hy, heq => by
    rw [Sexpr.Legible] at h h'
    rw [Sexpr.text_atom, Sexpr.text_atom] at heq
    obtain ⟨htext, hrest⟩ := append_inj_of_stops h.2 h'.2 hx hy heq
    exact ⟨congrArg Sexpr.atom (String.toList_inj.mp htext), hrest⟩
  | .atom text, .list items, x, y, h, _, _, _, heq => by
    rw [Sexpr.Legible] at h
    rw [Sexpr.text_atom] at heq
    exact absurd heq (h.ne_list items x y)
  | .list items, .atom text, x, y, _, h', _, _, heq => by
    rw [Sexpr.Legible] at h'
    rw [Sexpr.text_atom] at heq
    exact absurd heq.symm (h'.ne_list items y x)
  | .list [], .list [], x, y, _, _, _, _, heq => ⟨rfl, List.append_cancel_left heq⟩
  | .list [], .list (item :: items), x, y, _, h', _, _, heq => by
    rw [text_nil_append, text_list_append] at heq
    rw [Sexpr.Legible, AllLegible] at h'
    exact absurd (List.cons.inj heq).2.symm (h'.1.ne_close _ _)
  | .list (item :: items), .list [], x, y, h, _, _, _, heq => by
    rw [text_nil_append, text_list_append] at heq
    rw [Sexpr.Legible, AllLegible] at h
    exact absurd (List.cons.inj heq).2 (h.1.ne_close _ _)
  | .list (item :: items), .list (item' :: items'), x, y, h, h', _, _, heq => by
    rw [Sexpr.Legible, AllLegible] at h h'
    rw [text_list_append, text_list_append] at heq
    obtain ⟨rfl, hitems⟩ := text_inj h.1 h'.1 (stops_behindSpaces items x)
      (stops_behindSpaces items' y) (List.cons.inj heq).2
    obtain ⟨rfl, rfl⟩ := behindSpaces_inj h.2 h'.2 hitems
    exact ⟨rfl, rfl⟩

/-- The same for terms behind spaces, up to a closing parenthesis. -/
theorem behindSpaces_inj : ∀ {items items' : List Sexpr} {x y : List Char}, AllLegible items →
    AllLegible items' → behindSpaces items ++ ')' :: x = behindSpaces items' ++ ')' :: y →
      items = items' ∧ x = y
  | [], [], x, y, _, _, heq => ⟨rfl, (List.cons.inj heq).2⟩
  | [], item :: items, x, y, _, _, heq => absurd (List.cons.inj heq).1 (by decide)
  | item :: items, [], x, y, _, _, heq => absurd (List.cons.inj heq).1 (by decide)
  | item :: items, item' :: items', x, y, h, h', heq => by
    rw [AllLegible] at h h'
    rw [behindSpaces_cons_append, behindSpaces_cons_append] at heq
    obtain ⟨rfl, hitems⟩ := text_inj h.1 h'.1 (stops_behindSpaces items x)
      (stops_behindSpaces items' y) (List.cons.inj heq).2
    obtain ⟨rfl, rfl⟩ := behindSpaces_inj h.2 h'.2 hitems
    exact ⟨rfl, rfl⟩

end

/-! ## Plain terms -/

/-- An atom word of characters that are printed. -/
def IsAtomText (w : List Char) : Prop :=
  w ≠ [] ∧ ∀ c ∈ w, isAtomChar c = true ∧ IsPrinted c

mutual

/-- A legible term whose text is printed. -/
def Sexpr.Plain : Sexpr → Prop
  | .atom text => IsAtomText text.toList
  | .list items => AllPlain items

/-- A list of such terms. -/
def AllPlain : List Sexpr → Prop
  | [] => True
  | item :: items => item.Plain ∧ AllPlain items

end

mutual

theorem Sexpr.Plain.legible : ∀ {term : Sexpr}, term.Plain → term.Legible
  | .atom text, h => by
    rw [Sexpr.Plain] at h
    rw [Sexpr.Legible]
    exact ⟨h.1, fun c hc => (h.2 c hc).1⟩
  | .list items, h => by
    rw [Sexpr.Plain] at h
    rw [Sexpr.Legible]
    exact h.legible

theorem AllPlain.legible : ∀ {items : List Sexpr}, AllPlain items → AllLegible items
  | [], _ => trivial
  | item :: items, h => by
    rw [AllPlain] at h
    rw [AllLegible]
    exact ⟨h.1.legible, h.2.legible⟩

end

mutual

/-- The text of a plain term is printed. -/
theorem Sexpr.Plain.allPrinted : ∀ {term : Sexpr}, term.Plain → AllPrinted term.text.toList
  | .atom text, h => by
    rw [Sexpr.Plain] at h
    rw [Sexpr.text_atom]
    exact fun c hc => (h.2 c hc).2
  | .list [], _ => by
    rw [← List.append_nil (Sexpr.text _).toList, text_nil_append, allPrinted_cons, allPrinted_cons]
    exact ⟨by decide, by decide, AllPrinted.nil⟩
  | .list (item :: items), h => by
    rw [Sexpr.Plain, AllPlain] at h
    rw [← List.append_nil (Sexpr.text _).toList, text_list_append, allPrinted_cons,
      allPrinted_append, allPrinted_append, allPrinted_cons]
    exact ⟨by decide, h.1.allPrinted, allPrinted_behindSpaces h.2, by decide, AllPrinted.nil⟩

theorem allPrinted_behindSpaces : ∀ {items : List Sexpr}, AllPlain items →
    AllPrinted (behindSpaces items)
  | [], _ => AllPrinted.nil
  | item :: items, h => by
    rw [AllPlain] at h
    rw [← List.append_nil (behindSpaces _), behindSpaces_cons_append, allPrinted_cons,
      allPrinted_append, List.append_nil]
    exact ⟨by decide, h.1.allPrinted, allPrinted_behindSpaces h.2⟩

end

/-! ## Assertions -/

/-- A word of the characters of names and of what stands in numbers is an atom. -/
theorem isAtom_of_isNameTail {w : List Char} (hne : w ≠ [])
    (h : ∀ c ∈ w, isNameTail c = true ∨ c = '-') : IsAtomText w := by
  refine ⟨hne, fun c hc => ?_⟩
  rcases h c hc with hname | rfl
  · refine ⟨?_, isPrinted_of_isNameTail hname⟩
    have hrange := toNat_of_isNameTail hname
    simp only [isAtomChar, Bool.and_eq_true, bne_iff_ne]
    refine ⟨⟨?_, ?_⟩, ?_⟩ <;> rintro rfl <;> revert hrange <;> decide
  · decide

/-- The characters of a number. -/
theorem isNameTail_or_minus_of_isNumber {w : List Char} (h : IsNumber w) :
    ∀ c ∈ w, isNameTail c = true ∨ c = '-' := by
  intro c hc
  rcases h with h | ⟨digits, rfl, h⟩
  · exact .inl (h.isNameTail c hc)
  · rcases List.mem_cons.mp hc with rfl | hc
    · exact .inr rfl
    · exact .inl (h.isNameTail c hc)

theorem isAtom_number {w : List Char} (h : IsNumber w) : IsAtomText w :=
  isAtom_of_isNameTail h.ne_nil (isNameTail_or_minus_of_isNumber h)

theorem isAtom_name {w : List Char} (h : IsName w) : IsAtomText w :=
  isAtom_of_isNameTail h.ne_nil fun c hc => .inl (isNameTail_of_isName h c hc)

theorem isAtom_registerName {w : List Char} (h : IsRegisterName w) : IsAtomText w :=
  isAtom_of_isNameTail h.ne_nil fun c hc => .inl (isNameTail_of_isRegisterName h c hc)

/-- The words with which the lists of an assertion start are atoms. -/
theorem plain_head {word : String}
    (h : word ∈ ["register", "last_write_to", "=", "not", "and", "or", "=>"]) :
    (Sexpr.atom word).Plain := by
  rw [Sexpr.Plain]
  revert word
  simp [IsAtomText, isAtomChar, IsPrinted]

/-- A thread is written in decimal digits. -/
theorem toList_toString_of_nonneg {n : Int} (h : 0 ≤ n) : (toString n).toList = decimal n := by
  obtain ⟨m, rfl⟩ := Int.eq_ofNat_of_zero_le h
  exact Nat.toList_repr

theorem isAtom_thread {n : Int} (h : 0 ≤ n) : IsAtomText (toString n).toList := by
  have hdigits := isDigits_decimal n
  rw [toList_toString_of_nonneg h]
  exact isAtom_of_isNameTail hdigits.ne_nil fun c hc => .inl (isNameTail_of_isDigits hdigits c hc)

/-- The reference to a location that can be read. -/
theorem Location.Readable.plain_term {location : Location} {place : Resolved}
    (h : location.Readable) (hplace : location.resolve = .ok (some place)) : place.term.Plain := by
  match location, h with
  | .register thread name, h =>
    obtain rfl := Option.some.inj (Except.ok.inj hplace)
    exact ⟨plain_head (by simp), isAtom_registerName h.2, isAtom_thread h.1, trivial⟩
  | .global (.symbolic name), h =>
    obtain rfl := Option.some.inj (Except.ok.inj hplace)
    exact ⟨plain_head (by simp), isAtom_name h, trivial⟩
  | .symbolicRegister name, _ => cases hplace
  | .global (.concrete text), _ => cases hplace
  | .cell (.symbolic name) index, _ => cases hplace

mutual

/-- The assertion of a proposition that can be read is plain. -/
theorem Proposition.Readable.plain : ∀ {proposition : Proposition} {assertion : Sexpr},
    proposition.Readable → proposition.assertion = .ok assertion → assertion.Plain
  | .holds location constant, assertion, h, hassertion => by
    obtain ⟨place, text, hplace, rfl, rfl⟩ := assertion_holds hassertion
    cases h with
    | holds hlocation _ hvalue =>
      exact ⟨plain_head (by simp), hlocation.plain_term hplace, isAtom_number hvalue, trivial⟩
  | .agree left right, assertion, _, hassertion => (assertion_agree hassertion).elim
  | .not operand, assertion, h, hassertion => by
    obtain ⟨term, hterm, rfl⟩ := assertion_not hassertion
    cases h with
    | not h => exact ⟨plain_head (by simp), h.plain hterm, trivial⟩
  | .and operands, assertion, h, hassertion => by
    obtain ⟨terms, hterms, rfl⟩ := assertion_and hassertion
    cases h with
    | and _ h => exact ⟨plain_head (by simp), plain_assertionsOfAll h hterms⟩
  | .or operands, assertion, h, hassertion => by
    obtain ⟨terms, hterms, rfl⟩ := assertion_or hassertion
    cases h with
    | or _ h => exact ⟨plain_head (by simp), plain_assertionsOfAll h hterms⟩
  | .implies left right, assertion, h, hassertion => by
    obtain ⟨first, second, hfirst, hsecond, rfl⟩ := assertion_implies hassertion
    cases h with
    | implies hleft hright => exact ⟨plain_head (by simp), hleft.plain hfirst, hright.plain hsecond, trivial⟩

theorem plain_assertionsOfAll : ∀ {operands : List Proposition} {terms : List Sexpr},
    (∀ operand ∈ operands, operand.Readable) → assertionsOfAll operands = .ok terms →
      AllPlain terms
  | [], terms, _, hterms => by
    obtain rfl := assertionsOfAll_nil hterms
    exact trivial
  | operand :: operands, terms, h, hterms => by
    obtain ⟨first, rest, hfirst, hrest, rfl⟩ := assertionsOfAll_cons hterms
    obtain ⟨hoperand, hoperands⟩ := List.forall_mem_cons.mp h
    exact ⟨hoperand.plain hfirst, plain_assertionsOfAll hoperands hrest⟩

end

/-- The assertion of the question that a condition comes down to is plain. -/
theorem plain_finalState {condition : Condition} {state : FinalState}
    (h : condition.body.Readable) (hstate : condition.finalState = .ok state) :
    state.assertion.Plain := by
  cases condition with
  | someState body =>
    obtain ⟨-, -, -, hassertion, -⟩ := ofProposition_eq_ok hstate
    exact h.plain hassertion
  | noState body =>
    obtain ⟨-, -, -, hassertion, -⟩ := ofProposition_eq_ok hstate
    exact h.plain hassertion
  | everyState body =>
    obtain ⟨question, hquestion, hstate⟩ := bind_eq_ok.mp hstate
    obtain ⟨-, -, -, hassertion, -⟩ := ofProposition_eq_ok hquestion
    obtain rfl := Except.ok.inj hstate
    exact ⟨plain_head (by simp), h.plain hassertion, trivial⟩

end Litmus
