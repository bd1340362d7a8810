import Litmus.Proofs.Terms

/-!
# Texts of assertions

An assertion says which proposition it was made of: the word at its head tells the connective, the
rest of the list the operands. So does its text, for terms are written so that they can be read
again, as long as the names and numbers of the proposition hold no space and no parenthesis. Which
word a name is does not matter: a register may be called like a connective.

* **`Proposition.words`**: the names and numbers of a proposition.
* **`assertion_inj`**: different propositions make different assertions.
* **`Proposition.legible`**: where the names and numbers are atoms, the assertion is legible.
* **`assertionText_inj`**: legible terms are determined by their texts, and so are propositions.
-/

namespace Litmus

open Source Text

/-! ## Names and numbers -/

/-- The name or number of a constant. -/
def Constant.word : Constant → String
  | .concrete text => text
  | .symbolic name => name
  | .label _ name => name

/-- The name or number of a location, that of its address where it is in memory. -/
def Location.word : Location → String
  | .register _ name => name
  | .symbolicRegister name => name
  | .global address => address.word
  | .cell base _ => base.word

mutual

/-- The names and numbers of a proposition, from left to right. -/
def Proposition.words : Proposition → List String
  | .holds location value => [location.word, value.word]
  | .agree left right => [left.word, right.word]
  | .not operand => operand.words
  | .and operands => wordsOfAll operands
  | .or operands => wordsOfAll operands
  | .implies left right => left.words ++ right.words

/-- The names and numbers of the propositions of a list. -/
def wordsOfAll : List Proposition → List String
  | [] => []
  | operand :: operands => operand.words ++ wordsOfAll operands

end

/-! ## Different propositions -/

/-- The word at the head of the assertion of a proposition. -/
def Proposition.connective : Proposition → String
  | .holds _ _ => "="
  | .agree _ _ => "="
  | .not _ => "not"
  | .and _ => "and"
  | .or _ => "or"
  | .implies _ _ => "=>"

theorem assertion_head {p : Proposition} {assertion : Sexpr} (h : p.assertion = .ok assertion) :
    ∃ items, assertion = .list (.atom p.connective :: items) := by
  cases p with
  | holds location value =>
    obtain ⟨place, text, -, -, rfl⟩ := assertion_holds h
    exact ⟨_, rfl⟩
  | agree left right => exact (assertion_agree h).elim
  | not operand =>
    obtain ⟨term, -, rfl⟩ := assertion_not h
    exact ⟨_, rfl⟩
  | and operands =>
    obtain ⟨terms, -, rfl⟩ := assertion_and h
    exact ⟨_, rfl⟩
  | or operands =>
    obtain ⟨terms, -, rfl⟩ := assertion_or h
    exact ⟨_, rfl⟩
  | implies left right =>
    obtain ⟨first, second, -, -, rfl⟩ := assertion_implies h
    exact ⟨_, rfl⟩

theorem connective_eq {p q : Proposition} {assertion : Sexpr} (hp : p.assertion = .ok assertion)
    (hq : q.assertion = .ok assertion) : p.connective = q.connective := by
  obtain ⟨items, rfl⟩ := assertion_head hp
  obtain ⟨items', heq⟩ := assertion_head hq
  exact Sexpr.atom.inj (List.cons.inj (Sexpr.list.inj heq)).1

/-- The term for a resolved location shows which one it is. -/
theorem term_inj {place place' : Resolved} (h : place.term = place'.term) : place = place' := by
  have hread := congrArg Sexpr.reference? h
  rw [reference?_term, reference?_term] at hread
  exact Option.some.inj hread

/-- The location that comes down to this. -/
def Resolved.location : Resolved → Location
  | .register thread name => .register thread name
  | .memory name => .global (.symbolic name)

theorem eq_location {location : Location} {place : Resolved}
    (h : location.resolve = .ok (some place)) : location = place.location := by
  match location with
  | .register thread name =>
    obtain rfl := Option.some.inj (Except.ok.inj h)
    rfl
  | .global (.symbolic name) =>
    obtain rfl := Option.some.inj (Except.ok.inj h)
    rfl
  | .global (.concrete _) | .global (.label _ _) | .symbolicRegister _ | .cell _ _ => cases h

mutual

/-- Propositions that make the same assertion are the same. -/
theorem assertion_inj : ∀ {p q : Proposition} {assertion : Sexpr}, p.assertion = .ok assertion →
    q.assertion = .ok assertion → p = q
  | .holds location value, q, assertion, hp, hq => by
    -- in each case the head leaves one connective for `q`, and the tails of the lists are compared
    have hhead := connective_eq hp hq
    obtain ⟨place, text, hplace, rfl, rfl⟩ := assertion_holds hp
    cases q with
    | holds location' value' =>
      obtain ⟨place', text', hplace', rfl, heq⟩ := assertion_holds hq
      simp only [Sexpr.list.injEq, List.cons.injEq, Sexpr.atom.injEq] at heq
      obtain ⟨-, hterm, rfl, -⟩ := heq
      obtain rfl := term_inj hterm
      rw [eq_location hplace, eq_location hplace']
    | agree left right => exact (assertion_agree hq).elim
    | _ => simp [Proposition.connective] at hhead
  | .agree left right, q, assertion, hp, hq => (assertion_agree hp).elim
  | .not operand, q, assertion, hp, hq => by
    have hhead := connective_eq hp hq
    obtain ⟨term, hterm, rfl⟩ := assertion_not hp
    cases q with
    | not operand' =>
      obtain ⟨term', hterm', heq⟩ := assertion_not hq
      simp only [Sexpr.list.injEq, List.cons.injEq] at heq
      obtain ⟨-, rfl, -⟩ := heq
      rw [assertion_inj hterm hterm']
    | _ => simp [Proposition.connective] at hhead
  | .and operands, q, assertion, hp, hq => by
    have hhead := connective_eq hp hq
    obtain ⟨terms, hterms, rfl⟩ := assertion_and hp
    cases q with
    | and operands' =>
      obtain ⟨terms', hterms', heq⟩ := assertion_and hq
      simp only [Sexpr.list.injEq, List.cons.injEq] at heq
      obtain ⟨-, rfl⟩ := heq
      rw [assertionsOfAll_inj hterms hterms']
    | _ => simp [Proposition.connective] at hhead
  | .or operands, q, assertion, hp, hq => by
    have hhead := connective_eq hp hq
    obtain ⟨terms, hterms, rfl⟩ := assertion_or hp
    cases q with
    | or operands' =>
      obtain ⟨terms', hterms', heq⟩ := assertion_or hq
      simp only [Sexpr.list.injEq, List.cons.injEq] at heq
      obtain ⟨-, rfl⟩ := heq
      rw [assertionsOfAll_inj hterms hterms']
    | _ => simp [Proposition.connective] at hhead
  | .implies left right, q, assertion, hp, hq => by
    have hhead := connective_eq hp hq
    obtain ⟨first, second, hfirst, hsecond, rfl⟩ := assertion_implies hp
    cases q with
    | implies left' right' =>
      obtain ⟨first', second', hfirst', hsecond', heq⟩ := assertion_implies hq
      simp only [Sexpr.list.injEq, List.cons.injEq] at heq
      obtain ⟨-, rfl, rfl, -⟩ := heq
      rw [assertion_inj hfirst hfirst', assertion_inj hsecond hsecond']
    | _ => simp [Proposition.connective] at hhead

theorem assertionsOfAll_inj : ∀ {ps qs : List Proposition} {terms : List Sexpr},
    assertionsOfAll ps = .ok terms → assertionsOfAll qs = .ok terms → ps = qs
  | [], qs, terms, hp, hq => by
    obtain rfl := assertionsOfAll_nil hp
    cases qs with
    | nil => rfl
    | cons q qs =>
      obtain ⟨first, rest, -, -, heq⟩ := assertionsOfAll_cons hq
      cases heq
  | p :: ps, qs, terms, hp, hq => by
    obtain ⟨first, rest, hfirst, hrest, rfl⟩ := assertionsOfAll_cons hp
    cases qs with
    | nil => cases assertionsOfAll_nil hq
    | cons q qs =>
      obtain ⟨first', rest', hfirst', hrest', heq⟩ := assertionsOfAll_cons hq
      obtain ⟨rfl, rfl⟩ := List.cons.inj heq
      rw [assertion_inj hfirst hfirst', assertionsOfAll_inj hrest hrest']

end

/-! ## Legible assertions -/

/-- The words with which the lists of an assertion start are atoms. -/
theorem legible_head {word : String}
    (h : word ∈ ["register", "last_write_to", "=", "not", "and", "or", "=>"]) :
    (Sexpr.atom word).Legible :=
  (plain_head h).legible

theorem isAtomWord_thread (n : Int) : IsAtomWord (toString n).toList := by
  obtain h | ⟨m, rfl⟩ : 0 ≤ n ∨ ∃ m : Nat, n = Int.negSucc m := by
    cases n with
    | ofNat m => exact .inl (Int.natCast_nonneg m)
    | negSucc m => exact .inr ⟨m, rfl⟩
  · have hatom := isAtom_thread h
    exact ⟨hatom.1, fun c hc => (hatom.2 c hc).1⟩
  · -- a negative number is a minus sign and the digits of its opposite
    have hatom := isAtom_thread (Int.natCast_nonneg (m + 1))
    have htext : (toString (Int.negSucc m)).toList
        = '-' :: (toString ((m + 1 : Nat) : Int)).toList := by
      have happend : toString (Int.negSucc m) = "-" ++ toString (m + 1) := rfl
      rw [happend, String.toList_append]
      rfl
    rw [htext]
    refine ⟨List.cons_ne_nil _ _, fun c hc => ?_⟩
    rcases List.mem_cons.mp hc with rfl | hc
    · decide
    · exact (hatom.2 c hc).1

/-- The term for a location whose name is an atom. -/
theorem legible_term {location : Location} {place : Resolved} (h : IsAtomWord location.word.toList)
    (hplace : location.resolve = .ok (some place)) : place.term.Legible := by
  match location with
  | .register thread name =>
    obtain rfl := Option.some.inj (Except.ok.inj hplace)
    exact ⟨legible_head (by simp), h, isAtomWord_thread thread, trivial⟩
  | .global (.symbolic name) =>
    obtain rfl := Option.some.inj (Except.ok.inj hplace)
    exact ⟨legible_head (by simp), h, trivial⟩
  | .global (.concrete _) | .global (.label _ _) | .symbolicRegister _ | .cell _ _ => cases hplace

mutual

/-- The assertion of a proposition whose names and numbers are atoms. -/
theorem Proposition.legible : ∀ {p : Proposition} {assertion : Sexpr},
    (∀ word ∈ p.words, IsAtomWord word.toList) → p.assertion = .ok assertion → assertion.Legible
  | .holds location value, assertion, h, hassertion => by
    obtain ⟨place, text, hplace, rfl, rfl⟩ := assertion_holds hassertion
    rw [Proposition.words] at h
    exact ⟨legible_head (by simp), legible_term (h _ (by simp)) hplace,
      h text (by simp [Constant.word]), trivial⟩
  | .agree left right, assertion, _, hassertion => (assertion_agree hassertion).elim
  | .not operand, assertion, h, hassertion => by
    obtain ⟨term, hterm, rfl⟩ := assertion_not hassertion
    rw [Proposition.words] at h
    exact ⟨legible_head (by simp), Proposition.legible h hterm, trivial⟩
  | .and operands, assertion, h, hassertion => by
    obtain ⟨terms, hterms, rfl⟩ := assertion_and hassertion
    rw [Proposition.words] at h
    exact ⟨legible_head (by simp), legible_assertionsOfAll h hterms⟩
  | .or operands, assertion, h, hassertion => by
    obtain ⟨terms, hterms, rfl⟩ := assertion_or hassertion
    rw [Proposition.words] at h
    exact ⟨legible_head (by simp), legible_assertionsOfAll h hterms⟩
  | .implies left right, assertion, h, hassertion => by
    obtain ⟨first, second, hfirst, hsecond, rfl⟩ := assertion_implies hassertion
    rw [Proposition.words] at h
    obtain ⟨hleft, hright⟩ := List.forall_mem_append.mp h
    exact ⟨legible_head (by simp), Proposition.legible hleft hfirst,
      Proposition.legible hright hsecond, trivial⟩

theorem legible_assertionsOfAll : ∀ {ps : List Proposition} {terms : List Sexpr},
    (∀ word ∈ wordsOfAll ps, IsAtomWord word.toList) → assertionsOfAll ps = .ok terms →
      AllLegible terms
  | [], terms, _, hterms => by
    obtain rfl := assertionsOfAll_nil hterms
    exact trivial
  | p :: ps, terms, h, hterms => by
    obtain ⟨first, rest, hfirst, hrest, rfl⟩ := assertionsOfAll_cons hterms
    rw [wordsOfAll] at h
    obtain ⟨hp, hps⟩ := List.forall_mem_append.mp h
    exact ⟨Proposition.legible hp hfirst, legible_assertionsOfAll hps hrest⟩

end

/-! ## Texts -/

/-- **Assertions can be read again.** Two terms whose atoms are words without spaces and parentheses
have the same text only if they are the same; and two propositions whose names and numbers are such
words have assertions with the same text only if they are the same. -/
theorem assertionText_inj :
    (∀ term term' : Sexpr, term.Legible → term'.Legible →
      (term.text = term'.text ↔ term = term')) ∧
    ∀ (p q : Proposition) (assertion assertion' : Sexpr), p.assertion = .ok assertion →
      q.assertion = .ok assertion' → (∀ word ∈ p.words, IsAtomWord word.toList) →
      (∀ word ∈ q.words, IsAtomWord word.toList) →
      (assertion.text = assertion'.text ↔ p = q) := by
  have hterms : ∀ term term' : Sexpr, term.Legible → term'.Legible →
      (term.text = term'.text ↔ term = term') := fun _ _ h h' =>
    ⟨fun heq => (text_inj h h' (Stops.nil _) (Stops.nil _) (congrArg (·.toList ++ []) heq)).1,
      congrArg Sexpr.text⟩
  refine ⟨hterms, fun p q assertion assertion' hp hq hwords hwords' => ?_⟩
  rw [hterms _ _ (Proposition.legible hwords hp) (Proposition.legible hwords' hq)]
  constructor
  · rintro rfl
    exact assertion_inj hp hq
  · rintro rfl
    exact Except.ok.inj (hp.symm.trans hq)

/-- A list of two atoms and a list of a list and an atom; and a register called `and` that holds `=`
beside the conjunction of that alone. In both pairs the texts differ. -/
theorem assertionText_inj_register :
    (Sexpr.list [.atom "and", .atom "="]).text ≠ (Sexpr.list [.list [.atom "and"], .atom "="]).text ∧
    ∃ assertion assertion' : Sexpr,
      (Proposition.holds (.register 0 "and") (.concrete "=")).assertion = .ok assertion ∧
      (Proposition.and [.holds (.register 0 "and") (.concrete "=")]).assertion = .ok assertion' ∧
      assertion.text ≠ assertion'.text := by
  have hand : IsAtomWord "and".toList := by simp [IsAtomWord, isAtomChar]
  have heq : IsAtomWord "=".toList := by simp [IsAtomWord, isAtomChar]
  have hterms := assertionText_inj.1 (.list [.atom "and", .atom "="])
    (.list [.list [.atom "and"], .atom "="]) ⟨hand, heq, trivial⟩ ⟨⟨hand, trivial⟩, heq, trivial⟩
  have hpropositions := assertionText_inj.2 (.holds (.register 0 "and") (.concrete "="))
    (.and [.holds (.register 0 "and") (.concrete "=")]) _ _ rfl rfl
    (List.forall_mem_cons.mpr ⟨hand, List.forall_mem_singleton.mpr heq⟩)
    (List.forall_mem_cons.mpr ⟨hand, List.forall_mem_singleton.mpr heq⟩)
  refine ⟨fun htext => ?_, _, _, rfl, rfl, fun htext => ?_⟩
  · cases hterms.mp htext
  · cases hpropositions.mp htext

end Litmus
