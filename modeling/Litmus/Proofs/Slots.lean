import Litmus.Proofs.Assertion

/-!
# Output slots

A question has a slot for each register that its condition mentions. The slots are collected by one
walk through the proposition and the assertion is made by another; this module shows that the two
meet the same registers in the same order.

* **`Proposition.registers`** lists the registers in the atoms of a proposition, from left to right
  and with repetitions; **`Sexpr.registers`** lists the registers that a term refers to.
* **`FirstOccurrences`** says that a list holds the elements of another, each once, in the order in
  which they occur first. It determines the list.
* **`registers_of_locations`**, **`registers_assertion`**: either walk follows
  `Proposition.registers`.
* **`slots_firstOccurrences`** puts them together, for the slots of a proposition and for those of a
  question.
-/

namespace Litmus

/-! ## Registers of a proposition -/

/-- The register that a location is, if it is one. -/
def Location.register? : Location → Option (Int × String)
  | .register thread name => some (thread, name)
  | _ => none

mutual

/-- The locations in the atoms of a proposition, from left to right. -/
def Proposition.places : Proposition → List Location
  | .holds location _ => [location]
  | .agree left right => [left, right]
  | .not operand => operand.places
  | .and operands => placesOfAll operands
  | .or operands => placesOfAll operands
  | .implies left right => left.places ++ right.places

/-- The locations in the atoms of all propositions of a list. -/
def placesOfAll : List Proposition → List Location
  | [] => []
  | operand :: operands => operand.places ++ placesOfAll operands

end

/-- The registers in the atoms of a proposition, from left to right. -/
def Proposition.registers (proposition : Proposition) : List (Int × String) :=
  proposition.places.filterMap Location.register?

/-! ## Registers of a term -/

/-- The register that a term refers to, if it is such a reference. -/
def Sexpr.register? (term : Sexpr) : Option (Int × String) :=
  term.reference?.bind Resolved.register?

mutual

/-- The registers that a term and its parts refer to, from left to right. -/
def Sexpr.registers : Sexpr → List (Int × String)
  | .atom _ => []
  | .list items => (Sexpr.list items).register?.toList ++ registersOfAll items

/-- The registers that the terms of a list refer to. -/
def registersOfAll : List Sexpr → List (Int × String)
  | [] => []
  | item :: items => item.registers ++ registersOfAll items

end

/-! ## First occurrences -/

/-- `once` holds the elements of `all`, each once, in the order in which they occur first. -/
structure FirstOccurrences {α : Type} [BEq α] (all once : List α) : Prop where
  nodup : once.Nodup
  mem_iff : ∀ a, a ∈ once ↔ a ∈ all
  ordered : once.Pairwise fun a b => all.idxOf a < all.idxOf b

section

variable {α β : Type} [BEq α] [LawfulBEq α] [BEq β] [LawfulBEq β]

/-- Erasing repetitions keeps the first occurrences. Induction from the end of the list, where
`eraseDups_concat` says what happens. -/
theorem firstOccurrences_eraseDups (as : List α) : FirstOccurrences as as.eraseDups := by
  induction as using List.reverseRecOn with
  | nil => exact ⟨by simp, by simp, by simp⟩
  | append_singleton as a ih =>
    -- what occurs in `as` keeps its place when `a` is put behind
    have hidx : ∀ b ∈ as.eraseDups, (as ++ [a]).idxOf b = as.idxOf b := by
      intro b hb
      exact List.idxOf_append_of_mem ((ih.mem_iff b).mp hb)
    have hordered : as.eraseDups.Pairwise fun b c => (as ++ [a]).idxOf b < (as ++ [a]).idxOf c := by
      refine ih.ordered.imp_of_mem ?_
      intro b c hb hc h
      rw [hidx b hb, hidx c hc]
      exact h
    rw [eraseDups_concat]
    by_cases h : a ∈ as
    · rw [if_pos h]
      refine ⟨ih.nodup, ?_, hordered⟩
      intro b
      rw [ih.mem_iff b, List.mem_append, List.mem_singleton]
      constructor
      · exact Or.inl
      · rintro (hb | rfl)
        · exact hb
        · exact h
    · rw [if_neg h]
      have hnew : ∀ b ∈ as.eraseDups, b ∈ as := fun b hb => (ih.mem_iff b).mp hb
      refine ⟨?_, ?_, ?_⟩
      · refine List.nodup_append.mpr ⟨ih.nodup, by simp, ?_⟩
        intro b hb c hc hbc
        rw [List.mem_singleton] at hc
        exact h (hc ▸ hbc ▸ hnew b hb)
      · intro b
        rw [List.mem_append, List.mem_append, ih.mem_iff b]
      · refine List.pairwise_append.mpr ⟨hordered, by simp, ?_⟩
        intro b hb c hc
        rw [List.mem_singleton] at hc
        -- `a` itself stands behind all of `as`
        have hlast : (as ++ [a]).idxOf a = as.length := by
          rw [List.idxOf_append_of_notMem h]
          simp
        rw [hc, hlast, hidx b hb]
        exact List.idxOf_lt_length_of_mem (hnew b hb)

omit [LawfulBEq α] in
/-- The first occurrences in a list are one list only: the members are the same, and so is their
order. -/
theorem FirstOccurrences.unique {all once once' : List α} (h : FirstOccurrences all once)
    (h' : FirstOccurrences all once') : once = once' := by
  have hperm : once.Perm once' := by
    refine (List.perm_ext_iff_of_nodup h.nodup h'.nodup).mpr fun a => ?_
    rw [h.mem_iff, h'.mem_iff]
  exact hperm.eq_of_pairwise (fun a b _ _ hab hba => absurd hab (Nat.lt_asymm hba)) h.ordered
    h'.ordered

/-- Erasing repetitions and picking out elements by a function that tells them apart can change
places. -/
theorem filterMap_eraseDups {f : α → Option β}
    (hf : ∀ a a' b, f a = some b → f a' = some b → a = a') (as : List α) :
    as.eraseDups.filterMap f = (as.filterMap f).eraseDups := by
  induction as using List.reverseRecOn with
  | nil => rfl
  | append_singleton as a ih =>
    rw [eraseDups_concat, List.filterMap_append]
    cases hfa : f a with
    | none =>
      -- what is not picked out makes no difference on either side
      have hlast : List.filterMap f [a] = [] := by simp [hfa]
      rw [hlast, List.append_nil, ← ih]
      split
      · rfl
      · rw [List.filterMap_append, hlast, List.append_nil]
    | some b =>
      have hlast : List.filterMap f [a] = [b] := by simp [hfa]
      have hmem : b ∈ as.filterMap f ↔ a ∈ as := by
        rw [List.mem_filterMap]
        constructor
        · rintro ⟨a', ha', hfa'⟩
          exact hf a a' b hfa hfa' ▸ ha'
        · intro ha
          exact ⟨a, ha, hfa⟩
      rw [hlast, eraseDups_concat, ← ih]
      by_cases h : a ∈ as
      · rw [if_pos h, if_pos (hmem.mpr h)]
      · rw [if_neg h, if_neg (fun hb => h (hmem.mp hb)), List.filterMap_append, hlast]

end

/-! ## Both walks meet the registers of the proposition -/

/-- A location comes down to the register that it is. -/
theorem register?_of_resolve {location : Location} {place? : Option Resolved}
    (h : location.resolve = .ok place?) : place?.bind Resolved.register? = location.register? := by
  cases location with
  | register thread name =>
    obtain rfl := Except.ok.inj h
    rfl
  | symbolicRegister name => cases h
  | global address =>
    cases address with
    | symbolic name =>
      obtain rfl := Except.ok.inj h
      rfl
    | concrete text => cases h
    | label thread name => cases h
  | cell base index =>
    obtain rfl := Except.ok.inj h
    rfl

theorem registers_of_mention {location : Location} {found : List Resolved}
    (h : location.mention = .ok found) :
    found.filterMap Resolved.register? = location.register?.toList := by
  obtain ⟨place?, hplace, rfl⟩ := map_eq_ok.mp h
  rw [← register?_of_resolve hplace]
  cases place? with
  | none => rfl
  | some place =>
    rw [Option.toList_some, Option.bind_some]
    cases hplace : place.register? <;> simp [hplace]

mutual

/-- The first walk: among what a proposition mentions are its registers, in their order. -/
theorem registers_of_mentions : ∀ {proposition : Proposition} {found : List Resolved},
    proposition.mentions = .ok found →
      found.filterMap Resolved.register? = proposition.places.filterMap Location.register?
  | .holds location _, found, h => by
    rw [Proposition.mentions] at h
    rw [registers_of_mention h, Proposition.places]
    cases hlocation : location.register? <;> simp [hlocation]
  | .agree left right, found, h => by
    rw [Proposition.mentions] at h
    obtain ⟨first, hfirst, h⟩ := bind_eq_ok.mp h
    obtain ⟨second, hsecond, h⟩ := bind_eq_ok.mp h
    obtain rfl := Except.ok.inj h
    rw [List.filterMap_append, registers_of_mention hfirst, registers_of_mention hsecond,
      Proposition.places]
    cases hleft : left.register? <;> cases hright : right.register? <;> simp [hleft, hright]
  | .not operand, found, h => by
    rw [Proposition.mentions] at h
    rw [registers_of_mentions h, Proposition.places]
  | .and operands, found, h => by
    rw [Proposition.mentions] at h
    rw [registers_of_mentionsOfAll h, Proposition.places]
  | .or operands, found, h => by
    rw [Proposition.mentions] at h
    rw [registers_of_mentionsOfAll h, Proposition.places]
  | .implies left right, found, h => by
    rw [Proposition.mentions] at h
    obtain ⟨first, hfirst, h⟩ := bind_eq_ok.mp h
    obtain ⟨second, hsecond, h⟩ := bind_eq_ok.mp h
    obtain rfl := Except.ok.inj h
    rw [List.filterMap_append, registers_of_mentions hfirst, registers_of_mentions hsecond,
      Proposition.places, List.filterMap_append]

theorem registers_of_mentionsOfAll : ∀ {operands : List Proposition} {found : List Resolved},
    mentionsOfAll operands = .ok found →
      found.filterMap Resolved.register? = (placesOfAll operands).filterMap Location.register?
  | [], found, h => by
    rw [mentionsOfAll] at h
    obtain rfl := Except.ok.inj h
    rfl
  | operand :: operands, found, h => by
    rw [mentionsOfAll] at h
    obtain ⟨first, hfirst, h⟩ := bind_eq_ok.mp h
    obtain ⟨rest, hrest, h⟩ := bind_eq_ok.mp h
    obtain rfl := Except.ok.inj h
    rw [List.filterMap_append, registers_of_mentions hfirst, registers_of_mentionsOfAll hrest,
      placesOfAll, List.filterMap_append]

end

/-- No connective is a reference. -/
theorem register?_list_of_head {head : String} (hregister : head ≠ "register")
    (hmemory : head ≠ "last_write_to") (items : List Sexpr) :
    (Sexpr.list (.atom head :: items)).register? = none := by
  have h : (Sexpr.list (.atom head :: items)).reference? = none := by
    unfold Sexpr.reference?
    split
    · rename_i heq
      simp only [Sexpr.list.injEq, List.cons.injEq, Sexpr.atom.injEq] at heq
      exact absurd heq.1 hregister
    · rename_i heq
      simp only [Sexpr.list.injEq, List.cons.injEq, Sexpr.atom.injEq] at heq
      exact absurd heq.1 hmemory
    · rfl
  rw [Sexpr.register?, h]
  rfl

/-- A connective refers to what its operands refer to. -/
theorem registers_list_of_head {head : String} (hregister : head ≠ "register")
    (hmemory : head ≠ "last_write_to") (items : List Sexpr) :
    (Sexpr.list (.atom head :: items)).registers = registersOfAll items := by
  rw [Sexpr.registers, register?_list_of_head hregister hmemory, registersOfAll, Sexpr.registers]
  rfl

@[simp] theorem registers_term (place : Resolved) :
    place.term.registers = place.register?.toList := by
  have hreference : place.term.register? = place.register? := by
    rw [Sexpr.register?, reference?_term]
    rfl
  cases place with
  | register thread name =>
    rw [Resolved.term] at hreference ⊢
    rw [Sexpr.registers, hreference]
    simp [registersOfAll, Sexpr.registers, Resolved.register?]
  | memory name =>
    rw [Resolved.term] at hreference ⊢
    rw [Sexpr.registers, hreference]
    simp [registersOfAll, Sexpr.registers, Resolved.register?]

mutual

/-- The second walk: an assertion refers to the registers of its proposition, in their order. -/
theorem registers_assertion : ∀ {proposition : Proposition} {assertion : Sexpr},
    proposition.assertion = .ok assertion →
      assertion.registers = proposition.places.filterMap Location.register?
  | .holds location constant, assertion, h => by
    obtain ⟨place, text, hplace, -, rfl⟩ := assertion_holds h
    have hregister : place.register? = location.register? := register?_of_resolve hplace
    rw [registers_list_of_head (by decide) (by decide), Proposition.places]
    cases hlocation : location.register? <;>
      simp [registersOfAll, Sexpr.registers, hregister, hlocation]
  | .agree left right, assertion, h => (assertion_agree h).elim
  | .not operand, assertion, h => by
    obtain ⟨term, hterm, rfl⟩ := assertion_not h
    rw [registers_list_of_head (by decide) (by decide), registersOfAll, registers_assertion hterm,
      Proposition.places]
    simp [registersOfAll]
  | .and operands, assertion, h => by
    obtain ⟨terms, hterms, rfl⟩ := assertion_and h
    rw [registers_list_of_head (by decide) (by decide), registers_assertionsOfAll hterms,
      Proposition.places]
  | .or operands, assertion, h => by
    obtain ⟨terms, hterms, rfl⟩ := assertion_or h
    rw [registers_list_of_head (by decide) (by decide), registers_assertionsOfAll hterms,
      Proposition.places]
  | .implies left right, assertion, h => by
    obtain ⟨first, second, hfirst, hsecond, rfl⟩ := assertion_implies h
    rw [registers_list_of_head (by decide) (by decide), registersOfAll, registersOfAll,
      registers_assertion hfirst, registers_assertion hsecond, Proposition.places,
      List.filterMap_append]
    simp [registersOfAll]

theorem registers_assertionsOfAll : ∀ {operands : List Proposition} {terms : List Sexpr},
    assertionsOfAll operands = .ok terms →
      registersOfAll terms = (placesOfAll operands).filterMap Location.register?
  | [], terms, h => by
    obtain rfl := assertionsOfAll_nil h
    rfl
  | operand :: operands, terms, h => by
    obtain ⟨first, rest, hfirst, hrest, rfl⟩ := assertionsOfAll_cons h
    rw [registersOfAll, registers_assertion hfirst, registers_assertionsOfAll hrest, placesOfAll,
      List.filterMap_append]

end

/-! ## Slots -/

/-- The register that a slot stands for. -/
def Slot.place (slot : Slot) : Int × String :=
  (slot.thread, slot.register)

/-- There is one slot for each register of a list, in the order of first occurrence, and the slots
are numbered from zero. -/
structure SlotsFor (registers : List (Int × String)) (slots : List Slot) : Prop where
  places : FirstOccurrences registers (slots.map Slot.place)
  names : ∀ (n : Nat) (slot : Slot), slots[n]? = some slot → slot.name = "output " ++ toString n

/-- The registers determine their slots. -/
theorem SlotsFor.unique {registers : List (Int × String)} {slots slots' : List Slot}
    (h : SlotsFor registers slots) (h' : SlotsFor registers slots') : slots = slots' := by
  have hplaces := h.places.unique h'.places
  refine List.ext_getElem? fun n => ?_
  have hplace : (slots[n]?).map Slot.place = (slots'[n]?).map Slot.place := by
    rw [← List.getElem?_map, ← List.getElem?_map, hplaces]
  cases hslot : slots[n]? with
  | none =>
    rw [hslot] at hplace
    exact (Option.map_eq_none_iff.mp hplace.symm).symm
  | some slot =>
    rw [hslot] at hplace
    obtain ⟨slot', hslot', heq⟩ := Option.map_eq_some_iff.mp hplace.symm
    obtain ⟨hthread, hregister⟩ := Prod.mk.inj heq
    have hname : slot'.name = slot.name := (h'.names n slot' hslot').trans (h.names n slot hslot).symm
    rw [hslot']
    cases slot
    cases slot'
    cases hthread
    cases hregister
    cases hname
    rfl

@[simp] theorem map_place_slotsOf (locations : List Resolved) :
    (slotsOf locations).map Slot.place = locations.filterMap Resolved.register? := by
  rw [slotsOf, List.map_map]
  conv => rhs; rw [← List.zipIdx_map_fst 0 (locations.filterMap Resolved.register?)]
  refine List.map_congr_left ?_
  rintro ⟨⟨thread, register⟩, n⟩ -
  rfl

theorem name_of_getElem?_slotsOf {locations : List Resolved} {n : Nat} {slot : Slot}
    (h : (slotsOf locations)[n]? = some slot) : slot.name = slotName n := by
  rw [slotsOf, List.getElem?_map, List.getElem?_zipIdx, Nat.zero_add] at h
  obtain ⟨⟨register, m⟩, hregister, rfl⟩ := Option.map_eq_some_iff.mp h
  obtain ⟨_, _, heq⟩ := Option.map_eq_some_iff.mp hregister
  obtain ⟨-, rfl⟩ := Prod.mk.inj heq
  rfl

/-- What a proposition mentions, each once, has the registers of the proposition, each once. -/
theorem registers_of_locations {proposition : Proposition} {locations : List Resolved}
    (h : proposition.locations = .ok locations) :
    locations.filterMap Resolved.register? = proposition.registers.eraseDups := by
  obtain ⟨found, hfound, rfl⟩ := map_eq_ok.mp h
  have hregister : ∀ a a' b, Resolved.register? a = some b → Resolved.register? a' = some b →
      a = a' := by
    intro a a' b ha ha'
    cases a with
    | memory name => cases ha
    | register thread name =>
      cases a' with
      | memory name => cases ha'
      | register thread' name' =>
        obtain ⟨rfl, rfl⟩ := Prod.mk.inj (Option.some.inj (ha.trans ha'.symm))
        rfl
  rw [filterMap_eraseDups hregister, registers_of_mentions hfound, Proposition.registers]

theorem slotsFor_slotsOf {proposition : Proposition} {locations : List Resolved}
    (h : proposition.locations = .ok locations) :
    SlotsFor proposition.registers (slotsOf locations) := by
  refine ⟨?_, fun n slot hslot => name_of_getElem?_slotsOf hslot⟩
  rw [map_place_slotsOf, registers_of_locations h]
  exact firstOccurrences_eraseDups proposition.registers

/-! ## Looking a slot up -/

/-- Where every register has one slot, the slot that is found is the only one there is. -/
theorem slotOf_eq_ok_iff {slots : List Slot} (hnodup : (slots.map Slot.place).Nodup)
    {thread : Int} {register name : String} :
    slotOf slots thread register = .ok name ↔ ⟨thread, name, register⟩ ∈ slots := by
  rw [slotOf]
  constructor
  · intro h
    split at h
    · rename_i slot hfind
      have htest := List.find?_some hfind
      simp only [decide_eq_true_eq] at htest
      obtain ⟨rfl, rfl⟩ := htest
      obtain rfl := Except.ok.inj h
      exact List.mem_of_find?_eq_some hfind
    · cases h
  · intro h
    split
    · rename_i slot hfind
      have htest := List.find?_some hfind
      simp only [decide_eq_true_eq] at htest
      -- the slot that was found stands for the same register, so it is the same slot
      have hplace : slot.place = Slot.place ⟨thread, name, register⟩ := Prod.ext htest.1 htest.2
      have heq : slot = ⟨thread, name, register⟩ :=
        List.inj_on_of_nodup_map hnodup (List.mem_of_find?_eq_some hfind) h hplace
      rw [heq]
    · rename_i hfind
      have htest := List.find?_eq_none.mp hfind _ h
      simp at htest

theorem slotOf_eq_error_iff {slots : List Slot} {thread : Int} {register : String} :
    slotOf slots thread register = .error ⟨thread, register⟩ ↔
      (thread, register) ∉ slots.map Slot.place := by
  rw [slotOf]
  split
  · rename_i slot hfind
    have htest := List.find?_some hfind
    simp only [decide_eq_true_eq] at htest
    have hmem : (thread, register) ∈ slots.map Slot.place :=
      List.mem_map.mpr ⟨slot, List.mem_of_find?_eq_some hfind, Prod.ext htest.1 htest.2⟩
    constructor
    · intro h
      cases h
    · intro h
      exact absurd hmem h
  · rename_i hfind
    constructor
    · rintro - hmem
      obtain ⟨slot, hslot, hplace⟩ := List.mem_map.mp hmem
      obtain ⟨hthread, hregister⟩ := Prod.mk.inj hplace
      have htest := List.find?_eq_none.mp hfind slot hslot
      simp [hthread, hregister] at htest
    · intro _
      rfl

/-! ## The slots of a question -/

/-- The slots of a question are those of the registers that its assertion refers to. The negation
that a universal condition puts in front refers to nothing more. -/
theorem slotsFor_finalState {condition : Condition} {state : FinalState}
    (h : condition.finalState = .ok state) : SlotsFor state.assertion.registers state.slots := by
  -- one proof for a proposition under either verdict
  have hbody : ∀ {body : Proposition} {expect : Verdict} {question : FinalState},
      FinalState.ofProposition body expect = .ok question →
        SlotsFor question.assertion.registers question.slots := by
    intro body expect question hquestion
    obtain ⟨locations, hlocations, hslots, hassertion, -⟩ := ofProposition_eq_ok hquestion
    rw [hslots, registers_assertion hassertion]
    exact slotsFor_slotsOf hlocations
  cases condition with
  | someState body => exact hbody h
  | noState body => exact hbody h
  | everyState body =>
    obtain ⟨question, hquestion, h⟩ := bind_eq_ok.mp h
    obtain rfl := Except.ok.inj h
    show SlotsFor (Sexpr.list [.atom "not", question.assertion]).registers question.slots
    rw [registers_list_of_head (by decide) (by decide), registersOfAll, registersOfAll,
      List.append_nil]
    exact hbody hquestion

/-- **Slots and assertions agree.** For a proposition, the slots are those of the registers in its
atoms, and looking a register up finds its slot, or fails if the register is not there. For a
question, the slots are those of the registers that its assertion refers to. -/
theorem slots_firstOccurrences :
    (∀ (proposition : Proposition) (locations : List Resolved),
      proposition.locations = .ok locations →
        SlotsFor proposition.registers (slotsOf locations) ∧
        ∀ thread register,
          (∀ name, slotOf (slotsOf locations) thread register = .ok name ↔
            ⟨thread, name, register⟩ ∈ slotsOf locations) ∧
          (slotOf (slotsOf locations) thread register = .error ⟨thread, register⟩ ↔
            (thread, register) ∉ proposition.registers)) ∧
    (∀ (condition : Condition) (state : FinalState), condition.finalState = .ok state →
      SlotsFor state.assertion.registers state.slots) := by
  refine ⟨?_, fun condition state h => slotsFor_finalState h⟩
  intro proposition locations h
  have hslots := slotsFor_slotsOf h
  refine ⟨hslots, fun thread register => ⟨fun name => ?_, ?_⟩⟩
  · exact slotOf_eq_ok_iff hslots.places.nodup
  · rw [slotOf_eq_error_iff, hslots.places.mem_iff]

/-- The statement for `x = 0 /\ 1:r = 1 /\ 0:r = 1 /\ 1:r = 2` and for the condition that every
state satisfies it: the name takes no number, and the register that comes again no second one. -/
theorem slots_firstOccurrences_conjunction :
    SlotsFor [(1, "r"), (0, "r"), (1, "r")] [⟨1, "output 0", "r"⟩, ⟨0, "output 1", "r"⟩] ∧
    SlotsFor (Sexpr.list [.atom "not", .list [.atom "and",
        .list [.atom "=", .list [.atom "last_write_to", .atom "x"], .atom "0"],
        .list [.atom "=", .list [.atom "register", .atom "r", .atom "1"], .atom "1"],
        .list [.atom "=", .list [.atom "register", .atom "r", .atom "0"], .atom "1"],
        .list [.atom "=", .list [.atom "register", .atom "r", .atom "1"], .atom "2"]]]).registers
      [⟨1, "output 0", "r"⟩, ⟨0, "output 1", "r"⟩] := by
  have hfirst := (slots_firstOccurrences.1
    (.and [.holds (.global (.symbolic "x")) (.concrete "0"),
      .holds (.register 1 "r") (.concrete "1"), .holds (.register 0 "r") (.concrete "1"),
      .holds (.register 1 "r") (.concrete "2")])
    [.memory "x", .register 1 "r", .register 0 "r"] rfl).1
  have hsecond := slots_firstOccurrences.2
    (.everyState (.and [.holds (.global (.symbolic "x")) (.concrete "0"),
      .holds (.register 1 "r") (.concrete "1"), .holds (.register 0 "r") (.concrete "1"),
      .holds (.register 1 "r") (.concrete "2")]))
    _ rfl
  exact ⟨hfirst, hsecond⟩

end Litmus
