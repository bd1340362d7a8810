import Litmus.Proofs.Grammar

/-!
# What can be written

The locations, constants and propositions for which something can be written, and one way to write
each of them: registers and numbers in decimal digits, memory always between brackets, every
compound proposition between parentheses.

* **`Constant.Readable`**, **`Location.Readable`**, **`Proposition.Readable`**: the shapes.
* **`Constant.written`**, **`Location.written`**, **`Proposition.written`**: the texts.
* **`Constant.Readable.written`** and its likes: the texts are written for what they show.
-/

namespace Litmus

open Source Text

/-! ## Constants and locations -/

/-- The decimal digits of a number that is not negative. -/
def decimal (n : Int) : List Char :=
  Nat.toDigits 10 n.toNat

theorem isDigits_decimal (n : Int) : IsDigits (decimal n) :=
  isDigits_toDigits n.toNat

theorem naturalOf_decimal {n : Int} (h : 0 ≤ n) : (naturalOf (decimal n) : Int) = n := by
  rw [decimal, naturalOf_toDigits, Int.toNat_of_nonneg h]

/-- The constants that something is written for. -/
def Constant.Readable : Constant → Prop
  | .concrete text => IsNumber text.toList
  | .symbolic name => IsName name.toList
  | .label thread name => 0 ≤ thread ∧ IsLabelName name.toList

/-- The text of a constant. -/
def Constant.written : Constant → List Char
  | .concrete text => text.toList
  | .symbolic name => name.toList
  | .label thread name => 'P' :: (decimal thread ++ ':' :: name.toList)

theorem Constant.Readable.written {value : Constant} (h : value.Readable) :
    WrittenConstant value value.written := by
  cases value with
  | concrete text =>
    have hw := WrittenConstant.concrete (w := text.toList) h
    rwa [String.ofList_toList] at hw
  | symbolic name =>
    have hw := WrittenConstant.symbolic (w := name.toList) h
    rwa [String.ofList_toList] at hw
  | label thread name =>
    have hw := WrittenConstant.label (isDigits_decimal thread) h.2
    rwa [naturalOf_decimal h.1, String.ofList_toList] at hw

/-- The locations that something is written for. -/
def Location.Readable : Location → Prop
  | .register thread name => 0 ≤ thread ∧ IsRegisterName name.toList
  | .symbolicRegister name => IsName name.toList
  | .global (.concrete text) => IsNumber text.toList
  | .global (.symbolic name) => IsName name.toList
  | .cell (.symbolic name) index => IsName name.toList ∧ 0 ≤ index
  | _ => False

/-- Whether a location is no cell. -/
def Location.Marked : Location → Prop
  | .cell _ _ => False
  | _ => True

/-- A location that is no cell whose name reads as a keyword. -/
def Location.Leads : Location → Prop
  | .cell (.symbolic name) _ => ¬ ReadsAsKeyword name.toList
  | _ => True

/-- The text of a location. -/
def Location.written : Location → List Char
  | .register thread name => decimal thread ++ ':' :: name.toList
  | .symbolicRegister name => '%' :: name.toList
  | .global address => '[' :: (address.written ++ [']'])
  | .cell base index => base.written ++ '[' :: (decimal index ++ [']'])

theorem Location.Readable.marked {place : Location} (h : place.Readable) (hmarked : place.Marked) :
    WrittenMarked place place.written := by
  match place, h with
  | .register thread name, h =>
    have hw := WrittenMarked.register (isDigits_decimal thread) Blanks.nil Blanks.nil h.2
    rwa [naturalOf_decimal h.1, String.ofList_toList] at hw
  | .symbolicRegister name, h =>
    have hw := WrittenMarked.symbolicRegister Blanks.nil h
    rwa [String.ofList_toList] at hw
  | .global (.concrete text), h =>
    have hw := WrittenMarked.number Blanks.nil Blanks.nil h
    rwa [String.ofList_toList] at hw
  | .global (.symbolic name), h =>
    have hw := WrittenMarked.name Blanks.nil Blanks.nil h
    rwa [String.ofList_toList] at hw
  | .cell (.symbolic _) _, _ => exact absurd hmarked id

theorem Location.Readable.written {allowed : List Char → Prop} {place : Location}
    (h : place.Readable) (hallowed : ∀ name index, place = .cell (.symbolic name) index →
      allowed name.toList) : WrittenLocation allowed place place.written := by
  match place, h with
  | .register _ _, h => exact .marked (Location.Readable.marked h trivial)
  | .symbolicRegister _, h => exact .marked (Location.Readable.marked h trivial)
  | .global (.concrete _), h => exact .marked (Location.Readable.marked h trivial)
  | .global (.symbolic _), h => exact .marked (Location.Readable.marked h trivial)
  | .cell (.symbolic name) index, h =>
    have hw := WrittenLocation.cell h.1 (hallowed name index rfl) Blanks.nil Blanks.nil
      (isDigits_decimal index) Blanks.nil
    rwa [naturalOf_decimal h.2, String.ofList_toList] at hw

/-! ## Propositions -/

/-- The propositions that something is written for: no connective stands for one operand alone, and
an atom does not start like a keyword. -/
inductive Proposition.Readable : Proposition → Prop
  | holds {place : Location} {value : Constant} (hplace : place.Readable) (hleads : place.Leads)
      (hvalue : value.Readable) : Readable (.holds place value)
  | agree {left right : Location} (hleft : left.Readable) (hleads : left.Leads)
      (hright : right.Readable) (hmarked : right.Marked) : Readable (.agree left right)
  | not {p : Proposition} (h : Readable p) : Readable (.not p)
  | and {ps : List Proposition} (hlen : ps.length ≠ 1) (h : ∀ p ∈ ps, Readable p) :
      Readable (.and ps)
  | or {ps : List Proposition} (hlen : ps.length ≠ 1) (h : ∀ p ∈ ps, Readable p) :
      Readable (.or ps)
  | implies {p q : Proposition} (hp : Readable p) (hq : Readable q) : Readable (.implies p q)

mutual

/-- The text of a proposition. -/
def Proposition.written : Proposition → List Char
  | .holds place value => place.written ++ '=' :: value.written
  | .agree left right => left.written ++ '=' :: right.written
  | .not p => '~' :: p.written
  | .and ps =>
    if ps.isEmpty then "true".toList
    else '(' :: (['/', '\\'].intercalate (writtenOfAll ps) ++ [')'])
  | .or ps =>
    if ps.isEmpty then "false".toList
    else '(' :: (['\\', '/'].intercalate (writtenOfAll ps) ++ [')'])
  | .implies p q => '(' :: (p.written ++ '=' :: '>' :: (q.written ++ [')']))

/-- The texts of the propositions of a list. -/
def writtenOfAll : List Proposition → List (List Char)
  | [] => []
  | p :: ps => p.written :: writtenOfAll ps

end

theorem writtenOfAll_eq_map (ps : List Proposition) : writtenOfAll ps = ps.map Proposition.written := by
  induction ps with
  | nil => rfl
  | cons p ps ih => rw [writtenOfAll, ih, List.map_cons]

theorem joined_intercalate {mark : List Char} {texts : List (List Char)} (hne : texts ≠ []) :
    Joined mark texts (mark.intercalate texts) := by
  induction texts with
  | nil => exact absurd rfl hne
  | cons s texts ih =>
    cases texts with
    | nil =>
      rw [List.intercalate_singleton]
      exact .one s
    | cons next texts =>
      rw [List.intercalate_cons_cons, List.append_assoc]
      exact .more Blanks.nil Blanks.nil (ih (by simp))

theorem Location.Readable.leading {place : Location} (h : place.Readable) (hleads : place.Leads) :
    WrittenLocation (fun n => ¬ ReadsAsKeyword n) place place.written := by
  refine h.written ?_
  rintro name index rfl
  exact hleads

/-- The propositions of a list with their texts. -/
def withTexts (ps : List Proposition) : List (Proposition × List Char) :=
  ps.map fun p => (p, p.written)

theorem map_fst_withTexts (ps : List Proposition) : (withTexts ps).map (·.1) = ps := by
  rw [withTexts, List.map_map]
  exact List.map_id ps

theorem map_snd_withTexts (ps : List Proposition) : (withTexts ps).map (·.2) = writtenOfAll ps := by
  rw [withTexts, List.map_map, writtenOfAll_eq_map]
  rfl

theorem written_withTexts {level : Level} {ps : List Proposition}
    (h : ∀ p ∈ ps, Written level p p.written) :
    ∀ part ∈ withTexts ps, Written level part.1 part.2 := by
  intro part hpart
  obtain ⟨p, hp, rfl⟩ := List.mem_map.mp hpart
  exact h p hp

theorem joined_writtenOfAll {mark : List Char} {ps : List Proposition} (hne : ps ≠ []) :
    Joined mark ((withTexts ps).map (·.2)) (mark.intercalate (writtenOfAll ps)) := by
  rw [map_snd_withTexts]
  refine joined_intercalate fun hnil => hne ?_
  rw [writtenOfAll_eq_map] at hnil
  exact List.map_eq_nil_iff.mp hnil

theorem two_le_length_withTexts {ps : List Proposition} (hlen : ps.length ≠ 1) (hne : ps ≠ []) :
    2 ≤ (withTexts ps).length := by
  have hpos := List.length_pos_iff.mpr hne
  rw [withTexts, List.length_map]
  omega

theorem Proposition.Readable.written {p : Proposition} (h : p.Readable) :
    Written .negation p p.written := by
  -- every compound is written between parentheses, so it fits wherever a negation does
  induction h with
  | holds hplace hleads hvalue =>
    rw [Proposition.written]
    exact .holds (hplace.leading hleads) Blanks.nil Blanks.nil hvalue.written
  | agree hleft hleads hright hmarked =>
    rw [Proposition.written]
    exact .agree (hleft.leading hleads) Blanks.nil Blanks.nil (hright.marked hmarked)
  | not _ ih =>
    rw [Proposition.written]
    exact .not Blanks.nil ih
  | @and ps hlen _ ih =>
    rw [Proposition.written]
    cases hps : ps with
    | nil => exact .truth
    | cons p rest =>
      rw [← hps]
      have hne : ps ≠ [] := by simp [hps]
      have hbody := Written.and (two_le_length_withTexts hlen hne) (written_withTexts ih)
        (joined_writtenOfAll hne)
      have hwhole := Written.parentheses Blanks.nil Blanks.nil (.implication (.disjunction hbody))
      rw [map_fst_withTexts] at hwhole
      rw [if_neg (by simpa using hne)]
      exact hwhole
  | @or ps hlen _ ih =>
    rw [Proposition.written]
    cases hps : ps with
    | nil => exact .falsity
    | cons p rest =>
      rw [← hps]
      have hne : ps ≠ [] := by simp [hps]
      have hbody := Written.or (two_le_length_withTexts hlen hne)
        (written_withTexts fun p hp => .conjunction (ih p hp)) (joined_writtenOfAll hne)
      have hwhole := Written.parentheses Blanks.nil Blanks.nil (.implication hbody)
      rw [map_fst_withTexts] at hwhole
      rw [if_neg (by simpa using hne)]
      exact hwhole
  | implies _ _ ihp ihq =>
    have hbody := Written.implies Blanks.nil Blanks.nil (.disjunction (.conjunction ihp))
      (.implication (.disjunction (.conjunction ihq)))
    have hwhole := Written.parentheses Blanks.nil Blanks.nil hbody
    simpa [Proposition.written] using hwhole

/-! ## Conditions -/

/-- What a condition states of a final state or of all of them. -/
def Condition.body : Condition → Proposition
  | .someState body => body
  | .noState body => body
  | .everyState body => body

end Litmus
