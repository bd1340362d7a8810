import Litmus.Proofs.Sequence
import Litmus.Source.Reader

/-!
# What stands before the table

The parts of a test in front of its thread table are read first, up to the brace that closes the
initial state. The table and the condition are looked for in the lines behind that brace, and they
are read from these lines alone.

* **`mapM_shaped_eq_ok`**: several texts are read by one grammar if each of them has its shape.
* **`Preamble`**: the parts of a test without its threads and its condition.
* **`readPreamble`**: what is read first. **`readPreamble_eq_ok`**: part by part.
* **`readTest_eq_preamble`**: reading is this, the table and the condition.
-/

namespace Litmus.Source

open Litmus.Text

/-! ## Shapes -/

section

variable {α : Type} {part : Part} {read? : List Char → Option α}

theorem shaped_eq_ok {text : List Char} {a : α} :
    shaped part read? text = .ok a ↔ read? text = some a := by
  rw [shaped]
  cases read? text <;> simp

theorem shaped_error {text : List Char} {fault : Fault}
    (h : shaped part read? text = .error fault) :
    fault = .malformed ⟨part, String.ofList text⟩ := by
  rw [shaped] at h
  split at h
  · cases h
  · exact (Except.error.inj h).symm

/-- Several texts are read if each of them has the shape of the part. -/
theorem mapM_shaped_eq_ok {texts : List (List Char)} {as : List α} :
    texts.mapM (shaped part read?) = .ok as ↔
      List.Forall₂ (fun text a => read? text = some a) texts as := by
  simp only [mapM_eq_ok_iff, shaped_eq_ok]

/-- What several texts give is given by one of them. -/
theorem exists_of_mem_shaped {texts : List (List Char)} {as : List α}
    (h : texts.mapM (shaped part read?) = .ok as) {a : α} (ha : a ∈ as) :
    ∃ text ∈ texts, read? text = some a :=
  exists_of_forall₂_right (mapM_shaped_eq_ok.mp h) ha

/-- If they are not read, one of them is at fault. -/
theorem mapM_shaped_error {texts : List (List Char)} {fault : Fault}
    (h : texts.mapM (shaped part read?) = .error fault) :
    ∃ text ∈ texts, fault = .malformed ⟨part, String.ofList text⟩ := by
  induction texts with
  | nil => cases h
  | cons text texts ih =>
    rw [List.mapM_cons] at h
    rcases bind_eq_error.mp h with h | ⟨_, -, h⟩
    · exact ⟨text, List.mem_cons_self, shaped_error h⟩
    · rcases bind_eq_error.mp h with h | ⟨_, -, h⟩
      · obtain ⟨other, hother, hfault⟩ := ih h
        exact ⟨other, List.mem_cons_of_mem text hother, hfault⟩
      · cases h

end

/-! ## What is read first -/

/-- A test without its threads and its condition. -/
structure Preamble where
  arch : String
  name : String
  info : List (String × String)
  init : List (Location × Constant)
  doc : Option String

/-- The test with these threads and this condition. -/
def Preamble.test (p : Preamble) (threads : List (Int × List Pseudo)) (condition : Condition) : Test :=
  ⟨p.arch, p.name, p.info, p.init, threads, condition, p.doc⟩

/-- What stands before the closing brace of the initial state, and the lines behind it. -/
def readPreamble (lines : List (List Char)) : Except Fault (Preamble × List (List Char)) := do
  match lines with
  | [] => throw .empty
  | line :: rest =>
    let (arch, name) ← shaped .header header? line
    if name.isEmpty then throw (.missingName (String.ofList line))
    let (doc, rest) ← takeDoc rest
    let info ← infoOf rest
    let (init, rest) ← braced rest
    let init ← readInit init
    return (⟨String.ofList arch, String.ofList name, info, init, doc⟩, splitAt '\n' rest)

/-- A test is read in three steps. -/
theorem readTest_eq_preamble (s : List Char) :
    readTest s = do
      let (p, lines) ← readPreamble (skipBlankLines (textLines s))
      let threads ← readTable (tableRows lines)
      let condition ← readCondition (afterTable lines)
      return p.test threads condition := by
  unfold readTest readPreamble
  cases skipBlankLines (textLines s) with
  | nil => rfl
  | cons line rest =>
    simp only [bind_assoc]
    refine bind_congr fun header => ?_
    cases header.2.isEmpty with
    | true => rfl
    | false => simp only [Bool.false_eq_true, if_false, bind_assoc, pure_bind, Preamble.test]

/-- What has been read in front of a table, part by part. -/
theorem readPreamble_eq_ok {lines after : List (List Char)} {p : Preamble} :
    readPreamble lines = .ok (p, after) ↔
      ∃ line rest arch name doc rest₁ info init rest₂ assignments,
        lines = line :: rest ∧ header? line = some (arch, name) ∧ name ≠ [] ∧
        takeDoc rest = .ok (doc, rest₁) ∧ infoOf rest₁ = .ok info ∧
        braced rest₁ = .ok (init, rest₂) ∧ readInit init = .ok assignments ∧
        splitAt '\n' rest₂ = after ∧
        (⟨String.ofList arch, String.ofList name, info, assignments, doc⟩ : Preamble) = p := by
  constructor
  · intro h
    unfold readPreamble at h
    cases lines with
    | nil => cases h
    | cons line rest =>
      obtain ⟨⟨arch, name⟩, hheader, h⟩ := bind_eq_ok.mp h
      cases hname : name.isEmpty with
      | true =>
        simp only [hname] at h
        cases h
      | false =>
        simp only [hname] at h
        obtain ⟨⟨doc, rest₁⟩, hdoc, h⟩ := bind_eq_ok.mp h
        obtain ⟨info, hinfo, h⟩ := bind_eq_ok.mp h
        obtain ⟨⟨init, rest₂⟩, hbraced, h⟩ := bind_eq_ok.mp h
        obtain ⟨assignments, hassign, h⟩ := bind_eq_ok.mp h
        obtain ⟨hp, hafter⟩ := Prod.mk.inj (Except.ok.inj h)
        have hne : name ≠ [] := fun e => by simp [e] at hname
        exact ⟨line, rest, arch, name, doc, rest₁, info, init, rest₂, assignments, rfl,
          shaped_eq_ok.mp hheader, hne, hdoc, hinfo, hbraced, hassign, hafter, hp⟩
  · rintro ⟨line, rest, arch, name, doc, rest₁, info, init, rest₂, assignments, rfl, hheader, hne,
      hdoc, hinfo, hbraced, hassign, rfl, rfl⟩
    have hname : name.isEmpty = false := by simpa using hne
    refine bind_eq_ok.mpr ⟨(arch, name), shaped_eq_ok.mpr hheader, ?_⟩
    simp only [hname]
    exact bind_eq_ok.mpr ⟨(doc, rest₁), hdoc, bind_eq_ok.mpr ⟨info, hinfo, bind_eq_ok.mpr
      ⟨(init, rest₂), hbraced, bind_eq_ok.mpr ⟨assignments, hassign, rfl⟩⟩⟩⟩

end Litmus.Source
