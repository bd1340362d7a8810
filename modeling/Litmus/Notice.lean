import Litmus.Location

/-!
# Notices

What a step of the work has to say besides its result. A notice has a level: it is shown to a reader
whose verbosity is above that level. Readers who want to know most are shown the site of the notice too,
the place in the program where it is told.

`Traced` is a computation that leaves notices on its way and then gives a result or fails; the
notices stay even if it fails. `outcome_bind` says what sequencing gives.
-/

namespace Litmus

/-! ## Notices -/

/-- Something worth telling. -/
inductive Notice where
  /-- A test with so many threads has been read. -/
  | parsed (test : String) (threads : Nat)
  /-- An initial assignment is not part of the record. -/
  | dropped (location : Location)
  /-- The output slots of a test, and the verdict that is expected. -/
  | outputs (test : String) (slots : List String) (verdict : String)
  /-- The record of an input has been written to a file of its own. -/
  | saved (input file : String)
  /-- So many of all inputs have been compiled. -/
  | compiled (count total : Nat)

namespace Notice

/-- The level of a notice. -/
def level : Notice → Int
  | .parsed .. | .dropped _ => 2
  | .outputs .. | .saved .. | .compiled .. => 1

/-- The wording of a notice. -/
def message : Notice → String
  | .parsed test threads =>
    "Parsed litmus test \"" ++ test ++ "\" with " ++ toString threads ++ " thread(s)"
  | .dropped location => "Dropping initial assignment to " ++ location.spelling
  | .outputs test slots verdict =>
    "Test \"" ++ test ++ "\": outputs [" ++ String.intercalate ", " slots ++ "], expecting "
      ++ verdict
  | .saved input file => "Record of \"" ++ input ++ "\" saved in \"" ++ file ++ "\""
  | .compiled count total =>
    "Translated " ++ toString count ++ " of " ++ toString total ++ " test(s)"

end Notice

/-- A place in the text of a program. -/
structure Site where
  file : String
  line : Nat

/-! ## Computations that leave notices -/

/-- A result or a failure, with the notices that were left before it. -/
structure Traced (ε α : Type) where
  notices : List Notice
  outcome : Except ε α

namespace Traced

variable {ε α β : Type}

/-- A computation without notices. -/
def ofExcept (outcome : Except ε α) : Traced ε α :=
  ⟨[], outcome⟩

/-- The computation that only leaves a notice. -/
def note (notice : Notice) : Traced ε Unit :=
  ⟨[notice], .ok ()⟩

instance : Monad (Traced ε) where
  pure a := ⟨[], .ok a⟩
  bind x f :=
    match x.outcome with
    | .error e => ⟨x.notices, .error e⟩
    | .ok a => ⟨x.notices ++ (f a).notices, (f a).outcome⟩

instance : MonadExceptOf ε (Traced ε) where
  throw e := ⟨[], .error e⟩
  tryCatch x handle :=
    match x.outcome with
    | .ok _ => x
    | .error e => ⟨x.notices ++ (handle e).notices, (handle e).outcome⟩

instance : MonadLift (Except ε) (Traced ε) where
  monadLift := ofExcept

/-- The same computation with its failures named anew. -/
def mapError {ε' : Type} (f : ε → ε') (x : Traced ε α) : Traced ε' α :=
  ⟨x.notices, x.outcome.mapError f⟩

/-! ### What sequencing does -/

@[simp] theorem outcome_pure (a : α) : (pure a : Traced ε α).outcome = .ok a := rfl

@[simp] theorem notices_pure (a : α) : (pure a : Traced ε α).notices = [] := rfl

@[simp] theorem outcome_note (notice : Notice) : (note notice : Traced ε Unit).outcome = .ok () :=
  rfl

@[simp] theorem outcome_ofExcept (x : Except ε α) : (ofExcept x).outcome = x := rfl

@[simp] theorem outcome_throw (e : ε) : (throw e : Traced ε α).outcome = .error e := rfl

/-- Notices apart, sequencing is that of `Except`. -/
theorem outcome_bind (x : Traced ε α) (f : α → Traced ε β) :
    (x >>= f).outcome = x.outcome >>= fun a => (f a).outcome := by
  cases h : x.outcome <;> simp [bind, Except.bind, h]

end Traced

end Litmus
