import Litmus.Program
import Litmus.Proofs.Places

/-!
# Actions in a world

What the surroundings look like after a run has done its actions. Printing and saving do not get in
each other's way, so the actions of a run may be taken apart into what is printed on each of the two
streams and what is saved, in order.

* **`performAll_saves`**: actions that make no directories, and whose files can be written, print what
  they print and save what they save.
-/

namespace Litmus

/-! ## Saving -/

/-- The path and the text of an action that saves a file. -/
def Action.save? : Action → Option (String × String)
  | .save path text => some (path, text)
  | _ => none

/-- What some actions save. -/
def savesOf (actions : List Action) : List (String × String) :=
  actions.filterMap Action.save?

@[simp] theorem savesOf_append (first second : List Action) :
    savesOf (first ++ second) = savesOf first ++ savesOf second :=
  List.filterMap_append

@[simp] theorem savesOf_print (stream : Stream) (texts : List String) :
    savesOf (texts.map (.print stream)) = [] := by
  rw [savesOf, List.filterMap_map]
  exact List.filterMap_eq_nil_iff.mpr fun _ _ => rfl

theorem savesOf_save (saves : List (String × String)) :
    savesOf (saves.map fun save => .save save.1 save.2) = saves := by
  rw [savesOf, List.filterMap_map]
  exact List.filterMap_some

/-- Whether an action makes directories. -/
def Action.makesDirectories : Action → Bool
  | .makeDirectories _ => true
  | _ => false

theorem makesDirectories_of_mem_print {stream : Stream} {texts : List String} {action : Action}
    (h : action ∈ texts.map (.print stream)) : action.makesDirectories = false := by
  obtain ⟨text, -, rfl⟩ := List.mem_map.mp h
  rfl

/-! ## Printing -/

theorem printed_cons (stream : Stream) (action : Action) (actions : List Action) :
    printed stream (action :: actions) = action.printed stream ++ printed stream actions := by
  rw [printed, List.map_cons, String.join_cons]
  rfl

/-- Texts that go to one stream are printed on that stream and on no other. -/
theorem printed_map_print (stream other : Stream) (texts : List String) :
    printed other (texts.map (.print stream)) =
      if stream = other then String.join texts else "" := by
  induction texts with
  | nil => simp
  | cons text texts ih =>
    rw [List.map_cons, printed_cons, ih]
    by_cases h : stream = other <;> simp [Action.printed, h]

/-! ## Doing -/

section

variable (wording : Wording) (elapsed : (timer : Int) → String)

theorem performAll_nil (world : World) :
    (performAll (World.host wording elapsed) []).run world = (.ok (), world) := rfl

theorem performAll_cons (action : Action) (actions : List Action) (world : World) :
    (performAll (World.host wording elapsed) (action :: actions)).run world =
      match world.perform action with
      | (.error e, world) => (.error e, world)
      | (.ok (), world) => (performAll (World.host wording elapsed) actions).run world := by
  have hperform : ((World.host wording elapsed).perform action).run world = world.perform action := rfl
  rw [performAll, StateT.run_bind, hperform]
  rcases world.perform action with ⟨_ | _, world⟩ <;> rfl

/-- **Prints and saves.** They are done if the files can be written, and then each stream and the
disk has what was meant for it. -/
theorem performAll_saves {actions : List Action} {world : World} {disk : Disk}
    (hdirectories : ∀ action ∈ actions, action.makesDirectories = false)
    (hdisk : world.disk.saveAll (savesOf actions) = .ok disk) :
    (performAll (World.host wording elapsed) actions).run world =
      (.ok (), ⟨disk, world.out ++ printed .out actions, world.err ++ printed .err actions⟩) := by
  induction actions generalizing world with
  | nil =>
    obtain rfl := Except.ok.inj hdisk
    simp [performAll_nil]
  | cons action actions ih =>
    have hrest : ∀ action ∈ actions, action.makesDirectories = false := fun a ha =>
      hdirectories a (List.mem_cons_of_mem action ha)
    rw [performAll_cons, printed_cons, printed_cons]
    cases action with
    | print stream text =>
      cases stream with
      | out =>
        refine (@ih { world with out := world.out ++ text } hrest hdisk).trans ?_
        simp [Action.printed, String.append_assoc]
      | err =>
        refine (@ih { world with err := world.err ++ text } hrest hdisk).trans ?_
        simp [Action.printed, String.append_assoc]
    | save path text =>
      obtain ⟨next, hnext, hdisk⟩ := bind_eq_ok.mp hdisk
      have hwrite : world.disk.write path text = .ok next := hnext
      have hperform : world.perform (.save path text) = (.ok (), { world with disk := next }) := by
        rw [World.perform, hwrite]
        rfl
      rw [hperform]
      refine (@ih { world with disk := next } hrest hdisk).trans ?_
      simp [Action.printed]
    | makeDirectories path => cases hdirectories _ List.mem_cons_self

theorem finish_run {actions : List Action} {conclusion : Conclusion} {world final : World}
    (h : (performAll (World.host wording elapsed) actions).run world = (.ok (), final)) :
    (finish (World.host wording elapsed) actions conclusion).run world = (conclusion, final) := by
  rw [finish, StateT.run_bind, h]
  rfl

end

end Litmus
