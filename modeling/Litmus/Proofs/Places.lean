import Litmus.Files.Disk
import Litmus.Proofs.Sequence

/-!
# Where paths lead

A path is followed from directory to directory, so where it leads depends on the directories of a disk
and on nothing else. This module says what becomes of that when a disk changes.

* **`HasDirectories`**: a disk has the directories of another. **`HasDirectories.resolve`**: paths
  lead where they led before.
* **`Grew`**: a disk has got new directories, and is the same otherwise. **`grew_makeDirectories`**:
  making directories does nothing else, whether it succeeds or not.
* **`Saved`**: texts have been put into files. **`saved_of_targets`**: this is what saving does if
  each file can be opened and no two paths lead to one file.
-/

namespace Litmus

namespace Disk

/-! ## Following -/

theorem find_nil (disk : Disk) : disk.find [] = some .directory := rfl

theorem follow_append (disk : Disk) (place : Place) (first second : List String) :
    disk.follow place (first ++ second) =
      disk.follow place first >>= fun place => disk.follow place second := by
  induction first generalizing place with
  | nil => rfl
  | cons component first ih =>
    rw [List.cons_append, follow, follow]
    split
    · rfl
    · rfl
    · split
      · rfl
      · exact ih (step place component)

/-- The last component of a path is the last step to where it leads. -/
theorem step_of_follow_concat {disk : Disk} {place final : Place} {components : List String}
    {component : String} (h : disk.follow place (components ++ [component]) = .ok final) :
    ∃ above, disk.follow place components = .ok above ∧ final = step above component := by
  rw [follow_append] at h
  obtain ⟨above, habove, h⟩ := bind_eq_ok.mp h
  refine ⟨above, habove, ?_⟩
  rw [follow] at h
  split at h
  · cases h
  · cases h
  · split at h
    · cases h
    · exact (Except.ok.inj h).symm

/-- No component of a path makes it impossible to ask for it. -/
theorem follow_ne_zeroByte (disk : Disk) (place : Place) (components : List String) :
    disk.follow place components ≠ .error .zeroByte := by
  induction components generalizing place with
  | nil => simp [follow]
  | cons component components ih =>
    rw [follow]
    split
    · simp
    · simp
    · split
      · simp
      · exact ih (step place component)

/-! ## Directories -/

/-- A disk has every directory that another has, and relative paths start from the same one. -/
structure HasDirectories (disk other : Disk) : Prop where
  current : disk.current = other.current
  directory : ∀ place, other.find place = some .directory → disk.find place = some .directory

theorem HasDirectories.trans {disk other third : Disk} (h : disk.HasDirectories other)
    (h' : other.HasDirectories third) : disk.HasDirectories third :=
  ⟨h.current.trans h'.current, fun place hplace => h.directory place (h'.directory place hplace)⟩

theorem HasDirectories.follow {disk other : Disk} (h : disk.HasDirectories other) {place final : Place}
    {components : List String} (hfollow : other.follow place components = .ok final) :
    disk.follow place components = .ok final := by
  induction components generalizing place with
  | nil => exact hfollow
  | cons component components ih =>
    rw [Disk.follow] at hfollow ⊢
    cases hfind : other.find place with
    | none =>
      rw [hfind] at hfollow
      cases hfollow
    | some node =>
      cases node with
      | file bytes =>
        rw [hfind] at hfollow
        cases hfollow
      | directory =>
        rw [hfind] at hfollow
        rw [h.directory place hfind]
        by_cases hlong : isTooLong component = true
        · simp [hlong] at hfollow
        · simp only [hlong] at hfollow ⊢
          exact ih hfollow

/-- **Paths lead where they led.** -/
theorem HasDirectories.resolve {disk other : Disk} (h : disk.HasDirectories other) {path : String}
    {place : Place} (hresolve : other.resolve path = .ok place) : disk.resolve path = .ok place := by
  rw [Disk.resolve, followFrom] at hresolve ⊢
  cases htrouble : pathTrouble? path with
  | some trouble =>
    rw [htrouble] at hresolve
    cases hresolve
  | none =>
    rw [htrouble] at hresolve
    have hstart : disk.start path = other.start path := by rw [start, start, h.current]
    rw [hstart]
    exact h.follow hresolve

/-! ## Reading and writing -/

theorem read_eq_ok {disk : Disk} {path : String} {bytes : List UInt8} :
    disk.read path = .ok bytes ↔
      ∃ place, disk.resolve path = .ok place ∧ disk.find place = some (.file bytes) := by
  rw [read]
  cases disk.resolve path with
  | error trouble => simp
  | ok place =>
    cases hfind : disk.find place with
    | none => simp [hfind]
    | some node => cases node <;> simp [hfind]

/-- A file can be written where a path leads, unless there is a directory. -/
theorem target_eq_ok {disk : Disk} {path : String} {place : Place} :
    disk.target path = .ok place ↔
      path.toList.getLast? ≠ some '/' ∧ disk.resolve path = .ok place ∧
        disk.find place ≠ some .directory := by
  rw [target]
  by_cases hslash : path.toList.getLast? = some '/'
  · rw [if_pos hslash]
    constructor
    · intro h
      obtain ⟨_, _, h⟩ := bind_eq_ok.mp h
      cases h
    · intro h
      exact absurd hslash h.1
  · rw [if_neg hslash]
    constructor
    · intro h
      obtain ⟨other, hother, h⟩ := bind_eq_ok.mp h
      split at h
      · cases h
      · rename_i hfind
        obtain rfl := Except.ok.inj h
        exact ⟨hslash, hother, hfind⟩
    · rintro ⟨-, hresolve, hfind⟩
      refine bind_eq_ok.mpr ⟨place, hresolve, ?_⟩
      split
      · rename_i hdirectory
        exact absurd hdirectory hfind
      · rfl

theorem write_of_target {disk : Disk} {path : String} {place : Place}
    (h : disk.target path = .ok place) (text : String) :
    disk.write path text = .ok (disk.put place (.file (Text.utf8Bytes text))) := by
  rw [write, h]

theorem ne_nil_of_find {disk : Disk} {place : Place} (h : disk.find place ≠ some .directory) :
    place ≠ [] := by
  rintro rfl
  exact h disk.find_nil

/-! ## New directories -/

/-- A disk is another one with new directories in places where there was nothing. -/
structure Grew (disk made : Disk) : Prop where
  current : made.current = disk.current
  find : ∀ place, made.find place = disk.find place ∨
    disk.find place = none ∧ made.find place = some .directory

theorem Grew.refl (disk : Disk) : disk.Grew disk :=
  ⟨rfl, fun _ => .inl rfl⟩

theorem Grew.trans {disk made next : Disk} (h : disk.Grew made) (h' : made.Grew next) :
    disk.Grew next := by
  refine ⟨h'.current.trans h.current, fun place => ?_⟩
  rcases h'.find place with heq | ⟨hnone, hdirectory⟩
  · rcases h.find place with heq' | ⟨hnone, hdirectory⟩
    · exact .inl (heq.trans heq')
    · exact .inr ⟨hnone, heq.trans hdirectory⟩
  · rcases h.find place with heq' | ⟨_, hdirectory'⟩
    · exact .inr ⟨heq' ▸ hnone, hdirectory⟩
    · rw [hdirectory'] at hnone
      cases hnone

/-- The files are the same, with the same contents. -/
theorem Grew.file_iff {disk made : Disk} (h : disk.Grew made) {place : Place} {bytes : List UInt8} :
    made.find place = some (.file bytes) ↔ disk.find place = some (.file bytes) := by
  rcases h.find place with heq | ⟨hnone, hdirectory⟩
  · rw [heq]
  · simp [hnone, hdirectory]

theorem Grew.hasDirectories {disk made : Disk} (h : disk.Grew made) : made.HasDirectories disk := by
  refine ⟨h.current, fun place hplace => ?_⟩
  rcases h.find place with heq | ⟨hnone, _⟩
  · rw [heq, hplace]
  · rw [hnone] at hplace
    cases hplace

/-- What could be read before can still be read. -/
theorem Grew.read {disk made : Disk} (h : disk.Grew made) {path : String} {bytes : List UInt8}
    (hread : disk.read path = .ok bytes) : made.read path = .ok bytes := by
  obtain ⟨place, hresolve, hfind⟩ := read_eq_ok.mp hread
  exact read_eq_ok.mpr ⟨place, h.hasDirectories.resolve hresolve, h.file_iff.mpr hfind⟩

theorem grew_put_directory {disk : Disk} {place : Place} (h : disk.find place = none) :
    disk.Grew (disk.put place .directory) := by
  refine ⟨rfl, fun other => ?_⟩
  have hplace : place ≠ [] := by
    rintro rfl
    cases h
  rw [find_put disk place .directory other hplace]
  by_cases hother : other = place
  · exact .inr ⟨hother ▸ h, if_pos hother⟩
  · exact .inl (if_neg hother)

theorem grew_makeDirectory {disk made : Disk} {path : String}
    (h : disk.makeDirectory path = .ok made) : disk.Grew made := by
  rw [makeDirectory] at h
  split at h
  · cases h
  · split at h
    · cases h
    · rename_i hfind
      obtain rfl := Except.ok.inj h
      exact grew_put_directory hfind

theorem grew_after_ensureDirectory (disk : Disk) (path : String) :
    disk.Grew (disk.after (disk.ensureDirectory path)).2 := by
  rw [ensureDirectory]
  cases hmake : disk.makeDirectory path with
  | ok made => exact grew_makeDirectory hmake
  | error e =>
    by_cases hdirectory : disk.isDirectory path = true
    · simpa [hdirectory, after] using Grew.refl disk
    · simpa [hdirectory, after] using Grew.refl disk

/-- The recursion over the directories above: each of them is made before the one below it. -/
theorem grew_makeDirectoriesWith (disk : Disk) (path : String) (fuel : Nat) :
    disk.Grew (disk.makeDirectoriesWith path fuel).2 := by
  induction fuel generalizing path with
  | zero => exact grew_after_ensureDirectory disk path
  | succ fuel ih =>
    rw [makeDirectoriesWith]
    generalize Path.split path = parts
    obtain ⟨above, name⟩ := parts
    have habove : disk.Grew (disk.makeDirectoriesWith above fuel).2 := ih above
    dsimp only
    generalize disk.makeDirectoriesWith above fuel = outcome at habove ⊢
    obtain ⟨result, made⟩ := outcome
    have hlast : disk.Grew (if name = "." then (Except.ok (), made)
        else made.after (made.ensureDirectory path)).2 := by
      split
      · exact habove
      · exact habove.trans (grew_after_ensureDirectory made path)
    split
    · exact grew_after_ensureDirectory disk path
    · split
      · rename_i heq
        obtain ⟨-, rfl⟩ := Prod.mk.inj heq
        exact hlast
      · rename_i heq
        obtain ⟨-, rfl⟩ := Prod.mk.inj heq
        exact hlast
      · rename_i heq
        obtain ⟨-, rfl⟩ := Prod.mk.inj heq
        exact habove

/-- **Making directories adds directories and nothing else.** -/
theorem grew_makeDirectories (disk : Disk) (path : String) :
    disk.Grew (disk.makeDirectories path).2 :=
  grew_makeDirectoriesWith disk path path.length

/-! ## New files -/

theorem find_put_file {disk : Disk} {path : String} {place : Place}
    (h : disk.target path = .ok place) (bytes : List UInt8) (other : Place) :
    (disk.put place (.file bytes)).find other =
      if other = place then some (.file bytes) else disk.find other :=
  find_put disk place _ other (ne_nil_of_find (target_eq_ok.mp h).2.2)

/-- A file takes the place of no directory, so the directories stay. -/
theorem hasDirectories_put_file {disk : Disk} {path : String} {place : Place}
    (h : disk.target path = .ok place) (bytes : List UInt8) :
    (disk.put place (.file bytes)).HasDirectories disk := by
  refine ⟨rfl, fun other hother => ?_⟩
  have hne : other ≠ place := by
    rintro rfl
    exact (target_eq_ok.mp h).2.2 hother
  rw [find_put_file h, if_neg hne, hother]

/-- And there are no more of them. -/
theorem hasDirectories_of_put_file {disk : Disk} {path : String} {place : Place}
    (h : disk.target path = .ok place) (bytes : List UInt8) :
    disk.HasDirectories (disk.put place (.file bytes)) := by
  refine ⟨rfl, fun other hother => ?_⟩
  rw [find_put_file h] at hother
  split at hother
  · cases hother
  · exact hother

/-- Files that can be opened can still be opened when another one has been written. -/
theorem target_put_file {disk : Disk} {path other : String} {place final : Place}
    (h : disk.target path = .ok place) (bytes : List UInt8) :
    (disk.put place (.file bytes)).target other = .ok final ↔ disk.target other = .ok final := by
  have hsame : (disk.put place (.file bytes)).find final ≠ some .directory ↔
      disk.find final ≠ some .directory :=
    not_congr ⟨(hasDirectories_of_put_file h bytes).directory final,
      (hasDirectories_put_file h bytes).directory final⟩
  rw [target_eq_ok, target_eq_ok, hsame]
  constructor
  · rintro ⟨hslash, hresolve, hfind⟩
    exact ⟨hslash, (hasDirectories_of_put_file h bytes).resolve hresolve, hfind⟩
  · rintro ⟨hslash, hresolve, hfind⟩
    exact ⟨hslash, (hasDirectories_put_file h bytes).resolve hresolve, hfind⟩

/-- Texts have been saved in files: each file holds its text, and whatever is somewhere else is as it
was. -/
structure Saved (disk : Disk) (saves : List (String × String)) (final : Disk) : Prop where
  reads : ∀ save ∈ saves, final.read save.1 = .ok (Text.utf8Bytes save.2)
  frame : ∀ place, (∀ save ∈ saves, disk.target save.1 ≠ .ok place) →
    final.find place = disk.find place
  directories : final.HasDirectories disk

/-- The disk after texts have been saved in files, one after the other. -/
def saveAll (disk : Disk) (saves : List (String × String)) : Except FileError Disk :=
  saves.foldlM (fun disk save => disk.write save.1 save.2) disk

/-- **Saving succeeds** if every file can be opened before the first one is written, and loses
nothing if no two paths lead to one file. Induction on the files: the first one is out of the way of
the others. -/
theorem saved_of_targets {disk : Disk} {saves : List (String × String)}
    (htargets : ∀ save ∈ saves, ∃ place, disk.target save.1 = .ok place)
    (hdistinct : saves.Pairwise fun save other => disk.target save.1 ≠ disk.target other.1) :
    ∃ final, disk.saveAll saves = .ok final ∧ disk.Saved saves final := by
  induction saves generalizing disk with
  | nil => exact ⟨disk, rfl, by simp, fun _ _ => rfl, rfl, fun _ => id⟩
  | cons save saves ih =>
    obtain ⟨place, hplace⟩ := htargets save List.mem_cons_self
    obtain ⟨hfirst, hothers⟩ := List.pairwise_cons.mp hdistinct
    have hwrite := write_of_target hplace save.2
    have hkept : ∀ {path final}, (disk.put place (.file (Text.utf8Bytes save.2))).target path =
        .ok final ↔ disk.target path = .ok final := target_put_file hplace _
    -- the other files can still be opened, and are still different files
    have hsame : ∀ other ∈ saves, (disk.put place (.file (Text.utf8Bytes save.2))).target other.1 =
        disk.target other.1 := by
      intro other hother
      obtain ⟨final, hfinal⟩ := htargets other (List.mem_cons_of_mem save hother)
      rw [hfinal, hkept, hfinal]
    have htargets' : ∀ other ∈ saves, ∃ final,
        (disk.put place (.file (Text.utf8Bytes save.2))).target other.1 = .ok final := by
      intro other hother
      rw [hsame other hother]
      exact htargets other (List.mem_cons_of_mem save hother)
    have hdistinct' : saves.Pairwise fun a b =>
        (disk.put place (.file (Text.utf8Bytes save.2))).target a.1 ≠
          (disk.put place (.file (Text.utf8Bytes save.2))).target b.1 := by
      refine hothers.imp_of_mem fun ha hb hne => ?_
      rw [hsame _ ha, hsame _ hb]
      exact hne
    obtain ⟨final, hfinal, hsaved⟩ := ih htargets' hdistinct'
    have hdirectories := hasDirectories_put_file hplace (Text.utf8Bytes save.2)
    refine ⟨final, bind_eq_ok.mpr ⟨_, hwrite, hfinal⟩, ?_, ?_, ?_⟩
    · intro other hother
      rcases List.mem_cons.mp hother with rfl | hother
      · have hunchanged : final.find place = _ := hsaved.frame place fun b hb h =>
          hfirst b hb (hplace.trans (hkept.mp h).symm)
        rw [find_put_file hplace, if_pos rfl] at hunchanged
        have hresolve := hsaved.directories.resolve
          (hdirectories.resolve (target_eq_ok.mp hplace).2.1)
        exact read_eq_ok.mpr ⟨place, hresolve, hunchanged⟩
      · exact hsaved.reads other hother
    · intro other hother
      have hne : other ≠ place := by
        rintro rfl
        exact hother save List.mem_cons_self hplace
      rw [hsaved.frame other fun b hb h => hother b (List.mem_cons_of_mem save hb) (hkept.mp h),
        find_put_file hplace, if_neg hne]
    · exact hsaved.directories.trans hdirectories

end Disk

end Litmus
