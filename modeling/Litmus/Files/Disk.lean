import Litmus.Files.Fault
import Litmus.Files.Path
import Litmus.Text.Escape

/-!
# Disks

A disk is what files and directories there are, together with the directory that relative paths
start from. A *place* is the list of the names that lead to a file or directory from the root.

Paths are followed component by component, and every component but the last has to lead to a
directory. `Disk.read`, `Disk.write` and `Disk.makeDirectories` are the operations that a run needs.
The frame of a change is `Disk.find_put`: only the place that is written to changes.
-/

namespace Litmus

/-! ## Places -/

/-- The names that lead to something on a disk. -/
abbrev Place := List String

/-- What is at a place. -/
inductive Node where
  | file (bytes : List UInt8)
  | directory
deriving DecidableEq

/-- Files and directories. Of two nodes at one place the first is the one that is there. -/
structure Disk where
  nodes : List (Place × Node)
  /-- The directory that relative paths start from. -/
  current : Place

namespace Disk

/-- What is at a place; the root is a directory. -/
def find (disk : Disk) (place : Place) : Option Node :=
  if place = [] then some .directory else disk.nodes.lookup place

/-- The disk with something put at a place. -/
def put (disk : Disk) (place : Place) (node : Node) : Disk :=
  { disk with nodes := (place, node) :: disk.nodes }

/-- After something has been put at a place it is there, and the other places are as before. -/
theorem find_put (disk : Disk) (place : Place) (node : Node) (other : Place) (h : place ≠ []) :
    (disk.put place node).find other = if other = place then some node else disk.find other := by
  unfold find put
  by_cases ho : other = []
  · have : other ≠ place := fun e => h (e ▸ ho)
    simp [ho, Ne.symm h]
  · by_cases he : other = place
    · simp [he, h]
    · have : (other == place) = false := by simpa using he
      simp [ho, he, List.lookup_cons, this]

/-! ## Following paths -/

/-- The most bytes that a name can have. -/
def longestName : Nat := 255

/-- The most bytes that a path can have. -/
def longestPath : Nat := 4095

/-- Whether a component is too long for a name. -/
def isTooLong (component : String) : Bool :=
  longestName < component.utf8ByteSize

/-- The place that one component leads to. -/
def step (place : Place) (component : String) : Place :=
  if component = "" ∨ component = "." then place
  else if component = ".." then place.dropLast
  else place ++ [component]

/-- The place that components lead to. There need not be anything at it. -/
def follow (disk : Disk) (place : Place) : List String → Except FileTrouble Place
  | [] => .ok place
  | component :: components =>
    match disk.find place with
    | none => .error .missing
    | some (.file _) => .error .notDirectory
    | some .directory =>
      if isTooLong component then .error .tooLong
      else follow disk (step place component) components

/-- The place that a path starts from. -/
def start (disk : Disk) (path : String) : Place :=
  if path.toList.head? = some '/' then [] else disk.current

/-- What is wrong with a path whatever there is on a disk: the empty path leads nowhere. -/
def pathTrouble? (path : String) : Option FileTrouble :=
  if path.toList.contains '\x00' then some .zeroByte
  else if longestPath < path.utf8ByteSize then some .tooLong
  else if path.isEmpty then some .missing
  else none

/-- The place that components lead to from where a path starts. -/
def followFrom (disk : Disk) (path : String) (components : List String) :
    Except FileTrouble Place :=
  match pathTrouble? path with
  | some trouble => .error trouble
  | none => disk.follow (disk.start path) components

/-- The place that a path leads to. -/
def resolve (disk : Disk) (path : String) : Except FileTrouble Place :=
  disk.followFrom path (Path.components path)

/-- What is at a path, if there is anything. -/
def node? (disk : Disk) (path : String) : Option Node :=
  match disk.resolve path with
  | .ok place => disk.find place
  | .error _ => none

/-! ## Files -/

/-- The bytes of the file at a path. -/
def read (disk : Disk) (path : String) : Except FileError (List UInt8) :=
  match disk.resolve path with
  | .error trouble => .error ⟨trouble, path⟩
  | .ok place =>
    match disk.find place with
    | none => .error ⟨.missing, path⟩
    | some .directory => .error ⟨.isDirectory, path⟩
    | some (.file bytes) => .ok bytes

/-- The path without the slashes at its end. -/
def withoutEndSlashes (path : String) : String :=
  String.ofList (path.toList.reverse.dropWhile (· == '/')).reverse

/-- The place of the file that a path names for writing. A path that ends in a slash names a
directory, if what is in front of its last name is one. -/
def target (disk : Disk) (path : String) : Except FileTrouble Place :=
  if path.toList.getLast? = some '/' then do
    -- What is in front of the last name comes first: it may be missing or no directory.
    let _ ← disk.followFrom path ((Path.components (withoutEndSlashes path)).dropLast ++ [""])
    .error .isDirectory
  else do
    let place ← disk.resolve path
    match disk.find place with
    | some .directory => .error .isDirectory
    | _ => .ok place

/-- The disk with a text in the file at a path, in place of what was in it. -/
def write (disk : Disk) (path text : String) : Except FileError Disk :=
  match disk.target path with
  | .error trouble => .error ⟨trouble, path⟩
  | .ok place => .ok (disk.put place (.file (Text.utf8Bytes text)))

/-! ## Directories -/

/-- The disk with a new directory at a path. -/
def makeDirectory (disk : Disk) (path : String) : Except FileError Disk :=
  match disk.followFrom path (Path.components (withoutEndSlashes path)) with
  | .error trouble => .error ⟨trouble, path⟩
  | .ok place =>
    match disk.find place with
    | some _ => .error ⟨.exists, path⟩
    | none => .ok (disk.put place .directory)

/-- Whether there is a directory at a path. -/
def isDirectory (disk : Disk) (path : String) : Bool :=
  disk.node? path == some .directory

/-- The disk with a directory at a path, if there is none yet. -/
def ensureDirectory (disk : Disk) (path : String) : Except FileError Disk :=
  match disk.makeDirectory path with
  | .ok disk => .ok disk
  | .error e => if disk.isDirectory path then .ok disk else .error e

/-- The disk as it is after a change that may have failed. -/
def after (disk : Disk) : Except FileError Disk → Except FileError Unit × Disk
  | .ok disk => (.ok (), disk)
  | .error e => (.error e, disk)

/-- Make the directory at a path and those above it, where `fuel` bounds the number of those. The
directories that have been made before something fails are there. -/
def makeDirectoriesWith (disk : Disk) (path : String) :
    (fuel : Nat) → Except FileError Unit × Disk
  | 0 => disk.after (disk.ensureDirectory path)
  | fuel + 1 =>
    let (above, name) := Path.split path
    if above.isEmpty ∨ name.isEmpty ∨ (disk.node? above).isSome then
      disk.after (disk.ensureDirectory path)
    else
      match disk.makeDirectoriesWith above fuel with
      | (.ok (), disk) | (.error ⟨.exists, _⟩, disk) =>
        -- A directory that is there already is as good as a new one.
        if name = "." then (.ok (), disk) else disk.after (disk.ensureDirectory path)
      | (.error e, disk) => (.error e, disk)

/-- Make the directory at a path and those above it. -/
def makeDirectories (disk : Disk) (path : String) : Except FileError Unit × Disk :=
  disk.makeDirectoriesWith path path.length

end Disk

end Litmus
