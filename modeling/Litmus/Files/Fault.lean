import Litmus.Text.Literal

/-!
# Troubles with files

Why a file cannot be read or written. The wording is that of the system: the number of the trouble,
its description and the path that was asked for. A path that the system cannot be asked for at all
has a wording of its own.
-/

namespace Litmus

/-- What is wrong with a path. -/
inductive FileTrouble where
  /-- There is nothing at the path. -/
  | missing
  /-- There is something at the path already. -/
  | exists
  /-- The path leads through something that is no directory. -/
  | notDirectory
  /-- There is a directory at the path. -/
  | isDirectory
  /-- Access is not allowed. -/
  | denied
  /-- The path, or one of the names in it, is too long. -/
  | tooLong
  /-- The path holds the character zero, which ends every path: it cannot even be asked for. -/
  | zeroByte
  /-- Any other trouble the system tells of. -/
  | other (number : Nat) (description : String)
deriving DecidableEq

namespace FileTrouble

/-- The number of a trouble. A path that cannot be asked for has none. -/
def number : FileTrouble → Nat
  | .missing => 2
  | .denied => 13
  | .exists => 17
  | .notDirectory => 20
  | .isDirectory => 21
  | .tooLong => 36
  | .zeroByte => 0
  | .other number _ => number

/-- The description of a trouble. -/
def description : FileTrouble → String
  | .missing => "No such file or directory"
  | .denied => "Permission denied"
  | .exists => "File exists"
  | .notDirectory => "Not a directory"
  | .isDirectory => "Is a directory"
  | .tooLong => "File name too long"
  | .zeroByte => "embedded null byte"
  | .other _ description => description

/-- The name of a trouble. -/
def name : FileTrouble → String
  | .missing => "FileNotFoundError"
  | .denied => "PermissionError"
  | .exists => "FileExistsError"
  | .notDirectory => "NotADirectoryError"
  | .isDirectory => "IsADirectoryError"
  | .zeroByte => "ValueError"
  | .tooLong | .other .. => "OSError"

end FileTrouble

/-- A trouble with a path. -/
structure FileError where
  trouble : FileTrouble
  path : String
deriving DecidableEq

/-- The wording of a trouble with a path. -/
def FileError.message (e : FileError) : String :=
  if e.trouble = .zeroByte then e.trouble.description
  else
    "[Errno " ++ toString e.trouble.number ++ "] " ++ e.trouble.description ++ ": "
      ++ Text.literal e.path

end Litmus
