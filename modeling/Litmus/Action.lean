/-!
# Actions

What a run does to its surroundings: it prints on one of two streams, saves files and makes
directories. A run decides on its actions first, in order; that they are done is another matter.
-/

namespace Litmus

/-- A stream that texts are printed on. -/
inductive Stream where
  /-- The standard output. -/
  | out
  /-- The standard error. -/
  | err
deriving DecidableEq

/-- Something that is done to the surroundings of a run. -/
inductive Action where
  | print (stream : Stream) (text : String)
  /-- Put a text into a file, in place of what was in it. -/
  | save (path text : String)
  /-- Make the directory at a path and those above it, as far as they are missing. -/
  | makeDirectories (path : String)
deriving DecidableEq

/-- The text that an action prints on a stream. -/
def Action.printed (stream : Stream) : Action → String
  | .print s text => if s = stream then text else ""
  | _ => ""

/-- The text that some actions print on a stream. -/
def printed (stream : Stream) (actions : List Action) : String :=
  String.join (actions.map (·.printed stream))

@[simp] theorem printed_nil (stream : Stream) : printed stream [] = "" := rfl

@[simp] theorem printed_append (stream : Stream) (first second : List Action) :
    printed stream (first ++ second) = printed stream first ++ printed stream second := by
  simp [printed]

end Litmus
