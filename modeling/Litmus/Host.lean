import Litmus.Action
import Litmus.Job

/-!
# Surroundings

What the program needs from its surroundings is a `Host`: a way to read files, to do actions and to
take times, and those words of the messages that are not decided by the program itself.
-/

namespace Litmus

/-- What the program needs from its surroundings. -/
structure Host (m : Type → Type) where
  wording : Wording
  read : String → m (Except FileError (List UInt8))
  perform : Action → m (Except FileError Unit)
  /-- The result of something, and the time in seconds that it has taken. The number of the timer that
  measures it is given, if one has been started. -/
  timed : {α : Type} → (timer : Option Int) → m α → m (α × String)

/-- The job of an input. -/
def Host.job {m : Type → Type} [Monad m] (host : Host m) (input : String) :
    m (Traced JobFault String) :=
  compileFile input <$> host.read input

end Litmus
