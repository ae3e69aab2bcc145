import ProviderGen.Disk.Lookup
import ProviderGen.Number.Decimal

namespace ProviderGen

/-- An amount of seconds, as it was given. -/
inductive Seconds
  | whole (count : Int)
  | real (amount : Binary64)
  deriving DecidableEq, Repr

/-- The text of an amount, with six significant digits at most. -/
def Seconds.text : Seconds → String
  | whole count => (Binary64.ofRatio (count < 0) count.natAbs 1).toShortText
  | real amount => amount.toShortText

/-- Whether an amount is too large for a real number. -/
def Seconds.isHuge : Seconds → Bool
  | whole count => (Binary64.ofInt? count).isNone
  | real _ => false

/-- A command, the directory to run it in, and how long it may take. -/
structure Call where
  command : List String
  directory : Path
  timeout : Option Seconds
  deriving DecidableEq, Repr

/-- What an exception from elsewhere is to those who handle failures: a wrong value, or nothing that
they know of. -/
inductive Thrown
  | wrongValue
  | unknown
  deriving DecidableEq, Repr

/-- How a command ends: by itself, when its time is over, or without having been started; or the
runner throws something else; or it is interrupted, which those who handle failures do not see. -/
inductive Ending
  | exited (status : Int)
  | timedOut (limit : Seconds)
  | refused (error : DiskError)
  | threw (thrown : Thrown) (message : String)
  | interrupted
  deriving DecidableEq, Repr

/-- What a command has done to the disk by some moment. `whereabouts` tells where the file is that
was at a place before, if it is still there. -/
structure Effect where
  disk : Disk
  whereabouts : List String → Option (List String)

/-- What a command has done that has left the disk as it was. -/
def Effect.nothing (disk : Disk) : Effect := ⟨disk, some⟩

/-- A command at work. Each line that it writes may change the disk on which it goes on, because
someone makes a note of it there. -/
inductive Activity
  | line (text : String) (effect : Effect) (next : Disk → Activity)
  | ended (effect : Effect) (ending : Ending)

/-- What a command did: the lines it wrote, the disk it left, and how it ended. -/
structure Outcome where
  lines : List String
  disk : Disk
  ending : Ending

namespace Activity

/-- What a command comes to whose lines are noted nowhere on its disk. -/
def outcome : Activity → Outcome
  | .line text effect next =>
      let rest := (next effect.disk).outcome
      { rest with lines := text :: rest.lines }
  | .ended effect ending => ⟨[], effect.disk, ending⟩

/-- A command that does all its work before its first line. -/
def telling (ending : Ending) : List String → Effect → Activity
  | [], effect => .ended effect ending
  | text :: lines, effect => .line text effect fun disk => telling ending lines (.nothing disk)

end Activity

/-- A way to run commands. -/
abbrev Runner := Disk → Call → Activity

inductive BuildError
  | notFound (command : String)
  | timedOut (limit : Seconds)
  | exited (status : Int)
  deriving DecidableEq, Repr

namespace BuildError

def message : BuildError → String
  | notFound command => s!"Build command not found: {command}"
  | timedOut limit => s!"Build command timed out after {limit.text}s"
  | exited status => s!"Build command exited with status {status}"

/-- The status that a command ended with, if it came to that. -/
def status? : BuildError → Option Int
  | exited status => some status
  | _ => none

end BuildError

/-- A build that fails, that the system refuses, or that is to take longer than can be told. -/
inductive BuildFailure
  | failed (error : BuildError)
  | refused (error : DiskError)
  | hugeLimit
  deriving DecidableEq, Repr

end ProviderGen
