import ProviderGen.Build
import ProviderGen.Shell.Evaluation

namespace ProviderGen.Shell

/-- The microseconds of an amount of time; none if it has no end. -/
def limitOf : Seconds → Option Nat
  | .whole count => some (count.toNat * 1000000)
  | .real .nan | .real (.infinite false) => none
  | .real (.infinite true) => some 0
  | .real (.finite negative mantissa exponent) =>
      let (num, den) := Binary64.ratio mantissa exponent
      some (if negative then 0 else num * 1000000 / den)

/-- The lines that are not empty of what a command wrote. -/
def shownLines (output : List UInt8) : List String :=
  let text := Text.unifyLines (Text.decodeLeniently output)
  ((Text.split '\n' text).filter (· ≠ [])).map String.ofList

/-- How many commands a script may run inside and after each other. -/
def maxCommands : Nat := 10000

/-- A machine on which a command begins. -/
def machineFor (disk : Disk) (directory : List String) (limit : Option Nat) : Machine where
  disk := { disk with current := directory }
  whereabouts := some
  streams := ⟨none, .buffer 0, .buffer 0⟩
  buffers := [[]]
  bindings := [("HOME", disk.home), ("PWD", toString (⟨.root, directory⟩ : Path))]
  functions := []
  name := "sh"
  arguments := []
  status := 0
  clock := 0
  limit := limit
  stopsOnError := false
  line := 1

/-- Whether a system has a command. -/
def isKnown (name : String) : Bool :=
  let name := commandName name
  !name.contains '/' && (shellNames.contains name || (Program.table.lookup name).isSome)

/-- Why a command cannot be started. Files hold no programs. -/
def refusal (disk : Disk) (name : String) : DiskFault :=
  if name = "" || name = "." || name = ".." then
    .denied
  else if name.contains '/' then
    match disk.locate (Path.ofString name) with
    | .ok ⟨_, some _⟩ => .denied
    | .ok ⟨_, none⟩ => .notFound
    | .error fault => fault
  else
    .notFound

/-- How a command ends whose work stopped or came to its end. -/
def endingOf (timeout : Option Seconds) : Except Stop Nat → Ending
  | .ok status | .error (.exit status) | .error (.back status) => .exited status
  | .error (.killed signal) => .exited (-(signal : Int))
  | .error (.leave _) | .error (.next _) => .exited 0
  | .error .overdue | .error .unending =>
      match timeout with
      | some limit => .timedOut limit
      | none => .exited 0

/-- Runs a command. What it writes is read when it has ended. -/
def runner : Runner := fun disk call =>
  let refuse := fun (fault : DiskFault) (path : String) =>
    Activity.ended (.nothing disk) (.refused ⟨fault, path, none⟩)
  if call.command.any (·.toList.contains '\x00') || call.directory.holdsNull then
    .ended (.nothing disk) (.threw .wrongValue nullCharacterMessage)
  else match disk.locate call.directory with
  | .error fault => refuse fault call.directory.toString
  | .ok ⟨_, none⟩ => refuse .notFound call.directory.toString
  | .ok ⟨directory, some node⟩ =>
      let name := call.command.headD ""
      let inside := { disk with current := directory }
      if !node.isDirectory then
        refuse .notDirectory call.directory.toString
      else if !isKnown name then
        refuse (refusal inside name) name
      else
        let machine := machineFor disk directory (call.timeout.bind limitOf)
        let work := runWords.system (runScript maxCommands) name call.command.tail
        let (result, machine) := work machine
        let lines := shownLines ((machine.buffers.headD []).reverse)
        let left := { machine.disk with current := disk.current }
        .telling (endingOf call.timeout result) lines ⟨left, machine.whereabouts⟩

end ProviderGen.Shell
