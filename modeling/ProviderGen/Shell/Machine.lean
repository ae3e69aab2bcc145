import ProviderGen.Disk.Access
import ProviderGen.Shell.Syntax

/-!
What commands run on: files, variables, streams and a clock. The clock only moves when a command
waits, and a command that would wait past the limit stops there.
-/

namespace ProviderGen.Shell

/-- Where what is written to a stream goes: into a buffer, to the end of a file, or nowhere. -/
inductive Sink
  | buffer (number : Nat)
  | file (place : List String)
  | nowhere
  deriving DecidableEq, Repr

/-- The streams of a command. What it reads comes from a buffer. -/
structure Streams where
  input : Option Nat
  output : Sink
  errors : Sink
  deriving DecidableEq, Repr

/-- The state that commands work on. Each buffer holds its bytes from the last one back to the
first. Times are in microseconds. -/
structure Machine where
  disk : Disk
  /-- Where a file is now that was at a place when the work began. -/
  whereabouts : List String → Option (List String)
  streams : Streams
  buffers : List (List UInt8)
  bindings : List (String × String)
  functions : List (String × Command)
  name : String
  arguments : List String
  status : Nat
  clock : Nat
  limit : Option Nat
  stopsOnError : Bool
  line : Nat

/-- Why commands stop before their end. -/
inductive Stop
  | exit (status : Nat)
  | back (status : Nat)
  | killed (signal : Nat)
  | overdue
  | unending
  | leave (loops : Nat)
  | next (loops : Nat)
  deriving DecidableEq, Repr

/-- Commands at work. What they did before they stop stays done. -/
abbrev Work := ExceptT Stop (StateM Machine)

namespace Work

def newBuffer : Work Nat := do
  let machine ← get
  set { machine with buffers := machine.buffers ++ [[]] }
  return machine.buffers.length

/-- Makes a buffer that holds some bytes. -/
def bufferOf (bytes : List UInt8) : Work Nat := do
  let machine ← get
  set { machine with buffers := machine.buffers ++ [bytes.reverse] }
  return machine.buffers.length

def contentOf (number : Nat) : Work (List UInt8) :=
  return ((← get).buffers.getD number []).reverse

def writeTo (sink : Sink) (bytes : List UInt8) : Work Unit :=
  match sink with
  | .nowhere => pure ()
  | .buffer number => modify fun machine =>
      { machine with buffers := machine.buffers.modify number (bytes.reverse ++ ·) }
  | .file place => modify fun machine =>
      match machine.disk.root.find? place with
      | some (.file content) =>
          let root := machine.disk.root.put place (.file (content ++ bytes))
          { machine with disk := { machine.disk with root := root } }
      | _ => machine

def writeBytes (bytes : List UInt8) : Work Unit := do
  writeTo (← get).streams.output bytes

def write (text : String) : Work Unit := writeBytes (Text.encode text)

/-- Writes a line to the stream of errors. -/
def complain (text : String) : Work Unit := do
  writeTo (← get).streams.errors (Text.encode (text ++ "\n"))

/-- Writes a line to the stream of errors that names the shell and the line of the script. -/
def complainOfScript (text : String) : Work Unit := do
  let machine ← get
  complain s!"{machine.name}: {machine.line}: {text}"

def readAll : Work (List UInt8) := do
  let machine ← get
  match machine.streams.input with
  | none => return []
  | some number =>
      let bytes ← contentOf number
      set { machine with buffers := machine.buffers.set number [] }
      return bytes

/-- The next line of the input, without its end; none at the end of the input. -/
def readLine : Work (Option (List UInt8)) := do
  let bytes ← readAll
  let newline : UInt8 := 10
  let line := bytes.takeWhile (· ≠ newline)
  let rest := bytes.dropWhile (· ≠ newline)
  modify fun machine =>
    match machine.streams.input with
    | some number => { machine with buffers := machine.buffers.set number rest.tail.reverse }
    | none => machine
  return if rest = [] then none else some line

def setDisk (disk : Disk) : Work Unit :=
  modify fun machine => { machine with disk := disk }

/-- The value of a variable, if it is set. -/
def valueOf? (name : String) : Work (Option String) := do
  return (← get).bindings.lookup name

def setVariable (name value : String) : Work Unit :=
  modify fun machine =>
    let others := machine.bindings.filter (·.1 ≠ name)
    { machine with bindings := (name, value) :: others }

def unsetVariable (name : String) : Work Unit :=
  modify fun machine =>
    { machine with bindings := machine.bindings.filter (·.1 ≠ name) }

/-- Sets the status of the last command. -/
def setStatus (status : Nat) : Work Unit :=
  modify fun machine => { machine with status := status }

/-- Waits for some time; forever if none is given. -/
def wait (time : Option Nat) : Work Unit := do
  let machine ← get
  match time, machine.limit with
  | none, none => throw .unending
  | none, some _ => throw .overdue
  | some time, limit =>
      let clock := machine.clock + time
      if limit.any (· < clock) then
        throw .overdue
      set { machine with clock := clock }

/-- Work with other streams, which are as before afterwards. -/
def withStreams {α : Type} (streams : Streams) (work : Work α) : Work α := do
  let before := (← get).streams
  modify fun machine => { machine with streams := streams }
  let restore : Work Unit := modify fun machine => { machine with streams := before }
  try
    let result ← work
    restore
    return result
  catch stop =>
    restore
    throw stop

/-- Work whose changes to variables and to the current directory do not last, and that ends by
itself where it exits. -/
def apart (work : Work Unit) : Work Unit := do
  let before ← get
  try
    work
  catch stop =>
    match stop with
    | .exit status | .back status => setStatus status
    | .leave _ | .next _ => pure ()
    | stop => throw stop
  modify fun machine => { machine with
    disk := { machine.disk with current := before.disk.current }
    streams := before.streams
    bindings := before.bindings
    functions := before.functions
    name := before.name
    arguments := before.arguments
    stopsOnError := before.stopsOnError
    line := before.line }

end Work

end ProviderGen.Shell
