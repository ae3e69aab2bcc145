import ProviderGen.Shell.Expansion
import ProviderGen.Shell.Program
import ProviderGen.Shell.Reading
import ProviderGen.Text.Blank

namespace ProviderGen.Shell

/-- The number of a status that is given as a text. -/
def statusArgument (name : String) (arguments : List String) : Work Nat := do
  match arguments with
  | [] => return (← get).status
  | text :: _ =>
      match text.toNat? with
      | some status => return status % 256
      | none => giveUp s!"{name}: Illegal number: {text}"

/-- How many loops a command leaves. -/
def loopArgument (arguments : List String) : Nat :=
  ((arguments.head?.bind String.toNat?).getD 1) - 1

def changeDirectory : Program := fun arguments => do
  let home := (← Work.valueOf? "HOME").getD ""
  let target := arguments.headD home
  let machine ← get
  match machine.disk.directoryAt? (Path.ofString target) with
  | some (names, _) =>
      Work.setDisk { machine.disk with current := names }
      Work.setVariable "PWD" (toString (⟨.root, names⟩ : Path))
      return 0
  | none =>
      Work.complainOfScript s!"cd: can't cd to {target}"
      return 2

/-- Sets variables that are given as assignments. -/
def setGiven (arguments : List String) : Work Nat := do
  for argument in arguments do
    let name := argument.toList.takeWhile (· ≠ '=')
    if name.length < argument.length then
      Work.setVariable (String.ofList name) (argument.drop (name.length + 1)).toString
  return 0

/-- Sets the arguments, and whether a failure stops the script. -/
def setOptions : Program := fun arguments => do
  match arguments with
  | "--" :: rest => modify fun machine => { machine with arguments := rest }
  | "-e" :: _ => modify fun machine => { machine with stopsOnError := true }
  | "+e" :: _ => modify fun machine => { machine with stopsOnError := false }
  | argument :: _ =>
      if argument.startsWith "-" || argument.startsWith "+" then
        if argument.startsWith "-" && argument.contains 'e' then
          modify fun machine => { machine with stopsOnError := true }
      else
        modify fun machine => { machine with arguments := arguments }
  | [] => pure ()
  return 0

/-- Drops the first arguments. -/
def shift : Program := fun arguments => do
  let count := (arguments.head?.bind String.toNat?).getD 1
  modify fun machine => { machine with arguments := machine.arguments.drop count }
  return 0

/-- Cuts a line into as many fields as there are names; the last one gets the rest. -/
def fieldsOfLine : Nat → List Char → List (List Char)
  | 0, _ => []
  | 1, line => [Text.trimRight partsFields (line.dropWhile partsFields)]
  | count + 1, line =>
      let line := line.dropWhile partsFields
      line.takeWhile (!partsFields ·) :: fieldsOfLine count (line.dropWhile (!partsFields ·))

def readVariables : Program := fun arguments => do
  let names := arguments.filter fun name => name.toList.head? ≠ some '-'
  let line ← Work.readLine
  let fields := fieldsOfLine names.length (Text.decodeLeniently (line.getD []))
  for (name, field) in names.zip fields do
    Work.setVariable name (String.ofList field)
  return if line.isSome then 0 else 1

/-- Writes out the arguments, with the escapes in them. -/
def echoEscaped : Program := fun arguments => do
  let (cut, words) := match arguments with
    | "-n" :: rest => (true, rest)
    | words => (false, words)
  let text := " ".intercalate words
  let (bytes, stopped) := unescape .basic (text.length + 1) text.toList
  Work.writeBytes bytes
  if !cut && !stopped then
    Work.write "\n"
  return 0

/-- The commands that belong to the shell. -/
def builtins : List (String × Program) :=
  let complainAs := fun (name text : String) => Work.complainOfScript s!"{name}: {text}"
  [(":", fun _ => return 0),
    ("true", fun _ => return 0),
    ("false", fun _ => return 1),
    ("echo", echoEscaped),
    ("printf", Program.printFormatted .basic (complainAs "printf")),
    ("test", Program.test (complainAs "test")),
    ("[", Program.bracket (complainAs "[")),
    ("pwd", Program.workingDirectory),
    ("kill", Program.kill shellNumber (complainAs "kill")),
    ("cd", changeDirectory),
    ("export", setGiven),
    ("readonly", setGiven),
    ("local", setGiven),
    ("unset", fun names => do names.forM Work.unsetVariable; return 0),
    ("set", setOptions),
    ("shift", shift),
    ("read", readVariables),
    ("wait", fun _ => return 0),
    ("trap", fun _ => return 0),
    ("umask", fun _ => return 0),
    ("exit", fun arguments => do throw (.exit (← statusArgument "exit" arguments))),
    ("return", fun arguments => do throw (.back (← statusArgument "return" arguments))),
    ("break", fun arguments => throw (.leave (loopArgument arguments))),
    ("continue", fun arguments => throw (.next (loopArgument arguments)))]

def commandDirectories : List String :=
  ["/usr/local/bin/", "/usr/bin/", "/bin/", "/usr/local/sbin/", "/usr/sbin/", "/sbin/"]

/-- The name of a command without one of these directories in front. -/
def commandName (path : String) : String :=
  let isIn := fun (directory : String) =>
    path.startsWith directory && !((path.drop directory.length).toString.contains '/')
  match commandDirectories.find? isIn with
  | some directory => (path.drop directory.length).toString
  | none => path

/-- Where a stream goes that is led to a file; an error says why that cannot be. -/
def openTarget (appends : Bool) (path : String) : Work (Except String Sink) := do
  let machine ← get
  match path with
  | "/dev/null" => return .ok .nowhere
  | "/dev/stdout" => return .ok machine.streams.output
  | "/dev/stderr" => return .ok machine.streams.errors
  | path =>
      let disk := machine.disk
      match disk.locate (Path.ofString path) with
      | .ok ⟨_, some (.directory _)⟩ => return .error s!"cannot create {path}: Is a directory"
      | .ok ⟨place, node⟩ =>
          if !appends || node.isNone then
            Program.put place (.file [])
          return .ok (.file place)
      | .error .notFound => return .error s!"cannot create {path}: Directory nonexistent"
      | .error fault => return .error s!"cannot create {path}: {fault.text}"

/-- What a stream gets that is led from a file; an error says why that cannot be. -/
def openSource (path : String) : Work (Except String (Option Nat)) := do
  if path = "/dev/null" then
    return .ok none
  let disk := (← get).disk
  match disk.locate (Path.ofString path) with
  | .ok ⟨_, some (.file content)⟩ => return .ok (some (← Work.bufferOf content))
  | .ok ⟨_, some _⟩ => return .ok none
  | .ok ⟨_, none⟩ | .error .notFound => return .error s!"cannot open {path}: No such file"
  | .error fault => return .error s!"cannot open {path}: {fault.text}"

def Streams.setOutput (streams : Streams) (stream : Stream) (sink : Sink) : Streams :=
  match stream with
  | .input => streams
  | .output => { streams with output := sink }
  | .errors => { streams with errors := sink }

def Streams.sinkOf (streams : Streams) : Stream → Sink
  | .input => .nowhere
  | .output => streams.output
  | .errors => streams.errors

/-- Streams led elsewhere; an error says why that cannot be. -/
def redirect (substitute : String → Work String) :
    Streams → List Redirection → Work (Except String Streams)
  | streams, [] => return .ok streams
  | streams, redirection :: rest => do
      let led ← match redirection.direction with
        | .source file => do
            let source ← openSource (← expandText substitute file)
            pure (source.map fun input => { streams with input := input })
        | .document text => do
            let text ← expandText substitute text
            pure (.ok { streams with input := some (← Work.bufferOf (Text.encode text)) })
        | .target file => do
            let sink ← openTarget false (← expandText substitute file)
            pure (sink.map (streams.setOutput redirection.stream))
        | .appended file => do
            let sink ← openTarget true (← expandText substitute file)
            pure (sink.map (streams.setOutput redirection.stream))
        | .same other => pure (.ok (streams.setOutput redirection.stream (streams.sinkOf other)))
        | .closed => pure (.ok (streams.setOutput redirection.stream .nowhere))
      match led with
      | .ok streams => redirect substitute streams rest
      | .error message => return .error message

/-- Runs something with streams led elsewhere, if that can be. -/
def withRedirections (substitute : String → Work String) (redirections : List Redirection)
    (work : Work Unit) : Work Unit := do
  match ← redirect substitute (← get).streams redirections with
  | .ok streams => Work.withStreams streams work
  | .error message =>
      Work.complainOfScript message
      Work.setStatus 2

def runProgram (name : String) (arguments : List String) : Work Nat := do
  match Program.table.lookup (commandName name) with
  | some program => program arguments
  | none =>
      if name.contains '/' then
        match (← get).disk.locate (Path.ofString name) with
        | .ok ⟨_, some _⟩ =>
            Work.complainOfScript s!"{name}: Permission denied"
            return 126
        | _ =>
            Work.complainOfScript s!"{name}: not found"
            return 127
      else
        Work.complainOfScript s!"{name}: not found"
        return 127

/-- What is run when a script is given to a shell as an argument: its text, the name that it goes
by, and its arguments. -/
structure Invocation where
  script : String
  name : String
  arguments : List String
  stopsOnError : Bool

def shellNames : List String := ["sh", "dash"]

def invocation? (name : String) : List String → Option Invocation
  | "-c" :: script :: rest => some ⟨script, rest.headD name, rest.tail, false⟩
  | "-ec" :: script :: rest | "-e" :: "-c" :: script :: rest =>
      some ⟨script, rest.headD name, rest.tail, true⟩
  | _ => none

/-- Work that is taken as a test: that it fails does not stop the script. -/
def asTest (work : Work Unit) : Work Unit := do
  let stops := (← get).stopsOnError
  modify fun machine => { machine with stopsOnError := false }
  work
  modify fun machine => { machine with stopsOnError := stops }

/-- Stops the script if the last command failed and failures stop it. -/
def checkStatus : Work Unit := do
  let machine ← get
  if machine.stopsOnError && machine.status ≠ 0 then
    throw (.exit machine.status)

/-- Runs the body of a loop. The result says whether the loop goes on. -/
def runBody (body : Work Unit) : Work Bool := do
  try
    body
    return true
  catch stop =>
    match stop with
    | .leave 0 =>
        Work.setStatus 0
        return false
    | .leave (loops + 1) => throw (.leave loops)
    | .next 0 =>
        Work.setStatus 0
        return true
    | .next (loops + 1) => throw (.next loops)
    | stop => throw stop

/-- Runs something with variables set for it alone. -/
def withVariables (assignments : List (String × String)) (work : Work Nat) : Work Nat := do
  let before := (← get).bindings
  for (name, value) in assignments do
    Work.setVariable name value
  let status ← work
  if assignments ≠ [] then
    modify fun machine => { machine with bindings := before }
  return status

/-- A shell that has been started anew, up to its end. -/
def runInvocation (run : String → Work Unit) (invocation : Invocation) : Work Nat := do
  Work.apart do
    modify fun machine => { machine with
      name := invocation.name
      arguments := invocation.arguments
      stopsOnError := invocation.stopsOnError
      status := 0 }
    run invocation.script
  return (← get).status

/-- Runs the words of a command on its own. `run` runs a script. -/
def runWords (run : String → Work Unit) (name : String) (arguments : List String) : Work Nat := do
  match builtins.lookup name, name, arguments with
  | some builtin, _, _ => builtin arguments
  | none, "eval", words =>
      run (" ".intercalate words)
      return (← get).status
  | none, ".", path :: _ =>
      match (← get).disk.readBytes (Path.ofString path) with
      | .ok bytes =>
          run (String.ofList (Text.decodeLeniently bytes))
          return (← get).status
      | .error _ => giveUp s!".: cannot open {path}: No such file"
  | none, "exec", [] => return 0
  | none, "exec", name :: arguments =>
      throw (.exit (← system name arguments))
  | none, "command", name :: arguments => system name arguments
  | none, name, arguments => system name arguments
where
  /-- Runs a command of the system, or a shell. -/
  system (name : String) (arguments : List String) : Work Nat := do
    let shell := shellNames.contains (commandName name)
    match shell, invocation? name arguments, arguments with
    | true, some invocation, _ => runInvocation run invocation
    | true, none, path :: rest =>
        match (← get).disk.readBytes (Path.ofString path) with
        | .ok bytes =>
            let script := String.ofList (Text.decodeLeniently bytes)
            runInvocation run ⟨script, path, rest, false⟩
        | .error _ =>
            Work.complain s!"{name}: 0: cannot open {path}: No such file"
            return 2
    | true, none, [] =>
        let script := String.ofList (Text.decodeLeniently (← Work.readAll))
        runInvocation run ⟨script, name, [], false⟩
    | false, _, _ => runProgram name arguments

/-- Runs the body of a function with arguments of its own. -/
def runFunction (body : Work Unit) (arguments : List String) : Work Nat := do
  let before := (← get).arguments
  modify fun machine => { machine with arguments := arguments }
  try
    body
  catch stop =>
    match stop with
    | .back status => Work.setStatus status
    | stop => throw stop
  modify fun machine => { machine with arguments := before }
  return (← get).status

/-- Runs a command on its own. `perform` runs the body of a function. -/
def runSimple (perform : Command → Work Unit) (run : String → Work Unit)
    (substitute : String → Work String) (simple : Simple) : Work Unit := do
  modify fun machine => { machine with line := simple.line }
  let before := (← get).status
  Work.setStatus 0
  let words ← do
    Work.setStatus before
    expandFields substitute simple.words
  match words with
  | [] =>
      Work.setStatus 0
      for (name, word) in simple.assignments do
        Work.setVariable name (← expandText substitute word)
      withRedirections substitute simple.redirections (pure ())
  | name :: arguments =>
      let assignments ← simple.assignments.mapM fun (name, word) =>
        return (name, ← expandText substitute word)
      if name = "exec" && arguments = [] then
        match ← redirect substitute (← get).streams simple.redirections with
        | .ok streams => modify fun machine => { machine with streams := streams, status := 0 }
        | .error message => giveUp message
      else
        withRedirections substitute simple.redirections do
          let work := match (← get).functions.lookup name with
            | some body => runFunction (perform body) arguments
            | none => runWords run name arguments
          Work.setStatus (← withVariables assignments work)
  checkStatus

mutual

def runScript : Nat → String → Work Unit
  | 0, _ => throw .unending
  | bound + 1, script => do
      match readScript script with
      | .ok command => runCommand bound command
      | .error error =>
          modify fun machine => { machine with line := 1 + (script.toList.filter (· = '\n')).length }
          giveUp error.message

/-- Runs a script for its output, without the ends of lines at its end. -/
def outputOf : Nat → String → Work String
  | 0, _ => throw .unending
  | bound + 1, script => do
      let buffer ← Work.newBuffer
      let streams := { (← get).streams with output := .buffer buffer }
      Work.withStreams streams (Work.apart (runScript bound script))
      let text := Text.decodeLeniently (← Work.contentOf buffer)
      return String.ofList (Text.trimRight (· = '\n') text)

def runCommand : Nat → Command → Work Unit
  | 0, _ => throw .unending
  | bound + 1, command => do
      match command with
      | .nothing => Work.setStatus 0
      | .simple simple =>
          runSimple (runCommand bound) (runScript bound) (outputOf bound) simple
      | .sequence first second =>
          runCommand bound first
          runCommand bound second
      | .both first second =>
          asTest (runCommand bound first)
          if (← get).status = 0 then
            runCommand bound second
      | .either first second =>
          asTest (runCommand bound first)
          if (← get).status ≠ 0 then
            runCommand bound second
      | .negation command =>
          asTest (runCommand bound command)
          Work.setStatus (if (← get).status = 0 then 1 else 0)
      | .pipe first second =>
          let buffer ← Work.newBuffer
          let streams := (← get).streams
          Work.withStreams { streams with output := .buffer buffer }
            (Work.apart (runCommand bound first))
          Work.withStreams { streams with input := some buffer }
            (Work.apart (runCommand bound second))
          checkStatus
      | .background command =>
          let clock := (← get).clock
          Work.withStreams { (← get).streams with input := none }
            (Work.apart (runCommand bound command))
          modify fun machine => { machine with clock := clock, status := 0 }
      | .group command redirections =>
          withRedirections (outputOf bound) redirections (runCommand bound command)
      | .subshell command =>
          Work.apart (runCommand bound command)
          checkStatus
      | .choice condition whenTrue whenFalse =>
          asTest (runCommand bound condition)
          if (← get).status = 0 then runCommand bound whenTrue
          else runCommand bound whenFalse
      | .branch word patterns body otherwise =>
          let text ← expandText (outputOf bound) word
          let patterns ← patterns.mapM fun pattern =>
            return Piece.patternOf (← expandWord (outputOf bound) pattern)
          if patterns.any fun pattern => PatternPart.stands pattern text.toList then
            runCommand bound body
          else
            runCommand bound otherwise
      | .function name body =>
          modify fun machine => { machine with
            functions := (name, body) :: machine.functions
            status := 0 }
      | .loop expected condition body => runLoop bound 0 expected condition body
      | .forEach name words body =>
          let fields ← match words with
            | some words => expandFields (outputOf bound) words
            | none => pure (← get).arguments
          Work.setStatus 0
          runForEach bound name fields body

/-- Runs a loop. Its status is that of the last run of its body. -/
def runLoop : Nat → Nat → Bool → Command → Command → Work Unit
  | 0, _, _, _, _ => throw .unending
  | bound + 1, last, expected, condition, body => do
      asTest (runCommand bound condition)
      if ((← get).status = 0) = expected then
        if ← runBody (runCommand bound body) then
          runLoop bound (← get).status expected condition body
      else
        Work.setStatus last

/-- Runs a command for each of some fields. -/
def runForEach : Nat → String → List String → Command → Work Unit
  | 0, _, _, _ => throw .unending
  | _ + 1, _, [], _ => pure ()
  | bound + 1, name, field :: fields, body => do
      Work.setVariable name field
      if ← runBody (runCommand bound body) then
        runForEach bound name fields body

end

end ProviderGen.Shell
