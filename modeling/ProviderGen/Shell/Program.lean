import ProviderGen.Shell.Condition
import ProviderGen.Shell.Files
import ProviderGen.Text.Sorted
import ProviderGen.Text.Split

namespace ProviderGen.Shell

namespace Program

def statusOf (holds : Bool) : Nat := if holds then 0 else 1

/-- Reads the files of some paths, or the input if there are none. -/
def readFiles (name : String) (paths : List String) : Work (List (String × List UInt8) × Nat) := do
  let paths := if paths = [] then ["-"] else paths
  let contents ← paths.mapM fun path => do
    if path = "-" then
      return some (path, ← Work.readAll)
    match (← get).disk.readBytes (Path.ofString path) with
    | .ok bytes => return some (path, bytes)
    | .error error =>
        Work.complain s!"{name}: {path}: {error.fault.text}"
        return none
  return (contents.filterMap id, statusOf (contents.all Option.isSome))

/-- Writes out files one after another. -/
def concatenate : Program := fun arguments => do
  let (contents, status) ← readFiles "cat" (arguments.filter (· ≠ "-u"))
  Work.writeBytes (contents.flatMap (·.2))
  return status

/-- Whether an argument holds nothing but the letters of options of `echo`. -/
def isEchoOption (argument : String) : Bool :=
  match argument.toList with
  | '-' :: letters => letters ≠ [] && letters.all ['n', 'e', 'E'].contains
  | _ => false

/-- Writes out its arguments. -/
def echo : Program := fun arguments => do
  let options := (arguments.takeWhile isEchoOption).flatMap String.toList
  let words := arguments.dropWhile isEchoOption
  let text := " ".intercalate words
  let escaped := (options.filter fun c => c = 'e' || c = 'E').getLast? = some 'e'
  let (bytes, stopped) :=
    if escaped then unescape .extended (text.length + 1) text.toList
    else (Text.encode text, false)
  Work.writeBytes bytes
  if !stopped && !options.contains 'n' then
    Work.write "\n"
  return 0

/-- Writes out its arguments as a format says. -/
def printFormatted (escapes : Escapes) (complain : String → Work Unit) : Program :=
  fun arguments => do
    match arguments with
    | [] =>
        complain "usage: printf format [arg ...]"
        return 2
    | format :: arguments =>
        let printed := printAll escapes format (arguments.length + 1) arguments
        for complaint in printed.complaints do
          complain complaint
        Work.writeBytes printed.bytes
        return statusOf (printed.complaints = [])

def test (complain : String → Work Unit) : Program := fun words => do
  match condition (← get).disk words with
  | .ok holds => return statusOf holds
  | .error error =>
      complain error.message
      return 2

def bracket (complain : String → Work Unit) : Program := fun words => do
  if words.getLast? = some "]" then
    test complain words.dropLast
  else
    complain "missing ]"
    return 2

/-- How many microseconds a unit of time has. -/
def unitOf? : List Char → Option Nat
  | [] | ['s'] => some 1000000
  | ['m'] => some 60000000
  | ['h'] => some 3600000000
  | ['d'] => some 86400000000
  | _ => none

/-- The microseconds of an amount of time in writing. -/
def timeOf? (text : String) : Option Nat := do
  let whole := text.toList.takeWhile Char.isDigit
  let rest := text.toList.dropWhile Char.isDigit
  let (fraction, rest) := match rest with
    | '.' :: rest => (rest.takeWhile Char.isDigit, rest.dropWhile Char.isDigit)
    | rest => ([], rest)
  if whole = [] && fraction = [] then
    none
  let unit ← unitOf? rest
  let digits := whole ++ fraction
  let number := digits.foldl (fun value c => value * 10 + Arithmetic.digitValue c) 0
  return number * unit / Nat.pow 10 fraction.length

/-- Waits for some time. -/
def sleep : Program := fun arguments => do
  let invalid := arguments.filter fun text => text ≠ "infinity" && (timeOf? text).isNone
  if arguments = [] then
    Work.complain "sleep: missing operand"
    Work.complain "Try 'sleep --help' for more information."
    return 1
  for text in invalid do
    Work.complain s!"sleep: invalid time interval ‘{text}’"
  if invalid ≠ [] then
    Work.complain "Try 'sleep --help' for more information."
    return 1
  if arguments.contains "infinity" then
    Work.wait none
  else
    Work.wait (some ((arguments.filterMap timeOf?).foldl (· + ·) 0))
  return 0

/-- Writes out the current directory. -/
def workingDirectory : Program := fun _ => do
  Work.write (toString (⟨.root, (← get).disk.current⟩ : Path) ++ "\n")
  return 0

/-- Writes out numbers in order. -/
def sequence : Program := fun arguments => do
  let bounds := match arguments.map String.toInt? with
    | [some last] => some (1, 1, last)
    | [some first, some last] => some (first, 1, last)
    | [some first, some step, some last] => some (first, step, last)
    | _ => none
  match bounds with
  | none =>
      Work.complain "seq: missing operand"
      return 1
  | some (first, step, last) =>
      if step = 0 then
        Work.complain "seq: invalid Zero increment value: '0'"
        return 1
      let count := if 0 < step then (last - first) / step + 1 else (first - last) / (-step) + 1
      let numbers := (List.range count.toNat).map fun (index : Nat) => first + step * (index : Int)
      Work.write (String.join (numbers.map fun number => toString number ++ "\n"))
      return 0

/-- Bytes cut after each end of a line. -/
def linesOf (bytes : List UInt8) : List (List UInt8) :=
  bytes.foldr
    (fun byte lines =>
      if byte = 10 then [byte] :: lines
      else
        match lines with
        | line :: lines => if line = [] then [byte] :: lines else (byte :: line) :: lines
        | [] => [[byte]])
    []

/-- The count that the options of `head` and `tail` give, whether it is one of bytes, and the
files. -/
def countOption : List String → Nat × Bool × List String
  | "-n" :: count :: rest => (count.toNat?.getD 10, false, rest)
  | "-c" :: count :: rest => (count.toNat?.getD 10, true, rest)
  | argument :: rest =>
      match argument.toList with
      | '-' :: 'n' :: digits => ((String.ofList digits).toNat?.getD 10, false, rest)
      | '-' :: 'c' :: digits => ((String.ofList digits).toNat?.getD 10, true, rest)
      | '-' :: digits =>
          match (String.ofList digits).toNat? with
          | some count => (count, false, rest)
          | none => (10, false, argument :: rest)
      | _ => (10, false, argument :: rest)
  | [] => (10, false, [])

/-- Writes out the first lines of files. -/
def firstLines : Program := fun arguments => do
  let (count, counts, paths) := countOption arguments
  let (contents, status) ← readFiles "head" paths
  let bytes := contents.flatMap (·.2)
  Work.writeBytes (if counts then bytes.take count else ((linesOf bytes).take count).flatten)
  return status

/-- Writes out the last lines of files. -/
def lastLines : Program := fun arguments => do
  let (count, counts, paths) := countOption arguments
  let (contents, status) ← readFiles "tail" paths
  let bytes := contents.flatMap (·.2)
  let last := fun {α : Type} (items : List α) => items.drop (items.length - count)
  Work.writeBytes (if counts then last bytes else (last (linesOf bytes)).flatten)
  return status

/-- Writes out how many lines, words and bytes there are. -/
def countAll : Program := fun arguments => do
  let (options, paths) := cutOptions arguments
  let (contents, status) ← readFiles "wc" paths
  let wordsOf := fun (bytes : List UInt8) =>
    let isGap := fun (byte : UInt8) => byte = 32 || (9 ≤ byte && byte ≤ 13)
    (bytes.zip (32 :: bytes)).countP fun (byte, before) => !isGap byte && isGap before
  let countsOf := fun (bytes : List UInt8) =>
    [('l', bytes.count 10), ('w', wordsOf bytes), ('c', bytes.length)]
  for (path, bytes) in contents do
    let counts := (countsOf bytes).filter fun (letter, _) => options = [] || options.contains letter
    let texts := counts.map fun (_, count) => toString count
    let padded := if texts.length = 1 then texts else texts.map fun text =>
      String.ofList (List.replicate (7 - text.length) ' ') ++ text
    Work.write (" ".intercalate (padded ++ if path = "-" then [] else [path]) ++ "\n")
  return status

/-- Writes out the lines of files in ascending order. -/
def sortLines : Program := fun arguments => do
  let (options, paths) := cutOptions arguments
  let (contents, status) ← readFiles "sort" paths
  let text := String.ofList (Text.decodeLeniently (contents.flatMap (·.2)))
  let lines := Text.pieces '\n' (if text.endsWith "\n" then (text.dropEnd 1).toString else text)
  let lines := if options.contains 'u' then Text.sortOnce lines else Text.sortBy id lines
  let lines := if options.contains 'r' then lines.reverse else lines
  if text ≠ "" then
    Work.write (String.join (lines.map (· ++ "\n")))
  return status

/-- Writes out the input, and copies it to files. -/
def copyInput : Program := fun arguments => do
  let (options, paths) := cutOptions arguments
  let bytes ← Work.readAll
  Work.writeBytes bytes
  forAll paths fun path => do
    match ← find path with
    | .ok ⟨place, node⟩ =>
        match options.contains 'a', node with
        | true, some (.file content) => put place (.file (content ++ bytes))
        | _, _ => put place (.file bytes)
        return true
    | .error fault => refuse s!"tee: {path}: {fault.text}"

/-- Writes out the last name of a path, without an ending if one is given. -/
def lastName : Program := fun arguments => do
  let name := (Path.ofString (arguments.headD "")).name
  let ending := (arguments.drop 1).headD ""
  let isCut := ending ≠ "" && name ≠ ending && name.endsWith ending
  let shown := if isCut then String.ofList (name.toList.take (name.length - ending.length)) else name
  Work.write (shown ++ "\n")
  return 0

/-- Writes out the path of the directory that holds a path. -/
def directoryName : Program := fun arguments => do
  Work.write (toString (Path.ofString (arguments.headD "")).parent ++ "\n")
  return 0

def signals : List (String × Nat) :=
  [("HUP", 1), ("INT", 2), ("QUIT", 3), ("ABRT", 6), ("KILL", 9), ("USR1", 10), ("SEGV", 11),
    ("USR2", 12), ("PIPE", 13), ("ALRM", 14), ("TERM", 15)]

def signalOf? (text : String) : Option Nat :=
  let plain := if text.startsWith "SIG" then (text.drop 3).toString else text
  (signals.lookup plain).orElse fun _ => text.toNat?

/-- Stops the shell itself with a signal. No other process can be stopped. -/
def kill (shell : String) (complain : String → Work Unit) : Program := fun arguments => do
  let (signal, targets) := match arguments with
    | "-s" :: name :: rest => (signalOf? name, rest)
    | argument :: rest =>
        match argument.toList with
        | '-' :: name => (signalOf? (String.ofList name), rest)
        | _ => (some 15, argument :: rest)
    | [] => (some 15, [])
  match signal with
  | none =>
      complain "Illegal option"
      return 2
  | some signal =>
      if targets.contains shell && signal ≠ 0 then
        throw (.killed signal)
      else if targets.all (· = shell) && targets ≠ [] then
        return 0
      else
        complain "No such process"
        return 1

/-- The commands of a system, by their names. -/
def table : List (String × Program) :=
  let complainAs := fun (name text : String) => Work.complain s!"{name}: {text}"
  [("true", fun _ => return 0),
    ("false", fun _ => return 1),
    ("echo", echo),
    ("printf", printFormatted .extended (complainAs "printf")),
    ("test", test (complainAs "test")),
    ("[", bracket (complainAs "[")),
    ("cat", concatenate),
    ("sleep", sleep),
    ("pwd", workingDirectory),
    ("seq", sequence),
    ("head", firstLines),
    ("tail", lastLines),
    ("tee", copyInput),
    ("wc", countAll),
    ("sort", sortLines),
    ("basename", lastName),
    ("dirname", directoryName),
    ("kill", kill "" (complainAs "kill")),
    ("touch", touch),
    ("mkdir", makeDirectories),
    ("rmdir", removeDirectories),
    ("rm", remove),
    ("cp", copy),
    ("mv", move),
    ("ln", link),
    ("ls", list)]

end Program

end ProviderGen.Shell
