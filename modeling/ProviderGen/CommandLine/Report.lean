import ProviderGen.CommandLine.Request
import ProviderGen.Generation

namespace ProviderGen.CommandLine

/-- The status of a run that reaches its end. -/
def successStatus : Nat := 0

def failureStatus : Nat := 1

/-- The status of arguments that cannot be understood. -/
def usageStatus : Nat := 2

/-- The status of a project whose configuration is flawed. -/
def configurationStatus : Nat := 78

/-- How a command line ends: it comes to its status, it stops early with one, or it breaks off. How
it ends is left open if a text of the configuration holds half of a surrogate pair. -/
inductive Finish
  | returned (status : Nat)
  | stopped (status : Nat)
  | broken (failure : Failure)
  | leftOpen
  deriving DecidableEq, Repr

structure Report where
  output : String
  errors : String
  disk : Disk
  finish : Finish

/-- How a failure is put: the configuration is to blame, or the run. Other failures break off. -/
inductive Blame
  | configuration
  | run
  deriving DecidableEq, Repr

/-- Whether an error in a document only says that a value is wrong. -/
def isWrongValue : Yaml.DocumentError → Bool
  | .hugeCharacter | .hugeBase | .emptyNumber | .unknownTruth _ | .notMoment => false
  | _ => true

/-- What is to blame for a failure, if the failure is one that is shown. -/
def blame? : Failure → Option Blame
  | .configuration (.flawed _) => some .configuration
  | .configuration (.document error) => if isWrongValue error then some .run else none
  | .configuration (.command _) | .configuration .longInteger | .configuration .nullCharacter =>
      some .run
  | .configuration _ => none
  | .build .hugeLimit => none
  | .analysis (.linkLoop _) | .analysis (.brokenDown _) => none
  | .build _ | .collection _ | .analysis _ | .provider _ | .disk _ => some .run
  | .elsewhere .wrongValue _ => some .run
  | .noHome | .elsewhere .unknown _ | .interrupted => none

namespace Blame

def status : Blame → Nat
  | configuration => configurationStatus
  | run => failureStatus

def text (message : String) : Blame → String
  | configuration => s!"Failed to load project configuration: {message}\n"
  | run =>
      s!"{Scope.models.name} failed: {message}\n" ++ "Run with --verbose for more details.\n"

end Blame

/-- How the path of a provider is shown: as seen from the current directory, if it lies there. -/
def shownPath (disk : Disk) (path : Path) : Path :=
  (path.relativeTo? ⟨.root, disk.current⟩).getD path

/-- What is shown of a provider that was generated. -/
def generatedText (disk : Disk) (generated : Generated) : String :=
  let names := if generated.models = [] then "(none)" else ", ".intercalate generated.names
  s!"Model provider generated at {shownPath disk generated.path}: {names}\n"

def Request.logSetting (request : Request) : LogSetting :=
  ⟨request.verbose, request.logFile.map Path.ofString⟩

/-- The report on a run that has gone through a session. -/
def reportOn (setting : LogSetting) (result : Except Failure Generated) (session : Session) :
    Report :=
  let disk := session.disk
  let shown := setting.consoleText session.records
  match result with
  | .ok generated => ⟨generatedText disk generated, shown, disk, .returned successStatus⟩
  | .error (.configuration (.document .halfCharacter)) => ⟨"", shown, disk, .leftOpen⟩
  | .error failure =>
      match blame? failure with
      | some blame =>
          ⟨"", shown ++ blame.text failure.message, disk, .returned blame.status⟩
      | none => ⟨"", shown, disk, .broken failure⟩

section Run

variable [Interpreter]

def reportOnRequest (runner : Runner) (disk : Disk) (request : Request) : Report :=
  let setting := request.logSetting
  match setting.start disk with
  | .error error => ⟨"", "", disk, .broken (.disk error)⟩
  | .ok (log, disk) =>
      let project := Path.ofString request.project
      let session := { Session.start disk with log := log }
      let (result, session) :=
        Generation.run runner project request.output (!request.skipBuild) session
      reportOn setting result session

end Run

/-- The report on arguments that ask for nothing. -/
def reportOnRefusal (disk : Disk) : Refusal → Report
  | .help scope => ⟨scope.helpText, "", disk, .stopped successStatus⟩
  | .usage scope error =>
      let text := scope.usageText ++ s!"{scope.name}: error: {error.message}\n"
      ⟨"", text, disk, .stopped usageStatus⟩

def report [Interpreter] (runner : Runner) (disk : Disk) (arguments : List String) : Report :=
  match ask arguments with
  | .ok request => reportOnRequest runner disk request
  | .error refusal => reportOnRefusal disk refusal

end ProviderGen.CommandLine
