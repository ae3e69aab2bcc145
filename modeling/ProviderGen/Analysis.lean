import ProviderGen.Detection
import ProviderGen.Disk.Access
import ProviderGen.Log
import ProviderGen.Model

namespace ProviderGen

/-- What can be wrong with a source file. -/
inductive FileFlaw
  | notText (flaw : Text.Utf8Flaw)
  | invalidSyntax (line : Nat) (complaint : String)
  | outside (root : Path)
  | notImportable (error : ModuleNameError)
  | alreadyDeclared (model : String) (owner : Path)
  deriving DecidableEq, Repr

def FileFlaw.message : FileFlaw → String
  | notText flaw => s!"not valid UTF-8 text ({flaw.fault.reason})"
  | invalidSyntax line complaint => s!"invalid syntax at line {line}: {complaint}"
  | outside root => s!"file is outside the source root {root}"
  | notImportable error => error.message
  | alreadyDeclared model owner => s!"model '{model}' is already declared in {owner}"

/-- Why the analysis of files fails: because of a file, which is named, or because of what the
parser or the disk refuses. -/
inductive AnalysisError
  | flawed (path : Path) (flaw : FileFlaw)
  | refused (error : DiskError)
  | nullCharacter
  | brokenDown (message : String)
  | linkLoop (path : Path)
  deriving DecidableEq, Repr

def AnalysisError.message : AnalysisError → String
  | flawed path flaw => s!"{path}: {flaw.message}"
  | refused error => error.message
  | nullCharacter => "source code string cannot contain null bytes"
  | brokenDown message => message
  | linkLoop path => s!"Symlink loop from {Text.quoted path.toString}"

/-- Where the analysis of files takes place: the disk, what to look for, and the directory that
imports start from. -/
structure Workplace where
  disk : Disk
  discovery : Discovery
  root : Path

namespace Workplace

/-- A path free of links, for the import path of a file. With a null character in it, it lies
outside the root. -/
def resolve (workplace : Workplace) (file path : Path) : Except AnalysisError Path :=
  match workplace.disk.resolve path with
  | .ok path => .ok path
  | .error (.linkLoop path) => .error (.linkLoop path)
  | .error .nullCharacter => .error (.flawed file (.outside workplace.root))

/-- The path of a file as seen from the import root, if it can be imported. -/
def importPath (workplace : Workplace) (path : Path) : Except AnalysisError String := do
  let file ← workplace.resolve path path
  let root ← workplace.resolve path workplace.root
  match file.relativeTo? root with
  | none => .error (.flawed path (.outside workplace.root))
  | some relative =>
      match moduleName relative.toString with
      | .error error => .error (.flawed path (.notImportable error))
      | .ok _ => .ok relative.toString

/-- The model of what was detected in a file. -/
def modelOf (importPath : String) (detected : Detected) : Model where
  name := detected.name
  importPath := importPath
  serializer := .ofMethod detected.serialize
  deserializer := .ofMethod detected.deserialize

variable [Interpreter]

/-- The outline of the text of a file. -/
def outlineOf (path : Path) (text : String) : Except AnalysisError Source.Outline :=
  match Source.outline text with
  | .ok outline => .ok outline
  | .error .nullCharacter => .error .nullCharacter
  | .error (.invalidSyntax line complaint) => .error (.flawed path (.invalidSyntax line complaint))
  | .error (.brokenDown message) => .error (.brokenDown message)

/-- The models that a text declares, as the text of a file. -/
def analyzeText (workplace : Workplace) (path : Path) (text : String) :
    Logged AnalysisError (List Model) := do
  let outline ← Logged.ofExcept (outlineOf path text)
  if Detection.classes outline = [] then
    .debug s!"No public classes found in {path}; skipping"
    return []
  let detected := detect workplace.discovery outline
  if detected = [] then
    return []
  -- Only now is the path asked for: a file without models may lie anywhere.
  let importPath ← Logged.ofExcept (workplace.importPath path)
  let remarks := detected.map fun one =>
    ⟨.debug, s!"Detected model {one.name} in {importPath}"⟩
  ⟨remarks, .ok (detected.map (modelOf importPath))⟩

def readText (workplace : Workplace) (path : Path) : Except AnalysisError String :=
  match workplace.disk.readBytes path with
  | .error error => .error (.refused error)
  | .ok bytes =>
      match Text.decodeStrictly bytes with
      | .error flaw => .error (.flawed path (.notText flaw))
      | .ok text => .ok (String.ofList (Text.unifyLines text))

/-- Adds models of a file to those known, each with the file that declares it. A file may be
analysed again, which adds nothing. -/
def register (path : Path) :
    List (Model × Path) → List Model → Except AnalysisError (List (Model × Path))
  | known, [] => .ok known
  | known, model :: models =>
      match known.find? fun entry => entry.1.name = model.name with
      | none => register path (known ++ [(model, path)]) models
      | some (_, owner) =>
          if owner = path then register path known models
          else .error (.flawed path (.alreadyDeclared model.name owner))

/-- The models that files declare, after those that are known. -/
def analyzeFrom (workplace : Workplace) :
    List (Model × Path) → List Path → Logged AnalysisError (List (Model × Path))
  | known, [] => return known
  | known, path :: paths => do
      let text ← Logged.ofExcept (workplace.readText path)
      let models ← workplace.analyzeText path text
      let known ← Logged.ofExcept (register path known models)
      workplace.analyzeFrom known paths

/-- The models that files declare, in the order of the files. -/
def analyze (workplace : Workplace) (paths : List Path) : Logged AnalysisError (List Model) := do
  return (← workplace.analyzeFrom [] paths).map (·.1)

end Workplace

end ProviderGen
