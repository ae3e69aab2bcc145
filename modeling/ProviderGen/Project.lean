import ProviderGen.Configuration.Setting
import ProviderGen.Discovery
import ProviderGen.Disk.Access
import ProviderGen.Interpreter
import ProviderGen.Yaml.Reading

namespace ProviderGen

/-- The command that builds a project, and how many seconds it may take. -/
structure BuildPlan where
  command : List String
  timeout : Binary64
  deriving DecidableEq, Repr

structure Project where
  root : Path
  name : String
  sourceDirectory : Path
  outputDirectory : Option Path
  discovery : Discovery
  build : BuildPlan
  deriving DecidableEq, Repr

namespace Project

/-- How many seconds a build may take if the configuration does not say so. -/
def standardTimeout : Binary64 := .ofDecimal false 600 0

/-- The path of a home directory that is known by its text, with some names below it. -/
def homePath? (home : String) (names : List String) : Option Path :=
  if home.toList.head? = some '~' then
    none
  else
    let path := Path.ofString (if home.toList.all (· = '/') then "/" else home)
    some { path with names := path.names ++ names }

/-- A path with a home directory in place of a tilde, or of a tilde and the name of a user. -/
def expandHome [Interpreter] (disk : Disk) (path : Path) : Option Path :=
  match path.anchor, path.names with
  | .relative, first :: rest =>
      match first.toList with
      | ['~'] => homePath? disk.home rest
      | '~' :: user =>
          -- Nobody is asked for a name with a null character, which fails the use of the path.
          if user.contains '\x00' then some path
          else (Interpreter.homeOf? (String.ofList user)).bind (homePath? · rest)
      | _ => some path
  | _, _ => some path

/-- The settings in a text that is not blank: a mapping, or nothing at all. -/
def settingsOf [Interpreter] (text : String) :
    Except ConfigurationError (List (String × Value)) :=
  match Interpreter.documentBreakdown? text with
  | some message => .error (.brokenDown message)
  | none =>
      match Yaml.read text with
      | .error .malformed => .error (.flawed (.malformed (Interpreter.documentComplaint text)))
      | .error error => .error (.document error)
      | .ok .null => .ok []
      | .ok (.mapping entries) => .ok entries
      | .ok _ => .error (.flawed .notMapping)

/-- The settings in a configuration file. -/
def readSettings [Interpreter] (disk : Disk) (file : Path) :
    Except ConfigurationError (List (String × Value)) := do
  let bytes ← (disk.readBytes file).mapError fun error => .flawed (.refused error)
  let text ← (Text.decodeStrictly bytes).mapError fun flaw => .flawed (.notText flaw)
  let text := Text.unifyLines text
  if Text.trim text = [] then
    return []
  settingsOf (String.ofList text)

/-- What to look for, by the settings for models. -/
def discoveryOf (entries : List (String × Value)) : Except ConfigurationFlaw Discovery := do
  let listed := fun (error : Setting.KeywordListError) =>
    match error with
    | .flawed flaw => flaw
    | .tooLong => .longInteger
  let extensions ←
    (Setting.texts (Setting.valueOf entries "extensions")).mapError fun _ => .longInteger
  let serialize ←
    (Setting.keywords entries ["serialize_keywords", "serializeKeywords"]).mapError listed
  let deserialize ←
    (Setting.keywords entries ["deserialize_keywords", "deserializeKeywords"]).mapError listed
  (Discovery.ofTexts extensions serialize deserialize).mapError .keyword

/-- The build command of a setting. A single text is cut into words. -/
def commandOf : Value → Except ConfigurationError (List String)
  | .text text => (Text.commandWords text).mapError .command
  | value => (Setting.texts value).mapError fun _ => .longInteger

/-- How many seconds a build may take, by its settings. -/
def timeoutOf (entries : List (String × Value)) : Except ConfigurationError Binary64 :=
  match Value.lookup "timeout" entries with
  | none => .ok standardTimeout
  | some value =>
      match Setting.real? value with
      | .error _ => .error .hugeTimeout
      | .ok none => .error (.flawed .wrongTimeout)
      | .ok (some timeout) =>
          -- What is no number is not at most zero, and so it is taken.
          if timeout.isAtMostZero then .error (.flawed .wrongTimeout) else .ok timeout

/-- The project of a directory with some settings. -/
def ofSettings (root : Path) (settings : List (String × Value)) :
    Except ConfigurationError Project := do
  let text := fun key =>
    match Setting.text? (Setting.valueOf settings key) with
    | .ok text => .ok (text.filter (· ≠ ""))
    | .error _ => .error ConfigurationError.longInteger
  let name ← text "name"
  let source ← text "source_dir"
  let output ← text "output_dir"
  let directory := fun (text : String) => root.under (.ofString text)
  let models := Setting.entries (Setting.valueOf settings "models")
  let discovery ← (discoveryOf models).mapError .flawed
  let build := Setting.entries (Setting.valueOf settings "build")
  let command ← commandOf (Setting.valueOf build "command")
  let timeout ← timeoutOf build
  return {
    root := root
    name := name.getD root.name
    sourceDirectory := directory (source.getD ".")
    outputDirectory := output.map directory
    discovery := discovery
    build := ⟨command, timeout⟩ }

def load [Interpreter] (disk : Disk) (path : Path) : Except ConfigurationError Project := do
  let some expanded := expandHome disk path | throw .noHome
  let root ← (disk.resolve expanded).mapError fun error =>
    match error with
    | .linkLoop path => .linkLoop path
    | .nullCharacter => .nullCharacter
  if !disk.isDirectory root then
    throw (.flawed (.noProject path))
  let file := root.child configurationFile
  let settings ← if disk.isThere file then readSettings disk file else pure []
  ofSettings root settings

end Project

end ProviderGen
