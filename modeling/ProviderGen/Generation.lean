import ProviderGen.ProviderName
import ProviderGen.Scanning

namespace ProviderGen

/-- What was generated: where the provider is, its class, and its models. -/
structure Generated where
  path : Path
  models : List Model
  className : String
  deriving DecidableEq, Repr

def Generated.names (generated : Generated) : List String :=
  generated.models.map (·.name)

namespace Generation

def log : String := "orchestrator"

variable [Interpreter]

/-- Loads the project of a directory. -/
def load (path : Path) : Step Project := do
  let disk ← Step.disk
  .ofExcept ((Project.load disk path).mapError .configuration)

/-- Loads the project of a directory as the first stage of a run. -/
def start (path : Path) : Step Project := do
  .enter .loading
  (load path).onFailure (.enter .failed)

/-- Runs a command and writes its lines to a log. -/
def runCommand (runner : Runner) (logger : String) (call : Call) : Step Ending := fun session =>
  let (ending, session) := session.follow logger (runner session.disk call)
  (.ok ending, { session with calls := session.calls ++ [call] })

def build (runner : Runner) (logger : String) (call : Call) : Step Unit :=
  match call.command with
  | [] => .say logger .debug "No build command configured; skipping build step"
  | name :: _ => do
      .say logger .debug ("Running build command: " ++ " ".intercalate call.command)
      let ending ← runCommand runner logger call
      .ofExcept (ending.judge name)

def buildProject (runner : Runner) (project : Project) : Step Unit :=
  if project.build.command = [] then
    .say log .debug "Build step disabled; using companion files already on disk"
  else
    let call := ⟨project.build.command, project.root, some (.real project.build.timeout)⟩
    progress log "Running build step..." (build runner (log ++ ".build") call)

/-- Where the provider of a project goes: to a given directory, or to that of the project. -/
def targetOf (disk : Disk) (project : Project) (output : Option String) :
    Except Failure Path := do
  let directory ← match output with
    | none => pure (project.outputDirectory.getD project.root)
    | some output =>
        match Project.expandHome disk (.ofString output) with
        | none => throw .noHome
        | some directory => pure (Path.under ⟨.root, disk.current⟩ directory)
  return directory.child providerFile

/-- Writes a text to a file. A log file whose place it takes has no place from then on. -/
def write (target : Path) (text : String) : Step Unit := fun session =>
  match session.disk.replaceFile target (Text.encode text) with
  | (disk, .error error) => (.error (.disk error), { session with disk := disk })
  | (disk, .ok ()) =>
      let made := session.disk.prepared target
      (.ok (), { session with
        disk := disk
        log := session.log.filter fun file => !file.isAt made target })

/-- Collects and analyses the sources of a project, and writes the provider of the models found. -/
def writeProvider (project : Project) (output : Option String) : Step Generated := do
  .enter .collecting
  let discovery := project.discovery
  let source := project.sourceDirectory
  let files ← Scanning.collect (log ++ ".collector") discovery source
  .enter .analyzing
  let models ← Scanning.analyze (log ++ ".analyzer") discovery source files
  .enter .emitting
  let className := providerName project.name
  let text ← .ofExcept ((Provider.source ⟨models⟩ className project.name).mapError .provider)
  .enter .writing
  let disk ← Step.disk
  let target ← .ofExcept (targetOf disk project output)
  write target text
  return ⟨target, models, className⟩

/-- Generates the provider of a project that is loaded. -/
def generate (project : Project) (output : Option String) : Step Generated := do
  let generated ← progress log "Generating model provider..." (writeProvider project output)
  if generated.models = [] then
    .say log .warning s!"No models discovered under {project.sourceDirectory}"
  else
    .say log .info ("Added " ++ ", ".intercalate generated.names ++ " to the model provider")
  .say log .info s!"Model provider written to {generated.path}"
  return generated

/-- Builds a project, unless that is to be left out, and generates its provider. -/
def buildAndGenerate (runner : Runner) (project : Project) (output : Option String)
    (builds : Bool) : Step Generated := do
  if builds then
    .enter .building
    buildProject runner project
  generate project output

def run (runner : Runner) (path : Path) (output : Option String) (builds : Bool) :
    Step Generated := do
  let project ← start path
  .say log .info s!"Generating models for {project.root}"
  let generated ← (buildAndGenerate runner project output builds).onFailure (.enter .failed)
  .enter .done
  return generated

end Generation

end ProviderGen
