import ProviderGen.Proofs.Agreement
import ProviderGen.Proofs.Leading
import ProviderGen.Proofs.Noting

namespace ProviderGen

namespace Generation

open Step

variable {runner : Runner} {path : Path} {project : Project} {output : Option String}
  {builds : Bool} {session after : Session} {generated : Generated} {failure : Failure}

variable [Interpreter]

theorem start_of_load (h : Project.load session.disk path = .ok project) :
    start path session = (.ok project, { session with stage := .loading }) := by
  simp [start, enter, update, andThen, onFailure, load, Step.disk, Step.ofExcept, h]

theorem start_of_load_error {error : ConfigurationError}
    (h : Project.load session.disk path = .error error) :
    start path session = (.error (.configuration error), { session with stage := .failed }) := by
  simp [start, enter, update, andThen, onFailure, load, Step.disk, Step.ofExcept, h]

/-- The session of a run once the project is loaded. -/
def begun (session : Session) (project : Project) : Session :=
  { session with stage := .loading }.tell
    ⟨log, ⟨.info, s!"Generating models for {project.root}"⟩⟩

theorem run_of_load (h : Project.load session.disk path = .ok project) :
    run runner path output builds session =
      ((buildAndGenerate runner project output builds).onFailure (.enter .failed) >>=
        fun generated => Step.enter .done >>= fun _ => pure generated)
          (begun session project) := by
  rw [run, bind_apply, andThen, start_of_load h]
  rfl

theorem run_of_load_error {error : ConfigurationError}
    (h : Project.load session.disk path = .error error) :
    run runner path output builds session =
      (.error (.configuration error), { session with stage := .failed }) := by
  rw [run, bind_apply, andThen, start_of_load_error h]

/-- What a run leaves that succeeds: the provider of the project, with its text in its place. -/
structure Written (project : Project) (generated : Generated) (after : Disk) : Prop where
  exists_text : ∃ text,
    Provider.source ⟨generated.models⟩ generated.className project.name = .ok text ∧
      ∃ before, Disk.Placed before generated.path (Text.encode text) after

end Generation

end ProviderGen
