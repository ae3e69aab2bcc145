import ProviderGen.Interpreter.Common
import ProviderGen.Proofs.Running

namespace ProviderGen

namespace Generation

open Step

variable {runner : Runner} {path : Path} {project : Project} {output : Option String}
  {builds : Bool} {session after : Session} {generated : Generated} {failure : Failure}

section Runs

variable [Interpreter]

theorem stage_build (runner : Runner) (logger : String) (call : Call) (session : Session) :
    (build runner logger call session).2.stage = session.stage := by
  obtain ⟨disk, log, calls, remarks, heq⟩ := exists_build runner logger call session
  rw [heq]

theorem stage_progress {α : Type} {logger message : String} {step : Step α}
    (h : ∀ session, (step session).2.stage = session.stage) (session : Session) :
    (progress logger message step session).2.stage = session.stage := by
  have hstep := h (session.tell ⟨logger, ⟨.info, message⟩⟩)
  simp only [progress, bind_apply, andThen, say, update, onFailure]
  cases hresult : step (session.tell ⟨logger, ⟨.info, message⟩⟩) with
  | mk result between =>
      rw [hresult] at hstep
      cases result with
      | ok value => exact hstep
      | error failure => cases failure <;> exact hstep

theorem stage_buildProject (runner : Runner) (project : Project) (session : Session) :
    (buildProject runner project session).2.stage = session.stage := by
  unfold buildProject
  split
  · rfl
  · exact stage_progress (stage_build runner _ _) session

theorem stage_of_buildAndGenerate_interrupted
    (h : buildAndGenerate runner project output builds session = (.error .interrupted, after)) :
    after.stage = .building := by
  have hgenerate : ∀ session, generate project output session ≠ (.error .interrupted, after) := by
    intro session hgenerate
    have hleads := leads_generate session.stage project output
    exact (hleads.stops session _ _ rfl hgenerate).ne_interrupted rfl
  cases builds with
  | false => exact absurd h (hgenerate session)
  | true =>
      rcases bind_apply_eq_error_iff.mp h with h | ⟨_, entered, hentered, h⟩
      · cases h
      rcases bind_apply_eq_error_iff.mp h with h | ⟨_, _, -, h⟩
      · obtain rfl : _ = entered := (Prod.mk.inj hentered).2
        have hstage := stage_buildProject runner project { session with stage := .building }
        rwa [h] at hstage
      · exact absurd h (hgenerate _)

theorem stage_of_run_error (h : run runner path output builds session = (.error failure, after)) :
    after.stage = if failure = .interrupted then .building else .failed := by
  cases hload : Project.load session.disk path with
  | error error =>
      rw [run_of_load_error hload] at h
      obtain ⟨hfailure, rfl⟩ := Prod.mk.inj h
      obtain rfl := Except.error.inj hfailure
      rfl
  | ok project =>
      rw [run_of_load hload] at h
      rcases bind_apply_eq_error_iff.mp h with h | ⟨_, _, -, h⟩
      · by_cases hfailure : failure = .interrupted
        · subst hfailure
          rw [onFailure_apply_interrupted_iff] at h
          exact stage_of_buildAndGenerate_interrupted h
        · obtain ⟨_, -, rfl⟩ := (onFailure_apply_eq_error_iff hfailure).mp h
          rw [if_neg hfailure]
          rfl
      · cases h

theorem stage_of_run_ok (h : run runner path output builds session = (.ok generated, after)) :
    after.stage = .done := by
  cases hload : Project.load session.disk path with
  | error error =>
      rw [run_of_load_error hload] at h
      cases (Prod.mk.inj h).1
  | ok project =>
      rw [run_of_load hload] at h
      obtain ⟨_, _, -, h⟩ := bind_apply_eq_ok_iff.mp h
      obtain ⟨-, rfl⟩ := Prod.mk.inj h
      rfl

/-- What can be asked of a session. -/
inductive Task
  | load (path : Path)
  | generate (project : Project) (output : Option String)
  | run (runner : Runner) (path : Path) (output : Option String) (builds : Bool)

/-- How a step fails, if it does, and the session it leaves. -/
def outcomeOf {α : Type} : Except Failure α × Session → Option Failure × Session
  | (.ok _, after) => (none, after)
  | (.error failure, after) => (some failure, after)

def Task.perform (session : Session) : Task → Option Failure × Session
  | .load path => outcomeOf (start path session)
  | .generate project output => outcomeOf (Generation.generate project output session)
  | .run runner path output builds =>
      outcomeOf (Generation.run runner path output builds session)

/-- What comes of a task: how it fails, if it does, and the stage after it. -/
structure Reply where
  task : Task
  failure : Option Failure
  stage : Stage

/-- What comes of tasks that follow each other, each on the disk that it finds then. -/
def replies : Session → List (Disk × Task) → List Reply
  | _, [] => []
  | session, (disk, task) :: rest =>
      let (failure, after) := task.perform { session with disk := disk }
      ⟨task, failure, after.stage⟩ :: replies after rest

/-- The stage after a task. Loading or a run that fails ends in the failed stage, and a run that
succeeds in the last one; one that is interrupted stays in the stage of building. Generating alone
stays in the stage in which it fails. How loading a document ends with half of a surrogate pair in it
is left open. -/
inductive Task.Leaves : Task → Option Failure → Stage → Prop
  | loaded (path : Path) : Leaves (.load path) none .loading
  | notLoaded (path : Path) (failure : Failure) : Leaves (.load path) (some failure) .failed
  | loadedOrNot (path : Path) (stage : Stage) :
      Leaves (.load path) (some (.configuration (.document .halfCharacter))) stage
  | generated (project : Project) (output : Option String) :
      Leaves (.generate project output) none .writing
  | notGenerated (project : Project) (output : Option String) {failure : Failure} {stage : Stage}
      (hwithin : failure.Within stage) : Leaves (.generate project output) (some failure) stage
  | done (runner : Runner) (path : Path) (output : Option String) (builds : Bool) :
      Leaves (.run runner path output builds) none .done
  | notDone (runner : Runner) (path : Path) (output : Option String) (builds : Bool)
      {failure : Failure} (hfailure : failure ≠ .interrupted) :
      Leaves (.run runner path output builds) (some failure) .failed
  | interrupted (runner : Runner) (path : Path) (output : Option String) (builds : Bool) :
      Leaves (.run runner path output builds) (some .interrupted) .building
  | doneOrNot (runner : Runner) (path : Path) (output : Option String) (builds : Bool)
      (stage : Stage) :
      Leaves (.run runner path output builds)
        (some (.configuration (.document .halfCharacter))) stage

theorem Task.leaves_perform (task : Task) (session : Session) :
    task.Leaves (task.perform session).1 (task.perform session).2.stage := by
  cases task with
  | load path =>
      simp only [perform]
      cases hload : Project.load session.disk path with
      | ok project =>
          rw [start_of_load hload]
          exact .loaded path
      | error error =>
          rw [start_of_load_error hload]
          exact .notLoaded path _
  | generate project output =>
      simp only [perform]
      have hleads := leads_generate session.stage project output
      cases hgenerate : Generation.generate project output session with
      | mk result after =>
          cases result with
          | ok made =>
              have hstage : after.stage = .writing := hleads.arrives _ _ _ rfl hgenerate
              simpa [outcomeOf, hstage] using Leaves.generated project output
          | error failure =>
              exact .notGenerated project output (hleads.stops _ _ _ rfl hgenerate)
  | run runner path output builds =>
      simp only [perform]
      cases hrun : Generation.run runner path output builds session with
      | mk result after =>
          cases result with
          | ok made =>
              simpa [outcomeOf, stage_of_run_ok hrun] using Leaves.done runner path output builds
          | error failure =>
              rw [outcomeOf, stage_of_run_error hrun]
              by_cases hfailure : failure = .interrupted
              · rw [if_pos hfailure, hfailure]
                exact .interrupted runner path output builds
              · rw [if_neg hfailure]
                exact .notDone runner path output builds hfailure

/-- Whatever a session has been through, and whatever happens to the disk between the tasks, each
task ends in the stage that goes with its kind and its failure. -/
theorem leaves_of_mem_replies {session : Session} {tasks : List (Disk × Task)} {reply : Reply}
    (h : reply ∈ replies session tasks) : reply.task.Leaves reply.failure reply.stage := by
  induction tasks generalizing session with
  | nil => cases h
  | cons first rest ih =>
      obtain ⟨disk, task⟩ := first
      rcases List.mem_cons.mp h with rfl | h
      · exact task.leaves_perform { session with disk := disk }
      · exact ih h

end Runs

open Interpreter.Common

def bareDisk : Disk := ⟨.directory [], [], "/"⟩

/-- A project with sources in a directory that the disk does not have. -/
def absentProject : Project where
  root := ⟨.root, []⟩
  name := "app"
  sourceDirectory := ⟨.root, ["src"]⟩
  outputDirectory := none
  discovery := .standard
  build := ⟨[], Project.standardTimeout⟩

/-- What comes of generating the provider of that project. -/
def absentReply : Reply :=
  ⟨.generate absentProject none, some (.collection (.noDirectory ⟨.root, ["src"]⟩)), .collecting⟩

theorem absentReply_mem :
    absentReply ∈ replies (.start bareDisk)
      [(bareDisk, .load ⟨.root, []⟩), (bareDisk, .generate absentProject none)] :=
  List.mem_cons_of_mem _ (List.mem_singleton_self _)

theorem leaves_of_mem_replies_absent :
    absentReply ∈ replies (.start bareDisk)
        [(bareDisk, .load ⟨.root, []⟩), (bareDisk, .generate absentProject none)] ∧
      absentReply.task.Leaves absentReply.failure absentReply.stage :=
  ⟨absentReply_mem, leaves_of_mem_replies absentReply_mem⟩

/-- Not everything that fails ends in the failed stage. -/
theorem not_forall_stage_failed :
    ¬ ∀ (session : Session) (tasks : List (Disk × Task)), ∀ reply ∈ replies session tasks,
      reply.failure ≠ none → reply.stage = .failed := by
  intro h
  exact absurd (h _ _ absentReply absentReply_mem (by simp [absentReply])) (by decide)

end Generation

end ProviderGen
