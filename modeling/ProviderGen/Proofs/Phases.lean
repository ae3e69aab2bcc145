import ProviderGen.Interpreter.Common
import ProviderGen.Proofs.Stages

/-!
The phases of a whole run: the configuration is loaded, the project is built, and its provider is
generated on the disk that the build left, by the configuration from before it. No log file is kept
meanwhile, which would change the disk as well.
-/

namespace ProviderGen

theorem Ending.judge_eq_ok_iff {ending : Ending} {name : String} :
    ending.judge name = .ok () ↔ ending = .exited 0 := by
  cases ending with
  | exited status => by_cases h : status = 0 <;> simp [judge, h]
  | timedOut limit => cases h : limit.isHuge <;> simp [judge, h]
  | refused error => by_cases h : error.fault = .notFound <;> simp [judge, h]
  | threw thrown message => simp [judge]
  | interrupted => simp [judge]

namespace Generation

open Step

variable {runner other : Runner} {path : Path} {project : Project} {output : Option String}
  {builds : Bool} {session : Session}

section Runs

variable [Interpreter]

/-- What a step comes to: its result, the disk, and the commands that were run. The records and the
stage are left out. -/
def observe {α : Type} (outcome : Except Failure α × Session) :
    Except Failure α × Disk × List Call :=
  (outcome.1, outcome.2.disk, outcome.2.calls)

theorem observe_progress {α : Type} {logger message : String} {step : Step α}
    (hlog : session.log = none)
    (hrecords : ∀ session records, session.log = none →
      observe (step { session with records := records }) = observe (step session))
    (hquiet : ∀ session, session.log = none → (step session).2.log = none) :
    observe (progress logger message step session) = observe (step session) := by
  have htold := Session.tell_of_noLog hlog ⟨logger, ⟨.info, message⟩⟩
  rw [← hrecords session (session.records ++ [⟨logger, ⟨.info, message⟩⟩]) hlog, ← htold]
  have hafter := hquiet (session.tell ⟨logger, ⟨.info, message⟩⟩) hlog
  simp only [progress, bind_apply, andThen, say, update, onFailure]
  cases hresult : step (session.tell ⟨logger, ⟨.info, message⟩⟩) with
  | mk result between =>
      rw [hresult] at hafter
      cases result with
      | ok value => simp [observe, Session.tell_of_noLog hafter]
      | error failure => cases failure <;> simp [observe, Session.tell_of_noLog hafter]

/-- The call of the runner that builds a project. -/
def callOf (project : Project) : Call :=
  ⟨project.build.command, project.root, some (.real project.build.timeout)⟩

theorem build_eq {name : String} {arguments : List String} (runner : Runner) (logger : String)
    {call : Call} (h : call.command = name :: arguments) (hlog : session.log = none) :
    let outcome := (runner session.disk call).outcome
    build runner logger call session =
      (outcome.ending.judge name,
        { session with
          disk := outcome.disk
          records := session.records ++
            ⟨logger, ⟨.debug, "Running build command: " ++ " ".intercalate call.command⟩⟩ ::
              outcome.lines.map fun line => ⟨logger, ⟨.info, line⟩⟩
          calls := session.calls ++ [call] }) := by
  have htold := Session.tell_of_noLog hlog
    ⟨logger, ⟨.debug, "Running build command: " ++ " ".intercalate (name :: arguments)⟩⟩
  simp only [build, h, bind_apply, andThen, say, update, runCommand, Step.ofExcept, htold]
  rw [Session.follow_of_noLog (by exact hlog)]
  simp

theorem observe_build {name : String} {arguments : List String} {logger : String} {call : Call}
    (h : call.command = name :: arguments) (hlog : session.log = none) :
    observe (build runner logger call session) =
      ((runner session.disk call).outcome.ending.judge name,
        (runner session.disk call).outcome.disk, session.calls ++ [call]) := by
  rw [build_eq runner logger h hlog]
  rfl

theorem observe_buildProject {name : String} {arguments : List String} (runner : Runner)
    (h : project.build.command = name :: arguments) (hlog : session.log = none) :
    observe (buildProject runner project session) =
        ((runner session.disk (callOf project)).outcome.ending.judge name,
          (runner session.disk (callOf project)).outcome.disk,
          session.calls ++ [callOf project]) ∧
      (buildProject runner project session).2.log = none := by
  have hcall : (callOf project).command = name :: arguments := h
  have hcommand : project.build.command ≠ [] := by simp [h]
  have hquiet : ∀ session, session.log = none →
      (build runner (log ++ ".build") (callOf project) session).2.log = none := by
    intro session hlog
    rw [build_eq runner _ hcall hlog]
    exact hlog
  rw [buildProject, if_neg hcommand]
  constructor
  · refine (observe_progress hlog ?_ hquiet).trans (observe_build hcall hlog)
    intro session records hlog
    exact (observe_build hcall (by exact hlog)).trans (observe_build hcall hlog).symm
  · exact log_progress hlog hquiet

theorem observe_generate (project : Project) (output : Option String) (hlog : session.log = none) :
    observe (generate project output session) =
      ((planned session.disk project output).1, (planned session.disk project output).2,
        session.calls) := by
  have hyields : ((generate project output session).1, (generate project output session).2.disk) =
      planned session.disk project output := (yields_generate project output session hlog).1
  rw [observe, ← hyields, (leads_generate session.stage project output).calls_eq]

theorem disk_begun (hlog : session.log = none) : (begun session project).disk = session.disk := by
  simp [begun, Session.tell, hlog]

theorem observe_run (runner : Runner) (output : Option String) (builds : Bool)
    (h : Project.load session.disk path = .ok project) :
    observe (run runner path output builds session) =
      observe (buildAndGenerate runner project output builds (begun session project)) := by
  rw [run_of_load h, bind_apply, andThen, onFailure]
  cases buildAndGenerate runner project output builds (begun session project) with
  | mk result after =>
      cases result with
      | ok generated => rfl
      | error failure => cases failure <;> rfl

/-- A run of a loaded project builds it. -/
def Builds (project : Project) (builds : Bool) : Prop :=
  builds = true ∧ project.build.command ≠ []

theorem observe_buildAndGenerate_of_not_builds (h : ¬ Builds project builds)
    (hlog : session.log = none) :
    observe (buildAndGenerate runner project output builds session) =
      observe (generate project output session) := by
  cases builds with
  | false => rfl
  | true =>
      have hcommand : project.build.command = [] := by simpa [Builds] using h
      have hbuild : ∀ session, buildProject runner project session =
          say log .debug "Build step disabled; using companion files already on disk" session := by
        intro session
        rw [buildProject, if_pos hcommand]
      have hbuilding : { session with stage := .building }.log = none := hlog
      have htold := Session.tell_of_noLog hbuilding
        ⟨log, ⟨.debug, "Build step disabled; using companion files already on disk"⟩⟩
      simp only [buildAndGenerate, if_true, bind_apply, andThen, enter, update, hbuild, say, htold]
      rw [observe_generate project output (by exact hlog), observe_generate project output hlog]

theorem observe_buildAndGenerate_of_builds {name : String} {arguments : List String}
    (runner : Runner) (output : Option String) (hcommand : project.build.command = name :: arguments)
    (hlog : session.log = none) :
    let outcome := (runner session.disk (callOf project)).outcome
    let after := { session with
      disk := outcome.disk
      calls := session.calls ++ [callOf project] }
    observe (buildAndGenerate runner project output true session) =
      match outcome.ending.judge name with
      | .ok () => observe (generate project output after)
      | .error failure => observe (.error failure, after) := by
  intro outcome after
  have hbuilding : { session with stage := .building }.log = none := hlog
  have hafter : after.log = none := hlog
  obtain ⟨hbuild, hnone⟩ := observe_buildProject runner hcommand hbuilding
  simp only [buildAndGenerate, if_true, bind_apply, andThen, enter, update]
  cases hbuilt : buildProject runner project { session with stage := .building } with
  | mk result built =>
      simp only [hbuilt, observe, Prod.mk.injEq] at hbuild hnone
      obtain ⟨rfl, hdisk, hcalls⟩ := hbuild
      cases outcome.ending.judge name with
      | ok _ =>
          dsimp only
          rw [observe_generate project output hnone,
            observe_generate project output hafter, hdisk, hcalls]
      | error failure =>
          simp only [observe, hdisk, hcalls]
          rfl

theorem build_congr {logger : String} {call : Call} (hlog : session.log = none)
    (h : other session.disk call = runner session.disk call) :
    build other logger call session = build runner logger call session := by
  obtain ⟨command, directory, timeout⟩ := call
  cases command with
  | nil => rfl
  | cons name arguments => rw [build_eq other logger rfl hlog, build_eq runner logger rfl hlog, h]

theorem buildProject_congr (hlog : session.log = none)
    (h : other session.disk (callOf project) = runner session.disk (callOf project)) :
    buildProject other project session = buildProject runner project session := by
  let record : Record := ⟨log, ⟨.info, "Running build step..."⟩⟩
  have hdisk : (session.tell record).disk = session.disk := by
    rw [Session.tell_of_noLog hlog]
  have hsame : build other (log ++ ".build") (callOf project) (session.tell record) =
      build runner (log ++ ".build") (callOf project) (session.tell record) :=
    build_congr hlog (by rw [hdisk, h])
  unfold buildProject
  split
  · rfl
  · simp only [progress, bind_apply, andThen, say, update, onFailure]
    rw [callOf] at hsame
    rw [hsame]

theorem buildAndGenerate_congr (hlog : session.log = none) (h : Builds project builds →
      other session.disk (callOf project) = runner session.disk (callOf project)) :
    buildAndGenerate other project output builds session =
      buildAndGenerate runner project output builds session := by
  cases builds with
  | false => rfl
  | true =>
      have hbuild : buildProject other project { session with stage := .building } =
          buildProject runner project { session with stage := .building } := by
        by_cases hcommand : project.build.command = []
        · simp only [buildProject, if_pos hcommand]
        · exact buildProject_congr hlog (h ⟨rfl, hcommand⟩)
      simp only [buildAndGenerate, if_true, bind_apply, andThen, enter, update, hbuild]

theorem run_congr (hlog : session.log = none)
    (h : ∀ project, Project.load session.disk path = .ok project → Builds project builds →
      other session.disk (callOf project) = runner session.disk (callOf project)) :
    run other path output builds session = run runner path output builds session := by
  cases hload : Project.load session.disk path with
  | error error => rw [run_of_load_error hload, run_of_load_error hload]
  | ok project =>
      have hsame : buildAndGenerate other project output builds (begun session project) =
          buildAndGenerate runner project output builds (begun session project) := by
        refine buildAndGenerate_congr hlog fun hbuilds => ?_
        rw [disk_begun hlog]
        exact h project hload hbuilds
      simp only [run_of_load hload, bind_apply, andThen, onFailure, hsame]

/-- Generating on a disk, in whatever session, comes to a result and leaves another disk. -/
def Generates (project : Project) (output : Option String) (disk : Disk)
    (result : Except Failure Generated) (left : Disk) : Prop :=
  ∀ session : Session, session.log = none → session.disk = disk →
    (generate project output session).1 = result ∧ (generate project output session).2.disk = left

/-- The four ways a run can go. Its project cannot be loaded; or it is not built; or the command
that builds it does not end well, which leaves the disk as the command did; or that command ends
well. If the project is loaded and is not kept from being generated by its build, it is generated as
it was loaded, on the disk that is left by then. The command is run once if the project is built. How
a run goes is left open if a text of the configuration holds half of a surrogate pair. -/
inductive Phases (runner : Runner) (path : Path) (output : Option String) (builds : Bool)
    (session : Session) : Except Failure Generated → Session → Prop
  | leftOpen {result : Except Failure Generated} {after : Session}
      (hload : Project.load session.disk path = .error (.document .halfCharacter)) :
      Phases runner path output builds session result after
  | unloaded {error : ConfigurationError} {after : Session}
      (hload : Project.load session.disk path = .error error)
      (hwhole : error ≠ .document .halfCharacter)
      (hcalls : after.calls = session.calls)
      (hdisk : after.disk = session.disk) :
      Phases runner path output builds session (.error (.configuration error)) after
  | unbuilt {project : Project} {result : Except Failure Generated} {after : Session}
      (hload : Project.load session.disk path = .ok project)
      (hbuilds : ¬ Builds project builds)
      (hcalls : after.calls = session.calls)
      (hgenerates : Generates project output session.disk result after.disk) :
      Phases runner path output builds session result after
  | broken {project : Project} {name : String} {arguments : List String} {failure : Failure}
      {after : Session}
      (hload : Project.load session.disk path = .ok project)
      (hbuilds : Builds project builds)
      (hcommand : project.build.command = name :: arguments)
      (hending : (runner session.disk (callOf project)).outcome.ending ≠ .exited 0)
      (hjudge : (runner session.disk (callOf project)).outcome.ending.judge name = .error failure)
      (hcalls : after.calls = session.calls ++ [callOf project])
      (hdisk : after.disk = (runner session.disk (callOf project)).outcome.disk) :
      Phases runner path output builds session (.error failure) after
  | built {project : Project} {result : Except Failure Generated} {after : Session}
      (hload : Project.load session.disk path = .ok project)
      (hbuilds : Builds project builds)
      (hending : (runner session.disk (callOf project)).outcome.ending = .exited 0)
      (hcalls : after.calls = session.calls ++ [callOf project])
      (hgenerates : Generates project output
        (runner session.disk (callOf project)).outcome.disk result after.disk) :
      Phases runner path output builds session result after

/-- What is observed of generating is what generating on that disk comes to. -/
theorem generates_of_observe {outcome : Except Failure Generated × Session}
    (hlog : session.log = none) (h : observe outcome = observe (generate project output session)) :
    Generates project output session.disk outcome.1 outcome.2.disk ∧
      outcome.2.calls = session.calls := by
  rw [observe_generate project output hlog] at h
  obtain ⟨hresult, h⟩ := Prod.mk.inj h
  obtain ⟨hdisk, hcalls⟩ := Prod.mk.inj h
  refine ⟨?_, hcalls⟩
  intro between hnone hbetween
  have hgenerate := observe_generate project output hnone
  rw [hbetween] at hgenerate
  obtain ⟨hresult', hgenerate⟩ := Prod.mk.inj hgenerate
  exact ⟨hresult'.trans hresult.symm, (Prod.mk.inj hgenerate).1.trans hdisk.symm⟩

theorem phases_run (runner : Runner) (path : Path) (output : Option String) (builds : Bool)
    (hlog : session.log = none) : Phases runner path output builds session
      (run runner path output builds session).1 (run runner path output builds session).2 := by
  cases hload : Project.load session.disk path with
  | error error =>
      rw [run_of_load_error hload]
      by_cases hwhole : error = .document .halfCharacter
      · exact .leftOpen (hwhole ▸ hload)
      · exact .unloaded hload hwhole rfl rfl
  | ok project =>
      have hrun := observe_run runner output builds hload
      have hdisk : (begun session project).disk = session.disk := disk_begun hlog
      by_cases hbuilds : Builds project builds
      · obtain ⟨rfl, hnonempty⟩ := hbuilds
        have hbuilds : Builds project true := ⟨rfl, hnonempty⟩
        obtain ⟨name, arguments, hcommand⟩ := List.exists_cons_of_ne_nil hnonempty
        have hbegun : (begun session project).log = none := hlog
        have hphase := hrun.trans (observe_buildAndGenerate_of_builds runner output hcommand hbegun)
        rw [hdisk] at hphase
        cases hjudge : (runner session.disk (callOf project)).outcome.ending.judge name with
        | ok _ =>
            simp only [hjudge] at hphase
            obtain ⟨hgenerates, hcalls⟩ := generates_of_observe (by exact hlog) hphase
            exact .built hload hbuilds (Ending.judge_eq_ok_iff.mp hjudge) hcalls hgenerates
        | error failure =>
            simp only [hjudge] at hphase
            obtain ⟨hresult, hphase⟩ := Prod.mk.inj hphase
            obtain ⟨hafter, hcalls⟩ := Prod.mk.inj hphase
            have hending : (runner session.disk (callOf project)).outcome.ending ≠ .exited 0 := by
              intro hending
              rw [Ending.judge_eq_ok_iff.mpr hending] at hjudge
              cases hjudge
            rw [hresult]
            exact .broken hload hbuilds hcommand hending hjudge hcalls hafter
      · obtain ⟨hgenerates, hcalls⟩ := generates_of_observe (by exact hlog)
          (hrun.trans (observe_buildAndGenerate_of_not_builds hbuilds hlog))
        rw [hdisk] at hgenerates
        exact .unbuilt hload hbuilds hcalls hgenerates

/-- A run is loading, then building, then generating, and runners that answer the one call alike
make no difference to it. -/
theorem run_in_phases (runner : Runner) (path : Path) (output : Option String) (builds : Bool)
    (session : Session) (hlog : session.log = none) :
    Phases runner path output builds session
        (run runner path output builds session).1 (run runner path output builds session).2 ∧
      ∀ other : Runner, (∀ project, Project.load session.disk path = .ok project →
          Builds project builds →
          other session.disk (callOf project) = runner session.disk (callOf project)) →
        run other path output builds session = run runner path output builds session :=
  ⟨phases_run runner path output builds hlog, fun _ h => run_congr hlog h⟩

end Runs

open Interpreter.Common

/-- A disk with a project that is built by a command and has no source files. -/
def toolDisk : Disk :=
  ⟨.directory [(configurationFile, .file (Text.encode "build:\n  command: tool\n"))], [], "/"⟩

def toolProject : Project where
  root := ⟨.root, []⟩
  name := ""
  sourceDirectory := ⟨.root, []⟩
  outputDirectory := none
  discovery := .standard
  build := ⟨["tool"], Project.standardTimeout⟩

theorem load_toolDisk : Project.load toolDisk ⟨.root, []⟩ = .ok toolProject := by
  decide +kernel

/-- A command that leaves a file behind and fails. -/
def toolRunner : Runner := fun disk _ =>
  .ended (.nothing { disk with root := disk.root.put ["tool.log"] (.file []) }) (.exited 3)

theorem run_in_phases_toolDisk :
    (Session.start toolDisk).log = none ∧
      let outcome := run toolRunner ⟨.root, []⟩ none true (.start toolDisk)
      Phases toolRunner ⟨.root, []⟩ none true (.start toolDisk) outcome.1 outcome.2 :=
  ⟨rfl, (run_in_phases toolRunner ⟨.root, []⟩ none true (.start toolDisk) rfl).1⟩

end Generation

end ProviderGen
