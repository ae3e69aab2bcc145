import ProviderGen.Interpreter.Common
import ProviderGen.Proofs.Phases

/-!
What the log of a run tells: when its phases start and how they end, whether it fails, and where the
provider was written. Other logs are those of the parts of a run, and of the command that builds it.
-/

namespace ProviderGen

/-- The remarks that were made in one log. -/
def remarksIn (logger : String) (records : List Record) : List Remark :=
  (records.filter fun record => record.logger = logger).map (·.remark)

namespace Step

variable {α β : Type} {logger other : String} {before between after : Session}
  {remarks more : List Remark}

/-- From one session to another, some remarks were made in a log. -/
def Told (logger : String) (before after : Session) (remarks : List Remark) : Prop :=
  ∃ records, after.records = before.records ++ records ∧ remarksIn logger records = remarks

theorem Told.trans (hfirst : Told logger before between remarks)
    (hsecond : Told logger between after more) : Told logger before after (remarks ++ more) := by
  obtain ⟨records, hrecords, rfl⟩ := hfirst
  obtain ⟨others, hothers, rfl⟩ := hsecond
  refine ⟨records ++ others, ?_, ?_⟩
  · rw [hothers, hrecords, List.append_assoc]
  · simp [remarksIn]

theorem told_of_records_eq (h : after.records = before.records) : Told logger before after [] :=
  ⟨[], by simp [h], rfl⟩

/-- A step makes no remark in a log. -/
def Quiet (logger : String) (step : Step α) : Prop :=
  ∀ session, Told logger session (step session).2 []

theorem quiet_of_records_eq {step : Step α} (h : ∀ session, (step session).2.records =
    session.records) : Quiet logger step :=
  fun session => told_of_records_eq (h session)

theorem Quiet.bind {step : Step α} {next : α → Step β} (hstep : Quiet logger step)
    (hnext : ∀ value, Quiet logger (next value)) : Quiet logger (step >>= next) := by
  intro session
  have hfirst := hstep session
  rw [bind_apply, andThen]
  cases hresult : step session with
  | mk result between =>
      rw [hresult] at hfirst
      cases result with
      | ok value => exact hfirst.trans (hnext value between)
      | error failure => exact hfirst

theorem quiet_of_elsewhere {step : Step α} (h : ∀ session, ∃ records,
    (step session).2.records = session.records ++ records ∧
      ∀ record ∈ records, record.logger ≠ logger) : Quiet logger step := by
  intro session
  obtain ⟨records, hrecords, hother⟩ := h session
  refine ⟨records, hrecords, ?_⟩
  rw [remarksIn, List.map_eq_nil_iff, List.filter_eq_nil_iff]
  simpa using hother

section Told

variable [Interpreter]

theorem told_say (session : Session) (level : Level) (text : String) :
    Told logger session (say logger level text session).2 [⟨level, text⟩] :=
  ⟨[⟨logger, ⟨level, text⟩⟩], rfl, by simp [remarksIn]⟩

theorem quiet_of_scans {ε : Type} {rename : ε → Failure} {step : Step α}
    (hlogger : other ≠ logger) (h : Scans other rename step) : Quiet logger step := by
  refine quiet_of_elsewhere fun session => ?_
  obtain ⟨remarks, hremarks⟩ := h.tells session
  obtain ⟨disk, htold⟩ := Session.exists_tellAll other remarks session
  exact ⟨_, by rw [hremarks, htold], by simp [hlogger]⟩

/-- A step that is announced in a log is remarked on once before it and once after it, if it makes
no remark there. Nothing follows the announcement if the step is interrupted. -/
theorem told_progress {step : Step α} (message : String) (hquiet : Quiet logger step)
    (session : Session) :
    let subject := Text.withoutEnd ['.', ' '] message
    (∃ value after, progress logger message step session = (.ok value, after) ∧
      Told logger session after
        [⟨.info, message⟩, ⟨.info, s!"{subject} done ({Interpreter.elapsed subject})"⟩]) ∨
    (∃ failure after, failure ≠ .interrupted ∧
      progress logger message step session = (.error failure, after) ∧
      Told logger session after
        [⟨.info, message⟩, ⟨.error, s!"{subject} failed after {Interpreter.elapsed subject}"⟩]) ∨
    ∃ after, progress logger message step session = (.error .interrupted, after) ∧
      Told logger session after [⟨.info, message⟩] := by
  intro subject
  have hsay : Told logger session (say logger .info message session).2 [⟨.info, message⟩] :=
    told_say session .info message
  obtain ⟨started, hstarted⟩ : ∃ started, (say logger .info message session).2 = started := ⟨_, rfl⟩
  rw [hstarted] at hsay
  have hstep := hquiet started
  simp only [progress, bind_apply, andThen, onFailure]
  rw [show say logger .info message session = (.ok (), started) by rw [← hstarted]; rfl]
  dsimp only
  cases hafter : step started with
  | mk result after =>
      rw [hafter] at hstep
      cases result with
      | ok value =>
          refine .inl ⟨value, _, rfl, ?_⟩
          exact (hsay.trans hstep).trans (told_say after .info _)
      | error failure =>
          by_cases hfailure : failure = .interrupted
          · subst hfailure
            exact .inr (.inr ⟨after, rfl, hsay.trans hstep⟩)
          · refine .inr (.inl ⟨failure, _, hfailure, ?_,
              (hsay.trans hstep).trans (told_say after .error _)⟩)
            cases failure with
            | interrupted => exact absurd rfl hfailure
            | _ => rfl

end Told

end Step

namespace Generation

open Step

/-- The phases of a run that its log announces. -/
inductive Phase
  | building
  | generating
  deriving DecidableEq

namespace Phase

/-- How a phase is announced. -/
def message : Phase → String
  | building => "Running build step..."
  | generating => "Generating model provider..."

/-- What a phase is called when its end is told. -/
def subject (phase : Phase) : String := Text.withoutEnd ['.', ' '] phase.message

def started (phase : Phase) : Remark := ⟨.info, phase.message⟩

variable [Interpreter]

/-- The remark that a phase has come to its end. -/
def completed (phase : Phase) : Remark :=
  ⟨.info, phase.subject ++ " done (" ++ Interpreter.elapsed phase.subject ++ ")"⟩

def failed (phase : Phase) : Remark :=
  ⟨.error, phase.subject ++ " failed after " ++ Interpreter.elapsed phase.subject⟩

/-- Whether a remark is about a phase. -/
def isTold (phase : Phase) (remark : Remark) : Bool :=
  remark = phase.started || remark = phase.completed || remark = phase.failed

end Phase

/-- The kinds of remarks in the log of a run, by the words that they begin with. -/
inductive Kind
  | begun
  | unbuilt
  | started (phase : Phase)
  | completed (phase : Phase)
  | failed (phase : Phase)
  | added
  | foundNothing
  | written
  deriving DecidableEq

namespace Kind

def level : Kind → Level
  | failed _ => .error
  | foundNothing => .warning
  | unbuilt => .debug
  | _ => .info

/-- The words that remarks of a kind begin with. -/
def front : Kind → String
  | begun => "Generating models for "
  | unbuilt => "Build step disabled; using companion files already on disk"
  | started phase => phase.started.text
  | completed phase => phase.subject ++ " done ("
  | failed phase => phase.subject ++ " failed after "
  | added => "Added "
  | foundNothing => "No models discovered under "
  | written => "Model provider written to "

/-- The phase that remarks of a kind are about. -/
def phase? : Kind → Option Phase
  | started phase | completed phase | failed phase => some phase
  | _ => none

def all : List Kind :=
  [begun, unbuilt, started .building, started .generating, completed .building,
    completed .generating, failed .building, failed .generating, added, foundNothing, written]

theorem mem_all (kind : Kind) : kind ∈ all := by
  rcases kind with _ | _ | (_ | _) | (_ | _) | (_ | _) | _ | _ | _ <;> decide

theorem kind_eq_of_front {kind other : Kind} (h : kind.front.toList <+: other.front.toList) :
    kind = other := by
  have hall : ∀ kind ∈ all, ∀ other ∈ all,
      kind.front.toList <+: other.front.toList → kind = other := by
    decide +kernel
  exact hall kind kind.mem_all other other.mem_all h

variable [Interpreter]

/-- The words that remarks of a kind end with: how long it took, if a phase has come to an end. -/
def tail : Kind → String
  | completed phase => Interpreter.elapsed phase.subject ++ ")"
  | failed phase => Interpreter.elapsed phase.subject
  | _ => ""

/-- The remark of a kind with some words in it that its kind does not tell. -/
def remark (kind : Kind) (rest : String) : Remark :=
  ⟨kind.level, kind.front ++ rest ++ kind.tail⟩

variable {kind other : Kind} {rest rest' : String} {phase : Phase}

theorem remark_of_tail_eq (h : kind.tail = "") (rest : String) :
    kind.remark rest = ⟨kind.level, kind.front ++ rest⟩ := by
  simp [remark, h]

@[simp]
theorem remark_started : (started phase).remark "" = phase.started := by
  simp [remark, front, tail, level, Phase.started]

@[simp]
theorem remark_completed : (completed phase).remark "" = phase.completed := by
  simp [remark, front, tail, level, Phase.completed, String.append_assoc]

@[simp]
theorem remark_failed : (failed phase).remark "" = phase.failed := by
  simp [remark, front, tail, level, Phase.failed, String.append_assoc]

theorem remark_inj : kind.remark rest = other.remark rest' ↔ kind = other ∧ rest = rest' := by
  constructor
  · intro h
    have htext : kind.front.toList ++ (rest.toList ++ kind.tail.toList) =
        other.front.toList ++ (rest'.toList ++ other.tail.toList) := by
      simpa [remark] using congrArg (fun remark : Remark => remark.text.toList) h
    have hkind : kind = other := by
      have hother : other.front.toList <+: kind.front.toList ++ (rest.toList ++ kind.tail.toList) :=
        htext ▸ List.prefix_append _ _
      rcases List.prefix_or_prefix_of_prefix (List.prefix_append _ _) hother with hfront | hfront
      · exact kind_eq_of_front hfront
      · exact (kind_eq_of_front hfront).symm
    subst hkind
    have hrest := List.append_cancel_right (List.append_cancel_left htext)
    exact ⟨rfl, String.toList_inj.mp hrest⟩
  · rintro ⟨rfl, rfl⟩
    rfl

theorem isTold_remark : phase.isTold (kind.remark rest) =
    decide (kind.phase? = some phase ∧ rest = "") := by
  rw [Phase.isTold, ← remark_started, ← remark_completed, ← remark_failed]
  simp only [remark_inj]
  cases kind <;> simp [phase?]

end Kind

variable {runner : Runner} {path : Path} {project : Project} {output : Option String}
  {builds : Bool} {session : Session}

theorem quiet_write (target : Path) (text : String) : Quiet log (write target text) := by
  refine quiet_of_records_eq fun session => ?_
  simp only [write]
  cases session.disk.replaceFile target (Text.encode text) with
  | mk disk result => cases result <;> rfl

/-- What is remarked of the models that were found. -/
def finding (project : Project) (generated : Generated) : Kind × String :=
  if generated.models = [] then
    (.foundNothing, toString project.sourceDirectory)
  else
    (.added, ", ".intercalate generated.names ++ " to the model provider")

theorem finding_cases (project : Project) (generated : Generated) :
    ∃ rest, finding project generated = (.foundNothing, rest) ∨
      finding project generated = (.added, rest) := by
  unfold finding
  split_ifs <;> simp

/-- What is remarked before generating, if nothing has failed by then. -/
def opening (project : Project) (builds : Bool) : List (Kind × String) :=
  if builds then
    if project.build.command = [] then [(.unbuilt, "")]
    else [(.started .building, ""), (.completed .building, "")]
  else
    []

theorem opening_cases (project : Project) (builds : Bool) :
    opening project builds = [] ∨ opening project builds = [(.unbuilt, "")] ∨
      opening project builds = [(.started .building, ""), (.completed .building, "")] := by
  unfold opening
  split_ifs <;> simp

def errors (entries : List (Kind × String)) : List (Kind × String) :=
  entries.filter fun entry => entry.1.level = .error

def about (phase : Phase) (entries : List (Kind × String)) : List (Kind × String) :=
  entries.filter fun entry => entry.1.phase? = some phase

theorem errors_opening {root : String} (rest : List (Kind × String)) :
    errors ((.begun, root) :: (opening project builds ++ rest)) = errors rest := by
  rcases opening_cases project builds with hopening | hopening | hopening <;>
    rw [hopening] <;> rfl

theorem about_generating_opening {root : String} (rest : List (Kind × String)) :
    about .generating ((.begun, root) :: (opening project builds ++ rest)) =
      about .generating rest := by
  rcases opening_cases project builds with hopening | hopening | hopening <;>
    rw [hopening] <;> rfl

theorem about_building_opening {root : String} {rest : List (Kind × String)}
    (h : about .building rest = []) :
    about .building ((.begun, root) :: (opening project builds ++ rest)) = [] ∨
      about .building ((.begun, root) :: (opening project builds ++ rest)) =
        [(.started .building, ""), (.completed .building, "")] := by
  rcases opening_cases project builds with hopening | hopening | hopening <;> rw [hopening]
  · exact .inl h
  · exact .inl h
  · exact .inr (congrArg ((Kind.started .building, "") :: (Kind.completed .building, "") :: ·) h)

section Runs

variable [Interpreter]

/-- Building, as a part of a run, if it is not left out. -/
def prepare (runner : Runner) (project : Project) (builds : Bool) : Step Unit := do
  if builds then
    .enter .building
    buildProject runner project

theorem quiet_build (call : Call) : Quiet log (build runner (log ++ ".build") call) := by
  have hlogger : log ++ ".build" ≠ log := by decide
  refine quiet_of_elsewhere fun session => ?_
  obtain ⟨disk, file, calls, remarks, heq⟩ := exists_build runner (log ++ ".build") call session
  exact ⟨_, by rw [heq], by simp [hlogger]⟩

def remarksOf (entries : List (Kind × String)) : List Remark :=
  entries.map fun entry => entry.1.remark entry.2

theorem filter_error (entries : List (Kind × String)) :
    (remarksOf entries).filter (fun remark => remark.level = .error) =
      remarksOf (errors entries) := by
  simp only [remarksOf, List.filter_map]
  rfl

theorem filter_isTold (phase : Phase) {entries : List (Kind × String)}
    (h : ∀ entry ∈ entries, entry.1.phase? ≠ none → entry.2 = "") :
    (remarksOf entries).filter phase.isTold = remarksOf (about phase entries) := by
  simp only [remarksOf, List.filter_map]
  refine congrArg _ (List.filter_congr ?_)
  intro entry hentry
  rw [Function.comp_apply, Kind.isTold_remark]
  have hrest := h entry hentry
  by_cases hphase : entry.1.phase? = some phase
  · simp [hphase, hrest (by simp [hphase])]
  · simp [hphase]

theorem mem_remarksOf_written_iff {entries : List (Kind × String)} {text : String} :
    (⟨.info, "Model provider written to " ++ text⟩ : Remark) ∈ remarksOf entries ↔
      (Kind.written, text) ∈ entries := by
  have hremark : (⟨.info, "Model provider written to " ++ text⟩ : Remark) =
      Kind.written.remark text := by
    rw [Kind.remark_of_tail_eq rfl]
    rfl
  rw [hremark, remarksOf, List.mem_map]
  constructor
  · rintro ⟨⟨kind, rest⟩, hentry, heq⟩
    obtain ⟨rfl, rfl⟩ := Kind.remark_inj.mp heq
    exact hentry
  · intro hentry
    exact ⟨_, hentry, rfl⟩

theorem remarksOf_completed (phase : Phase) :
    remarksOf [(.started phase, ""), (.completed phase, "")] =
      [phase.started, phase.completed] := by
  simp [remarksOf]

theorem remarksOf_failed (phase : Phase) :
    remarksOf [(.started phase, ""), (.failed phase, "")] = [phase.started, phase.failed] := by
  simp [remarksOf]

theorem told_prepare (runner : Runner) (project : Project) (builds : Bool) (session : Session) :
    (∃ between, prepare runner project builds session = (.ok (), between) ∧
      Told log session between (remarksOf (opening project builds))) ∨
    (∃ failure between, failure ≠ .interrupted ∧
      prepare runner project builds session = (.error failure, between) ∧
      Told log session between [Phase.building.started, Phase.building.failed]) ∨
    ∃ between, prepare runner project builds session = (.error .interrupted, between) ∧
      Told log session between [Phase.building.started] := by
  cases builds with
  | false => exact .inl ⟨session, rfl, told_of_records_eq rfl⟩
  | true =>
      have hprepare : prepare runner project true session =
        buildProject runner project { session with stage := .building } := rfl
      have hentered : Told log session { session with stage := .building } [] :=
        told_of_records_eq rfl
      rw [hprepare]
      by_cases hcommand : project.build.command = []
      · rw [buildProject, if_pos hcommand]
        refine .inl ⟨_, rfl, ?_⟩
        have hopening : remarksOf (opening project true) = [Kind.unbuilt.remark ""] := by
          simp [opening, hcommand, remarksOf]
        rw [hopening]
        exact hentered.trans (told_say _ _ _)
      · rw [buildProject, if_neg hcommand]
        rcases told_progress Phase.building.message (quiet_build _)
            { session with stage := .building } with
          ⟨_, between, hresult, htold⟩ | ⟨failure, between, hfailure, hresult, htold⟩ |
            ⟨between, hresult, htold⟩
        · refine .inl ⟨between, hresult, ?_⟩
          have hopening : remarksOf (opening project true) =
              [Phase.building.started, Phase.building.completed] := by
            simp [opening, hcommand, remarksOf]
          rw [hopening]
          exact hentered.trans htold
        · exact .inr (.inl ⟨failure, between, hfailure, hresult, hentered.trans htold⟩)
        · exact .inr (.inr ⟨between, hresult, hentered.trans htold⟩)

/-- Generating, as the announced part of a run. -/
def provide (project : Project) (output : Option String) : Step Generated :=
  progress log Phase.generating.message (writeProvider project output)

theorem buildAndGenerate_eq (runner : Runner) (project : Project) (output : Option String)
    (builds : Bool) : buildAndGenerate runner project output builds =
      (prepare runner project builds >>= fun _ => generate project output) := by
  funext session
  cases builds with
  | false => rfl
  | true =>
      simp only [buildAndGenerate, prepare, if_true, bind_apply, andThen, enter, update]

theorem generate_of_provide_error {failure : Failure} {after : Session}
    (h : provide project output session = (.error failure, after)) :
    generate project output session = (.error failure, after) := by
  rw [provide, Phase.message] at h
  rw [generate, bind_apply, andThen, h]

theorem generate_of_provide_ok {generated : Generated} {between : Session}
    (h : provide project output session = (.ok generated, between)) :
    ∃ after, generate project output session = (.ok generated, after) ∧
      Told log between after
        [(finding project generated).1.remark (finding project generated).2,
          Kind.written.remark generated.path.toString] := by
  rw [provide, Phase.message] at h
  rw [generate, bind_apply, andThen, h]
  rw [Kind.remark_of_tail_eq rfl generated.path.toString]
  by_cases hmodels : generated.models = []
  · simp only [hmodels, if_true, finding]
    refine ⟨_, rfl, ?_⟩
    rw [Kind.remark_of_tail_eq rfl]
    exact (told_say between _ _).trans (told_say _ _ _)
  · simp only [hmodels, if_false, finding]
    refine ⟨_, rfl, ?_⟩
    rw [Kind.remark_of_tail_eq rfl]
    exact (told_say between _ _).trans (told_say _ _ _)

theorem quiet_writeProvider (project : Project) (output : Option String) :
    Quiet log (writeProvider project output) := by
  have hcollector : log ++ ".collector" ≠ log := by decide
  have hanalyzer : log ++ ".analyzer" ≠ log := by decide
  have henter : ∀ stage, Quiet log (enter stage) := fun _ => quiet_of_records_eq fun _ => rfl
  have hresult : ∀ {α : Type} (result : Except Failure α), Quiet log (ofExcept result) :=
    fun _ => quiet_of_records_eq fun _ => rfl
  refine (henter _).bind fun _ =>
    (quiet_of_scans hcollector (Scanning.scans_collect _)).bind fun files => ?_
  refine (henter _).bind fun _ =>
    (quiet_of_scans hanalyzer (Scanning.scans_analyze files)).bind fun models => ?_
  refine (henter _).bind fun _ => (hresult _).bind fun text => (henter _).bind fun _ => ?_
  refine (quiet_of_records_eq fun _ => rfl).bind fun disk => (hresult _).bind fun target => ?_
  exact (quiet_write target text).bind fun _ => quiet_of_records_eq fun _ => rfl

theorem told_provide (project : Project) (output : Option String) (session : Session) :
    (∃ generated after, provide project output session = (.ok generated, after) ∧
      Told log session after [Phase.generating.started, Phase.generating.completed]) ∨
    ∃ failure after, failure ≠ .interrupted ∧
      provide project output session = (.error failure, after) ∧
      Told log session after [Phase.generating.started, Phase.generating.failed] := by
  rcases told_progress Phase.generating.message (quiet_writeProvider project output) session with
    hdone | hfailed | ⟨after, hinterrupted, -⟩
  · exact .inl hdone
  · exact .inr hfailed
  · have hleads := leads_progress log Phase.generating.message
      (leads_writeProvider session.stage project output)
    exact absurd rfl (hleads.stops session _ after rfl hinterrupted).ne_interrupted

/-- A failure leaves a phase of a run. -/
def Phase.Raises (runner : Runner) (project : Project) (output : Option String) (builds : Bool)
    (session : Session) (failure : Failure) : Phase → Prop
  | building => ∃ after, prepare runner project builds session = (.error failure, after)
  | generating => ∃ between after,
      prepare runner project builds session = (.ok (), between) ∧
        provide project output between = (.error failure, after)

/-- The ways in which the log of a loaded project goes on: the build fails or is interrupted, or
generating fails, or the provider is written. -/
inductive Story (runner : Runner) (project : Project) (output : Option String) (builds : Bool)
    (session : Session) : Except Failure Generated → List (Kind × String) → Prop
  | broken {failure : Failure} {after : Session} (hfailure : failure ≠ .interrupted)
      (h : prepare runner project builds session = (.error failure, after)) :
      Story runner project output builds session (.error failure)
        [(.started .building, ""), (.failed .building, "")]
  | interrupted {after : Session}
      (h : prepare runner project builds session = (.error .interrupted, after)) :
      Story runner project output builds session (.error .interrupted)
        [(.started .building, "")]
  | stopped {between after : Session} {failure : Failure} (hfailure : failure ≠ .interrupted)
      (hprepared : prepare runner project builds session = (.ok (), between))
      (h : provide project output between = (.error failure, after)) :
      Story runner project output builds session (.error failure)
        (opening project builds ++ [(.started .generating, ""), (.failed .generating, "")])
  | done {between after : Session} {generated : Generated}
      (hprepared : prepare runner project builds session = (.ok (), between))
      (h : provide project output between = (.ok generated, after)) :
      Story runner project output builds session (.ok generated)
        (opening project builds ++ [(.started .generating, ""), (.completed .generating, ""),
          finding project generated, (.written, generated.path.toString)])

theorem exists_story (runner : Runner) (project : Project) (output : Option String)
    (builds : Bool) (session : Session) :
    ∃ entries,
      Story runner project output builds session
          (buildAndGenerate runner project output builds session).1 entries ∧
        Told log session (buildAndGenerate runner project output builds session).2
          (remarksOf entries) := by
  rw [buildAndGenerate_eq, bind_apply, andThen]
  rcases told_prepare runner project builds session with
    ⟨between, hprepared, hbefore⟩ | ⟨failure, between, hfailure, hprepared, hbefore⟩ |
      ⟨between, hprepared, hbefore⟩
  · rw [hprepared]
    dsimp only
    rcases told_provide project output between with
      ⟨generated, after, hprovide, htold⟩ | ⟨failure, after, hfailure, hprovide, htold⟩
    · obtain ⟨last, hgenerate, hlast⟩ := generate_of_provide_ok hprovide
      rw [hgenerate]
      refine ⟨_, .done hprepared hprovide, ?_⟩
      have h := (hbefore.trans htold).trans hlast
      simpa [remarksOf] using h
    · rw [generate_of_provide_error hprovide]
      refine ⟨_, .stopped hfailure hprepared hprovide, ?_⟩
      have h := hbefore.trans htold
      simpa [remarksOf] using h
  · rw [hprepared]
    refine ⟨_, .broken hfailure hprepared, ?_⟩
    simpa [remarksOf] using hbefore
  · rw [hprepared]
    refine ⟨_, .interrupted hprepared, ?_⟩
    simpa [remarksOf] using hbefore

def Phase.FailsWith (runner : Runner) (path : Path) (output : Option String) (builds : Bool)
    (session : Session) (phase : Phase) (failure : Failure) : Prop :=
  ∃ project, Project.load session.disk path = .ok project ∧
    phase.Raises runner project output builds (begun session project) failure

/-- What a log tells of a phase: nothing, or that it starts and is completed, or, if a failure
leaves it, that it starts and fails. It only tells the start of a phase that is interrupted. -/
inductive Phase.Course (phase : Phase) (raises : Failure → Prop) : List Remark → Prop
  | silent (h : ∀ failure, ¬ raises failure) : Course phase raises []
  | completed (h : ∀ failure, ¬ raises failure) :
      Course phase raises [phase.started, phase.completed]
  | failed {failure : Failure} (hfailure : failure ≠ .interrupted) (h : raises failure) :
      Course phase raises [phase.started, phase.failed]
  | interrupted (h : raises .interrupted) : Course phase raises [phase.started]

/-- The log of a run tells how it went. There is one error in it if the run fails after its project
was loaded, unless it is interrupted, and none otherwise. A phase that starts is completed, or fails
if a failure leaves it; nothing more is told of one that is interrupted. That the provider was
written is remarked exactly if the run succeeds. -/
structure Truthful (runner : Runner) (path : Path) (output : Option String) (builds : Bool)
    (session : Session) (result : Except Failure Generated) (told : List Remark) : Prop where
  one_error : ∀ project failure, Project.load session.disk path = .ok project →
    result = .error failure → failure ≠ .interrupted →
      ∃ error, told.filter (fun remark => remark.level = .error) = [error]
  no_error : (∀ project failure, Project.load session.disk path = .ok project →
    result = .error failure → failure = .interrupted) →
      told.filter (fun remark => remark.level = .error) = []
  phases : ∀ phase : Phase,
    phase.Course (phase.FailsWith runner path output builds session) (told.filter phase.isTold)
  written_iff : ∀ text, (⟨.info, "Model provider written to " ++ text⟩ : Remark) ∈ told ↔
    ∃ generated, result = .ok generated ∧ generated.path.toString = text

section Story

variable {result : Except Failure Generated} {entries : List (Kind × String)} {root : String}

theorem Story.rest_eq (h : Story runner project output builds session result entries) :
    ∀ entry ∈ (Kind.begun, root) :: entries, entry.1.phase? ≠ none → entry.2 = "" := by
  cases h with
  | broken _ _ => simp [Kind.phase?]
  | interrupted _ => simp [Kind.phase?]
  | stopped _ _ _ =>
      rcases opening_cases project builds with hopening | hopening | hopening <;>
        simp [hopening, Kind.phase?]
  | @done _ _ generated _ _ =>
      obtain ⟨rest, hfinding | hfinding⟩ := finding_cases project generated <;>
        rcases opening_cases project builds with hopening | hopening | hopening <;>
          simp [hopening, hfinding, Kind.phase?]

theorem Story.errors_eq (h : Story runner project output builds session result entries) :
    (∃ failure error, result = .error failure ∧ failure ≠ .interrupted ∧
        errors ((.begun, root) :: entries) = [error]) ∨
      (∀ failure, result = .error failure → failure = .interrupted) ∧
        errors ((.begun, root) :: entries) = [] := by
  cases h with
  | broken hfailure _ => exact .inl ⟨_, _, rfl, hfailure, rfl⟩
  | interrupted _ => exact .inr ⟨fun _ h => (Except.error.inj h).symm, rfl⟩
  | stopped hfailure _ _ =>
      refine .inl ⟨_, (.failed .generating, ""), rfl, hfailure, ?_⟩
      rw [errors_opening]
      rfl
  | @done _ _ generated _ _ =>
      refine .inr ⟨nofun, ?_⟩
      rw [errors_opening]
      obtain ⟨rest, hfinding | hfinding⟩ := finding_cases project generated <;>
        rw [hfinding] <;> rfl

theorem Story.course_generating
    (h : Story runner project output builds session result entries) :
    Phase.generating.Course
      (fun failure => Phase.generating.Raises runner project output builds session failure)
      (remarksOf (about .generating ((.begun, root) :: entries))) := by
  cases h with
  | broken _ h => exact .silent (by simp [Phase.Raises, h])
  | interrupted h => exact .silent (by simp [Phase.Raises, h])
  | @stopped between after failure hfailure hprepared h =>
      have htold := remarksOf_failed .generating
      rw [about_generating_opening]
      exact htold ▸ .failed hfailure ⟨between, after, hprepared, h⟩
  | @done between after generated hprepared h =>
      have htold : about .generating [(.started .generating, ""), (.completed .generating, ""),
            finding project generated, (.written, generated.path.toString)] =
          [(.started .generating, ""), (.completed .generating, "")] := by
        obtain ⟨rest, hfinding | hfinding⟩ := finding_cases project generated <;>
          rw [hfinding] <;> rfl
      rw [about_generating_opening, htold, remarksOf_completed]
      exact .completed (by simp [Phase.Raises, hprepared, h])

theorem Story.course_building (h : Story runner project output builds session result entries) :
    Phase.building.Course
      (fun failure => Phase.building.Raises runner project output builds session failure)
      (remarksOf (about .building ((.begun, root) :: entries))) := by
  -- If building goes well, what follows it says nothing more about it.
  have hgoes : ∀ {between : Session} {rest : List (Kind × String)},
      prepare runner project builds session = (.ok (), between) → about .building rest = [] →
      Phase.building.Course
        (fun failure => Phase.building.Raises runner project output builds session failure)
        (remarksOf (about .building ((.begun, root) :: (opening project builds ++ rest)))) := by
    intro between rest hprepared hrest
    have hraises : ∀ failure,
        ¬ Phase.building.Raises runner project output builds session failure := by
      simp [Phase.Raises, hprepared]
    rcases about_building_opening hrest with htold | htold <;> rw [htold]
    · exact .silent hraises
    · rw [remarksOf_completed]
      exact .completed hraises
  cases h with
  | broken hfailure h =>
      have htold := remarksOf_failed .building
      exact htold ▸ .failed hfailure ⟨_, h⟩
  | interrupted h =>
      have htold : remarksOf [(.started .building, "")] = [Phase.building.started] := by
        simp [remarksOf]
      exact htold ▸ .interrupted ⟨_, h⟩
  | stopped _ hprepared _ => exact hgoes hprepared rfl
  | @done _ _ generated hprepared _ =>
      refine hgoes hprepared ?_
      obtain ⟨rest, hfinding | hfinding⟩ := finding_cases project generated <;>
        rw [hfinding] <;> rfl

theorem Story.course (h : Story runner project output builds session result entries)
    (phase : Phase) :
    phase.Course (fun failure => phase.Raises runner project output builds session failure)
      (remarksOf (about phase ((.begun, root) :: entries))) := by
  cases phase with
  | building => exact h.course_building
  | generating => exact h.course_generating

theorem Story.written_mem_iff (h : Story runner project output builds session result entries)
    {text : String} : (Kind.written, text) ∈ (Kind.begun, root) :: entries ↔
      ∃ generated, result = .ok generated ∧ generated.path.toString = text := by
  cases h with
  | broken _ _ => simp
  | interrupted _ => simp
  | stopped _ _ _ =>
      rcases opening_cases project builds with hopening | hopening | hopening <;>
        simp [hopening]
  | @done _ _ generated _ _ =>
      obtain ⟨rest, hfinding | hfinding⟩ := finding_cases project generated <;>
        rcases opening_cases project builds with hopening | hopening | hopening <;>
          simp [hopening, hfinding, eq_comm]

theorem Story.truthful {path : Path} (hload : Project.load session.disk path = .ok project)
    (h : Story runner project output builds (begun session project) result entries) :
    Truthful runner path output builds session result
      (remarksOf ((.begun, root) :: entries)) := by
  have hfails : ∀ phase : Phase, phase.FailsWith runner path output builds session =
      fun failure => phase.Raises runner project output builds (begun session project) failure := by
    intro phase
    funext failure
    simp [Phase.FailsWith, hload]
  constructor
  · intro _ failure _ hresult hfailure
    rw [filter_error]
    rcases h.errors_eq with ⟨_, error, -, -, herrors⟩ | ⟨hinterrupted, -⟩
    · exact ⟨_, by rw [herrors]; rfl⟩
    · exact absurd (hinterrupted failure hresult) hfailure
  · intro hnone
    rw [filter_error]
    rcases h.errors_eq with ⟨failure, -, hresult, hfailure, -⟩ | ⟨-, herrors⟩
    · exact absurd (hnone project failure hload hresult) hfailure
    · rw [herrors]
      rfl
  · intro phase
    rw [hfails, filter_isTold phase h.rest_eq]
    exact h.course phase
  · intro text
    rw [mem_remarksOf_written_iff, h.written_mem_iff]

end Story

theorem truthful_of_load_error {error : ConfigurationError}
    (hload : Project.load session.disk path = .error error) :
    Truthful runner path output builds session (.error (.configuration error)) [] := by
  constructor
  · intro project failure hproject
    cases hload.symm.trans hproject
  · intro _
    rfl
  · intro phase
    exact .silent (by simp [Phase.FailsWith, hload])
  · simp

theorem records_of_load (runner : Runner) (output : Option String) (builds : Bool)
    (hload : Project.load session.disk path = .ok project) :
    let outcome := buildAndGenerate runner project output builds (begun session project)
    (run runner path output builds session).1 = outcome.1 ∧
      (run runner path output builds session).2.records = outcome.2.records := by
  rw [run_of_load hload, bind_apply, andThen, onFailure]
  cases buildAndGenerate runner project output builds (begun session project) with
  | mk result after =>
      cases result with
      | ok generated => exact ⟨rfl, rfl⟩
      | error failure => cases failure <;> exact ⟨rfl, rfl⟩

/-- The log of every run tells the truth about it, unless how its project is loaded is left open. -/
theorem truthful_run (runner : Runner) (path : Path) (output : Option String) (builds : Bool)
    (session : Session) :
    ∃ records,
      (run runner path output builds session).2.records = session.records ++ records ∧
        (Project.load session.disk path = .error (.document .halfCharacter) ∨
          Truthful runner path output builds session (run runner path output builds session).1
            (remarksIn log records)) := by
  cases hload : Project.load session.disk path with
  | error error =>
      rw [run_of_load_error hload]
      refine ⟨[], by simp, ?_⟩
      by_cases hwhole : error = .document .halfCharacter
      · exact .inl (by rw [hwhole])
      · exact .inr (truthful_of_load_error hload)
  | ok project =>
      obtain ⟨entries, hstory, htold⟩ :=
        exists_story runner project output builds (begun session project)
      have hbegun : Told log session (begun session project)
          (remarksOf [(.begun, toString project.root)]) := by
        rw [remarksOf, List.map_singleton, Kind.remark_of_tail_eq rfl]
        exact told_say session .info _
      obtain ⟨hresult, hrecords⟩ := records_of_load runner output builds hload
      obtain ⟨records, hadded, htold⟩ := hbegun.trans htold
      refine ⟨records, hrecords.trans hadded, .inr ?_⟩
      rw [hresult, htold]
      exact hstory.truthful hload

end Runs

open Interpreter.Common

/-- A command that is interrupted, by a user for example. -/
def stoppedRunner : Runner := fun disk _ => .ended (.nothing disk) .interrupted

def stoppedSession : Session where
  disk := toolDisk
  stage := .building
  records :=
    [⟨log, ⟨.info, "Generating models for /"⟩⟩, ⟨log, Phase.building.started⟩,
      ⟨log ++ ".build", ⟨.debug, "Running build command: tool"⟩⟩]
  calls := [callOf toolProject]
  log := none

theorem run_stoppedRunner :
    run stoppedRunner ⟨.root, []⟩ none true (.start toolDisk) =
      (.error .interrupted, stoppedSession) := by
  have hload : Project.load (Session.start toolDisk).disk ⟨.root, []⟩ = .ok toolProject :=
    load_toolDisk
  rw [run_of_load hload]
  rfl

/-- A run that is interrupted after its project was loaded leaves no error in its log. -/
theorem not_forall_one_error :
    ¬ ∀ (runner : Runner) (path : Path) (output : Option String) (builds : Bool)
      (session after : Session) (project : Project) (failure : Failure),
      Project.load session.disk path = .ok project →
        run runner path output builds session = (.error failure, after) →
        ∃ records error, after.records = session.records ++ records ∧
          (remarksIn log records).filter (fun remark => remark.level = .error) = [error] := by
  intro h
  obtain ⟨records, error, hrecords, herror⟩ :=
    h stoppedRunner _ none true (.start toolDisk) _ _ _ load_toolDisk run_stoppedRunner
  obtain rfl : stoppedSession.records = records := by simpa [Session.start] using hrecords
  have hnone : (remarksIn log stoppedSession.records).filter
      (fun remark => remark.level = .error) = [] := by
    decide
  rw [hnone] at herror
  cases herror

end Generation

end ProviderGen
