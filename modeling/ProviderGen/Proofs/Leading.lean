import ProviderGen.Proofs.Plan

namespace ProviderGen

namespace Step

variable {α β : Type} {step : Step α} {next : α → Step β} {handler : Step Unit}
  {session after : Session} {failure : Failure}

theorem bind_apply_eq_ok_iff {value : β} : (step >>= next) session = (.ok value, after) ↔
    ∃ first between, step session = (.ok first, between) ∧
      next first between = (.ok value, after) := by
  rw [bind_apply, andThen]
  cases step session with
  | mk result later => cases result <;> simp [and_assoc]

theorem bind_apply_eq_error_iff : (step >>= next) session = (.error failure, after) ↔
    step session = (.error failure, after) ∨
      ∃ first between, step session = (.ok first, between) ∧
        next first between = (.error failure, after) := by
  rw [bind_apply, andThen]
  cases step session with
  | mk result later => cases result <;> simp [and_assoc]

theorem onFailure_apply_eq_ok_iff {value : α} :
    step.onFailure handler session = (.ok value, after) ↔ step session = (.ok value, after) := by
  rw [onFailure]
  cases step session with
  | mk result later =>
      cases result with
      | ok other => simp
      | error other => cases other <;> simp

theorem exists_onFailure_iff : (∃ after, step.onFailure handler session = (.error failure, after)) ↔
    ∃ after, step session = (.error failure, after) := by
  simp only [onFailure]
  cases step session with
  | mk result later =>
      cases result with
      | ok value => simp
      | error other => cases other <;> simp

theorem onFailure_apply_interrupted_iff :
    step.onFailure handler session = (.error .interrupted, after) ↔
      step session = (.error .interrupted, after) := by
  rw [onFailure]
  cases step session with
  | mk result later =>
      cases result with
      | ok value => simp
      | error other => cases other <;> simp

theorem onFailure_apply_eq_error_iff (hfailure : failure ≠ .interrupted) :
    step.onFailure handler session = (.error failure, after) ↔
      ∃ between, step session = (.error failure, between) ∧ (handler between).2 = after := by
  rw [onFailure]
  cases step session with
  | mk result later =>
      cases result with
      | ok value => simp
      | error other => cases other <;> simp_all [eq_comm, and_assoc]

theorem log_progress [Interpreter] {logger message : String} (hlog : session.log = none)
    (h : ∀ session, session.log = none → (step session).2.log = none) :
    (progress logger message step session).2.log = none := by
  have hafter := h (session.tell ⟨logger, ⟨.info, message⟩⟩) hlog
  simp only [progress, bind_apply, andThen, say, update, onFailure]
  cases hresult : step (session.tell ⟨logger, ⟨.info, message⟩⟩) with
  | mk result between =>
      rw [hresult] at hafter
      cases result with
      | ok value => exact hafter
      | error failure => cases failure <;> exact hafter

end Step

/-- A failure of generating and the stage that it comes up in. -/
inductive Failure.Within : Failure → Stage → Prop
  | collection (error : CollectionError) : Within (.collection error) .collecting
  | analysis (error : AnalysisError) : Within (.analysis error) .analyzing
  | provider (error : ProviderError) : Within (.provider error) .emitting
  | noHome : Within .noHome .writing
  | disk (error : DiskError) : Within (.disk error) .writing

theorem Failure.Within.ne_interrupted {failure : Failure} {stage : Stage}
    (h : failure.Within stage) : failure ≠ .interrupted := by
  rintro rfl
  cases h

namespace Step

variable {α β : Type} {first middle last : Stage}

/-- A step leads from one stage to another. It runs no command, and if it fails, then in a stage
that the failure comes up in. -/
structure Leads (first last : Stage) (step : Step α) : Prop where
  calls_eq : ∀ session, (step session).2.calls = session.calls
  arrives : ∀ session value after, session.stage = first →
    step session = (.ok value, after) → after.stage = last
  stops : ∀ session failure after, session.stage = first →
    step session = (.error failure, after) → failure.Within after.stage

theorem Leads.bind {step : Step α} {next : α → Step β} (hstep : Leads first middle step)
    (hnext : ∀ value, Leads middle last (next value)) : Leads first last (step >>= next) := by
  constructor
  · intro session
    have hcalls := hstep.calls_eq session
    rw [bind_apply, andThen]
    cases hresult : step session with
    | mk result between =>
        rw [hresult] at hcalls
        cases result with
        | ok value => exact ((hnext value).calls_eq between).trans hcalls
        | error failure => exact hcalls
  · intro session value after hfirst h
    obtain ⟨found, between, hfound, h⟩ := bind_apply_eq_ok_iff.mp h
    exact (hnext found).arrives between value after (hstep.arrives session _ _ hfirst hfound) h
  · intro session failure after hfirst h
    rcases bind_apply_eq_error_iff.mp h with h | ⟨found, between, hfound, h⟩
    · exact hstep.stops session failure after hfirst h
    · exact (hnext found).stops between failure after (hstep.arrives session _ _ hfirst hfound) h

theorem leads_of_still {stage : Stage} {step : Step α}
    (hcalls : ∀ session, (step session).2.calls = session.calls)
    (hstage : ∀ session, (step session).2.stage = session.stage)
    (hfails : ∀ session failure, (step session).1 = .error failure → failure.Within stage) :
    Leads stage stage step := by
  refine ⟨hcalls, ?_, ?_⟩
  · intro session value after hfirst h
    rw [← hfirst, ← hstage session, h]
  · intro session failure after hfirst h
    have hafter : after.stage = stage := by rw [← hfirst, ← hstage session, h]
    rw [hafter]
    exact hfails session failure (by rw [h])

theorem leads_pure (stage : Stage) (value : α) : Leads stage stage (pure value : Step α) :=
  leads_of_still (fun _ => rfl) (fun _ => rfl) (fun _ _ h => by cases h)

theorem leads_disk (stage : Stage) : Leads stage stage disk :=
  leads_of_still (fun _ => rfl) (fun _ => rfl) (fun _ _ h => by cases h)

theorem leads_say [Interpreter] (stage : Stage) (logger : String) (level : Level) (text : String) :
    Leads stage stage (say logger level text) :=
  leads_of_still (fun _ => rfl) (fun _ => rfl) (fun _ _ h => by cases h)

theorem leads_ofExcept {stage : Stage} {result : Except Failure α}
    (h : ∀ failure, result = .error failure → failure.Within stage) :
    Leads stage stage (ofExcept result) :=
  leads_of_still (fun _ => rfl) (fun _ => rfl) (fun _ => h)

theorem within_of_mapError {ε : Type} {stage : Stage} {rename : ε → Failure} {result : Except ε α}
    (hrename : ∀ error, (rename error).Within stage) (failure : Failure)
    (h : result.mapError rename = .error failure) : failure.Within stage := by
  obtain ⟨error, -, rfl⟩ := mapError_eq_error_iff.mp h
  exact hrename error

theorem leads_of_scans [Interpreter] {ε : Type} {stage : Stage} {logger : String} {rename : ε → Failure}
    {step : Step α} (hrename : ∀ error, (rename error).Within stage)
    (h : Scans logger rename step) : Leads stage stage step := by
  have htold : ∀ session, ∃ disk records,
      (step session).2 = { session with disk := disk, records := records } := by
    intro session
    obtain ⟨remarks, hremarks⟩ := h.tells session
    obtain ⟨disk, htold⟩ := Session.exists_tellAll logger remarks session
    exact ⟨disk, _, hremarks.trans htold⟩
  refine leads_of_still ?_ ?_ ?_
  · intro session
    obtain ⟨disk, records, heq⟩ := htold session
    rw [heq]
  · intro session
    obtain ⟨disk, records, heq⟩ := htold session
    rw [heq]
  · intro session failure hfails
    obtain ⟨error, rfl⟩ := h.fails session failure hfails
    exact hrename error

theorem leads_enter (first stage : Stage) : Leads first stage (enter stage) := by
  refine ⟨fun _ => rfl, ?_, ?_⟩
  · rintro session _ _ - ⟨⟩
    rfl
  · rintro session _ _ - ⟨⟩

theorem leads_progress [Interpreter] {step : Step α} (logger message : String) (h : Leads first last step) :
    Leads first last (progress logger message step) := by
  have hquiet : ∀ level text, Leads first last (step.onFailure (say logger level text)) := by
    intro level text
    constructor
    · intro session
      have hcalls := h.calls_eq session
      rw [onFailure]
      cases hstep : step session with
      | mk result between =>
          rw [hstep] at hcalls
          cases result with
          | ok value => exact hcalls
          | error failure => cases failure <;> exact hcalls
    · intro session value after hfirst hafter
      exact h.arrives session value after hfirst (onFailure_apply_eq_ok_iff.mp hafter)
    · intro session failure after hfirst hafter
      -- No step that leads anywhere is interrupted, so the handler does run.
      obtain ⟨between, hbetween⟩ := exists_onFailure_iff.mp ⟨after, hafter⟩
      have hwithin := h.stops session failure between hfirst hbetween
      obtain ⟨between, hbetween, rfl⟩ :=
        (onFailure_apply_eq_error_iff hwithin.ne_interrupted).mp hafter
      exact h.stops session failure between hfirst hbetween
  exact (leads_say first _ _ _).bind fun _ => (hquiet _ _).bind fun value =>
    (leads_say last _ _ _).bind fun _ => leads_pure last value

end Step

namespace Generation

open Step

theorem leads_write (target : Path) (text : String) :
    Leads .writing .writing (write target text) := by
  have hwritten : ∀ session, ∃ disk log result,
      write target text session = (result, { session with disk := disk, log := log }) ∧
        ∀ failure, result = .error failure → failure.Within .writing := by
    intro session
    simp only [write]
    cases session.disk.replaceFile target (Text.encode text) with
    | mk disk result =>
        cases result with
        | ok _ =>
            refine ⟨disk, _, _, rfl, ?_⟩
            intro failure h
            cases h
        | error error =>
            refine ⟨disk, _, _, rfl, ?_⟩
            intro failure h
            cases h
            exact .disk error
  refine leads_of_still ?_ ?_ ?_
  · intro session
    obtain ⟨disk, log, result, heq, -⟩ := hwritten session
    rw [heq]
  · intro session
    obtain ⟨disk, log, result, heq, -⟩ := hwritten session
    rw [heq]
  · intro session failure h
    obtain ⟨disk, log, result, heq, hfails⟩ := hwritten session
    exact hfails failure (by rwa [heq] at h)

variable [Interpreter] {project : Project} {output : Option String} {failure : Failure}

theorem noHome_of_targetOf {disk : Disk} (h : targetOf disk project output = .error failure) :
    failure = .noHome := by
  unfold targetOf at h
  cases output with
  | none => cases h
  | some text =>
      cases hexpand : Project.expandHome disk (.ofString text) with
      | none =>
          simpa [hexpand, throw, throwThe, MonadExceptOf.throw, bind, Except.bind, eq_comm] using h
      | some directory => simp [hexpand, bind, Except.bind, pure, Except.pure] at h

theorem within_of_targetOf {disk : Disk} (failure : Failure)
    (h : targetOf disk project output = .error failure) : failure.Within .writing := by
  obtain rfl := noHome_of_targetOf h
  exact .noHome

theorem leads_writeProvider (first : Stage) (project : Project) (output : Option String) :
    Leads first .writing (writeProvider project output) :=
  (leads_enter first .collecting).bind fun _ =>
    (leads_of_scans .collection (Scanning.scans_collect _)).bind fun files =>
    (leads_enter _ .analyzing).bind fun _ =>
    (leads_of_scans .analysis (Scanning.scans_analyze files)).bind fun _ =>
    (leads_enter _ .emitting).bind fun _ =>
    (leads_ofExcept (within_of_mapError .provider)).bind fun text =>
    (leads_enter _ .writing).bind fun _ => (leads_disk _).bind fun _ =>
    (leads_ofExcept within_of_targetOf).bind fun target =>
    (leads_write target text).bind fun _ => leads_pure _ _

theorem exists_build (runner : Runner) (logger : String) (call : Call) (session : Session) :
    ∃ (disk : Disk) (log : Option LogFile) (calls : List Call) (remarks : List Remark),
      (build runner logger call session).2 = { session with
        disk := disk
        records := session.records ++ remarks.map (⟨logger, ·⟩)
        calls := calls
        log := log } := by
  cases hcommand : call.command with
  | nil =>
    simp only [build, hcommand]
    exact ⟨_, session.log, session.calls, [_], rfl⟩
  | cons name arguments =>
    simp only [build, hcommand, bind_apply, andThen, say, update, runCommand, Step.ofExcept]
    generalize hstarted : session.tell _ = started
    obtain ⟨disk, log, lines, hfollow⟩ :=
      Session.exists_follow logger (runner started.disk call) started
    rw [hfollow, ← hstarted]
    refine ⟨disk, log, session.calls ++ [call],
      ⟨.debug, "Running build command: " ++ " ".intercalate call.command⟩ ::
        lines.map (⟨.info, ·⟩), ?_⟩
    simp [hcommand]

theorem leads_generate (first : Stage) (project : Project) (output : Option String) :
    Leads first .writing (generate project output) := by
  refine (leads_progress _ _ (leads_writeProvider first project output)).bind ?_
  intro generated
  have hlast : Leads .writing .writing (do
      Step.say log .info s!"Model provider written to {generated.path}"
      return generated) := (leads_say _ _ _ _).bind fun _ => leads_pure _ _
  by_cases hmodels : generated.models = []
  · simpa [hmodels] using (leads_say .writing _ _ _).bind fun _ => hlast
  · simpa [hmodels] using (leads_say .writing _ _ _).bind fun _ => hlast

end Generation

end ProviderGen
