import ProviderGen.Generation
import ProviderGen.Proofs.Loading
import ProviderGen.Proofs.Scanned

/-!
Generating a provider as a plan that looks at the disk only, and the one change of the disk that
carries it out. No log file is kept meanwhile, which would change the disk as well.
-/

namespace ProviderGen

namespace Generation

variable [Interpreter]

/-- What is going to be generated, and the text that is going to be written for it. -/
structure Plan where
  generated : Generated
  text : String

/-- The plan for a project on a disk, or why there is none. -/
def plan (disk : Disk) (project : Project) (output : Option String) : Except Failure Plan := do
  let discovery := project.discovery
  let source := project.sourceDirectory
  let files ← (collect disk discovery source).result.mapError .collection
  let models ←
    (Workplace.analyze ⟨disk, discovery, source⟩ files).result.mapError .analysis
  let className := providerName project.name
  let text ← (Provider.source ⟨models⟩ className project.name).mapError .provider
  let target ← targetOf disk project output
  return ⟨⟨target, models, className⟩, text⟩

/-- What carrying out a plan comes to. -/
def Plan.carryOut (plan : Plan) (disk : Disk) : Except Failure Generated × Disk :=
  let (disk, result) := disk.replaceFile plan.generated.path (Text.encode plan.text)
  ((result.mapError .disk).map fun _ => plan.generated, disk)

/-- What planning and carrying out come to. A disk for which there is no plan stays as it is. -/
def planned (disk : Disk) (project : Project) (output : Option String) :
    Except Failure Generated × Disk :=
  match plan disk project output with
  | .error failure => (.error failure, disk)
  | .ok plan => plan.carryOut disk

theorem targetOf_eq_child {disk : Disk} {project : Project} {output : Option String}
    {target : Path} (h : targetOf disk project output = .ok target) :
    ∃ directory : Path, target = directory.child providerFile ∧
      (project.root.isAbsolute → (∀ given ∈ project.outputDirectory, given.isAbsolute) →
        directory.isAbsolute) := by
  simp only [targetOf, bind, Except.bind] at h
  cases output with
  | none =>
      obtain rfl : _ = target := by simpa [pure, Except.pure] using h
      refine ⟨_, rfl, ?_⟩
      intro hroot hgiven
      cases houtput : project.outputDirectory with
      | none => simpa using hroot
      | some given => exact hgiven given houtput
  | some text =>
      cases hexpand : Project.expandHome disk (.ofString text) with
      | none => simp [hexpand, throw, throwThe, MonadExceptOf.throw] at h
      | some directory =>
          obtain rfl : _ = target := by simpa [hexpand, pure, Except.pure] using h
          refine ⟨_, rfl, ?_⟩
          intro _ _
          exact Project.isAbsolute_under rfl

theorem plan_eq_ok_iff {disk : Disk} {project : Project} {output : Option String} {made : Plan} :
    plan disk project output = .ok made ↔
      ∃ files, (collect disk project.discovery project.sourceDirectory).result = .ok files ∧
        (Workplace.analyze ⟨disk, project.discovery, project.sourceDirectory⟩ files).result =
          .ok made.generated.models ∧
        Provider.source ⟨made.generated.models⟩ made.generated.className project.name =
          .ok made.text ∧
        made.generated.className = providerName project.name ∧
        targetOf disk project output = .ok made.generated.path := by
  obtain ⟨⟨path, models, className⟩, text⟩ := made
  simp only [plan, bind, Except.bind]
  cases (collect disk project.discovery project.sourceDirectory).result with
  | error error => simp
  | ok files =>
      simp only [mapError_ok, Except.ok.injEq, exists_eq_left']
      cases (Workplace.analyze ⟨disk, project.discovery, project.sourceDirectory⟩
          files).result with
      | error error => simp
      | ok found =>
          simp only [mapError_ok, Except.ok.injEq]
          constructor
          · intro h
            cases hsource : Provider.source ⟨found⟩ (providerName project.name) project.name with
            | error error => simp [hsource] at h
            | ok made =>
                simp only [hsource, mapError_ok] at h
                cases htarget : targetOf disk project output with
                | error failure => simp [htarget] at h
                | ok target =>
                    simp only [htarget, pure, Except.pure, Except.ok.injEq, Plan.mk.injEq,
                      Generated.mk.injEq] at h
                    obtain ⟨⟨rfl, rfl, rfl⟩, rfl⟩ := h
                    exact ⟨rfl, hsource, rfl, rfl⟩
          · rintro ⟨rfl, hsource, rfl, htarget⟩
            simp [hsource, htarget, pure, Except.pure]

end Generation

namespace Step

variable {α β : Type}

/-- A step whose result and effect on the disk come from the disk alone, if no log file is kept. Its
records and stages are left out. -/
def Yields (step : Step α) (effect : Disk → Except Failure α × Disk) : Prop :=
  ∀ session, session.log = none →
    ((step session).1, (step session).2.disk) = effect session.disk ∧ (step session).2.log = none

/-- One effect and then another one, unless the first fails. -/
def thenEffect (first : Disk → Except Failure α × Disk)
    (next : α → Disk → Except Failure β × Disk) (disk : Disk) : Except Failure β × Disk :=
  match first disk with
  | (.ok value, disk) => next value disk
  | (.error failure, disk) => (.error failure, disk)

variable {step : Step α} {effect : Disk → Except Failure α × Disk}

theorem yields_bind {next : α → Step β} {more : α → Disk → Except Failure β × Disk}
    (first : step.Yields effect) (second : ∀ value, (next value).Yields (more value)) :
    (step >>= next).Yields (thenEffect effect more) := by
  intro session hlog
  obtain ⟨hfirst, hlater⟩ := first session hlog
  rw [bind_apply, andThen, thenEffect, ← hfirst]
  cases hstep : step session with
  | mk result later =>
      rw [hstep] at hlater
      cases result with
      | ok value => exact second value later hlater
      | error failure => exact ⟨rfl, hlater⟩

theorem yields_pure (value : α) : (pure value : Step α).Yields fun disk => (.ok value, disk) :=
  fun _ hlog => ⟨rfl, hlog⟩

theorem yields_ofExcept (result : Except Failure α) :
    (ofExcept result).Yields fun disk => (result, disk) :=
  fun _ hlog => ⟨rfl, hlog⟩

theorem yields_disk : disk.Yields fun disk => (.ok disk, disk) :=
  fun _ hlog => ⟨rfl, hlog⟩

theorem yields_enter (stage : Stage) : (enter stage).Yields fun disk => (.ok (), disk) :=
  fun _ hlog => ⟨rfl, hlog⟩

theorem yields_say [Interpreter] (logger : String) (level : Level) (text : String) :
    (say logger level text).Yields fun disk => (.ok (), disk) := by
  intro session hlog
  simp [say, update, Session.tell_of_noLog hlog, hlog]

theorem yields_of_logs [Interpreter] {ε : Type} {logger : String} {rename : ε → Failure} {step : Step α}
    {logged : Disk → Logged ε α} (h : ∀ disk, Logs logger rename disk step (logged disk)) :
    step.Yields fun disk => ((logged disk).result.mapError rename, disk) := by
  intro session hlog
  rw [h session.disk session hlog rfl, ofLogged, Session.tellAll_of_noLog hlog]
  exact ⟨rfl, hlog⟩

theorem yields_onFailure {handler : Step Unit} (hstep : step.Yields effect)
    (hhandler : handler.Yields fun disk => (.ok (), disk)) :
    (step.onFailure handler).Yields effect := by
  intro session hlog
  obtain ⟨heffect, hlater⟩ := hstep session hlog
  rw [← heffect, onFailure]
  cases hresult : step session with
  | mk result later =>
      replace hlater : later.log = none := by rwa [hresult] at hlater
      obtain ⟨hkept, hnone⟩ := hhandler later hlater
      have hdisk : (handler later).2.disk = later.disk := congrArg Prod.snd hkept
      cases result with
      | ok value => exact ⟨rfl, hlater⟩
      | error failure => cases failure <;> simp [hdisk, hnone, hlater]

theorem yields_progress [Interpreter] (logger message : String) (hstep : step.Yields effect) :
    (progress logger message step).Yields effect := by
  let subject := Text.withoutEnd ['.', ' '] message
  let elapsed := Interpreter.elapsed subject
  have h := yields_bind (yields_say logger .info message) fun _ =>
    yields_bind (yields_onFailure hstep (yields_say logger .error
        s!"{subject} failed after {elapsed}")) fun value =>
      yields_bind (yields_say logger .info s!"{subject} done ({elapsed})") fun _ =>
        yields_pure value
  intro session hlog
  refine ⟨(h session hlog).1.trans ?_, (h session hlog).2⟩
  simp only [thenEffect]
  split <;> simp_all

end Step

namespace Generation

variable [Interpreter]

open Step

omit [Interpreter] in
theorem yields_write (target : Path) (text : String) :
    (write target text).Yields fun disk =>
      ((disk.replaceFile target (Text.encode text)).2.mapError .disk,
        (disk.replaceFile target (Text.encode text)).1) := by
  intro session hlog
  simp only [write]
  cases session.disk.replaceFile target (Text.encode text) with
  | mk disk result => cases result <;> simp [hlog]

theorem yields_writeProvider (project : Project) (output : Option String) :
    (writeProvider project output).Yields fun disk => planned disk project output := by
  have h := yields_bind (yields_enter .collecting) fun _ =>
    let discovery := project.discovery
    let source := project.sourceDirectory
    yields_bind (yields_of_logs fun _ =>
        Scanning.logs_collect (log ++ ".collector") discovery source) fun files =>
      yields_bind (yields_enter .analyzing) fun _ =>
        yields_bind (yields_of_logs fun _ =>
            Scanning.logs_analyze (log ++ ".analyzer") discovery source files) fun models =>
          yields_bind (yields_enter .emitting) fun _ =>
            let className := providerName project.name
            yields_bind (yields_ofExcept ((Provider.source ⟨models⟩ className
                project.name).mapError .provider)) fun text =>
              yields_bind (yields_enter .writing) fun _ =>
                yields_bind yields_disk fun disk =>
                  yields_bind (yields_ofExcept (targetOf disk project output)) fun target =>
                    yields_bind (yields_write target text) fun _ =>
                      yields_pure (⟨target, models, className⟩ : Generated)
  intro session hlog
  refine ⟨(h session hlog).1.trans ?_, (h session hlog).2⟩
  simp only [thenEffect, planned, plan]
  cases (collect session.disk project.discovery project.sourceDirectory).result with
  | error error => rfl
  | ok files =>
      simp only [mapError_ok, bind, Except.bind]
      cases (Workplace.analyze ⟨session.disk, project.discovery, project.sourceDirectory⟩
          files).result with
      | error error => rfl
      | ok models =>
          simp only [mapError_ok]
          cases Provider.source ⟨models⟩ (providerName project.name) project.name with
          | error error => rfl
          | ok text =>
              simp only [mapError_ok]
              cases targetOf session.disk project output with
              | error failure => rfl
              | ok target =>
                  simp only [pure, Except.pure, Plan.carryOut]
                  cases session.disk.replaceFile target (Text.encode text) with
                  | mk disk result => cases result <;> rfl

theorem yields_generate (project : Project) (output : Option String) :
    (generate project output).Yields fun disk => planned disk project output := by
  have hsaid : ∀ generated : Generated, Yields (do
      if generated.models = [] then
        Step.say log .warning s!"No models discovered under {project.sourceDirectory}"
      else
        Step.say log .info ("Added " ++ ", ".intercalate generated.names ++ " to the model provider")
      Step.say log .info s!"Model provider written to {generated.path}"
      return generated) fun disk => (.ok generated, disk) := by
    intro generated
    have hlast := fun _ : Unit =>
      yields_bind (yields_say log .info s!"Model provider written to {generated.path}") fun _ =>
        yields_pure generated
    split
    · exact yields_bind (yields_say _ _ _) hlast
    · exact yields_bind (yields_say _ _ _) hlast
  have h := yields_bind (yields_progress log "Generating model provider..."
    (yields_writeProvider project output)) hsaid
  intro session hlog
  refine ⟨(h session hlog).1.trans ?_, (h session hlog).2⟩
  rw [thenEffect]
  split <;> simp_all

theorem plan_of_generate {project : Project} {output : Option String} {session after : Session}
    {generated : Generated} (hlog : session.log = none)
    (h : generate project output session = (.ok generated, after)) :
    ∃ text, plan session.disk project output = .ok ⟨generated, text⟩ ∧
      session.disk.replaceFile generated.path (Text.encode text) = (after.disk, .ok ()) := by
  have hyields := (yields_generate project output session hlog).1
  rw [h] at hyields
  simp only [planned] at hyields
  cases hplan : plan session.disk project output with
  | error failure => simp [hplan] at hyields
  | ok made =>
      simp only [hplan, Plan.carryOut, Prod.mk.injEq] at hyields
      obtain ⟨hresult, hdisk⟩ := hyields
      cases hreplace : session.disk.replaceFile made.generated.path (Text.encode made.text) with
      | mk disk replaced =>
          rw [hreplace] at hresult hdisk
          cases replaced with
          | error error => cases hresult
          | ok _ =>
              obtain rfl : generated = made.generated := Except.ok.inj hresult
              exact ⟨made.text, rfl, by rw [hreplace, hdisk]⟩

end Generation

end ProviderGen
