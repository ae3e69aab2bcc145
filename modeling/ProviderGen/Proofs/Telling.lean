import ProviderGen.Session

namespace ProviderGen

namespace Session

variable [Interpreter] {session : Session} {logger : String}

theorem exists_tellAll (logger : String) (remarks : List Remark) (session : Session) :
    ∃ disk, session.tellAll logger remarks =
      { session with
        disk := disk
        records := session.records ++ remarks.map (⟨logger, ·⟩) } := by
  induction remarks generalizing session with
  | nil => exact ⟨session.disk, by simp⟩
  | cons remark remarks ih =>
      obtain ⟨disk, heq⟩ := ih (session.tell ⟨logger, remark⟩)
      exact ⟨disk, by simp [heq]⟩

/-- A command that is followed changes the disk, and may take the log file away. Its lines are
recorded. -/
theorem exists_follow (logger : String) (activity : Activity) (session : Session) :
    ∃ (disk : Disk) (log : Option LogFile) (lines : List String),
      (session.follow logger activity).2 =
      { session with
        disk := disk
        records := session.records ++ lines.map fun line => ⟨logger, ⟨.info, line⟩⟩
        log := log } := by
  induction activity generalizing session with
  | line text effect next ih =>
      let told := (session.undergo effect).tell ⟨logger, ⟨.info, text⟩⟩
      obtain ⟨disk, log, lines, heq⟩ := ih told.disk told
      exact ⟨disk, log, text :: lines, by rw [follow, heq]; simp [told, undergo]⟩
  | ended effect ending =>
      exact ⟨effect.disk, (session.undergo effect).log, [], by simp [follow, undergo]⟩

theorem follow_of_noLog (h : session.log = none) (activity : Activity) :
    session.follow logger activity =
      (activity.outcome.ending,
        { session with
          disk := activity.outcome.disk
          records := session.records ++
            activity.outcome.lines.map fun line => ⟨logger, ⟨.info, line⟩⟩ }) := by
  induction activity generalizing session with
  | line text effect next ih =>
      have hnone : (session.undergo effect).log = none := by simp [undergo, h]
      rw [follow, ih _ (by simpa using hnone), tell_of_noLog hnone]
      simp [undergo, h, Activity.outcome]
  | ended effect ending => simp [follow, undergo, h, Activity.outcome]

end Session

namespace Step

variable [Interpreter] {ε α β : Type} {logger : String} {rename : ε → Failure} {disk : Disk}

/-- A step that only makes remarks in a log, and fails with errors of one kind. -/
structure Scans (logger : String) (rename : ε → Failure) (step : Step α) : Prop where
  tells : ∀ session, ∃ remarks, (step session).2 = session.tellAll logger remarks
  fails : ∀ session failure, (step session).1 = .error failure → ∃ error, failure = rename error

theorem Scans.bind {step : Step α} {next : α → Step β} (hstep : Scans logger rename step)
    (hnext : ∀ value, Scans logger rename (next value)) : Scans logger rename (step >>= next) := by
  constructor
  · intro session
    obtain ⟨remarks, hremarks⟩ := hstep.tells session
    rw [bind_apply, andThen]
    cases hresult : step session with
    | mk result between =>
        obtain rfl : between = session.tellAll logger remarks := by rw [← hremarks, hresult]
        cases result with
        | error failure => exact ⟨remarks, rfl⟩
        | ok value =>
            obtain ⟨more, hmore⟩ := (hnext value).tells (session.tellAll logger remarks)
            exact ⟨remarks ++ more, hmore.trans (Session.tellAll_append ..).symm⟩
  · intro session failure h
    have hfirst := hstep.fails session failure
    rw [bind_apply, andThen] at h
    cases hresult : step session with
    | mk result between =>
        rw [hresult] at h hfirst
        cases result with
        | error other => exact hfirst (congrArg Except.error (Except.error.inj h))
        | ok value => exact (hnext value).fails between failure h

theorem scans_pure (value : α) : Scans logger rename (pure value : Step α) :=
  ⟨fun _ => ⟨[], rfl⟩, fun _ _ h => by cases h⟩

theorem scans_disk : Scans logger rename Step.disk :=
  ⟨fun _ => ⟨[], rfl⟩, fun _ _ h => by cases h⟩

theorem scans_mapError (result : Except ε α) :
    Scans logger rename (ofExcept (result.mapError rename)) := by
  refine ⟨fun _ => ⟨[], rfl⟩, fun session failure h => ?_⟩
  cases result with
  | ok value => cases h
  | error error => exact ⟨error, (Except.error.inj h).symm⟩

theorem scans_ofLogged (logged : Session → Logged ε α) :
    Scans logger rename fun session => ofLogged logger rename (logged session) session := by
  refine ⟨fun session => ⟨(logged session).remarks, rfl⟩, fun session failure h => ?_⟩
  dsimp only [ofLogged] at h
  cases hresult : (logged session).result with
  | ok value =>
      rw [hresult] at h
      cases h
  | error error =>
      rw [hresult] at h
      exact ⟨error, (Except.error.inj h).symm⟩

theorem scans_say (level : Level) (text : String) : Scans logger rename (say logger level text) :=
  ⟨fun _ => ⟨[⟨level, text⟩], rfl⟩, fun _ _ h => by cases h⟩

/-- On a disk, where no log file is kept, a step comes to what a logged one does. -/
def Logs (logger : String) (rename : ε → Failure) (disk : Disk) (step : Step α)
    (logged : Logged ε α) : Prop :=
  ∀ session, session.log = none → session.disk = disk →
    step session = ofLogged logger rename logged session

theorem Logs.bind {step : Step α} {next : α → Step β} {logged : Logged ε α}
    {more : α → Logged ε β} (hstep : Logs logger rename disk step logged)
    (hnext : ∀ value, Logs logger rename disk (next value) (more value)) :
    Logs logger rename disk (step >>= next) (logged >>= more) := by
  intro session hlog hdisk
  rw [bind_apply, andThen, hstep session hlog hdisk]
  obtain ⟨remarks, result⟩ := logged
  cases result with
  | error error => rfl
  | ok value =>
      have htold := Session.tellAll_of_noLog hlog logger remarks
      have hafter : (session.tellAll logger remarks).log = none ∧
          (session.tellAll logger remarks).disk = disk := by
        rw [htold]
        exact ⟨hlog, hdisk⟩
      refine (hnext value _ hafter.1 hafter.2).trans ?_
      simp [ofLogged, Session.tellAll_append]

theorem Logs.disk_bind {next : Disk → Step α} {logged : Logged ε α}
    (h : Logs logger rename disk (next disk) logged) :
    Logs logger rename disk (Step.disk >>= next) logged := by
  rintro session hlog rfl
  exact h session hlog rfl

theorem logs_pure (value : α) :
    Logs logger rename disk (pure value) (pure value : Logged ε α) :=
  fun _ _ _ => rfl

theorem logs_ofExcept (result : Except ε α) :
    Logs logger rename disk (ofExcept (result.mapError rename)) (Logged.ofExcept result) :=
  fun _ _ _ => rfl

theorem logs_ofLogged (logged : Logged ε α) :
    Logs logger rename disk (ofLogged logger rename logged) logged :=
  fun _ _ _ => rfl

end Step

end ProviderGen
