import ProviderGen.Analysis
import ProviderGen.Build
import ProviderGen.Collection
import ProviderGen.Log.File
import ProviderGen.Project
import ProviderGen.Provider

/-!
Sessions: what a series of runs works on and leaves behind, and how a step of a run goes.

A step may fail. What it did before that stays done.
-/

namespace ProviderGen

inductive Stage
  | idle
  | loading
  | building
  | collecting
  | analyzing
  | emitting
  | writing
  | done
  | failed
  deriving DecidableEq, Repr

def Stage.name : Stage → String
  | idle => "idle"
  | loading => "config_loading"
  | building => "build_step"
  | collecting => "collecting"
  | analyzing => "analyzing"
  | emitting => "emitting"
  | writing => "writing"
  | done => "done"
  | failed => "failed"

/-- Why a step fails. A step from elsewhere fails in its own words. -/
inductive Failure
  | configuration (error : ConfigurationError)
  | build (failure : BuildFailure)
  | collection (error : CollectionError)
  | analysis (error : AnalysisError)
  | provider (error : ProviderError)
  | disk (error : DiskError)
  | noHome
  | elsewhere (thrown : Thrown) (message : String)
  | interrupted
  deriving DecidableEq, Repr

namespace Failure

def message : Failure → String
  | configuration error => error.message
  | build (.failed error) => error.message
  | build (.refused error) => error.message
  | build .hugeLimit => Yaml.DocumentError.hugeBase.message
  | collection error => error.message
  | analysis error => error.message
  | provider error => error.message
  | disk error => error.message
  | noHome => noHomeMessage
  | elsewhere _ message => message
  | interrupted => ""

end Failure

/-- What the end of a command means for the build. A command that is not there was not found. -/
def Ending.judge (name : String) : Ending → Except Failure Unit
  | .exited status => if status = 0 then .ok () else .error (.build (.failed (.exited status)))
  | .timedOut limit =>
      -- The message shows the limit as a real number, which it may be too large for.
      if limit.isHuge then .error (.build .hugeLimit)
      else .error (.build (.failed (.timedOut limit)))
  | .refused error =>
      if error.fault = .notFound then .error (.build (.failed (.notFound name)))
      else .error (.build (.refused error))
  | .threw thrown message => .error (.elsewhere thrown message)
  | .interrupted => .error .interrupted

/-- The disk, the stage of the last run, the records of all runs, the commands that were run, and
the log file that records go to, if one is open. -/
structure Session where
  disk : Disk
  stage : Stage
  records : List Record
  calls : List Call
  log : Option LogFile

namespace Session

/-- A session that begins with a disk. -/
def start (disk : Disk) : Session := ⟨disk, .idle, [], [], none⟩

variable [Interpreter]

/-- A record is written to the log file when it is made. -/
def tell (session : Session) (record : Record) : Session :=
  { session with
    disk := session.log.elim session.disk fun file =>
      file.note session.disk (Interpreter.moment session.records.length) record
    records := session.records ++ [record] }

/-- Records of one log, one after the other. -/
def tellAll (logger : String) (remarks : List Remark) (session : Session) : Session :=
  remarks.foldl (fun session remark => session.tell ⟨logger, remark⟩) session

/-- What is done to the disk, where the log file may be moved or removed. -/
def undergo (session : Session) (effect : Effect) : Session :=
  { session with
    disk := effect.disk
    log := session.log.bind fun file =>
      (effect.whereabouts file.place).map fun place => { file with place } }

/-- Follows a command to its end and logs each line when it is written. -/
def follow (logger : String) : Activity → Session → Ending × Session
  | .line text effect next, session =>
      let session := (session.undergo effect).tell ⟨logger, ⟨.info, text⟩⟩
      follow logger (next session.disk) session
  | .ended effect ending, session => (ending, session.undergo effect)

section Tell

variable {session : Session}

@[simp]
theorem tell_records (session : Session) (record : Record) :
    (session.tell record).records = session.records ++ [record] := rfl

@[simp]
theorem tell_stage (session : Session) (record : Record) :
    (session.tell record).stage = session.stage := rfl

@[simp]
theorem tell_calls (session : Session) (record : Record) :
    (session.tell record).calls = session.calls := rfl

@[simp]
theorem tell_log (session : Session) (record : Record) :
    (session.tell record).log = session.log := rfl

theorem tell_of_noLog (h : session.log = none) (record : Record) :
    session.tell record = { session with records := session.records ++ [record] } := by
  simp [tell, h]

@[simp]
theorem tellAll_nil (logger : String) (session : Session) : session.tellAll logger [] = session :=
  rfl

@[simp]
theorem tellAll_cons (logger : String) (remark : Remark) (remarks : List Remark)
    (session : Session) : session.tellAll logger (remark :: remarks) =
      (session.tell ⟨logger, remark⟩).tellAll logger remarks := rfl

theorem tellAll_append (logger : String) (remarks more : List Remark) (session : Session) :
    session.tellAll logger (remarks ++ more) =
      (session.tellAll logger remarks).tellAll logger more := by
  simp [tellAll]

theorem tellAll_of_noLog (h : session.log = none) (logger : String) (remarks : List Remark) :
    session.tellAll logger remarks =
      { session with records := session.records ++ remarks.map (⟨logger, ·⟩) } := by
  induction remarks generalizing session with
  | nil => simp
  | cons remark remarks ih =>
      rw [tellAll_cons, ih (by simpa using h), tell_of_noLog h]
      simp

end Tell

end Session

def Step (α : Type) := Session → Except Failure α × Session

namespace Step

variable {α β : Type}

/-- A step and then another one, unless the first fails. -/
def andThen (step : Step α) (next : α → Step β) : Step β := fun session =>
  match step session with
  | (.ok value, session) => next value session
  | (.error failure, session) => (.error failure, session)

instance : Monad Step where
  pure value := fun session => (.ok value, session)
  bind := andThen

def fail (failure : Failure) : Step α := fun session => (.error failure, session)

/-- A step that is only its result. -/
def ofExcept (result : Except Failure α) : Step α := fun session => (result, session)

/-- A step that changes the session. -/
def update (change : Session → Session) : Step Unit := fun session => (.ok (), change session)

def disk : Step Disk := fun session => (.ok session.disk, session)

def enter (stage : Stage) : Step Unit :=
  update fun session => { session with stage := stage }

/-- A step that makes a remark in a log. -/
def say [Interpreter] (logger : String) (level : Level) (text : String) : Step Unit :=
  update (·.tell ⟨logger, ⟨level, text⟩⟩)

/-- A step that makes the remarks of another one in a log. -/
def ofLogged [Interpreter] {ε : Type} (logger : String) (failure : ε → Failure)
    (step : Logged ε α) : Step α :=
  fun session =>
    (step.result.mapError failure, session.tellAll logger step.remarks)

/-- A step that does something more if it fails, except when it is interrupted. -/
def onFailure (step : Step α) (handler : Step Unit) : Step α := fun session =>
  match step session with
  | (.ok value, session) => (.ok value, session)
  -- An interruption is no exception that a handler would see.
  | (.error .interrupted, session) => (.error .interrupted, session)
  | (.error failure, session) => (.error failure, (handler session).2)

@[simp]
theorem pure_apply (value : α) (session : Session) :
    (pure value : Step α) session = (.ok value, session) := rfl

@[simp]
theorem bind_apply (step : Step α) (next : α → Step β) (session : Session) :
    (step >>= next) session = step.andThen next session := rfl

end Step

/-- A step that is announced in a log, together with how it ends. -/
def progress [Interpreter] {α : Type} (logger : String) (message : String) (step : Step α) :
    Step α := do
  .say logger .info message
  let subject := Text.withoutEnd ['.', ' '] message
  let elapsed := Interpreter.elapsed subject
  let value ← step.onFailure (.say logger .error s!"{subject} failed after {elapsed}")
  .say logger .info s!"{subject} done ({elapsed})"
  return value

end ProviderGen
