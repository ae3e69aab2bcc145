namespace ProviderGen

/-- How much a record matters. -/
inductive Level
  | debug
  | info
  | warning
  | error
  | critical
  deriving DecidableEq, Repr

namespace Level

def name : Level → String
  | debug => "DEBUG"
  | info => "INFO"
  | warning => "WARNING"
  | error => "ERROR"
  | critical => "CRITICAL"

/-- The rank of a level among the others. -/
def rank : Level → Nat
  | debug => 10
  | info => 20
  | warning => 30
  | error => 40
  | critical => 50

end Level

/-- What a record says, and how much it matters. -/
structure Remark where
  level : Level
  text : String
  deriving DecidableEq, Repr

/-- A remark and the name of the log it was made in. -/
structure Record where
  logger : String
  remark : Remark
  deriving DecidableEq, Repr

/-- The name that all logs are below. -/
def rootLogger : String := "modelgen"

def loggerName (name : String) : String :=
  if name = "" then rootLogger else rootLogger ++ "." ++ name

/-- The outcome of a step, and the remarks it made on the way. -/
structure Logged (ε α : Type) where
  remarks : List Remark
  result : Except ε α

namespace Logged

variable {ε ε' α β : Type}

/-- A step that makes no remark. -/
def ofExcept (result : Except ε α) : Logged ε α := ⟨[], result⟩

/-- A step and then another one, unless the first fails. -/
def andThen (step : Logged ε α) (next : α → Logged ε β) : Logged ε β :=
  match step.result with
  | .ok value => ⟨step.remarks ++ (next value).remarks, (next value).result⟩
  | .error error => ⟨step.remarks, .error error⟩

instance : Monad (Logged ε) where
  pure value := ⟨[], .ok value⟩
  bind := andThen

def fail (error : ε) : Logged ε α := ofExcept (.error error)

/-- A step that makes a remark. -/
def debug (text : String) : Logged ε Unit := ⟨[⟨.debug, text⟩], .ok ()⟩

/-- A step with its error put in other words. -/
def mapError (f : ε → ε') (step : Logged ε α) : Logged ε' α :=
  ⟨step.remarks, step.result.mapError f⟩

@[simp]
theorem pure_eq (value : α) : (pure value : Logged ε α) = ⟨[], .ok value⟩ := rfl

@[simp]
theorem bind_eq (step : Logged ε α) (next : α → Logged ε β) :
    step >>= next = step.andThen next := rfl

@[simp]
theorem andThen_ok (remarks : List Remark) (value : α) (next : α → Logged ε β) :
    andThen ⟨remarks, .ok value⟩ next =
      ⟨remarks ++ (next value).remarks, (next value).result⟩ := rfl

@[simp]
theorem andThen_error (remarks : List Remark) (error : ε) (next : α → Logged ε β) :
    andThen ⟨remarks, .error error⟩ next = ⟨remarks, .error error⟩ := rfl

theorem andThen_pure (step : Logged ε α) : step.andThen (fun value => ⟨[], .ok value⟩) = step := by
  obtain ⟨remarks, result⟩ := step
  cases result <;> simp [andThen]

theorem andThen_assoc {γ : Type} (step : Logged ε α) (next : α → Logged ε β)
    (more : β → Logged ε γ) :
    (step.andThen next).andThen more = step.andThen fun value => (next value).andThen more := by
  obtain ⟨remarks, result⟩ := step
  cases result with
  | error error => rfl
  | ok value =>
      rw [andThen_ok, andThen_ok]
      cases hnext : (next value).result <;> simp [andThen, hnext]

theorem result_andThen (step : Logged ε α) (next : α → Logged ε β) :
    (step.andThen next).result = step.result >>= fun value => (next value).result := by
  obtain ⟨remarks, result⟩ := step
  cases result <;> rfl

theorem result_andThen_eq_ok {step : Logged ε α} {next : α → Logged ε β} {value : β} :
    (step.andThen next).result = .ok value ↔
      ∃ first, step.result = .ok first ∧ (next first).result = .ok value := by
  obtain ⟨remarks, result⟩ := step
  cases result <;> simp

end Logged

end ProviderGen
