/-!
# Logs and logged computations

What the program does is told in log entries. A logged computation has its entries up to where it
ended, whether it ended with a value or with an error.
-/
namespace SchemaDoc

/-- How urgent a log entry is. -/
inductive Level where
  | debug
  | info
  | warning
  | error
  deriving DecidableEq, Repr

/-- The name of a level. -/
def Level.name : Level → String
  | .debug => "DEBUG"
  | .info => "INFO"
  | .warning => "WARNING"
  | .error => "ERROR"

/-- Whether entries of a level are shown without asking for more. -/
def Level.isUrgent : Level → Bool
  | .debug | .info => false
  | .warning | .error => true

/-- One log entry. -/
structure LogEntry where
  level : Level
  message : String
  deriving DecidableEq, Repr

/-- A chain of results ends with a value just when both of its parts do. -/
theorem bind_eq_ok_iff {Error Value Next : Type} {first : Except Error Value}
    {next : Value → Except Error Next} {last : Next} :
    (first >>= next) = .ok last ↔ ∃ value, first = .ok value ∧ next value = .ok last := by
  cases first <;> simp [bind, Except.bind]

theorem mapError_eq_ok_iff {Error Other Value : Type} {rename : Error → Other}
    {result : Except Error Value} {value : Value} :
    result.mapError rename = .ok value ↔ result = .ok value := by
  cases result with
  | error fault => exact ⟨nofun, nofun⟩
  | ok held =>
    constructor
    · intro same
      cases same
      rfl
    · intro same
      cases same
      rfl

theorem mapError_eq_error_iff {Error Other Value : Type} {rename : Error → Other}
    {result : Except Error Value} {error : Other} :
    result.mapError rename = .error error ↔ ∃ fault, result = .error fault ∧ rename fault = error := by
  cases result with
  | error fault =>
    constructor
    · intro same
      cases same
      exact ⟨fault, rfl, rfl⟩
    · rintro ⟨_, same, rfl⟩
      cases same
      rfl
  | ok held => exact ⟨nofun, nofun⟩

/-- The entries of a computation and how it ended. -/
structure Logged (Error Value : Type) where
  log : List LogEntry
  result : Except Error Value

namespace Logged

variable {Error Value Next : Type}

/-- End with a value. -/
protected def pure (value : Value) : Logged Error Value where
  log := []
  result := .ok value

/-- End with an error. -/
def fail (error : Error) : Logged Error Value where
  log := []
  result := .error error

/-- Go on with the value, unless there was an error. -/
protected def bind (first : Logged Error Value) (next : Value → Logged Error Next) :
    Logged Error Next :=
  match first.result with
  | .error error => { log := first.log, result := .error error }
  | .ok value =>
    let rest := next value
    { log := first.log ++ rest.log, result := rest.result }

instance : Monad (Logged Error) where
  pure := Logged.pure
  bind := Logged.bind

/-- A computation that logs nothing. -/
def ofExcept (result : Except Error Value) : Logged Error Value where
  log := []
  result := result

/-- Log one entry. -/
def note (level : Level) (message : String) : Logged Error Unit where
  log := [{ level, message }]
  result := .ok ()

/-- Rename the error. -/
def mapError {Other : Type} (rename : Error → Other) (computation : Logged Error Value) :
    Logged Other Value where
  log := computation.log
  result := computation.result.mapError rename

/-- A chain ends with a value just when both of its parts do. -/
theorem bind_result_ok_iff (first : Logged Error Value) (next : Value → Logged Error Next)
    (last : Next) :
    (first.bind next).result = .ok last ↔
      ∃ value, first.result = .ok value ∧ (next value).result = .ok last := by
  unfold Logged.bind
  cases first.result <;> simp

theorem map_result_ok_iff (change : Value → Next) (computation : Logged Error Value) (last : Next) :
    (change <$> computation).result = .ok last ↔
      ∃ value, computation.result = .ok value ∧ change value = last := by
  refine (bind_result_ok_iff computation (fun value => Logged.pure (change value)) last).trans ?_
  simp [Logged.pure]

theorem mapError_result_ok_iff {Other : Type} (rename : Error → Other)
    (computation : Logged Error Value) (value : Value) :
    (computation.mapError rename).result = .ok value ↔ computation.result = .ok value :=
  mapError_eq_ok_iff

end Logged

/-- A list of numbers in brackets, as messages show it. -/
def showNumbers (numbers : List Int) : String :=
  "[" ++ String.intercalate ", " (numbers.map toString) ++ "]"

end SchemaDoc
