import TableReconciler.Text.Case
import TableReconciler.Text.Integer

/-!
# Settings

The values that environment variables determine.
-/

namespace TableReconciler

/-- What the environment determines. -/
structure Settings where
  /-- The least level of notices that are written. -/
  logLevel : String := "INFO"
  /-- The name that notices carry. -/
  loggerName : String := "sql-table-engine"
  /-- Whether notices are written in colour. -/
  logColour : Bool := true
  /-- The longest wait for a statement on a warehouse, in seconds. -/
  waitSeconds : Int := 50
  /-- The name of the default cluster. -/
  clusterName : String := "sql-table-engine"
  /-- The minutes without work after which the default cluster stops. -/
  autoterminationMinutes : Int := 10
  /-- The profile for credentials. -/
  profile : Option String := none
  deriving DecidableEq, Repr

namespace Settings

/-- Read an integer that may be missing. -/
def integer (text? : Option String) (default : Int) : Except Text.IntegerFault Int :=
  match text? with
  | some text => Text.readInteger text
  | none => .ok default

/-- Read the settings from the environment.  A variable that is missing leaves its setting as it
is.  The waiting time is read before the minutes. -/
def ofEnvironment (get? : String → Option String) : Except Text.IntegerFault Settings := do
  let base : Settings := {}
  let waitSeconds ← integer (get? "SQL_EXEC_WAIT_TIMEOUT_SECONDS") base.waitSeconds
  let autoterminationMinutes ←
    integer (get? "CLUSTER_AUTOTERMINATION_MINUTES") base.autoterminationMinutes
  return {
    logLevel := (get? "LOG_LEVEL").getD base.logLevel
    loggerName := (get? "LOGGER_NAME").getD base.loggerName
    logColour := ((get? "LOG_COLOUR_ENABLED").map (Text.upper · == "TRUE")).getD base.logColour
    waitSeconds
    clusterName := (get? "DEFAULT_CLUSTER_NAME").getD base.clusterName
    autoterminationMinutes
    profile := (get? "DATABRICKS_PROFILE").filter fun value => !value.isEmpty }

end Settings

end TableReconciler
