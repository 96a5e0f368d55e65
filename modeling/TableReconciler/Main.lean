import TableReconciler.CommandLine
import TableReconciler.LogFormat
import TableReconciler.Workspace.InMemory

/-!
# The program

Rehearses the command line: the configurations of a file are applied to an empty workspace in
memory, and every notice of the run, the statements among them, is written to standard error.
-/

namespace TableReconciler.Main

/-- What the program says when it is asked for help or used wrongly. -/
def usage : String :=
  "usage: CONFIG [--cluster-id ID | --warehouse-id ID | --local-spark] [--profile NAME]"

/-- The environment variables that determine the settings. -/
def settingNames : List String := [
    "LOG_LEVEL", "LOGGER_NAME", "LOG_COLOUR_ENABLED", "SQL_EXEC_WAIT_TIMEOUT_SECONDS",
    "DEFAULT_CLUSTER_NAME", "CLUSTER_AUTOTERMINATION_MINUTES", "DATABRICKS_PROFILE"]

/-- What is said about a fault that ends the program and has no wording of its own. -/
def remark : CommandLine.Fault → String
  | .file .isDirectory => "the path leads to a directory"
  | .file _ => "there is no such file"
  | .json _ => "the file is not JSON"
  | .notCountable => "the file holds no list of configurations"
  | .nullCharacter | .operation _ => "a value has the wrong shape"

/-- The line of a notice, if the settings let it through. -/
def noticeLine? (settings : Settings) (notice : Notice) : Except UnknownLevel (Option String) := do
  let least ← LogFormat.levelNumber settings.logLevel
  let text := settings.loggerName ++ " - " ++ notice.level.name ++ " - " ++ notice.text
  return if notice.level.number < least then none
    else if settings.logColour then
      some (LogFormat.colour notice.level.number ++ text ++ LogFormat.reset)
    else some text

/-- The settings that the environment determines. -/
def readSettings : IO (Except Text.IntegerFault Settings) := do
  let values ← settingNames.filterMapM fun name => do
    return (← IO.getEnv name).map (name, ·)
  return Settings.ofEnvironment (values.lookup ·)

/-- The contents of the files that the arguments name, by their paths. -/
def readFiles (arguments : List String) : IO (List (String × String)) := do
  let paths : List String := ((CommandLine.scan {} arguments).map (·.positional)).getD []
  paths.filterMapM fun (path : String) => do
    try
      let text ← IO.FS.readFile path
      return some (Path.clean path, text)
    catch _ => return none

/-- The contents of one of the files. -/
def readFile (files : List (String × String)) (path : String) : Except FileFault String :=
  match files.lookup path with
  | some contents => .ok contents
  | none => .error .missing

/-- Run the program with settings, and tell the exit code. -/
def rehearse (settings : Settings) (arguments : List String) : IO UInt32 := do
  let files ← readFiles arguments
  let (exit, session) :=
    (CommandLine.run (σ := InMemory) { settings } (readFile files) arguments).run ⟨{}, []⟩
  for notice in session.journal.filterMap Event.notice? do
    match noticeLine? settings notice with
    | .ok line? => line?.forM IO.eprintln
    | .error fault =>
        IO.eprintln fault.message
        return 1
  match exit with
  | .code 2 =>
      IO.eprintln usage
      return 2
  | .code value => return value.toUInt32
  | .fault fault =>
      IO.eprintln (fault.message?.getD (remark fault))
      return 1

end TableReconciler.Main

/-- The program. -/
def main (arguments : List String) : IO UInt32 := do
  match ← TableReconciler.Main.readSettings with
  | .ok settings => TableReconciler.Main.rehearse settings arguments
  | .error fault =>
      IO.eprintln fault.message
      return 1
