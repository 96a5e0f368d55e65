import TableReconciler.Connection
import TableReconciler.Directory
import TableReconciler.Sync

/-!
# The command line

Reading the arguments, and applying the configurations of a file.

An option takes its value from the same argument, after an equals sign, or from the next argument,
whatever that looks like.  The short option takes the rest of its argument.  A repeated option
takes its last value, and two dashes end the options.
-/

namespace TableReconciler.CommandLine

/-! ## Arguments -/

/-- What the arguments ask for. -/
structure Arguments where
  /-- The arguments that are no options. -/
  positional : List String := []
  /-- The cluster to use. -/
  clusterId : Option String := none
  /-- The warehouse to use. -/
  warehouseId : Option String := none
  /-- The profile for credentials. -/
  profile : Option String := none
  /-- Whether to use the local query engine. -/
  localEngine : Bool := false
  /-- Whether help is asked for. -/
  help : Bool := false
  deriving DecidableEq, Repr

/-- The options that take a value. -/
inductive ValueOption where
  /-- The cluster to use. -/
  | cluster
  /-- The warehouse to use. -/
  | warehouse
  /-- The profile for credentials. -/
  | profile
  deriving DecidableEq, Repr

/-- Set an option. -/
def Arguments.set (a : Arguments) (option : ValueOption) (value : String) : Arguments :=
  match option with
  | .cluster => { a with clusterId := some value }
  | .warehouse => { a with warehouseId := some value }
  | .profile => { a with profile := some value }

/-- The option with a given long name. -/
def longOption? : String → Option ValueOption
  | "--cluster-id" => some .cluster
  | "--warehouse-id" => some .warehouse
  | "--profile" => some .profile
  | _ => none

/-- What one argument is. -/
inductive Argument where
  /-- An argument that is no option. -/
  | positional
  /-- The end of the options. -/
  | endOfOptions
  /-- The option for the local query engine. -/
  | localEngine
  /-- The option for help. -/
  | help
  /-- An option whose value is the next argument. -/
  | option (option : ValueOption)
  /-- An option with its value. -/
  | optionWith (option : ValueOption) (value : String)
  /-- No option that is known. -/
  | unknown
  deriving DecidableEq, Repr

/-- Tell what one argument is. -/
def Argument.ofText (text : String) : Argument :=
  match text.toList with
  | ['-', '-'] => .endOfOptions
  | '-' :: '-' :: _ =>
      let name := String.ofList (text.toList.takeWhile (· ≠ '='))
      match longOption? name, text.toList.dropWhile (· ≠ '=') with
      | some o, [] => .option o
      | some o, _ :: value => .optionWith o (String.ofList value)
      | none, _ =>
          if text = "--local-spark" then .localEngine
          else if text = "--help" then .help
          else .unknown
  | ['-', 'p'] => .option .profile
  | '-' :: 'p' :: value => .optionWith .profile (String.ofList value)
  | '-' :: _ :: _ => .unknown
  | _ => .positional

/-- Read the arguments one after the other; there is no result when an option is unknown or lacks
its value. -/
def scan (a : Arguments) : List String → Option Arguments
  | [] => some a
  | [text] =>
      match Argument.ofText text with
      | .positional => some { a with positional := a.positional ++ [text] }
      | .endOfOptions => some a
      | .localEngine => some { a with localEngine := true }
      | .help => some { a with help := true }
      | .optionWith o value => some (a.set o value)
      | .option _ | .unknown => none
  | text :: next :: rest =>
      match Argument.ofText text with
      | .positional => scan { a with positional := a.positional ++ [text] } (next :: rest)
      | .endOfOptions => some { a with positional := a.positional ++ next :: rest }
      | .localEngine => scan { a with localEngine := true } (next :: rest)
      | .help => scan { a with help := true } (next :: rest)
      | .optionWith o value => scan (a.set o value) (next :: rest)
      | .option o => scan (a.set o next) rest
      | .unknown => none

/-! ## Running -/

/-- A fault that ends the program. -/
inductive Fault where
  /-- The path holds a null character. -/
  | nullCharacter
  /-- The file cannot be read. -/
  | file (fault : FileFault)
  /-- The file is not JSON. -/
  | json (fault : Json.Fault)
  /-- The file holds a value without a length. -/
  | notCountable
  /-- An operation ended in a fault. -/
  | operation (fault : TableReconciler.Fault)
  deriving DecidableEq, Repr

/-- The wording of a fault, if it has one. -/
def Fault.message? : Fault → Option String
  | .nullCharacter => some "embedded null byte"
  | .file _ => none
  | .json fault => fault.message?
  | .notCountable => none
  | .operation fault => fault.message?

/-- How the program ends. -/
inductive Exit where
  /-- With an exit code. -/
  | code (value : Nat)
  /-- With a fault that the program does not report itself. -/
  | fault (fault : Fault)
  deriving DecidableEq, Repr

/-- The number of items of a value: of a list, of a mapping, or the characters of a text. -/
def count? : Value → Option Nat
  | .list items => some items.length
  | .mapping entries => some entries.length
  | .scalar value => value.points?.map List.length

variable {σ : Type} [Workspace σ]

/-- Apply configurations, and tell how the program ends.  Refused changes, failed statements and
missing compute are reported in a line of their own. -/
def apply (policy : Policy) (compute : ComputeChoice) (configs : Value) : Step σ Exit := do
  match ← (policy.sync compute configs : Action σ Unit).run with
  | .ok () => return .code 0
  | .error fault =>
      if fault.isReported then
        say (.ended fault)
        return .code 1
      else return .fault (.operation fault)

/-- The compute that the arguments ask for. -/
def Arguments.compute (a : Arguments) : ComputeChoice where
  clusterId := a.clusterId
  warehouseId := a.warehouseId
  localEngine := a.localEngine

/-- Connect to the workspace and apply the configurations that a file holds.  The profile of the
settings is used when the arguments name none. -/
def applyFile (policy : Policy) (a : Arguments) (path : String) (configs : Value) :
    Step σ Exit := do
  let profile := (nonEmpty? a.profile).or policy.settings.profile
  match ← (Connection.connect profile : Action σ Unit).run with
  | .error fault => return .fault (.operation fault)
  | .ok () =>
      match count? configs with
      | none => return .fault .notCountable
      | some count =>
          say (.applying count path)
          apply policy a.compute configs

/-- How many lists and objects of a configuration file may stand inside one another. -/
def fileDepth : Nat := 980

/-- Read a configuration file and apply the configurations it holds. -/
def runFile (policy : Policy) (read : String → Except FileFault String) (a : Arguments)
    (path : String) : Step σ Exit := do
  match read path with
  | .error fault => return .fault (.file fault)
  | .ok text =>
      match Json.read fileDepth text with
      | .error fault => return .fault (.json fault)
      | .ok configs => applyFile policy a path configs

/-- Run the program on its arguments, with a way to read files.  Usage faults and more than one
target end it with the code two. -/
def run (policy : Policy) (read : String → Except FileFault String) (arguments : List String) :
    Step σ Exit := do
  match scan {} arguments with
  | none => return .code 2
  | some a =>
      if a.help then return .code 0
      match a.positional with
      | [] => return .code 2
      | path :: others =>
          if path.contains '\x00' then return .fault .nullCharacter
          if !others.isEmpty then return .code 2
          if ¬ a.compute.Accepted then
            say .conflictingTargets
            return .code 2
          runFile policy read a (Path.clean path)

end TableReconciler.CommandLine
