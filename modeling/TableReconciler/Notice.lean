import TableReconciler.Fault

/-!
# Notices

What is said while operations run, and how grave it is.
-/

namespace TableReconciler

/-- How grave a notice is. -/
inductive Level where
  /-- Details for developers. -/
  | debug
  /-- The normal course. -/
  | info
  /-- Something unexpected that does not stop the work. -/
  | warning
  /-- Something that stops the work. -/
  | error
  /-- Something that stops the program. -/
  | critical
  deriving DecidableEq, Repr

namespace Level

/-- The number of a level. -/
def number : Level → Int
  | .debug => 10
  | .info => 20
  | .warning => 30
  | .error => 40
  | .critical => 50

/-- The name of a level. -/
def name : Level → String
  | .debug => "DEBUG"
  | .info => "INFO"
  | .warning => "WARNING"
  | .error => "ERROR"
  | .critical => "CRITICAL"

end Level

/-- What is said. -/
inductive Notice where
  /-- An object is about to be created. -/
  | creating (kind : ObjectKind) (name : QualifiedName)
  /-- An object is about to be dropped. -/
  | dropping (kind : ObjectKind) (name : QualifiedName)
  /-- An update has been planned. -/
  | planned (name : QualifiedName) (statements : Nat)
  /-- The owner of an object is about to be set. -/
  | settingOwner (name : QualifiedName) (owner : String)
  /-- A statement is about to be executed. -/
  | executing (index total : Nat) (statement : String)
  /-- A statement failed. -/
  | statementFailed (index total : Nat) (detail : String)
  /-- A cluster is gone, and another takes its place. -/
  | clusterGone (clusterId fallback : String)
  /-- A cluster is about to be created. -/
  | creatingCluster (name : String)
  /-- More than one target is given on the command line. -/
  | conflictingTargets
  /-- Configurations are about to be applied. -/
  | applying (count : Nat) (path : String)
  /-- A fault ends the work. -/
  | ended (fault : Fault)
  deriving DecidableEq, Repr

namespace Notice

/-- How grave a notice is. -/
def level : Notice → Level
  | .clusterGone _ _ => .warning
  | .statementFailed _ _ _ | .conflictingTargets | .ended _ => .error
  | _ => .info

/-- The text of a notice. -/
def text : Notice → String
  | .creating kind name => "Creating " ++ Text.lower kind.keyword ++ " " ++ name.format ++ "."
  | .dropping kind name => "Dropping " ++ Text.lower kind.keyword ++ " " ++ name.format ++ "."
  | .planned name statements =>
      "Update of " ++ name.format ++ ": " ++ toString statements ++ " statement(s) planned."
  | .settingOwner name owner => "Setting owner of " ++ name.format ++ " to " ++ owner ++ "."
  | .executing index total statement =>
      "Executing SQL (" ++ toString index ++ "/" ++ toString total ++ "): " ++ statement
  | .statementFailed index total detail =>
      "Statement " ++ toString index ++ "/" ++ toString total ++ " failed, " ++
        toString (index - 1) ++ " statement(s) already applied: " ++ detail
  | .clusterGone clusterId fallback =>
      "Cluster " ++ clusterId ++ " no longer exists; falling back to cluster '" ++ fallback ++ "'."
  | .creatingCluster name => "Creating cluster '" ++ name ++ "' for SQL execution."
  | .conflictingTargets => "Use only one of --cluster-id, --warehouse-id and --local-spark."
  | .applying count path =>
      "Applying " ++ toString count ++ " table config(s) from " ++ path ++ "."
  | .ended fault => fault.message?.getD ""

end Notice

end TableReconciler
