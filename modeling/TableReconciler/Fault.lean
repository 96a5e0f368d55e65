import TableReconciler.ColumnRule
import TableReconciler.Config
import TableReconciler.Ddl.Statement
import TableReconciler.Workspace.Request

/-!
# Faults

The ways in which an operation on the workspace ends without a result.
-/

namespace TableReconciler

/-- Why there is nothing to run statements on. -/
inductive ProvisioningFault where
  /-- A request on the way to a cluster failed. -/
  | request (failure : CallFailure)
  /-- A cluster was created but got no identifier. -/
  | clusterWithoutId (name : String)
  /-- The credentials were refused. -/
  | authentication (failure : CallFailure)
  deriving DecidableEq, Repr

namespace ProvisioningFault

/-- The wording of the fault. -/
def message : ProvisioningFault → String
  | .request failure => "cannot resolve compute for SQL execution: " ++ failure.describe
  | .clusterWithoutId name => "cluster '" ++ name ++ "' was created without an id"
  | .authentication failure => "Databricks authentication failed: " ++ failure.message

/-- The failure that the fault is due to. -/
def cause? : ProvisioningFault → Option CallFailure
  | .request failure | .authentication failure => some failure
  | .clusterWithoutId _ => none

end ProvisioningFault

/-- Why an operation ends without a result. -/
inductive Fault where
  /-- A change of columns is refused. -/
  | columns (fault : ColumnFault)
  /-- A statement failed; those before it stay applied. -/
  | execution (statement detail : String)
  /-- There is nothing to run statements on. -/
  | provisioning (fault : ProvisioningFault)
  /-- A configuration declares no description. -/
  | config (fault : Config.Fault)
  /-- A record of the catalog amounts to no description. -/
  | record (fault : Catalog.Fault)
  /-- A statement cannot be written. -/
  | unwritable (fault : StatementFault)
  /-- A text is no three-part name. -/
  | malformedName (text : List Text.CodePoint)
  /-- A target states nothing to run statements on. -/
  | emptyTarget
  /-- The workspace does not tell the current user. -/
  | noCurrentUser
  /-- A request failed. -/
  | call (failure : CallFailure)
  deriving DecidableEq, Repr

namespace Fault

/-- The wording of a fault, if it has one. -/
def message? : Fault → Option String
  | .columns fault => some fault.message
  | .execution statement detail => some ("cannot execute " ++ statement ++ ": " ++ detail)
  | .provisioning fault => some fault.message
  | .config fault => fault.message?
  | .record fault => fault.message?
  | .unwritable fault => fault.message?
  | .malformedName text =>
      some ("Expected three-part name 'catalog.schema.table', got: " ++ Text.quotedPoints text)
  | .emptyTarget =>
      some "ExecutionTarget must carry a cluster_id, a warehouse_id or local_spark."
  | .noCurrentUser => some "Could not determine current user (user_name is empty)."
  | .call failure => some failure.message

/-- Whether the command line reports the fault in a line of its own: refused changes, failed
statements and missing compute. -/
def isReported : Fault → Bool
  | .columns _ | .execution _ _ | .provisioning _ => true
  | _ => false

/-- Whether the fault is the failure of a request that did not find something. -/
def isNotFound : Fault → Bool
  | .call failure => failure.kind.isNotFound
  | _ => false

end Fault

end TableReconciler
