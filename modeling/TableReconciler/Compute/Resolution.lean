import TableReconciler.Workspace.Action

/-!
# Resolving compute

From the caller's choice to a target that runs.  The local query engine and a warehouse are taken
as they are.  A cluster is started; when it is gone, or when there is no choice, the default
cluster takes its place, which is found by its name and created when there is none.
-/

namespace TableReconciler

variable {σ : Type} [Workspace σ]

/-! ## Requests on the way to a cluster -/

/-- Whether a failed request means that there is nothing to run statements on. -/
def isProvisioningFailure (kind : FailureKind) : Bool :=
  kind.isService || kind.isRuntime || kind.isTimeout

/-- The fault that a failed request on the way to a cluster amounts to. -/
def provisioningFault (failure : CallFailure) : Fault :=
  if isProvisioningFailure failure.kind then .provisioning (.request failure) else .call failure

/-- Make a request on the way to a cluster. -/
def clusterCall (r : Request) : Action σ r.Reply := do
  match ← attempt r with
  | .ok reply => return reply
  | .error failure => throw (provisioningFault failure)

/-! ## The default cluster -/

/-- How the default cluster is found and created. -/
structure DefaultCluster where
  /-- The name. -/
  name : String
  /-- The minutes without work after which it stops. -/
  autoterminationMinutes : Int
  deriving DecidableEq, Repr

namespace DefaultCluster

/-- The first cluster with the name of the default cluster and an identifier. -/
def find? (default : DefaultCluster) (clusters : List ClusterRecord) :
    Option (String × ClusterRecord) :=
  clusters.findSome? fun cluster =>
    if cluster.name = some default.name then cluster.id.map (·, cluster) else none

/-- The cluster that is created, with a version of the query engine and a type of node: a single
node for a single user. -/
def spec (default : DefaultCluster) (sparkVersion nodeType : String) : ClusterSpec where
  name := default.name
  sparkVersion := sparkVersion
  nodeType := nodeType
  workers := 0
  autoterminationMinutes := default.autoterminationMinutes
  securityMode := "SINGLE_USER"
  sparkSettings := [
    ("spark.databricks.cluster.profile", "singleNode"), ("spark.master", "local[*]")]
  tags := [("ResourceClass", "SingleNode")]

/-- Create the default cluster. -/
def create (default : DefaultCluster) : Action σ String := do
  announce (.creatingCluster default.name)
  let sparkVersion ← clusterCall (.selectSparkVersion true)
  let nodeType ← clusterCall (.selectNodeType true)
  let id ← clusterCall (.createCluster (default.spec sparkVersion nodeType))
  match id with
  | some id => return id
  | none => throw (.provisioning (.clusterWithoutId default.name))

/-- The identifier of the default cluster, which runs afterwards. -/
def obtain (default : DefaultCluster) : Action σ String := do
  match default.find? (← clusterCall .listClusters) with
  | some (id, cluster) =>
      if !cluster.isRunning then clusterCall (.ensureRunning id)
      return id
  | none => default.create

/-- Start a cluster, or take the default cluster when it is gone. -/
def startOrReplace (default : DefaultCluster) (id : String) : Action σ String := do
  match ← attempt (.ensureRunning id) with
  | .ok () => return id
  | .error failure =>
      if failure.kind.isNotFound then
        announce (.clusterGone id default.name)
        default.obtain
      else throw (provisioningFault failure)

end DefaultCluster

/-! ## Choices -/

/-- The target that a choice leads to. -/
def ComputeChoice.resolve (choice : ComputeChoice) (default : DefaultCluster) :
    Action σ ComputeTarget := do
  if choice.localEngine then return { localEngine := true }
  match nonEmpty? choice.clusterId, nonEmpty? choice.warehouseId with
  | some id, _ => return { clusterId := some (← default.startOrReplace id) }
  | none, some id => return { warehouseId := some id }
  | none, none => return { clusterId := some (← default.obtain) }

end TableReconciler
