import TableReconciler.Catalog.Record
import TableReconciler.Workspace.Failure

/-!
# Requests to a workspace

What the library asks of a workspace, and what the workspace may reply to each request.  Any request
may fail in any way.
-/

namespace TableReconciler

/-! ## Replies -/

/-- What the workspace lists about a cluster. -/
structure ClusterRecord where
  /-- The identifier. -/
  id : Option String
  /-- The name. -/
  name : Option String
  /-- The state. -/
  state : Option String
  deriving DecidableEq, Repr

/-- Whether a cluster runs. -/
def ClusterRecord.isRunning (cluster : ClusterRecord) : Bool :=
  cluster.state == some "RUNNING"

/-- How a statement on a warehouse ended. -/
structure WarehouseStatus where
  /-- The state. -/
  state : Option String
  /-- The error message. -/
  message : Option String
  deriving DecidableEq, Repr

/-- What a command in an execution context resulted in. -/
structure CommandResults where
  /-- Whether it resulted in an error. -/
  isError : Bool
  /-- The cause of an error. -/
  cause : Option String
  /-- The summary of an error. -/
  summary : Option String
  deriving DecidableEq, Repr

/-! ## Requests -/

/-- What is stated about a cluster that is to be created. -/
structure ClusterSpec where
  /-- The name. -/
  name : String
  /-- The version of the query engine. -/
  sparkVersion : String
  /-- The type of the node. -/
  nodeType : String
  /-- The number of nodes beside the first. -/
  workers : Int
  /-- The minutes without work after which it stops. -/
  autoterminationMinutes : Int
  /-- Who may see whose data. -/
  securityMode : String
  /-- The settings of the query engine. -/
  sparkSettings : List (String × String)
  /-- The tags. -/
  tags : List (String × String)
  deriving DecidableEq, Repr

/-- A request to the workspace. -/
inductive Request where
  /-- The record of a table or view. -/
  | getTable (fullName : String)
  /-- Make someone the owner of a table or view. -/
  | setOwner (fullName : String) (owner : Value)
  /-- The name of the current user. -/
  | currentUser
  /-- Start a cluster unless it runs, and wait for it. -/
  | ensureRunning (clusterId : String)
  /-- The clusters. -/
  | listClusters
  /-- Choose a version of the query engine. -/
  | selectSparkVersion (latest : Bool)
  /-- Choose a type of node. -/
  | selectNodeType (localDisk : Bool)
  /-- Create a cluster, wait for it, and tell its identifier. -/
  | createCluster (spec : ClusterSpec)
  /-- Execute a statement on a warehouse, if one is stated, and wait for a number of seconds at
  most. -/
  | executeOnWarehouse (statement : String) (warehouseId : Option String) (waitSeconds : Int)
  /-- Create an execution context on a cluster. -/
  | createContext (clusterId : String)
  /-- Execute a statement in an execution context. -/
  | executeInContext (clusterId contextId statement : String)
  /-- Destroy an execution context. -/
  | destroyContext (clusterId contextId : String)
  /-- The session of the local query engine. -/
  | localSession
  /-- Hand a statement to the local query engine. -/
  | localQuery (statement : String)
  /-- Collect the result of the last statement of the local query engine. -/
  | localCollect
  /-- Load the credentials of a profile, or the default ones, and tell the host they are for. -/
  | loadCredentials (profile : Option String)
  /-- Connect to a host with the credentials of a profile. -/
  | connect (profile host : Option String)
  deriving DecidableEq, Repr

/-- What the workspace replies to a request that does not fail. -/
@[reducible] def Request.Reply : Request → Type
  | .getTable _ => Catalog.TableRecord
  | .currentUser => Option String
  | .listClusters => List ClusterRecord
  | .selectSparkVersion _ | .selectNodeType _ => String
  | .createCluster _ => Option String
  | .executeOnWarehouse _ _ _ => Option WarehouseStatus
  | .createContext _ => String
  | .executeInContext _ _ _ => Option CommandResults
  | .loadCredentials _ => Option String
  | .setOwner _ _ | .ensureRunning _ | .destroyContext _ _ | .localSession | .localQuery _
  | .localCollect | .connect _ _ => Unit

end TableReconciler
