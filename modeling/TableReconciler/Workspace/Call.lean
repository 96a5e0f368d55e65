import TableReconciler.Workspace.Request

/-!
# Calls

How requests are made on a client: the name of the call and its arguments.  A call that takes much
names its arguments, which are one mapping then.
-/

namespace TableReconciler

/-- Arguments with names. -/
def named (arguments : List (String × Value)) : Value :=
  .mapping (arguments.map fun (name, value) => (.text name, value))

/-- An argument that may be left out. -/
def optional (text : Option String) : Value :=
  text.elim .null .text

/-- Settings or tags as an argument. -/
def textPairs (pairs : List (String × String)) : Value :=
  named (pairs.map fun (key, value) => (key, .text value))

namespace Request

/-- The language of the statements that are executed on a cluster. -/
def language : String := "sql"

/-- What a warehouse is to do with a statement that is not finished in time. -/
def onWaitTimeout : String := "CANCEL"

/-- A number of seconds, as a warehouse takes it. -/
def waitTimeout (seconds : Int) : String :=
  toString seconds ++ "s"

/-- The name of the call. -/
def name : Request → String
  | .getTable _ => "tables.get"
  | .setOwner _ _ => "tables.update"
  | .currentUser => "current_user.me"
  | .ensureRunning _ => "clusters.ensure_cluster_is_running"
  | .listClusters => "clusters.list"
  | .selectSparkVersion _ => "clusters.select_spark_version"
  | .selectNodeType _ => "clusters.select_node_type"
  | .createCluster _ => "clusters.create_and_wait"
  | .executeOnWarehouse _ _ _ => "statement_execution.execute_statement"
  | .createContext _ => "command_execution.create_and_wait"
  | .executeInContext _ _ _ => "command_execution.execute_and_wait"
  | .destroyContext _ _ => "command_execution.destroy"
  | .localSession => "SparkSession.getOrCreate"
  | .localQuery _ => "spark.sql"
  | .localCollect => "spark.collect"
  | .loadCredentials _ => "Config"
  | .connect _ _ => "WorkspaceClient"

/-- The arguments of the call. -/
def arguments : Request → List Value
  | .getTable fullName => [.text fullName]
  | .setOwner fullName owner => [.text fullName, owner]
  | .ensureRunning id => [.text id]
  | .selectSparkVersion latest => [.scalar (.bool latest)]
  | .selectNodeType localDisk => [.scalar (.bool localDisk)]
  | .createCluster spec => [named [
      ("cluster_name", .text spec.name), ("spark_version", .text spec.sparkVersion),
      ("node_type_id", .text spec.nodeType), ("num_workers", .scalar (.int spec.workers)),
      ("autotermination_minutes", .scalar (.int spec.autoterminationMinutes)),
      ("data_security_mode", .text spec.securityMode),
      ("spark_conf", textPairs spec.sparkSettings), ("custom_tags", textPairs spec.tags)]]
  | .executeOnWarehouse statement warehouseId waitSeconds => [named [
      ("statement", .text statement), ("warehouse_id", optional warehouseId),
      ("wait_timeout", .text (waitTimeout waitSeconds)), ("on_wait_timeout", .text onWaitTimeout)]]
  | .createContext clusterId => [named [
      ("cluster_id", .text clusterId), ("language", .text language)]]
  | .executeInContext clusterId contextId statement => [named [
      ("cluster_id", .text clusterId), ("context_id", .text contextId),
      ("language", .text language), ("command", .text statement)]]
  | .destroyContext clusterId contextId => [named [
      ("cluster_id", .text clusterId), ("context_id", .text contextId)]]
  | .localQuery statement => [.text statement]
  | .loadCredentials profile => [optional profile]
  | .connect profile host => [optional profile, optional host]
  | .currentUser | .listClusters | .localSession | .localCollect => []

end Request

end TableReconciler
