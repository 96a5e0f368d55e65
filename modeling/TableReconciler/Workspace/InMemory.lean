import TableReconciler.Workspace.Action

/-!
# A workspace in memory

A workspace with a few tables and clusters, and a queue of prepared outcomes for statements.  It
lets operations be tried without a service, with any failure in any place.
-/

namespace TableReconciler

/-- The prepared outcome of a statement. -/
structure StatementReply where
  /-- The failure of the request, if it fails. -/
  failure : Option CallFailure := none
  /-- What a warehouse reports. -/
  status : Option WarehouseStatus := some ⟨some "SUCCEEDED", none⟩
  /-- What an execution context reports. -/
  results : Option CommandResults := none
  deriving DecidableEq, Repr

/-- A workspace in memory. -/
structure InMemory where
  /-- The tables by their full names. -/
  tables : List (String × Catalog.TableRecord) := []
  /-- The current user. -/
  userName : Option String := some "me@example.com"
  /-- The host that credentials are for. -/
  host : Option String := some "https://h.net"
  /-- The clusters. -/
  clusters : List ClusterRecord := []
  /-- The identifiers of clusters that are gone. -/
  missingClusters : List String := []
  /-- The identifier that a new cluster gets. -/
  createdId : Option String := some "new-cluster"
  /-- The outcomes of the next statements; later statements succeed. -/
  replies : List StatementReply := []
  /-- The requests that fail. -/
  failure? : Request → Option CallFailure := fun _ => none
  /-- The failures to read tables, by their full names. -/
  tableFailures : List (String × CallFailure) := []
  /-- How many execution contexts have been created. -/
  contexts : Nat := 0

namespace InMemory

/-- Add a table, or replace the one with the same full name. -/
def putTable (w : InMemory) (fullName : String) (info : Catalog.TableRecord) : InMemory :=
  { w with tables := (w.tables.filter fun table => table.1 ≠ fullName) ++ [(fullName, info)] }

/-- Remove a table. -/
def removeTable (w : InMemory) (fullName : String) : InMemory :=
  { w with tables := w.tables.filter fun table => table.1 ≠ fullName }

/-- The record of a table. -/
def getTable (w : InMemory) (fullName : String) : Except CallFailure Catalog.TableRecord :=
  match w.tableFailures.lookup fullName, w.tables.lookup fullName with
  | some failure, _ => .error failure
  | none, some info => .ok info
  | none, none => .error ⟨.notFound, "Table '" ++ fullName ++ "' does not exist."⟩

/-- Make someone the owner of a table; an unknown table is passed over. -/
def setOwner (w : InMemory) (fullName : String) (owner : Value) : InMemory :=
  { w with tables := w.tables.map fun table =>
      if table.1 = fullName then (table.1, { table.2 with owner }) else table }

/-- Start the clusters with a given identifier. -/
def startCluster (w : InMemory) (id : String) : InMemory :=
  { w with clusters := w.clusters.map fun cluster =>
      if cluster.id = some id then { cluster with state := some "RUNNING" } else cluster }

/-- Create a cluster, which runs, unless new clusters get no identifier. -/
def addCluster (w : InMemory) (name : String) : InMemory :=
  match w.createdId with
  | some id => { w with clusters := w.clusters ++ [⟨some id, some name, some "RUNNING"⟩] }
  | none => w

/-- Take the next prepared outcome. -/
def takeReply (w : InMemory) : StatementReply × InMemory :=
  match w.replies with
  | reply :: rest => (reply, { w with replies := rest })
  | [] => ({}, w)

/-- The answer to a statement: its prepared failure, or what `reported` takes from the prepared
outcome. -/
def answerStatement {α : Type} (w : InMemory) (reported : StatementReply → α) :
    Except CallFailure α × InMemory :=
  let (reply, w) := w.takeReply
  match reply.failure with
  | some failure => (.error failure, w)
  | none => (.ok (reported reply), w)

/-- The answer to a request that is not made to fail. -/
def reply (w : InMemory) : (r : Request) → Except CallFailure r.Reply × InMemory
  | .getTable fullName => (w.getTable fullName, w)
  | .setOwner fullName owner => (.ok (), w.setOwner fullName owner)
  | .currentUser => (.ok w.userName, w)
  | .ensureRunning id =>
      if w.missingClusters.contains id then
        (.error ⟨.notFound, "Cluster " ++ id ++ " does not exist"⟩, w)
      else (.ok (), w.startCluster id)
  | .listClusters => (.ok w.clusters, w)
  | .selectSparkVersion _ => (.ok "15.4.x-scala2.12", w)
  | .selectNodeType _ => (.ok "i3.xlarge", w)
  | .createCluster spec => (.ok w.createdId, w.addCluster spec.name)
  | .executeOnWarehouse _ _ _ => w.answerStatement (·.status)
  | .createContext _ =>
      (.ok ("ctx-" ++ toString (w.contexts + 1)), { w with contexts := w.contexts + 1 })
  | .executeInContext _ _ _ => w.answerStatement (·.results)
  | .destroyContext _ _ => (.ok (), w)
  | .localSession => (.ok (), w)
  | .localQuery _ => w.answerStatement fun _ => ()
  | .localCollect => (.ok (), w)
  | .loadCredentials _ => (.ok w.host, w)
  | .connect _ _ => (.ok (), w)

instance : Workspace InMemory where
  answer r w :=
    match w.failure? r with
    | some failure => (.error failure, w)
    | none => w.reply r

end InMemory

end TableReconciler
