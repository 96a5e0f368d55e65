import TableReconciler.Text.Lines
import TableReconciler.Workspace.Action

/-!
# Executors

Running one statement after the other on a target.  A cluster runs statements in an execution
context, which is created for the first statement, reused for the others, and destroyed when the
executor is closed.  A warehouse and the local query engine hold nothing open.
-/

namespace TableReconciler

/-- How a statement ended. -/
inductive StatementOutcome where
  /-- It succeeded. -/
  | succeeded
  /-- It failed. -/
  | failed (detail : String)
  deriving DecidableEq, Repr

/-- What runs statements. -/
inductive Executor where
  /-- The local query engine. -/
  | localEngine
  /-- A warehouse, if one is stated, with the longest wait for a statement in seconds. -/
  | warehouse (id : Option String) (waitSeconds : Int)
  /-- A cluster, with the execution context that is open. -/
  | cluster (id : String) (context : Option String)
  deriving DecidableEq, Repr

namespace Executor

variable {σ : Type} [Workspace σ]

/-- The executor for a target: the local query engine before a warehouse before a cluster.  A
statement on a warehouse is waited for `waitSeconds` at most. -/
def build (target : ComputeTarget) (waitSeconds : Int) : Action σ Executor := do
  let executor ←
    if target.localEngine then do
      call .localSession
      pure Executor.localEngine
    else
      match nonEmpty? target.warehouseId, nonEmpty? target.clusterId with
      | some id, _ => pure (.warehouse (some id) waitSeconds)
      | none, some id => pure (.cluster id none)
      | none, none => throw .emptyTarget
  ExceptT.lift (record (.opened target))
  return executor

/-! ## One statement -/

/-- How a statement on a warehouse ended, from the status that the warehouse reports. -/
def warehouseResult (status : Option WarehouseStatus) : StatementOutcome :=
  let state := status.bind (·.state)
  if state = some "SUCCEEDED" then .succeeded
  else
    .failed ("statement failed to execute: " ++ state.getD "None" ++
      match nonEmpty? (status.bind (·.message)) with
      | some message => ": " ++ message
      | none => "")

/-- Run a statement on a warehouse.  A failure that the service reports is the failure of the
statement. -/
def onWarehouse (id : Option String) (waitSeconds : Int) (statement : String) :
    Step σ (Except CallFailure StatementOutcome) := do
  match ← ask (.executeOnWarehouse statement id waitSeconds) with
  | .ok status => return .ok (warehouseResult status)
  | .error failure =>
      return if failure.kind.isService then .ok (.failed failure.describe) else .error failure

/-- How a command ended, from its results. -/
def commandResult : Option CommandResults → StatementOutcome
  | some results =>
      if results.isError then
        .failed (((nonEmpty? results.cause).or (nonEmpty? results.summary)).getD "command failed")
      else .succeeded
  | none => .succeeded

/-- Whether the failure of a request to a cluster is the failure of the statement. -/
def isClusterFailure (kind : FailureKind) : Bool :=
  kind.isService || kind == .operationFailed || kind.isTimeout

/-- The outcome of a failed request to a cluster. -/
def clusterFailure (failure : CallFailure) : Except CallFailure StatementOutcome :=
  if isClusterFailure failure.kind then .ok (.failed failure.describe) else .error failure

/-- Run a statement in an execution context. -/
def inContext (id context statement : String) : Step σ (Except CallFailure StatementOutcome) := do
  match ← ask (.executeInContext id context statement) with
  | .ok results => return .ok (commandResult results)
  | .error failure => return clusterFailure failure

/-- Run a statement on a cluster, and tell which context is open afterwards. -/
def onCluster (id : String) (context : Option String) (statement : String) :
    Step σ (Except CallFailure StatementOutcome × Option String) := do
  match context with
  | some context => return (← inContext id context statement, some context)
  | none =>
      match ← ask (.createContext id) with
      | .ok context => return (← inContext id context statement, some context)
      | .error failure => return (clusterFailure failure, none)

/-- Run a statement in the local query engine and collect its result, so that its errors appear
now.  The failure is told by the first line of its message. -/
def onLocalEngine (statement : String) : Step σ (Except CallFailure StatementOutcome) := do
  let failed (failure : CallFailure) : Except CallFailure StatementOutcome :=
    if failure.kind.isEngine then
      .ok (.failed (failure.kind.label ++ ": " ++ Text.headline failure.message))
    else .error failure
  match ← ask (.localQuery statement) with
  | .error failure => return failed failure
  | .ok () =>
      match ← ask .localCollect with
      | .error failure => return failed failure
      | .ok () => return .ok .succeeded

/-- Run a statement.  The result is the failure of a request when that failure is not the failure
of the statement. -/
def execute (executor : Executor) (statement : String) :
    Step σ (Except CallFailure StatementOutcome × Executor) := do
  match executor with
  | .localEngine => return (← onLocalEngine statement, executor)
  | .warehouse id waitSeconds => return (← onWarehouse id waitSeconds statement, executor)
  | .cluster id context =>
      let (result, context) ← onCluster id context statement
      return (result, .cluster id context)

/-- Release what the executor holds.  A context that could not be destroyed stays open. -/
def close (executor : Executor) : Step σ (Except CallFailure Unit × Executor) := do
  record .closed
  match executor with
  | .cluster id (some context) =>
      match ← ask (.destroyContext id context) with
      | .ok () => return (.ok (), .cluster id none)
      | .error failure => return (.error failure, executor)
  | _ => return (.ok (), executor)

/-! ## Several statements -/

/-- Run the statements from the one with number `index` on, of `total` in all.  The first that
fails ends the run. -/
def runFrom (total index : Nat) (executor : Executor) :
    List String → Step σ (Except Fault Unit × Executor)
  | [] => return (.ok (), executor)
  | statement :: rest => do
      say (.executing index total statement)
      match ← executor.execute statement with
      | (.ok .succeeded, executor) => runFrom total (index + 1) executor rest
      | (.ok (.failed detail), executor) =>
          say (.statementFailed index total detail)
          return (.error (.execution statement detail), executor)
      | (.error failure, executor) => return (.error (.call failure), executor)

/-- Run statements one after the other.  The first that fails ends the run; those before it stay
applied. -/
def run (executor : Executor) (statements : List String) :
    Step σ (Except Fault Unit × Executor) :=
  runFrom statements.length 1 executor statements

end Executor

end TableReconciler
