import TableReconciler.Compute.Resolution
import TableReconciler.Ddl.Create
import TableReconciler.Executor
import TableReconciler.Plan
import TableReconciler.Reconcile
import TableReconciler.Settings

/-!
# The life of an object

Creating, reading, updating and dropping one table or view.  Compute is resolved before anything
else, statements run one after the other, and the executor is closed once on every way out.  A
failure to close takes the place of any other outcome.  The owner is set after the statements.
-/

namespace TableReconciler

/-- The choices that operations depend on. -/
structure Policy where
  /-- Which properties the catalog manages. -/
  managed : ManagedKeys := .default
  /-- The rules on column changes. -/
  rules : List ColumnRule := ColumnRule.defaults
  /-- The settings from the environment. -/
  settings : Settings := {}
  deriving DecidableEq

variable {σ : Type} [Workspace σ] {τ : Type} [Entry τ]

/-! ## The catalog -/

namespace Catalog

/-- The description of the object whose full name has the given code points.  A malformed name is
refused before the catalog is asked. -/
def readNamed (fullName : List Text.CodePoint) : Action σ TableSpec := do
  let text := Text.written fullName
  match QualifiedName.parse? text with
  | none => throw (.malformedName fullName)
  | some _ => lift .record (← call (.getTable text)).description

/-- The description of the object with a given full name. -/
def readTable (fullName : String) : Action σ TableSpec :=
  readNamed (Text.codePoints fullName)

/-- The name of the current user. -/
def currentUserName : Action σ String := do
  match nonEmpty? (← call .currentUser) with
  | some name => return name
  | none => throw .noCurrentUser

/-- Make someone the owner of an object. -/
def setOwner (fullName : String) (owner : Value) : Action σ Unit :=
  call (.setOwner fullName owner)

end Catalog

namespace Policy

/-- How the default cluster is found and created. -/
def defaultCluster (policy : Policy) : DefaultCluster where
  name := policy.settings.clusterName
  autoterminationMinutes := policy.settings.autoterminationMinutes

/-! ## Running statements -/

/-- Prepare statements and run them on an executor. -/
def prepareAndRun {α : Type} (executor : Executor) (prepare : Action σ (List String × α)) :
    Step σ (Except Fault (List String × α) × Executor) := do
  match ← prepare.run with
  | .error fault => return (.error fault, executor)
  | .ok (statements, extra) =>
      let (result, executor) ← executor.run statements
      return (result.map fun () => (statements, extra), executor)

/-- Resolve compute, prepare statements, run them, and close the executor. -/
def perform {α : Type} (policy : Policy) (compute : ComputeChoice)
    (prepare : Action σ (List String × α)) : Action σ (List String × α) := do
  let target ← compute.resolve policy.defaultCluster
  let executor ← Executor.build target policy.settings.waitSeconds
  let (outcome, executor) ← ExceptT.lift (prepareAndRun executor prepare)
  let (released, _) ← ExceptT.lift executor.close
  match released with
  | .ok () => lift id outcome
  | .error failure => throw (.call failure)

/-! ## The owner -/

/-- The owner that a description asks for: none when it is not managed, the current user when it
is empty. -/
def resolveOwner (desired : TableSpec τ) : Action σ (Option Value) := do
  if desired.owner.isNull then return none
  else if desired.owner.isEmpty then return some (.text (← Catalog.currentUserName))
  else return some desired.owner

/-- Make someone the owner of the object. -/
def setOwner (desired : TableSpec τ) (owner : Value) : Action σ Unit := do
  announce (.settingOwner desired.name owner.display)
  Catalog.setOwner desired.name.format owner

/-! ## Operations -/

/-- The statement that creates an object. -/
def prepareCreate (policy : Policy) (desired : TableSpec τ) :
    Action σ (List String × Unit) := do
  let kind ← lift (.unwritable ∘ .unknownType) desired.kind
  announce (.creating kind desired.name)
  let statement ← lift .unwritable (desired.createStatement policy.managed)
  return ([statement], ())

/-- Create an object, set its owner, and tell its full name. -/
def create (policy : Policy) (desired : TableSpec τ) (compute : ComputeChoice) :
    Action σ String := do
  let _ ← policy.perform compute (policy.prepareCreate desired)
  match ← resolveOwner desired with
  | some owner => setOwner desired owner
  | none => pure ()
  return desired.name.format

/-- Read the previous description of an object, and plan the statements that lead from there to
the desired one. -/
def prepareUpdate (policy : Policy) (resourceId : String) (desired : TableSpec τ) :
    Action σ (List String × TableSpec) := do
  let previous ← Catalog.readTable resourceId
  let reconciled ← lift (.unwritable ∘ .entry) (desired.reconciled policy.managed previous)
  lift .columns (ColumnRule.checkAll policy.rules reconciled.columns previous.columns)
  let statements ← lift .unwritable (Plan.script policy.managed reconciled previous)
  announce (.planned desired.name statements.length)
  return (statements, previous)

/-- Bring an object to its desired description, set its owner if that changes, and tell the
statements that were run. -/
def update (policy : Policy) (resourceId : String) (desired : TableSpec τ)
    (compute : ComputeChoice) : Action σ (List String) := do
  let (statements, previous) ← policy.perform compute (policy.prepareUpdate resourceId desired)
  match ← resolveOwner desired with
  | some owner => if !owner.equals previous.owner then setOwner desired owner
  | none => pure ()
  return statements

/-- The statement that drops an object. -/
def prepareDrop (desired : TableSpec τ) : Action σ (List String × Unit) := do
  let kind ← lift (.unwritable ∘ .unknownType) desired.kind
  announce (.dropping kind desired.name)
  let statement ← lift (.unwritable ∘ .unknownType) desired.dropStatement
  return ([statement], ())

/-- Drop an object. -/
def delete (policy : Policy) (desired : TableSpec τ) (compute : ComputeChoice) :
    Action σ Unit := do
  let _ ← policy.perform compute (prepareDrop desired)

end Policy

end TableReconciler
