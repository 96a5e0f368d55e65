import TableReconciler.Lifecycle

/-!
# Synchronisation

Applying a sequence of configurations in order: an object that does not exist is created, any
other is updated.  The first fault ends the run.
-/

namespace TableReconciler.Policy

variable {σ : Type} [Workspace σ]

/-- Apply one configuration. -/
def syncOne (policy : Policy) (compute : ComputeChoice) (config : Value) : Action σ Unit := do
  let desired ← lift .config (Config.table config)
  let found ← ExceptT.lift (Catalog.readNamed desired.fullName : Action σ TableSpec).run
  match found with
  | .ok _ =>
      let _ ← policy.update desired.name.format desired compute
  | .error fault =>
      if fault.isNotFound then
        let _ ← policy.create desired compute
      else throw fault

/-- Apply configurations one after the other. -/
def syncAll (policy : Policy) (compute : ComputeChoice) (configs : List Value) :
    Action σ Unit :=
  configs.forM (policy.syncOne compute)

/-- Apply the configurations that a value holds. -/
def sync (policy : Policy) (compute : ComputeChoice) (configs : Value) : Action σ Unit := do
  policy.syncAll compute (← lift .config (Config.items configs))

end TableReconciler.Policy
