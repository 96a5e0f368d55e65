/-!
# Compute targets

Where statements run: on a cluster, on a warehouse, or in the local query engine.
-/

namespace TableReconciler

/-- A text that is there and not empty. -/
def nonEmpty? (text : Option String) : Option String :=
  text.filter fun value => !value.isEmpty

/-- The caller's choice.  An empty text chooses nothing. -/
structure ComputeChoice where
  /-- The cluster to use. -/
  clusterId : Option String := none
  /-- The warehouse to use. -/
  warehouseId : Option String := none
  /-- Whether to use the local query engine. -/
  localEngine : Bool := false
  deriving DecidableEq, Repr

namespace ComputeChoice

/-- How many targets are chosen. -/
def choices (choice : ComputeChoice) : Nat :=
  (nonEmpty? choice.clusterId).isSome.toNat + (nonEmpty? choice.warehouseId).isSome.toNat +
    choice.localEngine.toNat

/-- A choice is accepted when it names one target at most. -/
def Accepted (choice : ComputeChoice) : Prop :=
  choice.choices ≤ 1

instance (choice : ComputeChoice) : Decidable choice.Accepted :=
  inferInstanceAs (Decidable (_ ≤ 1))

/-- The wording of the refusal of a choice. -/
def conflictMessage : String :=
  "cluster_id, warehouse_id and local_spark are mutually exclusive."

end ComputeChoice

/-- Where statements run.  One field is set. -/
structure ComputeTarget where
  /-- The cluster. -/
  clusterId : Option String := none
  /-- The warehouse. -/
  warehouseId : Option String := none
  /-- Whether it is the local query engine. -/
  localEngine : Bool := false
  deriving DecidableEq, Repr

end TableReconciler
