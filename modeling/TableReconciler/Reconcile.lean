import TableReconciler.ManagedKeys
import TableReconciler.Table
import TableReconciler.Text.Blank

/-!
# Reconciliation

What the catalog reports beyond what the user declared is carried over into the desired
description before the two are compared, so that it is never taken for a change: columns that were
not declared, properties that the user never controlled, and a location that the catalog assigned.

Two locations are compared without their trailing slashes, and only a text has those.
-/

namespace TableReconciler.TableSpec

variable {τ : Type} [Entry τ]

/-! ## Carrying over -/

/-- Take the previous columns when none are declared. -/
def withPreviousColumns (desired : TableSpec τ) (previous : TableSpec) : TableSpec τ :=
  if desired.columns.isEmpty then { desired with columns := previous.columns.map Column.ofTexts }
  else desired

/-- Whether a property key repeats an option under the prefix for options. -/
def isOptionEcho (key : String) : Bool :=
  "option.".toList.isPrefixOf key.toList

/-- Whether a property that only the previous description has is kept: the catalog manages it, or
it repeats an option. -/
def keepsProperty (managed : ManagedKeys) (desired : TableSpec τ) (key : String) : Bool :=
  managed.manages key || desired.options.contains key || isOptionEcho key

/-- Add the previous properties that the user never controlled. -/
def withPreviousProperties (managed : ManagedKeys) (desired : TableSpec τ)
    (previous : TableSpec) : TableSpec τ :=
  { desired with
    properties := desired.properties.extend
      (previous.properties.filterKeys (desired.keepsProperty managed)) }

/-- Whether two locations differ in their trailing slashes at most. -/
def sameLocation (a b : String) : Bool :=
  Text.withoutTrailingSlashes a == Text.withoutTrailingSlashes b

/-- Take the previous location of a table when none is declared, or when the declared one differs
in its trailing slashes at most. -/
def withPreviousLocation (desired : TableSpec τ) (previous : TableSpec) : TableSpec τ :=
  if desired.isView || previous.location.isEmpty then desired
  else if Entry.isEmpty desired.location ||
      (Entry.text? desired.location).any (sameLocation · previous.location) then
    { desired with location := Entry.ofText previous.location }
  else desired

/-- Carry everything over. -/
def reconcile (managed : ManagedKeys) (desired : TableSpec τ) (previous : TableSpec) :
    TableSpec τ :=
  let declared := desired.withPreviousColumns previous
  (declared.withPreviousProperties managed previous).withPreviousLocation previous

/-! ## Comparing locations -/

/-- Whether the declared location is compared with the previous one. -/
def comparesLocation (desired : TableSpec τ) (previous : TableSpec) : Bool :=
  !desired.isView && !previous.location.isEmpty && !Entry.isEmpty desired.location

/-- Refuse a location that is to be compared and is no text. -/
def checkLocation (desired : TableSpec τ) (previous : TableSpec) : Except EntryFault Unit :=
  if desired.comparesLocation previous && (Entry.text? desired.location).isNone then
    .error .notText
  else .ok ()

/-- A location that is a text is never refused. -/
@[simp] theorem checkLocation_string (desired previous : TableSpec) :
    desired.checkLocation previous = .ok () := by
  simp [checkLocation]

/-- Carry the location over, if it can be compared. -/
def withComparedLocation (desired : TableSpec τ) (previous : TableSpec) :
    Except EntryFault (TableSpec τ) := do
  desired.checkLocation previous
  return desired.withPreviousLocation previous

/-- Carry everything over, if the locations can be compared. -/
def reconciled (managed : ManagedKeys) (desired : TableSpec τ) (previous : TableSpec) :
    Except EntryFault (TableSpec τ) := do
  desired.checkLocation previous
  return desired.reconcile managed previous

/-- A description that holds texts can always be reconciled. -/
@[simp] theorem reconciled_string (managed : ManagedKeys) (desired previous : TableSpec) :
    desired.reconciled managed previous = .ok (desired.reconcile managed previous) := by
  simp [reconciled, pure, Except.pure, bind, Except.bind]

end TableReconciler.TableSpec
