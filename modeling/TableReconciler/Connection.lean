import TableReconciler.Text.Blank
import TableReconciler.Workspace.Action

/-!
# Connections

Connecting to a workspace with the credentials of a profile.
-/

namespace TableReconciler.Connection

/-- The address of a host without its query and without trailing slashes. -/
def bareHost (host : String) : String :=
  Text.withoutTrailingSlashes (String.ofList (host.toList.takeWhile (· ≠ '?')))

variable {σ : Type} [Workspace σ]

/-- Connect with the credentials of a profile, or with the default ones when the profile is
missing or empty. -/
def connect (profile : Option String) : Action σ Unit := do
  let profile := nonEmpty? profile
  match ← attempt (.loadCredentials profile) with
  | .ok host => call (.connect profile (host.map bareHost))
  | .error failure =>
      throw <| if failure.kind = .value then .provisioning (.authentication failure)
        else .call failure

end TableReconciler.Connection
