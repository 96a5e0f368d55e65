import TableReconciler.Compute.Target
import TableReconciler.Notice

/-!
# Actions on a workspace

An action talks to a workspace, keeps a journal of what it does, and may end in a fault.  The
workspace is any state that can answer requests, so that a statement about all workspaces is one
about every sequence of replies and failures.
-/

namespace TableReconciler

/-- A state that can answer every request, with a reply or a failure. -/
class Workspace (σ : Type) where
  /-- The answer to a request, and the state after it. -/
  answer : (r : Request) → σ → Except CallFailure r.Reply × σ

/-- Something that happens. -/
inductive Event where
  /-- A request is made. -/
  | request (request : Request)
  /-- Something is said. -/
  | notice (notice : Notice)
  /-- An executor for a target has been built. -/
  | opened (target : ComputeTarget)
  /-- An executor is about to release what it holds. -/
  | closed
  deriving DecidableEq, Repr

/-- The request of an event. -/
def Event.request? : Event → Option Request
  | .request r => some r
  | _ => none

/-- The notice of an event. -/
def Event.notice? : Event → Option Notice
  | .notice n => some n
  | _ => none

/-- A workspace and what has happened so far. -/
structure Session (σ : Type) where
  /-- The workspace. -/
  workspace : σ
  /-- What has happened, in order. -/
  journal : List Event := []

/-- A step that always ends. -/
abbrev Step (σ : Type) := StateM (Session σ)

/-- An action that may end in a fault.  What has happened before the fault remains. -/
abbrev Action (σ : Type) := ExceptT Fault (Step σ)

variable {σ : Type}

/-- Write an event into the journal. -/
def record (event : Event) : Step σ Unit :=
  modify fun s => { s with journal := s.journal ++ [event] }

/-- Say something. -/
def say (notice : Notice) : Step σ Unit :=
  record (.notice notice)

/-- Say something in an action. -/
def announce (notice : Notice) : Action σ Unit :=
  ExceptT.lift (say notice)

variable [Workspace σ]

/-- Make a request. -/
def ask (r : Request) : Step σ (Except CallFailure r.Reply) := do
  record (.request r)
  modifyGet fun s =>
    let (answer, workspace) := Workspace.answer r s.workspace
    (answer, { s with workspace })

/-- Make a request in an action, whether or not it fails. -/
def attempt (r : Request) : Action σ (Except CallFailure r.Reply) :=
  ExceptT.lift (ask r)

/-- Make a request, and end when it fails. -/
def call (r : Request) : Action σ r.Reply := do
  match ← attempt r with
  | .ok reply => return reply
  | .error failure => throw (.call failure)

/-- Lift a result whose fault is one of the faults of actions. -/
def lift {ε α : Type} (wrap : ε → Fault) (result : Except ε α) : Action σ α :=
  match result with
  | .ok value => return value
  | .error fault => throw (wrap fault)

end TableReconciler
