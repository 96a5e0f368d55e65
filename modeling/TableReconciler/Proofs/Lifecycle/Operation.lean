import TableReconciler.Proofs.Lifecycle.Stage

/-!
# Operations

Creating, updating and dropping have one course.  An executor is opened, statements are prepared and
executed, the executor is closed, and what is left to do is done.  An `Operation` is given by how it
prepares its statements and by what is left to do after they were executed.

* `on_perform_of_unopened`, `on_perform_of_unprepared` and `on_perform_of_executed` say what running
  statements comes to, and `perform_cases` that nothing else can happen.
* `Operation.run_eq` says that an operation runs its statements and finishes.
-/

namespace TableReconciler

variable {σ : Type} [Workspace σ] {α : Type} {s t u : Session σ}

/-! ## Opening and closing -/

/-- Find compute and build an executor for it. -/
def Policy.openExecutor (policy : Policy) (compute : ComputeChoice) : Action σ Executor := do
  let target ← compute.resolve policy.defaultCluster
  Executor.build target policy.settings.waitSeconds

/-- Opening an executor adds the events of finding compute and those of building an executor to the
journal.  If no compute is found, that is the outcome, and nothing is built. -/
theorem journal_openExecutor (policy : Policy) (compute : ComputeChoice) (s : Session σ) :
    ∃ provisioning opening,
      ((policy.openExecutor compute).on s).2.journal = s.journal ++ provisioning ++ opening ∧
      (∀ event ∈ provisioning, event.Within .provisioning) ∧
      (∀ event ∈ opening, event.Within .opening) ∧
      ∀ fault t, (compute.resolve policy.defaultCluster).on s = (.error fault, t) →
        (policy.openExecutor compute).on s = (.error fault, t) ∧ opening = [] := by
  obtain ⟨provisioning, hprovisioning, hwithin⟩ :=
    (accounts_resolve compute policy.defaultCluster).writes s
  unfold Policy.openExecutor
  rcases hresolve : (compute.resolve policy.defaultCluster : Action σ _).on s
    with ⟨fault | target, t⟩
  · rw [hresolve] at hprovisioning
    rw [Action.on_bind_of_error hresolve]
    refine ⟨provisioning, [], ?_, hwithin, nofun, ?_⟩
    · rw [hprovisioning, List.append_nil]
    · rintro fault' t' h
      cases h
      exact ⟨rfl, rfl⟩
  · rw [hresolve] at hprovisioning
    obtain ⟨opening, hopening, hwithin'⟩ :=
      (accounts_build target policy.settings.waitSeconds).writes t
    rw [Action.on_bind_of_ok hresolve]
    refine ⟨provisioning, opening, ?_, hwithin, hwithin', nofun⟩
    rw [hopening, hprovisioning]

/-- Close the executor.  A failure to close takes the place of the outcome. -/
def Executor.conclude (executor : Executor) (outcome : Except Fault α) : Action σ α := do
  let (released, _) ← ExceptT.lift executor.close
  match released with
  | .ok () => lift id outcome
  | .error failure => throw (.call failure)

namespace Executor

variable {executor : Executor}

/-- What was opened holds nothing open yet. -/
theorem context?_of_openExecutor {policy : Policy} {compute : ComputeChoice}
    (h : (policy.openExecutor compute).on s = (.ok executor, t)) : executor.context? = none := by
  unfold Policy.openExecutor at h
  rcases hresolve : (compute.resolve policy.defaultCluster : Action σ _).on s
    with ⟨fault | target, u⟩
  · rw [Action.on_bind_of_error hresolve] at h
    cases h
  · rw [Action.on_bind_of_ok hresolve] at h
    exact context?_of_build h

/-- When the executor is closed, the outcome is what it was. -/
theorem on_conclude_of_ok {last : Executor} (h : executor.close.on s = ((.ok (), last), t))
    (outcome : Except Fault α) : (executor.conclude outcome).on s = (outcome, t) := by
  unfold conclude
  rw [Action.on_liftStep_bind, h]
  cases outcome <;> rfl

/-- When closing the executor fails, that is the outcome. -/
theorem on_conclude_of_error {last : Executor} {failure : CallFailure}
    (h : executor.close.on s = ((.error failure, last), t)) (outcome : Except Fault α) :
    (executor.conclude outcome).on s = (.error (.call failure), t) := by
  unfold conclude
  rw [Action.on_liftStep_bind, h]
  rfl

end Executor

/-! ## Running statements -/

namespace Policy

open Execution (verdict)

variable {policy : Policy} {compute : ComputeChoice} {prepare : Action σ (List String × α)}

/-- Statements were prepared and executed: an executor was opened on the session `s`, the statements
were prepared with something that is carried along, and the executions ended with the executor
`last` on the session `t`. -/
inductive Executed (policy : Policy) (compute : ComputeChoice)
    (prepare : Action σ (List String × α)) (s : Session σ) (statements : List String)
    (carried : α) (executions : List Execution) (last : Executor) (t : Session σ) : Prop
  /-- From the three parts. -/
  | intro {executor : Executor} {u v : Session σ}
      (opened : (policy.openExecutor compute).on s = (.ok executor, u))
      (prepared : prepare.on u = (.ok (statements, carried), v))
      (executed :
        (executor.executions statements.length 1 statements).on v = ((executions, last), t))

/-- Statements are executed in one way only. -/
theorem Executed.unique {statements statements' : List String} {carried carried' : α}
    {executions executions' : List Execution} {last last' : Executor} {t' : Session σ}
    (h : policy.Executed compute prepare s statements carried executions last t)
    (h' : policy.Executed compute prepare s statements' carried' executions' last' t') :
    statements = statements' ∧ carried = carried' ∧ executions = executions' ∧ last = last' ∧
      t = t' := by
  obtain ⟨hopen, hprepare, hexecute⟩ := h
  obtain ⟨hopen', hprepare', hexecute'⟩ := h'
  rw [hopen] at hopen'
  cases hopen'
  rw [hprepare] at hprepare'
  cases hprepare'
  rw [hexecute] at hexecute'
  cases hexecute'
  exact ⟨rfl, rfl, rfl, rfl, rfl⟩

/-- No statements are prepared, and none is run. -/
theorem on_prepareAndRun_of_error {executor : Executor} {fault : Fault}
    (h : prepare.on s = (.error fault, t)) :
    (prepareAndRun executor prepare).on s = ((.error fault, executor), t) := by
  have hrun : Step.on prepare.run s = (.error fault, t) := h
  unfold prepareAndRun
  rw [Step.on_bind, hrun]
  rfl

/-- The statements that are prepared are run. -/
theorem on_prepareAndRun_of_ok {executor : Executor} {statements : List String} {carried : α}
    (h : prepare.on s = (.ok (statements, carried), t)) :
    (prepareAndRun executor prepare).on s =
      let ((executions, last), u) := (executor.executions statements.length 1 statements).on t
      (((verdict executions).map fun () => (statements, carried), last), u) := by
  have hrun : Step.on prepare.run s = (.ok (statements, carried), t) := h
  unfold prepareAndRun
  rw [Step.on_bind, hrun]
  simp only [Step.on_bind, Executor.on_run]
  rfl

/-- What was executed are the statements up to the first that does not succeed. -/
theorem Executed.cut {statements : List String} {carried : α} {executions : List Execution}
    {last : Executor}
    (h : policy.Executed compute prepare s statements carried executions last t) :
    Execution.Cut statements executions := by
  obtain @⟨executor, u, v, -, -, hexecute⟩ := h
  have hcut := Executor.cut_executions statements.length 1 executor statements v
  rwa [hexecute] at hcut

/-- Running statements is opening an executor, preparing and running them, and concluding. -/
theorem perform_eq (policy : Policy) (compute : ComputeChoice)
    (prepare : Action σ (List String × α)) :
    policy.perform compute prepare = (do
      let executor ← policy.openExecutor compute
      let (outcome, executor) ← ExceptT.lift (prepareAndRun executor prepare)
      executor.conclude outcome) := by
  rw [perform, openExecutor, bind_assoc]
  rfl

/-- No executor is opened. -/
theorem on_perform_of_unopened {fault : Fault}
    (h : (policy.openExecutor compute).on s = (.error fault, t)) :
    (policy.perform compute prepare).on s = (.error fault, t) := by
  rw [perform_eq, Action.on_bind_of_error h]

/-- An executor is opened, but no statements are prepared.  Nothing was executed, so that the
executor is closed without fail. -/
theorem on_perform_of_unprepared {executor : Executor} {fault : Fault}
    (hopen : (policy.openExecutor compute).on s = (.ok executor, t))
    (hprepare : prepare.on t = (.error fault, u)) :
    (policy.perform compute prepare).on s = (.error fault, (executor.close.on u).2) := by
  have hclosed : (executor.close.on u).1.1 = .ok () :=
    Executor.close_of_context?_eq_none (Executor.context?_of_openExecutor hopen) u
  rw [perform_eq, Action.on_bind_of_ok hopen, Action.on_liftStep_bind,
    on_prepareAndRun_of_error hprepare]
  rcases hclose : executor.close.on u with ⟨⟨released, last⟩, v⟩
  obtain rfl : released = .ok () := by rw [hclose] at hclosed; exact hclosed
  exact Executor.on_conclude_of_ok hclose _

/-- The statements are prepared and executed. -/
theorem on_perform_of_executed {statements : List String} {carried : α}
    {executions : List Execution} {last : Executor}
    (h : policy.Executed compute prepare s statements carried executions last t) :
    (policy.perform compute prepare).on s =
      (last.conclude ((verdict executions).map fun () => (statements, carried))).on t := by
  obtain ⟨hopen, hprepare, hexecute⟩ := h
  rw [perform_eq, Action.on_bind_of_ok hopen, Action.on_liftStep_bind,
    on_prepareAndRun_of_ok hprepare, hexecute]

/-- One of the three happens. -/
theorem perform_cases (policy : Policy) (compute : ComputeChoice)
    (prepare : Action σ (List String × α)) (s : Session σ) :
    (∃ fault t, (policy.openExecutor compute).on s = (.error fault, t)) ∨
    (∃ executor fault t u, (policy.openExecutor compute).on s = (.ok executor, t) ∧
      prepare.on t = (.error fault, u)) ∨
    ∃ statements carried executions last t,
      policy.Executed compute prepare s statements carried executions last t := by
  rcases hopen : (policy.openExecutor compute).on s with ⟨fault | executor, t⟩
  · exact .inl ⟨fault, t, rfl⟩
  · rcases hprepare : prepare.on t with ⟨fault | ⟨statements, carried⟩, u⟩
    · exact .inr (.inl ⟨executor, fault, t, u, rfl, hprepare⟩)
    · exact .inr (.inr ⟨statements, carried, _, _, _, .intro hopen hprepare rfl⟩)

end Policy

/-! ## The three operations -/

variable {τ : Type} [Entry τ]

/-- Make the owner of an object the one that is asked for, if that is not the previous owner. -/
def Policy.adjustOwner (desired : TableSpec τ) (previous : TableSpec) : Action σ Unit := do
  match ← resolveOwner desired with
  | some owner => if !owner.equals previous.owner then setOwner desired owner
  | none => pure ()

/-- An operation that runs statements. -/
inductive Operation (τ : Type) where
  /-- Create an object. -/
  | create (desired : TableSpec τ)
  /-- Update the object with a given name. -/
  | update (resourceId : String) (desired : TableSpec τ)
  /-- Drop an object. -/
  | drop (desired : TableSpec τ)

namespace Operation

open Execution (verdict)

/-- What is carried along with the statements. -/
@[reducible] def Carried : Operation τ → Type
  | .update _ _ => TableSpec
  | .create _ | .drop _ => Unit

/-- What the operation tells. -/
@[reducible] def Answer : Operation τ → Type
  | .create _ => String
  | .update _ _ => List String
  | .drop _ => Unit

/-- Carry the operation out. -/
def run (policy : Policy) (compute : ComputeChoice) : (op : Operation τ) → Action σ op.Answer
  | .create desired => policy.create desired compute
  | .update resourceId desired => policy.update resourceId desired compute
  | .drop desired => policy.delete desired compute

/-- Prepare the statements. -/
def prepare (policy : Policy) : (op : Operation τ) → Action σ (List String × op.Carried)
  | .create desired => policy.prepareCreate desired
  | .update resourceId desired => policy.prepareUpdate resourceId desired
  | .drop desired => Policy.prepareDrop desired

/-- What is left to do after the statements were executed: the owner is set, and the answer told. -/
def finish : (op : Operation τ) → List String → op.Carried → Action σ op.Answer
  | .create desired, _, _ => do
      match ← Policy.resolveOwner desired with
      | some owner => Policy.setOwner desired owner
      | none => pure ()
      return desired.name.format
  | .update _ desired, statements, previous => do
      Policy.adjustOwner desired previous
      return statements
  | .drop _, _, _ => pure ()

/-- An operation runs its statements, and finishes. -/
theorem run_eq (op : Operation τ) (policy : Policy) (compute : ComputeChoice) :
    (op.run policy compute : Action σ op.Answer) = (do
      let (statements, carried) ← policy.perform compute (op.prepare policy)
      op.finish statements carried) := by
  cases op with
  | create desired => rfl
  | drop desired => rfl
  | update resourceId desired =>
      simp only [run, Policy.update, prepare, finish, Policy.adjustOwner, bind_assoc]
      refine bind_congr fun prepared => bind_congr fun owner => ?_
      cases owner with
      | none => rfl
      | some owner =>
          dsimp only
          split <;> rfl

variable {policy : Policy} {compute : ComputeChoice}

/-- An operation whose statements are not run to their end has no other outcome. -/
theorem on_run_of_error (op : Operation τ) {fault : Fault}
    (h : (policy.perform compute (op.prepare policy)).on s = (.error fault, t)) :
    (op.run policy compute).on s = (.error fault, t) := by
  rw [run_eq, Action.on_bind_of_error h]

/-- An operation whose statements were run goes on to its end. -/
theorem on_run_of_ok (op : Operation τ) {statements : List String} {carried : op.Carried}
    (h : (policy.perform compute (op.prepare policy)).on s = (.ok (statements, carried), t)) :
    (op.run policy compute).on s = (op.finish statements carried).on t := by
  rw [run_eq, Action.on_bind_of_ok h]

/-! ## After the executions -/

variable (op : Operation τ) {statements : List String} {carried : op.Carried}
  {executions : List Execution} {last : Executor}

/-- When closing the executor fails, that is the outcome. -/
theorem on_run_of_unclosed {closed : Executor} {failure : CallFailure}
    (h : policy.Executed compute (op.prepare policy) s statements carried executions last t)
    (hclose : last.close.on t = ((.error failure, closed), u)) :
    (op.run policy compute).on s = (.error (.call failure), u) := by
  refine on_run_of_error op ?_
  rw [Policy.on_perform_of_executed h, Executor.on_conclude_of_error hclose]

/-- When the executor is closed, the verdict on the executions decides. -/
theorem on_run_of_closed {closed : Executor}
    (h : policy.Executed compute (op.prepare policy) s statements carried executions last t)
    (hclose : last.close.on t = ((.ok (), closed), u)) :
    (op.run policy compute).on s =
      match verdict executions with
      | .ok () => (op.finish statements carried).on u
      | .error fault => (.error fault, u) := by
  have hperform := Policy.on_perform_of_executed h
  rw [Executor.on_conclude_of_ok hclose] at hperform
  cases hverdict : verdict executions with
  | ok _ =>
      rw [hverdict] at hperform
      exact on_run_of_ok op hperform
  | error fault =>
      rw [hverdict] at hperform
      exact on_run_of_error op hperform

end Operation

end TableReconciler
