import TableReconciler.Proofs.Columns.Effect
import TableReconciler.Proofs.Lifecycle.Operation
import TableReconciler.Workspace.InMemory

/-!
# What decides the outcome

When the executor is closed without fail, the executions decide how an operation ends: a failed
statement is the fault, and when all statements succeed the operation goes on to the owner and to
its answer.  When closing fails, that failure is what the operation ends in, whatever became of the
statements (`outcome_of_executed`).  Only an executor that holds an execution context open can fail
to close.
-/

namespace TableReconciler.Operation

variable {σ : Type} [Workspace σ] {τ : Type} [Entry τ]
  {policy : Policy} {compute : ComputeChoice} {s t : Session σ} {op : Operation τ}
  {statements : List String} {carried : op.Carried} {executions : List Execution}
  {last : Executor}

/-- How an operation ends whose statements were executed.  At most one of them does not succeed, and
it is the last one that was executed.

* If closing the executor fails, the operation ends in that failure.
* If the executor is closed and a statement failed, the operation ends in the failure of that
  statement, with its detail; if the request for it failed otherwise, in the failure of the request.
* If the executor is closed and all statements succeeded, the operation goes on to its end.
* An executor that holds no execution context open is closed without fail. -/
theorem outcome_of_executed
    (h : policy.Executed compute (op.prepare policy) s statements carried executions last t) :
    let ((released, _), u) := last.close.on t
    Execution.Cut statements executions ∧
    (∀ failure, released = .error failure →
      (op.run policy compute).on s = (.error (.call failure), u)) ∧
    (released = .ok () →
      (∀ x ∈ executions, ∀ detail, x.result = .ok (.failed detail) →
        (op.run policy compute).on s = (.error (.execution x.statement detail), u)) ∧
      (∀ x ∈ executions, ∀ failure, x.result = .error failure →
        (op.run policy compute).on s = (.error (.call failure), u)) ∧
      ((∀ x ∈ executions, x.Succeeded) →
        (op.run policy compute).on s = (op.finish statements carried).on u)) ∧
    (last.context? = none → released = .ok ()) := by
  have hcut : Execution.Cut statements executions := h.cut
  have hcloses : last.context? = none → (last.close.on t).1.1 = .ok () :=
    fun hcontext => Executor.close_of_context?_eq_none hcontext t
  rcases hclose : last.close.on t with ⟨⟨released, closed⟩, u⟩
  rw [hclose] at hcloses
  refine ⟨hcut, ?_, ?_, hcloses⟩
  · rintro failure rfl
    exact on_run_of_unclosed op h hclose
  · rintro rfl
    have hrun := on_run_of_closed op h hclose
    refine ⟨fun x hx detail hfailed => ?_, fun x hx failure herror => ?_, fun hall => ?_⟩
    · rw [hrun, hcut.verdict_of_failed hx hfailed]
    · rw [hrun, hcut.verdict_of_error hx herror]
    · rw [hrun, Execution.verdict_eq_ok_iff.mpr hall]

/-! ## On a cluster -/

/-- A session with clusters: the statements end as prepared, and an execution context is destroyed
unless a failure is given for that. -/
def clusterSession (replies : List StatementReply) (release : Option CallFailure) :
    Session InMemory where
  workspace :=
    { replies
      failure? := fun
        | .destroyContext _ _ => release
        | _ => none }

/-- The choice of a cluster. -/
def clusterChoice : ComputeChoice where
  clusterId := some "c1"

/-- An empty table is created for an owner. -/
def createOwned : Operation String :=
  .create { TableSpec.ofColumns [] with owner := .text "data" }

/-- The statement that creates the table. -/
def createdOrders : String :=
  "CREATE TABLE `main`.`sales`.`orders`\nUSING DELTA;"

/-- The outcome of a statement that fails. -/
def failingReply : StatementReply where
  results := some ⟨true, some "boom", none⟩

/-- The statement fails, the execution context is destroyed, and the operation ends in the failure
of the statement. -/
theorem outcome_of_failed :
    ∃ last t u,
      Policy.Executed {} clusterChoice (createOwned.prepare {}) (clusterSession [failingReply] none)
        [createdOrders] () [⟨createdOrders, .ok (.failed "boom")⟩] last t ∧
      (createOwned.run {} clusterChoice).on (clusterSession [failingReply] none) =
        (.error (.execution createdOrders "boom"), u) := by
  have h : Policy.Executed {} clusterChoice (createOwned.prepare {})
      (clusterSession [failingReply] none) [createdOrders] ()
      [⟨createdOrders, .ok (.failed "boom")⟩] (.cluster "c1" (some "ctx-1")) _ :=
    .intro rfl rfl rfl
  obtain ⟨-, -, hclosed, -⟩ := outcome_of_executed h
  exact ⟨_, _, _, h, (hclosed rfl).1 _ List.mem_cons_self "boom" rfl⟩

/-- The execution context cannot be destroyed.  A statement that failed is not what the operation
ends in then, and a statement that succeeded does not lead on to the owner: either way the operation
ends in the failure to close. -/
theorem outcome_of_unreleased :
    let busy : CallFailure := ⟨.service, "busy"⟩
    (∃ last t,
      Policy.Executed {} clusterChoice (createOwned.prepare {})
        (clusterSession [failingReply] (some busy))
        [createdOrders] () [⟨createdOrders, .ok (.failed "boom")⟩] last t ∧
      ((createOwned.run {} clusterChoice).on (clusterSession [failingReply] (some busy))).1 =
        .error (.call busy)) ∧
    ∃ last t,
      Policy.Executed {} clusterChoice (createOwned.prepare {}) (clusterSession [] (some busy))
        [createdOrders] () [⟨createdOrders, .ok .succeeded⟩] last t ∧
      ((createOwned.run {} clusterChoice).on (clusterSession [] (some busy))).1 =
        .error (.call busy) ∧
      requests ((createOwned.run {} clusterChoice).on (clusterSession [] (some busy))).2.journal =
        [.ensureRunning "c1", .createContext "c1",
          .executeInContext "c1" "ctx-1" createdOrders, .destroyContext "c1" "ctx-1"] :=
  ⟨⟨_, _, .intro rfl rfl rfl, rfl⟩, _, _, .intro rfl rfl rfl, rfl, rfl⟩

end TableReconciler.Operation
