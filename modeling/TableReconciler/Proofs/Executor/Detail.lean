import TableReconciler.Proofs.Executor.Executions
import TableReconciler.Proofs.Text.Lines
import TableReconciler.Workspace.InMemory

/-!
# The detail of a failed statement

What is said about a statement that failed.  An executor makes the detail from what it is told from
outside (`Exchange.told`): the message of a failed request, the state and the message of a
warehouse, or the cause or the summary of a command.

The local query engine cuts a message to its first line.  The other executors pass on what they are
told, so that their details are on one line exactly when that is (`explained_execute`).
-/

namespace TableReconciler

/-! ## What is told from outside -/

/-- The name of a kind of failure is on one line. -/
theorem FailureKind.oneLine_label (kind : FailureKind) : Text.OneLine kind.label := by
  cases kind <;> decide

/-- A failure with the name of its kind is on one line when its message is. -/
theorem CallFailure.oneLine_describe_iff {failure : CallFailure} :
    Text.OneLine failure.describe ↔ Text.OneLine failure.message := by
  unfold describe
  rw [Text.oneLine_append, Text.oneLine_append]
  exact and_iff_right ⟨failure.kind.oneLine_label, by decide⟩

/-- The texts in which an answer tells of a failure: the message of a failed request, the state and
the message of a warehouse, and of a command the cause or else the summary. -/
def Exchange.told : Exchange → List String
  | ⟨_, .error failure⟩ => [failure.message]
  | ⟨.executeOnWarehouse _ _ _, .ok status⟩ =>
      (status.bind (·.state)).toList ++ (status.bind (·.message)).toList
  | ⟨.executeInContext _ _ _, .ok results⟩ =>
      (results.bind fun r => (nonEmpty? r.cause).or (nonEmpty? r.summary)).toList
  | _ => []

namespace Executor

/-- Whether an executor takes a failed request of this kind for a failed statement. -/
def takes : Executor → FailureKind → Bool
  | .localEngine, kind => kind.isEngine
  | .warehouse _ _, kind => kind.isService
  | .cluster _ _, kind => kind.isService || kind == .operationFailed || kind.isTimeout

/-- The statement fails by this exchange: the request fails in a way that the executor takes for
that, a warehouse reports no success, or a command results in an error. -/
def Fails (executor : Executor) : Exchange → Prop
  | ⟨_, .error failure⟩ => executor.takes failure.kind = true
  | ⟨.executeOnWarehouse _ _ _, .ok status⟩ => status.bind (·.state) ≠ some "SUCCEEDED"
  | ⟨.executeInContext _ _ _, .ok results⟩ => results.any (·.isError) = true
  | _ => False

/-- What an execution comes to is what its exchanges tell. -/
structure Explained (executor : Executor) (xs : List Exchange)
    (result : Except CallFailure StatementOutcome) : Prop where
  /-- When the statement fails by an exchange, the execution is a failure, whose detail is on one
  line exactly when the texts of the exchange are, and in any case at the local query engine. -/
  failed : ∀ x ∈ xs, executor.Fails x → ∃ detail, result = .ok (.failed detail) ∧
    (Text.OneLine detail ↔ executor = .localEngine ∨ ∀ text ∈ x.told, Text.OneLine text)
  /-- When it fails by none of them, the execution is no failure of the statement. -/
  unfailed : (∀ x ∈ xs, ¬executor.Fails x) → ∀ detail, result ≠ .ok (.failed detail)

namespace Explained

variable {executor : Executor} {x : Exchange} {xs : List Exchange}
  {result : Except CallFailure StatementOutcome}

/-- The statement fails by the only exchange. -/
theorem of_failed {detail : String}
    (h : Text.OneLine detail ↔ executor = .localEngine ∨ ∀ text ∈ x.told, Text.OneLine text)
    (hfails : executor.Fails x) : executor.Explained [x] (.ok (.failed detail)) where
  failed _ hy _ := by
    rw [List.mem_singleton.mp hy]
    exact ⟨detail, rfl, h⟩
  unfailed hnone := absurd hfails (hnone x (List.mem_singleton_self x))

/-- The statement does not fail by the only exchange. -/
theorem of_unfailed (hfails : ¬executor.Fails x)
    (h : ∀ detail, result ≠ .ok (.failed detail)) : executor.Explained [x] result where
  failed _ hy hy' := absurd (List.mem_singleton.mp hy ▸ hy') hfails
  unfailed _ := h

/-- The statement does not fail by the first exchange. -/
theorem cons (hfails : ¬executor.Fails x) (h : executor.Explained xs result) :
    executor.Explained (x :: xs) result where
  failed y hy hy' := by
    rcases List.mem_cons.mp hy with rfl | hlater
    · exact absurd hy' hfails
    · exact h.failed y hlater hy'
  unfailed hnone := h.unfailed fun y hy => hnone y (List.mem_cons_of_mem x hy)

end Explained

/-! ## What the executors say -/

/-- Unless a warehouse reports success, what it says is on one line when its texts are. -/
theorem warehouseResult_of_failed {status : Option WarehouseStatus}
    (h : status.bind (·.state) ≠ some "SUCCEEDED") :
    ∃ detail, warehouseResult status = .failed detail ∧
      (Text.OneLine detail ↔
        ∀ text ∈ (status.bind (·.state)).toList ++ (status.bind (·.message)).toList,
          Text.OneLine text) := by
  refine ⟨_, if_neg h, ?_⟩
  have hstate : Text.OneLine ((status.bind (·.state)).getD "None") ↔
      ∀ text ∈ (status.bind (·.state)).toList, Text.OneLine text := by
    cases status.bind (·.state) with
    | none => exact iff_of_true (by decide) nofun
    | some state => exact (List.forall_mem_singleton ..).symm
  rw [Text.oneLine_append, Text.oneLine_append, hstate, List.forall_mem_append]
  refine and_congr (and_iff_right (by decide)) ?_
  cases status.bind (·.message) with
  | none => exact iff_of_true (by decide) nofun
  | some message =>
      refine Iff.trans ?_ (List.forall_mem_singleton ..).symm
      by_cases hempty : message = ""
      · subst hempty
        exact iff_of_true (by decide) (by decide)
      · have hkept : nonEmpty? (some message) = some message := by simp [nonEmpty?, hempty]
        rw [hkept]
        exact Text.oneLine_append.trans (and_iff_right (by decide))

/-- What is said of a command that results in an error is on one line when its cause is, or else its
summary. -/
theorem commandResult_of_isError {results : CommandResults} (h : results.isError = true) :
    ∃ detail, commandResult (some results) = .failed detail ∧
      (Text.OneLine detail ↔
        ∀ text ∈ ((nonEmpty? results.cause).or (nonEmpty? results.summary)).toList,
          Text.OneLine text) := by
  refine ⟨_, if_pos h, ?_⟩
  cases (nonEmpty? results.cause).or (nonEmpty? results.summary) with
  | none => exact iff_of_true (by decide) nofun
  | some text => exact (List.forall_mem_singleton ..).symm

/-- A failed request that is told with the name of its kind. -/
theorem explained_of_described {executor : Executor} {request : Request} {failure : CallFailure}
    (hengine : executor ≠ .localEngine) :
    executor.Explained [⟨request, .error failure⟩]
      (if executor.takes failure.kind then .ok (.failed failure.describe) else .error failure) := by
  split_ifs with htakes
  · refine .of_failed ?_ htakes
    rw [CallFailure.oneLine_describe_iff, or_iff_right hengine]
    exact (List.forall_mem_singleton ..).symm
  · exact .of_unfailed htakes nofun

/-- What a warehouse answers. -/
theorem explained_warehouseAnswer (statement : String) (id : Option String) (waitSeconds : Int)
    (answer : Except CallFailure (Option WarehouseStatus)) :
    (Executor.warehouse id waitSeconds).Explained
      [⟨.executeOnWarehouse statement id waitSeconds, answer⟩] (warehouseAnswer answer) := by
  rcases answer with failure | status
  · exact explained_of_described nofun
  · by_cases hstate : status.bind (·.state) = some "SUCCEEDED"
    · refine .of_unfailed (fun h => h hstate) fun detail => ?_
      simp [warehouseAnswer, warehouseResult, hstate]
    · obtain ⟨detail, hdetail, hline⟩ := warehouseResult_of_failed hstate
      rw [warehouseAnswer, hdetail]
      exact .of_failed (hline.trans (or_iff_right nofun).symm) hstate

/-- What an execution context answers. -/
theorem explained_commandAnswer (statement id context : String) (held : Option String)
    (answer : Except CallFailure (Option CommandResults)) :
    (Executor.cluster id held).Explained [⟨.executeInContext id context statement, answer⟩]
      (commandAnswer answer) := by
  rcases answer with failure | _ | results
  · exact explained_of_described nofun
  · exact .of_unfailed nofun nofun
  · by_cases herror : results.isError = true
    · obtain ⟨detail, hdetail, hline⟩ := commandResult_of_isError herror
      rw [commandAnswer, hdetail]
      exact .of_failed (hline.trans (or_iff_right nofun).symm) herror
    · refine .of_unfailed herror fun detail => ?_
      simp [commandAnswer, commandResult, herror]

/-- What the local query engine answers when a request to it fails. -/
theorem explained_engineAnswer (request : Request) (failure : CallFailure) :
    Executor.localEngine.Explained [⟨request, .error failure⟩] (engineAnswer (.error failure)) := by
  change Explained _ _ (if failure.kind.isEngine then _ else _)
  split_ifs with htakes
  · refine .of_failed (iff_of_true ?_ (.inl rfl)) htakes
    rw [Text.oneLine_append, Text.oneLine_append]
    exact ⟨⟨failure.kind.oneLine_label, by decide⟩, Text.oneLine_headline failure.message⟩
  · exact .of_unfailed htakes nofun

/-- What an execution comes to is what its exchanges tell. -/
theorem Conducted.explained {statement : String} {executor : Executor} {xs : List Exchange}
    {result : Except CallFailure StatementOutcome} (h : Conducted statement executor xs result) :
    executor.Explained xs result := by
  cases h with
  | warehouse id waitSeconds answer => exact explained_warehouseAnswer ..
  | refused failure => exact explained_engineAnswer _ failure
  | collected answer =>
      -- the request was taken, so that only collecting the result can fail
      refine .cons nofun ?_
      cases answer with
      | error failure => exact explained_engineAnswer _ failure
      | ok _ => exact .of_unfailed nofun nofun
  | withoutContext id failure => exact explained_of_described nofun
  | newContext id context answer => exact .cons nofun (explained_commandAnswer ..)
  | openContext id context answer => exact explained_commandAnswer ..

variable {σ : Type} [Workspace σ]

/-- **When details are on one line.**  Whatever the workspace answers, a statement is handed over by
one or two requests, and what its execution comes to is explained by their answers.

When the statement fails by an answer, the execution returns a failure with a detail.  At the local
query engine the detail is on one line whatever the message; for the other executors it is on one
line exactly when the texts of the answer are, which come from outside and are passed on whole. -/
theorem explained_execute (executor : Executor) (statement : String) (s : Session σ) :
    ∃ requests : List Request, Execution.Handover statement requests ∧
      ((executor.execute statement).on s).2 = s.after (requests.map .request) ∧
      executor.Explained (s.exchanges (requests.map .request))
        ((executor.execute statement).on s).1.1 := by
  obtain ⟨requests, hafter, hconducted⟩ := conducted_execute executor statement s
  have hhandover := hconducted.handover
  rw [Session.map_request_exchanges_requests] at hhandover
  exact ⟨requests, hhandover, hafter, hconducted.explained⟩

/-- A session with an outcome that is prepared for the next statement. -/
def preparedSession (reply : StatementReply) : Session InMemory where
  workspace := { replies := [reply] }

/-- Details in two lines: of a request to a warehouse that fails, of a statement that a warehouse
reports to have failed, and of a command on a cluster.  The local query engine is told the same and
says the first line. -/
theorem details_in_two_lines :
    let detail (executor : Executor) (reply : StatementReply) :=
      ((executor.execute "SELECT 1").on (preparedSession reply)).1.1
    detail (.warehouse (some "w1") 50) { failure := some ⟨.service, "quota\nexceeded"⟩ } =
      .ok (.failed "DatabricksError: quota\nexceeded") ∧
    detail (.warehouse (some "w1") 50) { status := some ⟨some "FAILED", some "no\ntable"⟩ } =
      .ok (.failed "statement failed to execute: FAILED: no\ntable") ∧
    detail (.cluster "c1" none) { results := some ⟨true, some "no\ntable", none⟩ } =
      .ok (.failed "no\ntable") ∧
    detail .localEngine { failure := some ⟨.engine, "no\ntable"⟩ } =
      .ok (.failed "PySparkException: no") ∧
    ¬Text.OneLine "DatabricksError: quota\nexceeded" ∧
    ¬Text.OneLine "statement failed to execute: FAILED: no\ntable" ∧
    ¬Text.OneLine "no\ntable" :=
  ⟨rfl, rfl, rfl, by decide +kernel, by decide +kernel, by decide +kernel, by decide +kernel⟩

end Executor

end TableReconciler
