import TableReconciler.Executor
import TableReconciler.Proofs.Workspace.Exchange

/-!
# Executing statements

What running a list of statements amounts to: a list of executions, each a statement with what it
came to, and the outcome that these decide.

* `conducted_execute`: one execution is one or two exchanges with the workspace, whose answers
  decide what it comes to; `Conducted` lists all of them.
* `on_run`: a run is its executions followed by their `verdict`.
* `cut_executions`: the executed statements are the given ones, in their order and each once, up to
  and including the first that does not succeed.
* `journal_executions`: the journal says of each execution that it begins, then which requests are
  made for it, and then that it failed if it did; it says nothing else.
-/

namespace TableReconciler

/-- A statement that was executed, and what it came to: how it ended, or the failure of a request
that is not the failure of the statement. -/
structure Execution where
  /-- The statement. -/
  statement : String
  /-- What it came to. -/
  result : Except CallFailure StatementOutcome

namespace Execution

/-- The statement succeeded. -/
def Succeeded (execution : Execution) : Prop :=
  execution.result = .ok .succeeded

/-! ## The first that does not succeed -/

/-- Executions of the given statements, in their order, up to the first that does not succeed. -/
inductive Cut : List String → List Execution → Prop
  /-- No statement is left. -/
  | done : Cut [] []
  /-- A statement succeeds, and the next one is executed. -/
  | next {execution : Execution} {statements : List String} {later : List Execution}
      (succeeded : execution.Succeeded) (rest : Cut statements later) :
      Cut (execution.statement :: statements) (execution :: later)
  /-- A statement does not succeed, and no other is executed. -/
  | stop {execution : Execution} {statements : List String}
      (stopped : ¬execution.Succeeded) : Cut (execution.statement :: statements) [execution]

/-- The outcome that executions decide: the first that does not succeed is a fault. -/
def verdict : List Execution → Except Fault Unit
  | [] => .ok ()
  | execution :: later =>
      match execution.result with
      | .ok .succeeded => verdict later
      | .ok (.failed detail) => .error (.execution execution.statement detail)
      | .error failure => .error (.call failure)

variable {statements : List String} {executions : List Execution}

/-- When all executions succeed, all statements were executed. -/
theorem Cut.map_eq (h : Cut statements executions) (hall : ∀ x ∈ executions, x.Succeeded) :
    executions.map statement = statements := by
  induction h with
  | done => rfl
  | next _ _ ih =>
      rw [List.map_cons, ih fun x hx => hall x (List.mem_cons_of_mem _ hx)]
  | stop hstopped => exact absurd (hall _ List.mem_cons_self) hstopped

/-- An execution that does not succeed is the last one, and those before it succeed. -/
theorem Cut.eq_append_of_mem (h : Cut statements executions) {x : Execution}
    (hx : x ∈ executions) (hstopped : ¬x.Succeeded) :
    ∃ before, executions = before ++ [x] ∧ ∀ y ∈ before, y.Succeeded := by
  induction h with
  | done => cases hx
  | @next first _ _ hsucceeded _ ih =>
      rcases List.mem_cons.mp hx with rfl | hlater
      · exact absurd hsucceeded hstopped
      · obtain ⟨before, rfl, hbefore⟩ := ih hlater
        refine ⟨first :: before, rfl, fun y hy => ?_⟩
        rcases List.mem_cons.mp hy with rfl | hy
        · exact hsucceeded
        · exact hbefore y hy
  | stop _ => exact ⟨[], by rw [List.mem_singleton.mp hx, List.nil_append], nofun⟩

/-- Executions that succeed leave the verdict to the later ones. -/
theorem verdict_append {before : List Execution} (h : ∀ y ∈ before, y.Succeeded)
    (later : List Execution) : verdict (before ++ later) = verdict later := by
  induction before with
  | nil => rfl
  | cons y rest ih =>
      have hy : y.result = .ok .succeeded := h y List.mem_cons_self
      rw [List.cons_append, verdict, hy]
      exact ih fun z hz => h z (List.mem_cons_of_mem _ hz)

/-- The verdict is that all is well exactly when all executions succeed. -/
theorem verdict_eq_ok_iff : verdict executions = .ok () ↔ ∀ x ∈ executions, x.Succeeded := by
  induction executions with
  | nil => exact iff_of_true rfl nofun
  | cons x later ih =>
      unfold verdict
      rw [List.forall_mem_cons, ← ih]
      split
      next h => exact (and_iff_right h).symm
      next h => simp [Succeeded, h]
      next h => simp [Succeeded, h]

/-- A verdict that is a fault is the failure of a statement or of a request. -/
theorem eq_of_verdict {fault : Fault} (h : verdict executions = .error fault) :
    (∃ statement detail, fault = .execution statement detail) ∨
      ∃ failure, fault = .call failure := by
  induction executions with
  | nil => cases h
  | cons x later ih =>
      unfold verdict at h
      split at h
      · exact ih h
      · cases h
        exact .inl ⟨_, _, rfl⟩
      · cases h
        exact .inr ⟨_, rfl⟩

/-- Executions never end in a refusal of columns. -/
theorem verdict_ne_columns (executions : List Execution) (fault : ColumnFault) :
    verdict executions ≠ .error (.columns fault) := by
  intro h
  rcases eq_of_verdict h with ⟨_, _, h⟩ | ⟨_, h⟩ <;> cases h

/-- An execution that does not succeed decides the verdict alone. -/
theorem Cut.verdict_of_mem (h : Cut statements executions) {x : Execution}
    (hx : x ∈ executions) (hstopped : ¬x.Succeeded) : verdict executions = verdict [x] := by
  obtain ⟨before, rfl, hbefore⟩ := h.eq_append_of_mem hx hstopped
  exact verdict_append hbefore [x]

/-- A statement that failed is the verdict, with its detail. -/
theorem Cut.verdict_of_failed (h : Cut statements executions) {x : Execution} {detail : String}
    (hx : x ∈ executions) (hfailed : x.result = .ok (.failed detail)) :
    verdict executions = .error (.execution x.statement detail) := by
  have hstopped : ¬x.Succeeded := by simp [Succeeded, hfailed]
  rw [h.verdict_of_mem hx hstopped, verdict, hfailed]

/-- The failure of a request that is not the failure of its statement is the verdict. -/
theorem Cut.verdict_of_error (h : Cut statements executions) {x : Execution}
    {failure : CallFailure} (hx : x ∈ executions) (herror : x.result = .error failure) :
    verdict executions = .error (.call failure) := by
  have hstopped : ¬x.Succeeded := by simp [Succeeded, herror]
  rw [h.verdict_of_mem hx hstopped, verdict, herror]

/-! ## What is written down -/

/-- The requests by which one statement is handed over for execution: it is handed over once,
unless the execution context that it needs is not created. -/
inductive Handover (statement : String) : List Request → Prop
  /-- To a warehouse. -/
  | warehouse (id : Option String) (waitSeconds : Int) :
      Handover statement [.executeOnWarehouse statement id waitSeconds]
  /-- To the local query engine, which refuses it. -/
  | refused : Handover statement [.localQuery statement]
  /-- To the local query engine, which is asked for its result. -/
  | collected : Handover statement [.localQuery statement, .localCollect]
  /-- To nothing, since no execution context is created. -/
  | withoutContext (id : String) : Handover statement [.createContext id]
  /-- To a new execution context. -/
  | newContext (id context : String) :
      Handover statement [.createContext id, .executeInContext id context statement]
  /-- To the execution context that is open. -/
  | openContext (id context : String) :
      Handover statement [.executeInContext id context statement]

/-- What is said when a statement failed. -/
def failureNotice (total index : Nat) (execution : Execution) : List Event :=
  match execution.result with
  | .ok (.failed detail) => [.notice (.statementFailed index total detail)]
  | _ => []

/-- The events of executions, the first of which has the number `index` among `total` statements:
each begins, hands its statement over, and is said to have failed if it did. -/
inductive Journal (total : Nat) : Nat → List Execution → List Event → Prop
  /-- Nothing is executed. -/
  | nil (index : Nat) : Journal total index [] []
  /-- A statement is executed, then the later ones. -/
  | cons {index : Nat} {execution : Execution} {requests : List Request}
      {later : List Execution} {events : List Event}
      (handover : Handover execution.statement requests)
      (rest : Journal total (index + 1) later events) :
      Journal total index (execution :: later)
        (.notice (.executing index total execution.statement) :: requests.map .request ++
          (failureNotice total index execution ++ events))

end Execution

namespace Executor

variable {σ : Type} [Workspace σ]

/-! ## One execution -/

/-- What an execution comes to by the answer of a warehouse. -/
def warehouseAnswer :
    Except CallFailure (Option WarehouseStatus) → Except CallFailure StatementOutcome
  | .ok status => .ok (warehouseResult status)
  | .error failure =>
      if failure.kind.isService then .ok (.failed failure.describe) else .error failure

/-- What an execution comes to by the answer of an execution context. -/
def commandAnswer :
    Except CallFailure (Option CommandResults) → Except CallFailure StatementOutcome
  | .ok results => .ok (commandResult results)
  | .error failure => clusterFailure failure

/-- What an execution comes to by the answer of the local query engine. -/
def engineAnswer : Except CallFailure Unit → Except CallFailure StatementOutcome
  | .ok () => .ok .succeeded
  | .error failure =>
      if failure.kind.isEngine then
        .ok (.failed (failure.kind.label ++ ": " ++ Text.headline failure.message))
      else .error failure

/-- The exchanges by which an executor executes a statement, and what the execution comes to. -/
inductive Conducted (statement : String) :
    Executor → List Exchange → Except CallFailure StatementOutcome → Prop
  /-- A warehouse answers. -/
  | warehouse (id : Option String) (waitSeconds : Int)
      (answer : Except CallFailure (Option WarehouseStatus)) :
      Conducted statement (.warehouse id waitSeconds)
        [⟨.executeOnWarehouse statement id waitSeconds, answer⟩] (warehouseAnswer answer)
  /-- The local query engine refuses the statement. -/
  | refused (failure : CallFailure) :
      Conducted statement .localEngine [⟨.localQuery statement, .error failure⟩]
        (engineAnswer (.error failure))
  /-- The local query engine takes the statement and is asked for its result. -/
  | collected (answer : Except CallFailure Unit) :
      Conducted statement .localEngine
        [⟨.localQuery statement, .ok ()⟩, ⟨.localCollect, answer⟩] (engineAnswer answer)
  /-- No execution context is created. -/
  | withoutContext (id : String) (failure : CallFailure) :
      Conducted statement (.cluster id none) [⟨.createContext id, .error failure⟩]
        (clusterFailure failure)
  /-- A new execution context answers. -/
  | newContext (id context : String) (answer : Except CallFailure (Option CommandResults)) :
      Conducted statement (.cluster id none)
        [⟨.createContext id, .ok context⟩, ⟨.executeInContext id context statement, answer⟩]
        (commandAnswer answer)
  /-- The execution context that is open answers. -/
  | openContext (id context : String) (answer : Except CallFailure (Option CommandResults)) :
      Conducted statement (.cluster id (some context))
        [⟨.executeInContext id context statement, answer⟩] (commandAnswer answer)

/-- The statement is handed over by the requests of these exchanges. -/
theorem Conducted.handover {statement : String} {executor : Executor} {xs : List Exchange}
    {result : Except CallFailure StatementOutcome} (h : Conducted statement executor xs result) :
    Execution.Handover statement (xs.map Exchange.request) := by
  cases h with
  | warehouse id waitSeconds => exact .warehouse id waitSeconds
  | refused => exact .refused
  | collected => exact .collected
  | withoutContext id => exact .withoutContext id
  | newContext id context => exact .newContext id context
  | openContext id context => exact .openContext id context

/-- A statement on a warehouse is one exchange. -/
theorem on_onWarehouse (id : Option String) (waitSeconds : Int) (statement : String)
    (s : Session σ) :
    (onWarehouse id waitSeconds statement).on s =
      (warehouseAnswer
          (Workspace.answer (.executeOnWarehouse statement id waitSeconds) s.workspace).1,
        s.after [.request (.executeOnWarehouse statement id waitSeconds)]) := by
  unfold onWarehouse
  rw [Step.on_bind, Step.on_ask]
  rcases (Workspace.answer (.executeOnWarehouse statement id waitSeconds) s.workspace).1
    with failure | status <;> rfl

/-- A command in an execution context is one exchange. -/
theorem on_inContext (id context statement : String) (s : Session σ) :
    (inContext id context statement).on s =
      (commandAnswer (Workspace.answer (.executeInContext id context statement) s.workspace).1,
        s.after [.request (.executeInContext id context statement)]) := by
  unfold inContext
  rw [Step.on_bind, Step.on_ask]
  rcases (Workspace.answer (.executeInContext id context statement) s.workspace).1
    with failure | results <;> rfl

/-- A statement that the local query engine refuses is one exchange. -/
theorem on_onLocalEngine_of_refused {statement : String} {s : Session σ} {failure : CallFailure}
    (h : (Workspace.answer (.localQuery statement) s.workspace).1 = .error failure) :
    (onLocalEngine statement).on s =
      (engineAnswer (.error failure), s.after [.request (.localQuery statement)]) := by
  unfold onLocalEngine
  rw [Step.on_bind, Step.on_ask, h]
  rfl

/-- A statement that the local query engine takes is two exchanges. -/
theorem on_onLocalEngine_of_taken {statement : String} {s : Session σ}
    (h : (Workspace.answer (.localQuery statement) s.workspace).1 = .ok ()) :
    let t := s.next (.request (.localQuery statement))
    (onLocalEngine statement).on s =
      (engineAnswer (Workspace.answer .localCollect t.workspace).1,
        t.next (.request .localCollect)) := by
  intro t
  unfold onLocalEngine
  rw [Step.on_bind, Step.on_ask, h]
  change (ask Request.localCollect >>= _ : Step σ _).on t = _
  rw [Step.on_bind, Step.on_ask]
  rcases (Workspace.answer .localCollect t.workspace).1 with failure | ⟨⟩ <;> rfl

/-- A statement on a cluster is one exchange when no execution context is created. -/
theorem on_onCluster_of_uncreated {id statement : String} {s : Session σ} {failure : CallFailure}
    (h : (Workspace.answer (.createContext id) s.workspace).1 = .error failure) :
    (onCluster id none statement).on s =
      ((clusterFailure failure, none), s.after [.request (.createContext id)]) := by
  unfold onCluster
  rw [Step.on_bind, Step.on_ask, h]
  rfl

/-- A statement on a cluster is two exchanges when an execution context is created for it. -/
theorem on_onCluster_of_created {id context statement : String} {s : Session σ}
    (h : (Workspace.answer (.createContext id) s.workspace).1 = .ok context) :
    let t := s.next (.request (.createContext id))
    (onCluster id none statement).on s =
      ((commandAnswer (Workspace.answer (.executeInContext id context statement) t.workspace).1,
        some context), t.after [.request (.executeInContext id context statement)]) := by
  intro t
  unfold onCluster
  rw [Step.on_bind, Step.on_ask, h]
  change (inContext id context statement >>= _ : Step σ _).on t = _
  rw [Step.on_bind, on_inContext]
  rfl

/-- Every execution is conducted so, and leads to the session after its requests. -/
theorem conducted_execute (executor : Executor) (statement : String) (s : Session σ) :
    ∃ requests : List Request,
      ((executor.execute statement).on s).2 = s.after (requests.map .request) ∧
      Conducted statement executor (s.exchanges (requests.map .request))
        ((executor.execute statement).on s).1.1 := by
  cases executor with
  | localEngine =>
      simp only [execute, Step.on_bind, Step.on_pure]
      rcases hquery : (Workspace.answer (.localQuery statement) s.workspace).1 with failure | ⟨⟩
      · refine ⟨[.localQuery statement], ?_⟩
        rw [on_onLocalEngine_of_refused hquery, List.map_singleton,
          Session.exchanges_request_cons hquery]
        exact ⟨rfl, .refused failure⟩
      · refine ⟨[.localQuery statement, .localCollect], ?_⟩
        rw [on_onLocalEngine_of_taken hquery, List.map_cons, List.map_singleton,
          Session.exchanges_request_cons hquery]
        exact ⟨rfl, .collected _⟩
  | warehouse id waitSeconds =>
      simp only [execute, Step.on_bind, Step.on_pure, on_onWarehouse]
      exact ⟨[.executeOnWarehouse statement id waitSeconds], rfl, .warehouse id waitSeconds _⟩
  | cluster id context =>
      simp only [execute, Step.on_bind, Step.on_pure]
      cases context with
      | some context =>
          simp only [onCluster, Step.on_bind, Step.on_pure, on_inContext]
          exact ⟨[.executeInContext id context statement], rfl, .openContext id context _⟩
      | none =>
          rcases hcontext : (Workspace.answer (.createContext id) s.workspace).1
            with failure | context
          · refine ⟨[.createContext id], ?_⟩
            rw [on_onCluster_of_uncreated hcontext, List.map_singleton,
              Session.exchanges_request_cons hcontext]
            exact ⟨rfl, .withoutContext id failure⟩
          · refine ⟨[.createContext id, .executeInContext id context statement], ?_⟩
            rw [on_onCluster_of_created hcontext, List.map_cons, List.map_singleton,
              Session.exchanges_request_cons hcontext]
            exact ⟨rfl, .newContext id context _⟩

/-! ## Executions -/

/-- Execute statements until one does not succeed, and tell what was executed. -/
def executions (total index : Nat) (executor : Executor) :
    List String → Step σ (List Execution × Executor)
  | [] => return ([], executor)
  | statement :: rest => do
      say (.executing index total statement)
      let (result, executor) ← executor.execute statement
      match result with
      | .ok .succeeded =>
          let (later, executor) ← executions total (index + 1) executor rest
          return (⟨statement, result⟩ :: later, executor)
      | .ok (.failed detail) =>
          say (.statementFailed index total detail)
          return ([⟨statement, result⟩], executor)
      | .error _ => return ([⟨statement, result⟩], executor)

variable {total index : Nat} {executor : Executor} {statements : List String} {s : Session σ}

/-- The executed statements are the given ones up to the first that does not succeed. -/
theorem cut_executions (total index : Nat) (executor : Executor) (statements : List String)
    (s : Session σ) :
    Execution.Cut statements ((executor.executions total index statements).on s).1.1 := by
  induction statements generalizing index executor s with
  | nil => exact .done
  | cons statement rest ih =>
      simp only [executions, Step.on_bind, Step.on_say]
      generalize (executor.execute statement : Step σ _).on _ = executed
      obtain ⟨⟨result, executor⟩, t⟩ := executed
      match result with
      | .ok .succeeded =>
          have hsucceeded : (⟨statement, .ok .succeeded⟩ : Execution).Succeeded := rfl
          exact .next hsucceeded (ih (index + 1) executor t)
      | .ok (.failed detail) =>
          have hstopped : ¬(⟨statement, .ok (.failed detail)⟩ : Execution).Succeeded := nofun
          exact .stop hstopped
      | .error failure =>
          have hstopped : ¬(⟨statement, .error failure⟩ : Execution).Succeeded := nofun
          exact .stop hstopped

/-- A run executes its statements, and its outcome is the verdict on the executions. -/
theorem on_runFrom (total index : Nat) (executor : Executor) (statements : List String)
    (s : Session σ) :
    (executor.runFrom total index statements).on s =
      let ((executions, last), t) := (executor.executions total index statements).on s
      ((Execution.verdict executions, last), t) := by
  induction statements generalizing index executor s with
  | nil => rfl
  | cons statement rest ih =>
      simp only [runFrom, executions, Step.on_bind, Step.on_say]
      generalize (executor.execute statement : Step σ _).on _ = executed
      obtain ⟨⟨result, executor⟩, t⟩ := executed
      match result with
      | .ok .succeeded => exact ih _ _ _
      | .ok (.failed _) => rfl
      | .error _ => rfl

/-- A run executes its statements, numbered from one, and its outcome is the verdict on the
executions. -/
theorem on_run (executor : Executor) (statements : List String) (s : Session σ) :
    (executor.run statements).on s =
      let ((executions, last), t) :=
        (executor.executions statements.length 1 statements).on s
      ((Execution.verdict executions, last), t) :=
  on_runFrom statements.length 1 executor statements s

/-! ## The journal -/

/-- One statement is handed over by requests, and the journal grows by those. -/
theorem journal_execute (executor : Executor) (statement : String) (s : Session σ) :
    ∃ requests, Execution.Handover statement requests ∧
      ((executor.execute statement).on s).2.journal = s.journal ++ requests.map .request := by
  obtain ⟨requests, hafter, hconducted⟩ := conducted_execute executor statement s
  have hhandover := hconducted.handover
  rw [Session.map_request_exchanges_requests] at hhandover
  exact ⟨requests, hhandover, by rw [hafter, Session.journal_after]⟩

/-- The journal grows by the events of the executions. -/
theorem journal_executions (total index : Nat) (executor : Executor) (statements : List String)
    (s : Session σ) :
    ∃ events,
      Execution.Journal total index ((executor.executions total index statements).on s).1.1
        events ∧
      ((executor.executions total index statements).on s).2.journal = s.journal ++ events := by
  induction statements generalizing index executor s with
  | nil => exact ⟨[], .nil index, by simp [executions]⟩
  | cons statement rest ih =>
      simp only [executions, Step.on_bind, Step.on_say]
      obtain ⟨requests, hrequests, hjournal⟩ := journal_execute executor statement
        { s with journal := s.journal ++ [.notice (.executing index total statement)] }
      generalize (executor.execute statement : Step σ _).on _ = executed at hjournal ⊢
      obtain ⟨⟨result, executor⟩, t⟩ := executed
      have hbegun : t.journal =
          s.journal ++ [.notice (.executing index total statement)] ++ requests.map .request :=
        hjournal
      match result with
      | .ok .succeeded =>
          obtain ⟨events, hevents, hlater⟩ := ih (index + 1) executor t
          refine ⟨_, .cons hrequests hevents, ?_⟩
          simp [hlater, hbegun, Execution.failureNotice]
      | .ok (.failed detail) =>
          refine ⟨_, .cons hrequests (.nil _), ?_⟩
          simp [hbegun, Execution.failureNotice]
      | .error _ =>
          refine ⟨_, .cons hrequests (.nil _), ?_⟩
          simp [hbegun, Execution.failureNotice]

end Executor

end TableReconciler
