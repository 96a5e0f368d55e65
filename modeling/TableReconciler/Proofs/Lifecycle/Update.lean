import TableReconciler.Proofs.Columns.Effect
import TableReconciler.Proofs.Lifecycle.Owner
import TableReconciler.Workspace.InMemory

/-!
# The course of an update

An update is prepared by reading the previous description and planning (`prepareUpdate_eq`); what
has to succeed before statements are executed is `Planned`.

`UpdateTrace.Of` says what an update does on a session: which events belong to which stage, and
what a stage requires of those before it.  After a stage that ends in a fault only closing follows;
that a cluster is gone is no fault of finding compute, since the default cluster takes its place.
Every update has such a trace (`exists_of_update`), whatever the workspace answers.  It is put
together for the three ways in which an update may go: no executor is opened, no statements are
prepared, or statements are executed.
-/

namespace TableReconciler

variable {σ : Type} [Workspace σ] {τ : Type} [Entry τ]

/-! ## Preparing -/

namespace Policy

variable {policy : Policy} {resourceId : String} {desired : TableSpec τ} {previous : TableSpec}
  {s t : Session σ}

/-- The statements that lead from the previous description to the desired one, after the two were
reconciled and the changes of columns accepted. -/
def plan (policy : Policy) (desired : TableSpec τ) (previous : TableSpec) :
    Except Fault (List String) := do
  let reconciled ← (desired.reconciled policy.managed previous).mapError (.unwritable ∘ .entry)
  (ColumnRule.checkAll policy.rules reconciled.columns previous.columns).mapError .columns
  (Plan.script policy.managed reconciled previous).mapError .unwritable

/-- An update is prepared by reading, planning, and a notice of the plan. -/
theorem prepareUpdate_eq (policy : Policy) (resourceId : String) (desired : TableSpec τ) :
    (policy.prepareUpdate resourceId desired : Action σ _) = (do
      let previous ← Catalog.readTable resourceId
      let statements ← lift id (policy.plan desired previous)
      announce (.planned desired.name statements.length)
      return (statements, previous)) := by
  simp only [plan, Action.lift_bind, Action.lift_mapError, bind_assoc]
  rfl

/-- Without a previous description nothing is prepared. -/
theorem on_prepareUpdate_of_unread {fault : Fault}
    (h : (Catalog.readTable resourceId).on s = (.error fault, t)) :
    (policy.prepareUpdate resourceId desired).on s = (.error fault, t) := by
  rw [prepareUpdate_eq, Action.on_bind_of_error h]

/-- With a previous description the rest is the plan, and a notice of it. -/
theorem on_prepareUpdate_of_read (h : (Catalog.readTable resourceId).on s = (.ok previous, t)) :
    (policy.prepareUpdate resourceId desired).on s =
      match policy.plan desired previous with
      | .ok statements =>
          (.ok (statements, previous),
            { t with
              journal := t.journal ++ [.notice (.planned desired.name statements.length)] })
      | .error fault => (.error fault, t) := by
  rw [prepareUpdate_eq, Action.on_bind_of_ok h]
  cases policy.plan desired previous <;> rfl

/-- Preparing an update reads the object, and says what is planned; it asks for nothing else. -/
theorem journal_prepareUpdate (policy : Policy) (resourceId : String) (desired : TableSpec τ)
    (s : Session σ) :
    ∃ reading,
      ((policy.prepareUpdate resourceId desired).on s).2.journal = s.journal ++ reading ∧
      (∀ event ∈ reading, event.Within .reading) ∧
      requests reading =
        if (QualifiedName.parse? resourceId).isSome then [.getTable resourceId] else [] := by
  have hread := journal_readTable resourceId s
  generalize hasked : (if (QualifiedName.parse? resourceId).isSome then
    [Event.request (.getTable resourceId)] else []) = asked at hread
  have hwithin : ∀ event ∈ asked, event.Within .reading := by
    subst hasked
    split <;> simp [Event.Within, Request.stage]
  have hrequests : requests asked =
      if (QualifiedName.parse? resourceId).isSome then [.getTable resourceId] else [] := by
    subst hasked
    split <;> rfl
  rcases hreadTable : (Catalog.readTable resourceId).on s with ⟨fault | previous, t⟩
  · rw [hreadTable] at hread
    rw [on_prepareUpdate_of_unread hreadTable]
    exact ⟨asked, hread, hwithin, hrequests⟩
  · rw [hreadTable] at hread
    rw [on_prepareUpdate_of_read hreadTable]
    cases policy.plan desired previous with
    | error fault => exact ⟨asked, hread, hwithin, hrequests⟩
    | ok statements =>
        refine ⟨asked ++ [.notice (.planned desired.name statements.length)], ?_, ?_, ?_⟩
        · rw [← List.append_assoc, ← hread]
        · exact List.forall_mem_append.mpr ⟨hwithin, by simp [Event.Within]⟩
        · rw [requests_append, hrequests]
          exact List.append_nil _

/-- What has to succeed before statements are executed: an executor was opened on the session `s`,
the previous description was read, and `statements` are the plan from there. -/
inductive Planned (policy : Policy) (resourceId : String) (desired : TableSpec τ)
    (compute : ComputeChoice) (s : Session σ) (statements : List String) : Prop
  /-- From the three parts. -/
  | intro {executor : Executor} {previous : TableSpec} {t u : Session σ}
      (opened : (policy.openExecutor compute).on s = (.ok executor, t))
      (read : (Catalog.readTable resourceId).on t = (.ok previous, u))
      (planned : policy.plan desired previous = .ok statements)

/-- The statements that are executed were planned. -/
theorem Executed.planned {compute : ComputeChoice} {statements : List String}
    {executions : List Execution} {last : Executor}
    (h : policy.Executed compute (policy.prepareUpdate resourceId desired) s statements previous
      executions last t) :
    policy.Planned resourceId desired compute s statements := by
  obtain @⟨executor, u, v, hopen, hprepare, -⟩ := h
  rcases hread : (Catalog.readTable resourceId).on u with ⟨fault | read, w⟩
  · rw [on_prepareUpdate_of_unread hread] at hprepare
    cases hprepare
  · rw [on_prepareUpdate_of_read hread] at hprepare
    cases hplan : policy.plan desired read with
    | error fault =>
        rw [hplan] at hprepare
        cases hprepare
    | ok planned =>
        rw [hplan] at hprepare
        cases hprepare
        exact .intro hopen hread hplan

/-- Statements that were planned are prepared. -/
theorem Planned.prepared {compute : ComputeChoice} {statements : List String}
    (h : policy.Planned resourceId desired compute s statements) :
    ∃ executor previous t u, (policy.openExecutor compute).on s = (.ok executor, t) ∧
      (policy.prepareUpdate resourceId desired).on t = (.ok (statements, previous), u) := by
  obtain @⟨executor, previous, t, u, hopen, hread, hplan⟩ := h
  have hprepare : (policy.prepareUpdate resourceId desired).on t = _ :=
    on_prepareUpdate_of_read hread
  rw [hplan] at hprepare
  exact ⟨executor, previous, t, _, hopen, hprepare⟩

end Policy

/-! ## The trace -/

/-- The events of an update, stage by stage. -/
structure UpdateTrace where
  /-- Compute is found. -/
  provisioning : List Event := []
  /-- The executor is built. -/
  opening : List Event := []
  /-- The previous description is read. -/
  reading : List Event := []
  /-- The statements are executed. -/
  executing : List Event := []
  /-- The executor is closed. -/
  closing : List Event := []
  /-- The current user is looked up. -/
  identifying : List Event := []
  /-- The owner is set. -/
  owning : List Event := []

namespace UpdateTrace

open Policy (identifyingOwner changingOwner)

/-- All events, in their order. -/
def events (trace : UpdateTrace) : List Event :=
  trace.provisioning ++ trace.opening ++ trace.reading ++ trace.executing ++ trace.closing ++
    trace.identifying ++ trace.owning

/-- Every event stands in the stage that it belongs to. -/
structure Staged (trace : UpdateTrace) : Prop where
  provisioning : ∀ event ∈ trace.provisioning, event.Within .provisioning
  opening : ∀ event ∈ trace.opening, event.Within .opening
  reading : ∀ event ∈ trace.reading, event.Within .reading
  executing : ∀ event ∈ trace.executing, event.Within .executing
  closing : ∀ event ∈ trace.closing, event.Within .closing
  identifying : ∀ event ∈ trace.identifying, event.Within .identifying
  owning : ∀ event ∈ trace.owning, event.Within .owning

/-- The executor is closed in the closing stage only. -/
theorem Staged.count_closed {trace : UpdateTrace} (h : trace.Staged) :
    trace.events.count .closed = trace.closing.count .closed := by
  simp only [events, List.count_append, count_closed_eq_zero h.provisioning nofun,
    count_closed_eq_zero h.opening nofun, count_closed_eq_zero h.reading nofun,
    count_closed_eq_zero h.executing nofun, count_closed_eq_zero h.identifying nofun,
    count_closed_eq_zero h.owning nofun, Nat.zero_add, Nat.add_zero]

/-- What an update does on a session, as a trace, the statements that it plans (none if it does not
come to that), and the executions. -/
structure Of (policy : Policy) (resourceId : String) (desired : TableSpec τ)
    (compute : ComputeChoice) (s : Session σ) (trace : UpdateTrace) (plan : List String)
    (executions : List Execution) : Prop where
  /-- The journal grows by the events of the trace. -/
  journal : ((policy.update resourceId desired compute).on s).2.journal = s.journal ++ trace.events
  /-- Every event stands in its stage, so that the stages follow each other. -/
  staged : trace.Staged
  /-- Executing is written down execution by execution. -/
  executing : Execution.Journal plan.length 1 executions trace.executing
  /-- Without compute nothing else happens. -/
  unprovisioned : ∀ fault t, (compute.resolve policy.defaultCluster).on s = (.error fault, t) →
    (policy.update resourceId desired compute).on s = (.error fault, t) ∧
      trace.events = trace.provisioning
  /-- Without an executor nothing else happens. -/
  unopened : ∀ fault t, (policy.openExecutor compute).on s = (.error fault, t) →
    (policy.update resourceId desired compute).on s = (.error fault, t) ∧
      trace.events = trace.provisioning ++ trace.opening
  /-- Without statements the executor is closed, and nothing else happens after reading. -/
  unprepared : ∀ executor t fault u, (policy.openExecutor compute).on s = (.ok executor, t) →
    (policy.prepareUpdate resourceId desired).on t = (.error fault, u) →
      (policy.update resourceId desired compute).on s = (.error fault, (executor.close.on u).2) ∧
        trace.events = trace.provisioning ++ trace.opening ++ trace.reading ++ trace.closing
  /-- After a statement that does not succeed the executor is closed, and nothing else happens. -/
  unexecuted : ∀ x ∈ executions, ¬x.Succeeded →
    trace.events =
      trace.provisioning ++ trace.opening ++ trace.reading ++ trace.executing ++ trace.closing
  /-- After an executor that cannot be closed nothing else happens. -/
  unclosed : ∀ previous last t failure,
    policy.Executed compute (policy.prepareUpdate resourceId desired) s plan previous executions
      last t → (last.close.on t).1.1 = .error failure →
    trace.events =
      trace.provisioning ++ trace.opening ++ trace.reading ++ trace.executing ++ trace.closing
  /-- After an owner that cannot be resolved nothing else happens. -/
  unidentified : ∀ previous last t fault,
    policy.Executed compute (policy.prepareUpdate resourceId desired) s plan previous executions
      last t → ((Policy.resolveOwner desired).on (last.close.on t).2).1 = .error fault →
    trace.owning = []
  /-- With an executor the object is read, unless its name is malformed. -/
  read : ∀ executor t, (policy.openExecutor compute).on s = (.ok executor, t) →
    requests trace.reading =
      if (QualifiedName.parse? resourceId).isSome then [.getTable resourceId] else []
  /-- With an executor one is closed, once, and what it holds open is released. -/
  closed : ∀ executor t, (policy.openExecutor compute).on s = (.ok executor, t) →
    (∃ last : Executor, trace.closing = last.release) ∧ trace.events.count .closed = 1
  /-- Only what was planned is executed, and the executions are those of the executor. -/
  prepared : executions ≠ [] → policy.Planned resourceId desired compute s plan ∧
    ∃ previous last t, policy.Executed compute (policy.prepareUpdate resourceId desired) s plan
      previous executions last t
  /-- If statements were planned, it is those. -/
  plan_eq : ∀ statements, policy.Planned resourceId desired compute s statements →
    plan = statements
  /-- The planned statements are executed in their order, up to the first that does not succeed. -/
  cut : Execution.Cut plan executions
  /-- If columns are refused, nothing is executed, and the owner is not touched. -/
  refused : ∀ fault, ((policy.update resourceId desired compute).on s).1 = .error (.columns fault) →
    executions = [] ∧ trace.identifying = [] ∧ trace.owning = []
  /-- The update tells the planned statements, after all of them were executed. -/
  returned : ∀ statements,
    ((policy.update resourceId desired compute).on s).1 = .ok statements →
      statements = plan ∧ policy.Planned resourceId desired compute s plan ∧
      executions.map Execution.statement = plan ∧ ∀ x ∈ executions, x.Succeeded
  /-- The owner comes after all statements succeeded and the executor was closed. -/
  owner : trace.identifying = [] ∧ trace.owning = [] ∨
    ∃ previous last t, policy.Executed compute (policy.prepareUpdate resourceId desired) s plan
        previous executions last t ∧
      (∀ x ∈ executions, x.Succeeded) ∧ (last.close.on t).1.1 = .ok () ∧
      trace.identifying = identifyingOwner desired ∧
      trace.owning = changingOwner desired previous
        ((Policy.resolveOwner desired).on (last.close.on t).2).1

variable {policy : Policy} {resourceId : String} {desired : TableSpec τ} {compute : ComputeChoice}
  {s : Session σ}

/-- Without an executor an update ends with the events of opening one. -/
theorem of_unopened (resourceId : String) (desired : TableSpec τ) {fault : Fault} {t : Session σ}
    (hopen : (policy.openExecutor compute).on s = (.error fault, t)) :
    ∃ trace, Of policy resourceId desired compute s trace [] [] := by
  obtain ⟨provisioning, opening, hjournal, hprovisioning, hopening, hunprovisioned⟩ :=
    journal_openExecutor policy compute s
  have hupdate : (policy.update resourceId desired compute).on s = (.error fault, t) :=
    Operation.on_run_of_error (.update resourceId desired) (Policy.on_perform_of_unopened hopen)
  have hnotPlanned : ∀ statements,
      ¬policy.Planned resourceId desired compute s statements := by
    rintro statements ⟨hopened, -, -⟩
    rw [hopen] at hopened
    cases hopened
  have hnotOpened : ∀ executor u, (policy.openExecutor compute).on s ≠ (.ok executor, u) := by
    intro executor u hopened
    rw [hopen] at hopened
    cases hopened
  refine ⟨{ provisioning, opening }, {
    journal := ?_
    staged := ⟨hprovisioning, hopening, List.forall_mem_nil _, List.forall_mem_nil _,
      List.forall_mem_nil _, List.forall_mem_nil _, List.forall_mem_nil _⟩
    executing := .nil 1
    unprovisioned := fun fault' u hresolve => ?_
    unopened := fun fault' u hfault => ⟨?_, by simp [events]⟩
    unprepared := fun executor u _ _ hopened => absurd hopened (hnotOpened executor u)
    unexecuted := nofun
    unclosed := fun _ _ _ _ h => absurd h.planned (hnotPlanned _)
    unidentified := fun _ _ _ _ h => absurd h.planned (hnotPlanned _)
    read := fun executor u hopened => absurd hopened (hnotOpened executor u)
    closed := fun executor u hopened => absurd hopened (hnotOpened executor u)
    prepared := fun h => absurd rfl h
    plan_eq := fun statements h => absurd h (hnotPlanned statements)
    cut := .done
    refused := fun _ _ => ⟨rfl, rfl, rfl⟩
    returned := fun statements h => ?_
    owner := .inl ⟨rfl, rfl⟩ }⟩
  · rw [hupdate]
    rw [hopen] at hjournal
    simpa [events] using hjournal
  · obtain ⟨hfault, rfl⟩ := hunprovisioned fault' u hresolve
    rw [hopen] at hfault
    cases hfault
    exact ⟨hupdate, by simp [events]⟩
  · rw [hopen] at hfault
    cases hfault
    exact hupdate
  · rw [hupdate] at h
    cases h

/-- Without statements an update ends with the events of reading, and the executor is closed. -/
theorem of_unprepared {executor : Executor} {fault : Fault} {t u : Session σ}
    (hopen : (policy.openExecutor compute).on s = (.ok executor, t))
    (hprepare : (policy.prepareUpdate resourceId desired).on t = (.error fault, u)) :
    ∃ trace, Of policy resourceId desired compute s trace [] [] := by
  obtain ⟨provisioning, opening, hopened, hprovisioning, hopening, hunprovisioned⟩ :=
    journal_openExecutor policy compute s
  obtain ⟨reading, hread, hreading, hrequests⟩ :=
    Policy.journal_prepareUpdate policy resourceId desired t
  rw [hopen] at hopened hunprovisioned
  rw [hprepare] at hread
  have hupdate : (policy.update resourceId desired compute).on s =
      (.error fault, (executor.close.on u).2) :=
    Operation.on_run_of_error (.update resourceId desired)
      (Policy.on_perform_of_unprepared hopen hprepare)
  have hnotPlanned : ∀ statements, ¬policy.Planned resourceId desired compute s statements := by
    intro statements hplanned
    obtain ⟨executor', previous, t', u', hopen', hprepare'⟩ := hplanned.prepared
    rw [hopen] at hopen'
    cases hopen'
    rw [hprepare] at hprepare'
    cases hprepare'
  have hstaged : Staged { provisioning, opening, reading, closing := executor.release } :=
    ⟨hprovisioning, hopening, hreading, List.forall_mem_nil _, executor.within_release,
      List.forall_mem_nil _, List.forall_mem_nil _⟩
  refine ⟨_, {
    journal := ?_
    staged := hstaged
    executing := .nil 1
    unprovisioned := fun fault' v hresolve => nomatch (hunprovisioned fault' v hresolve).1
    unopened := fun fault' v hfault => nomatch hopen.symm.trans hfault
    unprepared := fun executor' t' fault' v hopened hfault => ?_
    unexecuted := nofun
    unclosed := fun _ _ _ _ h => absurd h.planned (hnotPlanned _)
    unidentified := fun _ _ _ _ h => absurd h.planned (hnotPlanned _)
    read := fun _ _ _ => hrequests
    closed := fun _ _ _ =>
      ⟨⟨executor, rfl⟩, hstaged.count_closed.trans executor.count_closed_release⟩
    prepared := fun h => absurd rfl h
    plan_eq := fun statements h => absurd h (hnotPlanned statements)
    cut := .done
    refused := fun _ _ => ⟨rfl, rfl, rfl⟩
    returned := fun statements h => ?_
    owner := .inl ⟨rfl, rfl⟩ }⟩
  · rw [hupdate, Executor.journal_close, hread, hopened]
    simp [events]
  · rw [hopen] at hopened
    cases hopened
    rw [hprepare] at hfault
    cases hfault
    exact ⟨hupdate, by simp [events]⟩
  · rw [hupdate] at h
    cases h

/-- After the executions the executor is closed; the owner follows if nothing failed so far. -/
theorem on_update_of_executed {plan : List String} {previous : TableSpec}
    {executions : List Execution} {last : Executor} {t : Session σ}
    (h : policy.Executed compute (policy.prepareUpdate resourceId desired) s plan previous
      executions last t) :
    ∃ identifying owning,
      ((policy.update resourceId desired compute).on s).2.journal =
        t.journal ++ last.release ++ identifying ++ owning ∧
      (identifying = [] ∧ owning = [] ∨
        (∀ x ∈ executions, x.Succeeded) ∧ (last.close.on t).1.1 = .ok () ∧
          identifying = identifyingOwner desired ∧
          owning = changingOwner desired previous
            ((Policy.resolveOwner desired).on (last.close.on t).2).1) ∧
      (∀ fault, ((policy.update resourceId desired compute).on s).1 ≠ .error (.columns fault)) ∧
      ∀ statements, ((policy.update resourceId desired compute).on s).1 = .ok statements →
        statements = plan ∧ ∀ x ∈ executions, x.Succeeded := by
  have hjournal := Executor.journal_close last t
  rcases hclose : last.close.on t with ⟨⟨failure | ⟨⟩, closed⟩, u⟩ <;> rw [hclose] at hjournal
  · -- closing fails
    have hupdate : (policy.update resourceId desired compute).on s = (.error (.call failure), u) :=
      Operation.on_run_of_unclosed (.update resourceId desired) h hclose
    rw [hupdate]
    exact ⟨[], [], by simpa using hjournal, .inl ⟨rfl, rfl⟩, nofun, nofun⟩
  · have hrun : (policy.update resourceId desired compute).on s = _ :=
      Operation.on_run_of_closed (.update resourceId desired) h hclose
    cases hverdict : Execution.verdict executions with
    | error fault =>
        rw [hverdict] at hrun
        rw [hrun]
        refine ⟨[], [], by simpa using hjournal, .inl ⟨rfl, rfl⟩, fun refusal h => ?_, nofun⟩
        cases h
        exact Execution.verdict_ne_columns executions refusal hverdict
    | ok _ =>
        rw [hverdict] at hrun
        have hall := Execution.verdict_eq_ok_iff.mp hverdict
        have howner := Policy.journal_adjustOwner desired previous u
        have hfails := Policy.fails_adjustOwner desired previous u
        refine ⟨identifyingOwner desired,
          changingOwner desired previous ((Policy.resolveOwner desired).on u).1, ?_⟩
        rcases hadjust : (Policy.adjustOwner desired previous).on u with ⟨fault | ⟨⟩, v⟩ <;>
          rw [hadjust] at howner hfails
        · rw [hrun.trans (Action.on_bind_of_error hadjust)]
          refine ⟨by rw [← hjournal]; exact howner, .inr ⟨hall, rfl, rfl, rfl⟩,
            fun refusal h => ?_, nofun⟩
          cases h
          rcases hfails _ rfl with h | ⟨failure, h⟩ <;> cases h
        · rw [hrun.trans (Action.on_bind_of_ok hadjust)]
          refine ⟨by rw [← hjournal]; exact howner, .inr ⟨hall, rfl, rfl, rfl⟩, nofun,
            fun statements h => ?_⟩
          cases h
          exact ⟨rfl, hall⟩

/-- With statements an update goes on to their executions, to closing the executor, and to the
owner. -/
theorem of_executed {plan : List String} {previous : TableSpec} {executions : List Execution}
    {last : Executor} {t : Session σ}
    (h : policy.Executed compute (policy.prepareUpdate resourceId desired) s plan previous
      executions last t) :
    ∃ trace, Of policy resourceId desired compute s trace plan executions := by
  have hplanned := h.planned
  obtain ⟨identifying, owning, hjournal, howner, hne, hreturned⟩ := on_update_of_executed h
  obtain @⟨executor, u, v, hopen, hprepare, hexecute⟩ := id h
  obtain ⟨provisioning, opening, hopened, hprovisioning, hopening, hunprovisioned⟩ :=
    journal_openExecutor policy compute s
  obtain ⟨reading, hread, hreading, hrequests⟩ :=
    Policy.journal_prepareUpdate policy resourceId desired u
  obtain ⟨executing, hexecuting, hexecuted⟩ :=
    Executor.journal_executions plan.length 1 executor plan v
  rw [hopen] at hopened hunprovisioned
  rw [hprepare] at hread
  rw [hexecute] at hexecuting hexecuted
  have hwithin : (∀ event ∈ identifying, event.Within .identifying) ∧
      ∀ event ∈ owning, event.Within .owning := by
    rcases howner with ⟨rfl, rfl⟩ | ⟨-, -, rfl, rfl⟩
    · exact ⟨List.forall_mem_nil _, List.forall_mem_nil _⟩
    · exact Policy.within_owner desired previous _
  have hstaged : Staged { provisioning, opening, reading, executing, identifying, owning
                          closing := last.release } :=
    ⟨hprovisioning, hopening, hreading, hexecuting.within, last.within_release, hwithin.1,
      hwithin.2⟩
  refine ⟨_, {
    journal := ?_
    staged := hstaged
    executing := hexecuting
    unprovisioned := fun fault w hresolve => nomatch (hunprovisioned fault w hresolve).1
    unopened := fun fault w hfault => nomatch hopen.symm.trans hfault
    unprepared := fun executor' u' fault w hopened hfault => ?_
    unexecuted := fun x hx hfailed => ?_
    unclosed := fun previous' last' t' failure h' hfailed => ?_
    unidentified := fun previous' last' t' fault h' hfailed => ?_
    read := fun _ _ _ => hrequests
    closed := fun _ _ _ => ⟨⟨last, rfl⟩, hstaged.count_closed.trans last.count_closed_release⟩
    prepared := fun _ => ⟨hplanned, previous, last, t, h⟩
    plan_eq := fun statements hstatements => ?_
    cut := h.cut
    refused := fun fault hfault => absurd hfault (hne fault)
    returned := fun statements hstatements => ?_
    owner := ?_ }⟩
  · rw [hjournal, hexecuted, hread, hopened]
    simp [events]
  · rw [hopen] at hopened
    cases hopened
    rw [hprepare] at hfault
    cases hfault
  · rcases howner with ⟨rfl, rfl⟩ | ⟨hall, -⟩
    · simp [events]
    · exact absurd (hall x hx) hfailed
  · obtain ⟨-, -, -, rfl, rfl⟩ := h.unique h'
    rcases howner with ⟨rfl, rfl⟩ | ⟨-, hclosed, -⟩
    · simp [events]
    · rw [hclosed] at hfailed
      cases hfailed
  · obtain ⟨-, -, -, rfl, rfl⟩ := h.unique h'
    rcases howner with ⟨-, rfl⟩ | ⟨-, -, -, rfl⟩
    · rfl
    · rw [hfailed]
      rfl
  · obtain ⟨executor', previous', u', v', hopen', hprepare'⟩ := hstatements.prepared
    rw [hopen] at hopen'
    cases hopen'
    rw [hprepare] at hprepare'
    cases hprepare'
    rfl
  · obtain ⟨rfl, hall⟩ := hreturned statements hstatements
    exact ⟨rfl, hplanned, h.cut.map_eq hall, hall⟩
  · exact howner.imp_right fun ⟨hall, hclosed, hstep⟩ =>
      ⟨previous, last, t, h, hall, hclosed, hstep⟩

/-- Every update has a trace. -/
theorem exists_of_update (policy : Policy) (resourceId : String) (desired : TableSpec τ)
    (compute : ComputeChoice) (s : Session σ) :
    ∃ trace plan executions, Of policy resourceId desired compute s trace plan executions := by
  rcases Policy.perform_cases policy compute (policy.prepareUpdate resourceId desired) s with
    ⟨fault, t, hopen⟩ | ⟨executor, fault, t, u, hopen, hprepare⟩ |
    ⟨plan, previous, executions, last, t, h⟩
  · obtain ⟨trace, htrace⟩ := of_unopened resourceId desired hopen
    exact ⟨trace, [], [], htrace⟩
  · obtain ⟨trace, htrace⟩ := of_unprepared hopen hprepare
    exact ⟨trace, [], [], htrace⟩
  · obtain ⟨trace, htrace⟩ := of_executed h
    exact ⟨trace, plan, executions, htrace⟩

/-! ## A declared owner -/

/-- The record of an empty table that belongs to someone. -/
def ordersRecord : Catalog.TableRecord where
  name := ⟨"main", "sales", "orders"⟩
  type := some "MANAGED"
  format := some "DELTA"
  owner := .text "ops"

/-- The requests of updating that table on a warehouse so that it belongs to someone else. -/
def ordersRequests : List Request :=
  let desired := { TableSpec.ofColumns [] with owner := .text "data" }
  let workspace : InMemory := { tables := [("main.sales.orders", ordersRecord)] }
  requests ((Policy.update {} "main.sales.orders" desired { warehouseId := some "w1" }).on
    ⟨workspace, []⟩).2.journal

/-- Requests that start with one of another stage have none of this stage before. -/
theorem eq_nil_of_initial {r : Request} {rest before after : List Request} {stages : List Stage}
    (h : r :: rest <+: before ++ after) (hbefore : ∀ x ∈ before, x.stage ∈ stages)
    (hr : r.stage ∉ stages) : before = [] := by
  cases before with
  | nil => rfl
  | cons x later =>
      obtain ⟨rfl, -⟩ := List.cons_prefix_cons.mp h
      exact absurd (hbefore r List.mem_cons_self) hr

/-- An owner that is declared is set without looking up the current user, so that the requests are
not the first of a sequence in which that comes before. -/
theorem ordersRequests_eq :
    ordersRequests =
      [.getTable "main.sales.orders", .setOwner "main.sales.orders" (.text "data")] ∧
    ∀ (provisioning executing closing : List Request) (owner : Value),
      (∀ r ∈ provisioning, r.stage ∈ [.provisioning, .opening]) →
      (∀ r ∈ executing, r.stage ∈ [.executing]) → (∀ r ∈ closing, r.stage ∈ [.closing]) →
      ¬ordersRequests <+: provisioning ++ [.getTable "main.sales.orders"] ++ executing ++ closing ++
        [.currentUser, .setOwner "main.sales.orders" owner] := by
  have heq : ordersRequests =
      [.getTable "main.sales.orders", .setOwner "main.sales.orders" (.text "data")] := by
    decide +kernel
  refine ⟨heq, fun provisioning executing closing owner hprovisioning hexecuting hclosing => ?_⟩
  rw [heq]
  intro h
  simp only [List.append_assoc, List.cons_append, List.nil_append] at h
  obtain rfl := eq_nil_of_initial h hprovisioning (by decide)
  obtain ⟨-, h⟩ := List.cons_prefix_cons.mp (List.nil_append _ ▸ h)
  obtain rfl := eq_nil_of_initial h hexecuting (by decide)
  rw [List.nil_append] at h
  obtain rfl := eq_nil_of_initial h hclosing (by decide)
  obtain ⟨hfirst, -⟩ := List.cons_prefix_cons.mp (List.nil_append _ ▸ h)
  cases hfirst

end UpdateTrace

end TableReconciler
