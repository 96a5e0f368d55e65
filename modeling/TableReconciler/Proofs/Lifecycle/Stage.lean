import TableReconciler.Lifecycle
import TableReconciler.Proofs.Executor.Executions
import TableReconciler.Proofs.Workspace.Exchange

/-!
# The stages of an operation

Every request belongs to one stage of an operation, and so do the two events in the life of an
executor; notices belong to none.  For the parts that all operations are made of it is said which
events they add to the journal:

* finding compute comes to events of its own stage only (`accounts_resolve`), and so does building
  an executor (`accounts_build`);
* closing is one event, followed by the release of what is held open (`journal_close`);
* reading asks once for the object, unless its name is malformed (`Catalog.after_readNamed`).
-/

namespace TableReconciler

/-- The stages of an operation, in their order; connecting is no part of an operation. -/
inductive Stage where
  /-- Compute is found. -/
  | provisioning
  /-- The executor is built. -/
  | opening
  /-- The previous description is read. -/
  | reading
  /-- Statements are executed. -/
  | executing
  /-- The executor is closed. -/
  | closing
  /-- The current user is looked up. -/
  | identifying
  /-- The owner is set. -/
  | owning
  /-- A connection to the workspace is made. -/
  | connecting
  deriving DecidableEq, Repr

/-- The stage that a request belongs to. -/
def Request.stage : Request → Stage
  | .ensureRunning _ | .listClusters | .selectSparkVersion _ | .selectNodeType _
  | .createCluster _ => .provisioning
  | .localSession => .opening
  | .getTable _ => .reading
  | .executeOnWarehouse _ _ _ | .createContext _ | .executeInContext _ _ _ | .localQuery _
  | .localCollect => .executing
  | .destroyContext _ _ => .closing
  | .currentUser => .identifying
  | .setOwner _ _ => .owning
  | .loadCredentials _ | .connect _ _ => .connecting

/-- An event belongs to a stage: it is a request or another event of the stage, or a notice. -/
def Event.Within (stage : Stage) : Event → Prop
  | .request r => r.stage = stage
  | .notice _ => True
  | .opened _ => stage = .opening
  | .closed => stage = .closing

/-- The requests among events. -/
def requests (events : List Event) : List Request :=
  events.filterMap Event.request?

@[simp] theorem requests_append (before after : List Event) :
    requests (before ++ after) = requests before ++ requests after :=
  List.filterMap_append

/-- The events of executions belong to executing. -/
theorem Execution.Journal.within {total index : Nat} {executions : List Execution}
    {events : List Event} (h : Execution.Journal total index executions events) :
    ∀ event ∈ events, event.Within .executing := by
  induction h with
  | nil _ => nofun
  | @cons index execution requests later events hhandover _ ih =>
      have hrequests : ∀ event ∈ requests.map Event.request, event.Within .executing := by
        cases hhandover <;> simp [Event.Within, Request.stage]
      have hfailure : ∀ event ∈ Execution.failureNotice total index execution,
          event.Within .executing := by
        unfold Execution.failureNotice
        split <;> simp [Event.Within]
      exact List.forall_mem_append.mpr ⟨List.forall_mem_cons.mpr ⟨trivial, hrequests⟩,
        List.forall_mem_append.mpr ⟨hfailure, ih⟩⟩

/-- Only the closing stage closes an executor. -/
theorem count_closed_eq_zero {stage : Stage} {events : List Event}
    (h : ∀ event ∈ events, event.Within stage) (hstage : stage ≠ .closing) :
    events.count .closed = 0 :=
  List.count_eq_zero.mpr fun hmem => hstage (h _ hmem)

variable {σ : Type} [Workspace σ]

/-! ## Finding compute -/

/-- A request on the way to a cluster belongs to provisioning. -/
theorem accounts_clusterCall {r : Request} (h : r.stage = .provisioning) :
    (clusterCall r : Action σ r.Reply).Accounts (Event.Within .provisioning) := by
  unfold clusterCall
  refine .bind (.attempt h) fun answer => ?_
  cases answer with
  | ok reply => exact .pure reply
  | error failure => exact .throw _

/-- Creating the default cluster belongs to provisioning. -/
theorem accounts_create (default : DefaultCluster) :
    (default.create : Action σ String).Accounts (Event.Within .provisioning) := by
  unfold DefaultCluster.create
  refine .bind (.announce trivial) fun _ => .bind (accounts_clusterCall rfl) fun version =>
    .bind (accounts_clusterCall rfl) fun nodeType => .bind (accounts_clusterCall rfl) fun id => ?_
  cases id with
  | some id => exact .pure id
  | none => exact .throw _

/-- Obtaining the default cluster belongs to provisioning. -/
theorem accounts_obtain (default : DefaultCluster) :
    (default.obtain : Action σ String).Accounts (Event.Within .provisioning) := by
  unfold DefaultCluster.obtain
  refine .bind (accounts_clusterCall rfl) fun clusters => ?_
  split
  next id cluster _ =>
    dsimp only
    split
    · exact .bind (accounts_clusterCall rfl) fun _ => .pure id
    · exact .pure id
  next => exact accounts_create default

/-- Starting a cluster, or another in its place, belongs to provisioning. -/
theorem accounts_startOrReplace (default : DefaultCluster) (id : String) :
    (default.startOrReplace id : Action σ String).Accounts (Event.Within .provisioning) := by
  unfold DefaultCluster.startOrReplace
  refine .bind (.attempt rfl) fun answer => ?_
  cases answer with
  | ok _ => exact .pure id
  | error failure =>
      dsimp only
      split
      · exact .bind (.announce trivial) fun _ => accounts_obtain default
      · exact .throw _

/-- Finding compute belongs to provisioning. -/
theorem accounts_resolve (choice : ComputeChoice) (default : DefaultCluster) :
    (choice.resolve default : Action σ ComputeTarget).Accounts (Event.Within .provisioning) := by
  unfold ComputeChoice.resolve
  split
  · exact .pure _
  · split
    · exact .bind (accounts_startOrReplace default _) fun _ => .pure _
    · exact .pure _
    · exact .bind (accounts_obtain default) fun _ => .pure _

/-! ## Building and closing an executor -/

/-- Building an executor belongs to opening. -/
theorem accounts_build (target : ComputeTarget) (waitSeconds : Int) :
    (Executor.build target waitSeconds : Action σ Executor).Accounts (Event.Within .opening) := by
  have hopen : ∀ executor, Action.Accounts (Event.Within .opening)
      (do ExceptT.lift (record (.opened target)); return executor : Action σ Executor) :=
    fun executor => .bind (.opened rfl) fun _ => .pure executor
  unfold Executor.build
  dsimp only
  split
  · exact .bind (.call rfl) fun _ => .bind (.pure _) hopen
  · split
    · exact .bind (.pure _) hopen
    · exact .bind (.pure _) hopen
    · exact .bind (.throw _) hopen

namespace Executor

/-- The execution context that an executor holds open, and the cluster it is on. -/
def context? : Executor → Option (String × String)
  | .cluster id (some context) => some (id, context)
  | _ => none

/-- An executor that was just built holds nothing open. -/
theorem context?_of_build {target : ComputeTarget} {waitSeconds : Int} {executor : Executor}
    {s t : Session σ} (h : (build target waitSeconds).on s = (.ok executor, t)) :
    executor.context? = none := by
  unfold build at h
  dsimp only at h
  split at h
  next =>
    rcases hcall : (call .localSession : Action σ Unit).on s with ⟨fault | ⟨⟩, u⟩
    · rw [Action.on_bind_of_error hcall] at h
      cases h
    · rw [Action.on_bind_of_ok hcall] at h
      cases h
      rfl
  next =>
    split at h <;> cases h <;> rfl

/-- The events by which an executor releases what it holds. -/
def release (executor : Executor) : List Event :=
  .closed :: (executor.context?.map fun (id, context) =>
    Event.request (.destroyContext id context)).toList

/-- An executor that holds nothing open has nothing to release. -/
theorem release_of_context?_eq_none {executor : Executor} (h : executor.context? = none) :
    executor.release = [.closed] := by
  rw [release, h]
  rfl

/-- An executor that holds nothing open is closed without fail. -/
theorem close_of_context?_eq_none {executor : Executor} (h : executor.context? = none)
    (s : Session σ) : (executor.close.on s).1.1 = .ok () := by
  match executor with
  | .localEngine => rfl
  | .warehouse _ _ => rfl
  | .cluster _ none => rfl

/-- Closing says so, and destroys the execution context if one is open. -/
theorem journal_close (executor : Executor) (s : Session σ) :
    (executor.close.on s).2.journal = s.journal ++ executor.release := by
  match executor with
  | .localEngine => rfl
  | .warehouse _ _ => rfl
  | .cluster _ none => rfl
  | .cluster id (some context) =>
      simp only [close, Step.on_bind]
      split <;> exact List.append_assoc _ _ _

theorem within_release (executor : Executor) :
    ∀ event ∈ executor.release, event.Within .closing := by
  intro event hevent
  rcases List.mem_cons.mp hevent with rfl | hevent
  · rfl
  · obtain ⟨_, -, rfl⟩ := Option.map_eq_some_iff.mp (Option.mem_toList.mp hevent)
    rfl

theorem count_closed_release (executor : Executor) : executor.release.count .closed = 1 := by
  cases h : executor.context? <;> simp [release, h]

end Executor

/-! ## Reading -/

namespace Catalog

/-- The events of reading an object: it is asked for once, unless its name is malformed. -/
def reading (fullName : String) : List Event :=
  if (QualifiedName.parse? fullName).isSome then [.request (.getTable fullName)] else []

/-- Reading leads to the session after its events. -/
theorem after_readNamed (fullName : List Text.CodePoint) (s : Session σ) :
    ((readNamed fullName).on s).2 = s.after (reading (Text.written fullName)) := by
  simp only [readNamed, reading]
  -- the type of the reply depends on the text, so the text is replaced by a name as a whole
  generalize Text.written fullName = text
  cases QualifiedName.parse? text with
  | none => rfl
  | some name => exact Action.after_call_bind (fun record t => by rw [Action.on_lift]) s

end Catalog

/-- Reading asks once for the object; for a malformed name it asks for nothing. -/
theorem journal_readTable (fullName : String) (s : Session σ) :
    ((Catalog.readTable fullName).on s).2.journal = s.journal ++
      if (QualifiedName.parse? fullName).isSome then [.request (.getTable fullName)] else [] := by
  rw [Catalog.readTable, Catalog.after_readNamed, Session.journal_after, Text.written_codePoints,
    Catalog.reading]

end TableReconciler
