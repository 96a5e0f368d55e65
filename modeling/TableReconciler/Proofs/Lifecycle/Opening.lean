import TableReconciler.Proofs.Columns.Effect
import TableReconciler.Proofs.Compute.Target
import TableReconciler.Proofs.Lifecycle.Owner

/-!
# Opening an executor

Compute is found and an executor is built for it before anything else is done.  That a target states
nothing to run on is a fault of building the executor alone: `fails_resolve`,
`Operation.fails_prepare` and `Operation.fails_finish` say in which faults the other parts of an
operation can end.  So an operation ends in it exactly when opening its executor does
(`Operation.on_run_eq_emptyTarget_iff`), and that is exactly when compute is resolved to the cluster
whose identifier is empty (`Policy.on_openExecutor_eq_emptyTarget_iff`).
-/

namespace TableReconciler

variable {σ : Type} [Workspace σ] {s : Session σ}

/-! ## Faults -/

/-- A fault of finding compute: there is none, or a request failed. -/
def ComputeFault (fault : Fault) : Prop :=
  (∃ reason, fault = .provisioning reason) ∨ ∃ failure, fault = .call failure

/-- A failed request on the way to a cluster amounts to such a fault. -/
theorem computeFault_provisioningFault (failure : CallFailure) :
    ComputeFault (provisioningFault failure) := by
  unfold provisioningFault
  split
  · exact .inl ⟨_, rfl⟩
  · exact .inr ⟨_, rfl⟩

/-- A request on the way to a cluster ends in no other fault. -/
theorem fails_clusterCall (r : Request) :
    (clusterCall r : Action σ r.Reply).Fails ComputeFault := by
  unfold clusterCall
  refine .bind (.attempt r) fun answer => ?_
  cases answer with
  | ok reply => exact .pure reply
  | error failure => exact .throw (computeFault_provisioningFault failure)

/-- Nor does creating the default cluster. -/
theorem fails_create (default : DefaultCluster) :
    (default.create : Action σ String).Fails ComputeFault := by
  unfold DefaultCluster.create
  refine .bind (.announce _) fun _ => .bind (fails_clusterCall _) fun version =>
    .bind (fails_clusterCall _) fun nodeType => .bind (fails_clusterCall _) fun id => ?_
  cases id with
  | some id => exact .pure id
  | none => exact .throw (.inl ⟨_, rfl⟩)

/-- Nor does obtaining the default cluster. -/
theorem fails_obtain (default : DefaultCluster) :
    (default.obtain : Action σ String).Fails ComputeFault := by
  unfold DefaultCluster.obtain
  refine .bind (fails_clusterCall _) fun clusters => ?_
  split
  next id cluster _ =>
    dsimp only
    split
    · exact .bind (fails_clusterCall _) fun _ => .pure id
    · exact .pure id
  next => exact fails_create default

/-- Nor does starting a cluster, or another in its place. -/
theorem fails_startOrReplace (default : DefaultCluster) (id : String) :
    (default.startOrReplace id : Action σ String).Fails ComputeFault := by
  unfold DefaultCluster.startOrReplace
  refine .bind (.attempt _) fun answer => ?_
  cases answer with
  | ok _ => exact .pure id
  | error failure =>
      dsimp only
      split
      · exact .bind (.announce _) fun _ => fails_obtain default
      · exact .throw (computeFault_provisioningFault failure)

/-- Nor does resolving a choice. -/
theorem fails_resolve (choice : ComputeChoice) (default : DefaultCluster) :
    (choice.resolve default : Action σ ComputeTarget).Fails ComputeFault := by
  unfold ComputeChoice.resolve
  split
  · exact .pure _
  · split
    · exact .bind (fails_startOrReplace default _) fun _ => .pure _
    · exact .pure _
    · exact .bind (fails_obtain default) fun _ => .pure _

namespace Operation

variable {τ : Type} [Entry τ] {policy : Policy} {compute : ComputeChoice}

/-- Preparing statements never ends in the fault that a target states nothing. -/
theorem fails_prepare (op : Operation τ) (policy : Policy) :
    (op.prepare policy : Action σ _).Fails (· ≠ .emptyTarget) := by
  cases op with
  | create desired =>
      exact .bind (.lift (fun _ => nofun) _) fun kind => .bind (.announce _) fun _ =>
        .bind (.lift (fun _ => nofun) _) fun statement => .pure _
  | drop desired =>
      exact .bind (.lift (fun _ => nofun) _) fun kind => .bind (.announce _) fun _ =>
        .bind (.lift (fun _ => nofun) _) fun statement => .pure _
  | update resourceId desired =>
      have hread : (Catalog.readTable resourceId : Action σ _).Fails (· ≠ .emptyTarget) := by
        unfold Catalog.readTable Catalog.readNamed
        dsimp only
        split
        · exact .throw nofun
        · exact .bind (.call _ fun _ => nofun) fun record => .lift (fun _ => nofun) _
      exact .bind hread fun previous => .bind (.lift (fun _ => nofun) _) fun reconciled =>
        .bind (.lift (fun _ => nofun) _) fun _ => .bind (.lift (fun _ => nofun) _) fun statements =>
        .bind (.announce _) fun _ => .pure _

/-- What is left to do after the statements ends in no other fault than setting the owner does. -/
theorem fails_finish (op : Operation τ) (statements : List String) (carried : op.Carried) :
    (op.finish statements carried : Action σ op.Answer).Fails Policy.OwnerFault := by
  cases op with
  | drop desired => exact .pure ()
  | update resourceId desired =>
      exact .bind (Policy.fails_adjustOwner desired carried) fun _ => .pure _
  | create desired =>
      refine .bind (Policy.fails_resolveOwner desired) fun owner => ?_
      cases owner with
      | none => exact .pure desired.name.format
      | some owner => exact .bind (Policy.fails_setOwner desired owner) fun _ => .pure _

/-- An operation ends in the fault that a target states nothing exactly when opening its executor
does. -/
theorem on_run_eq_emptyTarget_iff (op : Operation τ) :
    ((op.run policy compute).on s).1 = .error .emptyTarget ↔
      ((policy.openExecutor compute).on s).1 = .error .emptyTarget := by
  rcases Policy.perform_cases policy compute (op.prepare policy) s with
    ⟨fault, t, hopen⟩ | ⟨executor, fault, t, u, hopen, hprepare⟩ |
    ⟨statements, carried, executions, last, t, hexecuted⟩
  · rw [on_run_of_error op (Policy.on_perform_of_unopened hopen), hopen]
    simp only [Except.error.injEq]
  · rw [on_run_of_error op (Policy.on_perform_of_unprepared hopen hprepare), hopen]
    refine iff_of_false (fun h => ?_) nofun
    cases h
    exact fails_prepare op policy t _ (congrArg Prod.fst hprepare) rfl
  · have ⟨hopen, _, _⟩ := hexecuted
    rw [hopen]
    refine iff_of_false (fun h => ?_) nofun
    rcases hclose : last.close.on t with ⟨⟨failure | ⟨⟩, closed⟩, u⟩
    · rw [on_run_of_unclosed op hexecuted hclose] at h
      cases h
    · rw [on_run_of_closed op hexecuted hclose] at h
      split at h
      · rcases fails_finish op statements carried u _ h with hfault | ⟨_, hfault⟩ <;> cases hfault
      next fault hverdict =>
        cases h
        rcases Execution.eq_of_verdict hverdict with ⟨_, _, hfault⟩ | ⟨_, hfault⟩ <;> cases hfault

end Operation

/-! ## Opening an executor -/

section Opening

variable {compute : ComputeChoice}

/-- Opening an executor ends in the fault that a target states nothing exactly when compute is
resolved to the cluster whose identifier is empty. -/
theorem Policy.on_openExecutor_eq_emptyTarget_iff (h : compute.Accepted) (policy : Policy) :
    ((policy.openExecutor compute).on s).1 = .error .emptyTarget ↔
      ((compute.resolve policy.defaultCluster).on s).1 = .ok .unnamed := by
  obtain ⟨events, -, hresolved⟩ := ComputeChoice.ends_resolve h policy.defaultCluster s
  unfold openExecutor
  rcases hresolve : (compute.resolve policy.defaultCluster : Action σ _).on s
    with ⟨fault | target, t⟩ <;> rw [hresolve] at hresolved
  · rw [Action.on_bind_of_error hresolve]
    refine iff_of_false (fun hfault => ?_) nofun
    cases hfault
    rcases fails_resolve compute policy.defaultCluster s _ (congrArg Prod.fst hresolve) with
      ⟨_, hfault⟩ | ⟨_, hfault⟩ <;> cases hfault
  · rw [Action.on_bind_of_ok hresolve]
    by_cases htold : ∃ x ∈ s.exchanges events, policy.defaultCluster.Told "" x
    · obtain rfl := (hresolved.eq_unnamed_iff h).mpr htold
      exact iff_of_true rfl rfl
    · obtain ⟨executor, hrunBy⟩ := hresolved.runBy h htold policy.settings.waitSeconds
      refine iff_of_false (fun hbuild => ?_) fun htarget => ?_
      · rcases Executor.build_of_runBy hrunBy t with hok | ⟨-, failure, -, herror⟩
        · cases hok.symm.trans hbuild
        · cases herror.symm.trans hbuild
      · cases htarget
        exact htold ((hresolved.eq_unnamed_iff h).mp rfl)

/-- What resolving an accepted choice means for the executor and for every operation.

* Unless the workspace told an empty identifier for the default cluster, the target states exactly
  one thing to run on, and the executor for just that is built.  Only the session of the local query
  engine can fail.
* If it told one, the target is the cluster with the empty identifier, and no executor is built.
* That is the only way in which an operation ends in the fault that a target states nothing. -/
theorem opened_of_accepted (τ : Type) [Entry τ] (h : compute.Accepted) (policy : Policy)
    (s : Session σ) :
    ∃ events, ((compute.resolve policy.defaultCluster).on s).2 = s.after events ∧
      let told := ∃ x ∈ s.exchanges events, policy.defaultCluster.Told "" x
      (∀ target t, (compute.resolve policy.defaultCluster).on s = (.ok target, t) → ¬ told →
        ∃ executor, target.RunBy policy.settings.waitSeconds executor ∧
          let built := (Executor.build target policy.settings.waitSeconds).on t
          (built.1 = .ok executor ∨ target.localEngine ∧ ∃ failure,
            ((ask .localSession).on t).1 = .error failure ∧ built.1 = .error (.call failure))) ∧
      (∀ target t, (compute.resolve policy.defaultCluster).on s = (.ok target, t) → told →
        target = .unnamed ∧
          (Executor.build target policy.settings.waitSeconds).on t = (.error .emptyTarget, t)) ∧
      ∀ op : Operation τ, ((op.run policy compute).on s).1 = .error .emptyTarget ↔
        told ∧ ∃ target t, (compute.resolve policy.defaultCluster).on s = (.ok target, t) := by
  obtain ⟨events, hafter, hresolved⟩ := ComputeChoice.ends_resolve h policy.defaultCluster s
  refine ⟨events, hafter, fun target t hresolve htold => ?_, fun target t hresolve htold => ?_,
    fun op => ?_⟩
  · rw [hresolve] at hresolved
    obtain ⟨executor, hrunBy⟩ := hresolved.runBy h htold policy.settings.waitSeconds
    exact ⟨executor, hrunBy, Executor.build_of_runBy hrunBy t⟩
  · rw [hresolve] at hresolved
    obtain rfl := (hresolved.eq_unnamed_iff h).mpr htold
    exact ⟨rfl, Executor.build_unnamed _ t⟩
  · rw [op.on_run_eq_emptyTarget_iff, Policy.on_openExecutor_eq_emptyTarget_iff h]
    rcases hresolve : (compute.resolve policy.defaultCluster : Action σ _).on s
      with ⟨fault | target, t⟩ <;> rw [hresolve] at hresolved
    · exact iff_of_false nofun fun ⟨_, _, _, hresolve⟩ => by cases hresolve
    · rw [← hresolved.eq_unnamed_iff h]
      constructor
      · intro htarget
        cases htarget
        exact ⟨rfl, _, _, rfl⟩
      · rintro ⟨rfl, -⟩
        rfl

/-- Nothing is chosen, and the cluster that is created tells its identifier: it is the target. -/
theorem opened_of_created :
    let policy : Policy := {}
    let s : Session InMemory := { workspace := {} }
    let target : ComputeTarget := { clusterId := some "new-cluster" }
    let resolution := (ComputeChoice.resolve {} policy.defaultCluster).on s
    ComputeChoice.Accepted {} ∧
    resolution.1 = .ok target ∧
    (∃ executor, target.RunBy policy.settings.waitSeconds executor ∧
      ((Executor.build target policy.settings.waitSeconds).on resolution.2).1 = .ok executor) ∧
    ∀ op : Operation String, ((op.run policy {}).on s).1 ≠ .error .emptyTarget := by
  intro policy s target resolution
  have haccepted : ComputeChoice.Accepted {} := by decide
  have hresolve : (ComputeChoice.resolve {} policy.defaultCluster).on s =
      (.ok target, resolution.2) := rfl
  obtain ⟨events, -, hopened, hunnamed, hrun⟩ := opened_of_accepted String haccepted policy s
  have htold : ¬ ∃ x ∈ s.exchanges events, policy.defaultCluster.Told "" x :=
    fun htold => absurd (hunnamed target resolution.2 hresolve htold).1 (by decide)
  obtain ⟨executor, hrunBy, hbuilt | ⟨hlocal, -⟩⟩ := hopened target resolution.2 hresolve htold
  · exact ⟨haccepted, rfl, ⟨executor, hrunBy, hbuilt⟩, fun op hfault =>
      htold ((hrun op).mp hfault).1⟩
  · cases hlocal

/-- A workspace may tell an empty identifier, for a cluster that it created or for one that it
lists.  Then compute is resolved, but no executor is built for it, and operations end in the fault
that a target states nothing. -/
theorem emptyTarget_of_unnamed :
    let policy : Policy := {}
    let creating : Session InMemory := { workspace := { createdId := some "" } }
    let listing : Session InMemory :=
      { workspace := { clusters := [⟨some "", some policy.settings.clusterName, some "RUNNING"⟩] } }
    let op : Operation String := .create (TableSpec.ofColumns [])
    ComputeChoice.Accepted {} ∧
    ∀ s ∈ [creating, listing],
      let resolution := (ComputeChoice.resolve {} policy.defaultCluster).on s
      resolution.1 = .ok { clusterId := some "" } ∧
      ((Executor.build { clusterId := some "" } policy.settings.waitSeconds).on resolution.2).1 =
        .error .emptyTarget ∧
      ((op.run policy {}).on s).1 = .error .emptyTarget := by
  refine ⟨by decide, ?_⟩
  simp only [List.forall_mem_cons]
  exact ⟨⟨rfl, rfl, rfl⟩, ⟨rfl, rfl, rfl⟩, nofun⟩

end Opening

end TableReconciler
