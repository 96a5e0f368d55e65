import TableReconciler.Proofs.Compute.Default
import TableReconciler.Workspace.InMemory

/-!
# What a choice of compute comes to

An accepted choice takes one of four routes: the local query engine and a warehouse are taken as
they are, a cluster is started, and without a choice the default cluster is obtained.  A cluster
that is gone leads to the default cluster as well, and this is the one failure after which more is
asked.

`ComputeChoice.Resolved` says what each route comes to in exchanges with the workspace and in the
outcome, `ComputeChoice.ends_resolve` that this is what happens, whatever the workspace answers.
-/

namespace TableReconciler

variable {σ : Type} [Workspace σ]

/-! ## Starting a cluster, or another in its place -/

namespace DefaultCluster

variable {default : DefaultCluster} {id : String}

/-- The exchanges by which a chosen cluster or the default cluster is obtained, and the outcome.
The chosen cluster is started first. -/
inductive Replacement (default : DefaultCluster) (id : String) :
    List Exchange → Except Fault String → Prop
  /-- The chosen cluster runs. -/
  | started : Replacement default id [⟨.ensureRunning id, .ok ()⟩] (.ok id)
  /-- The chosen cluster is not found, and the default cluster takes its place. -/
  | gone {later : List Exchange} {outcome : Except Fault String} (failure : CallFailure)
      (hkind : failure.kind.isNotFound) (h : default.Obtained later outcome) :
      Replacement default id (⟨.ensureRunning id, .error failure⟩ :: later) outcome
  /-- The chosen cluster cannot be started for another reason. -/
  | failed (failure : CallFailure) (hkind : ¬ failure.kind.isNotFound) :
      Replacement default id [⟨.ensureRunning id, .error failure⟩]
        (.error (provisioningFault failure))

/-- Starting a cluster or taking the default cluster is a replacement. -/
theorem ends_startOrReplace (default : DefaultCluster) (id : String) :
    (default.startOrReplace id : Action σ String).Ends (default.Replacement id) := by
  unfold startOrReplace
  refine .attempt_bind fun answer => ?_
  cases answer with
  | ok _ => exact .pure .started
  | error failure =>
      dsimp only
      split <;> rename_i hkind
      · exact .announce_bind (default.ends_obtain.imp fun _ _ => .gone failure hkind)
      · exact .throw (.failed failure hkind)

/-- The request that fails is the last, unless it is the start of a cluster that is gone. -/
theorem Replacement.eq_of_failed {xs earlier later : List Exchange} {x : Exchange}
    {failure : CallFailure} {outcome : Except Fault String}
    (h : default.Replacement id xs outcome) (hxs : xs = earlier ++ x :: later)
    (hx : x.answer = .error failure) (hstays : ¬ (earlier = [] ∧ failure.kind.isNotFound)) :
    later = [] ∧ outcome = .error (provisioningFault failure) := by
  cases h with
  | started => exact (UpToFailure.next (.ensureRunning id) () (.done _)).eq_of_failed hxs hx
  | failed failure' _ => exact (UpToFailure.failed _ failure').eq_of_failed hxs hx
  | gone failure' hkind hobtained =>
      rcases List.cons_eq_append_iff.mp hxs with ⟨rfl, hcons⟩ | ⟨rest, rfl, hrest⟩
      · cases hcons
        cases hx
        exact absurd ⟨rfl, hkind⟩ hstays
      · exact hobtained.upToFailure.eq_of_failed hrest hx

end DefaultCluster

namespace ComputeChoice

variable {choice : ComputeChoice} {default : DefaultCluster}

/-! ## The routes -/

/-- What one choice can be. -/
inductive Route (choice : ComputeChoice) : Prop
  /-- The local query engine is chosen. -/
  | localEngine (hlocal : choice.localEngine = true) (hcluster : nonEmpty? choice.clusterId = none)
      (hwarehouse : nonEmpty? choice.warehouseId = none)
  /-- A cluster is chosen. -/
  | cluster (id : String) (hlocal : choice.localEngine = false)
      (hcluster : nonEmpty? choice.clusterId = some id)
      (hwarehouse : nonEmpty? choice.warehouseId = none)
  /-- A warehouse is chosen. -/
  | warehouse (id : String) (hlocal : choice.localEngine = false)
      (hcluster : nonEmpty? choice.clusterId = none)
      (hwarehouse : nonEmpty? choice.warehouseId = some id)
  /-- Nothing is chosen. -/
  | unchosen (hlocal : choice.localEngine = false) (hcluster : nonEmpty? choice.clusterId = none)
      (hwarehouse : nonEmpty? choice.warehouseId = none)

/-- An accepted choice takes one route. -/
theorem Accepted.route (h : choice.Accepted) : choice.Route := by
  unfold Accepted choices at h
  cases hlocal : choice.localEngine <;> cases hcluster : nonEmpty? choice.clusterId <;>
    cases hwarehouse : nonEmpty? choice.warehouseId <;>
    simp only [hlocal, hcluster, hwarehouse, Option.isSome_none, Option.isSome_some,
      Bool.toNat_true, Bool.toNat_false] at h
  case false.none.none => exact .unchosen hlocal hcluster hwarehouse
  case false.none.some => exact .warehouse _ hlocal hcluster hwarehouse
  case false.some.none => exact .cluster _ hlocal hcluster hwarehouse
  case true.none.none => exact .localEngine hlocal hcluster hwarehouse
  all_goals omega

/-! ## What they come to -/

/-- A cluster is obtained in a certain way, and is the target. -/
def OnCluster (obtained : List Exchange → Except Fault String → Prop) (xs : List Exchange)
    (outcome : Except Fault ComputeTarget) : Prop :=
  ∃ cluster, obtained xs cluster ∧ outcome = cluster.map fun id => { clusterId := some id }

/-- After some exchanges a failure leads to the default cluster: the first thing that was asked for
is the chosen cluster, and it is not found. -/
def FallsBack (choice : ComputeChoice) (earlier : List Exchange) (failure : CallFailure) : Prop :=
  (nonEmpty? choice.clusterId).isSome ∧ earlier = [] ∧ failure.kind.isNotFound

/-- What a choice of compute comes to, in exchanges and outcome. -/
structure Resolved (choice : ComputeChoice) (default : DefaultCluster) (xs : List Exchange)
    (outcome : Except Fault ComputeTarget) : Prop where
  /-- Nothing is asked for the local query engine. -/
  localEngine : choice.localEngine = true → xs = [] ∧ outcome = .ok { localEngine := true }
  /-- Nothing is asked for a warehouse. -/
  warehouse : ∀ id, nonEmpty? choice.warehouseId = some id →
    xs = [] ∧ outcome = .ok { warehouseId := some id }
  /-- A chosen cluster is started, and the default cluster takes its place only if it is not
  found. -/
  cluster : ∀ id, nonEmpty? choice.clusterId = some id →
    OnCluster (default.Replacement id) xs outcome
  /-- Without a choice the default cluster is obtained. -/
  unchosen : choice.choices = 0 → OnCluster default.Obtained xs outcome
  /-- After any other failure nothing more is asked.  The outcome is that there is no compute,
  unless the failure is of a kind that has nothing to do with it. -/
  failed : ∀ earlier x later failure, xs = earlier ++ x :: later → x.answer = .error failure →
    ¬ choice.FallsBack earlier failure →
    later = [] ∧ outcome = .error
      (if isProvisioningFailure failure.kind then .provisioning (.request failure)
        else .call failure)

namespace Resolved

variable {xs : List Exchange} {outcome : Except Fault ComputeTarget} {id : String}

theorem of_localEngine (hlocal : choice.localEngine = true)
    (hcluster : nonEmpty? choice.clusterId = none)
    (hwarehouse : nonEmpty? choice.warehouseId = none) :
    choice.Resolved default [] (.ok { localEngine := true }) where
  localEngine _ := ⟨rfl, rfl⟩
  warehouse id h := by cases hwarehouse.symm.trans h
  cluster id h := by cases hcluster.symm.trans h
  unchosen h := by simp [choices, hlocal] at h
  failed _ _ _ _ hxs := absurd hxs (by simp)

theorem of_warehouse (hlocal : choice.localEngine = false)
    (hcluster : nonEmpty? choice.clusterId = none)
    (hwarehouse : nonEmpty? choice.warehouseId = some id) :
    choice.Resolved default [] (.ok { warehouseId := some id }) where
  localEngine h := by cases hlocal.symm.trans h
  warehouse id' h := by
    cases hwarehouse.symm.trans h
    exact ⟨rfl, rfl⟩
  cluster id h := by cases hcluster.symm.trans h
  unchosen h := by simp [choices, hwarehouse] at h
  failed _ _ _ _ hxs := absurd hxs (by simp)

theorem of_cluster (hlocal : choice.localEngine = false)
    (hcluster : nonEmpty? choice.clusterId = some id)
    (hwarehouse : nonEmpty? choice.warehouseId = none)
    (h : OnCluster (default.Replacement id) xs outcome) : choice.Resolved default xs outcome where
  localEngine h := by cases hlocal.symm.trans h
  warehouse id h := by cases hwarehouse.symm.trans h
  cluster id' h' := by
    cases hcluster.symm.trans h'
    exact h
  unchosen h := by simp [choices, hcluster] at h
  failed earlier x later failure hxs hx hstays := by
    obtain ⟨cluster, hreplacement, rfl⟩ := h
    obtain ⟨hlater, rfl⟩ := hreplacement.eq_of_failed hxs hx fun hgone =>
      hstays ⟨by rw [hcluster]; rfl, hgone⟩
    exact ⟨hlater, rfl⟩

theorem of_unchosen (hlocal : choice.localEngine = false)
    (hcluster : nonEmpty? choice.clusterId = none)
    (hwarehouse : nonEmpty? choice.warehouseId = none) (h : OnCluster default.Obtained xs outcome) :
    choice.Resolved default xs outcome where
  localEngine h := by cases hlocal.symm.trans h
  warehouse id h := by cases hwarehouse.symm.trans h
  cluster id h := by cases hcluster.symm.trans h
  unchosen _ := h
  failed earlier x later failure hxs hx _ := by
    obtain ⟨cluster, hobtained, rfl⟩ := h
    obtain ⟨hlater, rfl⟩ := hobtained.upToFailure.eq_of_failed hxs hx
    exact ⟨hlater, rfl⟩

end Resolved

/-- A cluster that is obtained as the target. -/
theorem ends_onCluster {x : Action σ String} {obtained : List Exchange → Except Fault String → Prop}
    (h : x.Ends obtained) :
    (do return { clusterId := some (← x) } : Action σ ComputeTarget).Ends (OnCluster obtained) :=
  .bind_pure (h.imp fun _ cluster hcluster => ⟨cluster, hcluster, rfl⟩)

/-- Resolving an accepted choice is as `Resolved` says. -/
theorem ends_resolve (h : choice.Accepted) (default : DefaultCluster) :
    (choice.resolve default : Action σ ComputeTarget).Ends (choice.Resolved default) := by
  unfold resolve
  cases h.route with
  | localEngine hlocal hcluster hwarehouse =>
      rw [if_pos hlocal]
      exact .pure (.of_localEngine hlocal hcluster hwarehouse)
  | warehouse id hlocal hcluster hwarehouse =>
      simp only [hlocal, hcluster, hwarehouse]
      exact .pure (.of_warehouse hlocal hcluster hwarehouse)
  | cluster id hlocal hcluster hwarehouse =>
      simp only [hlocal, hcluster, hwarehouse]
      exact (ends_onCluster (default.ends_startOrReplace id)).imp fun _ _ =>
        .of_cluster hlocal hcluster hwarehouse
  | unchosen hlocal hcluster hwarehouse =>
      simp only [hlocal, hcluster, hwarehouse]
      exact (ends_onCluster default.ends_obtain).imp fun _ _ =>
        .of_unchosen hlocal hcluster hwarehouse

/-- What resolving an accepted choice comes to, on any session and whatever the workspace answers.
The exchanges are all that is asked.

* For the local query engine and for a warehouse nothing is asked.
* A chosen cluster is started first.  It is the target if that succeeds, and the default cluster is
  obtained in its place if it is not found; after any other failure nothing more is asked.
* The default cluster is obtained by listing the clusters once.  The first that has its name and an
  identifier is taken, and started exactly when it does not run; no other is, and none is created.
  If there is none, a version of the query engine and a type of node are selected and one cluster is
  created.  A cluster that is created without an identifier is no target.
* After a request that fails, the start of a chosen cluster that is gone apart, nothing more is
  asked.  If the service reports the failure, or it arises outside the service, or a wait takes too
  long, the outcome is that there is no compute. -/
theorem resolved_of_accepted (h : choice.Accepted) (default : DefaultCluster) (s : Session σ) :
    ∃ events,
      ((choice.resolve default).on s).2 = s.after events ∧
      (s.exchanges events).map Exchange.request = events.filterMap Event.request? ∧
      choice.Resolved default (s.exchanges events) ((choice.resolve default).on s).1 := by
  obtain ⟨events, hafter, hresolved⟩ := ends_resolve h default s
  exact ⟨events, hafter, Session.map_request_exchanges s events, hresolved⟩

/-! ## A cluster that is gone -/

/-- A default cluster. -/
def sharedCluster : DefaultCluster where
  name := "shared"
  autoterminationMinutes := 10

/-- A session in which the cluster `c1` is gone and others are listed: one with another name, one
without an identifier, one that does not run, and one that does. -/
def clusterlessSession : Session InMemory where
  workspace :=
    { missingClusters := ["c1"]
      clusters :=
        [⟨some "o1", some "other", some "RUNNING"⟩, ⟨none, some "shared", some "RUNNING"⟩,
          ⟨some "d1", some "shared", some "TERMINATED"⟩,
          ⟨some "d2", some "shared", some "RUNNING"⟩] }

/-- The cluster that is chosen is gone, and the first that fits is started in its place. -/
theorem resolved_of_gone :
    let choice : ComputeChoice := { clusterId := some "c1" }
    let resolution := (choice.resolve sharedCluster).on clusterlessSession
    choice.Accepted ∧
    (∃ events, resolution.2 = clusterlessSession.after events ∧
      (clusterlessSession.exchanges events).map Exchange.request =
        [.ensureRunning "c1", .listClusters, .ensureRunning "d1"] ∧
      choice.Resolved sharedCluster (clusterlessSession.exchanges events) resolution.1) ∧
    resolution.1 = .ok { clusterId := some "d1" } := by
  intro choice resolution
  have haccepted : choice.Accepted := by decide
  obtain ⟨events, hafter, hrequests, hresolved⟩ :=
    resolved_of_accepted haccepted sharedCluster clusterlessSession
  have hevents : events = resolution.2.journal := by
    rw [show resolution.2 = _ from hafter, Session.journal_after]
    rfl
  refine ⟨haccepted, ⟨events, hafter, ?_, hresolved⟩, rfl⟩
  rw [hrequests, hevents]
  rfl

end ComputeChoice

end TableReconciler
