import TableReconciler.Compute.Resolution
import TableReconciler.Proofs.Workspace.Exchange

/-!
# The default cluster

Which listed cluster is the default cluster, and what is asked of the workspace on the way to it.

* `find?_eq_some_iff` and `find?_eq_none_iff`: it is the first of the listed clusters that fits, and
  there is none when no listed cluster fits.
* `ends_create` and `ends_obtain`: whatever the workspace answers, the exchanges and the outcome are
  those of a `Creation`, and are as `Obtained` says.

The requests go up to the first that fails (`UpToFailure`), here and wherever else a cluster is
sought.
-/

namespace TableReconciler

variable {σ : Type} [Workspace σ] {α : Type}

/-! ## Requests on the way to a cluster -/

/-- Requests on the way to a cluster are made until one fails.  The one that fails is the last, and
the outcome is the fault that its failure amounts to. -/
inductive UpToFailure : List Exchange → Except Fault α → Prop
  /-- Nothing more is asked. -/
  | done (outcome : Except Fault α) : UpToFailure [] outcome
  /-- A request fails. -/
  | failed (r : Request) (failure : CallFailure) :
      UpToFailure [⟨r, .error failure⟩] (.error (provisioningFault failure))
  /-- A request succeeds. -/
  | next {later : List Exchange} {outcome : Except Fault α} (r : Request) (reply : r.Reply)
      (h : UpToFailure later outcome) : UpToFailure (⟨r, .ok reply⟩ :: later) outcome

namespace UpToFailure

variable {xs earlier later : List Exchange} {x : Exchange} {failure : CallFailure}

/-- A request that fails is the last, and the outcome is its fault. -/
theorem eq_of_failed {outcome : Except Fault α} (h : UpToFailure xs outcome)
    (hxs : xs = earlier ++ x :: later) (hx : x.answer = .error failure) :
    later = [] ∧ outcome = .error (provisioningFault failure) := by
  induction h generalizing earlier with
  | done outcome => exact absurd hxs (by simp)
  | failed r failure' =>
      obtain ⟨rfl, hcons⟩ := List.append_eq_singleton_iff.mp hxs.symm |>.resolve_right (by simp)
      cases hcons
      cases hx
      exact ⟨rfl, rfl⟩
  | next r reply _ ih =>
      rcases List.cons_eq_append_iff.mp hxs with ⟨rfl, hcons⟩ | ⟨rest, rfl, hrest⟩
      · cases hcons
        cases hx
      · exact ih hrest

end UpToFailure

/-- A request on the way to a cluster is one exchange, and nothing follows it when it fails. -/
theorem Action.Ends.clusterCall_bind {post : List Exchange → Except Fault α → Prop} {r : Request}
    {f : r.Reply → Action σ α}
    (hfailed : ∀ failure, post [⟨r, .error failure⟩] (.error (provisioningFault failure)))
    (hreplied : ∀ reply, (f reply).Ends fun xs outcome => post (⟨r, .ok reply⟩ :: xs) outcome) :
    (clusterCall r >>= f : Action σ α).Ends post := by
  unfold clusterCall
  rw [bind_assoc]
  refine attempt_bind fun answer => ?_
  cases answer with
  | error failure => exact throw (hfailed failure)
  | ok reply => exact hreplied reply

namespace DefaultCluster

variable {default : DefaultCluster}

/-! ## The first that fits -/

/-- A cluster can be taken for the default cluster: it has its name, and an identifier. -/
def Fits (default : DefaultCluster) (id : String) (cluster : ClusterRecord) : Prop :=
  cluster.name = some default.name ∧ cluster.id = some id

/-- A cluster is the first of a list that can be taken for the default cluster. -/
def IsFirst (default : DefaultCluster) (clusters : List ClusterRecord) (id : String)
    (cluster : ClusterRecord) : Prop :=
  ∃ earlier later, clusters = earlier ++ cluster :: later ∧ default.Fits id cluster ∧
    ∀ other ∈ earlier, ∀ otherId, ¬ default.Fits otherId other

variable {clusters : List ClusterRecord} {id : String} {cluster : ClusterRecord}

/-- What a cluster that is looked at contributes: itself with its identifier, if it fits. -/
theorem candidate_eq_some_iff {other : ClusterRecord} :
    (if cluster.name = some default.name then cluster.id.map (·, cluster) else none) =
      some (id, other) ↔ default.Fits id cluster ∧ cluster = other := by
  unfold Fits
  split
  next hname =>
    simp only [Option.map_eq_some_iff, Prod.mk.injEq, hname, true_and]
    constructor
    · rintro ⟨_, hid, rfl, rfl⟩
      exact ⟨hid, rfl⟩
    · rintro ⟨hid, rfl⟩
      exact ⟨id, hid, rfl, rfl⟩
  next hname => simp [hname]

theorem candidate_eq_none_iff :
    (if cluster.name = some default.name then cluster.id.map (·, cluster) else none) = none ↔
      ∀ id, ¬ default.Fits id cluster := by
  unfold Fits
  split <;> simp_all [Option.eq_none_iff_forall_ne_some]

/-- The cluster that is found is the first that fits. -/
theorem find?_eq_some_iff :
    default.find? clusters = some (id, cluster) ↔ default.IsFirst clusters id cluster := by
  unfold find? IsFirst
  rw [List.findSome?_eq_some_iff]
  simp only [candidate_eq_some_iff, candidate_eq_none_iff]
  constructor
  · rintro ⟨earlier, _, later, rfl, ⟨hfits, rfl⟩, hearlier⟩
    exact ⟨earlier, later, rfl, hfits, hearlier⟩
  · rintro ⟨earlier, later, rfl, hfits, hearlier⟩
    exact ⟨earlier, cluster, later, rfl, ⟨hfits, rfl⟩, hearlier⟩

/-- No cluster is found when none fits. -/
theorem find?_eq_none_iff :
    default.find? clusters = none ↔ ∀ cluster ∈ clusters, ∀ id, ¬ default.Fits id cluster := by
  unfold find?
  rw [List.findSome?_eq_none_iff]
  simp only [candidate_eq_none_iff]

/-! ## Creating it -/

/-- The exchanges by which one cluster is created, and the outcome: its identifier.  A cluster
without an identifier is of no use. -/
inductive Creation (default : DefaultCluster) : List Exchange → Except Fault String → Prop
  /-- No version of the query engine is selected. -/
  | withoutVersion (failure : CallFailure) :
      Creation default [⟨.selectSparkVersion true, .error failure⟩]
        (.error (provisioningFault failure))
  /-- No type of node is selected. -/
  | withoutNodeType (sparkVersion : String) (failure : CallFailure) :
      Creation default
        [⟨.selectSparkVersion true, .ok sparkVersion⟩, ⟨.selectNodeType true, .error failure⟩]
        (.error (provisioningFault failure))
  /-- The cluster cannot be created. -/
  | failed (sparkVersion nodeType : String) (failure : CallFailure) :
      Creation default
        [⟨.selectSparkVersion true, .ok sparkVersion⟩, ⟨.selectNodeType true, .ok nodeType⟩,
          ⟨.createCluster (default.spec sparkVersion nodeType), .error failure⟩]
        (.error (provisioningFault failure))
  /-- The cluster is created, but has no identifier. -/
  | withoutId (sparkVersion nodeType : String) :
      Creation default
        [⟨.selectSparkVersion true, .ok sparkVersion⟩, ⟨.selectNodeType true, .ok nodeType⟩,
          ⟨.createCluster (default.spec sparkVersion nodeType), .ok none⟩]
        (.error (.provisioning (.clusterWithoutId default.name)))
  /-- The cluster is created. -/
  | created (sparkVersion nodeType id : String) :
      Creation default
        [⟨.selectSparkVersion true, .ok sparkVersion⟩, ⟨.selectNodeType true, .ok nodeType⟩,
          ⟨.createCluster (default.spec sparkVersion nodeType), .ok (some id)⟩]
        (.ok id)

/-- Creating the default cluster is a creation. -/
theorem ends_create (default : DefaultCluster) :
    (default.create : Action σ String).Ends default.Creation := by
  unfold create
  refine .announce_bind ?_
  refine .clusterCall_bind .withoutVersion fun sparkVersion => ?_
  refine .clusterCall_bind (.withoutNodeType sparkVersion) fun nodeType => ?_
  refine .clusterCall_bind (.failed sparkVersion nodeType) fun id => ?_
  cases id with
  | none => exact .throw (.withoutId sparkVersion nodeType)
  | some id => exact .pure (.created sparkVersion nodeType id)

namespace Creation

variable {xs : List Exchange} {outcome : Except Fault String}

theorem upToFailure (h : default.Creation xs outcome) : UpToFailure xs outcome := by
  cases h with
  | withoutVersion failure => exact .failed _ failure
  | withoutNodeType _ failure => exact .next _ _ (.failed _ failure)
  | failed _ _ failure => exact .next _ _ (.next _ _ (.failed _ failure))
  | withoutId | created => exact .next _ _ (.next _ _ (.next _ _ (.done _)))

theorem request_ne_listClusters (h : default.Creation xs outcome) :
    ∀ x ∈ xs, x.request ≠ .listClusters := by
  cases h <;> simp

end Creation

/-! ## Obtaining it -/

/-- What obtaining the default cluster comes to, in exchanges and outcome. -/
structure Obtained (default : DefaultCluster) (xs : List Exchange)
    (outcome : Except Fault String) : Prop where
  /-- The clusters are listed first, and only then. -/
  listed : ∃ answer later, xs = ⟨.listClusters, answer⟩ :: later ∧
    ∀ x ∈ later, x.request ≠ .listClusters
  /-- If a listed cluster fits, the first that does is the outcome.  It is started exactly when it
  does not run, and nothing else is asked. -/
  found : ∀ clusters later id cluster, xs = ⟨.listClusters, .ok clusters⟩ :: later →
    default.IsFirst clusters id cluster →
    if cluster.isRunning then later = [] ∧ outcome = .ok id
    else ∃ answer, later = [⟨.ensureRunning id, answer⟩] ∧ (answer = .ok () → outcome = .ok id)
  /-- If no listed cluster fits, one is created. -/
  missing : ∀ clusters later, xs = ⟨.listClusters, .ok clusters⟩ :: later →
    (∀ cluster ∈ clusters, ∀ id, ¬ default.Fits id cluster) → default.Creation later outcome
  /-- A request that fails is the last. -/
  upToFailure : UpToFailure xs outcome

namespace Obtained

variable {xs : List Exchange} {outcome : Except Fault String}

/-- The clusters cannot be listed. -/
theorem of_unlisted (failure : CallFailure) :
    default.Obtained [⟨.listClusters, .error failure⟩] (.error (provisioningFault failure)) where
  listed := ⟨_, [], rfl, List.forall_mem_nil _⟩
  found := nofun
  missing := nofun
  upToFailure := .failed _ failure

/-- A cluster is found that runs. -/
theorem of_running (hfind : default.find? clusters = some (id, cluster))
    (hrunning : cluster.isRunning) :
    default.Obtained [⟨.listClusters, .ok clusters⟩] (.ok id) where
  listed := ⟨_, [], rfl, List.forall_mem_nil _⟩
  found := by
    rintro _ _ id' cluster' ⟨⟩ hfirst
    cases hfind.symm.trans (find?_eq_some_iff.mpr hfirst)
    rw [if_pos hrunning]
    exact ⟨rfl, rfl⟩
  missing := by
    rintro _ _ ⟨⟩ hnone
    cases hfind.symm.trans (find?_eq_none_iff.mpr hnone)
  upToFailure := .next _ _ (.done _)

/-- A cluster is found that does not run. -/
theorem of_stopped (hfind : default.find? clusters = some (id, cluster))
    (hstopped : ¬ cluster.isRunning) {answer : Except CallFailure Unit}
    (hok : answer = .ok () → outcome = .ok id)
    (herror : UpToFailure [⟨.ensureRunning id, answer⟩] outcome) :
    default.Obtained [⟨.listClusters, .ok clusters⟩, ⟨.ensureRunning id, answer⟩] outcome where
  listed := ⟨_, _, rfl, by simp⟩
  found := by
    rintro _ _ id' cluster' ⟨⟩ hfirst
    cases hfind.symm.trans (find?_eq_some_iff.mpr hfirst)
    rw [if_neg hstopped]
    exact ⟨answer, rfl, hok⟩
  missing := by
    rintro _ _ ⟨⟩ hnone
    cases hfind.symm.trans (find?_eq_none_iff.mpr hnone)
  upToFailure := .next _ _ herror

/-- No cluster is found. -/
theorem of_creation (hfind : default.find? clusters = none) (h : default.Creation xs outcome) :
    default.Obtained (⟨.listClusters, .ok clusters⟩ :: xs) outcome where
  listed := ⟨_, xs, rfl, h.request_ne_listClusters⟩
  found := by
    rintro _ _ id' cluster' ⟨⟩ hfirst
    cases hfind.symm.trans (find?_eq_some_iff.mpr hfirst)
  missing := by
    rintro _ _ ⟨⟩ -
    exact h
  upToFailure := .next _ _ h.upToFailure

end Obtained

/-- Obtaining the default cluster is as `Obtained` says. -/
theorem ends_obtain (default : DefaultCluster) :
    (default.obtain : Action σ String).Ends default.Obtained := by
  unfold obtain
  refine .clusterCall_bind .of_unlisted fun clusters => ?_
  cases hfind : default.find? clusters with
  | none => exact (ends_create default).imp fun _ _ => .of_creation hfind
  | some found =>
      obtain ⟨id, cluster⟩ := found
      dsimp only
      by_cases hrunning : cluster.isRunning
      · rw [hrunning]
        exact .pure (.of_running hfind hrunning)
      · rw [Bool.eq_false_iff.mpr hrunning]
        refine .clusterCall_bind (fun failure => ?_) fun _ => ?_
        · exact .of_stopped hfind hrunning nofun (.failed _ failure)
        · exact .pure (.of_stopped hfind hrunning (fun _ => rfl) (.next _ _ (.done _)))

end DefaultCluster

end TableReconciler
