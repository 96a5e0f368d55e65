import Mathlib.Data.List.Basic
import TableReconciler.Executor
import TableReconciler.Proofs.Compute.Resolution
import TableReconciler.Proofs.Workspace.Run

/-!
# Targets and their executors

What compute is resolved to is what executors are built for, with one exception.  The identifier of
the default cluster is what the workspace tells, and that may be the empty text, for which no
executor is built.

* `ComputeTarget.RunBy` says which executor a target has that states one thing to run on, and
  `Executor.build_of_runBy` that it gets it.
* `DefaultCluster.Told` says which identifier an exchange tells.  The default cluster is obtained
  under the one that was told (`DefaultCluster.Obtained.told_iff`).
* `ComputeChoice.Resolved.runBy` and `ComputeChoice.Resolved.eq_unnamed_iff`: an accepted choice
  leads to a target that states one thing to run on, unless an empty identifier was told.
-/

namespace TableReconciler

variable {σ : Type} [Workspace σ]

/-! ## Targets and their executors -/

namespace ComputeTarget

/-- The executor of a target that states one thing to run on.  An identifier is not empty. -/
inductive RunBy (waitSeconds : Int) : ComputeTarget → Executor → Prop
  /-- The local query engine. -/
  | localEngine : RunBy waitSeconds { localEngine := true } .localEngine
  /-- A warehouse. -/
  | warehouse {id : String} (h : id ≠ "") :
      RunBy waitSeconds { warehouseId := some id } (.warehouse (some id) waitSeconds)
  /-- A cluster. -/
  | cluster {id : String} (h : id ≠ "") :
      RunBy waitSeconds { clusterId := some id } (.cluster id none)

/-- The cluster whose identifier is empty. -/
def unnamed : ComputeTarget where
  clusterId := some ""

end ComputeTarget

/-- A text that is not empty is kept. -/
theorem nonEmpty?_of_ne {text : String} (h : text ≠ "") : nonEmpty? (some text) = some text := by
  simp [nonEmpty?, h]

/-- What is kept is not empty. -/
theorem ne_empty_of_nonEmpty? {text : Option String} {kept : String}
    (h : nonEmpty? text = some kept) : kept ≠ "" := by
  rintro rfl
  simp [nonEmpty?] at h

namespace Executor

variable {target : ComputeTarget} {waitSeconds : Int} {executor : Executor}

/-- No executor is built for a cluster whose identifier is empty. -/
theorem build_unnamed (waitSeconds : Int) (s : Session σ) :
    (build .unnamed waitSeconds).on s = (.error .emptyTarget, s) := rfl

/-- A target that states one thing to run on gets its executor.  Only the local query engine is
asked for, so that this is the one thing that can fail. -/
theorem build_of_runBy (h : target.RunBy waitSeconds executor) (s : Session σ) :
    ((build target waitSeconds).on s).1 = .ok executor ∨
      target.localEngine ∧ ∃ failure, ((ask .localSession).on s).1 = .error failure ∧
        ((build target waitSeconds).on s).1 = .error (.call failure) := by
  cases h with
  | warehouse h =>
      left
      simp only [build, nonEmpty?_of_ne h]
      rfl
  | cluster h =>
      left
      have hnone : nonEmpty? none = none := rfl
      simp only [build, nonEmpty?_of_ne h, hnone]
      rfl
  | localEngine =>
      unfold build
      simp only [if_pos]
      rcases hanswer : (ask .localSession).on s with ⟨failure | ⟨⟩, t⟩
      · rw [Action.on_bind_of_error (Action.on_call_of_error hanswer)]
        exact .inr ⟨trivial, failure, rfl, rfl⟩
      · rw [Action.on_bind_of_ok (Action.on_call_of_ok hanswer)]
        exact .inl rfl

end Executor

/-! ## Identifiers that are told -/

namespace DefaultCluster

variable {default : DefaultCluster} {xs : List Exchange} {id id' : String}

/-- In an exchange the workspace tells the identifier of the default cluster: of the first listed
cluster that fits, or of the cluster that it created. -/
inductive Told (default : DefaultCluster) (id : String) : Exchange → Prop
  /-- The clusters are listed. -/
  | listed {clusters : List ClusterRecord} {cluster : ClusterRecord}
      (h : default.IsFirst clusters id cluster) : Told default id ⟨.listClusters, .ok clusters⟩
  /-- A cluster was created. -/
  | created (spec : ClusterSpec) : Told default id ⟨.createCluster spec, .ok (some id)⟩

/-- No other request is answered with an identifier. -/
theorem not_told {x : Exchange} (hlist : x.request ≠ .listClusters)
    (hcreate : ∀ spec, x.request ≠ .createCluster spec) : ¬ default.Told id x := by
  rintro (hfirst | spec)
  · exact hlist rfl
  · exact hcreate spec rfl

/-- Only the last exchange of a creation tells an identifier, and it is the outcome. -/
theorem Creation.told_iff (h : default.Creation xs (.ok id)) :
    (∃ x ∈ xs, default.Told id' x) ↔ id' = id := by
  generalize houtcome : Except.ok id = outcome at h
  cases h with
  | withoutVersion | withoutNodeType | failed | withoutId => cases houtcome
  | created sparkVersion nodeType id =>
      cases houtcome
      rw [List.exists_mem_cons_iff, or_iff_right (not_told (by simp) (by simp)),
        List.exists_mem_cons_iff, or_iff_right (not_told (by simp) (by simp)),
        List.exists_mem_cons_iff, or_iff_left (by simp)]
      constructor
      · rintro ⟨⟩
        rfl
      · rintro rfl
        exact .created _

/-- Obtaining the default cluster succeeds after the clusters were listed: the first that fits is
taken, and nothing but its start is asked for, or a cluster is created. -/
theorem Obtained.cases_of_ok (h : default.Obtained xs (.ok id)) :
    ∃ clusters later, xs = ⟨.listClusters, .ok clusters⟩ :: later ∧
      ((∃ cluster, default.IsFirst clusters id cluster ∧
        ∀ x ∈ later, x.request = .ensureRunning id) ∨
      (default.find? clusters = none ∧ default.Creation later (.ok id))) := by
  obtain ⟨answer, later, hxs, -⟩ := h.listed
  rcases answer with failure | clusters
  · cases (h.upToFailure.eq_of_failed (hxs.trans (List.nil_append _).symm) rfl).2
  refine ⟨clusters, later, hxs, ?_⟩
  rcases hfind : default.find? clusters with _ | ⟨id', cluster⟩
  · exact .inr ⟨rfl, h.missing clusters later hxs (find?_eq_none_iff.mp hfind)⟩
  · have hfirst := find?_eq_some_iff.mp hfind
    have hfound := h.found clusters later id' cluster hxs hfirst
    split at hfound
    · obtain ⟨rfl, hid⟩ := hfound
      cases hid
      exact .inl ⟨cluster, hfirst, List.forall_mem_nil _⟩
    · obtain ⟨answer, rfl, hid⟩ := hfound
      rcases answer with failure | ⟨⟩
      · cases (h.upToFailure.eq_of_failed (hxs.trans List.singleton_append.symm) rfl).2
      · cases hid rfl
        exact .inl ⟨cluster, hfirst, by simp⟩

/-- The identifier of the default cluster is the one that was told. -/
theorem Obtained.told_iff (h : default.Obtained xs (.ok id)) :
    (∃ x ∈ xs, default.Told id' x) ↔ id' = id := by
  obtain ⟨clusters, later, rfl, ⟨cluster, hfirst, hlater⟩ | ⟨hfind, hcreation⟩⟩ := h.cases_of_ok
  · have hstart : ¬ ∃ x ∈ later, default.Told id' x := by
      rintro ⟨x, hx, htold⟩
      exact not_told (by simp [hlater x hx]) (by simp [hlater x hx]) htold
    rw [List.exists_mem_cons_iff, or_iff_left hstart]
    constructor
    · rintro ⟨hfirst'⟩
      cases (find?_eq_some_iff.mpr hfirst').symm.trans (find?_eq_some_iff.mpr hfirst)
      rfl
    · rintro rfl
      exact .listed hfirst
  · have hlisted : ¬ default.Told id' ⟨.listClusters, .ok clusters⟩ := by
      rintro ⟨hfirst⟩
      cases hfind.symm.trans (find?_eq_some_iff.mpr hfirst)
    rw [List.exists_mem_cons_iff, or_iff_right hlisted, hcreation.told_iff]

/-- A chosen cluster is not told; the cluster in its place is the one that was. -/
theorem Replacement.told_iff {chosen : String} (h : default.Replacement chosen xs (.ok id))
    (hchosen : id' ≠ chosen) : (∃ x ∈ xs, default.Told id' x) ↔ id' = id := by
  generalize houtcome : Except.ok id = outcome at h
  cases h with
  | failed => cases houtcome
  | started =>
      cases houtcome
      rw [List.exists_mem_cons_iff, or_iff_right (not_told (by simp) (by simp))]
      exact iff_of_false (by simp) hchosen
  | gone failure hkind hobtained =>
      subst houtcome
      rw [List.exists_mem_cons_iff, or_iff_right (not_told (by simp) (by simp)), hobtained.told_iff]

end DefaultCluster

/-! ## Resolved targets -/

namespace ComputeChoice.Resolved

variable {choice : ComputeChoice} {default : DefaultCluster} {xs : List Exchange}
  {target : ComputeTarget}

/-- Once something is obtained on a cluster, the target is the cluster with its identifier. -/
theorem exists_of_onCluster {obtained : List Exchange → Except Fault String → Prop}
    (h : OnCluster obtained xs (.ok target)) :
    ∃ id, obtained xs (.ok id) ∧ target = { clusterId := some id } := by
  obtain ⟨fault | id, hobtained, htarget⟩ := h
  · cases htarget
  · cases htarget
    exact ⟨id, hobtained, rfl⟩

/-- The target of an accepted choice is the local query engine, a warehouse, or a cluster.  The
identifier of the cluster is empty exactly when that was told for the default cluster. -/
theorem cases_of_ok (h : choice.Resolved default xs (.ok target)) (haccepted : choice.Accepted) :
    (xs = [] ∧ target = { localEngine := true }) ∨
    (∃ id, id ≠ "" ∧ xs = [] ∧ target = { warehouseId := some id }) ∨
    ∃ id, target = { clusterId := some id } ∧ ((∃ x ∈ xs, default.Told "" x) ↔ id = "") := by
  cases haccepted.route with
  | localEngine hlocal _ _ =>
      obtain ⟨hxs, htarget⟩ := h.localEngine hlocal
      cases htarget
      exact .inl ⟨hxs, rfl⟩
  | warehouse id _ _ hwarehouse =>
      obtain ⟨hxs, htarget⟩ := h.warehouse id hwarehouse
      cases htarget
      exact .inr (.inl ⟨id, ne_empty_of_nonEmpty? hwarehouse, hxs, rfl⟩)
  | cluster chosen _ hcluster _ =>
      obtain ⟨id, hreplacement, rfl⟩ := exists_of_onCluster (h.cluster chosen hcluster)
      have hchosen : "" ≠ chosen := (ne_empty_of_nonEmpty? hcluster).symm
      exact .inr (.inr ⟨id, rfl, (hreplacement.told_iff hchosen).trans eq_comm⟩)
  | unchosen hlocal hcluster hwarehouse =>
      have hnone : choice.choices = 0 := by simp [choices, hlocal, hcluster, hwarehouse]
      obtain ⟨id, hobtained, rfl⟩ := exists_of_onCluster (h.unchosen hnone)
      exact .inr (.inr ⟨id, rfl, hobtained.told_iff.trans eq_comm⟩)

/-- The identifier is empty exactly when an empty identifier was told. -/
theorem eq_unnamed_iff (h : choice.Resolved default xs (.ok target)) (haccepted : choice.Accepted) :
    target = .unnamed ↔ ∃ x ∈ xs, default.Told "" x := by
  rcases h.cases_of_ok haccepted with ⟨rfl, rfl⟩ | ⟨id, -, rfl, rfl⟩ | ⟨id, rfl, htold⟩
  · simp [ComputeTarget.unnamed]
  · simp [ComputeTarget.unnamed]
  · simp [ComputeTarget.unnamed, htold]

/-- Otherwise the target states one thing to run on. -/
theorem runBy (h : choice.Resolved default xs (.ok target)) (haccepted : choice.Accepted)
    (htold : ¬ ∃ x ∈ xs, default.Told "" x) (waitSeconds : Int) :
    ∃ executor, target.RunBy waitSeconds executor := by
  rcases h.cases_of_ok haccepted with ⟨-, rfl⟩ | ⟨id, hid, -, rfl⟩ | ⟨id, rfl, hiff⟩
  · exact ⟨_, .localEngine⟩
  · exact ⟨_, .warehouse hid⟩
  · exact ⟨_, .cluster fun hid => htold (hiff.mpr hid)⟩

end ComputeChoice.Resolved

end TableReconciler
