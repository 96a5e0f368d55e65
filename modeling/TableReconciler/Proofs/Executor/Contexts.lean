import Mathlib.Data.List.Induction
import TableReconciler.Proofs.Lifecycle.Stage

/-!
# Execution contexts

An executor on a cluster opens an execution context when it needs one, and has it destroyed when it
is closed.  What it should have open follows from the exchanges with the workspace: the context that
was created last, unless a request to destroy one was answered since (`Exchange.Latest`).

* `Exchange.Disciplined` says of every exchange what it requires of those before it.  A context is
  created when none is held; commands, and requests to destroy, use the one that is held.
* `Executor.reaches_execute` and `Executor.keeps_close` show this for one call of an executor, with
  what the executor holds afterwards; `Executor.reaches_turns` shows it for any calls.
* `ContextUse` gathers what follows: nothing is left open without being held, and nothing is used
  after it was destroyed.
-/

namespace TableReconciler

/-- The cluster that a request about execution contexts is made to. -/
def Request.contextCluster? : Request → Option String
  | .createContext id | .executeInContext id _ _ | .destroyContext id _ => some id
  | _ => none

/-- The execution context that a request asks to destroy, with its cluster. -/
def Request.destroys? : Request → Option (String × String)
  | .destroyContext id context => some (id, context)
  | _ => none

namespace Exchange

/-! ## What is held -/

/-- The execution context that was created, with its cluster. -/
def created? : Exchange → Option (String × String)
  | ⟨.createContext id, .ok context⟩ => some (id, context)
  | _ => none

/-- The execution context that was destroyed, with its cluster: the request was answered. -/
def destroyed? : Exchange → Option (String × String)
  | ⟨.destroyContext id context, .ok _⟩ => some (id, context)
  | _ => none

/-- An exchange about something else creates no context and destroys none. -/
theorem unconcerned {x : Exchange} (h : x.request.contextCluster? = none) :
    x.created? = none ∧ x.destroyed? = none ∧ x.request.destroys? = none := by
  obtain ⟨request, answer⟩ := x
  cases request <;> first | exact ⟨rfl, rfl, rfl⟩ | cases h

/-- What is held after an exchange, from what is held before. -/
def leaves (held : Option (String × String)) (x : Exchange) : Option (String × String) :=
  match x.created?, x.destroyed? with
  | some context, _ => some context
  | none, some _ => none
  | none, none => held

/-- What is held after some exchanges. -/
def holding (held : Option (String × String)) (exchanges : List Exchange) :
    Option (String × String) :=
  exchanges.foldl leaves held

@[simp] theorem holding_nil (held : Option (String × String)) : holding held [] = held := rfl

@[simp] theorem holding_cons (held : Option (String × String)) (x : Exchange)
    (later : List Exchange) : holding held (x :: later) = holding (x.leaves held) later := rfl

@[simp] theorem holding_append (held : Option (String × String)) (first second : List Exchange) :
    holding held (first ++ second) = holding (holding held first) second :=
  List.foldl_append

/-- The context was created, no other was created since, and no request to destroy one was answered
since. -/
def Latest (exchanges : List Exchange) (context : String × String) : Prop :=
  ∃ before x after, exchanges = before ++ x :: after ∧ x.created? = some context ∧
    ∀ y ∈ after, y.created? = none ∧ y.destroyed? = none

/-- With one more exchange, either that creates the context, or it neither creates nor destroys
one. -/
theorem latest_concat_iff {exchanges : List Exchange} {x : Exchange} {context : String × String} :
    Latest (exchanges ++ [x]) context ↔
      x.created? = some context ∨
        x.created? = none ∧ x.destroyed? = none ∧ Latest exchanges context := by
  constructor
  · rintro ⟨before, y, after, hsplit, hcreated, hafter⟩
    cases after using List.reverseRecOn with
    | nil =>
        obtain ⟨-, ⟨⟩⟩ := List.append_inj' hsplit rfl
        exact .inl hcreated
    | append_singleton middle last =>
        rw [← List.cons_append, ← List.append_assoc] at hsplit
        obtain ⟨rfl, ⟨⟩⟩ := List.append_inj' hsplit rfl
        obtain ⟨hmiddle, hlast⟩ := List.forall_mem_append.mp hafter
        obtain ⟨hnone, hkept⟩ := hlast x (List.mem_singleton_self x)
        exact .inr ⟨hnone, hkept, before, y, middle, rfl, hcreated, hmiddle⟩
  · rintro (hcreated | ⟨hnone, hkept, before, y, after, rfl, hcreated, hafter⟩)
    · exact ⟨exchanges, x, [], rfl, hcreated, List.forall_mem_nil _⟩
    · refine ⟨before, y, after ++ [x], List.append_assoc _ _ _, hcreated, ?_⟩
      exact List.forall_mem_append.mpr ⟨hafter, List.forall_mem_singleton.mpr ⟨hnone, hkept⟩⟩

/-- What is held is the context that was created last, unless one was destroyed since. -/
theorem holding_eq_some_iff {exchanges : List Exchange} {context : String × String} :
    holding none exchanges = some context ↔ Latest exchanges context := by
  induction exchanges using List.reverseRecOn with
  | nil =>
      refine iff_of_false nofun ?_
      rintro ⟨before, x, after, hsplit, -⟩
      simp at hsplit
  | append_singleton exchanges x ih =>
      rw [latest_concat_iff, ← ih, holding_append, holding_cons, holding_nil, leaves]
      cases x.created? <;> cases x.destroyed? <;> simp

/-! ## Discipline -/

/-- What an exchange requires of the context that is held before it. -/
def Heeds (held : Option (String × String)) (x : Exchange) : Prop :=
  match x.request with
  | .createContext _ => held = none
  | .executeInContext id context _ | .destroyContext id context => held = some (id, context)
  | _ => True

/-- Every exchange heeds the context that is held at that time. -/
def Disciplined (held : Option (String × String)) : List Exchange → Prop
  | [] => True
  | x :: later => x.Heeds held ∧ Disciplined (x.leaves held) later

@[simp] theorem disciplined_nil (held : Option (String × String)) : Disciplined held [] := trivial

@[simp] theorem disciplined_cons_iff {held : Option (String × String)} {x : Exchange}
    {later : List Exchange} :
    Disciplined held (x :: later) ↔ x.Heeds held ∧ Disciplined (x.leaves held) later := Iff.rfl

/-- Exchanges in two parts. -/
theorem disciplined_append_iff {held : Option (String × String)} {first second : List Exchange} :
    Disciplined held (first ++ second) ↔
      Disciplined held first ∧ Disciplined (holding held first) second := by
  induction first generalizing held with
  | nil => simp
  | cons x later ih =>
      rw [List.cons_append, disciplined_cons_iff, disciplined_cons_iff, ih, holding_cons, and_assoc]

/-- What one of the exchanges heeds. -/
theorem Disciplined.heeds {held : Option (String × String)} {before after : List Exchange}
    {x : Exchange} (h : Disciplined held (before ++ x :: after)) :
    x.Heeds (holding held before) :=
  (disciplined_cons_iff.mp (disciplined_append_iff.mp h).2).1

/-- Exchanges about something else require nothing. -/
theorem disciplined_of_contextCluster?_eq_none {held : Option (String × String)}
    {exchanges : List Exchange} (h : ∀ x ∈ exchanges, x.request.contextCluster? = none) :
    Disciplined held exchanges ∧ holding held exchanges = held := by
  induction exchanges with
  | nil => exact ⟨trivial, rfl⟩
  | cons x later ih =>
      obtain ⟨hx, hlater⟩ := List.forall_mem_cons.mp h
      obtain ⟨hcreated, hdestroyed, -⟩ := unconcerned hx
      have hleaves : x.leaves held = held := by rw [leaves, hcreated, hdestroyed]
      have hheeds : x.Heeds held := by
        obtain ⟨request, answer⟩ := x
        cases request <;> trivial
      rw [disciplined_cons_iff, holding_cons, hleaves]
      exact ⟨⟨hheeds, (ih hlater).1⟩, (ih hlater).2⟩

/-- Nothing is held after a context was destroyed. -/
theorem leaves_of_destroyed {x : Exchange} {context : String × String}
    (h : x.destroyed? = some context) (held : Option (String × String)) :
    x.leaves held = none := by
  obtain ⟨request, answer⟩ := x
  cases request <;> cases answer <;> first | rfl | cases h

/-- Nothing is held after no context was created, unless one was held before. -/
theorem leaves_of_uncreated {x : Exchange} (h : x.created? = none) : x.leaves none = none := by
  rw [leaves, h]
  cases x.destroyed? <;> rfl

/-! ## What is open -/

/-- What is open after an exchange: a context that was created, and not one that was destroyed. -/
def opens (before : List (String × String)) (x : Exchange) : List (String × String) :=
  match x.created?, x.destroyed? with
  | some context, _ => before ++ [context]
  | none, some context => before.erase context
  | none, none => before

/-- The execution contexts that were created and not destroyed. -/
def openContexts (exchanges : List Exchange) : List (String × String) :=
  exchanges.foldl opens []

/-- An exchange that heeds what is held opens nothing beside it, and keeps nothing else open. -/
theorem opens_toList {held : Option (String × String)} {x : Exchange} (h : x.Heeds held) :
    opens held.toList x = (x.leaves held).toList := by
  obtain ⟨request, answer⟩ := x
  cases request <;> cases answer <;> first | rfl | skip
  · -- a context is created
    obtain rfl : held = none := h
    rfl
  · -- the context that is held is destroyed
    obtain rfl : held = some (_, _) := h
    exact List.erase_cons_head _ _

/-- What is open is what is held. -/
theorem openContexts_eq_toList {exchanges : List Exchange} (h : Disciplined none exchanges) :
    openContexts exchanges = (holding none exchanges).toList := by
  have hstep : ∀ held, Disciplined held exchanges →
      exchanges.foldl opens held.toList = (holding held exchanges).toList := by
    clear h
    induction exchanges with
    | nil => exact fun held _ => rfl
    | cons x later ih =>
        rintro held ⟨hheeds, hlater⟩
        rw [List.foldl_cons, opens_toList hheeds, ih _ hlater, holding_cons]
  exact hstep none h

end Exchange

/-! ## What an executor becomes -/

namespace Executor

open Exchange (Disciplined holding)

/-- The cluster of an executor. -/
def clusterId? : Executor → Option String
  | .cluster id _ => some id
  | _ => none

/-- An executor that holds a context is one on its cluster. -/
theorem context?_eq_some_iff {executor : Executor} {id context : String} :
    executor.context? = some (id, context) ↔ executor = .cluster id (some context) := by
  cases executor with
  | localEngine => exact iff_of_false nofun nofun
  | warehouse _ _ => exact iff_of_false nofun nofun
  | cluster id' context' => cases context' <;> simp [context?]

/-- By the given exchanges an executor becomes `last`: they heed the context that is held at each
time, and `last` holds what they leave.  All of them are about contexts on the cluster of the
executor if it has one, and none of them otherwise. -/
structure Keeps (executor : Executor) (exchanges : List Exchange) (last : Executor) : Prop where
  disciplined : Disciplined executor.context? exchanges
  context? : last.context? = holding executor.context? exchanges
  clusterId? : last.clusterId? = executor.clusterId?
  requests : ∀ x ∈ exchanges, x.request.contextCluster? = executor.clusterId?

variable {executor next last : Executor} {first second exchanges : List Exchange}

theorem Keeps.refl (executor : Executor) : executor.Keeps [] executor :=
  ⟨trivial, rfl, rfl, List.forall_mem_nil _⟩

theorem Keeps.trans (h : executor.Keeps first next) (h' : next.Keeps second last) :
    executor.Keeps (first ++ second) last where
  disciplined := by
    rw [Exchange.disciplined_append_iff, ← h.context?]
    exact ⟨h.disciplined, h'.disciplined⟩
  context? := by rw [Exchange.holding_append, ← h.context?, h'.context?]
  clusterId? := h'.clusterId?.trans h.clusterId?
  requests := List.forall_mem_append.mpr
    ⟨h.requests, fun x hx => (h'.requests x hx).trans h.clusterId?⟩

/-- An exchange that heeds the context and is about the cluster. -/
theorem Keeps.single {x : Exchange} (hheeds : x.Heeds executor.context?)
    (hcontext : last.context? = x.leaves executor.context?)
    (hcluster : last.clusterId? = executor.clusterId?)
    (hrequest : x.request.contextCluster? = executor.clusterId?) : executor.Keeps [x] last :=
  ⟨⟨hheeds, trivial⟩, hcontext, hcluster, List.forall_mem_singleton.mpr hrequest⟩

variable {σ : Type} [Workspace σ] {kind : Event → Prop} {s t u : Session σ}

/-- By events of a certain kind the session `s` becomes `t`, and by their exchanges the executor
becomes `last`. -/
def Reaches (kind : Event → Prop) (executor : Executor) (s : Session σ) (last : Executor)
    (t : Session σ) : Prop :=
  ∃ events, t = s.after events ∧ executor.Keeps (s.exchanges events) last ∧
    ∀ event ∈ events, kind event

theorem Reaches.refl (executor : Executor) (s : Session σ) : executor.Reaches kind s executor s :=
  ⟨[], rfl, .refl executor, List.forall_mem_nil _⟩

theorem Reaches.trans (h : executor.Reaches kind s next t) (h' : next.Reaches kind t last u) :
    executor.Reaches kind s last u := by
  obtain ⟨before, rfl, hkeeps, hbefore⟩ := h
  obtain ⟨after, rfl, hkeeps', hafter⟩ := h'
  refine ⟨before ++ after, (Session.after_append s before after).symm, ?_,
    List.forall_mem_append.mpr ⟨hbefore, hafter⟩⟩
  rw [Session.exchanges_append]
  exact hkeeps.trans hkeeps'

/-- Something is said. -/
theorem Reaches.say {notice : Notice} (h : kind (.notice notice)) (executor : Executor)
    (s : Session σ) : executor.Reaches kind s executor ((TableReconciler.say notice).on s).2 :=
  ⟨[.notice notice], rfl, .refl executor, List.forall_mem_singleton.mpr h⟩

/-- A request is made that heeds what is held, and what its answer leaves is held afterwards. -/
theorem Reaches.ask {r : Request} {answer : Except CallFailure r.Reply} (hkind : kind (.request r))
    (hanswer : ((TableReconciler.ask r).on s).1 = answer)
    (hkeeps : executor.Keeps [⟨r, answer⟩] last) :
    executor.Reaches kind s last ((TableReconciler.ask r).on s).2 := by
  have hexchanges : s.exchanges [.request r] = [⟨r, answer⟩] := by rw [← hanswer]; rfl
  exact ⟨[.request r], rfl, hexchanges ▸ hkeeps, List.forall_mem_singleton.mpr hkind⟩

/-! ## One call -/

/-- Running a statement in the execution context that is held. -/
theorem reaches_inContext (id context statement : String) (s : Session σ) :
    (cluster id (some context)).Reaches (Event.Within .executing) s (cluster id (some context))
      ((inContext id context statement).on s).2 := by
  have hasked : ((inContext id context statement).on s).2 =
      ((ask (.executeInContext id context statement)).on s).2 := by
    simp only [inContext, Step.on_bind]
    split <;> rfl
  rw [hasked]
  exact .ask rfl rfl (.single rfl rfl rfl rfl)

/-- Executing a statement. -/
theorem reaches_execute (executor : Executor) (statement : String) (s : Session σ) :
    executor.Reaches (Event.Within .executing) s ((executor.execute statement).on s).1.2
      ((executor.execute statement).on s).2 := by
  cases executor with
  | localEngine =>
      have hqueried : localEngine.Reaches (Event.Within .executing) s localEngine
          ((ask (.localQuery statement)).on s).2 :=
        .ask rfl rfl (.single trivial rfl rfl rfl)
      simp only [execute, onLocalEngine, Step.on_bind]
      split
      next => exact hqueried
      next =>
        refine hqueried.trans ?_
        simp only [Step.on_bind]
        split <;> exact .ask rfl rfl (.single trivial rfl rfl rfl)
  | warehouse id waitSeconds =>
      simp only [execute, onWarehouse, Step.on_bind]
      split <;> exact .ask rfl rfl (.single trivial rfl rfl rfl)
  | cluster id context =>
      cases context with
      | some context => exact reaches_inContext id context statement s
      | none =>
          simp only [execute, onCluster, Step.on_bind]
          split
          next context hcreated =>
            have hcreation : (cluster id none).Reaches (Event.Within .executing) s
                (cluster id (some context)) ((ask (.createContext id)).on s).2 :=
              .ask rfl hcreated (.single rfl rfl rfl rfl)
            exact hcreation.trans (reaches_inContext id context statement _)
          next failure hfailed => exact .ask rfl hfailed (.single rfl rfl rfl rfl)

/-- Closing comes to the release of what is held, by which the executor becomes the one that is
left. -/
theorem keeps_close (executor : Executor) (s : Session σ) :
    (executor.close.on s).2 = s.after executor.release ∧
      executor.Keeps (s.exchanges executor.release) (executor.close.on s).1.2 := by
  match executor with
  | .localEngine => exact ⟨rfl, .refl _⟩
  | .warehouse _ _ => exact ⟨rfl, .refl _⟩
  | .cluster _ none => exact ⟨rfl, .refl _⟩
  | .cluster id (some context) =>
      simp only [close, Step.on_bind]
      split
      next hdestroyed =>
        have hexchanges : s.exchanges (cluster id (some context)).release =
            [⟨.destroyContext id context, .ok ()⟩] := by rw [← hdestroyed]; rfl
        rw [hexchanges]
        exact ⟨rfl, .single rfl rfl rfl rfl⟩
      next failure hfailed =>
        have hexchanges : s.exchanges (cluster id (some context)).release =
            [⟨.destroyContext id context, .error failure⟩] := by rw [← hfailed]; rfl
        rw [hexchanges]
        exact ⟨rfl, .single rfl rfl rfl rfl⟩

/-! ## Any calls -/

/-- A call of an executor. -/
inductive Call where
  /-- Execute a statement. -/
  | execute (statement : String)
  /-- Close the executor. -/
  | close
  deriving DecidableEq, Repr

/-- The executor after a call, whatever that results in. -/
def turn (executor : Executor) : Call → Step σ Executor
  | .execute statement => do return (← executor.execute statement).2
  | .close => do return (← executor.close).2

/-- The executor after some calls. -/
def turns (executor : Executor) : List Call → Step σ Executor
  | [] => return executor
  | call :: later => do (← executor.turn call).turns later

/-- One call. -/
theorem reaches_turn (executor : Executor) (call : Call) (s : Session σ) :
    executor.Reaches (fun _ => True) s ((executor.turn call).on s).1
      ((executor.turn call).on s).2 := by
  cases call with
  | execute statement =>
      obtain ⟨events, hafter, hkeeps, -⟩ := reaches_execute executor statement s
      exact ⟨events, hafter, hkeeps, fun _ _ => trivial⟩
  | close =>
      obtain ⟨hafter, hkeeps⟩ := keeps_close executor s
      exact ⟨executor.release, hafter, hkeeps, fun _ _ => trivial⟩

/-- Any calls one after the other. -/
theorem reaches_turns (executor : Executor) (calls : List Call) (s : Session σ) :
    executor.Reaches (fun _ => True) s ((executor.turns calls).on s).1
      ((executor.turns calls).on s).2 := by
  induction calls generalizing executor s with
  | nil => exact .refl executor s
  | cons call later ih => exact (reaches_turn executor call s).trans (ih _ _)

end Executor

/-! ## What follows -/

open Exchange (Latest openContexts) in
/-- How an executor on a cluster uses execution contexts in the given exchanges, by which it becomes
`last`. -/
structure ContextUse (id : String) (exchanges : List Exchange) (last : Executor) : Prop where
  /-- The executor holds a context exactly when that was created last, and no request to destroy one
  was answered since. -/
  holds : ∀ context, last = .cluster id (some context) ↔ Latest exchanges (id, context)
  /-- Nothing is asked but about contexts on the cluster. -/
  cluster : ∀ x ∈ exchanges, x.request.contextCluster? = some id
  /-- What is open is what the executor holds, so that nothing leaks. -/
  opened : openContexts exchanges = last.context?.toList
  /-- At no time is more than one context open. -/
  single : ∀ before, before <+: exchanges → (openContexts before).length ≤ 1
  /-- A context is created only when none is open. -/
  creation : ∀ before x after, exchanges = before ++ x :: after → x.request = .createContext id →
    openContexts before = []
  /-- Every command is sent with the context that is open. -/
  command : ∀ before x after context statement, exchanges = before ++ x :: after →
    x.request = .executeInContext id context statement → openContexts before = [(id, context)]
  /-- Only the context that is open is destroyed. -/
  destruction : ∀ before x after context, exchanges = before ++ x :: after →
    x.request = .destroyContext id context → openContexts before = [(id, context)]
  /-- After a context was destroyed, no command uses it unless it was created anew. -/
  stale : ∀ before x between y after context statement,
    exchanges = before ++ x :: (between ++ y :: after) → x.destroyed? = some (id, context) →
    y.request = .executeInContext id context statement →
      ∃ z ∈ between, z.created? = some (id, context)
  /-- When a context could not be created, there is nothing to destroy. -/
  uncreated : ∀ before x after, exchanges = before ++ x :: after → x.request = .createContext id →
    x.created? = none → openContexts (before ++ [x]) = []

namespace Exchange.Disciplined

variable {exchanges before after : List Exchange} {x : Exchange} {id context statement : String}

/-- Nothing is open before a context is created. -/
theorem openContexts_of_creation (h : Disciplined none (before ++ x :: after))
    (hx : x.request = .createContext id) : openContexts before = [] := by
  have hheeds := h.heeds
  rw [Heeds, hx] at hheeds
  rw [openContexts_eq_toList (disciplined_append_iff.mp h).1, hheeds, Option.toList_none]

/-- A command heeds its context. -/
theorem holding_of_command (h : Disciplined none (before ++ x :: after))
    (hx : x.request = .executeInContext id context statement) :
    holding none before = some (id, context) := by
  have hheeds := h.heeds
  rwa [Heeds, hx] at hheeds

/-- A request to destroy a context heeds it. -/
theorem holding_of_destruction (h : Disciplined none (before ++ x :: after))
    (hx : x.request = .destroyContext id context) : holding none before = some (id, context) := by
  have hheeds := h.heeds
  rwa [Heeds, hx] at hheeds

/-- What is held is all that is open. -/
theorem openContexts_of_holding {context : String × String}
    (h : Disciplined none (before ++ x :: after)) (hholding : holding none before = some context) :
    openContexts before = [context] := by
  rw [openContexts_eq_toList (disciplined_append_iff.mp h).1, hholding, Option.toList_some]

/-- After no context was created nothing is open. -/
theorem openContexts_of_uncreated (h : Disciplined none (before ++ x :: after))
    (hx : x.request = .createContext id) (hnone : x.created? = none) :
    openContexts (before ++ [x]) = [] := by
  have hheeds := h.heeds
  have hfirst : Disciplined none (before ++ [x]) := by
    rw [List.append_cons] at h
    exact (disciplined_append_iff.mp h).1
  rw [Heeds, hx] at hheeds
  rw [openContexts_eq_toList hfirst, holding_append, hheeds, holding_cons, holding_nil,
    leaves_of_uncreated hnone, Option.toList_none]

end Exchange.Disciplined

/-- An executor that keeps the discipline uses contexts as it should. -/
theorem Executor.Keeps.contextUse {id : String} {exchanges : List Exchange} {last : Executor}
    (h : (cluster id none).Keeps exchanges last) : ContextUse id exchanges last := by
  have hdisciplined : Exchange.Disciplined none exchanges := h.disciplined
  have hholding : last.context? = Exchange.holding none exchanges := h.context?
  refine {
    holds := fun context => ?_
    cluster := h.requests
    opened := ?_
    single := ?_
    creation := ?_
    command := ?_
    destruction := ?_
    stale := ?_
    uncreated := ?_ }
  · rw [← context?_eq_some_iff, hholding, Exchange.holding_eq_some_iff]
  · rw [Exchange.openContexts_eq_toList hdisciplined, hholding]
  · rintro before ⟨after, rfl⟩
    rw [Exchange.openContexts_eq_toList (Exchange.disciplined_append_iff.mp hdisciplined).1]
    exact Option.length_toList_le
  · rintro before x after rfl hx
    exact hdisciplined.openContexts_of_creation hx
  · rintro before x after context statement rfl hx
    exact hdisciplined.openContexts_of_holding (hdisciplined.holding_of_command hx)
  · rintro before x after context rfl hx
    exact hdisciplined.openContexts_of_holding (hdisciplined.holding_of_destruction hx)
  · rintro before x between y after context statement rfl hx hy
    rw [← List.cons_append, ← List.append_assoc] at hdisciplined
    have hheld := hdisciplined.holding_of_command hy
    rw [Exchange.holding_append, Exchange.holding_cons, Exchange.leaves_of_destroyed hx] at hheld
    obtain ⟨_, z, _, rfl, hcreated, -⟩ := Exchange.holding_eq_some_iff.mp hheld
    exact ⟨z, List.mem_append_right _ List.mem_cons_self, hcreated⟩
  · rintro before x after rfl hx hnone
    exact hdisciplined.openContexts_of_uncreated hx hnone

end TableReconciler
