import TableReconciler.Proofs.Executor.Contexts
import TableReconciler.Proofs.Lifecycle.Outcome

/-!
# Execution contexts of operations

Whatever the workspace answers, an operation creates one execution context at most, and asks to
destroy what it created before it ends, in a result or in a fault.  Only executing statements and
closing the executor have to do with contexts (`Event.Apart` is said of all other events), so that
this follows from the discipline of executors.

* `Executor.reaches_executions` lifts the discipline to executing statements.
* `Released.of_executed` and `Released.surround` put the parts of an operation together, and
  `Operation.exists_released_of_run` goes through the three ways in which an operation may go.
* `contexts_never_leak` is the main statement: about any calls of one executor, and about any
  operations one after the other.
-/

namespace TableReconciler

/-! ## Events apart from contexts -/

/-- If an event is a request, it is not about execution contexts. -/
def Event.Apart (event : Event) : Prop :=
  ∀ r, event.request? = some r → r.contextCluster? = none

/-- An event that is no request is not about contexts. -/
theorem Event.apart_of_unasked {event : Event} (h : event.request? = none) : event.Apart := by
  intro r hr
  rw [h] at hr
  cases hr

/-- Contexts are for executing and closing. -/
theorem Event.Within.apart {stage : Stage} {event : Event} (h : event.Within stage)
    (hexecuting : stage ≠ .executing) (hclosing : stage ≠ .closing) : event.Apart := by
  rintro r hr
  cases event with
  | request request =>
      cases hr
      obtain rfl : r.stage = stage := h
      cases r <;> first | rfl | exact absurd rfl hexecuting | exact absurd rfl hclosing
  | notice _ | opened _ | closed => cases hr

/-- A statement is about to be executed. -/
def Event.IsExecuting : Event → Prop
  | .notice (.executing _ _ _) => True
  | _ => False

namespace Exchange

variable {exchanges : List Exchange}

/-- The execution contexts that were created, in their order. -/
def created (exchanges : List Exchange) : List (String × String) :=
  exchanges.filterMap created?

/-- The execution contexts that were asked to be destroyed, in their order. -/
def destroying (exchanges : List Exchange) : List (String × String) :=
  exchanges.filterMap fun x => x.request.destroys?

@[simp] theorem created_append (first second : List Exchange) :
    created (first ++ second) = created first ++ created second :=
  List.filterMap_append

@[simp] theorem destroying_append (first second : List Exchange) :
    destroying (first ++ second) = destroying first ++ destroying second :=
  List.filterMap_append

/-- What is asked about something else creates no context and destroys none. -/
theorem created_of_apart (h : ∀ x ∈ exchanges, x.request.contextCluster? = none) :
    created exchanges = [] ∧ destroying exchanges = [] :=
  ⟨List.filterMap_eq_nil_iff.mpr fun x hx => (unconcerned (h x hx)).1,
    List.filterMap_eq_nil_iff.mpr fun x hx => (unconcerned (h x hx)).2.2⟩

/-- While statements are executed, nothing is asked to be destroyed, so that what was created is
open. -/
theorem created_of_executing (h : ∀ x ∈ exchanges, x.request.stage = .executing) :
    created exchanges = openContexts exchanges ∧ destroying exchanges = [] := by
  constructor
  · induction exchanges using List.reverseRecOn with
    | nil => rfl
    | append_singleton exchanges x ih =>
        obtain ⟨hfirst, hlast⟩ := List.forall_mem_append.mp h
        have hopens : ∀ before, opens before x = before ++ created [x] := by
          intro before
          have hstage := hlast x (List.mem_singleton_self x)
          obtain ⟨request, answer⟩ := x
          cases request <;> cases answer <;>
            first | exact (List.append_nil _).symm | rfl | cases hstage
        rw [openContexts, List.foldl_append, List.foldl_cons, List.foldl_nil, hopens,
          created_append, ih hfirst, openContexts]
  · refine List.filterMap_eq_nil_iff.mpr ?_
    rintro ⟨request, answer⟩ hx
    have hstage := h _ hx
    cases request <;> first | rfl | cases hstage

end Exchange

variable {σ : Type} [Workspace σ]

/-! ## Executing -/

/-- Executions of which none is announced are none. -/
theorem Execution.Journal.eq_nil {total index : Nat} {executions : List Execution}
    {events : List Event} (h : Execution.Journal total index executions events)
    (hidle : ∀ event ∈ events, ¬event.IsExecuting) : executions = [] := by
  cases h with
  | nil => rfl
  | cons _ _ => exact absurd trivial (hidle _ List.mem_cons_self)

namespace Executor

/-- Executing statements one after the other. -/
theorem reaches_executions (total index : Nat) (executor : Executor) (statements : List String)
    (s : Session σ) :
    executor.Reaches (Event.Within .executing) s
      ((executor.executions total index statements).on s).1.2
      ((executor.executions total index statements).on s).2 := by
  induction statements generalizing index executor s with
  | nil => exact .refl executor s
  | cons statement rest ih =>
      have hbegun : executor.Reaches (Event.Within .executing) s executor
          ((say (.executing index total statement)).on s).2 := .say trivial executor s
      have hexecuted := hbegun.trans (reaches_execute executor statement _)
      simp only [executions, Step.on_bind]
      generalize (executor.execute statement : Step σ _).on _ = executed at hexecuted ⊢
      obtain ⟨⟨result, next⟩, t⟩ := executed
      rcases result with failure | _ | detail
      · exact hexecuted
      · exact hexecuted.trans (ih _ next t)
      · exact hexecuted.trans (.say trivial next t)

/-- Without a statement about to be executed nothing happens, and the executor stays as it is. -/
theorem executions_of_idle {total index : Nat} {executor last : Executor}
    {statements : List String} {executions : List Execution} {s : Session σ} {events : List Event}
    (h : (executor.executions total index statements).on s =
      ((executions, last), s.after events))
    (hidle : ∀ event ∈ events, ¬event.IsExecuting) : events = [] ∧ last = executor := by
  obtain ⟨written, hwritten, hgrown⟩ := journal_executions total index executor statements s
  have hcut := cut_executions total index executor statements s
  rw [h] at hwritten hgrown hcut
  rw [Session.journal_after] at hgrown
  obtain rfl : events = written := List.append_cancel_left hgrown
  obtain rfl : executions = [] := hwritten.eq_nil hidle
  cases hwritten
  cases hcut
  cases h
  exact ⟨rfl, rfl⟩

/-- By closing, what is held is asked to be destroyed, and nothing is created. -/
theorem created_release (last : Executor) (s : Session σ) :
    Exchange.created (s.exchanges last.release) = [] ∧
      Exchange.destroying (s.exchanges last.release) = last.context?.toList := by
  match last with
  | .localEngine => exact ⟨rfl, rfl⟩
  | .warehouse _ _ => exact ⟨rfl, rfl⟩
  | .cluster _ none => exact ⟨rfl, rfl⟩
  | .cluster _ (some _) => exact ⟨rfl, rfl⟩

end Executor

/-! ## Operations -/

/-- What an operation does about execution contexts, in its events and their exchanges. -/
structure Released (events : List Event) (exchanges : List Exchange) : Prop where
  /-- One context is created at most. -/
  single : (Exchange.created exchanges).length ≤ 1
  /-- What was created is asked to be destroyed, once, and nothing else is. -/
  released : Exchange.destroying exchanges = Exchange.created exchanges
  /-- A context is created only when none is held, and only the one that is held is used, or asked
  to be destroyed. -/
  disciplined : Exchange.Disciplined none exchanges
  /-- When no statement is executed, nothing is asked about contexts. -/
  idle : (∀ event ∈ events, ¬event.IsExecuting) →
    ∀ x ∈ exchanges, x.request.contextCluster? = none

/-- The exchanges of events apart from contexts are about something else. -/
theorem Event.contextCluster?_of_apart {events : List Event} (h : ∀ event ∈ events, event.Apart)
    (s : Session σ) : ∀ x ∈ s.exchanges events, x.request.contextCluster? = none :=
  fun x hx => h _ (Session.mem_of_mem_exchanges hx) x.request rfl

namespace Released

variable {s : Session σ} {before events after executing : List Event}

/-- Events apart from contexts. -/
theorem of_apart (h : ∀ event ∈ events, event.Apart) (s : Session σ) :
    Released events (s.exchanges events) := by
  have hothers := Event.contextCluster?_of_apart h s
  obtain ⟨hcreated, hdestroying⟩ := Exchange.created_of_apart hothers
  exact {
    single := by rw [hcreated]; exact Nat.zero_le 1
    released := hdestroying.trans hcreated.symm
    disciplined := (Exchange.disciplined_of_contextCluster?_eq_none hothers).1
    idle := fun _ => hothers }

/-- Events apart from contexts may come before and after. -/
theorem surround (h : Released events ((s.after before).exchanges events))
    (hbefore : ∀ event ∈ before, event.Apart) (hafter : ∀ event ∈ after, event.Apart) :
    Released (before ++ events ++ after) (s.exchanges (before ++ events ++ after)) := by
  have hfirst := Event.contextCluster?_of_apart hbefore s
  have hlast := Event.contextCluster?_of_apart hafter ((s.after before).after events)
  obtain ⟨hcreated, hdestroying⟩ := Exchange.created_of_apart hfirst
  obtain ⟨hcreated', hdestroying'⟩ := Exchange.created_of_apart hlast
  have hheld : Exchange.Disciplined none (s.exchanges before) ∧
      Exchange.holding none (s.exchanges before) = none :=
    Exchange.disciplined_of_contextCluster?_eq_none hfirst
  rw [Session.exchanges_append, Session.exchanges_append, Session.after_append]
  refine {
    single := ?_
    released := ?_
    disciplined := ?_
    idle := fun hidle => ?_ }
  · rw [Exchange.created_append, Exchange.created_append, hcreated, hcreated', List.nil_append,
      List.append_nil]
    exact h.single
  · simp only [Exchange.created_append, Exchange.destroying_append, hcreated, hcreated',
      hdestroying, hdestroying', h.released]
  · rw [Exchange.disciplined_append_iff, Exchange.disciplined_append_iff, hheld.2]
    exact ⟨⟨hheld.1, h.disciplined⟩, (Exchange.disciplined_of_contextCluster?_eq_none hlast).1⟩
  · have hothers := h.idle fun event hevent => hidle event (by simp [hevent])
    exact List.forall_mem_append.mpr ⟨List.forall_mem_append.mpr ⟨hfirst, hothers⟩, hlast⟩

/-- An executor that holds nothing executes statements and is closed. -/
theorem of_executed {executor last : Executor} (hcontext : executor.context? = none)
    (hkeeps : executor.Keeps (s.exchanges executing) last)
    (hwithin : ∀ event ∈ executing, event.Within .executing)
    (hidle : (∀ event ∈ executing, ¬event.IsExecuting) → executing = [] ∧ last = executor) :
    Released (executing ++ last.release) (s.exchanges (executing ++ last.release)) := by
  have hstage : ∀ x ∈ s.exchanges executing, x.request.stage = .executing :=
    fun x hx => hwithin _ (Session.mem_of_mem_exchanges hx)
  have hdisciplined : Exchange.Disciplined none (s.exchanges executing) :=
    hcontext ▸ hkeeps.disciplined
  have hholding : Exchange.holding none (s.exchanges executing) = last.context? :=
    (hcontext ▸ hkeeps.context?).symm
  obtain ⟨hcreated, hdestroying⟩ := Exchange.created_of_executing hstage
  obtain ⟨hcreated', hdestroying'⟩ := Executor.created_release last (s.after executing)
  rw [Exchange.openContexts_eq_toList hdisciplined, hholding] at hcreated
  rw [Session.exchanges_append]
  refine {
    single := ?_
    released := ?_
    disciplined := ?_
    idle := fun hnone => ?_ }
  · rw [Exchange.created_append, hcreated, hcreated', List.append_nil]
    exact Option.length_toList_le
  · rw [Exchange.created_append, Exchange.destroying_append, hcreated, hcreated', hdestroying,
      hdestroying', List.append_nil, List.nil_append]
  · rw [Exchange.disciplined_append_iff, hholding]
    exact ⟨hdisciplined, (Executor.keeps_close last (s.after executing)).2.disciplined⟩
  · obtain ⟨rfl, rfl⟩ := hidle fun event hevent => hnone event (List.mem_append_left _ hevent)
    rw [Executor.release_of_context?_eq_none hcontext]
    exact List.forall_mem_nil _

end Released

/-! ## Operations -/

variable {τ : Type} [Entry τ]

/-- What is done before statements are prepared is apart from contexts. -/
theorem accounts_openExecutor (policy : Policy) (compute : ComputeChoice) :
    (policy.openExecutor compute : Action σ Executor).Accounts Event.Apart := by
  unfold Policy.openExecutor
  refine .bind ((accounts_resolve compute policy.defaultCluster).mono ?_) fun target =>
    (accounts_build target policy.settings.waitSeconds).mono ?_
  · exact fun event h => h.apart nofun nofun
  · exact fun event h => h.apart nofun nofun

/-- Reading is apart from contexts. -/
theorem accounts_readTable (fullName : String) :
    (Catalog.readTable fullName : Action σ TableSpec).Accounts (Event.Within .reading) := by
  unfold Catalog.readTable Catalog.readNamed
  dsimp only
  split
  · exact .throw _
  · exact .bind (.call rfl) fun record => .lift _ _

omit [Entry τ] in
/-- Resolving the owner is apart from contexts. -/
theorem accounts_resolveOwner (desired : TableSpec τ) :
    (Policy.resolveOwner desired : Action σ _).Accounts Event.Apart := by
  have hasked : Event.Apart (.request .currentUser) := by rintro r ⟨⟩; rfl
  unfold Policy.resolveOwner Catalog.currentUserName
  split
  · exact .pure none
  · split
    · refine .bind (.bind (.call hasked) fun reply => ?_) fun name => .pure _
      split
      · exact .pure _
      · exact .throw _
    · exact .pure _

/-- Setting the owner is apart from contexts. -/
theorem accounts_setOwner (desired : TableSpec τ) (owner : Value) :
    (Policy.setOwner desired owner : Action σ Unit).Accounts Event.Apart := by
  have hasked : Event.Apart (.request (.setOwner desired.name.format owner)) := by
    rintro r ⟨⟩; rfl
  exact .bind (.announce (Event.apart_of_unasked rfl)) fun _ => .call hasked

namespace Operation

/-- Preparing statements is apart from contexts. -/
theorem accounts_prepare (op : Operation τ) (policy : Policy) :
    (op.prepare policy : Action σ _).Accounts Event.Apart := by
  cases op with
  | create desired =>
      exact .bind (.lift _ _) fun kind => .bind (.announce (Event.apart_of_unasked rfl)) fun _ =>
        .bind (.lift _ _) fun statement => .pure _
  | drop desired =>
      exact .bind (.lift _ _) fun kind => .bind (.announce (Event.apart_of_unasked rfl)) fun _ =>
        .bind (.lift _ _) fun statement => .pure _
  | update resourceId desired =>
      exact .bind ((accounts_readTable resourceId).mono fun event h => h.apart nofun nofun)
        fun previous => .bind (.lift _ _) fun reconciled => .bind (.lift _ _) fun _ =>
          .bind (.lift _ _) fun statements =>
            .bind (.announce (Event.apart_of_unasked rfl)) fun _ => .pure _

/-- Finishing is apart from contexts. -/
theorem accounts_finish (op : Operation τ) (statements : List String) (carried : op.Carried) :
    (op.finish statements carried : Action σ _).Accounts Event.Apart := by
  cases op with
  | create desired =>
      refine .bind (accounts_resolveOwner desired) fun owner => ?_
      cases owner with
      | none => exact .pure _
      | some owner => exact .bind (accounts_setOwner desired owner) fun _ => .pure _
  | update resourceId desired =>
      refine .bind (.bind (accounts_resolveOwner desired) fun owner => ?_) fun _ => .pure _
      cases owner with
      | none => exact .pure _
      | some owner =>
          dsimp only
          split
          · exact accounts_setOwner desired owner
          · exact .pure _
  | drop desired => exact .pure _

variable {policy : Policy} {compute : ComputeChoice} {s t : Session σ}

/-- After the executor was closed, an operation has nothing to do with contexts. -/
theorem exists_after_close (op : Operation τ) {statements : List String} {carried : op.Carried}
    {executions : List Execution} {last : Executor}
    (h : policy.Executed compute (op.prepare policy) s statements carried executions last t) :
    ∃ after, ((op.run policy compute).on s).2 = (t.after last.release).after after ∧
      ∀ event ∈ after, event.Apart := by
  have hclosed := (Executor.keeps_close last t).1
  rcases hclose : last.close.on t with ⟨⟨failure | ⟨⟩, closed⟩, u⟩ <;> rw [hclose] at hclosed
  · rw [on_run_of_unclosed op h hclose, ← hclosed]
    exact ⟨[], rfl, List.forall_mem_nil _⟩
  · rw [on_run_of_closed op h hclose, ← hclosed]
    cases Execution.verdict executions with
    | error fault => exact ⟨[], rfl, List.forall_mem_nil _⟩
    | ok _ => exact accounts_finish op statements carried u

/-- Every operation asks to destroy the context that it created, and has the workspace as its events
leave it. -/
theorem exists_released_of_run (op : Operation τ) (policy : Policy) (compute : ComputeChoice)
    (s : Session σ) :
    ∃ events, ((op.run policy compute).on s).2 = s.after events ∧
      Released events (s.exchanges events) := by
  obtain ⟨opening, hopening, hopeningApart⟩ := accounts_openExecutor policy compute s
  rcases Policy.perform_cases policy compute (op.prepare policy) s with
    ⟨fault, t, hopen⟩ | ⟨executor, fault, t, u, hopen, hprepare⟩ |
    ⟨statements, carried, executions, last, t, h⟩
  · rw [hopen] at hopening
    have hrun := on_run_of_error op (Policy.on_perform_of_unopened hopen)
    exact ⟨opening, by rw [hrun, ← hopening], .of_apart hopeningApart s⟩
  · obtain ⟨preparing, hpreparing, hpreparingApart⟩ := accounts_prepare op policy t
    have hclosed := (Executor.keeps_close executor u).1
    have hrelease := Executor.release_of_context?_eq_none (Executor.context?_of_openExecutor hopen)
    rw [hopen] at hopening
    rw [hprepare] at hpreparing
    have hrun := on_run_of_error op (Policy.on_perform_of_unprepared hopen hprepare)
    refine ⟨opening ++ preparing ++ [.closed], ?_, .of_apart ?_ s⟩
    · rw [hrun, hclosed, hrelease, Session.after_append, Session.after_append, ← hopening,
        ← hpreparing]
    · have hclosing : Event.Apart .closed := Event.apart_of_unasked rfl
      exact List.forall_mem_append.mpr ⟨List.forall_mem_append.mpr
        ⟨hopeningApart, hpreparingApart⟩, List.forall_mem_singleton.mpr hclosing⟩
  · obtain ⟨after, hafter, hafterApart⟩ := exists_after_close op h
    obtain @⟨executor, u, v, hopen, hprepare, hexecute⟩ := id h
    obtain ⟨preparing, hpreparing, hpreparingApart⟩ := accounts_prepare op policy u
    obtain ⟨executing, hexecuting, hkeeps, hwithin⟩ :=
      Executor.reaches_executions statements.length 1 executor statements v
    rw [hopen] at hopening
    rw [hprepare] at hpreparing
    rw [hexecute] at hexecuting hkeeps
    obtain rfl : v = s.after (opening ++ preparing) := by
      rw [Session.after_append, ← hopening, ← hpreparing]
    obtain rfl : t = (s.after (opening ++ preparing)).after executing := hexecuting
    have hidle := Executor.executions_of_idle hexecute
    have hcontext := Executor.context?_of_openExecutor hopen
    refine ⟨opening ++ preparing ++ (executing ++ last.release) ++ after, ?_,
      (Released.of_executed hcontext hkeeps hwithin hidle).surround ?_ hafterApart⟩
    · rw [hafter]
      simp only [Session.after_append]
    · exact List.forall_mem_append.mpr ⟨hopeningApart, hpreparingApart⟩

/-! ## One after the other -/

/-- The sessions before and after each of some operations that are carried out one after the other,
whatever they end in. -/
def series (policy : Policy) :
    List (ComputeChoice × Operation τ) → Session σ → List (Session σ × Session σ)
  | [], _ => []
  | (compute, op) :: later, s =>
      let t := ((op.run policy compute).on s).2
      (s, t) :: series policy later t

/-- Every operation of a series. -/
theorem exists_released_of_mem_series (policy : Policy)
    (calls : List (ComputeChoice × Operation τ)) (s : Session σ) :
    ∀ span ∈ series policy calls s, ∃ events, span.2 = span.1.after events ∧
      Released events (span.1.exchanges events) := by
  induction calls generalizing s with
  | nil => exact List.forall_mem_nil _
  | cons call later ih =>
      obtain ⟨compute, op⟩ := call
      exact List.forall_mem_cons.mpr ⟨exists_released_of_run op policy compute s, ih _⟩

end Operation

/-- **Execution contexts never leak and are never used stale.** Whatever the workspace answers:

* Any calls of an executor on a cluster, each of which may fail, use contexts as `ContextUse` says.
  Afterwards the executor holds a context exactly when that was created last and no request to
  destroy one was answered since; one context at most is open at any time; commands are sent with
  the one that is open, and never with one that was destroyed; and when a context could not be
  created, there is nothing to destroy.
* Each of any operations one after the other creates one context at most, and none if it executes no
  statement.  It asks to destroy what it created, once, before it ends. -/
theorem contexts_never_leak :
    (∀ (id : String) (calls : List Executor.Call) (s : Session σ),
      let (last, t) := ((Executor.cluster id none).turns calls).on s
      ∃ events, t = s.after events ∧ ContextUse id (s.exchanges events) last) ∧
    ∀ (policy : Policy) (calls : List (ComputeChoice × Operation τ)) (s : Session σ),
      ∀ span ∈ Operation.series policy calls s, ∃ events, span.2 = span.1.after events ∧
        Released events (span.1.exchanges events) := by
  refine ⟨fun id calls s => ?_, Operation.exists_released_of_mem_series⟩
  obtain ⟨events, hafter, hkeeps, -⟩ := Executor.reaches_turns (.cluster id none) calls s
  exact ⟨events, hafter, hkeeps.contextUse⟩

/-- A session on which no context can be destroyed. -/
def busySession : Session InMemory :=
  Operation.clusterSession [] (some ⟨.service, "busy"⟩)

/-- A context that cannot be destroyed.  An executor still holds it after it was closed, and uses it
for the next statement; an operation that created it has asked once to destroy it. -/
theorem contexts_of_unreleased :
    (∃ events,
      (((Executor.cluster "c1" none).turns [.execute "A", .close, .execute "B"]).on
        busySession).2 = busySession.after events ∧
      requests events = [.createContext "c1", .executeInContext "c1" "ctx-1" "A",
        .destroyContext "c1" "ctx-1", .executeInContext "c1" "ctx-1" "B"] ∧
      Exchange.Latest (busySession.exchanges events) ("c1", "ctx-1")) ∧
    ∃ events,
      ((Operation.createOwned.run {} Operation.clusterChoice).on busySession).2 =
        busySession.after events ∧
      Exchange.created (busySession.exchanges events) = [("c1", "ctx-1")] ∧
      Exchange.destroying (busySession.exchanges events) = [("c1", "ctx-1")] := by
  obtain ⟨hcalls, hseries⟩ := contexts_never_leak (σ := InMemory) (τ := String)
  constructor
  · obtain ⟨events, hafter, huse⟩ := hcalls "c1" [.execute "A", .close, .execute "B"] busySession
    have hevents : _ = [] ++ events :=
      (congrArg Session.journal hafter).trans (busySession.journal_after events)
    refine ⟨events, hafter, ?_, (huse.holds "ctx-1").mp (by decide +kernel)⟩
    rw [← List.nil_append events, ← hevents]
    decide +kernel
  · obtain ⟨events, hafter, hreleased⟩ :=
      hseries {} [(Operation.clusterChoice, Operation.createOwned)] busySession _ List.mem_cons_self
    have hevents : _ = [] ++ events :=
      (congrArg Session.journal hafter).trans (busySession.journal_after events)
    have hcreated : Exchange.created (busySession.exchanges events) = [("c1", "ctx-1")] := by
      rw [← List.nil_append events, ← hevents]
      decide +kernel
    exact ⟨events, hafter, hcreated, hreleased.released.trans hcreated⟩

end TableReconciler
