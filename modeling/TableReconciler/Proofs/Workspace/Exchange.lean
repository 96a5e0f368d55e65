import TableReconciler.Proofs.Workspace.Run

/-!
# Exchanges with the workspace

A journal says what was asked, not what was answered.  The answers follow from the session that the
journal starts on: an event leads from one session to the next, and a request among the events is an
`Exchange`, the request together with the answer that it got.

`Action.Accounts` says that the session after an action is the one that its events lead to, so that
nothing is asked of the workspace which is not written down.  `Action.Ends` says more: which
exchanges an action can have, and what it ends in after them.  Like `Action.Fails` both are shown
for a composed action part by part.
-/

namespace TableReconciler

variable {σ : Type} [Workspace σ] {α β : Type}

/-- A request and the answer to it. -/
structure Exchange where
  /-- The request. -/
  request : Request
  /-- The answer: a reply or a failure. -/
  answer : Except CallFailure request.Reply

namespace Session

/-! ## What events lead to -/

/-- The session after an event.  A request also changes the workspace. -/
def next (s : Session σ) (event : Event) : Session σ where
  workspace :=
    match event with
    | .request r => (Workspace.answer r s.workspace).2
    | _ => s.workspace
  journal := s.journal ++ [event]

/-- The session after some events. -/
def after (s : Session σ) (events : List Event) : Session σ :=
  events.foldl next s

/-- The exchange that an event is. -/
def exchange? (s : Session σ) : Event → Option Exchange
  | .request r => some ⟨r, (Workspace.answer r s.workspace).1⟩
  | _ => none

/-- The exchanges among events, the first of which happens on the session `s`. -/
def exchanges (s : Session σ) : List Event → List Exchange
  | [] => []
  | event :: later => (s.exchange? event).toList ++ (s.next event).exchanges later

variable {s : Session σ} {events : List Event}

@[simp] theorem after_nil (s : Session σ) : s.after [] = s := rfl

@[simp] theorem after_cons (s : Session σ) (event : Event) (later : List Event) :
    s.after (event :: later) = (s.next event).after later := rfl

@[simp] theorem after_append (s : Session σ) (first second : List Event) :
    s.after (first ++ second) = (s.after first).after second :=
  List.foldl_append

@[simp] theorem exchanges_append (s : Session σ) (first second : List Event) :
    s.exchanges (first ++ second) = s.exchanges first ++ (s.after first).exchanges second := by
  induction first generalizing s with
  | nil => rfl
  | cons event later ih =>
      rw [List.cons_append, exchanges, ih, ← List.append_assoc]
      rfl

/-- A request is the exchange with the answer that it gets. -/
theorem exchanges_request_cons {r : Request} {answer : Except CallFailure r.Reply}
    (h : (Workspace.answer r s.workspace).1 = answer) (later : List Event) :
    s.exchanges (.request r :: later) = ⟨r, answer⟩ :: (s.next (.request r)).exchanges later := by
  rw [← h]
  rfl

/-- Events are written down in their order. -/
theorem journal_after (s : Session σ) (events : List Event) :
    (s.after events).journal = s.journal ++ events := by
  induction events generalizing s with
  | nil => rw [after_nil, List.append_nil]
  | cons event later ih =>
      rw [after_cons, ih]
      exact List.append_assoc _ _ _

/-- The requests that are answered are those among the events. -/
theorem map_request_exchanges (s : Session σ) (events : List Event) :
    (s.exchanges events).map Exchange.request = events.filterMap Event.request? := by
  induction events generalizing s with
  | nil => rfl
  | cons event later ih =>
      rw [exchanges, List.map_append, ih, List.filterMap_cons]
      cases event <;> rfl

/-- Requests one after the other are all answered. -/
theorem map_request_exchanges_requests (s : Session σ) (requests : List Request) :
    (s.exchanges (requests.map .request)).map Exchange.request = requests := by
  rw [map_request_exchanges, List.filterMap_map]
  exact List.filterMap_some

/-- What is asked in an exchange stands among the events. -/
theorem mem_of_mem_exchanges {x : Exchange} (h : x ∈ s.exchanges events) :
    .request x.request ∈ events := by
  have hmem : x.request ∈ events.filterMap Event.request? := by
    rw [← map_request_exchanges s]
    exact List.mem_map_of_mem h
  obtain ⟨event, hevent, hrequest⟩ := List.mem_filterMap.mp hmem
  cases event with
  | request r =>
      cases hrequest
      exact hevent
  | notice _ | opened _ | closed => cases hrequest

end Session

namespace Action

/-- A request leads to the session after it, whether or not it fails. -/
theorem after_call (r : Request) (s : Session σ) : ((call r).on s).2 = s.after [.request r] := by
  have hasked : ((ask r).on s).2 = s.after [.request r] := rfl
  rcases hanswer : (ask r).on s with ⟨failure | reply, t⟩ <;> rw [hanswer] at hasked
  · rw [on_call_of_error hanswer]
    exact hasked
  · rw [on_call_of_ok hanswer]
    exact hasked

/-- So does a request after which nothing changes. -/
theorem after_call_bind {r : Request} {f : r.Reply → Action σ α}
    (h : ∀ reply t, ((f reply).on t).2 = t) (s : Session σ) :
    ((call r >>= f : Action σ α).on s).2 = s.after [.request r] := by
  have hcalled := after_call r s
  rcases hcall : (call r).on s with ⟨fault | reply, t⟩ <;> rw [hcall] at hcalled
  · rw [on_bind_of_error hcall]
    exact hcalled
  · rw [on_bind_of_ok hcall, h]
    exact hcalled

end Action

/-! ## What the events of an action lead to -/

/-- The session after an action is the one that its events lead to, and those are of a certain
kind. -/
def Action.Accounts (kind : Event → Prop) (x : Action σ α) : Prop :=
  ∀ s : Session σ, ∃ events, (x.on s).2 = s.after events ∧ ∀ event ∈ events, kind event

namespace Action.Accounts

variable {kind : Event → Prop} {x : Action σ α}

theorem pure (a : α) : (Pure.pure a : Action σ α).Accounts kind :=
  fun _ => ⟨[], rfl, nofun⟩

theorem throw (fault : Fault) : (MonadExcept.throw fault : Action σ α).Accounts kind :=
  fun _ => ⟨[], rfl, nofun⟩

theorem lift {ε : Type} (wrap : ε → Fault) (result : Except ε α) :
    (lift wrap result : Action σ α).Accounts kind :=
  fun _ => ⟨[], by rw [Action.on_lift, Session.after_nil], nofun⟩

theorem opened {target : ComputeTarget} (h : kind (.opened target)) :
    Action.Accounts kind (ExceptT.lift (record (.opened target)) : Action σ Unit) :=
  fun _ => ⟨[.opened target], rfl, by simpa using h⟩

theorem announce {notice : Notice} (h : kind (.notice notice)) :
    (announce notice : Action σ Unit).Accounts kind :=
  fun _ => ⟨[.notice notice], rfl, by simpa using h⟩

theorem attempt {r : Request} (h : kind (.request r)) : (attempt r : Action σ _).Accounts kind :=
  fun _ => ⟨[.request r], rfl, by simpa using h⟩

/-- What two actions one after the other lead to. -/
theorem bind {f : α → Action σ β} (hx : x.Accounts kind) (hf : ∀ a, (f a).Accounts kind) :
    (x >>= f : Action σ β).Accounts kind := by
  intro s
  obtain ⟨first, hfirst, hkind⟩ := hx s
  rcases hrun : x.on s with ⟨fault | a, t⟩
  · rw [on_bind_of_error hrun]
    rw [hrun] at hfirst
    exact ⟨first, hfirst, hkind⟩
  · obtain ⟨second, hsecond, hkind'⟩ := hf a t
    obtain rfl : t = s.after first := by rw [← hfirst, hrun]
    refine ⟨first ++ second, ?_, List.forall_mem_append.mpr ⟨hkind, hkind'⟩⟩
    rw [on_bind_of_ok hrun, hsecond, Session.after_append]

theorem call {r : Request} (h : kind (.request r)) : (call r : Action σ _).Accounts kind := by
  refine bind (attempt h) fun answer => ?_
  cases answer with
  | ok reply => exact pure reply
  | error failure => exact throw _

/-- The same events are of every kind that is wider. -/
theorem mono {wider : Event → Prop} (h : x.Accounts kind)
    (hkind : ∀ event, kind event → wider event) : x.Accounts wider := by
  intro s
  obtain ⟨events, hafter, hevents⟩ := h s
  exact ⟨events, hafter, fun event hevent => hkind event (hevents event hevent)⟩

/-- Events that are accounted for are written down. -/
theorem writes (h : x.Accounts kind) : x.Writes kind := by
  intro s
  obtain ⟨events, hafter, hevents⟩ := h s
  exact ⟨events, by rw [hafter, Session.journal_after], hevents⟩

end Action.Accounts

/-! ## What an action ends in after its exchanges -/

/-- Whatever the workspace answers, the exchanges of an action and its outcome after them are as
`post` says, and the session after it is the one that its events lead to. -/
def Action.Ends (post : List Exchange → Except Fault α → Prop) (x : Action σ α) : Prop :=
  ∀ s : Session σ, ∃ events, (x.on s).2 = s.after events ∧ post (s.exchanges events) (x.on s).1

namespace Action.Ends

variable {post : List Exchange → Except Fault α → Prop} {x : Action σ α}

theorem pure {a : α} (h : post [] (.ok a)) : (Pure.pure a : Action σ α).Ends post :=
  fun _ => ⟨[], rfl, h⟩

theorem throw {fault : Fault} (h : post [] (.error fault)) :
    (MonadExcept.throw fault : Action σ α).Ends post :=
  fun _ => ⟨[], rfl, h⟩

/-- A notice is no exchange. -/
theorem announce_bind {notice : Notice} {f : Unit → Action σ α} (h : (f ()).Ends post) :
    (announce notice >>= f : Action σ α).Ends post := by
  intro s
  obtain ⟨events, hafter, hpost⟩ := h (s.next (.notice notice))
  exact ⟨.notice notice :: events, hafter, hpost⟩

/-- A request is an exchange, whichever answer it gets. -/
theorem attempt_bind {r : Request} {f : Except CallFailure r.Reply → Action σ α}
    (h : ∀ answer, (f answer).Ends fun xs outcome => post (⟨r, answer⟩ :: xs) outcome) :
    (attempt r >>= f : Action σ α).Ends post := by
  intro s
  obtain ⟨events, hafter, hpost⟩ := h (Workspace.answer r s.workspace).1 (s.next (.request r))
  exact ⟨.request r :: events, hafter, hpost⟩

/-- A result that is changed afterwards. -/
theorem bind_pure {g : α → β} {post : List Exchange → Except Fault β → Prop}
    (h : x.Ends fun xs outcome => post xs (outcome.map g)) :
    (x >>= fun a => Pure.pure (g a) : Action σ β).Ends post := by
  intro s
  obtain ⟨events, hafter, hpost⟩ := h s
  refine ⟨events, ?_⟩
  rcases hrun : x.on s with ⟨fault | a, t⟩ <;> rw [hrun] at hafter hpost
  · rw [on_bind_of_error hrun]
    exact ⟨hafter, hpost⟩
  · rw [on_bind_of_ok hrun]
    exact ⟨hafter, hpost⟩

/-- What follows from what is known of an action. -/
theorem imp {wider : List Exchange → Except Fault α → Prop} (h : x.Ends post)
    (hpost : ∀ xs outcome, post xs outcome → wider xs outcome) : x.Ends wider := by
  intro s
  obtain ⟨events, hafter, hends⟩ := h s
  exact ⟨events, hafter, hpost _ _ hends⟩

end Action.Ends

end TableReconciler
