import TableReconciler.Workspace.Action

/-!
# Running actions

What a step or an action results in when it is carried out on a session, and the session it leaves.
There is one equation for every way in which actions are put together, and one for every primitive;
what is proved about operations elsewhere goes through these and does not unfold the monads.

No operation takes anything out of the journal.  `Action.Writes` says that an action only adds
events of a certain kind, `Action.Fails` that it only ends in faults of a certain kind; the latter
is shown for a composed action part by part.
-/

namespace TableReconciler

variable {σ α β : Type}

/-! ## Outcomes -/

/-- The result of a step on a session, and the session after it. -/
def Step.on (x : Step σ α) (s : Session σ) : α × Session σ :=
  x.run s

/-- The result or the fault of an action on a session, and the session after it. -/
def Action.on (x : Action σ α) (s : Session σ) : Except Fault α × Session σ :=
  Step.on x.run s

namespace Step

@[simp] theorem on_pure (a : α) (s : Session σ) : (pure a : Step σ α).on s = (a, s) := rfl

@[simp] theorem on_bind (x : Step σ α) (f : α → Step σ β) (s : Session σ) :
    (x >>= f : Step σ β).on s = (f (x.on s).1).on (x.on s).2 := rfl

@[simp] theorem on_map (f : α → β) (x : Step σ α) (s : Session σ) :
    (f <$> x : Step σ β).on s = (f (x.on s).1, (x.on s).2) := rfl

@[simp] theorem on_say (notice : Notice) (s : Session σ) :
    (say notice).on s = ((), { s with journal := s.journal ++ [.notice notice] }) := rfl

@[simp] theorem on_ask [Workspace σ] (r : Request) (s : Session σ) :
    (ask r).on s = ((Workspace.answer r s.workspace).1,
      { workspace := (Workspace.answer r s.workspace).2
        journal := s.journal ++ [.request r] }) := rfl

end Step

namespace Action

variable {x : Action σ α} {s t : Session σ}

@[simp] theorem on_pure (a : α) (s : Session σ) : (pure a : Action σ α).on s = (.ok a, s) := rfl

@[simp] theorem on_throw (fault : Fault) (s : Session σ) :
    (throw fault : Action σ α).on s = (.error fault, s) := rfl

@[simp] theorem on_liftStep_bind (x : Step σ α) (f : α → Action σ β) (s : Session σ) :
    (ExceptT.lift x >>= f : Action σ β).on s = (f (x.on s).1).on (x.on s).2 := rfl

@[simp] theorem on_announce (notice : Notice) (s : Session σ) :
    (announce notice).on s = (.ok (), { s with journal := s.journal ++ [.notice notice] }) := rfl

@[simp] theorem on_lift {ε : Type} (wrap : ε → Fault) (result : Except ε α) (s : Session σ) :
    (lift wrap result : Action σ α).on s = (result.mapError wrap, s) := by
  cases result <;> rfl

/-- A result is lifted with its own fault when that is translated beforehand. -/
theorem lift_mapError {ε : Type} (wrap : ε → Fault) (result : Except ε α) :
    (lift id (result.mapError wrap) : Action σ α) = lift wrap result := by
  cases result <;> rfl

/-- Results that follow each other are lifted one by one. -/
theorem lift_bind (result : Except Fault α) (f : α → Except Fault β) :
    (lift id (result >>= f) : Action σ β) = (do lift id (f (← lift id result))) := by
  cases result <;> rfl

/-- An action that succeeds is followed by the next one. -/
theorem on_bind_of_ok {a : α} {f : α → Action σ β} (h : x.on s = (.ok a, t)) :
    (x >>= f : Action σ β).on s = (f a).on t := by
  have hbind : (x >>= f : Action σ β).on s =
      Step.on (ExceptT.bindCont f (x.on s).1) (x.on s).2 := rfl
  rw [hbind, h]
  rfl

/-- An action that ends in a fault is followed by nothing. -/
theorem on_bind_of_error {fault : Fault} {f : α → Action σ β} (h : x.on s = (.error fault, t)) :
    (x >>= f : Action σ β).on s = (.error fault, t) := by
  have hbind : (x >>= f : Action σ β).on s =
      Step.on (ExceptT.bindCont f (x.on s).1) (x.on s).2 := rfl
  rw [hbind, h]
  rfl

/-- An action whose result is left out. -/
theorem on_discard {outcome : Except Fault α} (h : x.on s = (outcome, t)) :
    (do let _ ← x : Action σ Unit).on s = (outcome.map fun _ => (), t) := by
  cases outcome with
  | error fault => exact on_bind_of_error h
  | ok a => exact on_bind_of_ok h

/-! ## Requests -/

variable [Workspace σ] {r : Request}

@[simp] theorem on_attempt (r : Request) (s : Session σ) :
    (attempt r).on s = (.ok ((ask r).on s).1, ((ask r).on s).2) := rfl

/-- A request that is answered gives its reply. -/
theorem on_call_of_ok {reply : r.Reply} (h : (ask r).on s = (.ok reply, t)) :
    (call r).on s = (.ok reply, t) := by
  have hattempt : (attempt r).on s = (.ok (.ok reply), t) := by rw [on_attempt, h]
  unfold call
  rw [on_bind_of_ok hattempt, on_pure]

/-- A request that fails is a fault. -/
theorem on_call_of_error {failure : CallFailure} (h : (ask r).on s = (.error failure, t)) :
    (call r).on s = (.error (.call failure), t) := by
  have hattempt : (attempt r).on s = (.ok (.error failure), t) := by rw [on_attempt, h]
  unfold call
  rw [on_bind_of_ok hattempt, on_throw]

end Action

/-! ## What is written into the journal -/

/-- An action adds events to the journal, all of a certain kind, whatever the workspace answers. -/
def Action.Writes (kind : Event → Prop) (x : Action σ α) : Prop :=
  ∀ s : Session σ, ∃ events, (x.on s).2.journal = s.journal ++ events ∧ ∀ event ∈ events, kind event

/-! ## In which faults actions end -/

/-- If an action ends in a fault, it is one of a certain kind, whatever the workspace answers. -/
def Action.Fails (kind : Fault → Prop) (x : Action σ α) : Prop :=
  ∀ (s : Session σ) (fault : Fault), (x.on s).1 = .error fault → kind fault

namespace Action.Fails

variable {kind : Fault → Prop} {x : Action σ α}

theorem pure (a : α) : (Pure.pure a : Action σ α).Fails kind := by
  intro s fault h
  rw [on_pure] at h
  cases h

theorem throw {fault : Fault} (h : kind fault) :
    (MonadExcept.throw fault : Action σ α).Fails kind := by
  intro s fault' h'
  rw [on_throw] at h'
  cases h'
  exact h

theorem announce (notice : Notice) : (announce notice : Action σ Unit).Fails kind := by
  intro s fault h
  rw [on_announce] at h
  cases h

theorem attempt [Workspace σ] (r : Request) : (attempt r : Action σ _).Fails kind := by
  intro s fault h
  rw [on_attempt] at h
  cases h

theorem lift {ε : Type} {wrap : ε → Fault} (h : ∀ fault, kind (wrap fault))
    (result : Except ε α) : (lift wrap result : Action σ α).Fails kind := by
  cases result with
  | ok a => exact pure a
  | error fault => exact throw (h fault)

/-- The faults of two actions one after the other. -/
theorem bind {f : α → Action σ β} (hx : x.Fails kind) (hf : ∀ a, (f a).Fails kind) :
    (x >>= f : Action σ β).Fails kind := by
  intro s fault h
  rcases hrun : x.on s with ⟨fault' | a, t⟩
  · rw [on_bind_of_error hrun] at h
    cases h
    exact hx s fault (congrArg Prod.fst hrun)
  · rw [on_bind_of_ok hrun] at h
    exact hf a t fault h

/-- A request that has to succeed ends in no other fault than its failure. -/
theorem call [Workspace σ] (r : Request) (h : ∀ failure, kind (.call failure)) :
    (call r : Action σ _).Fails kind := by
  refine bind (attempt r) fun answer => ?_
  cases answer with
  | ok reply => exact pure reply
  | error failure => exact throw (h failure)

end Action.Fails

end TableReconciler
