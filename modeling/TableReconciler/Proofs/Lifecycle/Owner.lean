import TableReconciler.Proofs.Lifecycle.Operation

/-!
# The owner

Resolving the owner asks for the current user where that is the owner (`journal_resolveOwner`), and
an owner that was resolved is set if it is to change (`journal_adjustOwner`).  None of this ends in
another fault than that of a request, or the want of a current user (`fails_adjustOwner`).
-/

namespace TableReconciler.Policy

variable {σ : Type} [Workspace σ] {τ : Type} [Entry τ]

/-! ## Events -/

/-- The events of looking up the current user: a managed owner that is empty is the current user. -/
def identifyingOwner (desired : TableSpec τ) : List Event :=
  if !desired.owner.isNull && desired.owner.isEmpty then [.request .currentUser] else []

/-- The events of setting the owner after it was resolved: it is set if there is one and it is not
the previous one. -/
def changingOwner (desired : TableSpec τ) (previous : TableSpec) :
    Except Fault (Option Value) → List Event
  | .ok (some owner) =>
      if owner.equals previous.owner then []
      else [.notice (.settingOwner desired.name owner.display),
        .request (.setOwner desired.name.format owner)]
  | _ => []

/-- These events belong to their stages. -/
theorem within_owner (desired : TableSpec τ) (previous : TableSpec)
    (resolved : Except Fault (Option Value)) :
    (∀ event ∈ identifyingOwner desired, event.Within .identifying) ∧
      ∀ event ∈ changingOwner desired previous resolved, event.Within .owning := by
  constructor
  · unfold identifyingOwner
    split <;> simp [Event.Within, Request.stage]
  · rcases resolved with fault | _ | owner
    · simp [changingOwner]
    · simp [changingOwner]
    · dsimp only [changingOwner]
      split <;> simp [Event.Within, Request.stage]

/-- A fault of setting the owner: a request failed, or there is no current user. -/
def OwnerFault (fault : Fault) : Prop :=
  fault = .noCurrentUser ∨ ∃ failure, fault = .call failure

/-! ## Actions -/

/-- Looking up the current user is one request. -/
theorem journal_currentUserName (s : Session σ) :
    (Catalog.currentUserName.on s).2.journal = s.journal ++ [.request .currentUser] := by
  have hafter : (Catalog.currentUserName.on s).2 = s.after [.request .currentUser] := by
    unfold Catalog.currentUserName
    refine Action.after_call_bind (fun reply t => ?_) s
    split <;> rfl
  rw [hafter, Session.journal_after]

omit [Entry τ] in
/-- Resolving the owner looks up the current user where that is the owner. -/
theorem journal_resolveOwner (desired : TableSpec τ) (s : Session σ) :
    ((resolveOwner desired).on s).2.journal = s.journal ++ identifyingOwner desired := by
  unfold resolveOwner identifyingOwner
  cases desired.owner.isNull with
  | true => exact (List.append_nil _).symm
  | false =>
      cases desired.owner.isEmpty with
      | false => exact (List.append_nil _).symm
      | true =>
          have hasked := journal_currentUserName s
          simp only [Bool.false_eq_true, if_false, if_true, Bool.not_false, Bool.and_self]
          rcases hname : Catalog.currentUserName.on s with ⟨fault | name, t⟩ <;>
            rw [hname] at hasked
          · rw [Action.on_bind_of_error hname]
            exact hasked
          · rw [Action.on_bind_of_ok hname]
            exact hasked

/-- Setting the owner is announced, and one request. -/
theorem journal_setOwner (desired : TableSpec τ) (owner : Value) (s : Session σ) :
    ((setOwner desired owner).on s).2.journal = s.journal ++
      [.notice (.settingOwner desired.name owner.display),
        .request (.setOwner desired.name.format owner)] := by
  unfold setOwner Catalog.setOwner
  rw [Action.on_bind_of_ok (Action.on_announce _ _), Action.after_call, Session.journal_after,
    List.append_assoc]
  rfl

/-- Adjusting the owner is resolving it, and then setting it if it is to change. -/
theorem journal_adjustOwner (desired : TableSpec τ) (previous : TableSpec) (s : Session σ) :
    ((adjustOwner desired previous).on s).2.journal = s.journal ++ identifyingOwner desired ++
      changingOwner desired previous ((resolveOwner desired).on s).1 := by
  have hresolved := journal_resolveOwner desired s
  unfold adjustOwner
  rcases hresolve : (resolveOwner desired).on s with ⟨fault | _ | owner, t⟩ <;>
    rw [hresolve] at hresolved
  · rw [Action.on_bind_of_error hresolve, ← hresolved]
    exact (List.append_nil _).symm
  · rw [Action.on_bind_of_ok hresolve, ← hresolved]
    exact (List.append_nil _).symm
  · rw [Action.on_bind_of_ok hresolve, ← hresolved]
    dsimp only [changingOwner]
    cases owner.equals previous.owner with
    | true => exact (List.append_nil _).symm
    | false => exact journal_setOwner desired owner t

/-- Looking up the current user fails because of the request or for want of a current user. -/
theorem fails_currentUserName : (Catalog.currentUserName : Action σ String).Fails OwnerFault := by
  unfold Catalog.currentUserName
  refine .bind (.call _ fun failure => .inr ⟨failure, rfl⟩) fun reply => ?_
  split
  · exact .pure _
  · exact .throw (.inl rfl)

omit [Entry τ] in
/-- Resolving the owner fails in no other way. -/
theorem fails_resolveOwner (desired : TableSpec τ) :
    (resolveOwner desired : Action σ _).Fails OwnerFault := by
  unfold resolveOwner
  split
  · exact .pure none
  · split
    · exact .bind fails_currentUserName fun name => .pure _
    · exact .pure _

/-- Setting the owner fails because of the request. -/
theorem fails_setOwner (desired : TableSpec τ) (owner : Value) :
    (setOwner desired owner : Action σ Unit).Fails OwnerFault :=
  .bind (.announce _) fun _ => .call _ fun failure => .inr ⟨failure, rfl⟩

/-- Adjusting the owner fails in no other way. -/
theorem fails_adjustOwner (desired : TableSpec τ) (previous : TableSpec) :
    (adjustOwner desired previous : Action σ Unit).Fails OwnerFault := by
  unfold adjustOwner
  refine .bind (fails_resolveOwner desired) fun owner => ?_
  cases owner with
  | none => exact .pure ()
  | some owner =>
      dsimp only
      split
      · exact fails_setOwner desired owner
      · exact .pure ()

end TableReconciler.Policy
