import TableReconciler.Proofs.Lifecycle.Contexts
import TableReconciler.Sync

/-!
# The course of a synchronisation

Configurations are handled one after the other.  `Handled` says what handling one of them comes to:
it is bound, its object is read, and then one operation is carried out, which one depends on how
reading ended.  `Course` puts these together, from the session that one leaves to the next.

* `exists_course` says that there is a course for any configurations, and `on_syncAll_of_course`
  that this is what synchronising does.
* `on_syncAll_append` says that a sequence may be cut anywhere.
* `syncAll_in_order` is the main statement.
-/

namespace TableReconciler.Policy

variable {σ : Type} [Workspace σ]

/-- A configuration that was handled, with its events: those of reading its object, and those of the
operation. -/
structure SyncEntry where
  /-- The configuration. -/
  config : Value
  /-- The events of reading. -/
  reading : List Event := []
  /-- The events of the operation. -/
  operation : List Event := []

/-- All events of an entry, in their order. -/
def SyncEntry.events (entry : SyncEntry) : List Event :=
  entry.reading ++ entry.operation

/-- What handling a configuration on the session `s` comes to. -/
inductive Handled (policy : Policy) (compute : ComputeChoice) (s : Session σ) :
    SyncEntry → Except Fault Unit → Prop
  /-- It declares no description.  Nothing happens. -/
  | unbound {config : Value} {fault : Config.Fault}
      (bound : Config.table config = .error fault) :
      Handled policy compute s { config } (.error (.config fault))
  /-- Its object could not be read, for another reason than that there is none. -/
  | unread {config : Value} {desired : TableSpec Value} {fault : Fault}
      (bound : Config.table config = .ok desired)
      (read : ((Catalog.readNamed desired.fullName).on s).1 = .error fault)
      (failed : fault.isNotFound = false) :
      Handled policy compute s { config, reading := Catalog.reading desired.name.format }
        (.error fault)
  /-- There is no object, and it is created, whatever comes of that. -/
  | created {config : Value} {desired : TableSpec Value} {fault : Fault}
      {outcome : Except Fault String} {operation : List Event}
      (bound : Config.table config = .ok desired)
      (read : ((Catalog.readNamed desired.fullName).on s).1 = .error fault)
      (missing : fault.isNotFound = true)
      (created : (policy.create desired compute).on
          (s.after (Catalog.reading desired.name.format)) =
        (outcome, (s.after (Catalog.reading desired.name.format)).after operation)) :
      Handled policy compute s
        { config, reading := Catalog.reading desired.name.format, operation }
        (outcome.map fun _ => ())
  /-- There is an object, and it is updated, whatever comes of that. -/
  | updated {config : Value} {desired : TableSpec Value} {found : TableSpec}
      {outcome : Except Fault (List String)} {operation : List Event}
      (bound : Config.table config = .ok desired)
      (read : ((Catalog.readNamed desired.fullName).on s).1 = .ok found)
      (updated : (policy.update desired.name.format desired compute).on
          (s.after (Catalog.reading desired.name.format)) =
        (outcome, (s.after (Catalog.reading desired.name.format)).after operation)) :
      Handled policy compute s
        { config, reading := Catalog.reading desired.name.format, operation }
        (outcome.map fun _ => ())

/-- Handling configurations one after the other, from the session `s` on: the entries of those that
are handled, and the outcome. -/
inductive Course (policy : Policy) (compute : ComputeChoice) :
    Session σ → List Value → List SyncEntry → Except Fault Unit → Prop
  /-- No configuration is left. -/
  | done (s : Session σ) : Course policy compute s [] [] (.ok ())
  /-- A configuration is handled to its end, then the later ones. -/
  | next {s : Session σ} {entry : SyncEntry} {configs : List Value} {entries : List SyncEntry}
      {outcome : Except Fault Unit} (handled : policy.Handled compute s entry (.ok ()))
      (rest : Course policy compute (s.after entry.events) configs entries outcome) :
      Course policy compute s (entry.config :: configs) (entry :: entries) outcome
  /-- A configuration is not handled to its end, and no later one is handled at all. -/
  | stop {s : Session σ} {entry : SyncEntry} {fault : Fault}
      (handled : policy.Handled compute s entry (.error fault)) (later : List Value) :
      Course policy compute s (entry.config :: later) [entry] (.error fault)

variable {policy : Policy} {compute : ComputeChoice} {s : Session σ}

/-! ## One configuration -/

/-- The object of a description is read under its name. -/
theorem on_readNamed {desired : TableSpec Value} {answer : Except Fault TableSpec}
    (h : ((Catalog.readNamed desired.fullName).on s).1 = answer) :
    (Catalog.readNamed desired.fullName).on s =
      (answer, s.after (Catalog.reading desired.name.format)) := by
  rw [← h, ← desired.written_fullName, ← Catalog.after_readNamed]

/-- What is done for a description after its object was read. -/
def carryOut (policy : Policy) (compute : ComputeChoice) (desired : TableSpec Value) :
    Except Fault TableSpec → Action σ Unit
  | .ok _ => do let _ ← policy.update desired.name.format desired compute
  | .error fault =>
      if fault.isNotFound then do let _ ← policy.create desired compute
      else throw fault

/-- A configuration is applied by binding it, reading its object, and carrying out the rest. -/
theorem syncOne_eq (policy : Policy) (compute : ComputeChoice) (config : Value) :
    (policy.syncOne compute config : Action σ Unit) = (do
      let desired ← lift .config (Config.table config)
      let found ← ExceptT.lift (Catalog.readNamed desired.fullName : Action σ TableSpec).run
      policy.carryOut compute desired found) := by
  unfold syncOne
  refine bind_congr fun desired => bind_congr fun found => ?_
  cases found with
  | ok _ => rfl
  | error _ => rfl

/-- A configuration that declares a description is applied by reading its object first. -/
theorem on_syncOne_of_bound {config : Value} {desired : TableSpec Value}
    {answer : Except Fault TableSpec} (hbound : Config.table config = .ok desired)
    (hread : ((Catalog.readNamed desired.fullName).on s).1 = answer) :
    (policy.syncOne compute config).on s =
      (policy.carryOut compute desired answer).on
        (s.after (Catalog.reading desired.name.format)) := by
  have hlift : (lift .config (Config.table config) : Action σ _).on s = (.ok desired, s) := by
    rw [Action.on_lift, hbound]
    rfl
  have hstep : Step.on (Catalog.readNamed desired.fullName : Action σ TableSpec).run s =
      (answer, s.after (Catalog.reading desired.name.format)) := on_readNamed hread
  rw [syncOne_eq, Action.on_bind_of_ok hlift, Action.on_liftStep_bind, hstep]

/-- Applying a configuration is what handling it comes to. -/
theorem on_syncOne_of_handled {entry : SyncEntry} {outcome : Except Fault Unit}
    (h : policy.Handled compute s entry outcome) :
    (policy.syncOne compute entry.config).on s = (outcome, s.after entry.events) := by
  cases h with
  | @unbound config fault bound =>
      have hlift : (lift .config (Config.table config) : Action σ _).on s =
          (.error (.config fault), s) := by
        rw [Action.on_lift, bound]
        rfl
      exact Action.on_bind_of_error hlift
  | unread bound read failed =>
      rw [on_syncOne_of_bound bound read, carryOut, if_neg (by simp [failed]), SyncEntry.events,
        List.append_nil, Action.on_throw]
  | created bound read missing created =>
      rw [on_syncOne_of_bound bound read, carryOut, if_pos missing, SyncEntry.events,
        Session.after_append, Action.on_discard created]
  | updated bound read updated =>
      rw [on_syncOne_of_bound bound read, carryOut, SyncEntry.events, Session.after_append,
        Action.on_discard updated]

/-- Every configuration is handled in some way. -/
theorem exists_handled (policy : Policy) (compute : ComputeChoice) (config : Value)
    (s : Session σ) :
    ∃ entry outcome, entry.config = config ∧ policy.Handled compute s entry outcome := by
  rcases hbound : Config.table config with fault | desired
  · exact ⟨_, _, rfl, .unbound hbound⟩
  rcases hread : ((Catalog.readNamed desired.fullName).on s).1 with fault | found
  · cases hmissing : fault.isNotFound with
    | false => exact ⟨_, _, rfl, .unread hbound hread hmissing⟩
    | true =>
        obtain ⟨operation, hafter, -⟩ := (Operation.create desired).exists_released_of_run policy
          compute (s.after (Catalog.reading desired.name.format))
        exact ⟨_, _, rfl, .created hbound hread hmissing (Prod.ext rfl hafter)⟩
  · obtain ⟨operation, hafter, -⟩ :=
      (Operation.update desired.name.format desired).exists_released_of_run policy compute
        (s.after (Catalog.reading desired.name.format))
    exact ⟨_, _, rfl, .updated hbound hread (Prod.ext rfl hafter)⟩

/-! ## All configurations -/

/-- There is a course for any configurations. -/
theorem exists_course (policy : Policy) (compute : ComputeChoice) (configs : List Value)
    (s : Session σ) : ∃ entries outcome, policy.Course compute s configs entries outcome := by
  induction configs generalizing s with
  | nil => exact ⟨[], .ok (), .done s⟩
  | cons config later ih =>
      obtain ⟨entry, outcome, rfl, hhandled⟩ := exists_handled policy compute config s
      cases outcome with
      | error fault => exact ⟨[entry], .error fault, .stop hhandled later⟩
      | ok _ =>
          obtain ⟨entries, outcome, hcourse⟩ := ih (s.after entry.events)
          exact ⟨entry :: entries, outcome, .next hhandled hcourse⟩

/-- Synchronising the first configuration, and then, if that succeeds, the later ones. -/
theorem on_syncAll_cons (config : Value) (later : List Value) (s : Session σ) :
    (policy.syncAll compute (config :: later)).on s =
      match (policy.syncOne compute config).on s with
      | (.ok _, t) => (policy.syncAll compute later).on t
      | (.error fault, t) => (.error fault, t) := by
  have hcons : (policy.syncAll compute (config :: later) : Action σ Unit) = (do
      policy.syncOne compute config
      policy.syncAll compute later) := rfl
  rw [hcons]
  rcases hfirst : (policy.syncOne compute config).on s with ⟨fault | _, t⟩
  · exact Action.on_bind_of_error hfirst
  · exact Action.on_bind_of_ok hfirst

/-- Synchronising is following the course. -/
theorem on_syncAll_of_course {configs : List Value} {entries : List SyncEntry}
    {outcome : Except Fault Unit} (h : policy.Course compute s configs entries outcome) :
    (policy.syncAll compute configs).on s =
      (outcome, s.after (entries.flatMap SyncEntry.events)) := by
  induction h with
  | done s => rfl
  | next handled _ ih =>
      rw [on_syncAll_cons, on_syncOne_of_handled handled, List.flatMap_cons, Session.after_append]
      exact ih
  | stop handled later =>
      rw [on_syncAll_cons, on_syncOne_of_handled handled, List.flatMap_singleton]

/-- The configurations that are handled are the first ones. -/
theorem Course.handled_isPrefix {configs : List Value} {entries : List SyncEntry}
    {outcome : Except Fault Unit} (h : policy.Course compute s configs entries outcome) :
    entries.map SyncEntry.config <+: configs := by
  induction h with
  | done _ => exact List.prefix_rfl
  | next _ _ ih => exact (List.prefix_cons_inj _).mpr ih
  | stop _ later => exact ⟨later, rfl⟩

/-- A course to the end handles all configurations. -/
theorem Course.handled_eq {configs : List Value} {entries : List SyncEntry}
    (h : policy.Course compute s configs entries (.ok ())) :
    entries.map SyncEntry.config = configs := by
  generalize houtcome : Except.ok () = outcome at h
  induction h with
  | done _ => rfl
  | next _ _ ih => rw [List.map_cons, ih houtcome]
  | stop _ _ => cases houtcome

/-- A course that ends in a fault does not depend on the configurations after it. -/
theorem Course.of_fault {configs : List Value} {entries : List SyncEntry} {fault : Fault}
    (h : policy.Course compute s configs entries (.error fault)) (others : List Value) :
    policy.Course compute s (entries.map SyncEntry.config ++ others) entries (.error fault) := by
  generalize houtcome : Except.error fault = outcome at h ⊢
  induction h with
  | done _ => cases houtcome
  | next handled _ ih => exact .next handled (ih houtcome)
  | stop handled _ => exact .stop handled others

/-- A sequence of configurations may be cut anywhere. -/
theorem on_syncAll_append (first second : List Value) (s : Session σ) :
    (policy.syncAll compute (first ++ second)).on s =
      match (policy.syncAll compute first).on s with
      | (.ok _, t) => (policy.syncAll compute second).on t
      | (.error fault, t) => (.error fault, t) := by
  induction first generalizing s with
  | nil => rfl
  | cons config later ih =>
      rw [List.cons_append, on_syncAll_cons, on_syncAll_cons]
      rcases (policy.syncOne compute config).on s with ⟨fault | _, t⟩
      · rfl
      · exact ih t

/-- **Synchronising in order.** Whatever the workspace answers:

* Synchronising follows a `Course`.  Configurations are handled in their order, each from the
  session that the one before it leaves; each is bound, its object is read, and one operation is
  carried out.  That creates the object exactly when reading did not find it, and updates it exactly
  when reading succeeded.  The session after it all is the one that the events of the entries lead
  to, so that nothing is asked for a configuration before the one before it is done.
* The configurations that are handled are the first ones: all of them if the outcome is no fault.  A
  fault ends it all, and the configurations after that play no part.
* Synchronising two sequences that follow each other is synchronising the first, and then, if that
  succeeds, the second. -/
theorem syncAll_in_order (policy : Policy) (compute : ComputeChoice) (s : Session σ) :
    (∀ configs,
      let (outcome, t) := (policy.syncAll compute configs).on s
      ∃ entries, policy.Course compute s configs entries outcome ∧
        t = s.after (entries.flatMap SyncEntry.events) ∧
        entries.map SyncEntry.config <+: configs ∧
        (outcome = .ok () → entries.map SyncEntry.config = configs) ∧
        ∀ fault, outcome = .error fault → ∀ others,
          (policy.syncAll compute (entries.map SyncEntry.config ++ others)).on s =
            (.error fault, t)) ∧
    ∀ first second,
      (policy.syncAll compute (first ++ second)).on s =
        match (policy.syncAll compute first).on s with
        | (.ok _, t) => (policy.syncAll compute second).on t
        | (.error fault, t) => (.error fault, t) := by
  refine ⟨fun configs => ?_, fun first second => on_syncAll_append first second s⟩
  obtain ⟨entries, outcome, hcourse⟩ := exists_course policy compute configs s
  rw [on_syncAll_of_course hcourse]
  refine ⟨entries, hcourse, rfl, hcourse.handled_isPrefix, ?_, ?_⟩
  · rintro rfl
    exact hcourse.handled_eq
  · rintro fault rfl others
    exact on_syncAll_of_course (hcourse.of_fault others)

end TableReconciler.Policy
