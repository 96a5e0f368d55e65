import TableReconciler.CommandLine
import TableReconciler.Proofs.Workspace.Run

/-!
# Reading arguments and ending

* `scan_append`: arguments that can be read leave those behind them to be read, as long as none of
  them ends the options.
* `scan_written`: whatever can be asked for can be asked for by arguments.
* `on_run_of_usage`: a run that ends with the code two has asked the workspace for nothing.
-/

namespace TableReconciler.CommandLine

/-! ## Reading -/

/-- What the first argument leaves to the others. -/
theorem scan_cons (a : Arguments) (text : String) (rest : List String) :
    scan a (text :: rest) =
      match Argument.ofText text, rest with
      | .positional, rest => scan { a with positional := a.positional ++ [text] } rest
      | .endOfOptions, rest => some { a with positional := a.positional ++ rest }
      | .localEngine, rest => scan { a with localEngine := true } rest
      | .help, rest => scan { a with help := true } rest
      | .optionWith o value, rest => scan (a.set o value) rest
      | .option o, next :: rest => scan (a.set o next) rest
      | .option _, [] => none
      | .unknown, _ => none := by
  cases rest with
  | nil =>
      rw [scan]
      cases Argument.ofText text <;> simp [scan]
  | cons next rest =>
      rw [scan]
      cases Argument.ofText text <;> rfl

/-- Two dashes end the options, and nothing else does. -/
theorem ofText_eq_endOfOptions {text : String} (h : Argument.ofText text = .endOfOptions) :
    text = "--" := by
  unfold Argument.ofText at h
  split at h
  next htext => exact String.toList_inj.mp htext
  next =>
    dsimp only at h
    split at h
    · cases h
    · cases h
    · split at h
      · cases h
      · split at h <;> cases h
  all_goals cases h

/-- Arguments that are read, with no end of the options among them, leave the others to be read. -/
theorem scan_append {a b : Arguments} {front : List String} (h : scan a front = some b)
    (hend : "--" ∉ front) (back : List String) : scan a (front ++ back) = scan b back := by
  match front with
  | [] =>
      cases h
      rfl
  | text :: rest =>
      rw [List.mem_cons, not_or] at hend
      rw [scan_cons] at h
      rw [List.cons_append, scan_cons]
      cases hargument : Argument.ofText text with
      | endOfOptions => exact absurd (ofText_eq_endOfOptions hargument).symm hend.1
      | unknown =>
          rw [hargument] at h
          cases h
      | option o =>
          rw [hargument] at h
          cases rest with
          | nil => cases h
          | cons next rest =>
              exact scan_append h (fun hmem => hend.2 (List.mem_cons_of_mem _ hmem)) back
      | positional | localEngine | help | optionWith =>
          rw [hargument] at h
          exact scan_append h hend.2 back
termination_by front.length

/-! ## Writing -/

/-- An option with its value, if it has one. -/
def writtenOption (name : String) (value : Option String) : List String :=
  value.toList.flatMap fun text => [name, text]

/-- Arguments that ask for what is given. -/
def Arguments.written (a : Arguments) : List String :=
  writtenOption "--cluster-id" a.clusterId ++ writtenOption "--warehouse-id" a.warehouseId ++
    writtenOption "--profile" a.profile ++ (if a.localEngine then ["--local-spark"] else []) ++
    (if a.help then ["--help"] else []) ++ "--" :: a.positional

/-- An option that is written is read. -/
theorem scan_writtenOption {name : String} {option : ValueOption}
    (h : Argument.ofText name = .option option) (a : Arguments) (value : Option String)
    (rest : List String) :
    scan a (writtenOption name value ++ rest) = scan (value.elim a (a.set option)) rest := by
  cases value with
  | none => rfl
  | some text =>
      change scan a (name :: text :: rest) = scan (a.set option text) rest
      rw [scan_cons, h]

/-- Whatever can be asked for can be asked for by arguments. -/
theorem scan_written (a : Arguments) : scan {} a.written = some a := by
  have hcluster : Argument.ofText "--cluster-id" = .option .cluster := by decide +kernel
  have hwarehouse : Argument.ofText "--warehouse-id" = .option .warehouse := by decide +kernel
  have hprofile : Argument.ofText "--profile" = .option .profile := by decide +kernel
  have hlocal : Argument.ofText "--local-spark" = .localEngine := by decide +kernel
  have hhelp : Argument.ofText "--help" = .help := by decide +kernel
  have hend : Argument.ofText "--" = .endOfOptions := by decide +kernel
  obtain ⟨positional, clusterId, warehouseId, profile, localEngine, help⟩ := a
  -- what is read after each of the three options with a value
  have hfirst : clusterId.elim {} (({} : Arguments).set .cluster) = { clusterId } := by
    cases clusterId <;> rfl
  have hsecond : warehouseId.elim { clusterId } (({ clusterId } : Arguments).set .warehouse) =
      { clusterId, warehouseId } := by
    cases warehouseId <;> rfl
  have hthird : profile.elim { clusterId, warehouseId }
      (({ clusterId, warehouseId } : Arguments).set .profile) =
        { clusterId, warehouseId, profile } := by
    cases profile <;> rfl
  simp only [Arguments.written, List.append_assoc]
  rw [scan_writtenOption hcluster, hfirst, scan_writtenOption hwarehouse, hsecond,
    scan_writtenOption hprofile, hthird]
  cases localEngine <;> cases help <;> simp [scan_cons, hlocal, hhelp, hend]

/-! ## Ending -/

variable {σ : Type} [Workspace σ]

/-- Applying configurations does not end with the code two. -/
theorem on_apply_ne (policy : Policy) (compute : ComputeChoice) (configs : Value)
    (s : Session σ) : ((apply policy compute configs).on s).1 ≠ .code 2 := by
  unfold apply
  simp only [Step.on_bind]
  split
  · simp
  · split <;> simp

/-- Nor does reading a file and applying its configurations. -/
theorem on_runFile_ne (policy : Policy) (read : String → Except FileFault String) (a : Arguments)
    (path : String) (s : Session σ) : ((runFile policy read a path).on s).1 ≠ .code 2 := by
  unfold runFile
  split
  · simp
  · split
    · simp
    · unfold applyFile
      simp only [Step.on_bind]
      split
      · simp
      · split
        · simp
        · simp only [Step.on_bind]
          exact on_apply_ne _ _ _ _

/-- **A run that ends with the code two has done nothing.** It has asked the workspace for nothing,
and has at most said that the targets conflict. -/
theorem on_run_of_usage {policy : Policy} {read : String → Except FileFault String}
    {arguments : List String} {s : Session σ}
    (h : ((run policy read arguments).on s).1 = .code 2) :
    ((run policy read arguments).on s).2 = s ∨
      ((run policy read arguments).on s).2 =
        { s with journal := s.journal ++ [.notice .conflictingTargets] } := by
  revert h
  unfold run
  cases scan {} arguments with
  | none => exact fun _ => .inl rfl
  | some a =>
      dsimp only
      split
      · -- help is asked for
        exact nofun
      · split
        · -- there is no path
          exact fun _ => .inl rfl
        · split
          · -- the path holds a null character
            exact nofun
          · split
            · -- there are more arguments
              exact fun _ => .inl rfl
            · split
              · -- the targets conflict
                exact fun _ => .inr rfl
              · exact fun h => absurd h (on_runFile_ne _ _ _ _ s)

end TableReconciler.CommandLine
