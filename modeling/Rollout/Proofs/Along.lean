import Rollout.Proofs.Outcome

/-!
# What holds along a task

Many things that can be said of a task are said of how it ends and of its trace, hold of nothing done at
all, and carry over from steps to a sequence of them. They need a proof only for the steps in which
something is asked of the outside.

* `Along R a`: the step `a` ends, and leaves a trace, as `R` says. `Composes` is what is asked of `R`.
* `AtCalls`: the steps that ask something of the outside.
* `AtSteps`: the steps that operations are made of, a whole backup among them, which is where to begin
  with what is true of a backup but not of each of its commands.
* `runCommands_along`: from those to all commands of a task.
-/

namespace Rollout

/-- What is said of an end, that is of an error if there is one, and of a trace. -/
abbrev Saying := Option DeployError → List Event → Prop

/-- What is said of nothing done, and of what is only noted or shown, and carries over to what comes
after a step that did not fail. -/
structure Saying.Composes (R : Saying) : Prop where
  nil : R none []
  append {o l l'} : R none l → R o l' → R o (l ++ l')
  log (r : LogRecord) : R none [.log r]
  print (ls : List Line) : R none (ls.map .print)

/-- A step that ends, and leaves a trace, as is said. -/
def Along {τ α : Type} (R : Saying) (a : Step τ α) : Prop := ∀ v, R (a v).failure? (a v).trace

variable {σ τ α β : Type} {c : Connector σ} {g : Settings} {x : Session} {target : Target}
  {R : Saying}

namespace Along

theorem bind (hR : R.Composes) {a : Step τ α} {f : α → Step τ β} (ha : Along R a)
    (hf : ∀ r, Along R (f r)) : Along R (a >>= f) := by
  intro v
  have h := ha v
  rcases ho : a v with ⟨e | r, v', l⟩
  · rw [ho] at h
    rw [Step.bind_error ho]
    exact h
  · rw [ho] at h
    rw [Step.bind_ok ho]
    exact hR.append h (hf r v')

theorem pure (hR : R.Composes) (a : α) : Along R (Pure.pure a : Step τ α) := fun _ => hR.nil

theorem log (hR : R.Composes) (r : LogRecord) : Along R (Step.log r : Step τ Unit) :=
  fun _ => hR.log r

theorem print (hR : R.Composes) (ls : List Line) : Along R (Step.print ls : Step τ Unit) :=
  fun _ => hR.print ls

theorem count (hR : R.Composes) (f : ServerReport → ServerReport) :
    Along R (Engine.count f : Step (Serving σ) Unit) := fun _ => hR.nil

theorem outside {a : Step σ α} (h : Along R a) : Along R (Engine.outside a) := by
  intro v
  have hs := h v.outside
  rcases ho : a v.outside with ⟨o, s₁, l⟩
  rw [ho] at hs
  rw [Engine.outside_eq ho]
  exact hs

end Along

/-- What is said holds along every step that asks something of the outside. -/
structure AtCalls (c : Connector σ) (g : Settings) (x : Session) (target : Target) (R : Saying) :
    Prop where
  raw (command : String) : Along R (Engine.dispatch c g x target (.raw command))
  upload (source destination : String) : Along R (Engine.uploadFile c g target source destination)
  choose (directory : String) (limit : Nat) : Along R (Engine.chooseFiles c directory limit)
  presence (path : String) : Along R (Backup.isPresent c x path)
  archiver : Along R (Backup.archiver c x)
  backup (command : String) : Along R (Backup.checked c x .backup command)

/-- What is said holds along every step that an operation is made of. -/
structure AtSteps (c : Connector σ) (g : Settings) (x : Session) (target : Target) (R : Saying) :
    Prop where
  raw (command : String) : Along R (Engine.dispatch c g x target (.raw command))
  upload (source destination : String) : Along R (Engine.uploadFile c g target source destination)
  choose (directory : String) (limit : Nat) : Along R (Engine.chooseFiles c directory limit)
  rename (path : String) (d : Date) : Along R (Backup.rename c x path d)
  archive (name : String) (paths : List String) (d : Date) :
    Along R (Backup.archive c x name paths d)

namespace Backup

theorem rename_along (hR : R.Composes) (h : AtCalls c g x target R) (path : String) (d : Date) :
    Along R (rename c x path d) := by
  unfold rename
  refine (h.presence _).bind hR fun found => ?_
  split
  · exact .pure hR _
  · exact (h.backup _).bind hR fun _ => .pure hR _

theorem archive_along (hR : R.Composes) (h : AtCalls c g x target R) (name : String)
    (paths : List String) (d : Date) : Along R (archive c x name paths d) := by
  unfold archive
  refine (h.presence _).bind hR fun found => ?_
  split
  · exact .pure hR _
  · exact h.archiver.bind hR fun zip => (h.backup _).bind hR fun _ => .pure hR _

end Backup

theorem AtCalls.atSteps (hR : R.Composes) (h : AtCalls c g x target R) : AtSteps c g x target R where
  raw := h.raw
  upload := h.upload
  choose := h.choose
  rename := Backup.rename_along hR h
  archive := Backup.archive_along hR h

namespace Engine

theorem uploadCounted_along (hR : R.Composes) (h : AtSteps c g x target R)
    (source destination : String) : Along R (uploadCounted c g target source destination) := by
  unfold uploadCounted
  exact (h.upload source destination).outside.bind hR fun _ => .count hR _

theorem uploadAll_along (hR : R.Composes) (h : AtSteps c g x target R) (directory : String)
    (fs : List String) : Along R (uploadAll c g target directory fs) := by
  induction fs with
  | nil => exact .pure hR ()
  | cons f fs ih =>
    unfold uploadAll
    exact (uploadCounted_along hR h f _).bind hR fun _ => ih

theorem recorded_along (hR : R.Composes) {b : Date → Step σ BackupOutcome}
    (h : ∀ d, Along R (b d)) : Along R (recorded c g target b) := by
  have hdate : Along R (backupDate c g) := fun _ => hR.nil
  unfold recorded recordBackup
  refine hdate.outside.bind hR fun d => (h d).outside.bind hR fun o => ?_
  -- Once a backup is made, what is left is to note and to show it.
  refine Along.bind hR ?_ fun _ => (Along.print hR _).bind hR fun _ => .count hR _
  cases o with
  | created path => exact .pure hR ()
  | alreadyExists path => exact .log hR _

theorem dispatch_along (hR : R.Composes) (h : AtSteps c g x target R) (o : Operation) :
    Along R (dispatch c g x target o) := by
  cases o with
  | raw command => exact h.raw command
  | upload source destination => exact uploadCounted_along hR h source destination
  | uploadDir source destination limit =>
    exact (h.choose source limit.toNat).outside.bind hR fun fs => (Along.log hR _).bind hR fun _ =>
      uploadAll_along hR h destination fs
  | backup path =>
    rw [dispatch_backup]
    exact recorded_along hR (h.rename path)
  | zipBackup archive paths =>
    rw [dispatch_zipBackup]
    exact recorded_along hR (h.archive archive paths)

theorem runCommand_along (hR : R.Composes) (h : AtSteps c g x target R) (command : String) :
    Along R (runCommand c g x target command) := by
  unfold runCommand
  exact (Along.log hR _).bind hR fun _ => (Along.print hR _).bind hR fun _ =>
    (dispatch_along hR h _).bind hR fun _ => .count hR _

/-- **What holds along every step holds along all commands of a task.** -/
theorem runCommands_along (hR : R.Composes) (h : AtSteps c g x target R) (commands : List String) :
    Along R (runCommands c g x target commands) := by
  induction commands with
  | nil => exact .pure hR ()
  | cons command commands ih =>
    unfold runCommands
    exact (runCommand_along hR h command).bind hR fun _ => ih

end Engine

end Rollout
