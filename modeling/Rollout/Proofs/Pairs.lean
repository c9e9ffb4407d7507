import Rollout.Proofs.Outcome

/-!
# Two runs side by side

Two runs over the same tasks, with outsides or settings that are not the same, are compared step by step.
What is said of a pair of outcomes is to hold where there is nothing but the log, and to carry over from
steps to what is made of them; then it needs a proof only for the steps that ask something of the outside,
or show something.

* `Pairing`: what is said of pairs of outcomes, with what is asked of it. `Pairing.Steps`: two steps of which
  it holds, wherever they start.
* `Pairing.AtCalls`: the steps that ask something of the outside, or show something.
* `runCommands_paired`, `execute_paired`: from those to the commands of a task, and to the task.
-/

namespace Rollout

/-- What is said of two outcomes of a step, one in either run. It is told where the step started, and which
part of the states is the outside. Of an outcome that both runs have, less may have to be known. -/
structure Pairing (σ : Type) where
  Holds : ∀ {τ α : Type}, (τ → σ) → τ → Outcome τ α → Outcome τ α → Prop
  Both : ∀ {τ α : Type}, (τ → σ) → τ → Outcome τ α → Prop
  still : ∀ {τ α : Type} {out : τ → σ} {v : τ} {o : Outcome τ α}, unlogged o.trace = [] →
    out o.state = out v → Both out v o
  same : ∀ {τ α : Type} {out : τ → σ} {v : τ} {o : Outcome τ α}, Both out v o → Holds out v o o
  bind : ∀ {τ α β : Type} {out : τ → σ} {v : τ} {x x' : Step τ α} {f f' : α → Step τ β},
    Holds out v (x v) (x' v) → (∀ a v, Holds out v (f a v) (f' a v)) →
    Holds out v ((x >>= f) v) ((x' >>= f') v)
  ensuring : ∀ {τ α : Type} {out : τ → σ} {v : τ} {x x' : Step τ α} {last : Step τ Unit},
    Holds out v (x v) (x' v) → (∀ v, Both out v (last v)) →
    Holds out v (x.ensuring last v) (x'.ensuring last v)
  outside : ∀ {α : Type} {a a' : Step σ α} {v : Serving σ},
    Holds id v.outside (a v.outside) (a' v.outside) →
    Holds Serving.outside v (Engine.outside a v) (Engine.outside a' v)
  reporting : ∀ {x x' : Step (Serving σ) Unit} {host : String} {s : σ},
    Holds Serving.outside ⟨s, { host }⟩ (x ⟨s, { host }⟩) (x' ⟨s, { host }⟩) →
    Holds id s (Engine.reporting host x s) (Engine.reporting host x' s)

namespace Pairing

variable {σ τ α β : Type} {P : Pairing σ} {out : τ → σ}

/-- Two steps whose outcomes are as is said, from whatever state they both start. -/
def Steps (P : Pairing σ) (out : τ → σ) (a a' : Step τ α) : Prop := ∀ v, P.Holds out v (a v) (a' v)

namespace Steps

/-- A step that both runs have. -/
theorem both {a : Step τ α} (h : ∀ v, P.Both out v (a v)) : P.Steps out a a := fun v => P.same (h v)

/-- A step that asks nothing of the outside and shows nothing, in both runs. -/
theorem still {a : Step τ α} (hlogs : ∀ v, unlogged (a v).trace = [])
    (hstate : ∀ v, out (a v).state = out v) : P.Steps out a a :=
  .both fun v => P.still (hlogs v) (hstate v)

theorem pure (a : α) : P.Steps out (Pure.pure a) (Pure.pure a) := .still (fun _ => rfl) fun _ => rfl

theorem log (r : LogRecord) : P.Steps out (Step.log r) (Step.log r) :=
  .still (fun _ => rfl) fun _ => rfl

theorem count (f : ServerReport → ServerReport) :
    P.Steps Serving.outside (Engine.count f) (Engine.count f) := .still (fun _ => rfl) fun _ => rfl

theorem bind {x x' : Step τ α} {f f' : α → Step τ β} (hx : P.Steps out x x')
    (hf : ∀ a, P.Steps out (f a) (f' a)) : P.Steps out (x >>= f) (x' >>= f') :=
  fun v => P.bind (hx v) hf

theorem outside {a a' : Step σ α} (h : P.Steps id a a') :
    P.Steps Serving.outside (Engine.outside a) (Engine.outside a') :=
  fun v => P.outside (h v.outside)

end Steps

/-- What is said holds of every step that asks something of the outside, or shows something, with two
outsides and two settings. Sessions are closed alike, and both have the same date and fallback. -/
structure AtCalls (P : Pairing σ) (c c' : Connector σ) (g g' : Settings) : Prop where
  fallback : g'.fallback = g.fallback
  day (s : σ) : g'.date.getD (c'.today s) = g.date.getD (c.today s)
  closing (x : Session) : c'.closing x = c.closing x
  close (x : Session) (r : LogRecord) (s : σ) :
    P.Both id s ((do c.closing x; Step.log r : Step σ Unit) s)
  connect (target : Target) : P.Steps id (c.connecting target) (c'.connecting target)
  raw (x : Session) (target : Target) (command : String) :
    P.Steps Serving.outside (Engine.dispatch c g x target (.raw command))
      (Engine.dispatch c' g' x target (.raw command))
  upload (target : Target) (source destination : String) :
    P.Steps id (Engine.uploadFile c g target source destination)
      (Engine.uploadFile c' g' target source destination)
  choose (directory : String) (limit : Nat) :
    P.Steps id (Engine.chooseFiles c directory limit) (Engine.chooseFiles c' directory limit)
  presence (x : Session) (path : String) :
    P.Steps id (Backup.isPresent c x path) (Backup.isPresent c' x path)
  archiver (x : Session) : P.Steps id (Backup.archiver c x) (Backup.archiver c' x)
  backup (x : Session) (command : String) :
    P.Steps id (Backup.checked c x .backup command) (Backup.checked c' x .backup command)
  showConnected (host : String) :
    P.Steps id (Step.print (g.terminal.connected host)) (Step.print (g'.terminal.connected host))
  showCommand (command : String) (o : Operation) :
    P.Steps Serving.outside (Step.print (g.terminal.command command o))
      (Step.print (g'.terminal.command command o))
  showBackup (o : BackupOutcome) :
    P.Steps Serving.outside (Step.print (g.terminal.backup o)) (Step.print (g'.terminal.backup o))

end Pairing

open Pairing

variable {σ : Type} {P : Pairing σ} {c c' : Connector σ} {g g' : Settings} {x : Session}
  {target : Target}

namespace Backup

theorem rename_paired (h : P.AtCalls c c' g g') (path : String) (d : Date) :
    P.Steps id (rename c x path d) (rename c' x path d) := by
  unfold rename
  refine (h.presence x _).bind fun found => ?_
  split
  · exact .pure _
  · exact (h.backup x _).bind fun _ => .pure _

theorem archive_paired (h : P.AtCalls c c' g g') (name : String) (paths : List String) (d : Date) :
    P.Steps id (archive c x name paths d) (archive c' x name paths d) := by
  unfold archive
  refine (h.presence x _).bind fun found => ?_
  split
  · exact .pure _
  · exact (h.archiver x).bind fun zip => (h.backup x _).bind fun _ => .pure _

end Backup

namespace Engine

theorem uploadCounted_paired (h : P.AtCalls c c' g g') (source destination : String) :
    P.Steps Serving.outside (uploadCounted c g target source destination)
      (uploadCounted c' g' target source destination) := by
  unfold uploadCounted
  exact (h.upload target source destination).outside.bind fun _ => .count _

theorem uploadAll_paired (h : P.AtCalls c c' g g') (directory : String) (fs : List String) :
    P.Steps Serving.outside (uploadAll c g target directory fs)
      (uploadAll c' g' target directory fs) := by
  induction fs with
  | nil => exact .pure ()
  | cons f fs ih =>
    unfold uploadAll
    exact (uploadCounted_paired h f _).bind fun _ => ih

theorem recorded_paired (h : P.AtCalls c c' g g') {b b' : Date → Step σ BackupOutcome}
    (hb : ∀ d, P.Steps id (b d) (b' d)) :
    P.Steps Serving.outside (recorded c g target b) (recorded c' g' target b') := by
  have hday : backupDate c' g' = backupDate c g := by
    funext s
    rw [backupDate, backupDate, h.day s]
  have hdate : P.Steps id (backupDate c g) (backupDate c' g') := by
    rw [hday]
    exact .still (fun _ => rfl) fun _ => rfl
  unfold recorded recordBackup
  refine hdate.outside.bind fun d => (hb d).outside.bind fun o => Steps.bind ?_ fun _ =>
    (h.showBackup o).bind fun _ => .count _
  cases o with
  | created path => exact .pure ()
  | alreadyExists path => exact .log _

theorem dispatch_paired (h : P.AtCalls c c' g g') (o : Operation) :
    P.Steps Serving.outside (dispatch c g x target o) (dispatch c' g' x target o) := by
  cases o with
  | raw command => exact h.raw x target command
  | upload source destination => exact uploadCounted_paired h source destination
  | uploadDir source destination limit =>
    exact (h.choose source limit.toNat).outside.bind fun fs => (Steps.log _).bind fun _ =>
      uploadAll_paired h destination fs
  | backup path =>
    rw [dispatch_backup, dispatch_backup]
    exact recorded_paired h (Backup.rename_paired h path)
  | zipBackup archive paths =>
    rw [dispatch_zipBackup, dispatch_zipBackup]
    exact recorded_paired h (Backup.archive_paired h archive paths)

theorem runCommand_paired (h : P.AtCalls c c' g g') (command : String) :
    P.Steps Serving.outside (runCommand c g x target command)
      (runCommand c' g' x target command) := by
  unfold runCommand
  exact (Steps.log _).bind fun _ => (h.showCommand _ _).bind fun _ =>
    (dispatch_paired h _).bind fun _ => .count _

theorem runCommands_paired (h : P.AtCalls c c' g g') (commands : List String) :
    P.Steps Serving.outside (runCommands c g x target commands)
      (runCommands c' g' x target commands) := by
  induction commands with
  | nil => exact .pure ()
  | cons command commands ih =>
    unfold runCommands
    exact (runCommand_paired h command).bind fun _ => ih

/-- **What is said of all calls is said of a task.** -/
theorem execute_paired (h : P.AtCalls c c' g g') (t : Task) :
    P.Steps id (execute c g t) (execute c' g' t) := by
  have htarget : targetOf g' t = targetOf g t := by rw [targetOf, targetOf, h.fallback]
  unfold execute
  simp only [htarget, h.closing]
  refine (Steps.log _).bind fun _ => (h.connect _).bind fun x => (h.showConnected _).bind fun _ => ?_
  exact fun s => P.ensuring (P.reporting (runCommands_paired h t.commands _)) (h.close x _)

end Engine

end Rollout
