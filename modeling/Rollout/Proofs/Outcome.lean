import Rollout.Proofs.Step
import Rollout.Run

/-!
# What becomes of each step

The outcome of each step of a task, given what the outside replies: its result, the state it leaves
and its trace. Proofs about runs start from these equations.

* `Engine.uploadFile_unreadable`, `uploadFile_refused`, `uploadFile_broken` and `uploadFile_sent`: the
  four ways of an upload.
* `Backup.checked_error`, `checked_nonzero` and `checked_zero`: the three ways of a command that must
  end well.
* `Backup.calls_checked`, `calls_isPresent` and `calls_archiver`: each of these steps is one call.
* `Engine.execute_refused` and `execute_served`: a task that is not let in, and one that is.
* `Run.task_eq`: a task of a run is the task with a header before it and a record after it.
-/

namespace Rollout

variable {σ : Type} {c : Connector σ} {g : Settings} {x : Session} {y : Transfer} {target : Target}
  {s s₁ s₂ : σ} {e : DeployError}

namespace Connector

theorem connecting_error (h : c.connect target s = (.error e, s₁)) :
    c.connecting target s = ⟨.error e, s₁, [.connect target (.error e)]⟩ := by
  unfold connecting
  exact Step.bind_error (Step.call_eq h)

theorem connecting_ok (h : c.connect target s = (.ok x, s₁)) :
    c.connecting target s =
      ⟨.ok x, s₁, .connect target (.ok x) :: (c.notes target).map .log⟩ := by
  unfold connecting
  rw [Step.bind_ok (Step.call_eq h), Step.bind_ok (Step.logAll_eq _), Step.pure_eq]
  simp [Outcome.after]

theorem openingTransfer_error (h : c.openTransfer target s = (.error e, s₁)) :
    c.openingTransfer target s = ⟨.error e, s₁, [.openTransfer target (.error e)]⟩ := by
  unfold openingTransfer
  exact Step.bind_error (Step.call_eq h)

theorem openingTransfer_ok (h : c.openTransfer target s = (.ok y, s₁)) :
    c.openingTransfer target s =
      ⟨.ok y, s₁, .openTransfer target (.ok y) :: (c.notes target).map .log⟩ := by
  unfold openingTransfer
  rw [Step.bind_ok (Step.call_eq h), Step.bind_ok (Step.logAll_eq _), Step.pure_eq]
  simp [Outcome.after]

end Connector

namespace Engine

theorem outside_eq {α : Type} {a : Step σ α} {r : ServerReport} {result : Except DeployError α}
    {l : List Event} (h : a s = ⟨result, s₁, l⟩) :
    outside a ⟨s, r⟩ = ⟨result, ⟨s₁, r⟩, l⟩ := by
  simp only [outside, Step.onPart, h]

/-! ## Uploads -/

section Upload

variable {source destination : String} {n : Nat}

theorem inspect_eq {r : Except DeployError Nat} (h : sourceSize (c.files s) source = r) :
    (Step.call (fun s => (sourceSize (c.files s) source, s)) (.inspect source) : Step σ Nat) s =
      ⟨r, s, [.inspect source r]⟩ :=
  Step.call_eq (by rw [h])

theorem uploadFile_unreadable (h : sourceSize (c.files s) source = .error e) :
    uploadFile c g target source destination s = ⟨.error e, s, [.inspect source (.error e)]⟩ := by
  unfold uploadFile
  exact Step.bind_error (inspect_eq h)

theorem uploadFile_refused (hn : sourceSize (c.files s) source = .ok n)
    (h : c.openTransfer target s = (.error e, s₁)) :
    uploadFile c g target source destination s =
      ⟨.error e, s₁, [.inspect source (.ok n), .openTransfer target (.error e)]⟩ := by
  unfold uploadFile
  rw [Step.bind_ok (inspect_eq hn), Step.bind_error (Connector.openingTransfer_error h)]
  rfl

/-- The upload itself, with the close that follows it in any case. -/
theorem uploading_eq {r : Except DeployError Unit}
    (h : c.upload y source destination s₁ = (r, s₂)) :
    ((c.uploading y source destination n).ensuring (c.closingTransfer y)) s₁ =
      ⟨r, c.closeTransfer y s₂, [.upload y source destination n r, .closeTransfer y]⟩ := by
  unfold Connector.uploading
  rw [Step.ensuring_eq (Step.call_eq h)]
  rfl

theorem uploadFile_broken (hn : sourceSize (c.files s) source = .ok n)
    (hy : c.openTransfer target s = (.ok y, s₁))
    (h : c.upload y source destination s₁ = (.error e, s₂)) :
    uploadFile c g target source destination s =
      ⟨.error e, c.closeTransfer y s₂,
        .inspect source (.ok n) :: .openTransfer target (.ok y) :: (c.notes target).map .log ++
          [.upload y source destination n (.error e), .closeTransfer y]⟩ := by
  unfold uploadFile
  rw [Step.bind_ok (inspect_eq hn), Step.bind_ok (Connector.openingTransfer_ok hy),
    Step.bind_error (uploading_eq h)]
  rfl

theorem uploadFile_sent (hn : sourceSize (c.files s) source = .ok n)
    (hy : c.openTransfer target s = (.ok y, s₁))
    (h : c.upload y source destination s₁ = (.ok (), s₂)) :
    ∃ record, uploadFile c g target source destination s =
      ⟨.ok (), c.closeTransfer y s₂,
        .inspect source (.ok n) :: .openTransfer target (.ok y) :: (c.notes target).map .log ++
          [.upload y source destination n (.ok ()), .closeTransfer y, .log record] ++
          (g.terminal.uploaded destination).map .print⟩ := by
  unfold uploadFile
  rw [Step.bind_ok (inspect_eq hn), Step.bind_ok (Connector.openingTransfer_ok hy),
    Step.bind_ok (uploading_eq h), Step.bind_ok (Step.log_eq _), Step.print_eq]
  exact ⟨_, by simp only [Outcome.after, List.cons_append, List.nil_append, List.append_assoc]; rfl⟩

theorem uploadCounted_error {r : ServerReport} {l : List Event}
    (h : uploadFile c g target source destination s = ⟨.error e, s₁, l⟩) :
    uploadCounted c g target source destination ⟨s, r⟩ = ⟨.error e, ⟨s₁, r⟩, l⟩ := by
  unfold uploadCounted
  exact Step.bind_error (outside_eq h)

theorem uploadCounted_ok {r : ServerReport} {l : List Event}
    (h : uploadFile c g target source destination s = ⟨.ok (), s₁, l⟩) :
    uploadCounted c g target source destination ⟨s, r⟩ =
      ⟨.ok (), ⟨s₁, { r with uploaded := r.uploaded + 1 }⟩, l⟩ := by
  unfold uploadCounted
  rw [Step.bind_ok (outside_eq h)]
  simp [Outcome.after, count, Step.modify]

end Upload

end Engine

/-! ## Backups -/

namespace Backup

section

variable {command path : String} {purpose : Purpose} {d : Date} {r : CommandResult}

theorem checked_error (h : c.exec x command s = (.error e, s₁)) :
    checked c x purpose command s = ⟨.error e, s₁, [.exec x purpose command (.error e)]⟩ := by
  unfold checked Connector.run
  exact Step.bind_error (Step.call_eq h)

theorem checked_nonzero (h : c.exec x command s = (.ok r, s₁)) (hr : r.exitCode ≠ 0) :
    checked c x purpose command s =
      ⟨.error (.remoteExit x.name command r.exitCode r.stderr), s₁,
        [.exec x purpose command (.ok r)]⟩ := by
  have hs : r.success = false := by simp [CommandResult.success, hr]
  unfold checked Connector.run
  rw [Step.bind_ok (Step.call_eq h), hs]
  rfl

theorem checked_zero (h : c.exec x command s = (.ok r, s₁)) (hr : r.exitCode = 0) :
    checked c x purpose command s = ⟨.ok (), s₁, [.exec x purpose command (.ok r)]⟩ := by
  have hs : r.success = true := by simp [CommandResult.success, hr]
  unfold checked Connector.run
  rw [Step.bind_ok (Step.call_eq h), hs]
  rfl

theorem isPresent_error (h : c.exec x (listCommand path) s = (.error e, s₁)) :
    isPresent c x path s =
      ⟨.error e, s₁, [.exec x .presence (listCommand path) (.error e)]⟩ := by
  unfold isPresent Connector.run
  exact Step.bind_error (Step.call_eq h)

theorem isPresent_ok (h : c.exec x (listCommand path) s = (.ok r, s₁)) :
    ∃ record, isPresent c x path s =
      ⟨.ok (!r.stdout.isAllBlank), s₁,
        [.exec x .presence (listCommand path) (.ok r), .log record]⟩ := by
  unfold isPresent Connector.run
  rw [Step.bind_ok (Step.call_eq h), Step.bind_ok (Step.log_eq _)]
  exact ⟨_, rfl⟩

theorem archiver_error (h : c.exec x archiverCommand s = (.error e, s₁)) :
    archiver c x s = ⟨.error e, s₁, [.exec x .archiver archiverCommand (.error e)]⟩ := by
  unfold archiver Connector.run
  exact Step.bind_error (Step.call_eq h)

theorem archiver_missing (h : c.exec x archiverCommand s = (.ok r, s₁))
    (hz : firstLine r.stdout = "") :
    archiver c x s =
      ⟨.error (.remoteFault x.name archiverCommand "zip is not installed on the remote host"), s₁,
        [.exec x .archiver archiverCommand (.ok r)]⟩ := by
  unfold archiver Connector.run
  rw [Step.bind_ok (Step.call_eq h)]
  simp only [hz, if_true, Step.fail_eq, Outcome.after, List.append_nil]

theorem archiver_found (h : c.exec x archiverCommand s = (.ok r, s₁))
    (hz : firstLine r.stdout ≠ "") :
    ∃ record, archiver c x s =
      ⟨.ok (firstLine r.stdout), s₁,
        [.exec x .archiver archiverCommand (.ok r), .log record]⟩ := by
  unfold archiver Connector.run
  rw [Step.bind_ok (Step.call_eq h)]
  simp only [hz, if_false]
  rw [Step.bind_ok (Step.log_eq _)]
  exact ⟨_, rfl⟩

/-! ### The one call of each -/

theorem calls_checked (purpose : Purpose) (command : String) (s : σ) :
    calls (checked c x purpose command s).trace =
      [.exec x purpose command (c.exec x command s).1] := by
  rcases h : c.exec x command s with ⟨e | r, s₁⟩
  · rw [checked_error h]
    rfl
  by_cases hr : r.exitCode = 0
  · rw [checked_zero h hr]
    rfl
  · rw [checked_nonzero h hr]
    rfl

theorem calls_isPresent (path : String) (s : σ) :
    calls (isPresent c x path s).trace =
      [.exec x .presence (listCommand path) (c.exec x (listCommand path) s).1] := by
  rcases h : c.exec x (listCommand path) s with ⟨e | r, s₁⟩
  · rw [isPresent_error h]
    rfl
  · obtain ⟨record, ho⟩ := isPresent_ok h
    rw [ho]
    rfl

theorem calls_archiver (s : σ) :
    calls (archiver c x s).trace =
      [.exec x .archiver archiverCommand (c.exec x archiverCommand s).1] := by
  rcases h : c.exec x archiverCommand s with ⟨e | r, s₁⟩
  · rw [archiver_error h]
    rfl
  by_cases hz : firstLine r.stdout = ""
  · rw [archiver_missing h hz]
    rfl
  · obtain ⟨record, ho⟩ := archiver_found h hz
    rw [ho]
    rfl

/-! ### A rename -/

theorem rename_error (h : c.exec x (listCommand (renamePath path d)) s = (.error e, s₁)) :
    rename c x path d s =
      ⟨.error e, s₁, [.exec x .presence (listCommand (renamePath path d)) (.error e)]⟩ := by
  unfold rename
  exact Step.bind_error (isPresent_error h)

theorem rename_present (h : c.exec x (listCommand (renamePath path d)) s = (.ok r, s₁))
    (hr : r.stdout.isAllBlank = false) :
    ∃ record, rename c x path d s =
      ⟨.ok (.alreadyExists (renamePath path d)), s₁,
        [.exec x .presence (listCommand (renamePath path d)) (.ok r), .log record]⟩ := by
  obtain ⟨record, hp⟩ := isPresent_ok h
  rw [hr] at hp
  unfold rename
  rw [Step.bind_ok hp]
  exact ⟨record, rfl⟩

theorem rename_absent {result : Except DeployError Unit} {l : List Event}
    (h : c.exec x (listCommand (renamePath path d)) s = (.ok r, s₁))
    (hr : r.stdout.isAllBlank = true)
    (hm : checked c x .backup (moveCommand path (renamePath path d)) s₁ = ⟨result, s₂, l⟩) :
    ∃ record, rename c x path d s =
      ⟨result.map fun _ => .created (renamePath path d), s₂,
        .exec x .presence (listCommand (renamePath path d)) (.ok r) :: .log record :: l⟩ := by
  obtain ⟨record, hp⟩ := isPresent_ok h
  rw [hr] at hp
  refine ⟨record, ?_⟩
  unfold rename
  rw [Step.bind_ok hp]
  simp only [Bool.not_true, Bool.false_eq_true, if_false]
  cases result with
  | error e => rw [Step.bind_error hm]; rfl
  | ok _ => rw [Step.bind_ok hm, Step.pure_eq]; simp [Outcome.after, Except.map]

/-! ### An archive -/

variable {name : String} {paths : List String}

theorem archive_error (h : c.exec x (listCommand (archivePath name d)) s = (.error e, s₁)) :
    archive c x name paths d s =
      ⟨.error e, s₁, [.exec x .presence (listCommand (archivePath name d)) (.error e)]⟩ := by
  unfold archive
  exact Step.bind_error (isPresent_error h)

theorem archive_present (h : c.exec x (listCommand (archivePath name d)) s = (.ok r, s₁))
    (hr : r.stdout.isAllBlank = false) :
    ∃ record, archive c x name paths d s =
      ⟨.ok (.alreadyExists (archivePath name d)), s₁,
        [.exec x .presence (listCommand (archivePath name d)) (.ok r), .log record]⟩ := by
  obtain ⟨record, hp⟩ := isPresent_ok h
  rw [hr] at hp
  unfold archive
  rw [Step.bind_ok hp]
  exact ⟨record, rfl⟩

theorem archive_unlocated {l : List Event}
    (h : c.exec x (listCommand (archivePath name d)) s = (.ok r, s₁))
    (hr : r.stdout.isAllBlank = true) (hz : archiver c x s₁ = ⟨.error e, s₂, l⟩) :
    ∃ record, archive c x name paths d s =
      ⟨.error e, s₂,
        .exec x .presence (listCommand (archivePath name d)) (.ok r) :: .log record :: l⟩ := by
  obtain ⟨record, hp⟩ := isPresent_ok h
  rw [hr] at hp
  refine ⟨record, ?_⟩
  unfold archive
  rw [Step.bind_ok hp]
  simp only [Bool.not_true, Bool.false_eq_true, if_false]
  rw [Step.bind_error hz]
  rfl

theorem archive_located {zip : String} {s₃ : σ} {result : Except DeployError Unit}
    {l l' : List Event} (h : c.exec x (listCommand (archivePath name d)) s = (.ok r, s₁))
    (hr : r.stdout.isAllBlank = true) (hz : archiver c x s₁ = ⟨.ok zip, s₂, l⟩)
    (hm : checked c x .backup (packCommand zip (archivePath name d) paths) s₂ =
      ⟨result, s₃, l'⟩) :
    ∃ record, archive c x name paths d s =
      ⟨result.map fun _ => .created (archivePath name d), s₃,
        .exec x .presence (listCommand (archivePath name d)) (.ok r) :: .log record ::
          (l ++ l')⟩ := by
  obtain ⟨record, hp⟩ := isPresent_ok h
  rw [hr] at hp
  refine ⟨record, ?_⟩
  unfold archive
  rw [Step.bind_ok hp]
  simp only [Bool.not_true, Bool.false_eq_true, if_false]
  rw [Step.bind_ok hz]
  cases result with
  | error e => rw [Step.bind_error hm]; rfl
  | ok _ => rw [Step.bind_ok hm, Step.pure_eq]; simp [Outcome.after, Except.map]

end

end Backup

/-! ## Operations and commands -/

namespace Engine

section Operation

variable {r : ServerReport} {l : List Event}

theorem chooseFiles_eq {directory : String} {limit : Nat} {fs : Except DeployError (List String)}
    (h : Selection.files (c.files s) directory limit = fs) :
    chooseFiles c directory limit s = ⟨fs, s, [.choose directory fs]⟩ := by
  unfold chooseFiles
  exact Step.call_eq (by rw [h])

theorem recordBackup_eq (g : Settings) (target : Target) (o : BackupOutcome) :
    ∃ records : List LogRecord, recordBackup g target o ⟨s, r⟩ =
      ⟨.ok (), ⟨s, r.recordBackup o⟩,
        records.map .log ++ (g.terminal.backup o).map .print⟩ := by
  have hw : ∃ records : List LogRecord, (warnOfBackup target o : Step (Serving σ) Unit) ⟨s, r⟩ =
      ⟨.ok (), ⟨s, r⟩, records.map .log⟩ := by
    cases o with
    | created path => exact ⟨[], rfl⟩
    | alreadyExists path => exact ⟨[_], rfl⟩
  obtain ⟨records, hw⟩ := hw
  refine ⟨records, ?_⟩
  unfold recordBackup
  rw [Step.bind_ok hw, Step.bind_ok (Step.print_eq _)]
  simp [Outcome.after, count, Step.modify]

theorem dispatch_raw_error {command : String} (h : c.exec x command s = (.error e, s₁)) :
    dispatch c g x target (.raw command) ⟨s, r⟩ =
      ⟨.error e, ⟨s₁, r⟩, [.exec x .command command (.error e)]⟩ := by
  simp only [dispatch]
  exact Step.bind_error (outside_eq (Step.call_eq h))

theorem dispatch_raw_ok {command : String} {a : CommandResult}
    (h : c.exec x command s = (.ok a, s₁)) :
    dispatch c g x target (.raw command) ⟨s, r⟩ =
      ⟨if a.exitCode = 0 then .ok ()
        else .error (.remoteExit x.name command a.exitCode a.stderr), ⟨s₁, r⟩,
        .exec x .command command (.ok a) :: (g.terminal.output a).map .print⟩ := by
  have hc : c.run x .command command s = ⟨.ok a, s₁, [.exec x .command command (.ok a)]⟩ :=
    Step.call_eq h
  simp only [dispatch]
  rw [Step.bind_ok (outside_eq hc), Step.bind_ok (Step.print_eq _)]
  by_cases ha : a.exitCode = 0
  · simp [ha, CommandResult.success, Step.pure_eq, Outcome.after]
  · simp [ha, CommandResult.success, Step.fail_eq, Outcome.after]

theorem calls_raw (g : Settings) (target : Target) (command : String) (v : Serving σ) :
    calls (dispatch c g x target (.raw command) v).trace =
      [.exec x .command command (c.exec x command v.outside).1] := by
  rcases h : c.exec x command v.outside with ⟨e | a, s₁⟩
  · rw [dispatch_raw_error h]
    rfl
  · rw [dispatch_raw_ok h]
    simp [Event.isCall]

theorem dispatch_uploadDir_error {source destination : String} {limit : UInt64}
    (h : Selection.files (c.files s) source limit.toNat = .error e) :
    dispatch c g x target (.uploadDir source destination limit) ⟨s, r⟩ =
      ⟨.error e, ⟨s, r⟩, [.choose source (.error e)]⟩ := by
  simp only [dispatch]
  exact Step.bind_error (outside_eq (chooseFiles_eq h))

theorem dispatch_uploadDir_ok (target : Target) (destination : String) {source : String}
    {limit : UInt64} {fs : List String}
    (h : Selection.files (c.files s) source limit.toNat = .ok fs) :
    ∃ record, dispatch c g x target (.uploadDir source destination limit) ⟨s, r⟩ =
      (uploadAll c g target destination fs ⟨s, r⟩).after
        [.choose source (.ok fs), .log record] := by
  simp only [dispatch]
  rw [Step.bind_ok (outside_eq (chooseFiles_eq h)), Step.bind_ok (Step.log_eq _)]
  exact ⟨_, rfl⟩

theorem backupDate_eq : backupDate c g s = ⟨.ok (g.date.getD (c.today s)), s, []⟩ := rfl

/-- A backup of either kind, with the date it is named after and the note of what it did. -/
def recorded (c : Connector σ) (g : Settings) (target : Target)
    (b : Date → Step σ BackupOutcome) : Step (Serving σ) Unit := do
  let date ← outside (backupDate c g)
  recordBackup g target (← outside (b date))

theorem dispatch_backup (path : String) :
    dispatch c g x target (.backup path) = recorded c g target (Backup.rename c x path) := rfl

theorem dispatch_zipBackup (archive : String) (paths : List String) :
    dispatch c g x target (.zipBackup archive paths) =
      recorded c g target (Backup.archive c x archive paths) := rfl

variable {b : Date → Step σ BackupOutcome}

theorem recorded_error (h : b (g.date.getD (c.today s)) s = ⟨.error e, s₁, l⟩) :
    recorded c g target b ⟨s, r⟩ = ⟨.error e, ⟨s₁, r⟩, l⟩ := by
  unfold recorded
  rw [Step.bind_ok (outside_eq backupDate_eq), Step.bind_error (outside_eq h)]
  rfl

theorem recorded_ok (target : Target) {o : BackupOutcome}
    (h : b (g.date.getD (c.today s)) s = ⟨.ok o, s₁, l⟩) :
    ∃ records : List LogRecord, recorded c g target b ⟨s, r⟩ =
      ⟨.ok (), ⟨s₁, r.recordBackup o⟩,
        l ++ (records.map .log ++ (g.terminal.backup o).map .print)⟩ := by
  obtain ⟨records, ho⟩ := recordBackup_eq (s := s₁) (r := r) g target o
  refine ⟨records, ?_⟩
  unfold recorded
  rw [Step.bind_ok (outside_eq backupDate_eq), Step.bind_ok (outside_eq h), ho]
  rfl

end Operation

section Command

variable {command : String} {v v' : Serving σ} {l : List Event}

theorem runCommand_error
    (h : dispatch c g x target (Operation.ofCommand command) v = ⟨.error e, v', l⟩) :
    ∃ record, runCommand c g x target command v =
      ⟨.error e, v', .log record ::
        ((g.terminal.command command (Operation.ofCommand command)).map .print ++ l)⟩ := by
  unfold runCommand
  rw [Step.bind_ok (Step.log_eq _), Step.bind_ok (Step.print_eq _), Step.bind_error h]
  exact ⟨_, rfl⟩

theorem runCommand_ok
    (h : dispatch c g x target (Operation.ofCommand command) v = ⟨.ok (), v', l⟩) :
    ∃ record, runCommand c g x target command v =
      ⟨.ok (), ⟨v'.outside, { v'.report with executed := v'.report.executed + 1 }⟩, .log record ::
        ((g.terminal.command command (Operation.ofCommand command)).map .print ++ l)⟩ := by
  unfold runCommand
  rw [Step.bind_ok (Step.log_eq _), Step.bind_ok (Step.print_eq _), Step.bind_ok h]
  exact ⟨_, by simp only [Outcome.after, count, Step.modify, List.append_nil]; rfl⟩

theorem runCommands_error {commands : List String}
    (h : runCommand c g x target command v = ⟨.error e, v', l⟩) :
    runCommands c g x target (command :: commands) v = ⟨.error e, v', l⟩ :=
  Step.bind_error h

theorem runCommands_ok {commands : List String}
    (h : runCommand c g x target command v = ⟨.ok (), v', l⟩) :
    runCommands c g x target (command :: commands) v =
      (runCommands c g x target commands v').after l :=
  Step.bind_ok h

end Command

/-! ## Tasks -/

variable {t : Task}

theorem execute_refused (h : c.connect (targetOf g t) s = (.error e, s₁)) :
    ∃ record, execute c g t s =
      ⟨.error e, s₁, [.log record, .connect (targetOf g t) (.error e)]⟩ := by
  simp only [execute]
  rw [Step.bind_ok (Step.log_eq _), Step.bind_error (Connector.connecting_error h)]
  exact ⟨_, rfl⟩

theorem execute_served {r : Except DeployError Unit} {v : Serving σ} {l : List Event}
    (h : c.connect (targetOf g t) s = (.ok x, s₁))
    (hr : runCommands c g x (targetOf g t) t.commands ⟨s₁, { host := t.host }⟩ = ⟨r, v, l⟩) :
    ∃ record record', execute c g t s =
      ⟨r.map fun _ => v.report, c.close x v.outside,
        .log record :: .connect (targetOf g t) (.ok x) :: ((c.notes (targetOf g t)).map .log ++
          ((g.terminal.connected x.name).map .print ++
            (l ++ [.close x, .log record'])))⟩ := by
  have hp : reporting t.host (runCommands c g x (targetOf g t) t.commands) s₁ =
      ⟨r.map fun _ => v.report, v.outside, l⟩ := by
    simp only [reporting, hr]
  simp only [execute]
  rw [Step.bind_ok (Step.log_eq _), Step.bind_ok (Connector.connecting_ok h),
    Step.bind_ok (Step.print_eq _), Step.ensuring_eq hp]
  exact ⟨_, _, rfl⟩

end Engine

namespace Run

theorem noting_eq (total index : Nat) (t : Task) {a : Step σ ServerReport}
    {r : Except DeployError ServerReport} {l : List Event} (h : a s = ⟨r, s₁, l⟩) :
    ∃ record, task.noting total index t a s = ⟨r, s₁, l ++ [.log record]⟩ := by
  simp only [task.noting, h]
  exact ⟨_, rfl⟩

theorem task_eq (total index : Nat) {t : Task} {r : Except DeployError ServerReport}
    {l : List Event} (h : Engine.execute c g t s = ⟨r, s₁, l⟩) :
    ∃ record, task c g total index t s =
      ⟨r, s₁, (g.terminal.header (Engine.targetOf g t) index total).map .print ++
        (l ++ [.log record])⟩ := by
  obtain ⟨record, hn⟩ := noting_eq total index t h
  refine ⟨record, (Step.bind_ok (Step.print_eq _)).trans ?_⟩
  rw [hn]
  rfl

variable {total index : Nat} {t : Task} {ts : List Task} {l : List Event}

theorem tasksFrom_error (h : task c g total index t s = ⟨.error e, s₁, l⟩) :
    tasksFrom c g total index (t :: ts) s = ⟨.error e, s₁, l⟩ :=
  Step.bind_error h

theorem tasksFrom_ok {r : ServerReport} (h : task c g total index t s = ⟨.ok r, s₁, l⟩) :
    tasksFrom c g total index (t :: ts) s =
      ⟨(tasksFrom c g total (index + 1) ts s₁).result.map (r :: ·),
        (tasksFrom c g total (index + 1) ts s₁).state,
        l ++ (tasksFrom c g total (index + 1) ts s₁).trace⟩ := by
  rw [tasksFrom, Step.bind_ok h, Step.bind_pure_eq]
  rfl

theorem tasks_eq (ts : List Task) (s : σ) :
    tasks c g ts s =
      ⟨(tasksFrom c g ts.length 1 ts s).result.map fun rs => { servers := rs },
        (tasksFrom c g ts.length 1 ts s).state, (tasksFrom c g ts.length 1 ts s).trace⟩ :=
  Step.bind_pure_eq _ _

theorem report_error {n : Nat} (h : tasks c g ts s = ⟨.error e, s₁, l⟩) :
    report c g n ts s = ⟨.error e, s₁, l⟩ :=
  Step.bind_error h

theorem report_ok {n : Nat} {r : RunRecap} (h : tasks c g ts s = ⟨.ok r, s₁, l⟩) :
    report c g n ts s = ⟨.ok { r with nanoseconds := n }, s₁,
      l ++ (g.terminal.recap { r with nanoseconds := n }).map .print⟩ := by
  unfold report
  rw [Step.bind_ok h, Step.bind_ok (Step.print_eq _), Step.pure_eq]
  simp [Outcome.after]

end Run

end Rollout
