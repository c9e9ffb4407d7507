import Rollout.Backup
import Rollout.File.Selection

/-!
# Running a task

One session for commands is opened for a task and closed at the end, whatever happened; every file is
sent in a session of its own. The commands run one after another, and the first failure is the last
thing that happens.

* `Engine.dispatch` is one operation, `Engine.runCommands` all commands of a task, `Engine.execute`
  the whole task.
* The report of a task is part of the state, so that what was done before a failure is known.
-/

namespace Rollout

/-- What all servers of a run have in common. -/
structure Settings where
  terminal : Terminal := {}
  /-- The password of servers that are given none. -/
  fallback : Option String := none
  /-- The date that backups are named after; the day they are made if it is not set. -/
  date : Option Date := none

/-- The outside, and the report of the task that is running. -/
structure Serving (σ : Type) where
  outside : σ
  report : ServerReport

namespace Engine

/-- The part of the program that notes what tasks do. -/
def origin : String := "shipwright::executor::engine"

variable {σ : Type}

/-- A step on the outside. -/
def outside {α : Type} (x : Step σ α) : Step (Serving σ) α :=
  x.onPart (·.outside) fun s o => { s with outside := o }

def count (f : ServerReport → ServerReport) : Step (Serving σ) Unit :=
  .modify fun s => { s with report := f s.report }

/-- Where and as whom to connect for a task. -/
def targetOf (g : Settings) (t : Task) : Target := t.target.withFallback g.fallback

/-- The size of a local file that is to be sent. -/
def sourceSize (t : Tree) (source : String) : Except DeployError Nat :=
  match t.stat source.toList with
  | .error f => .error (.filesystem ("Upload source not readable: " ++ f.message) source)
  | .ok (.file content _) => .ok content.length
  | .ok _ => .error (.filesystem "Upload source is not a file" source)

/-- Sends one file in a session of its own. -/
def uploadFile (c : Connector σ) (g : Settings) (target : Target) (source destination : String) :
    Step σ Unit := do
  let size ← Step.call (fun s => (sourceSize (c.files s) source, s)) (.inspect source)
  let x ← c.openingTransfer target
  (c.uploading x source destination size).ensuring (c.closingTransfer x)
  Step.log ⟨.info, origin, "uploaded",
    [("host", target.host), ("local", source), ("remote", destination.quoted),
      ("bytes", toString size)]⟩
  Step.print (g.terminal.uploaded destination)

/-- Sends one file, and counts it. -/
def uploadCounted (c : Connector σ) (g : Settings) (target : Target) (source destination : String) :
    Step (Serving σ) Unit := do
  outside (uploadFile c g target source destination)
  count fun r => { r with uploaded := r.uploaded + 1 }

/-- Where a file of a directory goes. -/
def destinationOf (directory file : String) : String :=
  String.ofList (Path.remoteChild directory.toList file.toList)

/-- Sends files one after another. -/
def uploadAll (c : Connector σ) (g : Settings) (target : Target) (directory : String) :
    List String → Step (Serving σ) Unit
  | [] => return ()
  | file :: files => do
    uploadCounted c g target file (destinationOf directory file)
    uploadAll c g target directory files

/-- The files of a directory that are to be sent. -/
def chooseFiles (c : Connector σ) (directory : String) (limit : Nat) : Step σ (List String) :=
  .call (fun s => (Selection.files (c.files s) directory limit, s)) (.choose directory)

/-- Warns of a backup that was skipped. -/
def warnOfBackup (target : Target) : BackupOutcome → Step σ Unit
  | .alreadyExists path =>
    Step.log ⟨.warn, origin, "backup already exists, skipping",
      [("host", target.host), ("path", path)]⟩
  | .created _ => return ()

/-- The date that a backup is named after. -/
def backupDate (c : Connector σ) (g : Settings) : Step σ Date :=
  fun s => ⟨.ok (g.date.getD (c.today s)), s, []⟩

/-- Notes what a backup did. -/
def recordBackup (g : Settings) (target : Target) (o : BackupOutcome) : Step (Serving σ) Unit := do
  warnOfBackup target o
  Step.print (g.terminal.backup o)
  count (·.recordBackup o)

/-- One operation. -/
def dispatch (c : Connector σ) (g : Settings) (s : Session) (target : Target) :
    Operation → Step (Serving σ) Unit
  | .raw command => do
    let r ← outside (c.run s .command command)
    Step.print (g.terminal.output r)
    if r.success then return () else .fail (.remoteExit s.name command r.exitCode r.stderr)
  | .upload source destination => uploadCounted c g target source destination
  | .uploadDir source destination limit => do
    let files ← outside (chooseFiles c source limit.toNat)
    Step.log ⟨.debug, origin, "directory upload",
      [("dir", source), ("selected", toString files.length), ("limit", toString limit.toNat)]⟩
    uploadAll c g target destination files
  | .backup path => do
    let date ← outside (backupDate c g)
    recordBackup g target (← outside (Backup.rename c s path date))
  | .zipBackup archive paths => do
    let date ← outside (backupDate c g)
    recordBackup g target (← outside (Backup.archive c s archive paths date))

/-- One command of a task. -/
def runCommand (c : Connector σ) (g : Settings) (s : Session) (target : Target) (command : String) :
    Step (Serving σ) Unit := do
  let o := Operation.ofCommand command
  Step.log ⟨.info, origin, "running",
    [("host", target.host), ("kind", o.kind.quoted), ("command", command)]⟩
  Step.print (g.terminal.command command o)
  dispatch c g s target o
  count fun r => { r with executed := r.executed + 1 }

/-- Commands one after another, up to the first that fails. -/
def runCommands (c : Connector σ) (g : Settings) (s : Session) (target : Target) :
    List String → Step (Serving σ) Unit
  | [] => return ()
  | command :: commands => do
    runCommand c g s target command
    runCommands c g s target commands

/-- The commands of a task, starting with an empty report. -/
def reporting (host : String) (x : Step (Serving σ) Unit) : Step σ ServerReport := fun s =>
  let o := x ⟨s, { host }⟩
  ⟨o.result.map fun _ => o.state.report, o.state.outside, o.trace⟩

/-- A task. -/
def execute (c : Connector σ) (g : Settings) (t : Task) : Step σ ServerReport := do
  let target := targetOf g t
  Step.log ⟨.info, origin, "connecting",
    [("server", target.label), ("commands", toString t.commands.length)]⟩
  let s ← c.connecting target
  Step.print (g.terminal.connected s.name)
  (reporting t.host (runCommands c g s target t.commands)).ensuring do
    c.closing s
    Step.log ⟨.debug, origin, "session closed", [("host", target.host)]⟩

end Engine

end Rollout
