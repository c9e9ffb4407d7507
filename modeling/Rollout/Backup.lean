import Rollout.Connector
import Rollout.Date

/-!
# Dated backups

Both kinds of backup are made once a day: if the dated path is there already, nothing is done. A path
counts as there if listing it prints anything at all. Paths go to the shell as they are written, so
that what is in them is expanded there.

* `rename` moves a path to its dated name; `archive` packs paths, which stay, into a dated archive.
-/

namespace Rollout.Backup

/-- The dated name of a path. -/
def renamePath (path : String) (d : Date) : String := path ++ "-" ++ d.stamp

/-- The dated name of an archive. -/
def archivePath (archive : String) (d : Date) : String := archive ++ "." ++ d.stamp ++ ".bak.zip"

def listCommand (path : String) : String := "ls -al " ++ path

def moveCommand (path destination : String) : String := "mv " ++ path ++ " " ++ destination

def archiverCommand : String := "command -v zip"

def packCommand (archiver destination : String) (paths : List String) : String :=
  archiver ++ " -r " ++ destination ++ " " ++ " ".intercalate paths

/-- The part of the program that notes what backups find. -/
def origin : String := "shipwright::executor::backup"

variable {σ : Type}

/-- Runs a command that must end well. -/
def checked (c : Connector σ) (s : Session) (purpose : Purpose) (command : String) : Step σ Unit := do
  let r ← c.run s purpose command
  if r.success then return () else .fail (.remoteExit s.name command r.exitCode r.stderr)

/-- Whether a path is there. -/
def isPresent (c : Connector σ) (s : Session) (path : String) : Step σ Bool := do
  let r ← c.run s .presence (listCommand path)
  let found := !r.stdout.isAllBlank
  Step.log ⟨.debug, origin, "existence check",
    [("host", s.name.quoted), ("path", path.quoted), ("found", toString found)]⟩
  return found

/-- The first line of a text, without the blanks around it. -/
def firstLine (text : String) : String :=
  String.ofList (Text.trim ((Text.lines text.toList).headD []))

/-- Where the archiver is. -/
def archiver (c : Connector σ) (s : Session) : Step σ String := do
  let r ← c.run s .archiver archiverCommand
  let zip := firstLine r.stdout
  if zip = "" then
    Step.fail (.remoteFault s.name archiverCommand "zip is not installed on the remote host")
  else
    Step.log ⟨.debug, origin, "resolved zip binary", [("host", s.name.quoted), ("zip", zip)]⟩
    return zip

/-- Moves a path to its dated name. -/
def rename (c : Connector σ) (s : Session) (path : String) (d : Date) : Step σ BackupOutcome := do
  let destination := renamePath path d
  if ← isPresent c s destination then return .alreadyExists destination
  else
    checked c s .backup (moveCommand path destination)
    return .created destination

/-- Packs paths into the dated archive. -/
def archive (c : Connector σ) (s : Session) (name : String) (paths : List String) (d : Date) :
    Step σ BackupOutcome := do
  let destination := archivePath name d
  if ← isPresent c s destination then return .alreadyExists destination
  else
    let zip ← archiver c s
    checked c s .backup (packCommand zip destination paths)
    return .created destination

end Rollout.Backup
