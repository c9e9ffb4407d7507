import Rollout.Connector
import Rollout.Copy
import Rollout.Shell.Run

/-!
# This machine as a server

Commands for this machine are run by its shell, in the working directory, and a file sent to it is
copied. Output is read as text whatever it is; a command that was killed has the exit code -1.

The destination of a copy is made empty before the source is read. If both are the same file, nothing
is left to read.
-/

namespace Rollout.Local

/-- What the connector needs of this machine. -/
structure State where
  files : Tree
  /-- What commands can read. -/
  input : List UInt8 := []
  opened : Nat := 0

/-- The exit code of a command that was killed. -/
def killedCode : Int := -1

/-- How a process ended: what it printed, and its status unless it was killed. -/
def resultOf (output errors : List UInt8) (status : Option Nat) : CommandResult :=
  ⟨String.ofUtf8Lossy output, String.ofUtf8Lossy errors, (status.map Int.ofNat).getD killedCode⟩

def exec (host command : String) (s : State) : Except DeployError CommandResult × State :=
  if command.toList.contains '\x00' then
    (.error (.remoteFault host command
      "Failed to execute local command: nul byte found in provided data"), s)
  else
    let (r, files, input) := Shell.run s.files s.input command.toList
    (.ok (resultOf r.output r.errors r.status), { s with files, input })

/-- The files of a machine while one of them is copied. What refuses to be written is told by a
text. -/
structure Disk (σ : Type) where
  files : σ → Tree
  /-- The reads that a content comes in. -/
  reads : List UInt8 → List (List UInt8)
  /-- Makes the file at a path empty, or new. -/
  create : String → σ → Except String Location × σ
  write : Location → List UInt8 → σ → Option String × σ
  /-- Waits until all that was written is in its place. -/
  flush : Location → σ → Option String × σ

/-- Copies a file on a disk; the outcome holds the reports made on the way. -/
def copyOn {σ : Type} (disk : Disk σ) (host source destination : String) (s : σ) :
    Copy.Outcome σ DeployError :=
  let fault (text : String) : DeployError :=
    .remoteFault host ("cp " ++ source ++ " " ++ destination)
      ("Failed to write destination: " ++ text)
  match Copy.openSource (disk.files s) source with
  | .error e => ⟨s, [], some e⟩
  | .ok (place, node) =>
    match disk.create destination s with
    | (.error text, s) => ⟨s, [], some (fault text)⟩
    | (.ok target, s) =>
      let (content, broken) := (disk.files s).reading place node
      (Copy.run (fun chunk s => Copy.told fault (disk.write target chunk s)) node.size
        (disk.reads content) s).followed fun s =>
          match broken with
          | some f => (some (Copy.readFault source f), s)
          | none => Copy.told fault (disk.flush target s)

/-- A tree as a disk: reads are full, and what was written is in its place at once. -/
def treeDisk : Disk Tree where
  files := id
  reads := Copy.chunks
  create destination t :=
    match t.create destination.toList with
    | .error f => (.error f.message, t)
    | .ok (target, t) => (.ok target, t)
  write target chunk t :=
    match t.refusal? target .extend with
    | some f => (some f.message, t)
    | none => (none, t.append target chunk)
  flush _ t := (none, t)

/-- Copies a file of a tree. -/
def copy (host source destination : String) (t : Tree) : Copy.Outcome Tree DeployError :=
  copyOn treeDisk host source destination t

/-- The outcome of a copy as a reply. -/
def replyOf {σ : Type} (o : Copy.Outcome σ DeployError) : Except DeployError Unit :=
  o.failure.elim (.ok ()) .error

/-- Sessions on this machine. -/
def connector : Connector State where
  files := State.files
  connect t s := (.ok ⟨s.opened, t.host⟩, { s with opened := s.opened + 1 })
  exec x command s := exec x.name command s
  close _ s := s
  openTransfer t s := (.ok ⟨s.opened, t.host⟩, { s with opened := s.opened + 1 })
  upload x source destination s :=
    let o := copy x.host source destination s.files
    (replyOf o, { s with files := o.state })
  closeTransfer _ s := s

end Rollout.Local
