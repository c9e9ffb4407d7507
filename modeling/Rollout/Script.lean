import Rollout.Connector

/-!
# Scripted servers

An outside that follows a script: which hosts refuse a session, what each command answers, and which
paths cannot be written. A command that the script does not know succeeds without output.
-/

namespace Rollout

/-- What the script has a command do. -/
inductive ScriptedAnswer where
  | result (r : CommandResult)
  | failure (message : String)

/-- The answers to a command, one after another; the last one stays. -/
structure ScriptedReply where
  command : String
  /-- The session it is for, by its name; any if there is none. -/
  host : Option String := none
  answers : List ScriptedAnswer

structure Script where
  replies : List ScriptedReply := []
  /-- The names that sessions go by, by host. -/
  names : List (String × String) := []
  refused : List String := []
  refusedTransfers : List String := []
  /-- Paths that cannot be written, with the reason. -/
  uploadFailures : List (String × String) := []

namespace Script

/-- How far a script has been followed: how often each reply has been used, and how many sessions
have been opened. -/
structure State where
  files : Tree
  used : List Nat
  opened : Nat := 0

def start (s : Script) (files : Tree) : State := { files, used := s.replies.map fun _ => 0 }

/-- The reply for a command, by its place. -/
def place? (s : Script) (name command : String) : Option Nat :=
  s.replies.findIdx? fun r => r.command = command && r.host.all (· = name)

/-- What a command answers when it is run once more. -/
def answer (s : Script) (name command : String) (st : State) : ScriptedAnswer × State :=
  match s.place? name command with
  | none => (.result {}, st)
  | some i =>
    let answers := (s.replies[i]?.map (·.answers)).getD []
    let used := st.used.getD i 0
    let a := (answers[min used (answers.length - 1)]?).getD (.result {})
    (a, { st with used := st.used.set i (used + 1) })

/-- The failure of a session that is refused. -/
def refusal (t : Target) : DeployError :=
  .connection t.host ("Authentication failed for user '" ++ t.username ++ "'") none

/-- The outside that follows a script. -/
def connector (s : Script) : Connector State where
  files := State.files
  connect t st :=
    if s.refused.contains t.host then (.error (refusal t), st)
    else (.ok ⟨st.opened, (s.names.lookup t.host).getD t.host⟩, { st with opened := st.opened + 1 })
  exec x command st :=
    match s.answer x.name command st with
    | (.result r, st) => (.ok r, st)
    | (.failure message, st) => (.error (.remoteFault x.name command message), st)
  close _ st := st
  openTransfer t st :=
    if s.refusedTransfers.contains t.host then (.error (refusal t), st)
    else (.ok ⟨st.opened, t.host⟩, { st with opened := st.opened + 1 })
  upload x _ destination st :=
    match s.uploadFailures.lookup destination with
    | some message => (.error (.remoteFault x.host ("sftp put " ++ destination) message), st)
    | none => (.ok (), st)
  closeTransfer _ st := st

end Script

end Rollout
