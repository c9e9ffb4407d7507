import Rollout.Connector
import Rollout.Copy
import Rollout.Ssh.Login

/-!
# Sessions over SSH

How tasks use SSH servers: a session for commands runs each of them on a channel of its own, a session
for a file writes it through the file service. Every fault is told with the host and, once there is a
session, the command it belongs to.
-/

namespace Rollout.Ssh

/-- The message of a host that was not reached. -/
def ReachFault.message : ReachFault → String
  | .unresolved reason => "Cannot resolve address: " ++ reason
  | .noAddress => "Host name resolved to no address"
  | .timedOut => "Connection failed: connection timed out"
  | .timeoutOfZero => "Connection failed: cannot set a 0 duration timeout"
  | .system number text => "Connection failed: " ++ text ++ " (os error " ++ toString number ++ ")"
  | .sessionless f => "Failed to create SSH session: " ++ f.message
  | .handshake f => "SSH handshake failed: " ++ f.message

/-- What is suggested when no answer came in time. -/
def timeoutSuggestion : String :=
  "Check network connectivity and firewall rules, or raise --timeout"

/-- What is suggested when the system refuses, by its number: a connection was refused, an answer did
not come in time, or something is not permitted. -/
def systemSuggestion? (number : Nat) : Option String :=
  if number = 111 then some "Ensure SSH service is running on the target host"
  else if number = 110 then timeoutSuggestion
  else if number = 13 ∨ number = 1 then some "Check SSH key permissions and authentication"
  else none

def ReachFault.suggestion : ReachFault → Option String
  | .unresolved _ => some "Check the host name in the descriptor"
  | .timedOut => timeoutSuggestion
  | .system number _ => systemSuggestion? number
  | .noAddress | .timeoutOfZero | .sessionless _ => none
  | .handshake _ => some "Check SSH service is running on the target"

/-- The failure of a login. -/
def loginFailure (t : Target) : DeployError :=
  .connection t.host ("Authentication failed for user '" ++ t.username ++ "'")
    (some "Check the password in the descriptor, or use --ask-pass")

variable {σ : Type}

/-- Begins a session and logs in. -/
def openSession (n : Network σ) (t : Target) (s : σ) : Except DeployError Nat × σ :=
  match n.reach t s with
  | (.error f, s) => (.error (.connection t.host f.message f.suggestion), s)
  | (.ok session, s) =>
    let o := Login.run n session t s
    if o.accepted then (.ok session, o.state)
    else (.error (loginFailure t), n.disconnect session o.state)

/-- What was tried when a command failed. -/
def execStage (f : Fault) : String :=
  if f.isOfChannel then "Failed to open channel: " else "Failed to execute command: "

/-- Runs a command on a channel of its own. -/
def exec (n : Network σ) (x : Session) (command : String) (s : σ) :
    Except DeployError CommandResult × σ :=
  let fault (message : String) : DeployError := .remoteFault x.name command message
  match n.exec x.number command s with
  | (.error f, s) => (.error (fault (execStage f ++ f.message)), s)
  | (.ok messages, s) =>
    match Channel.result? messages with
    | some r => (.ok r, s)
    | none => (.error (fault "Failed to read output: stream did not contain valid UTF-8"), s)

/-- Writes the file at a path of this machine, whose content comes in the given reads, to a path of the
server; the outcome holds the reports made on the way. -/
def copyIn (reads : List UInt8 → List (List UInt8)) (n : Network σ) (x : Transfer)
    (source destination : String) (s : σ) : Copy.Outcome σ DeployError :=
  let fault (what text : String) : DeployError :=
    .remoteFault x.host ("sftp put " ++ destination) (what ++ ": " ++ text)
  match Copy.openSource (n.files s) source with
  | .error e => ⟨s, [], some e⟩
  | .ok (place, node) =>
    let (content, broken) := (n.files s).reading place node
    match n.openFiles x.number s with
    | (.error f, s) => ⟨s, [], some (fault "Failed to open SFTP" f.message)⟩
    | (.ok (), s) =>
      match n.create x.number destination s with
      | (.error f, s) => ⟨s, [], some (fault "Failed to create remote file" f.message)⟩
      | (.ok file, s) =>
        let o := (Copy.run (fun chunk s =>
          Copy.told (fun f => fault "Failed to write remote file" f.text) (n.write file chunk s))
          node.size (reads content) s).followed fun s => (broken.map (Copy.readFault source), s)
        { o with state := n.finish file o.state }

/-- Writes the file at a path of this machine, in full reads, to a path of the server. -/
def copy (n : Network σ) (x : Transfer) (source destination : String) (s : σ) :
    Copy.Outcome σ DeployError :=
  copyIn Copy.chunks n x source destination s

/-- The part of the program that notes what SSH sessions do. -/
def origin : String := "shipwright::executor::ssh"

/-- Sessions over a network of SSH servers. -/
def connector (n : Network σ) : Connector σ where
  files := n.files
  connect t s :=
    match openSession n t s with
    | (.ok session, s) => (.ok ⟨session, t.host⟩, s)
    | (.error e, s) => (.error e, s)
  exec := exec n
  close x s := n.disconnect x.number s
  openTransfer t s :=
    match openSession n t s with
    | (.ok session, s) => (.ok ⟨session, t.host⟩, s)
    | (.error e, s) => (.error e, s)
  upload x source destination s :=
    let o := copy n x source destination s
    (o.failure.elim (.ok ()) .error, o.state)
  closeTransfer x s := n.disconnect x.number s
  notes t := [⟨.debug, origin, "ssh session established", [("server", t.label)]⟩]

end Rollout.Ssh
