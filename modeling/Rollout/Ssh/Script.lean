import Rollout.Ssh.Network

/-!
# Scripted SSH servers

A network of servers that follow scripts: who may log in, what each command answers, how many channels
a session is granted and which paths cannot be written. What each session was asked is kept.
-/

namespace Rollout.Ssh

/-- A way to log in that a server accepts. -/
structure Credential where
  method : String
  user : String
  secret : String
  deriving Repr, DecidableEq

/-- What an attempt offers; answers are put between bars. -/
def Attempt.credential : Attempt → Credential
  | .password user secret => ⟨"password", user, secret⟩
  | .interactive user answers => ⟨"keyboard-interactive", user, "|".intercalate answers⟩
  | .key user name => ⟨"publickey", user, name⟩

/-- What a server does with a command: it refuses, or sends messages. -/
inductive ServerAnswer where
  | refusal
  | messages (ms : List Message)

/-- The answers to a command, one after another; the last one stays. -/
structure ServerReply where
  command : String
  answers : List ServerAnswer

structure ServerScript where
  /-- The port it answers at; every port if not given. -/
  port : Option UInt16 := none
  accepted : List Credential := []
  prompts : List String := ["Password: "]
  replies : List ServerReply := []
  /-- How many channels a session is granted; no end of them if not given. -/
  maxChannels : Option Nat := none
  noFiles : Bool := false
  /-- Paths that cannot be created, and paths that cannot be written, with the status. -/
  createFailures : List (String × Nat) := []
  writeFailures : List (String × Nat) := []
  /-- Whether this is another kind of server. -/
  isForeign : Bool := false

/-- What a session was asked. -/
inductive Request where
  | login (c : Credential) (accepted : Bool)
  | exec (command : String)
  | channelRefused
  | filesRefused
  | create (path : String) (status : Option Nat)
  | writeFailed (path : String) (status : Nat)
  | stored (path : String) (content : List UInt8)
  deriving Repr, DecidableEq

/-- A session with a host, and what it was asked in order. -/
structure SessionRecord where
  host : String
  channels : Nat := 0
  requests : List Request := []

/-- A file under way. -/
structure OpenFile where
  session : Nat
  path : String
  content : List UInt8 := []
  failed : Bool := false

/-- What there is besides the servers. -/
inductive Loopback where
  /-- Addresses without a server refuse a connection. -/
  | up
  /-- No address can be reached. -/
  | down
  deriving Repr, DecidableEq

/-- Servers by host, and how far their scripts have been followed. -/
structure Rehearsal where
  servers : List (String × ServerScript) := []
  agent : List String := []
  loopback : Loopback := .down
  /-- Whether connecting may take no time at all. -/
  timeoutIsZero : Bool := false
  used : List (String × List Nat) := []
  sessions : List SessionRecord := []
  open_ : List OpenFile := []

namespace Rehearsal

/-- Whether a host is an address. -/
def isAddress (host : String) : Bool :=
  host ≠ "" && (host.toList.all (fun c => c.isDigit || c = '.') || host.toList.contains ':')

/-- The server that answers for a target. -/
def serverAt? (t : Target) (r : Rehearsal) : Option ServerScript :=
  (r.servers.lookup t.host).filter fun s => s.port.all (· == t.port)

def reach (t : Target) (r : Rehearsal) : Except ReachFault Nat × Rehearsal :=
  if t.host.toList.contains '\x00' then
    (.error (.unresolved "file name contained an unexpected NUL byte"), r)
  else match r.serverAt? t with
    | none =>
      if ¬ isAddress t.host then
        (.error (.unresolved
          "failed to lookup address information: Temporary failure in name resolution"), r)
      else if r.loopback = .down then (.error .unreachable, r)
      else if r.timeoutIsZero then (.error .timeoutOfZero, r)
      else (.error .refused, r)
    | some s =>
      if r.timeoutIsZero then (.error .timeoutOfZero, r)
      else if s.isForeign then (.error (.handshake .noBanner), r)
      else (.ok r.sessions.length, { r with sessions := r.sessions ++ [{ host := t.host }] })

/-- The script of a session's server. -/
def scriptOf (r : Rehearsal) (session : Nat) : ServerScript :=
  ((r.sessions[session]?).bind fun x => r.servers.lookup x.host).getD {}

/-- Keeps what a session was asked. -/
def note (session : Nat) (q : Request) (r : Rehearsal) : Rehearsal :=
  { r with sessions := r.sessions.modify session fun x => { x with requests := x.requests ++ [q] } }

def judge (session : Nat) (a : Attempt) (r : Rehearsal) : Bool × Rehearsal :=
  let accepted := (r.scriptOf session).accepted.contains a.credential
  (accepted, r.note session (.login a.credential accepted))

/-- A channel for a session, if it is granted one. -/
def channel? (session : Nat) (r : Rehearsal) : Bool × Rehearsal :=
  let used := ((r.sessions[session]?).map (·.channels)).getD 0
  if (r.scriptOf session).maxChannels.all (used < ·) then
    (true, { r with sessions := r.sessions.modify session fun x => { x with channels := used + 1 } })
  else (false, r.note session .channelRefused)

/-- What a command answers when it is run once more. -/
def answer (session : Nat) (command : String) (r : Rehearsal) : ServerAnswer × Rehearsal :=
  let host := ((r.sessions[session]?).map (·.host)).getD ""
  let replies := (r.scriptOf session).replies
  match replies.findIdx? (·.command = command) with
  | none => (.messages [.exitStatus 0], r)
  | some i =>
    let answers := (replies[i]?.map (·.answers)).getD []
    let counts := (r.used.lookup host).getD (replies.map fun _ => 0)
    let count := counts.getD i 0
    let a := (answers[min count (answers.length - 1)]?).getD (.messages [.exitStatus 0])
    (a, { r with
      used := (host, counts.set i (count + 1)) :: r.used.filter (·.1 ≠ host) })

def exec (session : Nat) (command : String) (r : Rehearsal) :
    Except Fault (List Message) × Rehearsal :=
  match r.channel? session with
  | (false, r) => (.error .channelRefused, r)
  | (true, r) =>
    if command.toList.contains '\x00' then (.error .nulInCommand, r)
    else
      match (r.note session (.exec command)).answer session command with
      | (.refusal, r) => (.error .execRefused, r)
      | (.messages ms, r) => (.ok ms, r)

def openFiles (session : Nat) (r : Rehearsal) : Except Fault Unit × Rehearsal :=
  match r.channel? session with
  | (false, r) => (.error .startupRefused, r)
  | (true, r) =>
    if (r.scriptOf session).noFiles then (.error .sftpRefused, r.note session .filesRefused)
    else (.ok (), r)

def create (session : Nat) (path : String) (r : Rehearsal) : Except Fault Nat × Rehearsal :=
  if path.toList.contains '\x00' then (.error .nulInPath, r)
  else
    match (r.scriptOf session).createFailures.lookup path with
    | some code => (.error (.status code), r.note session (.create path (some code)))
    | none =>
      (.ok r.open_.length,
        { r.note session (.create path none) with open_ := r.open_ ++ [{ session, path }] })

def write (file : Nat) (bytes : List UInt8) (r : Rehearsal) : Option Fault × Rehearsal :=
  match r.open_[file]? with
  | none => (some (.status 9), r)
  | some f =>
    match (r.scriptOf f.session).writeFailures.lookup f.path with
    | some code =>
      let r := if f.failed then r else r.note f.session (.writeFailed f.path code)
      (some (.status code), { r with open_ := r.open_.set file { f with failed := true } })
    | none =>
      (none, { r with open_ := r.open_.set file { f with content := f.content ++ bytes } })

def finish (file : Nat) (r : Rehearsal) : Rehearsal :=
  match r.open_[file]? with
  | some f => if f.failed then r else r.note f.session (.stored f.path f.content)
  | none => r

/-- The network of the servers, for a machine without files. -/
def network : Network Rehearsal where
  files _ := {}
  agentKeys := Rehearsal.agent
  reach
  prompts session r := (r.scriptOf session).prompts
  judge
  exec
  openFiles
  create
  write
  finish
  disconnect _ r := r

end Rehearsal

end Rollout.Ssh
