import Rollout.File.Tree
import Rollout.Ssh.Channel
import Rollout.Ssh.Fault
import Rollout.Task

/-!
# The other side of SSH sessions

All that a network of SSH servers can do in reply, and what the agent on this machine holds. Replies
may depend on everything that happened before.
-/

namespace Rollout.Ssh

/-- A way to log in, with what is offered. -/
inductive Attempt where
  | password (user secret : String)
  /-- Answers to the questions of the server. -/
  | interactive (user : String) (answers : List String)
  /-- A key of the agent. -/
  | key (user name : String)
  deriving Repr, DecidableEq

/-- Why no session could be begun with a host. -/
inductive ReachFault where
  /-- The name is no address and stands for none. -/
  | unresolved (reason : String)
  /-- The name is known, but no address goes with it. -/
  | noAddress
  /-- No answer came in time. -/
  | timedOut
  | timeoutOfZero
  /-- Any refusal by the system, with its number and text. -/
  | system (number : Nat) (text : String)
  /-- There is a connection, but nothing to speak over it with. -/
  | sessionless (fault : Fault)
  | handshake (fault : Fault)
  deriving Repr, DecidableEq

namespace ReachFault

def refused : ReachFault := .system 111 "Connection refused"

def unreachable : ReachFault := .system 101 "Network is unreachable"

end ReachFault

/-- What servers do, over states of the network. Sessions and open files are known by numbers. -/
structure Network (σ : Type) where
  /-- The files of this machine. -/
  files : σ → Tree
  /-- The keys that the agent holds, in its order; there may be no agent, or one that fails. -/
  agentKeys : σ → List String
  reach : Target → σ → Except ReachFault Nat × σ
  /-- What a session asks of a user who answers questions. -/
  prompts : Nat → σ → List String
  judge : Nat → Attempt → σ → Bool × σ
  exec : Nat → String → σ → Except Fault (List Message) × σ
  /-- Opens the file service of a session. -/
  openFiles : Nat → σ → Except Fault Unit × σ
  create : Nat → String → σ → Except Fault Nat × σ
  write : Nat → List UInt8 → σ → Option Fault × σ
  /-- Closes a file. -/
  finish : Nat → σ → σ
  disconnect : Nat → σ → σ

/-- The same network as a part of a larger state, with the files of the whole. -/
def Network.lift {σ τ : Type} (part : τ → σ) (replace : σ → τ → τ) (files : τ → Tree)
    (n : Network σ) : Network τ :=
  let on {α : Type} (f : σ → α × σ) (t : τ) : α × τ :=
    let (a, s) := f (part t)
    (a, replace s t)
  { files
    agentKeys := fun t => n.agentKeys (part t)
    reach := fun target => on (n.reach target)
    prompts := fun session t => n.prompts session (part t)
    judge := fun session a => on (n.judge session a)
    exec := fun session command => on (n.exec session command)
    openFiles := fun session => on (n.openFiles session)
    create := fun session path => on (n.create session path)
    write := fun file bytes => on (n.write file bytes)
    finish := fun file t => replace (n.finish file (part t)) t
    disconnect := fun session t => replace (n.disconnect session (part t)) t }

/-- A channel could not be opened for a command, or what came after it failed. -/
def Fault.isOfChannel : Fault → Bool
  | .channelRefused => true
  | _ => false

end Rollout.Ssh
