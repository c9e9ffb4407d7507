import Rollout.Error
import Rollout.File.Fault
import Rollout.Log
import Rollout.Report
import Rollout.Task
import Rollout.Terminal

/-!
# Steps with a trace

A step acts on a state, and either answers or fails; in both cases the state goes on, and everything
that happened on the way is in its trace. Calls to the outside stand in the trace with the replies
they got.

* `Step` is a monad: after a failure nothing else happens, except for what `Step.ensuring` asks for.
-/

namespace Rollout

/-- A session for commands; it goes by a name of its own. -/
structure Session where
  number : Nat
  name : String
  deriving Repr, DecidableEq

/-- A session for one file. -/
structure Transfer where
  number : Nat
  host : String
  deriving Repr, DecidableEq

/-- What a command is run for. -/
inductive Purpose where
  /-- A command of the task. -/
  | command
  /-- Whether a path is there already. -/
  | presence
  /-- Where the archiver is. -/
  | archiver
  /-- The backup itself. -/
  | backup
  deriving Repr, DecidableEq

inductive Event where
  | connect (target : Target) (reply : Except DeployError Session)
  | exec (session : Session) (purpose : Purpose) (command : String)
      (reply : Except DeployError CommandResult)
  | close (session : Session)
  | openTransfer (target : Target) (reply : Except DeployError Transfer)
  | upload (transfer : Transfer) (source destination : String) (size : Nat)
      (reply : Except DeployError Unit)
  | closeTransfer (transfer : Transfer)
  /-- A look at a local file that is to be sent, with its size. -/
  | inspect (source : String) (reply : Except DeployError Nat)
  /-- A look at a local directory whose files are to be sent. -/
  | choose (directory : String) (reply : Except DeployError (List String))
  | print (line : Line)
  /-- A question; the answer goes on the same line. -/
  | ask (question : Line)
  /-- A question whose answer is not shown. -/
  | askHidden (question : Line)
  | log (record : LogRecord)

/-- What became of a step. -/
structure Outcome (σ α : Type) where
  result : Except DeployError α
  state : σ
  trace : List Event

/-- Acts on a state, and tells what happened. -/
def Step (σ α : Type) : Type := σ → Outcome σ α

namespace Step

variable {σ α β : Type}

def pure (a : α) : Step σ α := fun s => ⟨.ok a, s, []⟩

def bind (x : Step σ α) (f : α → Step σ β) : Step σ β := fun s =>
  let o := x s
  match o.result with
  | .ok a =>
    let p := f a o.state
    ⟨p.result, p.state, o.trace ++ p.trace⟩
  | .error e => ⟨.error e, o.state, o.trace⟩

instance : Monad (Step σ) where
  pure := Step.pure
  bind := Step.bind

def fail (e : DeployError) : Step σ α := fun s => ⟨.error e, s, []⟩

/-- Answers what is known. -/
def ofExcept : Except DeployError α → Step σ α
  | .ok a => pure a
  | .error e => fail e

def get : Step σ σ := fun s => ⟨.ok s, s, []⟩

def modify (f : σ → σ) : Step σ Unit := fun s => ⟨.ok (), f s, []⟩

/-- A call to the outside: its reply is the answer, and stands in the trace. -/
def call (reply : σ → Except DeployError α × σ) (event : Except DeployError α → Event) : Step σ α :=
  fun s =>
    let (r, s) := reply s
    ⟨r, s, [event r]⟩

/-- A call to the outside that always succeeds. -/
def tell (change : σ → σ) (event : Event) : Step σ Unit := fun s => ⟨.ok (), change s, [event]⟩

def print (ls : List Line) : Step σ Unit := fun s => ⟨.ok (), s, ls.map .print⟩

/-- Something that happens and has no reply. -/
def emit (e : Event) : Step σ Unit := fun s => ⟨.ok (), s, [e]⟩

def logAll (rs : List LogRecord) : Step σ Unit := fun s => ⟨.ok (), s, rs.map .log⟩

def log (r : LogRecord) : Step σ Unit := logAll [r]

/-- A step, and then another one whatever became of the first. -/
def ensuring (x : Step σ α) (last : Step σ Unit) : Step σ α := fun s =>
  let o := x s
  let p := last o.state
  ⟨o.result, p.state, o.trace ++ p.trace⟩

/-- A step on a part of the state. -/
def onPart {τ : Type} (part : τ → σ) (replace : τ → σ → τ) (x : Step σ α) : Step τ α := fun t =>
  let o := x (part t)
  ⟨o.result, replace t o.state, o.trace⟩

end Step

end Rollout
