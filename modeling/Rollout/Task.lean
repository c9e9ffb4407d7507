import Rollout.Text.Blank
import Rollout.Text.Quoted

/-!
# Tasks and targets

A task is what a server is to run: its commands, in order, with nothing left to resolve. A target is
where and as whom to connect for it.

* `limit` keeps the tasks of the hosts in a comma list; without a list it keeps all.
* `Target.withFallback` supplies a password where the descriptor left it empty.
* Neither a task nor a target shows its password when it is described.
-/

namespace Rollout

/-- The commands of one server, fully resolved. -/
structure Task where
  host : String
  port : UInt16
  username : String
  password : String
  commands : List String
  deriving Repr, DecidableEq, Inhabited

/-- Where and as whom to connect. -/
structure Target where
  host : String
  port : UInt16
  username : String
  password : String
  deriving Repr, DecidableEq, Inhabited

namespace Target

/-- The password to use where none is set. -/
def withFallback (t : Target) (password : Option String) : Target :=
  if t.password = "" then { t with password := password.getD "" } else t

/-- A target without its password. -/
def label (t : Target) : String := t.username ++ "@" ++ t.host ++ ":" ++ toString t.port.toNat

/-- Whether a host is the machine this runs on. -/
def isLocalHost (host : String) : Bool :=
  host = "localhost" || host = "127.0.0.1" || host = "::1"

def isLocal (t : Target) : Bool := isLocalHost t.host

end Target

namespace Task

def target (t : Task) : Target := ⟨t.host, t.port, t.username, t.password⟩

/-- A task without its password. -/
def label (t : Task) : String := t.username ++ "@" ++ t.host ++ ":" ++ toString t.port.toNat

/-- Everything about a task but its password. -/
def describe (t : Task) : String :=
  "CompiledTask \x7b host: " ++ t.host.quoted ++ ", port: " ++ toString t.port.toNat ++
    ", username: " ++ t.username.quoted ++ ", password: " ++ "<redacted>".quoted ++
    ", commands: [" ++ ", ".intercalate (t.commands.map String.quoted) ++ "] \x7d"

/-- How many commands tasks have in all. -/
def totalCommands (ts : List Task) : Nat := (ts.map (·.commands.length)).foldr (· + ·) 0

/-- The hosts named in a comma list: its pieces, trimmed, without the empty ones. -/
def hostsOf (list : String) : List String :=
  (((Text.split (· == ',') list.toList).map Text.trim).filter (· ≠ [])).map String.ofList

/-- The tasks of the hosts in a comma list; all of them without one. -/
def limit (hosts : Option String) (ts : List Task) : List Task :=
  match hosts with
  | none => ts
  | some list => ts.filter fun t => (hostsOf list).contains t.host

end Task

end Rollout
