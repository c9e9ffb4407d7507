import Rollout.Local
import Rollout.Ssh.Connector
import Rollout.Ssh.Script

/-!
# This machine and its servers

Tasks for this machine are run here, all others over SSH. Both see the same files.
-/

namespace Rollout

/-- This machine, and the servers it can reach. -/
structure Outside where
  here : Local.State
  there : Ssh.Rehearsal := {}

namespace Outside

def files (o : Outside) : Tree := o.here.files

def localConnector : Connector Outside :=
  Local.connector.lift Outside.here fun s o => { o with here := s }

def network : Ssh.Network Outside :=
  Ssh.Rehearsal.network.lift Outside.there (fun s o => { o with there := s }) files

/-- What a run changes before it begins: how many seconds a connection may take, and what commands
can read. -/
def prepare (timeout : Nat) (input : List UInt8) (o : Outside) : Outside :=
  { here := { o.here with input }, there := { o.there with timeoutIsZero := timeout = 0 } }

/-- Tasks for this machine are run here, all others over SSH. -/
def connector : Connector Outside :=
  .route Target.isLocalHost localConnector (Ssh.connector network)

end Outside

end Rollout
