/-!
# What a run did

A report counts what was done on one server; a recap holds the reports of a run in order.
-/

namespace Rollout

/-- What a backup step did: it made the dated copy, or found it there. -/
inductive BackupOutcome where
  | created (path : String)
  | alreadyExists (path : String)
  deriving Repr, DecidableEq

structure ServerReport where
  host : String
  /-- Commands that ran, backups that were skipped included. -/
  executed : Nat := 0
  /-- Files sent. -/
  uploaded : Nat := 0
  backupsCreated : Nat := 0
  backupsSkipped : Nat := 0
  deriving Repr, DecidableEq

def ServerReport.recordBackup (r : ServerReport) : BackupOutcome → ServerReport
  | .created _ => { r with backupsCreated := r.backupsCreated + 1 }
  | .alreadyExists _ => { r with backupsSkipped := r.backupsSkipped + 1 }

/-- The reports of a run, and how long it took. -/
structure RunRecap where
  servers : List ServerReport := []
  nanoseconds : Nat := 0
  deriving Repr, DecidableEq

namespace RunRecap

def record (r : RunRecap) (s : ServerReport) : RunRecap := { r with servers := r.servers ++ [s] }

def totalExecuted (r : RunRecap) : Nat := (r.servers.map (·.executed)).foldr (· + ·) 0

def totalUploaded (r : RunRecap) : Nat := (r.servers.map (·.uploaded)).foldr (· + ·) 0

end RunRecap

end Rollout
