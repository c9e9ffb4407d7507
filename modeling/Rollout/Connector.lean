import Rollout.Date
import Rollout.File.Tree
import Rollout.Step

/-!
# The outside of a run

A run acts on servers through sessions, and reads the files it sends from a tree. What the outside
does in reply may depend on all that happened before, which is what its state holds; nothing else is
assumed of it.
-/

namespace Rollout

/-- How sessions are opened, used and closed, where local files are, and what day it is. -/
structure Connector (σ : Type) where
  files : σ → Tree
  connect : Target → σ → Except DeployError Session × σ
  exec : Session → String → σ → Except DeployError CommandResult × σ
  close : Session → σ → σ
  openTransfer : Target → σ → Except DeployError Transfer × σ
  /-- Sends the local file at the first path to the second. -/
  upload : Transfer → String → String → σ → Except DeployError Unit × σ
  closeTransfer : Transfer → σ → σ
  /-- What is noted when a session has been opened. -/
  notes : Target → List LogRecord := fun _ => []
  /-- Today's date. -/
  today : σ → Date := fun _ => .newYear2024

namespace Connector

variable {σ : Type}

def connecting (c : Connector σ) (t : Target) : Step σ Session := do
  let s ← Step.call (c.connect t) (.connect t)
  Step.logAll (c.notes t)
  return s

def run (c : Connector σ) (s : Session) (purpose : Purpose) (command : String) :
    Step σ CommandResult :=
  .call (c.exec s command) (.exec s purpose command)

def closing (c : Connector σ) (s : Session) : Step σ Unit := .tell (c.close s) (.close s)

def openingTransfer (c : Connector σ) (t : Target) : Step σ Transfer := do
  let x ← Step.call (c.openTransfer t) (.openTransfer t)
  Step.logAll (c.notes t)
  return x

def uploading (c : Connector σ) (x : Transfer) (source destination : String) (size : Nat) :
    Step σ Unit :=
  .call (c.upload x source destination) (.upload x source destination size)

def closingTransfer (c : Connector σ) (x : Transfer) : Step σ Unit :=
  .tell (c.closeTransfer x) (.closeTransfer x)

/-- A reply on a part of a state. -/
def onPart {τ α : Type} (part : τ → σ) (replace : σ → τ → τ) (f : σ → α × σ) (t : τ) : α × τ :=
  let (a, s) := f (part t)
  (a, replace s t)

/-- The same outside as a part of a larger one, with the files of the whole. -/
def lift {τ : Type} (part : τ → σ) (replace : σ → τ → τ) (c : Connector σ) : Connector τ where
  files t := c.files (part t)
  connect target := onPart part replace (c.connect target)
  exec x command := onPart part replace (c.exec x command)
  close x t := replace (c.close x (part t)) t
  openTransfer target := onPart part replace (c.openTransfer target)
  upload x source destination := onPart part replace (c.upload x source destination)
  closeTransfer x t := replace (c.closeTransfer x (part t)) t
  notes := c.notes
  today t := c.today (part t)

/-- One outside for the hosts of a class, another one for all others. Sessions go by the name of their
host. -/
def route (isHere : String → Bool) (here there : Connector σ) : Connector σ where
  files := here.files
  connect t := if isHere t.host then here.connect t else there.connect t
  exec x := if isHere x.name then here.exec x else there.exec x
  close x := if isHere x.name then here.close x else there.close x
  openTransfer t := if isHere t.host then here.openTransfer t else there.openTransfer t
  upload x := if isHere x.host then here.upload x else there.upload x
  closeTransfer x := if isHere x.host then here.closeTransfer x else there.closeTransfer x
  notes t := if isHere t.host then here.notes t else there.notes t
  today := here.today

end Connector

end Rollout
