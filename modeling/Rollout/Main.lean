import Std.Time.Format
import Rollout.File.Scratch
import Rollout.Outside
import Rollout.Program

/-!
# The command line

The program on the files and the terminal at hand. Tasks for this machine are run by the shell of this
library on a copy of the working directory, and what they changed is written back at the end. No
server is within reach.

What the program writes before a question does not depend on the answer. So it is started without an
answer, shown up to the question, and started again with the answer.
-/

namespace Rollout.Main

/-- Adds an entry of a directory to a tree, with all below it; links are left out. -/
partial def addEntry (above : String) (t : Tree) (e : IO.FS.DirEntry) : IO Tree := do
  let path := above ++ e.fileName
  let m ← e.path.symlinkMetadata
  match m.type with
  | .dir => (← e.path.readDir).foldlM (addEntry (path ++ "/")) (t.makePath path.toList)
  | .file =>
    let content ← IO.FS.readBinFile e.path
    let written := m.modified.sec * Terminal.nanosecondsPerSecond + m.modified.nsec.toNat
    return t.addFile path.toList content.toList (some written)
  | _ => return t

/-- A tree with a copy of the working directory. -/
def workingDirectory : IO Tree := do
  (← (← IO.currentDir).readDir).foldlM (addEntry "") Tree.scratch

/-- A tree with the one file that a command reads. -/
def onlyFile (path : String) : IO Tree := do
  try
    return Tree.scratch.addFile path.toList (← IO.FS.readBinFile path).toList none
  catch _ => return Tree.scratch

/-- The files that the program needs. -/
def filesFor (arguments : List String) : IO Tree :=
  match CommandLine.request arguments with
  | .error _ => return Tree.scratch
  | .ok q =>
    match q.action with
    | .run _ => workingDirectory
    | .plan path _ => onlyFile path
    | .validate path => onlyFile path

/-- Removes what is gone, and writes what is new or has changed. -/
def writeBack (before after : Tree) : IO Unit := do
  let old := before.entries
  let new := after.entries
  for (path, n) in old do
    if (new.lookup path).isNone then
      try
        if n = .directory then IO.FS.removeDirAll path else IO.FS.removeFile path
      catch _ => pure ()
  for (path, n) in new do
    if old.lookup path ≠ some n then
      match n with
      | .directory => IO.FS.createDirAll path
      | .file content _ => IO.FS.writeBinFile path ⟨content.toArray⟩
      | _ => pure ()

def today : IO Date := do
  let d ← Std.Time.PlainDate.now
  let day? := Date.ofYmd? d.year d.month.val.toNat d.day.val.toNat
  return day?.getD .newYear2024

def screen : IO Program.Screen := do
  return {
    outputIsTerminal := ← (← IO.getStdout).isTty
    errorIsTerminal := ← (← IO.getStderr).isTty
    colors := (← IO.getEnv "NO_COLOR").isNone
    logs := true }

/-- The line typed at the terminal, if there is one. -/
def typedLine : IO (Option (List Char)) := do
  try
    let terminal ← IO.FS.Handle.mk "/dev/tty" .read
    return some (← terminal.getLine).toList
  catch _ => return none

/-- The events up to the first of a class, if there is one. -/
def upTo? (p : Event → Bool) : List Event → Option (List Event)
  | [] => none
  | e :: es => if p e then some [e] else (upTo? p es).map (e :: ·)

def isQuestion : Event → Bool
  | .ask _ => true
  | _ => false

def isHiddenQuestion : Event → Bool
  | .askHidden _ => true
  | _ => false

/-- Writes what has not been written yet; the answer is how much has been written in all. -/
def show_ (c : Program.Screen) (o : Program.Outcome Outside) (shown : Nat × Nat) :
    IO (Nat × Nat) := do
  let output := (o.output c).toList
  let errors := (o.errors c).toList
  (← IO.getStdout).putStr (String.ofList (output.drop shown.1))
  (← IO.getStdout).flush
  (← IO.getStderr).putStr (String.ofList (errors.drop shown.2))
  return (output.length, errors.length)

/-- Shows the program up to a question, and answers it. -/
def answering (c : Program.Screen) (arguments : List String) (s : Outside) (p : Event → Bool)
    (answer : Program.World Outside → IO (Program.World Outside))
    (w : Program.World Outside) (shown : Nat × Nat) : IO (Program.World Outside × Nat × Nat) := do
  let o := Program.start w arguments s
  match upTo? p o.trace with
  | none => return (w, shown)
  | some trace =>
    let shown ← show_ c { o with ending := .complete, trace } shown
    return (← answer w, shown)

end Rollout.Main

open Rollout Rollout.Main in
/-- Runs the program with the arguments of the command line. -/
def main (arguments : List String) : IO UInt32 := do
  let c ← screen
  let s : Outside := { here := { files := ← filesFor arguments } }
  let w : Program.World Outside :=
    { connector := Outside.connector, prepare := Outside.prepare, input := [], keys := none,
      date := ← today, nanoseconds := 0 }
  let readLine (w : Program.World Outside) : IO (Program.World Outside) := do
    let block ← (← IO.getStdin).read (.ofNat Program.blockSize)
    return { w with input := block.toList }
  let readKeys (w : Program.World Outside) : IO (Program.World Outside) := do
    return { w with keys := ← typedLine }
  let (w, shown) ← answering c arguments s isQuestion readLine w (0, 0)
  let (w, shown) ← answering c arguments s isHiddenQuestion readKeys w shown
  let o := Program.start w arguments s
  let _ ← show_ c o shown
  writeBack s.files o.state.files
  return .ofNat (o.ending.status.getD 130)
