import Rollout.Error
import Rollout.File.Tree
import Rollout.Text.Order

/-!
# The files of a directory to upload

With a limit, the newest files of a directory are taken, the newest first and of two equally old ones
the smaller name; without one all of them, by name. Links count as the files they lead to, and what is
no file is passed over. Nothing is taken of a directory that cannot be listed to its end.
-/

namespace Rollout.Selection

/-- A file that can be uploaded: its name and when it was written. -/
structure Candidate where
  name : List Char
  written : Moment
  deriving Repr, DecidableEq

/-- A name in a directory as a candidate, if it is a file. -/
def candidate? (t : Tree) (directory name : List Char) : Option Candidate :=
  match t.stat (Path.child directory name) with
  | .ok (.file _ written) => some ⟨name, written⟩
  | _ => none

def byName (a b : Candidate) : Bool := Text.inOrder a.name b.name

/-- The order of candidates where only the newest are wanted. -/
def byAge (a b : Candidate) : Bool :=
  if a.written = b.written then Text.inOrder a.name b.name else b.written.le a.written

/-- Candidates in the order they are taken, at most `limit` of them if that is not 0. -/
def choose (limit : Nat) (cs : List Candidate) : List Candidate :=
  if limit = 0 then cs.mergeSort byName else (cs.mergeSort byAge).take limit

/-- The paths of the files to take from a directory. -/
def files (t : Tree) (directory : String) (limit : Nat) : Except DeployError (List String) :=
  let d := directory.toList
  match t.list d with
  | .error f => .error (.filesystem ("Upload directory not readable: " ++ f.message) directory)
  | .ok ⟨_, some f⟩ => .error (.filesystem ("Failed to list upload directory: " ++ f.message) directory)
  | .ok ⟨names, none⟩ =>
    let chosen := choose limit (names.filterMap (candidate? t d))
    .ok (chosen.map fun c => String.ofList (Path.child d c.name))

end Rollout.Selection
