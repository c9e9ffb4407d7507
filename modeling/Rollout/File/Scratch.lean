import Rollout.File.Tree
import Rollout.Text.Order

/-!
# A fresh working directory

An empty directory to work in, and the ways to fill it. The directories above a new entry are made as
needed.
-/

namespace Rollout.Tree

/-- The location of the working directory. -/
def scratchBase : Location := [['t', 'm', 'p'], ['w', 'o', 'r', 'k']]

/-- A tree with an empty working directory, and the file that is always empty. -/
def scratch : Tree :=
  (makeDirectories { base := scratchBase } scratchBase).makeDirectories [['d', 'e', 'v']]
    |>.put [['d', 'e', 'v'], ['n', 'u', 'l', 'l']] .null

/-- Makes the directories that a path names. -/
def makePath (t : Tree) (p : List Char) : Tree :=
  let names := Path.components p
  (List.range names.length).foldl (fun t i =>
    match t.find true (Text.join ['/'] (names.take (i + 1))) with
    | .ok (.vacant l _) => t.put l .directory
    | _ => t) t

/-- Makes the directories above a path. -/
def makeParents (t : Tree) (p : List Char) : Tree :=
  t.makePath (Text.join ['/'] (Path.components p).dropLast)

/-- Puts a file at a path, written at a given time or now. -/
def addFile (t : Tree) (p : List Char) (content : List UInt8) (written : Option Int) : Tree :=
  let t := t.makeParents p
  match t.target p with
  | .ok l =>
    match written with
    | some n => t.put l (.file content (.given n))
    | none => t.putFile l content
  | .error _ => t

/-- Puts a symbolic link at a path. -/
def addLink (t : Tree) (p target : List Char) : Tree :=
  let t := t.makeParents p
  match t.find false p with
  | .ok (.vacant l _) => t.put l (.link target)
  | _ => t

/-- Everything below the working directory, by its path from there, in the order of the paths. -/
def entries (t : Tree) : List (String × Node) :=
  let below := t.all.filterMap fun (l, n) =>
    if t.base.isPrefixOf l ∧ l ≠ t.base then
      let path := Text.join ['/'] (l.drop t.base.length)
      some (if n = .directory then path ++ ['/'] else path, n)
    else none
  (below.mergeSort fun a b => Text.inOrder a.1 b.1).map fun (p, n) => (String.ofList p, n)

end Rollout.Tree
