import Rollout.File.Fault
import Rollout.File.Path
import Rollout.Text.Utf8

/-!
# A tree of files

Files, directories and symbolic links by their location, which is the list of names from the root. A
path is walked name by name from the working directory or the root; a link on the way is replaced by
what it says, at most forty times.

A file that goes by several names is kept in a place of its own, and each of its names says where. In
any place anything can be refused, be it by permissions or by a device, and what is read from it can
break off.

* `Tree.find` walks a path; it tells a place that exists from one where something could be created.
* `Tree.openFile`, `Tree.reading`, `Tree.list` and `Tree.create` are what uploads are made of.
* `Tree.relabel` gives places other names; `Tree.remove` takes places away, and `Tree.share` gives a
  file one more name.
-/

namespace Rollout

/-- When a file was written: at a given time after the epoch, in nanoseconds, or during the run, which
is later than any given time. -/
inductive Moment where
  | given (nanoseconds : Int)
  | now (tick : Nat)
  deriving Repr, DecidableEq

/-- Whether one moment is no later than another. -/
def Moment.le : Moment → Moment → Bool
  | .given a, .given b => a ≤ b
  | .given _, .now _ => true
  | .now _, .given _ => false
  | .now a, .now b => a ≤ b

inductive Node where
  | file (content : List UInt8) (written : Moment)
  | directory
  /-- A symbolic link with the path it says. -/
  | link (target : List Char)
  /-- A file that is always empty. -/
  | null
  deriving Repr, DecidableEq

/-- The size that a directory is said to have. -/
def directorySize : Nat := 4096

def Node.size : Node → Nat
  | .file content _ => content.length
  | .directory => directorySize
  | .link target => (Utf8.encode target).length
  | .null => 0

/-- The content of a file. -/
def Node.content : Node → Except FileFault (List UInt8)
  | .file content _ => .ok content
  | .null => .ok []
  | _ => .error .isDirectory

/-- Names from the root. -/
abbrev Location := List (List Char)

/-- What can be refused in a place. -/
inductive Access where
  /-- To come to it. -/
  | reach
  /-- To go on from it, to what it holds. -/
  | pass
  /-- To open it and read it, or list it. -/
  | read
  /-- To be told its size once it is open. -/
  | measure
  /-- To open it and write it, or to change which names it holds. -/
  | write
  /-- To add bytes to it once it is open. -/
  | extend
  deriving Repr, DecidableEq

/-- Everything below the root, and the working directory. -/
structure Tree where
  nodes : List (Location × Node) := []
  base : Location := []
  /-- How often something has been written. -/
  clock : Nat := 0
  /-- The names of files that have several of them, each with the place that its file is kept in. -/
  shared : List (Location × Location) := []
  /-- What is refused, and why. -/
  refusals : List ((Location × Access) × FileFault) := []
  /-- What breaks off: after how many bytes of a file, or names of a directory, and why. -/
  breaks : List (Location × Nat × FileFault) := []
  deriving Repr, DecidableEq

/-- The names in a directory as they are listed, and why no more of them come, if that is so. -/
structure Listing where
  names : List (List Char)
  broken : Option FileFault := none
  deriving Repr, DecidableEq

/-- Where a path leads. -/
inductive Place where
  | found (at_ : Location) (node : Node)
  /-- A name that is not taken, in a directory that exists; `slash` tells whether the path says that
  it is to be a directory. -/
  | vacant (at_ : Location) (slash : Bool)
  deriving Repr, DecidableEq

namespace Tree

/-- How many links a path may lead through. -/
def maxLinks : Nat := 40

/-- The longest name, in bytes. -/
def maxName : Nat := 255

/-- The longest path, in bytes. -/
def maxPath : Nat := 4095

/-- What is kept in a place. -/
def node? (t : Tree) (l : Location) : Option Node :=
  if l = [] then some .directory else t.nodes.lookup l

/-- The place that the file of a name is kept in. -/
def kept (t : Tree) (l : Location) : Location := (t.shared.lookup l).getD l

/-- What goes by a name. -/
def there? (t : Tree) (l : Location) : Option Node := t.node? (t.kept l)

/-- Why something is refused in a place, if it is. -/
def refusal? (t : Tree) (l : Location) (a : Access) : Option FileFault := t.refusals.lookup (l, a)

/-- What goes by a name in a directory, if that can be told. -/
def entry (t : Tree) (at_ : Location) (name : List Char) : Except FileFault (Option Node) :=
  if (Utf8.encode name).length > maxName then .error .nameTooLong
  else match t.refusal? (t.kept (at_ ++ [name])) .reach with
    | some f => .error f
    | none => .ok (t.there? (at_ ++ [name]))

/-- Walks on from a directory, up to a link that is to be followed; with what the link says, where it
is and what comes after it, `onLink` goes on. A link at the end is followed if `follow`. -/
def walkToLink (t : Tree) (follow : Bool)
    (onLink : List Char → Location → List (List Char) → Except FileFault Place) :
    Location → List (List Char) → Except FileFault Place
  | at_, [] => .ok (.found at_ .directory)
  | at_, name :: rest =>
    if name = [] then walkToLink t follow onLink at_ rest
    else match t.refusal? at_ .pass with
    | some f => .error f
    | none =>
      if name = ['.'] then walkToLink t follow onLink at_ rest
      else if name = ['.', '.'] then walkToLink t follow onLink at_.dropLast rest
      else
        let next := at_ ++ [name]
        match t.entry at_ name with
        | .error f => .error f
        | .ok none => if rest.all (· = []) then .ok (.vacant next (rest ≠ [])) else .error .notFound
        | .ok (some .directory) => walkToLink t follow onLink next rest
        | .ok (some (.link target)) =>
          if rest = [] ∧ ¬ follow then .ok (.found next (.link target)) else onLink target at_ rest
        | .ok (some n) => if rest = [] then .ok (.found next n) else .error .notDirectory

/-- Walks on from a directory, through as many links as are given. A link at the end is followed if
`follow`. -/
def walk (t : Tree) (follow : Bool) : Nat → Location → List (List Char) → Except FileFault Place
  | 0, at_, rest => t.walkToLink follow (fun _ _ _ => .error .tooManyLinks) at_ rest
  | links + 1, at_, rest =>
    t.walkToLink follow (fun target at_ rest =>
      if target = [] then .error .notFound
      else
        walk t follow links (if Path.isAbsolute target then [] else at_)
          (Path.components target ++ rest)) at_ rest

/-- Where a path leads. -/
def find (t : Tree) (follow : Bool) (p : List Char) : Except FileFault Place :=
  if p.contains '\x00' then .error .nulByte
  else if p = [] then .error .notFound
  else if (Utf8.encode p).length > maxPath then .error .nameTooLong
  else walk t follow maxLinks (if Path.isAbsolute p then [] else t.base) (Path.components p)

/-- What exists at the end of a path, and where; through links it is where it is kept. -/
def get (t : Tree) (follow : Bool) (p : List Char) : Except FileFault (Location × Node) := do
  match ← t.find follow p with
  | .found l n => return (if follow then t.kept l else l, n)
  | .vacant .. => .error .notFound

/-- The node at the end of a path, through links. -/
def stat (t : Tree) (p : List Char) : Except FileFault Node := do return (← t.get true p).2

/-! ### Reading -/

/-- Opens what is at the end of a path, to read it. -/
def openFile (t : Tree) (p : List Char) : Except FileFault (Location × Node) := do
  let (l, n) ← t.get true p
  match t.refusal? l .read with
  | some f => .error f
  | none => return (l, n)

/-- What is read of an open file, and why no more of it is, if that is so. What was opened can still be
read if it is there no more. -/
def reading (t : Tree) (l : Location) (opened : Node) : List UInt8 × Option FileFault :=
  match ((t.node? l).getD opened).content with
  | .error f => ([], some f)
  | .ok bytes =>
    match t.breaks.lookup l with
    | some (count, f) => (bytes.take count, some f)
    | none => (bytes, none)

/-- All that is read of the file at the end of a path. -/
def load (t : Tree) (p : List Char) : Except FileFault (List UInt8) := do
  let (l, n) ← t.openFile p
  match t.reading l n with
  | (_, some f) => .error f
  | (bytes, none) => return bytes

/-- The content of a text file. -/
def readText (t : Tree) (p : List Char) : Except FileFault String := do
  match String.ofUtf8? (← t.load p) with
  | some s => return s
  | none => .error .notText

/-- What is where, by every name that it has. -/
def all (t : Tree) : List (Location × Node) :=
  t.nodes ++ t.shared.map fun (l, k) => (l, (t.node? k).getD .null)

/-- What is directly in the directory at a location. -/
def children (t : Tree) (l : Location) : List (List Char × Node) :=
  t.all.filterMap fun (m, n) =>
    if m ≠ [] ∧ m.dropLast = l then m.getLast?.map (·, n) else none

/-- What a directory lists. -/
def listing (t : Tree) (l : Location) : Listing :=
  let names := (t.children l).map (·.1)
  match t.breaks.lookup l with
  | some (count, f) => ⟨names.take count, some f⟩
  | none => ⟨names, none⟩

/-- Lists the directory at the end of a path. -/
def list (t : Tree) (p : List Char) : Except FileFault Listing := do
  match ← t.get true p with
  | (l, .directory) =>
    match t.refusal? l .read with
    | some f => .error f
    | none => return t.listing l
  | _ => .error .notDirectory

/-! ### Changes -/

/-- Puts a node in a place. -/
def put (t : Tree) (l : Location) (n : Node) : Tree :=
  if (t.nodes.lookup l).isSome then
    { t with nodes := t.nodes.map fun (m, old) => if m = l then (m, n) else (m, old) }
  else { t with nodes := t.nodes ++ [(l, n)] }

/-- Puts a file in a place, as written now. -/
def putFile (t : Tree) (l : Location) (content : List UInt8) : Tree :=
  { t.put l (.file content (.now t.clock)) with clock := t.clock + 1 }

/-- Gives places other names, and takes away those that get none. -/
def relabel (t : Tree) (f : Location → Option Location) : Tree :=
  { t with
    nodes := t.nodes.filterMap fun (l, n) => (f l).map (·, n)
    shared := t.shared.filterMap fun (l, k) => (f l).map (·, k)
    refusals := t.refusals.filterMap fun ((l, a), fault) => (f l).map fun m => ((m, a), fault)
    breaks := t.breaks.filterMap fun (l, b) => (f l).map (·, b) }

/-- How many names the file or directory that goes by a name has. -/
def nameCount (t : Tree) (l : Location) : Nat :=
  max 1 (t.shared.countP fun (_, k) => k = t.kept l)

/-- Takes away a place and all below it. -/
def remove (t : Tree) (l : Location) : Tree :=
  t.relabel fun m => if l.isPrefixOf m then none else some m

/-- A place that no path leads to, for a file that gets several names. -/
def shelf (t : Tree) : Location :=
  [[], (toString (t.nodes.countP fun (l, _) => l.head? = some [])).toList]

/-- Gives the file at a location one more name. -/
def share (t : Tree) (l name : Location) : Tree :=
  match t.shared.lookup l with
  | some k => { t with shared := t.shared ++ [(name, k)] }
  | none =>
    let k := t.shelf
    { t.relabel fun m => if m = l then some k else some m with
      shared := t.shared ++ [(l, k), (name, k)] }

/-- Where writing to a path goes: a file that exists, or a new one. -/
def target (t : Tree) (p : List Char) : Except FileFault Location := do
  match ← t.find true p with
  | .found l (.file ..) | .found l .null => return t.kept l
  | .found .. => .error .isDirectory
  | .vacant l slash => if slash then .error .isDirectory else return t.kept l

/-- Why nothing can be made in a place or taken from it, if that is so. -/
def fixed? (t : Tree) (l : Location) : Option FileFault := t.refusal? l.dropLast .write

/-- Why the file in a place cannot be written, or none made there, if that is so. -/
def barred? (t : Tree) (l : Location) : Option FileFault :=
  if (t.node? l).isSome then t.refusal? l .write else t.fixed? l

/-- Opens what writing to a path goes to. -/
def openTarget (t : Tree) (p : List Char) : Except FileFault Location := do
  let l ← t.target p
  match t.barred? l with
  | some f => .error f
  | none => return l

/-- Makes the file at a path empty, or new. -/
def create (t : Tree) (p : List Char) : Except FileFault (Location × Tree) := do
  let l ← t.openTarget p
  return (l, if t.node? l = some .null then t else t.putFile l [])

/-- Adds to the file at a location. -/
def append (t : Tree) (l : Location) (bytes : List UInt8) : Tree :=
  match t.node? l with
  | some (.file content _) => t.putFile l (content ++ bytes)
  | _ => t

/-- Makes the directories on the way to a location, and the last one. -/
def makeDirectories (t : Tree) (l : Location) : Tree :=
  (List.range l.length).foldl (fun t i =>
    let m := l.take (i + 1)
    if (t.node? m).isSome then t else t.put m .directory) t

end Tree

end Rollout
