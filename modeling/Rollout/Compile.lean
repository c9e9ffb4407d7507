import Rollout.Descriptor
import Rollout.Number.Word
import Rollout.Task
import Rollout.Template

/-!
# From descriptors to tasks

Every server with an enabled package becomes one task. Its enabled packages are taken in ascending
order, equal orders as declared; in each, the values are resolved against the globals once, and the
templates filled with them. Nothing outside the descriptor is looked at, and the first mistake met on
the way is the answer to the whole.

* `Package.resolve` replaces `GLOBAL` and a number by the global of that number.
* `Server.compile` and `Descriptor.compile` are in the order in which mistakes are reported.
-/

namespace Rollout

/-- A mistake in a package. -/
inductive PackageFault where
  /-- A variable that begins like a reference to a global but has no number. -/
  | malformedGlobal (entry : String)
  /-- A reference to a global that does not exist, of `count` that do. -/
  | globalOutOfRange (index count : Nat)
  /-- A placeholder without a variable, of `count` that there are. -/
  | placeholderOutOfRange (command placeholder : String) (count : Nat)
  deriving Repr, DecidableEq

/-- A mistake with its package, by the host and the place in the server's declaration. -/
structure CompileError where
  host : String
  package : Nat
  fault : PackageFault
  deriving Repr, DecidableEq

def PackageFault.message : PackageFault → String
  | .malformedGlobal entry =>
    "Malformed global reference '" ++ entry ++ "': expected GLOBAL<index>"
  | .globalOutOfRange index count =>
    "Global reference GLOBAL" ++ toString index ++ " is out of range (" ++ toString count ++
      " globals defined)"
  | .placeholderOutOfRange command placeholder count =>
    "Placeholder " ++ placeholder ++ " in '" ++ command ++ "' has no variable (" ++
      toString count ++ " defined)"

def CompileError.message (e : CompileError) : String := e.fault.message

/-- The word that marks a value as a reference to a global. -/
def globalWord : List Char := ['G', 'L', 'O', 'B', 'A', 'L']

/-- What follows the mark of a reference, if a value is one. -/
def reference? (entry : String) : Option (List Char) :=
  if globalWord.isPrefixOf entry.toList then some (entry.toList.drop globalWord.length) else none

/-- The text a value stands for. -/
def resolveValue (globals : List String) (entry : String) : Except PackageFault String :=
  match reference? entry with
  | none => .ok entry
  | some digits => match Text.nat? digits with
    | none => .error (.malformedGlobal entry)
    | some index => match globals[index]? with
      | some g => .ok g
      | none => .error (.globalOutOfRange (min index Word.greatest64) globals.length)

namespace Package

/-- The values of a package with the globals in place of the references to them. -/
def resolve (globals : List String) (p : Package) : Except PackageFault (List String) :=
  p.values.mapM (resolveValue globals)

/-- A template filled with resolved values. -/
def fillCommand (values : List String) (template : String) : Except PackageFault String :=
  (Template.fill values template).mapError fun placeholder =>
    .placeholderOutOfRange template placeholder values.length

/-- The commands of a package. -/
def compile (globals : List String) (p : Package) : Except PackageFault (List String) := do
  let values ← p.resolve globals
  p.commands.mapM (fillCommand values)

end Package

namespace Server

/-- The enabled packages of a server in the order they are run, each with its place in the
declaration. -/
def schedule (s : Server) : List (Package × Nat) :=
  (s.packages.zipIdx.filter (·.1.enable)).mergeSort fun p q => p.1.order ≤ q.1.order

/-- The commands of a server. -/
def commands (globals : List String) (s : Server) : Except CompileError (List String) := do
  let parts ← s.schedule.mapM fun (p, place) =>
    (p.compile globals).mapError fun fault => ⟨s.host, place, fault⟩
  return parts.flatten

/-- The task of a server, if it has an enabled package. -/
def compile (globals : List String) (s : Server) : Except CompileError (Option Task) :=
  if s.schedule = [] then .ok none
  else do
    let commands ← s.commands globals
    return some ⟨s.host, s.port, s.username, s.password, commands⟩

end Server

/-- The tasks of a descriptor, in the order of its servers. -/
def Descriptor.compile (d : Descriptor) : Except CompileError (List Task) := do
  let tasks ← d.servers.mapM (·.compile d.globals)
  return tasks.filterMap id

end Rollout
