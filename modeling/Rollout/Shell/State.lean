import Rollout.File.Tree
import Rollout.Text.Blank

/-!
# The state of a shell

What a shell can see and change while it runs its commands: the files, its variables, what is left of
the input, and what has been printed on each of the two streams.
-/

namespace Rollout.Shell

/-- Where a stream goes. -/
inductive Sink where
  | output
  | errors
  | file (l : Location)
  deriving Repr, DecidableEq

structure State where
  tree : Tree
  /-- The line of the text that is being run. -/
  line : Nat := 1
  bound : List (List Char × List Char) := []
  status : Nat := 0
  input : List UInt8 := []
  output : List UInt8 := []
  errors : List UInt8 := []
  stdout : Sink := .output
  stderr : Sink := .errors
  /-- Whether a failure that is not tested ends the shell. -/
  strict : Bool := false
  /-- Whether a word could not be expanded, which ends the shell. -/
  stuck : Bool := false

/-- How a command ends: in its normal way, or by ending more than itself. -/
inductive Ending where
  | normal
  | exit
  | killed (signal : Nat)
  /-- Leaves loops; the last of them may go on with its next round. -/
  | leave (loops : Nat) (goOn : Bool)
  deriving Repr, DecidableEq

namespace State

def emitTo (s : State) (sink : Sink) (bytes : List UInt8) : State :=
  match sink with
  | .output => { s with output := s.output ++ bytes }
  | .errors => { s with errors := s.errors ++ bytes }
  | .file l =>
    if bytes = [] ∨ (s.tree.refusal? l .extend).isSome then s
    else { s with tree := s.tree.append l bytes }

def emitBytes (s : State) (bytes : List UInt8) : State := s.emitTo s.stdout bytes

def emit (s : State) (text : List Char) : State := s.emitBytes (Utf8.encode text)

def complain (s : State) (text : List Char) : State := s.emitTo s.stderr (Utf8.encode text)

def ending (s : State) (status : Nat) : State := { s with status }

/-- A failure with its message. -/
def failing (s : State) (status : Nat) (message : String) : State :=
  (s.complain (message.toList ++ ['\n'])).ending status

/-- A message of the shell itself, after its name and the line. -/
def protest (s : State) (message : String) : State :=
  s.complain ("sh: " ++ toString s.line ++ ": " ++ message ++ "\n").toList

/-- A failure of the shell itself. -/
def refusing (s : State) (status : Nat) (message : String) : State := (s.protest message).ending status

/-- The number of the process. -/
def processNumber : Nat := 4096

/-- The value of a parameter, if it has one. -/
def value? (s : State) (name : List Char) : Option (List Char) :=
  if name = ['?'] then some (toString s.status).toList
  else if name = ['$'] then some (toString processNumber).toList
  else if name = ['#'] then some ['0']
  else if name = ['0'] then some ['s', 'h']
  else if name = ['P', 'W', 'D'] then
    some ('/' :: Text.join ['/'] s.tree.base)
  else s.bound.lookup name

def assign (s : State) (name value : List Char) : State :=
  { s with bound := (name, value) :: s.bound.filter (·.1 ≠ name) }

end State

end Rollout.Shell
