/-!
# What can be given on the command line

The program has three commands of its own, and one that shows help. Switches begin with a dash; some
take a value. A command takes one word that is not a switch, the path of a descriptor. What is given
before the command belongs to the program, and what is given after it to the command; two switches
belong to both.

* `Level.switches` lists what a level takes, in the order in which help shows it.
-/

namespace Rollout.CommandLine

/-- The name of the program. -/
def programName : String := "shipwright"

/-- What `--version` shows. -/
def version : String := "0.3.0"

inductive Command where
  | run
  | plan
  | validate
  deriving Repr, DecidableEq

namespace Command

def name : Command → String
  | .run => "run"
  | .plan => "plan"
  | .validate => "validate"

def about : Command → String
  | .run => "Preview, confirm, then run a descriptor"
  | .plan => "Show the compiled commands without connecting anywhere"
  | .validate => "Compile a descriptor and report errors"

def all : List Command := [.run, .plan, .validate]

/-- The command with a name. -/
def ofName? (name : String) : Option Command := all.find? (·.name = name)

end Command

inductive Switch where
  | yes
  | limit
  | timeout
  | askPass
  | verbose
  | quiet
  | help
  | version
  deriving Repr, DecidableEq

namespace Switch

/-- The letter of a switch. -/
def letter : Switch → Option Char
  | .yes => some 'y'
  | .limit => some 'l'
  | .timeout => none
  | .askPass => some 'k'
  | .verbose => some 'v'
  | .quiet => some 'q'
  | .help => some 'h'
  | .version => some 'V'

/-- The name of a switch, without its dashes. -/
def name : Switch → String
  | .yes => "yes"
  | .limit => "limit"
  | .timeout => "timeout"
  | .askPass => "ask-pass"
  | .verbose => "verbose"
  | .quiet => "quiet"
  | .help => "help"
  | .version => "version"

/-- The name of the value a switch takes. -/
def value : Switch → Option String
  | .limit => some "LIMIT"
  | .timeout => some "TIMEOUT"
  | _ => none

/-- A switch with its value, as it is shown. -/
def label (s : Switch) : String :=
  "--" ++ s.name ++ (s.value.map fun v => " <" ++ v ++ ">").getD ""

end Switch

/-- Where on the command line something is given. -/
inductive Level where
  /-- Before any command. -/
  | program
  | command (c : Command)
  /-- After the command that shows help. -/
  | help
  deriving Repr, DecidableEq

namespace Level

/-- The switches that a level takes. -/
def switches : Level → List Switch
  | .program => [.verbose, .quiet, .help, .version]
  | .command .run => [.yes, .limit, .timeout, .askPass, .verbose, .quiet, .help]
  | .command .plan => [.limit, .verbose, .quiet, .help]
  | .command .validate => [.verbose, .quiet, .help]
  | .help => []

/-- Whether a level takes the path of a descriptor. -/
def takesDescriptor : Level → Bool
  | .command _ => true
  | _ => false

/-- The switch of a level with a name. -/
def named? (l : Level) (name : String) : Option Switch := l.switches.find? (·.name = name)

/-- The switch of a level with a letter. -/
def lettered? (l : Level) (c : Char) : Option Switch := l.switches.find? (·.letter = some c)

end Level

/-- Something that was given. -/
inductive Argument where
  | switch (s : Switch)
  /-- The path of a descriptor. -/
  | descriptor
  deriving Repr, DecidableEq

namespace Argument

/-- An argument as it is shown where it may be left out. -/
def label : Argument → String
  | .switch s => s.label
  | .descriptor => "[DESCRIPTOR]"

end Argument

/-- What every command uses if it is given no descriptor. -/
def defaultDescriptor : String := "app.json"

/-- How many seconds a connection may take if nothing else is given. -/
def defaultTimeout : Nat := 30

end Rollout.CommandLine
