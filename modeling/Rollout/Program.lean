import Rollout.CommandLine.Reading
import Rollout.Descriptor.Load
import Rollout.Password
import Rollout.Plan
import Rollout.Run

/-!
# The program

The program reads a descriptor, compiles all of it, and keeps the tasks it was limited to. Only `run`
goes on from there: it shows the plan, asks whether to go ahead, asks for a password if it was told
to, and then runs the tasks. Whatever fails ends it.

* `Program.start` is the whole program, from its arguments to how it ends.
* `Program.Outcome.output` and `Program.Outcome.errors` are what it writes.
-/

namespace Rollout.Program

open CommandLine (Request RunRequest Reply)

/-- The part of the program that notes what was loaded. -/
def origin : String := "shipwright"

/-- What the program has at hand besides its arguments. -/
structure World (σ : Type) where
  connector : Connector σ
  /-- What a run changes before it begins: how many seconds a connection may take, and what commands
  can read. -/
  prepare : Nat → List UInt8 → σ → σ
  input : List UInt8
  /-- The keys typed at the terminal, if there is one. -/
  keys : Option (List Char)
  /-- Today's date. -/
  date : Date
  /-- How long a run takes. -/
  nanoseconds : Nat
  /-- What the reader of YAML says of texts it cannot read. -/
  report : Descriptor.YamlReport := fun _ => none

/-- How an action ends if nothing fails. -/
inductive Finish where
  | complete
  | interrupted
  deriving Repr, DecidableEq

variable {σ : Type}

/-- The descriptor at a path. -/
def load (w : World σ) (path : String) : Step σ Descriptor := do
  let s ← Step.get
  let d ← Step.ofExcept (Descriptor.load (w.connector.files s) path w.report)
  Step.log ⟨.debug, origin, "descriptor loaded",
    [("path", path), ("servers", toString d.servers.length), ("globals", toString d.globals.length)]⟩
  return d

/-- The tasks of the descriptor at a path; all of it is compiled, and the limit comes after. -/
def tasks (w : World σ) (path : String) (limit : Option String) : Step σ (List Task) := do
  let d ← load w path
  let ts ← Step.ofExcept (d.compile.mapError .compile)
  return Task.limit limit ts

def yellow (text : String) : Line := [{ text, style := { color := some .yellow } }]

/-- What is shown if no task is left. -/
def nothingLines : List Line := [yellow "Nothing to execute."]

/-- What is shown if the answer was no. -/
def cancelledLines : List Line := [[], yellow "Run cancelled."]

/-- The failure to read an answer. -/
def unreadAnswer : DeployError :=
  .runtime "Failed to read confirmation: stream did not contain valid UTF-8"
    (some "Pass --yes to run non-interactively")

/-- Whether to go ahead. -/
def approve (w : World σ) (yes : Bool) : Step σ Bool :=
  if yes then return true
  else do
    Step.emit (.ask Plan.question)
    Step.ofExcept (((Plan.answer w.input).1.map .ok).getD (.error unreadAnswer))

/-- How many bytes of the input are read at once. -/
def blockSize : Nat := 8192

/-- What the question leaves of the input: all blocks up to the end of the first line are read. -/
def afterQuestion (input : List UInt8) : List UInt8 :=
  let used := (Plan.firstLine input).1.length
  input.drop ((used + blockSize - 1) / blockSize * blockSize)

/-- The tasks, run one after another. -/
def perform (w : World σ) (q : Request) (r : RunRequest) (fallback : Option String)
    (ts : List Task) : Step σ Finish := do
  Step.modify (w.prepare r.timeout (if r.yes then w.input else afterQuestion w.input))
  Step.log ⟨.info, origin, "starting run",
    [("servers", toString ts.length), ("commands", toString (Task.totalCommands ts))]⟩
  let g : Settings := { terminal := { verbose := q.verbose, quiet := q.quiet }, fallback }
  let _ ← Run.report { w.connector with today := fun _ => w.date } g w.nanoseconds ts
  return .complete

/-- The tasks with a password for servers without one, if it is to be asked for. -/
def withPassword (w : World σ) (q : Request) (r : RunRequest) (ts : List Task) :
    Step σ Finish :=
  if r.askPass then do
    Step.emit (.askHidden Password.prompt)
    match Password.ask w.keys with
    | none => return .interrupted
    | some (.error e) => .fail e
    | some (.ok password) => perform w q r (some password) ts
  else perform w q r none ts

/-- The plan, the question, and then the tasks. -/
def run (w : World σ) (q : Request) (r : RunRequest) : Step σ Finish := do
  let ts ← tasks w r.descriptor r.limit
  if ts.isEmpty then
    Step.print nothingLines
    return .complete
  else
    Step.print (Plan.lines ts)
    if ← approve w r.yes then withPassword w q r ts
    else
      Step.print cancelledLines
      return .complete

/-- The plan alone. -/
def plan (w : World σ) (path : String) (limit : Option String) : Step σ Finish := do
  let ts ← tasks w path limit
  Step.print (if ts.isEmpty then nothingLines else Plan.lines ts)
  return .complete

/-- What is shown of a descriptor without errors. -/
def validLine (path : String) (ts : List Task) : Line :=
  [{ text := "✓", style := { color := some .green } },
    .plain (" " ++ path ++ " (" ++ toString ts.length ++ " servers, " ++
      toString (Task.totalCommands ts) ++ " commands)")]

/-- Loading and compiling, and nothing else. -/
def validate (w : World σ) (path : String) : Step σ Finish := do
  let ts ← tasks w path none
  Step.print [validLine path ts]
  return .complete

/-- What the program was asked for. -/
def act (w : World σ) (q : Request) : Step σ Finish :=
  match q.action with
  | .run r => run w q r
  | .plan path limit => plan w path limit
  | .validate path => validate w path

/-- How the program ends. -/
inductive Ending where
  | complete
  | failed (e : DeployError)
  | interrupted
  /-- It was not asked for anything it could do. -/
  | replied (r : Reply)
  deriving Repr, DecidableEq

/-- The exit status; an interrupted program has none. -/
def Ending.status : Ending → Option Nat
  | .complete => some 0
  | .failed _ => some 1
  | .interrupted => none
  | .replied r => some (if r.isWanted then 0 else 2)

/-- What became of the program. -/
structure Outcome (σ : Type) where
  ending : Ending
  state : σ
  trace : List Event
  /-- The level up to which records are written. -/
  level : LogLevel

/-- How an action ended. -/
def endingOf : Except DeployError Finish → Ending
  | .ok .complete => .complete
  | .ok .interrupted => .interrupted
  | .error e => .failed e

/-- The program with its arguments. -/
def start (w : World σ) (arguments : List String) (s : σ) : Outcome σ :=
  match CommandLine.request arguments with
  | .error reply => ⟨.replied reply, s, [], .warn⟩
  | .ok q =>
    let o := act w q s
    ⟨endingOf o.result, o.state, o.trace, if q.verbose then .debug else .warn⟩

/-- How what the program writes is shown. -/
structure Screen where
  outputIsTerminal : Bool := false
  errorIsTerminal : Bool := false
  /-- Whether colors are wanted. -/
  colors : Bool := false
  /-- Whether records are written. -/
  logs : Bool := false
  deriving Repr, DecidableEq

namespace Screen

/-- Styles are shown on a terminal, if they are wanted. -/
def isColored (c : Screen) : Bool := c.colors && c.outputIsTerminal

/-- An event as it is written to the output. -/
def outputOf (c : Screen) : Event → List Char
  | .print l => Line.chars c.isColored l ++ ['\n']
  | .ask l => Line.chars c.isColored l
  | _ => []

/-- An event as it is written beside the output. -/
def errorsOf (c : Screen) (level : LogLevel) : Event → List Char
  | .askHidden l => Line.chars c.isColored l
  | .log r => if c.logs && r.upTo level then Line.chars c.colors r.line ++ ['\n'] else []
  | _ => []

/-- The text of a reply. -/
def replyText (r : Reply) : String := String.join (r.lines.map (· ++ "\n"))

/-- What is written to the output at the end. -/
def endOutput : Ending → String
  | .replied r => if r.isWanted then replyText r else ""
  | _ => ""

/-- What is written beside the output at the end. -/
def endErrors (c : Screen) : Ending → String
  | .failed e => e.display (c.isColored && c.errorIsTerminal) ++ "\n"
  | .replied r => if r.isWanted then "" else replyText r
  | _ => ""

end Screen

namespace Outcome

/-- All that the program writes to the output. -/
def output (c : Screen) (o : Outcome σ) : String :=
  String.ofList (o.trace.flatMap c.outputOf) ++ Screen.endOutput o.ending

/-- All that it writes beside the output. -/
def errors (c : Screen) (o : Outcome σ) : String :=
  String.ofList (o.trace.flatMap (c.errorsOf o.level)) ++ c.endErrors o.ending

end Outcome

end Rollout.Program
