import Rollout.CommandLine.Fault
import Rollout.Number.Word
import Rollout.Text.Similarity
import Rollout.Text.Split

/-!
# Reading a command line

The arguments are read from left to right. A switch that takes a value waits for the next word, and
what waits is settled when the next argument is taken or the command line ends: only then does a
repetition or a bad value show. Two dashes end the switches.

* `Reading.settle` puts what waits among what was given.
* `request` reads a command line: either the program is asked to do something, or a reply says why
  not.
-/

namespace Rollout.CommandLine

/-- What `run` is asked for. -/
structure RunRequest where
  descriptor : String
  /-- Whether to go ahead without a question. -/
  yes : Bool
  limit : Option String
  /-- How many seconds a connection may take. -/
  timeout : Nat
  /-- Whether to ask for a password. -/
  askPass : Bool
  deriving Repr, DecidableEq

/-- What a command is asked for. -/
inductive Action where
  | run (r : RunRequest)
  | plan (descriptor : String) (limit : Option String)
  | validate (descriptor : String)
  deriving Repr, DecidableEq

/-- What the program is asked for. -/
structure Request where
  verbose : Bool
  quiet : Bool
  action : Action
  deriving Repr, DecidableEq

/-- What is shown if there is nothing to do. -/
inductive Reply where
  | help (l : Level)
  | version
  /-- Nothing was given at all. -/
  | nothingGiven
  | fault (f : UsageFault)
  deriving Repr, DecidableEq

namespace Reply

/-- Whether a reply is one that was asked for. -/
def isWanted : Reply → Bool
  | .help _ | .version => true
  | .nothingGiven | .fault _ => false

def lines : Reply → List String
  | .help l => l.helpLines
  | .version => [programName ++ " " ++ CommandLine.version]
  | .nothingGiven => Level.program.helpLines
  | .fault f => f.lines

end Reply

/-- A number of seconds, at most `2 ^ 64 - 1`. -/
def seconds (text : String) : Except NumeralFault Nat :=
  match text.toList with
  | [] => .error .empty
  | ['+'] => .error .badDigit
  | '+' :: s => digits 0 s
  | s => digits 0 s
where
  digits (n : Nat) : List Char → Except NumeralFault Nat
    | [] => .ok n
    | c :: s =>
      if c.isDigit then
        let n := 10 * n + (c.toNat - '0'.toNat)
        if n < Word.count64 then digits n s else .error .tooLarge
      else .error .badDigit

/-- What is wrong with a value. -/
def valueFault? : Argument → String → Option UsageFault
  | .switch .timeout, text =>
    match seconds text with
    | .ok _ => none
    | .error why => some (.badTimeout text why)
  | .switch _, _ => none
  | .descriptor, text => if text = "" then some (.noValue .descriptor) else none

/-- What was given at a level so far. -/
structure Reading where
  level : Level
  /-- In order, each with its value. -/
  given : List (Argument × String) := []
  /-- What waits to be settled, with its value if that has been read. -/
  waiting : Option (Argument × Option String) := none
  /-- Whether there was a word for the descriptor. -/
  hasWord : Bool := false
  /-- Whether two dashes have ended the switches. -/
  onlyWords : Bool := false

namespace Reading

def has (r : Reading) (a : Argument) : Bool := r.given.any (·.1 = a)

def value? (r : Reading) (a : Argument) : Option String := r.given.lookup a

/-- What was given, without the values. -/
def arguments (r : Reading) : List Argument := r.given.map (·.1)

/-- Puts an argument among what was given; what was there before is dropped if it is a repetition. -/
def give (a : Argument) (value : String) (r : Reading) : Option UsageFault × Reading :=
  if r.has a then
    (some (.repeated r.level a), { r with given := r.given.filter (·.1 ≠ a) })
  else (valueFault? a value, { r with given := r.given ++ [(a, value)] })

/-- Puts what waits among what was given. -/
def settle (r : Reading) : Option UsageFault × Reading :=
  let settled := { r with waiting := none }
  match r.waiting with
  | none => (none, r)
  | some (a, none) => (some (.noValue a), settled)
  | some (a, some value) => settled.give a value

/-- The reading after a step, unless the step found a fault. -/
def orFault : Option UsageFault × Reading → Except Reply Reading
  | (some f, _) => .error (.fault f)
  | (none, r) => .ok r

/-- Takes a switch with the value it has, after what waits is settled. -/
def take (s : Switch) (value : String) (r : Reading) : Except Reply Reading := do
  let r ← orFault r.settle
  match s with
  | .help => .error (.help r.level)
  | .version => .error .version
  | s => orFault (r.give (.switch s) value)

/-- Lets an argument wait, after what waits is settled. -/
def await (a : Argument) (value : Option String) (r : Reading) : Except Reply Reading := do
  let r ← orFault r.settle
  return { r with waiting := some (a, value) }

/-- The tip for a text that looks like a switch: where words are taken, it may be one. -/
def valueTip (r : Reading) (text : String) : Option Tip :=
  if r.level.takesDescriptor then some (.value text) else none

/-- A text that nothing takes. -/
def unknown (r : Reading) (text : String) (tip : Option Tip) (given : List Argument) : Reply :=
  .fault (.unknownArgument r.level text tip given)

/-- The switch of a level that is most like a name. -/
def similarSwitch? (l : Level) (name : String) : Option Switch :=
  (Text.similarTo name (l.switches.map (·.name))).getLast?.bind l.named?

/-- A command among the arguments that follow, the first one there that takes a switch like a name. -/
def similarBelow? (name : String) (rest : List String) : Option Tip :=
  rest.findSome? fun word =>
    (Command.ofName? word).bind fun c =>
      (similarSwitch? (.command c) name).map (Tip.switchOf c)

/-- A switch by a name that the level does not know. -/
def unknownName (name : String) (rest : List String) (r : Reading) : Reply :=
  let r := r.settle.2
  let text := "--" ++ name
  match similarSwitch? r.level name with
  | some s =>
    let a : Argument := .switch s
    r.unknown text (some (.switch s)) (if r.has a then r.arguments else r.arguments ++ [a])
  | none =>
    let tip := if r.level = .program then similarBelow? name rest else r.valueTip text
    r.unknown text tip r.arguments

/-- A name after two dashes, with the value after the first equals sign. -/
def takeName (s : List Char) (rest : List String) (r : Reading) : Except Reply Reading :=
  let name := String.ofList (s.takeWhile (· ≠ '='))
  let value := match s.dropWhile (· ≠ '=') with
    | [] => none
    | _ :: value => some (String.ofList value)
  match r.level.named? name, value with
  | none, _ => .error (r.unknownName name rest)
  | some s, some value =>
    if s.value.isSome then r.take s value
    else .error (.fault (.unneededValue r.level value s r.arguments))
  | some s, none => if s.value.isSome then r.await (.switch s) none else r.take s ""

/-- Letters after a dash; the first one that takes a value takes the rest. -/
def takeLetters (r : Reading) : List Char → Except Reply Reading
  | [] => .ok r
  | c :: s =>
    match r.level.lettered? c with
    | none =>
      let text := "-" ++ c.toString
      .error (r.unknown text (r.valueTip text) [])
    | some switch =>
      if switch.value.isSome then
        match s with
        | [] => r.await (.switch switch) none
        | '=' :: value => r.take switch (String.ofList value)
        | value => r.take switch (String.ofList value)
      else do
        takeLetters (← r.take switch "") s

/-- A word where no switch is meant. -/
def takeWord (word : String) (r : Reading) : Except Reply Reading :=
  if r.level.takesDescriptor then
    if r.hasWord then .error (r.unknown word none [])
    else do
      return { (← r.await .descriptor (some word)) with hasWord := true }
  else if r.onlyWords ∧ commandNames.contains word then
    .error (r.unknown word (some (.dashes word)) [])
  else
    let tip := match Text.similarTo word commandNames with
      | [] => none
      | names => some (.commands names)
    .error (.fault (.unknownCommand r.level word tip))

/-- One argument, with those that follow it. -/
def takeNext (word : String) (rest : List String) (r : Reading) : Except Reply Reading :=
  if r.onlyWords then r.takeWord word
  else
    match word.toList with
    | ['-', '-'] => .ok { r with onlyWords := true }
    | '-' :: '-' :: s => r.takeName s rest
    | '-' :: c :: s => r.takeLetters (c :: s)
    | _ =>
      match r.waiting with
      | some (a, none) => .ok { r with waiting := some (a, some word) }
      | _ => r.takeWord word

/-- The arguments of a command. -/
def takeAll : Reading → List String → Except Reply Reading
  | r, [] => orFault r.settle
  | r, word :: rest => do takeAll (← r.takeNext word rest) rest

end Reading

/-- Help for the level that words lead to. -/
def helpFor : Level → List String → Reply
  | l, [] => .help l
  | .program, word :: rest =>
    match Command.ofName? word with
    | some c => helpFor (.command c) rest
    | none =>
      if word = "help" then helpFor .help rest else .fault (.unknownCommand .program word none)
  | l, word :: _ => .fault (.unknownCommand l word none)

/-- What a command is asked for by its arguments. -/
def actionOf (c : Command) (r : Reading) : Action :=
  let descriptor := (r.value? .descriptor).getD defaultDescriptor
  let limit := r.value? (.switch .limit)
  match c with
  | .run =>
    let timeout := ((r.value? (.switch .timeout)).bind fun s => (seconds s).toOption).getD
      defaultTimeout
    .run ⟨descriptor, r.has (.switch .yes), limit, timeout, r.has (.switch .askPass)⟩
  | .plan => .plan descriptor limit
  | .validate => .validate descriptor

/-- A command with its arguments, after what was given to the program. -/
def requestOf (before : Reading) (c : Command) (rest : List String) : Except Reply Request := do
  let r ← Reading.takeAll { level := .command c } rest
  let isGiven (s : Switch) : Bool := before.has (.switch s) || r.has (.switch s)
  return ⟨isGiven .verbose, isGiven .quiet, actionOf c r⟩

/-- The arguments of the program, up to its command. -/
def requestFrom : Reading → List String → Except Reply Request
  | r, [] => .error (if r.given.isEmpty then .nothingGiven else .fault .noCommand)
  | r, word :: rest =>
    if r.onlyWords then do requestFrom (← r.takeNext word rest) rest
    else
      match Command.ofName? word with
      | some c => requestOf r c rest
      | none =>
        if word = "help" then .error (helpFor .program rest)
        else do requestFrom (← r.takeNext word rest) rest

/-- What a command line asks for. -/
def request (arguments : List String) : Except Reply Request :=
  requestFrom { level := .program } arguments

end Rollout.CommandLine
