import Rollout.Shell.Pattern
import Rollout.Shell.Read
import Rollout.Shell.Tool

/-!
# Running shell commands

Commands act on the state of the shell one after another. Words are expanded when they are reached:
parameters and the output of other commands are filled in, what is not quoted is split at blanks and
matched against the names of files.

* `run` is what a text for the shell does to the files, and what it leaves for its caller.
-/

namespace Rollout.Shell

/-- Fields while a word is expanded: those that are complete, and the one under way. -/
structure Fields where
  complete : List Field := []
  current : Option Field := none

namespace Fields

def add (f : Fields) (cs : Field) : Fields :=
  { f with current := some (f.current.getD [] ++ cs) }

def break_ (f : Fields) : Fields :=
  { complete := f.complete ++ f.current.toList, current := none }

/-- Adds a text that is split at blanks. -/
def addSplit (f : Fields) (s : List Char) : Fields :=
  s.foldl (fun f c =>
    if c = ' ' ∨ c = '\t' ∨ c = '\n' then f.break_ else f.add [(c, true)]) f

def addText (f : Fields) (quoted : Bool) (s : List Char) : Fields :=
  if quoted then f.add (s.map (·, false)) else f.addSplit s

end Fields

/-- A text without the line ends at its end. -/
def dropLastLines (s : List Char) : List Char := (s.reverse.dropWhile (· = '\n')).reverse

/-! ### Arithmetic -/

/-- The value of a factor, and what follows. -/
def factor : Nat → State → List Char → Int × List Char
  | 0, _, s => (0, s)
  | fuel + 1, st, s =>
    match s.dropWhile (· = ' ') with
    | '(' :: s =>
      let (v, s) := sum fuel st s
      (v, (s.dropWhile (· = ' ')).drop 1)
    | '-' :: s =>
      let (v, s) := factor fuel st s
      (-v, s)
    | s =>
      let word := s.takeWhile isNamePart
      let value := if word.head?.any Char.isDigit then word else (st.value? word).getD []
      (Tool.intOf value, s.drop word.length)
where
  /-- The value of factors that are multiplied, after `v`. -/
  product (fuel : Nat) (st : State) (v : Int) (s : List Char) : Int × List Char :=
    match fuel with
    | 0 => (v, s)
    | fuel + 1 =>
      match s.dropWhile (· = ' ') with
      | '*' :: s =>
        let (w, s) := factor fuel st s
        product fuel st (v * w) s
      | '/' :: s =>
        let (w, s) := factor fuel st s
        product fuel st (v.tdiv w) s
      | '%' :: s =>
        let (w, s) := factor fuel st s
        product fuel st (v.tmod w) s
      | s => (v, s)
  /-- The value of products that are added, after `v`. -/
  added (fuel : Nat) (st : State) (v : Int) (s : List Char) : Int × List Char :=
    match fuel with
    | 0 => (v, s)
    | fuel + 1 =>
      match s.dropWhile (· = ' ') with
      | '+' :: s =>
        let (w, s) := term fuel st s
        added fuel st (v + w) s
      | '-' :: s =>
        let (w, s) := term fuel st s
        added fuel st (v - w) s
      | s => (v, s)
  term (fuel : Nat) (st : State) (s : List Char) : Int × List Char :=
    match fuel with
    | 0 => (0, s)
    | fuel + 1 =>
      let (v, s) := factor fuel st s
      product fuel st v s
  sum (fuel : Nat) (st : State) (s : List Char) : Int × List Char :=
    match fuel with
    | 0 => (0, s)
    | fuel + 1 =>
      let (v, s) := term fuel st s
      added fuel st v s

/-- The value of an expression. -/
def arithmetic (st : State) (s : List Char) : List Char :=
  (toString (factor.sum (4 * s.length + 4) st s).1).toList

/-! ### Commands -/

/-- The signals that have names. -/
def signals : List (String × Nat) :=
  [("HUP", 1), ("INT", 2), ("QUIT", 3), ("KILL", 9), ("USR1", 10), ("USR2", 12), ("PIPE", 13),
    ("ALRM", 14), ("TERM", 15)]

/-- The signal that an argument means, by number or name. -/
def signal? (a : List Char) : Option Nat :=
  if a ≠ [] ∧ a.all Char.isDigit then some (Tool.intOf a).toNat
  else
    let name := String.ofList (if ['S', 'I', 'G'].isPrefixOf a then a.drop 3 else a)
    signals.lookup name

/-- The name of a signal, which is told by its number as a status if that is large. -/
def signalName? (a : List Char) : Option String :=
  let n := (Tool.intOf a).toNat
  let n := if n > 128 then n - 128 else n
  (signals.find? (·.2 = n)).map (·.1)

/-- Sends a signal; only the shell itself can be reached. -/
def kill (s : State) (args : List (List Char)) : Ending × State :=
  let (signal, targets) := match args with
    | ['-', 's'] :: name :: rest => (signal? name, rest)
    | ('-' :: name) :: rest => (signal? name, rest)
    | rest => (some 15, rest)
  match signal, targets with
  | some n, [p] =>
    if p = (toString State.processNumber).toList then
      if n = 0 then (.normal, s.ending 0) else (.killed n, s)
    else if p ≠ [] ∧ p.all Char.isDigit then (.normal, s.refusing 1 "kill: No such process\n")
    else (.normal, s.refusing 2 ("kill: Illegal number: " ++ String.ofList p))
  | some _, _ =>
    (.normal, s.refusing 2
      "kill: Usage: kill [-s sigspec | -signum | -sigspec] [pid | job]... or\nkill -l [exitstatus]")
  | none, _ =>
    (.normal, s.refusing 2 (match args with
      | ['-', 's'] :: name :: _ => "kill: invalid signal number or name: " ++ String.ofList name
      | ('-' :: c :: _) :: _ => "kill: Illegal option -" ++ c.toString
      | _ => "kill: Illegal option"))

/-- Where a command of a name would be found. -/
def locate (name : List Char) : Option (List Char) :=
  let n := String.ofList name
  if (Tool.builtIn.lookup n).isSome ∨
      ["exit", "kill", "command", "break", "continue", "export", "unset", "read", "set", "wait", "eval",
        "exec"].contains n then
    some name
  else if (Tool.files.lookup n).isSome then some ("/usr/bin/".toList ++ name)
  else none

/-- Assigns the first line of the input. -/
def readLine (s : State) (names : List (List Char)) : State :=
  let (line, rest) := s.input.span (· ≠ 10)
  let words := Text.words (Utf8.decodeLossy line)
  let s := { s with input := rest.drop 1 }
  let s := names.zipIdx.foldl (fun s (n, i) =>
    let value := if i + 1 = names.length then Text.join [' '] (words.drop i) else words.getD i []
    s.assign n value) s
  s.ending (if rest = [] then 1 else 0)

/-- A command by its name and arguments. -/
def call (s : State) (name : List Char) (args : List (List Char)) : Ending × State :=
  let n := String.ofList name
  let count (a : List (List Char)) : Nat := match a with
    | a :: _ => (Tool.intOf a).toNat
    | [] => 1
  match n with
  | "exit" => match args with
    | a :: _ =>
      if a ≠ [] ∧ a.all Char.isDigit then (.exit, s.ending ((Tool.intOf a).toNat % 256))
      else (.exit, s.refusing 2 ("exit: Illegal number: " ++ String.ofList a))
    | [] => (.exit, s)
  | "kill" => match args with
    | ['-', 'l'] :: a :: _ => match signalName? a with
      | some n => (.normal, (s.emit (n.toList ++ ['\n'])).ending 0)
      | none => (.normal, s.refusing 2 ("kill: invalid signal number or exit status: " ++
          String.ofList a))
    | _ => kill s args
  | "break" => (.leave (count args) false, s.ending 0)
  | "continue" => (.leave (count args) true, s.ending 0)
  | "export" =>
    (.normal, (args.foldl (fun s a =>
      let name := a.takeWhile (· ≠ '=')
      if name.length < a.length then s.assign name (a.drop (name.length + 1)) else s) s).ending 0)
  | "unset" =>
    (.normal, { s with bound := s.bound.filter fun v => !args.contains v.1 }.ending 0)
  | "set" => (.normal, { s with strict := args.contains ['-', 'e'] ||
      (s.strict && !args.contains ['+', 'e']) }.ending 0)
  | "wait" => (.normal, s.ending 0)
  | "read" => (.normal, readLine s args)
  | "command" => match args with
    | ['-', 'v'] :: a :: _ => match locate a with
      | some p => (.normal, (s.emit (p ++ ['\n'])).ending 0)
      | none => (.normal, s.ending 127)
    | _ => (.normal, s.ending 0)
  | _ =>
    match Tool.builtIn.lookup n, Tool.files.lookup n with
    | some f, _ | none, some f => (.normal, f s args)
    | none, none =>
      let isThere : Bool := name.contains '/' && match s.tree.stat name with
        | .ok _ => true
        | .error _ => false
      (.normal, if isThere then s.refusing 126 (n ++ ": Permission denied")
        else s.refusing 127 (n ++ (if n = "" then ": Permission denied" else ": not found")))

/-- The outcome of a state, as a condition. -/
def State.succeeded (s : State) : Bool := s.status == 0

/-- What leaving loops means to the innermost one: whether it goes on, and how it ends otherwise. -/
def loopEnding : Ending → Bool × Ending
  | .normal => (true, .normal)
  | .leave n goOn => if n ≤ 1 then (goOn, .normal) else (false, .leave (n - 1) goOn)
  | e => (false, e)

/-- The streams as they were before redirections. -/
def restore (rs : List Redirection) (before after : State) : State :=
  let readsElsewhere := rs.any fun r => match r with
    | .input _ | .here _ => true
    | _ => false
  { after with stdout := before.stdout, stderr := before.stderr,
               input := if readsElsewhere then before.input else after.input }

/-- What is left of a command in a shell that a failure ends. -/
def checked (r : Ending × State) : Ending × State :=
  if r.1 = .normal ∧ r.2.strict ∧ ¬ r.2.succeeded then (.exit, r.2) else r

mutual

/-- The fields that a part adds to. -/
def expandPart : Nat → State → Fields → Part → Fields × State
  | 0, s, f, _ => (f, s)
  | fuel + 1, s, f, p =>
    match p with
    | .bare c => (f.add [(c, true)], s)
    | .text t => (f.add (t.map (·, false)), s)
    | .parameter name change quoted =>
      let value := s.value? name
      let isMissing (orEmpty : Bool) : Bool := value.isNone || (orEmpty && value = some [])
      let keep : Fields × State := (f.addText quoted (value.getD []), s)
      match change with
      | .keep => keep
      | .fallback orEmpty w => if isMissing orEmpty then expandParts fuel s f w else keep
      | .instead orEmpty w => if isMissing orEmpty then (f.addText quoted [], s) else expandParts fuel s f w
      | .assign orEmpty w =>
        if isMissing orEmpty then
          let (v, s) := expandWhole fuel s w
          (f.addText quoted v, s.assign name v)
        else keep
      | .cut atEnd longest w =>
        let (g, s) := expandParts fuel s {} w
        (f.addText quoted (Field.cut g.break_.complete.flatten atEnd longest (value.getD [])), s)
    | .bad => (f, { s.refusing 2 "Bad substitution" with stuck := true })
    | .length name => (f.addText true (toString ((s.value? name).getD []).length).toList, s)
    | .arithmetic e =>
      let (text, s) := expandWhole fuel s e
      (f.addText true (arithmetic s text), s)
    | .output code quoted =>
      let inner := { s with output := [], stdout := .output }
      let (_, t) := eval fuel code inner
      let text := dropLastLines ((Utf8.decodeLossy t.output).filter (· ≠ '\x00'))
      (f.addText quoted text,
        { s with tree := { t.tree with base := s.tree.base }, errors := t.errors, input := t.input,
                 status := t.status })

def expandParts : Nat → State → Fields → List Part → Fields × State
  | 0, s, f, _ => (f, s)
  | _ + 1, s, f, [] => (f, s)
  | fuel + 1, s, f, p :: ps =>
    let (f, s) := expandPart fuel s f p
    expandParts fuel s f ps

/-- The texts that words stand for. -/
def expandWords : Nat → State → List (List Part) → List (List Char) × State
  | 0, s, _ => ([], s)
  | _ + 1, s, [] => ([], s)
  | fuel + 1, s, w :: ws =>
    let (f, s) := expandParts fuel s {} w
    let texts := f.break_.complete.flatMap (Field.expand s.tree)
    let (rest, s) := expandWords fuel s ws
    (texts ++ rest, s)

/-- The text of a word that is neither split nor matched. -/
def expandWhole : Nat → State → List Part → List Char × State
  | 0, s, _ => ([], s)
  | fuel + 1, s, w =>
    let quoted : List Part := w.map fun p => match p with
      | .parameter n d _ => .parameter n d true
      | .output c _ => .output c true
      | p => p
    let (f, s) := expandParts fuel s {} quoted
    (Text.join [' '] (f.break_.complete.map Field.text), s)

/-- Opens redirections; the answer is `none` if one cannot be opened. -/
def redirect : Nat → State → List Redirection → Bool × State
  | 0, s, _ => (true, s)
  | _ + 1, s, [] => (true, s)
  | fuel + 1, s, r :: rs =>
    let setStream (s : State) (stream : Nat) (sink : Sink) : State :=
      if stream = 2 then { s with stderr := sink }
      else if stream = 1 then { s with stdout := sink } else s
    let refused (s : State) (what : String) (p : List Char) : Bool × State :=
      (false, s.refusing 2 ("cannot " ++ what ++ " " ++ String.ofList p))
    match r with
    | .duplicate stream other =>
      redirect fuel (setStream s stream (if other = 2 then s.stderr else s.stdout)) rs
    | .here body =>
      let (text, s) := expandWhole fuel s body
      redirect fuel { s with input := Utf8.encode text } rs
    | .input w =>
      let (p, s) := expandWhole fuel s w
      match s.tree.load p with
      | .ok bytes => redirect fuel { s with input := bytes } rs
      | .error .notFound => refused s "open" (p ++ ": No such file".toList)
      | .error e => refused s "open" (p ++ (": " ++ e.name).toList)
    | .write stream w =>
      let (p, s) := expandWhole fuel s w
      match s.tree.create p with
      | .ok (l, t) => redirect fuel (setStream { s with tree := t } stream (.file l)) rs
      | .error .notFound => refused s "create" (p ++ ": Directory nonexistent".toList)
      | .error e => refused s "create" (p ++ (": " ++ e.name).toList)
    | .append stream w =>
      let (p, s) := expandWhole fuel s w
      match s.tree.openTarget p with
      | .ok l =>
        let t := if (s.tree.node? l).isSome then s.tree else s.tree.putFile l []
        redirect fuel (setStream { s with tree := t } stream (.file l)) rs
      | .error .notFound => refused s "create" (p ++ ": Directory nonexistent".toList)
      | .error e => refused s "create" (p ++ (": " ++ e.name).toList)

def eval : Nat → Code → State → Ending × State
  | 0, _, s => (.normal, s)
  | fuel + 1, code, s =>
    match code with
    | .simple assignments words rs =>
      let (texts, s) := expandWords fuel { s with status := if words.isEmpty then 0 else s.status } words
      let (opened, t) := redirect fuel s rs
      let assigned := assign fuel t assignments
      if assigned.stuck then (.exit, restore rs s assigned)
      else if !opened then checked (.normal, restore rs s t)
      else
        match texts with
        | [] => checked (.normal, restore rs s assigned)
        | [['e', 'x', 'e', 'c']] => (.normal, assigned.ending 0)
        | name :: args =>
          let (e, after) := command fuel name args assigned
          let after := if assignments.isEmpty then after else { after with bound := s.bound }
          checked (e, restore rs s after)
    | .redirected body rs =>
      let (opened, t) := redirect fuel s rs
      let (e, t) := if opened then eval fuel body t else checked (.normal, t)
      (e, restore rs s t)
    | .pipeline parts => checked (pipe fuel parts s)
    | .not body =>
      let (e, s) := tested fuel body s
      (e, if e = .normal then s.ending (if s.succeeded then 1 else 0) else s)
    | .both first second =>
      let (e, s) := tested fuel first s
      if e = .normal ∧ s.succeeded then eval fuel second s else (e, s)
    | .either first second =>
      let (e, s) := tested fuel first s
      if e = .normal ∧ ¬ s.succeeded then eval fuel second s else (e, s)
    | .sequence parts => evalAll fuel parts s
    | .subshell body =>
      let (e, t) := eval fuel body s
      let t := { t with tree := { t.tree with base := s.tree.base }, bound := s.bound,
                        stuck := s.stuck, strict := s.strict }
      match e with
      | .killed n => (.killed n, t)
      | _ => checked (.normal, t)
    | .branch condition yes no =>
      let (e, s) := tested fuel condition s
      if e ≠ .normal then (e, s)
      else if s.succeeded then eval fuel yes s
      else
        match no with
        | .sequence [] => (.normal, s.ending 0)
        | no => eval fuel no s
    | .loop wanted condition body => repeat_ fuel wanted condition body (s.ending 0) 0
    | .each name words body =>
      let (texts, s) := expandWords fuel s words
      rounds fuel name texts body (s.ending 0)
    | .choice w cases =>
      let (text, s) := expandWhole fuel s w
      choose fuel text cases (s.ending 0)

/-- Runs a command whose outcome is a condition, so that its failure does not end the shell. -/
def tested : Nat → Code → State → Ending × State
  | 0, _, s => (.normal, s)
  | fuel + 1, code, s =>
    let (e, t) := eval fuel code { s with strict := false }
    (e, { t with strict := s.strict || t.strict })

/-- A command by its name and arguments, also one that runs further commands. -/
def command : Nat → List Char → List (List Char) → State → Ending × State
  | 0, _, _, s => (.normal, s)
  | fuel + 1, name, args, s =>
    match String.ofList name, args with
    | "eval", args =>
      let (e, t) := runLines fuel (Text.join [' '] args) { s with line := 1, status := 0 }
      (e, { t with line := s.line })
    | "exec", name :: args =>
      if (locate name).isSome then
        let (e, t) := command fuel name args s
        (if e = .normal then .exit else e, t)
      else (.exit, s.refusing 127 ("exec: " ++ String.ofList name ++ ": not found"))
    | "sh", ['-', 'c'] :: text :: _ =>
      let (e, t) := runLines fuel text { s with line := 1, status := 0, strict := false }
      let t := { t with tree := { t.tree with base := s.tree.base }, bound := s.bound,
                        line := s.line, strict := s.strict, stuck := s.stuck }
      (match e with
        | .killed n => .killed n
        | _ => .normal, t)
    | _, _ => call s name args

/-- Runs a text line by line. -/
def runLines : Nat → List Char → State → Ending × State
  | 0, _, s => (.normal, s)
  | fuel + 1, text, s =>
    let lineAt (rest : List Char) : Nat := s.line + (text.count '\n' - rest.count '\n')
    if text = [] then (.normal, s)
    else
      match Code.readLine text with
      | .error f =>
        (.exit, { s with line := lineAt f.rest }.refusing 2 ("Syntax error: " ++ f.cause.message))
      | .ok (code, rest) =>
        let (e, t) := eval fuel code s
        if e = .normal then runLines fuel rest { t with line := lineAt rest } else (e, t)

def assign : Nat → State → List (List Char × List Part) → State
  | 0, s, _ => s
  | _ + 1, s, [] => s
  | fuel + 1, s, (name, w) :: as =>
    let (v, s) := expandWhole fuel s w
    assign fuel (s.assign name v) as

def evalAll : Nat → List Code → State → Ending × State
  | 0, _, s => (.normal, s)
  | _ + 1, [], s => (.normal, s)
  | fuel + 1, c :: cs, s =>
    let (e, s) := eval fuel c s
    if e = .normal then evalAll fuel cs s else (e, s)

/-- The commands of a pipeline, each with the output of the one before as its input. -/
def pipe : Nat → List Code → State → Ending × State
  | 0, _, s => (.normal, s)
  | _ + 1, [], s => (.normal, s)
  | fuel + 1, [c], s =>
    let (e, t) := eval fuel c s
    (match e with
      | .killed n => .killed n
      | _ => .normal, { t with tree := { t.tree with base := s.tree.base } })
  | fuel + 1, c :: cs, s =>
    let (_, t) := eval fuel c { s with output := [], stdout := .output }
    let tree := { t.tree with base := s.tree.base }
    let (e, u) := pipe fuel cs { s with tree, errors := t.errors, input := t.output }
    (e, { u with input := t.input })

/-- Rounds of a loop; the status of the last one is the status of the loop. -/
def repeat_ : Nat → Bool → Code → Code → State → Nat → Ending × State
  | 0, _, _, _, s, _ => (.normal, s)
  | fuel + 1, wanted, condition, body, s, status =>
    let (e, s) := tested fuel condition s
    if e ≠ .normal then (e, s)
    else if s.succeeded = wanted then
      let (e, s) := eval fuel body s
      let (goOn, e) := loopEnding e
      if goOn then repeat_ fuel wanted condition body s s.status else (e, s)
    else (.normal, s.ending status)

def rounds : Nat → List Char → List (List Char) → Code → State → Ending × State
  | 0, _, _, _, s => (.normal, s)
  | _ + 1, _, [], _, s => (.normal, s)
  | fuel + 1, name, v :: vs, body, s =>
    let (e, s) := eval fuel body (s.assign name v)
    let (goOn, e) := loopEnding e
    if goOn then rounds fuel name vs body s else (e, s)

def choose : Nat → List Char → List (List (List Part) × Code) → State → Ending × State
  | 0, _, _, s => (.normal, s)
  | _ + 1, _, [], s => (.normal, s)
  | fuel + 1, text, (patterns, code) :: cases, s =>
    let (found, s) := anyMatch fuel text patterns s
    if found then eval fuel code s else choose fuel text cases s

def anyMatch : Nat → List Char → List (List Part) → State → Bool × State
  | 0, _, _, s => (false, s)
  | _ + 1, _, [], s => (false, s)
  | fuel + 1, text, p :: ps, s =>
    let (f, s) := expandParts fuel s {} p
    let field : Field := f.break_.complete.flatten
    if field.matchesText text then (true, s) else anyMatch fuel text ps s

end

/-- How deep commands may nest, and how often a loop may run. -/
def depth : Nat := 100000

/-- What a text for the shell leaves behind: its output, its error output, and the status it ended
with; `none` if it was killed. -/
structure Result where
  output : List UInt8
  errors : List UInt8
  status : Option Nat
  deriving DecidableEq

/-- Runs a text on files, in their working directory and with the given input. -/
def run (t : Tree) (input : List UInt8) (text : List Char) : Result × Tree × List UInt8 :=
  let (e, s) := runLines depth text { tree := t, input }
  let status := match e with
    | .killed _ => none
    | _ => some s.status
  (⟨s.output, s.errors, status⟩, { s.tree with base := t.base }, s.input)

end Rollout.Shell
