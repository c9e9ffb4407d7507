import Rollout.Shell.Code

/-!
# Reading shell commands

The grammar of the shell, top down: lists of pipelines of commands, and words within them. Words that
are keywords count as such only where a command may begin.

* `Code.readLine` reads the next line of a text, with all lines that belong to its commands. A fault
  names what was found, and what would have had to come instead.
-/

namespace Rollout.Shell

/-- Why a text is not well formed. -/
inductive FaultCause where
  | quotes
  | backquotes
  | brackets
  | braces
  | loopVariable
  | streamNumber
  | unexpected (found : String) (wanted : Option String)
  deriving Repr, DecidableEq

/-- A fault, and what has not been read where it is noticed. -/
structure SyntaxFault where
  cause : FaultCause
  rest : List Char
  deriving Repr, DecidableEq

def FaultCause.message : FaultCause → String
  | .quotes => "Unterminated quoted string"
  | .backquotes => "EOF in backquote substitution"
  | .brackets => "Missing '))'"
  | .braces => "Missing '\x7d'"
  | .loopVariable => "Bad for loop variable"
  | .streamNumber => "Bad fd number"
  | .unexpected found none => found ++ " unexpected"
  | .unexpected found (some wanted) => found ++ " unexpected (expecting " ++ wanted ++ ")"

/-- The characters that end a word. -/
def endsWord (c : Char) : Bool :=
  c = ' ' || c = '\t' || c = '\n' || c = ';' || c = '&' || c = '|' || c = '<' || c = '>' || c = '(' ||
    c = ')'

def isNameStart (c : Char) : Bool := c.isAlpha || c = '_'

def isNamePart (c : Char) : Bool := c.isAlphanum || c = '_'

def isName (s : List Char) : Bool := s.head?.any isNameStart && s.all isNamePart

/-- Past blanks and a comment. -/
def dropSpace : List Char → List Char
  | '\\' :: '\n' :: s => dropSpace s
  | '#' :: s => s.dropWhile (· ≠ '\n')
  | c :: s => if c = ' ' ∨ c = '\t' then dropSpace s else c :: s
  | [] => []

/-- Past blanks, comments and line ends. -/
def dropLines : Nat → List Char → List Char
  | 0, s => s
  | fuel + 1, s =>
    match dropSpace s with
    | '\n' :: s => dropLines fuel s
    | s => s

/-- Past everything before the next word or sign, on whatever line it is. -/
def toNext (s : List Char) : List Char := dropLines (s.length + 1) s

/-- The characters up to a delimiter, and what follows it. -/
def upTo? (d : Char) : List Char → Option (List Char × List Char)
  | [] => none
  | c :: s => if c = d then some ([], s) else (upTo? d s).map fun (a, b) => (c :: a, b)

/-- The characters up to a closing grave accent, with those taken back that are escaped. -/
def upToGrave? : List Char → Option (List Char × List Char)
  | [] => none
  | '\\' :: c :: s =>
    (upToGrave? s).map fun (a, b) =>
      (if c = '\x60' ∨ c = '$' ∨ c = '\\' then (c :: a, b) else ('\\' :: c :: a, b))
  | c :: s => if c = '\x60' then some ([], s) else (upToGrave? s).map fun (a, b) => (c :: a, b)

/-- The characters up to two closing brackets that match. -/
def upToBrackets? : Nat → List Char → Option (List Char × List Char)
  | _, [] => none
  | 0, ')' :: ')' :: s => some ([], s)
  | depth, c :: s =>
    let depth := if c = '(' then depth + 1 else if c = ')' then depth - 1 else depth
    (upToBrackets? depth s).map fun (a, b) => (c :: a, b)

/-- Parameters that are a single sign. -/
def isSign (c : Char) : Bool :=
  c.isDigit || c = '?' || c = '$' || c = '#' || c = '@' || c = '*' || c = '!' || c = '-'

/-- The characters up to the brace that closes a parameter; parameters may stand within it. -/
def upToBrace? : Nat → List Char → Option (List Char × List Char)
  | _, [] => none
  | 0, '}' :: s => some ([], s)
  | depth, '\\' :: c :: s => (upToBrace? depth s).map fun (a, b) => ('\\' :: c :: a, b)
  | depth, '$' :: '{' :: s => (upToBrace? (depth + 1) s).map fun (a, b) => ('$' :: '{' :: a, b)
  | depth, c :: s =>
    (upToBrace? (if c = '}' then depth - 1 else depth) s).map fun (a, b) => (c :: a, b)

/-- The name that a text begins with, of letters or a single sign. -/
def parameterName (s : List Char) : List Char :=
  if s.head?.any isNameStart then s.takeWhile isNamePart
  else if s.head?.any isSign then s.take 1
  else []

/-- What follows a parameter's name: how its value is changed by a word, and the text of that word. -/
def change? (s : List Char) : Option ((List Part → Change) × List Char) :=
  match s with
  | [] => some (fun _ => .keep, [])
  | ':' :: '-' :: s => some (.fallback true, s)
  | '-' :: s => some (.fallback false, s)
  | ':' :: '=' :: s => some (.assign true, s)
  | '=' :: s => some (.assign false, s)
  | ':' :: '+' :: s => some (.instead true, s)
  | '+' :: s => some (.instead false, s)
  | '%' :: '%' :: s => some (.cut true true, s)
  | '%' :: s => some (.cut true false, s)
  | '#' :: '#' :: s => some (.cut false true, s)
  | '#' :: s => some (.cut false false, s)
  | _ => none

/-- The text of a word that is not quoted anywhere. -/
def plainText? : List Part → Option (List Char)
  | [] => some []
  | .bare c :: ps => (plainText? ps).map (c :: ·)
  | _ => none

/-- A word as it stands, as far as it goes without quotes and signs. -/
def wordAhead (s : List Char) : List Char :=
  s.takeWhile fun c => !endsWord c && c ≠ '\'' && c ≠ '\"' && c ≠ '\\' && c ≠ '$' && c ≠ '\x60'

/-- The keywords that a list of commands ends at. -/
def closers : List String := ["then", "else", "elif", "fi", "do", "done", "esac", "\x7d"]

/-- All keywords. -/
def keywords : List String :=
  ["!", "case", "for", "if", "in", "until", "while", "\x7b"] ++ closers

/-- Past a keyword, if it comes next. -/
def keyword? (word : String) (s : List Char) : Option (List Char) :=
  if wordAhead s = word.toList then some (s.drop word.length) else none

def doubleQuoted (s : String) : String := "\"" ++ s ++ "\""

/-- What comes next, as faults name it. -/
def nextName (s : List Char) : String :=
  match s with
  | [] => "end of file"
  | '\n' :: _ => "newline"
  | ';' :: ';' :: _ => doubleQuoted ";;"
  | '&' :: '&' :: _ => doubleQuoted "&&"
  | '|' :: '|' :: _ => doubleQuoted "||"
  | c :: _ =>
    if c = '<' ∨ c = '>' then "redirection"
    else if endsWord c then doubleQuoted c.toString
    else
      let word := String.ofList (wordAhead s)
      if keywords.contains word then doubleQuoted word else "word"

/-- What comes next is not what has to come. -/
def unexpected {α : Type} (wanted : Option String) (s : List Char) : Except SyntaxFault α :=
  .error ⟨.unexpected (nextName s) wanted, s⟩

/-- Past a keyword that has to come. -/
def require (word : String) (s : List Char) : Except SyntaxFault (List Char) :=
  match keyword? word s with
  | some s => .ok s
  | none => unexpected (some (doubleQuoted word)) s

/-- Past a sign that has to come. -/
def requireSign (c : Char) (s : List Char) : Except SyntaxFault (List Char) :=
  match s with
  | d :: rest => if d = c then .ok rest else unexpected (some (doubleQuoted c.toString)) s
  | [] => unexpected (some (doubleQuoted c.toString)) s

/-- The stream that a redirection names by a digit before it. -/
def streamAhead (s : List Char) : Option Nat × List Char :=
  match s with
  | d :: c :: s =>
    if d.isDigit ∧ (c = '<' ∨ c = '>') then (some (d.toNat - 48), c :: s) else (none, d :: c :: s)
  | s => (none, s)

/-- The first line of a text without its end, and the lines after it. -/
def cutLine (s : List Char) : List Char × List Char :=
  (s.takeWhile (· ≠ '\n'), (s.dropWhile (· ≠ '\n')).drop 1)

/-- The lines up to one that is the delimiter, each with its end, and what follows. -/
def linesUpTo : Nat → List Char → List Char → List Char × List Char
  | 0, _, s => ([], s)
  | fuel + 1, delimiter, s =>
    if s = [] then ([], [])
    else
      let ending := if s.contains '\n' then ['\n'] else []
      let (line, s) := cutLine s
      if line = delimiter then ([], s)
      else
        let (lines, s) := linesUpTo fuel delimiter s
        (line ++ ending ++ lines, s)

/-- The text of a word with its quotes removed, and whether it had any. -/
def delimiterOf : List Part → List Char × Bool
  | [] => ([], false)
  | .bare c :: ps =>
    let (d, q) := delimiterOf ps
    (c :: d, q)
  | .text t :: ps => (t ++ (delimiterOf ps).1, true)
  | _ :: ps => delimiterOf ps

mutual

/-- A dollar sign with what belongs to it, from after the sign. -/
def readDollar : Nat → Bool → List Char → Except SyntaxFault (Part × List Char)
  | 0, _, s => unexpected none s
  | fuel + 1, quoted, s =>
    match s with
    | '(' :: '(' :: s =>
      match upToBrackets? 0 s with
      | some (e, s) => do
        let (ps, _) ← readQuoted fuel false e
        return (.arithmetic ps, s)
      | none => .error ⟨.brackets, []⟩
    | '(' :: s => do
      let (c, s) ← readList fuel false true s
      return (.output c quoted, ← requireSign ')' (toNext s))
    | '{' :: s =>
      match upToBrace? 0 s with
      | some (inside, rest) => do
        return (← readBraced fuel quoted inside, rest)
      | none => .error ⟨if quoted then .quotes else .braces, []⟩
    | c :: s =>
      if isNameStart c then
        let name := (c :: s).takeWhile isNamePart
        .ok (.parameter name .keep quoted, (c :: s).drop name.length)
      else if isSign c then .ok (.parameter [c] .keep quoted, s)
      else .ok (if quoted then .text ['$'] else .bare '$', c :: s)
    | [] => .ok (if quoted then .text ['$'] else .bare '$', [])

/-- The parameter that a text between braces says. -/
def readBraced : Nat → Bool → List Char → Except SyntaxFault Part
  | 0, _, s => unexpected none s
  | fuel + 1, quoted, inside =>
    match inside with
    | ['#'] => .ok (.parameter ['#'] .keep quoted)
    | '#' :: s => .ok (if s ≠ [] ∧ parameterName s = s then .length s else .bad)
    | _ =>
      let name := parameterName inside
      match change? (inside.drop name.length) with
      | none => .ok .bad
      | some (make, word) =>
        if name = [] then .ok .bad
        else do
          let (ps, _) ← if quoted && word.head?.all (· ≠ '\'') then readQuoted fuel false word
            else readWord fuel (fun _ => false) word
          return .parameter name (make ps) quoted

/-- A command between grave accents, from after the opening one. -/
def readGrave : Nat → Bool → List Char → Except SyntaxFault (Part × List Char)
  | 0, _, s => unexpected none s
  | fuel + 1, quoted, s =>
    match upToGrave? s with
    | none => .error ⟨.backquotes, []⟩
    | some (inside, s) => do
      let (c, left) ← readList fuel false true inside
      if (toNext left).isEmpty then return (.output c quoted, s) else unexpected none (toNext left)

/-- The parts between quotation marks, from after the opening one; `closed` is false for a text that
ends at its own end, where quotation marks are characters like others. -/
def readQuoted : Nat → Bool → List Char → Except SyntaxFault (List Part × List Char)
  | 0, _, s => unexpected none s
  | _ + 1, closed, [] => if closed then .error ⟨.quotes, []⟩ else .ok ([], [])
  | fuel + 1, closed, c :: s =>
    let goOn (p : Part) (s : List Char) : Except SyntaxFault (List Part × List Char) := do
      let (ps, s) ← readQuoted fuel closed s
      return (p :: ps, s)
    if c = '\"' ∧ closed then .ok ([.text []], s)
    else if c = '$' then do
      let (p, s) ← readDollar fuel true s
      goOn p s
    else if c = '\x60' then do
      let (p, s) ← readGrave fuel true s
      goOn p s
    else if c = '\\' then
      match s with
      | d :: s =>
        if d = '\n' then readQuoted fuel closed s
        else if d = '$' ∨ d = '\x60' ∨ (d = '\"' ∧ closed) ∨ d = '\\' then goOn (.text [d]) s
        else goOn (.text [c, d]) s
      | [] => if closed then .error ⟨.quotes, []⟩ else .ok ([.text [c]], [])
    else goOn (.text [c]) s

/-- The parts of a word, up to a character that ends it. -/
def readWord : Nat → (Char → Bool) → List Char → Except SyntaxFault (List Part × List Char)
  | 0, _, s => unexpected none s
  | _ + 1, _, [] => .ok ([], [])
  | fuel + 1, ends, c :: s =>
    let goOn (ps : List Part) (s : List Char) : Except SyntaxFault (List Part × List Char) := do
      let (qs, s) ← readWord fuel ends s
      return (ps ++ qs, s)
    if ends c then .ok ([], c :: s)
    else if c = '\'' then
      match upTo? '\'' s with
      | some (inside, s) => goOn [.text inside] s
      | none => .error ⟨.quotes, []⟩
    else if c = '\"' then do
      let (ps, s) ← readQuoted fuel true s
      goOn ps s
    else if c = '$' then do
      let (p, s) ← readDollar fuel false s
      goOn [p] s
    else if c = '\x60' then do
      let (p, s) ← readGrave fuel false s
      goOn [p] s
    else if c = '\\' then
      match s with
      | '\n' :: s => readWord fuel ends s
      | d :: s => goOn [.text [d]] s
      | [] => goOn [.text ['\\']] []
    else goOn [.bare c] s

/-- A redirection, if one comes next. -/
def readRedirection : Nat → List Char → Except SyntaxFault (Option Redirection × List Char)
  | 0, s => unexpected none s
  | fuel + 1, s =>
    let (stream, t) := streamAhead s
    let target (make : List Part → Redirection) (s : List Char) :
        Except SyntaxFault (Option Redirection × List Char) := do
      let s := dropSpace s
      let (w, rest) ← readWord fuel endsWord s
      if w.isEmpty then unexpected none s else return (some (make w), rest)
    match t with
    | '>' :: '&' :: s =>
      match dropSpace s with
      | d :: rest =>
        if d.isDigit then .ok (some (.duplicate (stream.getD 1) (d.toNat - 48)), rest)
        else if endsWord d then unexpected none (d :: rest)
        else .error ⟨.streamNumber, d :: rest⟩
      | [] => unexpected none []
    | '>' :: '>' :: s => target (.append (stream.getD 1)) s
    | '>' :: '|' :: s => target (.write (stream.getD 1)) s
    | '>' :: s => target (.write (stream.getD 1)) s
    | '<' :: '<' :: s => do
      let s := dropSpace s
      let (w, rest) ← readWord fuel endsWord s
      if w.isEmpty then unexpected none s
      else
        let (delimiter, isQuoted) := delimiterOf w
        let (line, below) := cutLine rest
        let (body, below) := linesUpTo (below.length + 1) delimiter below
        let parts ← if isQuoted then .ok [.text body] else do
          let (ps, _) ← readQuoted fuel false body
          .ok ps
        return (some (.here parts), line ++ '\n' :: below)
    | '<' :: s => target .input s
    | _ => .ok (none, s)

def readRedirections : Nat → List Char → Except SyntaxFault (List Redirection × List Char)
  | 0, s => unexpected none s
  | fuel + 1, s => do
    match ← readRedirection fuel (dropSpace s) with
    | (some r, s) =>
      let (rs, s) ← readRedirections fuel s
      return (r :: rs, s)
    | (none, s) => return ([], s)

/-- The words of a command, with assignments before the first one, and redirections anywhere. -/
def readSimple : Nat → Bool → List Char →
    Except SyntaxFault
      ((List (List Char × List Part) × List (List Part) × List Redirection) × List Char)
  | 0, _, s => unexpected none s
  | fuel + 1, first, s => do
    match ← readRedirection fuel (dropSpace s) with
    | (some r, s) =>
      let ((as, ws, rs), s) ← readSimple fuel first s
      return ((as, ws, r :: rs), s)
    | (none, s) =>
      let (w, rest) ← readWord fuel endsWord s
      if w.isEmpty then return (([], [], []), rest)
      else
        let name := ((plainText? (w.takeWhile fun p => match p with
          | .bare c => c ≠ '='
          | _ => false)).getD [])
        let assigns := first && isName name && match w.drop name.length with
          | .bare '=' :: _ => true
          | _ => false
        if assigns then
          let ((as, ws, rs), s) ← readSimple fuel true rest
          return (((name, w.drop (name.length + 1)) :: as, ws, rs), s)
        else
          let ((as, ws, rs), s) ← readSimple fuel false rest
          return ((as, w :: ws, rs), s)

/-- The words of a loop, up to the end of its head. -/
def readLoopWords : Nat → List Char → Except SyntaxFault (List (List Part) × List Char)
  | 0, s => unexpected none s
  | fuel + 1, s => do
    let s := dropSpace s
    let (w, rest) ← readWord fuel endsWord s
    if w.isEmpty then
      match rest with
      | ';' :: rest => return ([], rest)
      | '\n' :: rest => return ([], rest)
      | rest => unexpected none rest
    else
      let (ws, s) ← readLoopWords fuel rest
      return (w :: ws, s)

/-- The body of a loop, from before its keyword. -/
def readBody : Nat → List Char → Except SyntaxFault (Code × List Char)
  | 0, s => unexpected none s
  | fuel + 1, s => do
    let s ← require "do" (toNext s)
    let (c, s) ← readList fuel false false s
    return (c, ← require "done" (toNext s))

/-- The branches after a condition, from before it. -/
def readBranches : Nat → List Char → Except SyntaxFault (Code × List Char)
  | 0, s => unexpected none s
  | fuel + 1, s => do
    let (condition, s) ← readList fuel false false s
    let s ← require "then" (toNext s)
    let (yes, s) ← readList fuel false false s
    let s := toNext s
    match keyword? "elif" s, keyword? "else" s with
    | some s, _ =>
      let (no, s) ← readBranches fuel s
      return (.branch condition yes no, s)
    | none, some s =>
      let (no, s) ← readList fuel false false s
      return (.branch condition yes no, ← require "fi" (toNext s))
    | none, none => return (.branch condition yes (.sequence []), ← require "fi" s)

/-- The patterns of a case, up to the closing bracket. -/
def readPatterns : Nat → List Char → Except SyntaxFault (List (List Part) × List Char)
  | 0, s => unexpected none s
  | fuel + 1, s => do
    let (w, s) ← readWord fuel endsWord (dropSpace s)
    match dropSpace s with
    | '|' :: s =>
      let (ws, s) ← readPatterns fuel s
      return (w :: ws, s)
    | s => return ([w], ← requireSign ')' s)

def readCases : Nat → List Char →
    Except SyntaxFault (List (List (List Part) × Code) × List Char)
  | 0, s => unexpected none s
  | fuel + 1, s => do
    let s := toNext s
    match keyword? "esac" s with
    | some s => return ([], s)
    | none =>
      let s := match s with
        | '(' :: s => s
        | s => s
      let (ps, s) ← readPatterns fuel s
      let (c, s) ← readList fuel false true s
      match toNext s with
      | ';' :: ';' :: s =>
        let (cs, s) ← readCases fuel s
        return ((ps, c) :: cs, s)
      | s =>
        match keyword? "esac" s with
        | some s => return ([(ps, c)], s)
        | none => unexpected (some (doubleQuoted ";;")) s

/-- A command that is more than words, if one comes next. -/
def readCompound : Nat → List Char → Except SyntaxFault (Option Code × List Char)
  | 0, s => unexpected none s
  | fuel + 1, s => do
    let one (r : Code × List Char) : Option Code × List Char := (some r.1, r.2)
    match s with
    | '(' :: s =>
      let (c, s) ← readList fuel false false s
      return (some (.subshell c), ← requireSign ')' (toNext s))
    | _ =>
      let word := String.ofList (wordAhead s)
      let rest := s.drop word.length
      if word = "\x7b" then
        let (c, s) ← readList fuel false false rest
        return (some c, ← require "\x7d" (toNext s))
      else if word = "if" then return one (← readBranches fuel rest)
      else if word = "while" ∨ word = "until" then
        let (condition, s) ← readList fuel false false rest
        let (body, s) ← readBody fuel s
        return (some (.loop (word = "while") condition body), s)
      else if word = "for" then
        let s := dropSpace rest
        let name := wordAhead s
        if isName name then
          let s := toNext (s.drop name.length)
          match keyword? "in" s with
          | some s =>
            let (ws, s) ← readLoopWords fuel s
            let (body, s) ← readBody fuel s
            return (some (.each name ws body), s)
          | none =>
            let s := match s with
              | ';' :: s => s
              | s => s
            let (body, s) ← readBody fuel s
            return (some (.each name [] body), s)
        else .error ⟨.loopVariable, s⟩
      else if word = "case" then
        let s := dropSpace rest
        let (w, rest) ← readWord fuel endsWord s
        if w.isEmpty then unexpected (some "word") s
        else
          let s ← require "in" (toNext rest)
          let (cs, s) ← readCases fuel s
          return (some (.choice w cs), s)
      else if keywords.contains word then unexpected none s
      else return (none, s)

def readCommand : Nat → List Char → Except SyntaxFault (Code × List Char)
  | 0, s => unexpected none s
  | fuel + 1, s => do
    let s := dropSpace s
    match ← readCompound fuel s with
    | (some c, s) =>
      let (rs, s) ← readRedirections fuel s
      return (if rs.isEmpty then c else .redirected c rs, s)
    | (none, s) =>
      let ((as, ws, rs), rest) ← readSimple fuel true s
      if as.isEmpty && ws.isEmpty && rs.isEmpty then unexpected none s
      else
        match as, ws, rs, rest with
        | [], [_], [], '(' :: rest => unexpected (some (doubleQuoted ")")) (dropSpace rest)
        | _, _, _, _ => return (.simple as ws rs, rest)

/-- The commands of a pipeline after the first. -/
def readPipes : Nat → List Char → Except SyntaxFault (List Code × List Char)
  | 0, s => unexpected none s
  | fuel + 1, s =>
    match dropSpace s with
    | '|' :: '|' :: s => .ok ([], '|' :: '|' :: s)
    | '|' :: s => do
      let (c, s) ← readCommand fuel (toNext s)
      let (cs, s) ← readPipes fuel s
      return (c :: cs, s)
    | s => .ok ([], s)

def readPipeline : Nat → List Char → Except SyntaxFault (Code × List Char)
  | 0, s => unexpected none s
  | fuel + 1, s => do
    let s := dropSpace s
    let (negated, s) := match keyword? "!" s with
      | some s => (true, s)
      | none => (false, s)
    let (c, s) ← readCommand fuel s
    let (cs, s) ← readPipes fuel s
    let p : Code := if cs.isEmpty then c else .pipeline (c :: cs)
    return (if negated then .not p else p, s)

/-- Pipelines after `first`, each run for the outcome of those before. -/
def readChain : Nat → Code → List Char → Except SyntaxFault (Code × List Char)
  | 0, _, s => unexpected none s
  | fuel + 1, first, s =>
    match dropSpace s with
    | '&' :: '&' :: s => do
      let (c, s) ← readPipeline fuel (toNext s)
      readChain fuel (.both first c) s
    | '|' :: '|' :: s => do
      let (c, s) ← readPipeline fuel (toNext s)
      readChain fuel (.either first c) s
    | s => .ok (first, s)

/-- Commands up to something that closes them: the end of the line if they are a `line` of the text. A
list has to have a command, unless it `mayBeEmpty` or the text ends. -/
def readCommands : Nat → Bool → Bool → List Char → Except SyntaxFault (List Code × List Char)
  | 0, _, _, s => unexpected none s
  | fuel + 1, line, mayBeEmpty, s => do
    let s := if line then dropSpace s else toNext s
    let closes := s.head? = some ')' || (s.head? = some ';' && s[1]? = some ';') ||
      closers.contains (String.ofList (wordAhead s))
    match s with
    | [] => return ([], [])
    | '\n' :: rest => return ([], rest)
    | _ =>
      if closes && mayBeEmpty && !line then return ([], s)
      else
        let (c, s) ← readPipeline fuel s
        let (c, s) ← readChain fuel c s
        match dropSpace s with
        | ';' :: ';' :: s =>
          if line then unexpected none (';' :: ';' :: s) else return ([c], ';' :: ';' :: s)
        | a :: s =>
          if a = '\n' ∧ line then return ([c], s)
          else if a = ';' ∨ a = '\n' ∨ a = '&' then
            let (cs, s) ← readCommands fuel line true s
            return (c :: cs, s)
          else if line then unexpected none (a :: s)
          else return ([c], a :: s)
        | [] => return ([c], [])

/-- A list of commands as one. -/
def readList : Nat → Bool → Bool → List Char → Except SyntaxFault (Code × List Char)
  | 0, _, _, s => unexpected none s
  | fuel + 1, line, mayBeEmpty, s => do
    let (cs, s) ← readCommands fuel line mayBeEmpty s
    return (match cs with
      | [c] => c
      | cs => .sequence cs, s)

end

/-- How deep the grammar goes for each character. -/
def depthPerChar : Nat := 16

/-- The commands of the next line, and the lines after it. -/
def Code.readLine (s : List Char) : Except SyntaxFault (Code × List Char) :=
  readList (depthPerChar * (s.length + 2)) true true s

end Rollout.Shell
