import Rollout.Shell.State
import Rollout.Text.Order

/-!
# The tools of a shell

Commands that a shell can call by name. Each acts on the state by its arguments, prints what it has to
say, and leaves its status.
-/

namespace Rollout.Shell.Tool

/-- Arguments as options and others: options begin with a dash, up to a double dash. -/
def options : List (List Char) → List Char × List (List Char)
  | [] => ([], [])
  | a :: as =>
    if a = ['-', '-'] then ([], as)
    else if a.head? = some '-' ∧ a.length > 1 then
      let (o, rest) := options as
      (a.drop 1 ++ o, rest)
    else
      let (o, rest) := options as
      (o, a :: rest)

def quote (s : List Char) : String := "'" ++ String.ofList s ++ "'"

/-- The sentence of a tool that cannot do something. -/
def cannot (tool what : String) (path : List Char) (f : FileFault) : String :=
  tool ++ ": cannot " ++ what ++ " " ++ quote path ++ ": " ++ f.name

/-- Applies an action to each argument; the status is 0 if all of them succeed. -/
def forAll (act : State → List Char → State) (s : State) (args : List (List Char)) : State :=
  let s := s.ending 0
  args.foldl (fun s a =>
    let next := act s a
    if s.status = 0 then next else next.ending s.status) s

/-! ### Text -/

/-- The byte that octal digits denote, at most `count` of them, and what follows. -/
def octal (count : Nat) (s : List Char) : Nat × List Char :=
  let ds := (s.take count).takeWhile fun c => '0' ≤ c ∧ c ≤ '7'
  (ds.foldl (fun n c => 8 * n + (c.toNat - 48)) 0, s.drop ds.length)

/-- An escape sequence after its backslash: the bytes it stands for, and what follows. -/
def escape (zeroed : Bool) (s : List Char) : List UInt8 × List Char :=
  match s with
  | [] => ([92], [])
  | c :: t =>
    if c = 'a' then ([7], t)
    else if c = 'b' then ([8], t)
    else if c = 'f' then ([12], t)
    else if c = 'n' then ([10], t)
    else if c = 'r' then ([13], t)
    else if c = 't' then ([9], t)
    else if c = 'v' then ([11], t)
    else if c = '\\' then ([92], t)
    else if zeroed && c = '0' then
      let (n, t) := octal 3 t
      ([.ofNat n], t)
    else if !zeroed && '0' ≤ c && c ≤ '7' then
      let (n, t) := octal 3 (c :: t)
      ([.ofNat n], t)
    else (92 :: Utf8.encodeChar c, t)

/-- A text with its escape sequences replaced; it ends early at one that says so. -/
def unescape : Nat → List Char → List UInt8 × Bool
  | 0, _ => ([], false)
  | _ + 1, [] => ([], false)
  | _ + 1, '\\' :: 'c' :: _ => ([], true)
  | fuel + 1, c :: s =>
    let (bytes, s) := if c = '\\' then escape true s else (Utf8.encodeChar c, s)
    let (rest, stopped) := unescape fuel s
    (bytes ++ rest, stopped)

def echo (s : State) (args : List (List Char)) : State :=
  let (bare, args) := match args with
    | ['-', 'n'] :: as => (true, as)
    | as => (false, as)
  let text := Text.join [' '] args
  let (bytes, stopped) := unescape (text.length + 1) text
  (s.emitBytes (if bare || stopped then bytes else bytes ++ [10])).ending 0

/-- The number that an argument denotes, as far as it does. -/
def intOf (s : List Char) : Int :=
  let (negative, ds) := match s with
    | '-' :: ds => (true, ds)
    | '+' :: ds => (false, ds)
    | ds => (false, ds)
  let n := (ds.takeWhile Char.isDigit).foldl (fun n c => 10 * n + (c.toNat - 48)) 0
  if negative then -Int.ofNat n else n

/-- A text in a column of a width; a negative width is on the left. -/
def column (width : Int) (zeros : Bool) (bytes : List UInt8) : List UInt8 :=
  let gap := width.natAbs - bytes.length
  if width < 0 then bytes ++ List.replicate gap 32
  else List.replicate gap (if zeros then 48 else 32) ++ bytes

/-- A conversion after its percent sign: its bytes for the next argument, what follows, and whether
the argument is used up. -/
def conversion (arg : List Char) (s : List Char) : List UInt8 × List Char × Bool :=
  let flags := s.takeWhile fun c => c = '-' || c = '0'
  let t := s.drop flags.length
  let digits := t.takeWhile Char.isDigit
  let width := intOf digits
  let width := if flags.contains '-' then -width else width
  let zeros := flags.contains '0'
  let show_ (text : List Char) : List UInt8 := column width zeros (Utf8.encode text)
  match t.drop digits.length with
  | 's' :: t => (column width false (Utf8.encode arg), t, true)
  | 'b' :: t => (column width false (unescape (arg.length + 1) arg).1, t, true)
  | 'c' :: t => (Utf8.encode (arg.take 1), t, true)
  | 'd' :: t | 'i' :: t | 'u' :: t => (show_ (toString (intOf arg)).toList, t, true)
  | 'x' :: t => (show_ (Nat.toDigits 16 (intOf arg).toNat), t, true)
  | 'o' :: t => (show_ (Nat.toDigits 8 (intOf arg).toNat), t, true)
  | '%' :: t => ([37], t, false)
  | t => (37 :: Utf8.encode (s.take (s.length - t.length)), t, false)

/-- One pass over a format, and the arguments it leaves. -/
def format : Nat → List Char → List (List Char) → List UInt8 × List (List Char)
  | 0, _, args => ([], args)
  | _ + 1, [], args => ([], args)
  | fuel + 1, c :: s, args =>
    let (bytes, s, args) :=
      if c = '\\' then
        let (bytes, s) := escape false s
        (bytes, s, args)
      else if c = '%' then
        let (bytes, s, used) := conversion (args.headD []) s
        (bytes, s, if used then args.drop 1 else args)
      else (Utf8.encodeChar c, s, args)
    let (rest, args) := format fuel s args
    (bytes ++ rest, args)

/-- A format, again and again until no argument is left. -/
def formatAll : Nat → List Char → List (List Char) → List UInt8
  | 0, _, _ => []
  | fuel + 1, f, args =>
    let (bytes, rest) := format (f.length + 1) f args
    if rest = [] ∨ rest.length = args.length then bytes else bytes ++ formatAll fuel f rest

def printf (s : State) (args : List (List Char)) : State :=
  match args with
  | [] => s.refusing 2 "printf: usage: printf format [arg ...]"
  | f :: args => (s.emitBytes (formatAll (args.length + 1) f args)).ending 0

/-! ### Files -/

/-- Runs an action on the content of each file, or on the input if there is none. -/
def onContents (tool : String) (act : State → List UInt8 → State) (s : State)
    (files : List (List Char)) : State :=
  if files = [] then (act { s with input := [] } s.input).ending 0
  else forAll (fun s f =>
    if f = ['-'] then act { s with input := [] } s.input
    else match s.tree.load f with
      | .ok bytes => act s bytes
      | .error e => s.failing 1 (tool ++ ": " ++ String.ofList f ++ ": " ++ e.name)) s files

/-- The lines of bytes, each with its end. -/
def byteLines : List UInt8 → List (List UInt8)
  | [] => []
  | b :: s =>
    if b = 10 then [b] :: byteLines s
    else match byteLines s with
      | [] => [[b]]
      | l :: ls => (b :: l) :: ls

def cat (s : State) (args : List (List Char)) : State :=
  let (o, files) := options args
  onContents "cat" (fun s bytes =>
    if o.contains 'n' then
      s.emitBytes ((byteLines bytes).zipIdx.flatMap fun (l, i) =>
        column 6 false (Utf8.encode (toString (i + 1)).toList) ++ 9 :: l)
    else s.emitBytes bytes) s files

/-- How many lines or bytes are wanted, as a text, and the arguments after that. -/
def wanted : List (List Char) → Bool × List Char × List (List Char)
  | ['-', 'n'] :: n :: as => (false, n, as)
  | ['-', 'c'] :: n :: as => (true, n, as)
  | ('-' :: 'n' :: n) :: as => (false, n, as)
  | ('-' :: 'c' :: n) :: as => (true, n, as)
  | ('-' :: n) :: as =>
    if n ≠ [] ∧ n.all Char.isDigit then (false, n, as) else (false, ['1', '0'], ('-' :: n) :: as)
  | as => (false, ['1', '0'], as)

/-- The pieces that are counted: bytes, or lines. -/
def pieces (ofBytes : Bool) (bytes : List UInt8) : List (List UInt8) :=
  if ofBytes then bytes.map ([·]) else byteLines bytes

def head (s : State) (args : List (List Char)) : State :=
  let (ofBytes, n, files) := wanted args
  onContents "head" (fun s bytes =>
    let ps := pieces ofBytes bytes
    let count := if n.head? = some '-' then ps.length - (intOf n).natAbs else (intOf n).toNat
    s.emitBytes (ps.take count).flatten) s files

def tail (s : State) (args : List (List Char)) : State :=
  let (ofBytes, n, files) := wanted args
  onContents "tail" (fun s bytes =>
    let ps := pieces ofBytes bytes
    let count := if n.head? = some '+' then (intOf n).toNat - 1 else ps.length - (intOf n).natAbs
    s.emitBytes (ps.drop count).flatten) s files

def tee (s : State) (args : List (List Char)) : State :=
  let (o, files) := options args
  let bytes := s.input
  forAll (fun s f => match s.tree.openTarget f with
    | .ok l => { s with tree := if o.contains 'a' ∧ (s.tree.node? l).isSome then s.tree.append l bytes
                                else s.tree.putFile l bytes }
    | .error e => s.failing 1 ("tee: " ++ String.ofList f ++ ": " ++ e.name))
    ({ s with input := [] }.emitBytes bytes) files

/-- The characters of a set with its ranges. -/
def charactersOf : List Char → List Char
  | a :: '-' :: b :: s =>
    (List.range (b.toNat + 1 - a.toNat)).map (fun i => Char.ofNat (a.toNat + i)) ++ charactersOf s
  | '\\' :: 'n' :: s => '\n' :: charactersOf s
  | '\\' :: 't' :: s => '\t' :: charactersOf s
  | a :: s => a :: charactersOf s
  | [] => []

def tr (s : State) (args : List (List Char)) : State :=
  let (o, sets) := options args
  let old := charactersOf (sets.headD [])
  let new := charactersOf (sets.getD 1 [])
  let text := Utf8.decodeLossy s.input
  let change (c : Char) : Char := match old.idxOf? c with
    | some i => (new[i]? <|> new.getLast?).getD c
    | none => c
  let text := if o.contains 'd' then text.filter (!old.contains ·) else text.map change
  ({ s with input := [] }.emit text).ending 0

def readlink (s : State) (args : List (List Char)) : State :=
  forAll (fun s p => match s.tree.get false p with
    | .ok (_, .link target) => s.emit (target ++ ['\n'])
    | _ => s.ending 1) s (options args).2

def sort (s : State) (args : List (List Char)) : State :=
  let (o, files) := options args
  onContents "sort" (fun s bytes =>
    let ls := (byteLines bytes).map fun l => if l.getLast? = some 10 then l.dropLast else l
    let ls := ls.mergeSort fun a b => decide (a ≤ b)
    let ls := if o.contains 'u' then ls.eraseDups else ls
    let ls := if o.contains 'r' then ls.reverse else ls
    s.emitBytes (ls.flatMap (· ++ [10]))) s files

def wc (s : State) (args : List (List Char)) : State :=
  let (o, files) := options args
  onContents "wc" (fun s bytes =>
    let lines := bytes.count 10
    let words := (Text.words (Utf8.decodeLossy bytes)).length
    let all := o = []
    let numbers := (if all ∨ o.contains 'l' then [lines] else []) ++
      (if all ∨ o.contains 'w' then [words] else []) ++
      (if all ∨ o.contains 'c' then [bytes.length] else [])
    let width := if numbers.length > 1 then 7 else 0
    let cells := numbers.map fun n =>
      let text := (toString n).toList
      List.replicate (width - text.length) ' ' ++ text
    let name := match files with
      | [f] => ' ' :: f
      | _ => []
    s.emit (Text.join [' '] cells ++ name ++ ['\n'])) s files

/-- What a list shows of a file that has so many names. -/
def listLine (long : Bool) (names : Nat) (name : List Char) (n : Node) : List Char :=
  if long then
    let mode := match n with
      | .directory => "drwxr-xr-x"
      | .link _ => "lrwxrwxrwx"
      | .null => "crw-rw-rw-"
      | .file .. => "-rw-r--r--"
    let arrow := match n with
      | .link target => [' ', '-', '>', ' '] ++ target
      | _ => []
    mode.toList ++ " ".toList ++ (toString names).toList ++ " root root ".toList ++
      (toString n.size).toList ++ " Jan  1 00:00 ".toList ++ name ++ arrow ++ ['\n']
  else name ++ ['\n']

def listDirectory (hidden almost long : Bool) (s : State) (p : List Char) (l : Location) : State :=
  let listed := s.tree.listing l
  let children := ((s.tree.children l).take listed.names.length).filter fun (n, _) =>
    hidden || n.head? ≠ some '.'
  let dots := if hidden && !almost then [(['.'], Node.directory), (['.', '.'], .directory)] else []
  let entries := dots ++ children.mergeSort fun a b => Text.inOrder a.1 b.1
  let s := if long then s.emit "total 0\n".toList else s
  let s := entries.foldl (fun s (n, node) =>
    s.emit (listLine long (s.tree.nameCount (l ++ [n])) n node)) s
  match listed.broken with
  | some f => s.failing 2 ("ls: reading directory " ++ quote p ++ ": " ++ f.name)
  | none => s

def ls (s : State) (args : List (List Char)) : State :=
  let (o, paths) := options args
  let long := o.contains 'l'
  let almost := o.contains 'A'
  let hidden := o.contains 'a' || almost
  let paths := if paths = [] then [['.']] else paths.mergeSort Text.inOrder
  let find (p : List Char) := s.tree.get (!long) p
  let s := forAll (fun s p => match find p with
    | .error e => s.failing 2 (cannot "ls" "access" p e)
    | .ok _ => s) s paths
  let status := s.status
  let found := paths.filterMap fun p => match find p with
    | .ok (l, n) => some (p, l, n)
    | .error _ => none
  let isOpen := fun (n : Node) => n = .directory && !o.contains 'd'
  let (directories, files) := found.partition fun (_, _, n) => isOpen n
  let s := files.foldl (fun s (p, l, n) => s.emit (listLine long (s.tree.nameCount l) p n)) s
  directories.zipIdx.foldl (fun s ((p, l, _), i) =>
    match s.tree.refusal? l .read with
    | some f => s.failing 2 (cannot "ls" "open directory" p f)
    | none =>
      let s := if paths.length > 1 then
        s.emit ((if i > 0 || !files.isEmpty then ['\n'] else []) ++ p ++ [':', '\n']) else s
      listDirectory hidden almost long s p l) (s.ending status)

/-- The last name of a path. -/
def baseName (p : List Char) : List Char := (Path.fileName? p).getD p

/-- Where something is put: under its own name in a directory, or at the path itself. -/
def landing (s : State) (source destination : List Char) : List Char :=
  match s.tree.stat destination with
  | .ok .directory => Path.child destination (baseName source)
  | _ => destination

/-- Everything at a location and below it, as it is to be at another one. -/
def copied (t : Tree) (source destination : Location) : List (Location × Node) :=
  t.all.filterMap fun (l, n) =>
    if source.isPrefixOf l then some (destination ++ l.drop source.length, n) else none

def moveOne (destination : List Char) (s : State) (source : List Char) : State :=
  match s.tree.get false source with
  | .error e => s.failing 1 (cannot "mv" "stat" source e)
  | .ok (l, n) =>
    let landing := landing s source destination
    let refused (f : FileFault) : State :=
      s.failing 1 ("mv: cannot move " ++ quote source ++ " to " ++ quote landing ++ ": " ++ f.name)
    let put (m : Location) : State :=
      match s.tree.fixed? l <|> s.tree.fixed? m with
      | some f => refused f
      | none =>
        { s with tree := (s.tree.remove m).relabel fun k =>
            if l.isPrefixOf k then some (m ++ k.drop l.length) else some k }.ending 0
    match s.tree.find false landing with
    | .error e => refused e
    | .ok (.vacant m slash) =>
      if slash ∧ n ≠ .directory then refused .notDirectory
      else if l.isPrefixOf m then
        s.failing 1 ("mv: cannot move " ++ quote source ++ " to a subdirectory of itself, " ++
          quote landing)
      else put m
    | .ok (.found m old) =>
      if m = l then
        s.failing 1 ("mv: " ++ quote source ++ " and " ++ quote landing ++ " are the same file")
      else if old = .directory ∧ n ≠ .directory then
        s.failing 1 ("mv: cannot overwrite directory " ++ quote landing ++ " with non-directory")
      else if n = .directory ∧ old ≠ .directory then
        s.failing 1 ("mv: cannot overwrite non-directory " ++ quote landing ++ " with directory " ++
          quote source)
      else if old = .directory ∧ ¬ (s.tree.children m).isEmpty then refused .notEmpty
      else put m

def copyOne (recursive : Bool) (destination : List Char) (s : State) (source : List Char) : State :=
  match s.tree.get (!recursive) source with
  | .error e => s.failing 1 (cannot "cp" "stat" source e)
  | .ok (l, n) =>
    let landing := landing s source destination
    match n with
    | .directory =>
      if !recursive then
        s.failing 1 ("cp: -r not specified; omitting directory " ++ quote source)
      else match s.tree.find true landing with
        | .ok (.vacant m _) | .ok (.found m .directory) =>
          match s.tree.refusal? l .read, s.tree.fixed? m with
          | some f, _ => s.failing 1 (cannot "cp" "access" source f)
          | none, some f => s.failing 1 (cannot "cp" "create directory" landing f)
          | none, none =>
            let nodes := copied s.tree l m
            { s with tree := nodes.foldl (fun t (l, n) => t.put l n) s.tree }.ending 0
        | .ok (.found ..) =>
          s.failing 1 ("cp: cannot overwrite non-directory " ++ quote landing ++
            " with directory " ++ quote source)
        | .error e => s.failing 1 (cannot "cp" "create directory" landing e)
    | .link target =>
      match s.tree.find false landing with
      | .ok (.vacant m _) =>
        match s.tree.fixed? m with
        | some f => s.failing 1 (cannot "cp" "create symbolic link" landing f)
        | none => { s with tree := s.tree.put m (.link target) }.ending 0
      | _ => s.ending 1
    | n =>
      let place := s.tree.kept l
      match s.tree.refusal? place .read, s.tree.openTarget landing with
      | some f, _ => s.failing 1 ("cp: cannot open " ++ quote source ++ " for reading: " ++ f.name)
      | none, .error e => s.failing 1 (cannot "cp" "create regular file" landing e)
      | none, .ok m =>
        let (content, broken) := s.tree.reading place n
        if m = place then
          s.failing 1 ("cp: " ++ quote source ++ " and " ++ quote landing ++ " are the same file")
        else
          let s := if s.tree.node? m = some .null then s
            else { s with tree := s.tree.putFile m content }
          match broken with
          | some f => s.failing 1 ("cp: error reading " ++ quote source ++ ": " ++ f.name)
          | none => s.ending 0

/-- Acts on each source with the last argument as destination. -/
def toLast (tool : String) (act : List Char → State → List Char → State) (s : State)
    (args : List (List Char)) : State :=
  match args.getLast?, args.dropLast with
  | none, _ => s.failing 1 (tool ++ ": missing file operand\nTry '" ++ tool ++
      " --help' for more information.")
  | some only, [] => s.failing 1 (tool ++ ": missing destination file operand after " ++ quote only ++
      "\nTry '" ++ tool ++ " --help' for more information.")
  | some destination, sources =>
    let intoDirectory : Bool := match s.tree.stat destination with
      | .ok .directory => true
      | _ => false
    if sources.length > 1 ∧ !intoDirectory then
      s.failing 1 (tool ++ ": target " ++ quote destination ++ ": No such file or directory")
    else forAll (act destination) s sources

def mv (s : State) (args : List (List Char)) : State := toLast "mv" moveOne s (options args).2

def cp (s : State) (args : List (List Char)) : State :=
  let (o, args) := options args
  toLast "cp" (copyOne (o.contains 'r' || o.contains 'R' || o.contains 'a')) s args

def rm (s : State) (args : List (List Char)) : State :=
  let (o, paths) := options args
  forAll (fun s p => match s.tree.get false p with
    | .error e =>
      if o.contains 'f' ∧ e = .notFound then s else s.failing 1 (cannot "rm" "remove" p e)
    | .ok (l, n) =>
      if n = .directory ∧ ¬ (o.contains 'r' || o.contains 'R') then
        s.failing 1 (cannot "rm" "remove" p .isDirectory)
      else match s.tree.fixed? l with
        | some f => s.failing 1 (cannot "rm" "remove" p f)
        | none => { s with tree := s.tree.remove l }) s paths

def mkdir (s : State) (args : List (List Char)) : State :=
  let (o, paths) := options args
  let parents := o.contains 'p'
  forAll (fun s p =>
    let s := if parents then
        { s with tree := (Path.components p).length.fold (fun i _ t =>
            match t.find true (Text.join ['/'] ((Path.components p).take (i + 1))) with
            | .ok (.vacant l _) => if (t.fixed? l).isSome then t else t.put l .directory
            | _ => t) s.tree }
      else s
    match s.tree.find true p with
    | .ok (.vacant l _) =>
      match s.tree.fixed? l with
      | some f => s.failing 1 (cannot "mkdir" "create directory" p f)
      | none => { s with tree := s.tree.put l .directory }
    | .ok (.found _ .directory) =>
      if parents then s else s.failing 1 (cannot "mkdir" "create directory" p .alreadyExists)
    | .ok (.found ..) => s.failing 1 (cannot "mkdir" "create directory" p .alreadyExists)
    | .error e => s.failing 1 (cannot "mkdir" "create directory" p e)) s paths

def rmdir (s : State) (args : List (List Char)) : State :=
  forAll (fun s p =>
    let refused (f : FileFault) := s.failing 1 ("rmdir: failed to remove " ++ quote p ++ ": " ++ f.name)
    match s.tree.get false p with
    | .ok (l, .directory) =>
      if ¬ (s.tree.children l).isEmpty then refused .notEmpty
      else match s.tree.fixed? l with
        | some f => refused f
        | none => { s with tree := s.tree.remove l }
    | .ok _ => refused .notDirectory
    | .error e => refused e) s (options args).2

def touch (s : State) (args : List (List Char)) : State :=
  forAll (fun s p => match s.tree.find true p with
    | .ok (.found l (.file content _)) =>
      { s with tree := s.tree.putFile (s.tree.kept l) content }
    | .ok (.found ..) => s
    | .ok (.vacant l slash) =>
      if slash then s.failing 1 (cannot "touch" "touch" p .notFound)
      else match s.tree.fixed? l with
        | some f => s.failing 1 (cannot "touch" "touch" p f)
        | none => { s with tree := s.tree.putFile l [] }
    | .error e => s.failing 1 (cannot "touch" "touch" p e)) s (options args).2

def ln (s : State) (args : List (List Char)) : State :=
  let (o, args) := options args
  match args with
  | [target, p] =>
    let symbolic := o.contains 's'
    let p := landing s target p
    let refused (f : FileFault) : State :=
      s.failing 1 ("ln: failed to create " ++ (if symbolic then "symbolic" else "hard") ++ " link " ++
        quote p ++ ": " ++ f.name)
    let at_ (make : Location → Tree) : State :=
      match s.tree.find false p with
      | .ok (.vacant l _) =>
        match s.tree.fixed? l with
        | some f => refused f
        | none => { s with tree := make l }.ending 0
      | .ok (.found ..) => refused .alreadyExists
      | .error e => refused e
    if symbolic then at_ fun l => s.tree.put l (.link target)
    else match s.tree.get false target with
      | .error e => s.failing 1 ("ln: failed to access " ++ quote target ++ ": " ++ e.name)
      | .ok (_, .directory) =>
        s.failing 1 ("ln: " ++ String.ofList target ++ ": hard link not allowed for directory")
      | .ok (_, .link text) => at_ fun l => s.tree.put l (.link text)
      | .ok (k, _) => at_ fun l => s.tree.share k l
  | _ => s.failing 1 "ln: missing file operand\nTry 'ln --help' for more information."

/-! ### Questions -/

/-- Whether a test of one argument holds; `none` if there is no such test. -/
def unary? (s : State) (o : List Char) (arg : List Char) : Option Bool :=
  let node := s.tree.stat arg
  let exists_ : Bool := match node with
    | .ok _ => true
    | .error _ => false
  let allowed (a : Access) : Bool := match s.tree.get true arg with
    | .ok (l, _) => (s.tree.refusal? l a).isNone
    | .error _ => false
  match o with
  | ['-', 'n'] => some (arg ≠ [])
  | ['-', 'z'] => some (arg = [])
  | ['-', 'e'] => some exists_
  | ['-', 'r'] => some (allowed .read)
  | ['-', 'w'] => some (allowed .write)
  | ['-', 'f'] => some (match node with
    | .ok (.file ..) => true
    | _ => false)
  | ['-', 'd'] => some (match node with
    | .ok .directory => true
    | _ => false)
  | ['-', 'x'] => some (match node with
    | .ok .directory => allowed .pass
    | _ => false)
  | ['-', 's'] => some (match node with
    | .ok n => n.size > 0
    | _ => false)
  | ['-', 'L'] | ['-', 'h'] => some (match s.tree.get false arg with
    | .ok (_, .link _) => true
    | _ => false)
  | _ => none

/-- Why a condition cannot be decided. -/
inductive ConditionFault where
  | number (text : List Char)
  | operator (text : List Char)
  | argument (operator : List Char)
  deriving Repr, DecidableEq

def ConditionFault.message : ConditionFault → String
  | .number t => "Illegal number: " ++ String.ofList t
  | .operator t => String.ofList t ++ ": unexpected operator"
  | .argument o => String.ofList o ++ ": argument expected"

/-- The number that an argument is, in a condition. -/
def number (a : List Char) : Except ConditionFault Int :=
  let digits := match a with
    | '-' :: ds => ds
    | '+' :: ds => ds
    | ds => ds
  if digits ≠ [] ∧ digits.all Char.isDigit then .ok (intOf a) else .error (.number a)

/-- The comparison of numbers that an operator is. -/
def comparison? (o : List Char) : Option (Int → Int → Bool) :=
  match String.ofList o with
  | "-eq" => some (· == ·)
  | "-ne" => some (· != ·)
  | "-lt" => some fun a b => decide (a < b)
  | "-le" => some fun a b => decide (a ≤ b)
  | "-gt" => some fun a b => decide (a > b)
  | "-ge" => some fun a b => decide (a ≥ b)
  | _ => none

/-- A test of two arguments; `none` if there is no such test. -/
def binary? (a o b : List Char) : Option (Except ConditionFault Bool) :=
  if o = ['='] then some (.ok (a = b))
  else if o = ['!', '='] then some (.ok (a ≠ b))
  else (comparison? o).map fun holds => do return holds (← number a) (← number b)

/-- Whether a condition holds. -/
def condition (s : State) : Nat → List (List Char) → Except ConditionFault Bool
  | 0, args => .error (.operator (args.headD []))
  | fuel + 1, args =>
    match args with
    | [] => .ok false
    | [a] => .ok (a ≠ [])
    | [a, b] =>
      if a = ['!'] then (condition s fuel [b]).map (!·)
      else match unary? s a b with
        | some r => .ok r
        | none => .error (if (binary? a b []).isSome then .argument b else .operator a)
    | [a, b, c] =>
      match binary? a b c with
      | some r => r
      | none =>
        if a = ['!'] then (condition s fuel [b, c]).map (!·)
        else if b = ['-', 'a'] then .ok (a ≠ [] ∧ c ≠ [])
        else if b = ['-', 'o'] then .ok (a ≠ [] ∨ c ≠ [])
        else .error (.operator a)
    | args =>
      match args.idxOf? ['-', 'o'], args.idxOf? ['-', 'a'] with
      | some i, _ => do
        return (← condition s fuel (args.take i)) || (← condition s fuel (args.drop (i + 1)))
      | none, some i => do
        return (← condition s fuel (args.take i)) && (← condition s fuel (args.drop (i + 1)))
      | none, none =>
        if args.head? = some ['!'] then (condition s fuel (args.drop 1)).map (!·)
        else .error (.operator (args.headD []))

/-- Answers a condition for the command of a name. -/
def answer (name : String) (s : State) (args : List (List Char)) : State :=
  match condition s (args.length + 1) args with
  | .ok r => s.ending (if r then 0 else 1)
  | .error f => s.refusing 2 (name ++ ": " ++ f.message)

def test (s : State) (args : List (List Char)) : State := answer "test" s args

def bracket (s : State) (args : List (List Char)) : State :=
  if args.getLast? = some [']'] then answer "[" s args.dropLast
  else s.refusing 2 "[: missing ]"

def seq (s : State) (args : List (List Char)) : State :=
  let numbers := args.map intOf
  let (low, step, high) := match numbers with
    | [n] => ((1 : Int), (1 : Int), n)
    | [m, n] => (m, 1, n)
    | m :: d :: n :: _ => (m, d, n)
    | [] => (1, 1, 0)
  let count := if step > 0 then (high - low) / step + 1 else if step < 0 then (low - high) / -step + 1
    else 0
  let lines := (List.range count.toNat).flatMap fun (i : Nat) =>
    (toString (low + step * (i : Int))).toList ++ ['\n']
  (s.emit lines).ending 0

def dirName (p : List Char) : List Char :=
  match (Path.components p).dropLast with
  | [] => ['.']
  | [[]] => ['/']
  | cs => Text.join ['/'] cs

/-- Removes an ending from a name, unless nothing else would be left. -/
def withoutEnding (name ending : List Char) : List Char :=
  if ending.isSuffixOf name ∧ ending ≠ name then name.take (name.length - ending.length) else name

def cd (s : State) (args : List (List Char)) : State :=
  let p := args.headD ['/', 'r', 'o', 'o', 't']
  match s.tree.get true p with
  | .ok (l, .directory) =>
    if (s.tree.refusal? l .pass).isSome then s.refusing 2 ("cd: can't cd to " ++ String.ofList p)
    else { s with tree := { s.tree with base := l } }.ending 0
  | _ => s.refusing 2 ("cd: can't cd to " ++ String.ofList p)

/-- The tools that are files of their own, by their names. -/
def files : List (String × (State → List (List Char) → State)) := [
  ("cat", cat), ("head", head), ("tail", tail), ("sort", sort), ("wc", wc), ("ls", ls), ("mv", mv),
  ("cp", cp), ("rm", rm), ("mkdir", mkdir), ("rmdir", rmdir), ("touch", touch), ("ln", ln),
  ("seq", seq), ("tee", tee), ("tr", tr), ("readlink", readlink),
  ("sleep", fun s _ => s.ending 0),
  ("basename", fun s args =>
    (s.emit (withoutEnding (baseName (args.headD [])) (args.getD 1 []) ++ ['\n'])).ending 0),
  ("dirname", fun s args => (s.emit (dirName (args.headD []) ++ ['\n'])).ending 0)]

/-- The tools that are part of the shell, by their names. -/
def builtIn : List (String × (State → List (List Char) → State)) := [
  (":", fun s _ => s.ending 0), ("true", fun s _ => s.ending 0), ("false", fun s _ => s.ending 1),
  ("echo", echo), ("printf", printf), ("cd", cd), ("test", test), ("[", bracket),
  ("pwd", fun s _ => (s.emit ('/' :: Text.join ['/'] s.tree.base ++ ['\n'])).ending 0)]

end Rollout.Shell.Tool
