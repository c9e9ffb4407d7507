import Rollout.Yaml.Property

/-!
# The tokens of a YAML text

A text is read token by token. The layout remembers the columns at which blocks began, and for each
open flow collection, and for the block around them, where a key may have begun that no indicator
announced: when its colon is met, the key is marked in the tokens read since. Such a key stands on one
line and is at most 1024 characters long.

* `Token.ofText?` reads all tokens; it answers nothing if the text is not well formed.
-/

namespace Rollout.Yaml

/-- Where a key may have begun. -/
structure KeyMark where
  /-- Whether nothing but a key can begin here. -/
  required : Bool
  /-- How many tokens come before it. -/
  before : Nat
  index : Nat
  line : Nat
  column : Nat
  deriving Repr, DecidableEq

/-- A text of which some tokens have been read. -/
structure Layout where
  cursor : Cursor
  tokens : Array Token := #[]
  /-- The columns of the open blocks, the innermost first. -/
  indents : List Nat := []
  /-- The key that may have begun in the innermost collection. -/
  mark : Option KeyMark := none
  /-- Those of the collections around it, one for each open flow collection. -/
  outer : List (Option KeyMark) := []
  /-- Whether a key may begin here. -/
  keyAllowed : Bool := true

namespace Layout

/-- Whether a flow collection is open. -/
def inFlow (l : Layout) : Bool := !l.outer.isEmpty

def column (l : Layout) : Nat := l.cursor.column

/-- The column before which no part of the innermost block may stand. -/
def margin (l : Layout) : Nat := l.indents.head?.elim 0 (· + 1)

def emit (l : Layout) (t : Token) : Layout := { l with tokens := l.tokens.push t }

def advance (n : Nat) (l : Layout) : Layout := { l with cursor := l.cursor.advance n }

/-- The greatest length of a key that no indicator announces. -/
def keyLength : Nat := 1024

/-- Whether a key that began at a mark could not end here any more. -/
def isStale (c : Cursor) (m : KeyMark) : Bool := m.line < c.line || m.index + keyLength < c.index

/-- Forgets keys that could not end here any more; none of them may be required. -/
def dropStale? (l : Layout) : Option Layout :=
  let stale (m : Option KeyMark) : Bool := m.any (isStale l.cursor)
  let lost (m : Option KeyMark) : Bool := m.any fun k => isStale l.cursor k && k.required
  if (l.mark :: l.outer).any lost then none
  else
    let keep (m : Option KeyMark) : Option KeyMark := if stale m then none else m
    some { l with mark := keep l.mark, outer := l.outer.map keep }

/-- Forgets the innermost key, which must not be required. -/
def dropKey? (l : Layout) : Option Layout :=
  if l.mark.any (·.required) then none else some { l with mark := none }

/-- Notes that a key may begin here. -/
def saveKey? (l : Layout) : Option Layout :=
  if l.keyAllowed then do
    let c := l.cursor
    let required := !l.inFlow && l.indents.head? = some c.column
    let l ← l.dropKey?
    return { l with mark := some ⟨required, l.tokens.size, c.index, c.line, c.column⟩ }
  else some l

/-- Closes the blocks that began to the right of a column. -/
def closeBlocks (column : Option Nat) (l : Layout) : Layout :=
  if l.inFlow then l
  else
    let inner := l.indents.takeWhile fun n => column.all (· < n)
    { l with indents := l.indents.drop inner.length,
             tokens := l.tokens ++ (inner.map fun _ => Token.blockEnd).toArray }

/-- Opens a block at a column, if it is to the right of the innermost one. Its token is put before
those from number `before` on. -/
def openBlock (column before : Nat) (t : Token) (l : Layout) : Layout :=
  if !l.inFlow && l.indents.head?.all (· < column) then
    { l with indents := column :: l.indents,
             tokens := l.tokens.extract 0 before ++ #[t] ++ l.tokens.extract before l.tokens.size }
  else l

/-- To the next token: past blanks, comments and line ends. A tab is no blank where a key may begin in
a block. -/
def skipSpace : Nat → Layout → Layout
  | 0, l => l
  | fuel + 1, l =>
    let c := l.cursor
    let c := if c.column = 0 ∧ c.isAt '\uFEFF' then c.advance 1 else c
    let tabs := l.inFlow || !l.keyAllowed
    let c := c.dropWhile fun a => a = ' ' || (tabs && a = '\t')
    let c := if c.isAt '#' then c.dropLine else c
    if c.peek.any isBreak then
      skipSpace fuel { l with cursor := c.dropLineEnd, keyAllowed := l.keyAllowed || !l.inFlow }
    else { l with cursor := c }

/-! ### One token -/

/-- A directive, or a marker of a document: both end all blocks. -/
def endBlocks? (l : Layout) : Option Layout := do
  let l ← (l.closeBlocks none).dropKey?
  return { l with keyAllowed := false }

def directive? (l : Layout) : Option Layout := do
  let l ← l.endBlocks?
  let (t, c) ← Yaml.directive? l.cursor
  return { l with cursor := c }.emit t

def documentMarker? (t : Token) (l : Layout) : Option Layout := do
  return (← l.endBlocks?).emit t |>.advance 3

def openFlow? (t : Token) (l : Layout) : Option Layout := do
  let l ← l.saveKey?
  return ({ l with outer := l.mark :: l.outer, mark := none, keyAllowed := true }.emit t).advance 1

def closeFlow? (t : Token) (l : Layout) : Option Layout := do
  let l ← l.dropKey?
  let l := match l.outer with
    | [] => l
    | m :: ms => { l with mark := m, outer := ms }
  return ({ l with keyAllowed := false }.emit t).advance 1

def flowEntry? (l : Layout) : Option Layout := do
  return ({ (← l.dropKey?) with keyAllowed := true }.emit .flowEntry).advance 1

def blockEntry? (l : Layout) : Option Layout :=
  if !l.inFlow && !l.keyAllowed then none
  else do
    let l := l.openBlock l.column l.tokens.size .blockSequenceStart
    return ({ (← l.dropKey?) with keyAllowed := true }.emit .blockEntry).advance 1

def key? (l : Layout) : Option Layout :=
  if !l.inFlow && !l.keyAllowed then none
  else do
    let l := l.openBlock l.column l.tokens.size .blockMappingStart
    let l ← l.dropKey?
    return ({ l with keyAllowed := !l.inFlow }.emit .key).advance 1

def value? (l : Layout) : Option Layout :=
  match l.mark with
  | some m =>
    let l := { l with
      tokens := l.tokens.extract 0 m.before ++ #[Token.key] ++ l.tokens.extract m.before l.tokens.size
      mark := none
      keyAllowed := false }
    some (((l.openBlock m.column m.before .blockMappingStart).emit .value).advance 1)
  | none =>
    if !l.inFlow && !l.keyAllowed then none
    else
      let l := l.openBlock l.column l.tokens.size .blockMappingStart
      some (({ l with keyAllowed := !l.inFlow }.emit .value).advance 1)

/-- A token that may begin a key. -/
def keyed? (read : Cursor → Option (Token × Cursor)) (l : Layout) : Option Layout := do
  let l ← l.saveKey?
  let (t, c) ← read l.cursor
  return { l with cursor := c, keyAllowed := false }.emit t

def plain? (l : Layout) : Option Layout := do
  let l ← l.saveKey?
  let (text, newLine, c) ← Yaml.plain? l.inFlow l.margin l.cursor
  return { l with cursor := c, keyAllowed := newLine }.emit (.scalar text .plain)

def block? (folded : Bool) (l : Layout) : Option Layout := do
  let l ← l.dropKey?
  let (text, c) ← Yaml.block? folded l.indents.head? l.cursor
  return { l with cursor := c, keyAllowed := true }.emit
    (.scalar text (if folded then .folded else .literal))

/-- The characters that no plain scalar begins with, whatever follows. -/
def isIndicator (c : Char) : Bool :=
  c = '-' || c = '?' || c = ':' || c = ',' || c = '[' || c = ']' || c = '{' || c = '}' ||
    c = '#' || c = '&' || c = '*' || c = '!' || c = '|' || c = '>' || c = '\'' || c = '\"' ||
    c = '%' || c = '@' || c = '\x60'

/-- Whether a plain scalar begins here, where `next` follows. -/
def startsPlain (flow : Bool) (a : Char) (next : Option Char) : Bool :=
  !(endsWord (some a) || isIndicator a) || (a = '-' && !next.any isBlank) ||
    (!flow && (a = '?' || a = ':') && !endsWord next)

/-- The token that a character begins. -/
def token? (a : Char) (l : Layout) : Option Layout :=
  let c := l.cursor
  let next := c.ahead 1
  let alone := endsWord next
  if c.column = 0 ∧ a = '%' then l.directive?
  else if c.isMarker '-' then l.documentMarker? .documentStart
  else if c.isMarker '.' then l.documentMarker? .documentEnd
  else if a = '[' then l.openFlow? .flowSequenceStart
  else if a = '{' then l.openFlow? .flowMappingStart
  else if a = ']' then l.closeFlow? .flowSequenceEnd
  else if a = '}' then l.closeFlow? .flowMappingEnd
  else if a = ',' then l.flowEntry?
  else if a = '-' && alone then l.blockEntry?
  else if a = '?' && (l.inFlow || alone) then l.key?
  else if a = ':' && (l.inFlow || alone) then l.value?
  else if a = '*' then l.keyed? fun c => do
    let (s, c) ← name? c
    return (.alias s, c)
  else if a = '&' then l.keyed? fun c => do
    let (s, c) ← name? c
    return (.anchor s, c)
  else if a = '!' then l.keyed? (tag? l.inFlow)
  else if a = '|' && !l.inFlow then l.block? false
  else if a = '>' && !l.inFlow then l.block? true
  else if a = '\'' then l.keyed? fun c => do
    let (s, c) ← quoted? a c
    return (.scalar s .singleQuoted, c)
  else if a = '\"' then l.keyed? fun c => do
    let (s, c) ← quoted? a c
    return (.scalar s .doubleQuoted, c)
  else if startsPlain l.inFlow a next then l.plain?
  else none

/-- The tokens from here to the end of the text. -/
def finish? : Nat → Layout → Option (List Token)
  | 0, _ => none
  | fuel + 1, l => do
    let l ← (l.skipSpace (l.cursor.rest.length + 1)).dropStale?
    let l := l.closeBlocks (some l.column)
    match l.cursor.peek with
    | some a => finish? fuel (← l.token? a)
    | none =>
      let l ← (l.closeBlocks none).dropKey?
      return l.tokens.toList ++ [.streamEnd]

end Layout

/-- The tokens of a text. -/
def Token.ofText? (s : List Char) : Option (List Token) :=
  if s.all isAllowed then Layout.finish? (s.length + 1) { cursor := { rest := s } } else none

end Rollout.Yaml
