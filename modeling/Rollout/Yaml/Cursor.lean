/-!
# A place in a YAML text

A cursor is what is left to read, with the place it starts at. Lines end at any of five characters, a
carriage return and a line feed together counting as one end; a column is a count of characters.

* `Cursor.takeWhile` reads within a line, `Cursor.lineEnd` reads the end of one.
-/

namespace Rollout.Yaml

/-- The characters a YAML text may hold. -/
def isAllowed (c : Char) : Bool :=
  let n := c.toNat
  n == 0x09 || n == 0x0A || n == 0x0D || (0x20 ≤ n && n ≤ 0x7E) || n == 0x85 ||
    (0xA0 ≤ n && n ≤ 0xD7FF) || (0xE000 ≤ n && n ≤ 0xFFFD) || 0x10000 ≤ n

/-- The characters that end a line. -/
def isBreak (c : Char) : Bool :=
  c = '\r' || c = '\n' || c = '\u0085' || c = '\u2028' || c = '\u2029'

def isBlank (c : Char) : Bool := c = ' ' || c = '\t'

/-- The characters of names. -/
def isWord (c : Char) : Bool := c.isAlphanum || c = '_' || c = '-'

/-- Whether a line ends here: at one of its ends, or at the end of the text. -/
def endsLine (c : Option Char) : Bool := c.elim true isBreak

/-- Whether a word ends here. -/
def endsWord (c : Option Char) : Bool := c.elim true fun c => isBlank c || isBreak c

/-- What is left to read; lines and columns count from zero. -/
structure Cursor where
  rest : List Char
  index : Nat := 0
  line : Nat := 0
  column : Nat := 0
  deriving Repr, DecidableEq

namespace Cursor

def peek (c : Cursor) : Option Char := c.rest.head?

/-- The character `n` places ahead. -/
def ahead (c : Cursor) (n : Nat) : Option Char := c.rest[n]?

def isAt (c : Cursor) (a : Char) : Bool := c.peek == some a

/-- Past `n` characters that end no line. -/
def advance (n : Nat) (c : Cursor) : Cursor :=
  { c with rest := c.rest.drop n, index := c.index + n, column := c.column + n }

/-- The characters of a class that come next in the line. -/
def takeWhile (p : Char → Bool) (c : Cursor) : List Char × Cursor :=
  let s := c.rest.takeWhile p
  (s, c.advance s.length)

def dropWhile (p : Char → Bool) (c : Cursor) : Cursor := (c.takeWhile p).2

/-- Past what is left of the line. -/
def dropLine (c : Cursor) : Cursor := c.dropWhile (!isBreak ·)

/-- The end of a line, as the text it stands for, and the beginning of the next line. Nothing is read
where no line ends. -/
def lineEnd (c : Cursor) : List Char × Cursor :=
  match c.rest with
  | '\r' :: '\n' :: s => (['\n'], ⟨s, c.index + 2, c.line + 1, 0⟩)
  | a :: s =>
    if isBreak a then
      (if a = '\u2028' ∨ a = '\u2029' then [a] else ['\n'], ⟨s, c.index + 1, c.line + 1, 0⟩)
    else ([], c)
  | [] => ([], c)

def dropLineEnd (c : Cursor) : Cursor := c.lineEnd.2

/-- Whether three of a character stand at the beginning of a line, as a word. -/
def isMarker (a : Char) (c : Cursor) : Bool :=
  c.column == 0 && c.ahead 0 == some a && c.ahead 1 == some a && c.ahead 2 == some a &&
    endsWord (c.ahead 3)

/-- Whether a document begins or ends here. -/
def atDocumentMarker (c : Cursor) : Bool := c.isMarker '-' || c.isMarker '.'

end Cursor

end Rollout.Yaml
