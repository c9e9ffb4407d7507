import Rollout.Json.Failure
import Rollout.Text.Utf8

/-!
# A place in a JSON text

A cursor is what is left to read, with the place it starts at. Reading a character moves the place:
a line feed begins the next line, any other character is as many columns wide as it has bytes.

Failures are placed either where the cursor stands (`fail`), after what was read, or one byte further
(`failAtNext`), on the character that was only looked at.
-/

namespace Rollout.Json

structure Cursor where
  rest : List Char
  line : Nat
  column : Nat
  deriving Repr, DecidableEq

namespace Cursor

def ofText (s : List Char) : Cursor := ⟨s, 1, 0⟩

/-- The next character, which stays unread. -/
def peek (c : Cursor) : Option Char := c.rest.head?

/-- The cursor past one character. -/
def past (a : Char) (s : List Char) (line column : Nat) : Cursor :=
  if a = '\n' then ⟨s, line + 1, 0⟩ else ⟨s, line, column + Utf8.width a⟩

/-- The cursor past the next character. -/
def advance (c : Cursor) : Cursor :=
  match c.rest with
  | [] => c
  | a :: s => past a s c.line c.column

/-- The cursor past a text that comes next. -/
def advanceBy : Nat → Cursor → Cursor
  | 0, c => c
  | n + 1, c => advanceBy n c.advance

/-- The place one byte after the cursor, or the end. -/
def nextPlace (c : Cursor) : Nat × Nat :=
  match c.rest with
  | [] => (c.line, c.column)
  | a :: _ => if a = '\n' then (c.line + 1, 0) else (c.line, c.column + 1)

/-- The place `n` bytes after the cursor, or the end; it may lie inside a character. -/
def placeAfter (n : Nat) (line column : Nat) : List Char → Nat × Nat
  | [] => (line, column)
  | a :: s =>
    if n = 0 then (line, column)
    else if a = '\n' then placeAfter (n - 1) (line + 1) 0 s
    else if n < Utf8.width a then (line, column + n)
    else placeAfter (n - Utf8.width a) line (column + Utf8.width a) s

def fail (c : Cursor) (cause : Cause) : Failure := ⟨cause, c.line, c.column⟩

def failAtNext (c : Cursor) (cause : Cause) : Failure :=
  let (line, column) := c.nextPlace
  ⟨cause, line, column⟩

/-- The blanks of JSON. -/
def isBlank (a : Char) : Bool := a = ' ' || a = '\n' || a = '\t' || a = '\r'

def skipBlanksFrom (line column : Nat) : List Char → Cursor
  | [] => ⟨[], line, column⟩
  | a :: s =>
    if isBlank a then
      if a = '\n' then skipBlanksFrom (line + 1) 0 s else skipBlanksFrom line (column + 1) s
    else ⟨a :: s, line, column⟩

def skipBlanks (c : Cursor) : Cursor := skipBlanksFrom c.line c.column c.rest

def takeDigitsFrom (line column : Nat) : List Char → List Char × Cursor
  | [] => ([], ⟨[], line, column⟩)
  | a :: s =>
    if a.isDigit then
      let (ds, c) := takeDigitsFrom line (column + 1) s
      (a :: ds, c)
    else ([], ⟨a :: s, line, column⟩)

/-- The digits that come next, and the cursor past them. -/
def takeDigits (c : Cursor) : List Char × Cursor := takeDigitsFrom c.line c.column c.rest

end Cursor

end Rollout.Json
