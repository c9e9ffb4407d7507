import Rollout.Yaml.Scalar
import Rollout.Yaml.Token

/-!
# Names, tags and directives of YAML

The parts of a YAML text that are neither layout nor scalars: anchors and the aliases to them, tags,
and the directives before a document. Each is read from where it begins, and must be followed by
something that cannot belong to it.
-/

namespace Rollout.Yaml

/-- What may follow a name, besides a blank. -/
def endsName (c : Option Char) : Bool :=
  endsWord c || c.any fun a =>
    a = '?' || a = ':' || a = ',' || a = ']' || a = '}' || a = '%' || a = '@' || a = '\x60'

/-- The name of an anchor or alias, from its indicator. -/
def name? (c : Cursor) : Option (List Char × Cursor) :=
  let (name, c) := (c.advance 1).takeWhile isWord
  if name ≠ [] ∧ endsName c.peek then some (name, c) else none

/-- The handle of a tag, from its mark. A handle without a closing mark is only allowed in a
directive if nothing follows the first. -/
def handle? (directive : Bool) (c : Cursor) : Option (List Char × Cursor) :=
  if ¬ c.isAt '!' then none
  else
    let (name, c) := (c.advance 1).takeWhile isWord
    if c.isAt '!' then some ('!' :: name ++ ['!'], c.advance 1)
    else if directive ∧ name ≠ [] then none
    else some ('!' :: name, c)

/-- A byte written as a percent sign with two digits in base sixteen. -/
def percentByte? (c : Cursor) : Option (Nat × Cursor) :=
  if c.isAt '%' then do return (← hexNumber? 2 (c.rest.drop 1), c.advance 3) else none

/-- How many bytes follow the first byte of a character, and the bits it holds. -/
def leadingByte? (a : Nat) : Option (Nat × Nat) :=
  if a < 0x80 then some (0, a)
  else if a / 32 = 6 then some (1, a % 32)
  else if a / 16 = 14 then some (2, a % 16)
  else if a / 8 = 30 then some (3, a % 8)
  else none

/-- The bytes of a character after its first. -/
def trailingBytes? : Nat → Nat → Cursor → Option (Nat × Cursor)
  | 0, bits, c => some (bits, c)
  | n + 1, bits, c => do
    let (a, c) ← percentByte? c
    if a / 64 = 2 then trailingBytes? n (64 * bits + a % 64) c else none

/-- A character written by its bytes. -/
def percentChar? (c : Cursor) : Option (Char × Cursor) := do
  let (a, c) ← percentByte? c
  let (n, bits) ← leadingByte? a
  let (code, c) ← trailingBytes? n bits c
  return ((charOf? code).getD '\uFFFD', c)

/-- The characters of tags; in brackets, three more. -/
def isTagChar (bracketed : Bool) (c : Char) : Bool :=
  isWord c || c = ';' || c = '/' || c = '?' || c = ':' || c = '@' || c = '&' || c = '=' ||
    c = '+' || c = '$' || c = '.' || c = '!' || c = '~' || c = '*' || c = '\'' || c = '(' ||
    c = ')' || (bracketed && (c = ',' || c = '[' || c = ']'))

def tagText? (bracketed : Bool) : Nat → Cursor → Option (List Char × Cursor)
  | 0, c => some ([], c)
  | fuel + 1, c =>
    match c.peek with
    | none => some ([], c)
    | some a => do
      if a = '%' then
        let (b, c) ← percentChar? c
        let (s, c) ← tagText? bracketed fuel c
        return (b :: s, c)
      else if isTagChar bracketed a then
        let (s, c) ← tagText? bracketed fuel (c.advance 1)
        return (a :: s, c)
      else return ([], c)

/-- The text of a tag after what has been read of it, which must not be empty as a whole. -/
def suffix? (bracketed : Bool) (read : List Char) (c : Cursor) : Option (List Char × Cursor) := do
  let (s, c) ← tagText? bracketed (c.rest.length + 1) c
  if read = [] ∧ s = [] then none else some (read.drop 1 ++ s, c)

/-- A tag, from its mark. -/
def tag? (flow : Bool) (c : Cursor) : Option (Token × Cursor) := do
  let (token, c) ←
    if c.ahead 1 = some '<' then do
      let (s, c) ← suffix? true [] (c.advance 2)
      if c.isAt '>' then some (Token.tag [] s, c.advance 1) else none
    else do
      let (handle, c) ← handle? false c
      if handle.length ≥ 2 ∧ handle.getLast? = some '!' then
        let (s, c) ← suffix? false [] c
        some (Token.tag handle s, c)
      else
        let (s, c) ← suffix? false handle c
        some (if s = [] then Token.tag [] ['!'] else Token.tag ['!'] s, c)
  if endsWord c.peek || (flow && c.isAt ',') then some (token, c) else none

/-- The greatest count of digits in a version number. -/
def versionDigits : Nat := 9

def versionNumber? (c : Cursor) : Option (Nat × Cursor) :=
  let (s, c) := c.takeWhile Char.isDigit
  if s = [] ∨ s.length > versionDigits then none
  else some (s.foldl (fun n a => 10 * n + (a.toNat - 48)) 0, c)

/-- What a directive of a given name says. -/
def directiveBody? (name : List Char) (c : Cursor) : Option (Token × Cursor) := do
  if name = ['Y', 'A', 'M', 'L'] then
    let (major, c) ← versionNumber? (c.dropWhile isBlank)
    if c.isAt '.' then
      let (minor, c) ← versionNumber? (c.advance 1)
      some (.version major minor, c)
    else none
  else if name = ['T', 'A', 'G'] then
    let (handle, c) ← handle? true (c.dropWhile isBlank)
    if c.peek.any isBlank then
      let (meaning, c) ← suffix? true [] (c.dropWhile isBlank)
      if endsWord c.peek then some (.tagDirective handle meaning, c) else none
    else none
  else none

/-- A directive, from its percent sign to the end of its line. -/
def directive? (c : Cursor) : Option (Token × Cursor) := do
  let (name, c) := (c.advance 1).takeWhile isWord
  if name = [] ∨ ¬ endsWord c.peek then none
  else
    let (token, c) ← directiveBody? name c
    let c := c.dropWhile isBlank
    let c := if c.isAt '#' then c.dropLine else c
    if endsLine c.peek then some (token, c.dropLineEnd) else none

end Rollout.Yaml
