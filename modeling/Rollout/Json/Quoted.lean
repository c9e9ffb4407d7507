import Rollout.Json.Cursor

/-!
# Strings in a JSON text

A string is read from after its opening quote to after its closing one. A string that is wanted must
denote a text, so the surrogates in its escapes must come in pairs; a string that is passed over only
has to end.
-/

namespace Rollout.Json

namespace Cursor

def hexValue? (a : Char) : Option Nat :=
  if '0' ≤ a ∧ a ≤ '9' then some (a.toNat - '0'.toNat)
  else if 'a' ≤ a ∧ a ≤ 'f' then some (a.toNat - 'a'.toNat + 10)
  else if 'A' ≤ a ∧ a ≤ 'F' then some (a.toNat - 'A'.toNat + 10)
  else none

/-- The value of the four hexadecimal digits of an escape, which are the next four bytes. -/
def hexEscape (c : Cursor) : Except Failure (Nat × Cursor) :=
  let place := placeAfter 4 c.line c.column c.rest
  if ((c.rest.take 4).map Utf8.width).foldr (· + ·) 0 < 4 then .error ⟨.eofInString, place.1, place.2⟩
  else match (c.rest.take 4).mapM hexValue? with
    | some [a, b, d, e] =>
      .ok (4096 * a + 256 * b + 16 * d + e, ⟨c.rest.drop 4, c.line, c.column + 4⟩)
    | _ => .error ⟨.invalidEscape, place.1, place.2⟩

/-- The letters that stand for one character after a backslash. -/
def simpleEscape? (a : Char) : Option Char :=
  if a = '\"' ∨ a = '\\' ∨ a = '/' then some a
  else if a = 'b' then some '\x08'
  else if a = 'f' then some '\x0c'
  else if a = 'n' then some '\n'
  else if a = 'r' then some '\r'
  else if a = 't' then some '\t'
  else none

def isLeading (n : Nat) : Bool := 0xD800 ≤ n && n ≤ 0xDBFF

def isTrailing (n : Nat) : Bool := 0xDC00 ≤ n && n ≤ 0xDFFF

/-- The next character, which has to be `a` inside an escape that is not finished. -/
def expectInEscape (a : Char) (c : Cursor) : Except Failure Cursor :=
  match c.peek with
  | none => .error (c.fail .eofInString)
  | some b => if b = a then .ok c.advance else .error (c.failAtNext .endOfHexEscape)

/-- The character of a `\u` escape, from after the `u`. -/
def unicodeEscape (c : Cursor) : Except Failure (Char × Cursor) := do
  let (n, c) ← c.hexEscape
  if isTrailing n then .error (c.fail .loneSurrogate)
  else if isLeading n then
    let c ← c.expectInEscape '\\'
    let c ← c.expectInEscape 'u'
    let (m, c) ← c.hexEscape
    if isTrailing m then .ok (Char.ofNat (0x10000 + 0x400 * (n - 0xD800) + (m - 0xDC00)), c)
    else .error (c.fail .loneSurrogate)
  else .ok (Char.ofNat n, c)

/-- The character of an escape, from after the backslash. -/
def escape (c : Cursor) : Except Failure (Char × Cursor) :=
  match c.peek with
  | none => .error (c.fail .eofInString)
  | some a =>
    if a = 'u' then c.advance.unicodeEscape
    else match simpleEscape? a with
      | some b => .ok (b, c.advance)
      | none => .error (c.failAtNext .invalidEscape)

/-- The text of a string, from after its opening quote; every round reads one character of it. -/
def stringFrom : Nat → Cursor → Except Failure (List Char × Cursor)
  | 0, c => .error (c.fail .eofInString)
  | fuel + 1, c =>
    match c.peek with
    | none => .error (c.fail .eofInString)
    | some a =>
      if a = '\"' then .ok ([], c.advance)
      else if a = '\\' then do
        let (b, c) ← c.advance.escape
        let (s, c) ← stringFrom fuel c
        .ok (b :: s, c)
      else if a.toNat < 0x20 then .error (c.failAtNext .controlCharacter)
      else do
        let (s, c) ← stringFrom fuel c.advance
        .ok (a :: s, c)

/-- The text of a string, from after its opening quote. -/
def string (c : Cursor) : Except Failure (List Char × Cursor) := stringFrom (c.rest.length + 1) c

/-- Past an escape whose value does not matter. -/
def skipEscape (c : Cursor) : Except Failure Cursor :=
  match c.peek with
  | none => .error (c.fail .eofInString)
  | some a =>
    if a = 'u' then do
      let (_, c) ← c.advance.hexEscape
      .ok c
    else if (simpleEscape? a).isSome then .ok c.advance
    else .error (c.failAtNext .invalidEscape)

def skipStringFrom : Nat → Cursor → Except Failure Cursor
  | 0, c => .error (c.fail .eofInString)
  | fuel + 1, c =>
    match c.peek with
    | none => .error (c.fail .eofInString)
    | some a =>
      if a = '\"' then .ok c.advance
      else if a = '\\' then do skipStringFrom fuel (← c.advance.skipEscape)
      else if a.toNat < 0x20 then .error (c.fail .controlCharacter)
      else skipStringFrom fuel c.advance

/-- Past a string whose text does not matter, from after its opening quote. -/
def skipString (c : Cursor) : Except Failure Cursor := skipStringFrom (c.rest.length + 1) c

end Cursor

end Rollout.Json
