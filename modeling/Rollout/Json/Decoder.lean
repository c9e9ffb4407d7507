import Rollout.Json.Numeral
import Rollout.Json.Quoted
import Rollout.Number.Word

/-!
# Decoding values of a wanted shape

A decoder reads one value from a cursor and goes on after it. Values are decoded where they stand in
the text, so the first thing wrong with it, in reading order, is what is reported: a value of another
shape is refused as soon as its kind is known.

A record is written as an object, its members in any order and unknown ones passed over, or as a list
of its members in order. A refusal that concerns the record as a whole is placed after its end.
-/

namespace Rollout.Json

/-- Reads a value at a cursor. -/
abbrev Decoder (α : Type) := Cursor → Except Failure (α × Cursor)

namespace Cursor

/-- The rest of a word such as `null`, after its first letter. -/
def word : List Char → Cursor → Except Failure Cursor
  | [], c => .ok c
  | a :: s, c =>
    match c.peek with
    | none => .error (c.fail .eofInValue)
    | some b => if b = a then word s c.advance else .error (c.failAtNext .expectedIdent)

/-- What stands at the cursor, where something else was wanted, and the cursor past it. A list or an
object is not entered. -/
def found (c : Cursor) : Except Failure (Found × Cursor) :=
  match c.peek with
  | some 'n' => do .ok (.null, ← word ['u', 'l', 'l'] c.advance)
  | some 't' => do .ok (.bool true, ← word ['r', 'u', 'e'] c.advance)
  | some 'f' => do .ok (.bool false, ← word ['a', 'l', 's', 'e'] c.advance)
  | some '-' => do
    let (n, c) ← c.advance.number true
    .ok (.number n, c)
  | some '\"' => do
    let (s, c) ← c.advance.string
    .ok (.string (String.ofList s), c)
  | some '[' => .ok (.sequence, c)
  | some '{' => .ok (.map, c)
  | some a =>
    if a.isDigit then do
      let (n, c) ← c.number false
      .ok (.number n, c)
    else .error (c.failAtNext .expectedValue)
  | none => .error (c.failAtNext .expectedValue)

/-- The failure of a value of another shape than the wanted one. -/
def wrongType (wanted : String) (c : Cursor) : Failure :=
  match c.found with
  | .error f => f
  | .ok (found, c) => c.fail (.wrongType found wanted)

/-! ### Values that do not matter -/

/-- The brackets that are open around a value. -/
inductive Bracket where
  | list
  | object
  deriving DecidableEq

def Bracket.eof : Bracket → Cause
  | .list => .eofInList
  | .object => .eofInObject

def Bracket.expected : Bracket → Cause
  | .list => .expectedCommaOrBracket
  | .object => .expectedCommaOrBrace

def Bracket.closing : Bracket → Char
  | .list => ']'
  | .object => '}'

/-- Past the key of a member and its colon. -/
def skipKey (c : Cursor) : Except Failure Cursor := do
  let c := c.skipBlanks
  match c.peek with
  | none => .error (c.failAtNext .eofInObject)
  | some '\"' =>
    let c := (← c.advance.skipString).skipBlanks
    match c.peek with
    | none => .error (c.failAtNext .eofInObject)
    | some ':' => .ok c.advance
    | some _ => .error (c.failAtNext .expectedColon)
  | some _ => .error (c.failAtNext .keyNotString)

/-- What comes next when brackets are open: a value (`fresh` if none has been read since the innermost
bracket opened), a comma, or the end of a bracket. Answers the brackets around the next value, or
none of them if all are closed. -/
def nextValue : Nat → Bool → List Bracket → Cursor → Except Failure (List Bracket × Cursor)
  | _, _, [], c => .ok ([], c)
  | 0, _, _, c => .error (c.fail .eofInValue)
  | fuel + 1, fresh, b :: open_, c =>
    let c := c.skipBlanks
    match c.peek with
    | none => .error (c.failAtNext b.eof)
    | some a =>
      if a = b.closing then nextValue fuel false open_ c.advance
      else if fresh ∨ a = ',' then do
        let c := if fresh then c else c.advance
        let c ← if b = .object then c.skipKey else .ok c
        .ok (b :: open_, c)
      else .error (c.failAtNext b.expected)

/-- Past a value inside the given open brackets, and past all that is left of them. -/
def skipFrom : Nat → List Bracket → Cursor → Except Failure Cursor
  | 0, _, c => .error (c.fail .eofInValue)
  | fuel + 1, open_, c => do
    let c := c.skipBlanks
    let (fresh, open_, c) ← match c.peek with
      | none => .error (c.failAtNext .eofInValue)
      | some 'n' => do .ok (false, open_, ← word ['u', 'l', 'l'] c.advance)
      | some 't' => do .ok (false, open_, ← word ['r', 'u', 'e'] c.advance)
      | some 'f' => do .ok (false, open_, ← word ['a', 'l', 's', 'e'] c.advance)
      | some '-' => do .ok (false, open_, ← c.advance.skipNumber)
      | some '\"' => do .ok (false, open_, ← c.advance.skipString)
      | some '[' => .ok (true, Bracket.list :: open_, c.advance)
      | some '{' => .ok (true, Bracket.object :: open_, c.advance)
      | some a =>
        if a.isDigit then do .ok (false, open_, ← c.skipNumber)
        else .error (c.failAtNext .expectedValue)
    match ← nextValue (c.rest.length + 1) fresh open_ c with
    | ([], c) => .ok c
    | (open_, c) => skipFrom fuel open_ c

/-- Past a value of any shape. -/
def skip (c : Cursor) : Except Failure Cursor := skipFrom (c.rest.length + 1) [] c

end Cursor

/-! ### Single values -/

/-- Looks at the first character of a value. -/
def atValue {α : Type} (f : Char → Decoder α) : Decoder α := fun c =>
  let c := c.skipBlanks
  match c.peek with
  | none => .error (c.failAtNext .eofInValue)
  | some a => f a c

def text : Decoder String := atValue fun a c =>
  if a = '\"' then do
    let (s, c) ← c.advance.string
    .ok (String.ofList s, c)
  else .error (c.wrongType "a string")

def bool : Decoder Bool := atValue fun a c =>
  if a = 't' then do .ok (true, ← Cursor.word ['r', 'u', 'e'] c.advance)
  else if a = 'f' then do .ok (false, ← Cursor.word ['a', 'l', 's', 'e'] c.advance)
  else .error (c.wrongType "a boolean")

/-- A number that `read` accepts; one that it does not is of the wrong type if it is a fraction and
has the wrong value otherwise. -/
def numeric {α : Type} (wanted : String) (read : Number → Option α) : Decoder α :=
  atValue fun a c => do
    if a = '-' ∨ a.isDigit then
      let (n, c) ← if a = '-' then c.advance.number true else c.number false
      match read n, n with
      | some x, _ => .ok (x, c)
      | none, .fraction .. => .error (c.fail (.wrongType (.number n) wanted))
      | none, _ => .error (c.fail (.wrongValue (.number n) wanted))
    else .error (c.wrongType wanted)

/-- A whole number from 0 to 65535. -/
def port : Decoder UInt16 := numeric "u16" fun
  | .unsigned n => if n < Word.count16 then some (UInt16.ofNat n) else none
  | _ => none

/-- A whole number of 64 bits with sign. -/
def int64 : Decoder Int64 := numeric "i64" fun
  | .unsigned n => if n < Word.count63 then some (Int64.ofNat n) else none
  | .signed n => some (Int64.ofInt n)
  | .fraction .. => none

/-! ### Lists -/

/-- Whether another element follows, and the cursor at it or at the closing bracket. -/
def nextElement (first : Bool) (c : Cursor) : Except Failure (Bool × Cursor) :=
  let c := c.skipBlanks
  match c.peek with
  | none => .error (c.failAtNext .eofInList)
  | some ']' => .ok (false, c)
  | some a =>
    if first then .ok (true, c)
    else if a = ',' then
      let c := c.advance.skipBlanks
      match c.peek with
      | none => .error (c.failAtNext .eofInValue)
      | some ']' => .error (c.failAtNext .trailingComma)
      | some _ => .ok (true, c)
    else .error (c.failAtNext .expectedCommaOrBracket)

/-- The closing bracket of a list: what is wrong, if it does not come next, and where the cursor is
left in either case. -/
def closeList (c : Cursor) : Option Failure × Cursor :=
  let c := c.skipBlanks
  match c.peek with
  | none => (some (c.failAtNext .eofInList), c)
  | some ']' => (none, c.advance)
  | some ',' =>
    let c := c.advance.skipBlanks
    if c.peek = some ']' then (some (c.failAtNext .trailingComma), c)
    else (some (c.failAtNext .trailingCharacters), c)
  | some _ => (some (c.failAtNext .trailingCharacters), c)

def elementsFrom {α : Type} (d : Decoder α) : Nat → Bool → Decoder (List α)
  | 0, _, c => .error (c.fail .eofInList)
  | fuel + 1, first, c => do
    let (more, c) ← nextElement first c
    if more then
      let (x, c) ← d c
      let (xs, c) ← elementsFrom d fuel false c
      .ok (x :: xs, c)
    else .ok ([], c)

/-- A list of values. -/
def list {α : Type} (d : Decoder α) : Decoder (List α) := atValue fun a c =>
  if a = '[' then do
    let c := c.advance
    let (xs, c) ← elementsFrom d (c.rest.length + 1) true c
    match closeList c with
    | (none, c) => .ok (xs, c)
    | (some f, _) => .error f
  else .error (c.wrongType "a sequence")

/-- A list of values, or `null` for the empty one. -/
def listOrNull {α : Type} (d : Decoder α) : Decoder (List α) := fun c =>
  let c := c.skipBlanks
  if c.peek = some 'n' then do .ok ([], ← Cursor.word ['u', 'l', 'l'] c.advance) else list d c

/-! ### Records -/

/-- A failure that is placed already, or a cause that concerns the record being read and the cursor
it left. -/
inductive Fault where
  | placed (f : Failure)
  | unplaced (cause : Cause) (c : Cursor)

/-- A member of a record of which a part has been read. -/
structure Member (β : Type) where
  name : String
  /-- Whether the member has been read already. -/
  present : β → Bool
  /-- Reads the member into the record. -/
  read : β → Decoder β
  /-- The record as it is when a list of members ends before this one; `none` if it must be given. -/
  absent : β → Option β

/-- A record: its name, its members in order and what a record of them is, once all are read. -/
structure Record (β α : Type) where
  wanted : String
  members : List (Member β)
  empty : β
  finish : β → Except Cause α

/-- Whether another member follows, and the cursor past the opening quote of its key, or at the
closing brace. -/
def nextMember (first : Bool) (c : Cursor) : Except Failure (Bool × Cursor) :=
  let c := c.skipBlanks
  match c.peek with
  | none => .error (c.failAtNext .eofInObject)
  | some '}' => .ok (false, c)
  | some a =>
    if first then
      if a = '\"' then .ok (true, c.advance) else .error (c.failAtNext .keyNotString)
    else if a = ',' then
      let c := c.advance.skipBlanks
      match c.peek with
      | none => .error (c.failAtNext .eofInValue)
      | some '\"' => .ok (true, c.advance)
      | some '}' => .error (c.failAtNext .trailingComma)
      | some _ => .error (c.failAtNext .keyNotString)
    else .error (c.failAtNext .expectedCommaOrBrace)

/-- Past the colon after a key. -/
def colon (c : Cursor) : Except Failure Cursor :=
  let c := c.skipBlanks
  match c.peek with
  | none => .error (c.failAtNext .eofInObject)
  | some ':' => .ok c.advance
  | some _ => .error (c.failAtNext .expectedColon)

/-- The closing brace of an object, answered as `closeList` does. -/
def closeObject (c : Cursor) : Option Failure × Cursor :=
  let c := c.skipBlanks
  match c.peek with
  | none => (some (c.failAtNext .eofInObject), c)
  | some '}' => (none, c.advance)
  | some ',' => (some (c.failAtNext .trailingComma), c)
  | some _ => (some (c.failAtNext .trailingCharacters), c)

/-- Lifts a failure that is placed already. -/
def Fault.lift {α : Type} : Except Failure α → Except Fault α
  | .ok x => .ok x
  | .error f => .error (.placed f)

/-- The members of an object, from after its brace or after a member. -/
def membersFrom {β : Type} (members : List (Member β)) :
    Nat → Bool → β → Cursor → Except Fault (β × Cursor)
  | 0, _, _, c => .error (.placed (c.fail .eofInObject))
  | fuel + 1, first, x, c => do
    let (more, c) ← Fault.lift (nextMember first c)
    if more then
      let (key, c) ← Fault.lift c.string
      match members.find? (·.name.toList = key) with
      | none =>
        let c ← Fault.lift (colon c)
        let c ← Fault.lift c.skip
        membersFrom members fuel false x c
      | some m =>
        if m.present x then .error (.unplaced (.duplicateField m.name) c)
        else
          let c ← Fault.lift (colon c)
          let (x, c) ← Fault.lift (m.read x c)
          membersFrom members fuel false x c
    else .ok (x, c)

/-- The members of a record written as a list; `count` of them have been read. -/
def elementsOf {β : Type} (wanted : String) : List (Member β) → Nat → Bool → β → Cursor →
    Except Fault (β × Cursor)
  | [], _, _, x, c => .ok (x, c)
  | m :: ms, count, first, x, c => do
    let (more, c) ← Fault.lift (nextElement first c)
    if more then
      let (x, c) ← Fault.lift (m.read x c)
      elementsOf wanted ms (count + 1) false x c
    else match m.absent x with
      | some x => elementsOf wanted ms (count + 1) first x c
      | none => .error (.unplaced (.wrongLength count wanted) c)

/-- A record with the bracket that closes it. -/
def closing {α : Type} (close : Cursor → Option Failure × Cursor) :
    Except Fault (α × Cursor) → Except Failure (α × Cursor)
  | .error (.placed f) => .error f
  | .error (.unplaced cause c) => .error ((close c).2.fail cause)
  | .ok (x, c) =>
    match close c with
    | (none, c) => .ok (x, c)
    | (some f, _) => .error f

/-- How many elements a record written as a list has. -/
def Record.wantedLength {β α : Type} (r : Record β α) : String :=
  r.wanted ++ " with " ++ toString r.members.length ++
    (if r.members.length = 1 then " element" else " elements")

def Record.finishAt {β α : Type} (r : Record β α) : β × Cursor → Except Fault (α × Cursor)
  | (x, c) => match r.finish x with
    | .ok y => .ok (y, c)
    | .error cause => .error (.unplaced cause c)

/-- A record, written as an object or as a list. -/
def Record.decode {β α : Type} (r : Record β α) : Decoder α := atValue fun a c =>
  if a = '{' then
    let c := c.advance
    closing closeObject (membersFrom r.members (c.rest.length + 1) true r.empty c >>= r.finishAt)
  else if a = '[' then
    let c := c.advance
    closing closeList (elementsOf r.wantedLength r.members 0 true r.empty c >>= r.finishAt)
  else .error (c.wrongType r.wanted)

/-- The value that is the whole of a text. -/
def decodeText {α : Type} (d : Decoder α) (s : List Char) : Except Failure α := do
  let (x, c) ← d (.ofText s)
  let c := c.skipBlanks
  match c.peek with
  | none => .ok x
  | some _ => .error (c.failAtNext .trailingCharacters)

end Rollout.Json
