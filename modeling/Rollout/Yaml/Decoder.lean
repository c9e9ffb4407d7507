import Rollout.Number.Word
import Rollout.Text.Digit
import Rollout.Yaml.Document

/-!
# Decoding a YAML document

A decoder reads one node of the wanted shape from the items of a document. An alias is read as the
node at its anchor; a document may use aliases a hundred times for each of its items, no more.

An empty plain scalar is an empty list and a record without members. Text may be written in any style,
a number or truth value only plain, or as a literal block that is tagged with its type.
-/

namespace Rollout.Yaml

/-- The items to read next, and how many aliases have been followed. -/
structure Reading where
  rest : List Item
  jumps : Nat := 0

/-- Reads a node. -/
abbrev Decoder (α : Type) := Document → Reading → Option (α × Reading)

/-- How many aliases may be followed for each item of a document. -/
def jumpsPerItem : Nat := 100

/-- Reads a node at the place an alias refers to, or here if there is no alias. -/
def following {α : Type} (d : Decoder α) : Decoder α := fun doc r =>
  match r.rest with
  | .alias n :: rest =>
    if r.jumps + 1 > jumpsPerItem * doc.items.length then none
    else do
      let place ← doc.anchors.lookup n
      let (x, r) ← d doc ⟨doc.items.drop place, r.jumps + 1⟩
      return (x, { r with rest })
  | _ => d doc r

/-- Reads a scalar as what it denotes. -/
def scalar {α : Type} (denotes : Option (List Char) → List Char → ScalarStyle → Option α) :
    Decoder α := following fun _ r =>
  match r.rest with
  | .scalar tag s style :: rest => do return (← denotes tag s style, { r with rest })
  | _ => none

def text : Decoder String := scalar fun _ s _ => some (String.ofList s)

/-- The tag of a type that every document knows. -/
def standardTag (name : List Char) : List Char :=
  (Handles.standard.lookup ['!', '!']).getD [] ++ name

def boolTag : List Char := standardTag ['b', 'o', 'o', 'l']

def intTag : List Char := standardTag ['i', 'n', 't']

def nullTag : List Char := standardTag ['n', 'u', 'l', 'l']

/-- Whether a scalar of this style can be of the type of a tag. -/
def mayBe (type : List Char) (tag : Option (List Char)) (style : ScalarStyle) : Bool :=
  style = .plain || (style = .literal && tag = some type)

def bool? (s : List Char) : Option Bool :=
  let s := String.ofList s
  if s = "true" ∨ s = "True" ∨ s = "TRUE" then some true
  else if s = "false" ∨ s = "False" ∨ s = "FALSE" then some false
  else none

def bool : Decoder Bool := scalar fun tag s style =>
  if mayBe boolTag tag style then bool? s else none

/-! ### Numbers -/

/-- The number that digits of a base denote; there must be at least one. -/
def digits? (base : Nat) (s : List Char) : Option Nat :=
  if s = [] then none
  else s.foldl (fun acc c => do
    let n ← acc
    let d ← hexValue? c
    if d < base then some (base * n + d) else none) (some 0)

/-- The base that a number is marked with, and its digits. -/
def based? : List Char → Option (Nat × List Char)
  | '0' :: 'x' :: s => some (16, s)
  | '0' :: 'o' :: s => some (8, s)
  | '0' :: 'b' :: s => some (2, s)
  | _ => none

/-- The natural number that a text without a sign denotes. A zero before other decimal digits makes it
no number. -/
def nat? (s : List Char) : Option Nat :=
  match based? s with
  | some (base, s) => digits? base s
  | none =>
    if s.length > 1 ∧ s.head? = some '0' ∧ s.all Text.isAsciiDigit then none else digits? 10 s

/-- The number that a text with or without a sign denotes. -/
def int? : List Char → Option Int
  | '+' :: s => (nat? s).map Int.ofNat
  | '-' :: s => (nat? s).map fun n => -Int.ofNat n
  | s => (nat? s).map Int.ofNat

/-- A number of 64 bits. -/
def int64 : Decoder Int64 := scalar fun tag s style =>
  if mayBe intTag tag style then
    (int? s).bind fun n => if -(Word.count63 : Int) ≤ n ∧ n < Word.count63 then some (Int64.ofInt n) else none
  else none

/-- A number of 16 bits, which may have no sign but a plus. -/
def port : Decoder UInt16 := scalar fun tag s style =>
  if mayBe intTag tag style ∧ s.head? ≠ some '-' then
    (int? s).bind fun n => if n < Word.count16 then some (UInt16.ofNat n.toNat) else none
  else none

/-! ### Lists and records -/

def elementsFrom {α : Type} (d : Decoder α) : Nat → Decoder (List α)
  | 0, _, _ => none
  | fuel + 1, doc, r =>
    match r.rest with
    | .closeSequence :: rest => some ([], { r with rest })
    | _ => do
      let (x, r) ← d doc r
      let (xs, r) ← elementsFrom d fuel doc r
      return (x :: xs, r)

/-- A list of nodes. -/
def list {α : Type} (d : Decoder α) : Decoder (List α) := following fun doc r =>
  match r.rest with
  | .openSequence :: rest => elementsFrom d (rest.length + 1) doc { r with rest }
  | .scalar _ [] .plain :: rest => some ([], { r with rest })
  | _ => none

/-- Whether a scalar stands for no list. A scalar that is tagged as null must be one of its words. -/
def isNull? (tag : Option (List Char)) (s : List Char) (style : ScalarStyle) : Option Bool :=
  let word := ["null", "Null", "NULL", "~"].contains (String.ofList s)
  if style ≠ .plain then some false
  else match tag with
    | none => some (s = [] || word)
    | some tag => if tag = nullTag then (if word then some true else none) else some false

/-- A list of nodes, or nothing for the empty one. -/
def listOrNull {α : Type} (d : Decoder α) : Decoder (List α) := following fun doc r =>
  match r.rest with
  | .scalar tag s style :: rest => do
    if ← isNull? tag s style then return ([], { r with rest }) else list d doc r
  | _ => list d doc r

/-- The items after a node, `depth` collections of which are open. -/
def skipFrom : Nat → List Item → Option (List Item)
  | _, [] => none
  | depth, .openSequence :: rest | depth, .openMapping :: rest => skipFrom (depth + 1) rest
  | depth, .closeSequence :: rest | depth, .closeMapping :: rest =>
    if depth ≤ 1 then some rest else skipFrom (depth - 1) rest
  | depth, _ :: rest => if depth = 0 then some rest else skipFrom depth rest

/-- Any node. -/
def skip (r : Reading) : Option Reading := (skipFrom 0 r.rest).map fun rest => { r with rest }

/-- A member of a record of which a part has been read. -/
structure Member (β : Type) where
  name : String
  /-- Whether the member has been read already. -/
  present : β → Bool
  /-- Reads the member into the record. -/
  read : β → Decoder β

def Member.of {β γ : Type} (name : String) (get : β → Option γ) (set : β → γ → β) (d : Decoder γ) :
    Member β where
  name := name
  present x := (get x).isSome
  read x doc r := do
    let (y, r) ← d doc r
    return (set x y, r)

/-- The members of a mapping, each at most once; others are not looked at. -/
def membersFrom {β : Type} (members : List (Member β)) : Nat → β → Decoder β
  | 0, _, _, _ => none
  | fuel + 1, x, doc, r =>
    match r.rest with
    | .closeMapping :: rest => some (x, { r with rest })
    | _ => do
      let (key, r) ← text doc r
      match members.find? (·.name = key) with
      | none => membersFrom members fuel x doc (← skip r)
      | some m =>
        if m.present x then none
        else
          let (x, r) ← m.read x doc r
          membersFrom members fuel x doc r

/-- A record, written as a mapping. -/
def record {β α : Type} (members : List (Member β)) (empty : β) (finish : β → Option α) :
    Decoder α := following fun doc r => do
  let (x, r) ← match r.rest with
    | .openMapping :: rest => membersFrom members (rest.length + 1) empty doc { r with rest }
    | .scalar _ [] .plain :: rest => some (empty, { r with rest })
    | _ => none
  return (← finish x, r)

/-- The value that is the whole of a text. -/
def decodeText? {α : Type} (d : Decoder α) (s : List Char) : Option α := do
  let doc ← Document.ofText? s
  let (x, _) ← d doc { rest := doc.items }
  return x

end Rollout.Yaml
