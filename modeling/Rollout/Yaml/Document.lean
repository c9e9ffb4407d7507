import Rollout.Yaml.Event
import Rollout.Yaml.Layout

/-!
# A YAML document

The nodes of the one document that a text holds, in order, as beginnings and ends. An alias refers to
its anchor by a number: each anchor is numbered by the count of different names before it, so a name
given a second time shares its number with the next new name, and the last anchor of a number is the
one that is meant.

* `Document.ofText?` refuses an alias before its anchor, and a second document. A text without a
  document is an empty scalar.
-/

namespace Rollout.Yaml

inductive Item where
  | alias (anchor : Nat)
  | scalar (tag : Option (List Char)) (text : List Char) (style : ScalarStyle)
  | openSequence
  | closeSequence
  | openMapping
  | closeMapping
  deriving Repr, DecidableEq

/-- Items in order, and where each anchor stands among them, the last anchor first. -/
structure Document where
  items : List Item
  anchors : List (Nat × Nat) := []
  deriving Repr, DecidableEq

namespace Document

/-- Anchors so far: the number of each name, and the place of each number. -/
structure Anchors where
  names : List (List Char × Nat) := []
  places : List (Nat × Nat) := []

/-- Adds an anchor, if there is one, at a place. -/
def Anchors.add (a : Anchors) (name : Option (List Char)) (place : Nat) : Anchors :=
  match name with
  | none => a
  | some name =>
    let count := a.names.length
    { names := (name, count) :: a.names.filter (·.1 ≠ name), places := (count, place) :: a.places }

def itemsOf? : Anchors → Nat → List Event → Option (List Item × Anchors)
  | a, _, [] => some ([], a)
  | a, place, e :: es => do
    let (item, a) ← match e with
      | .alias name => (a.names.lookup name).map fun n => (Item.alias n, a)
      | .scalar p text style => some (Item.scalar p.tag text style, a.add p.anchor place)
      | .openSequence p => some (Item.openSequence, a.add p.anchor place)
      | .openMapping p => some (Item.openMapping, a.add p.anchor place)
      | .closeSequence => some (Item.closeSequence, a)
      | .closeMapping => some (Item.closeMapping, a)
    let (items, a) ← itemsOf? a (place + 1) es
    return (item :: items, a)

def ofEvents? (es : List Event) : Option Document := do
  let (items, a) ← itemsOf? {} 0 es
  return ⟨items, a.places⟩

/-- The document of a text. -/
def ofText? (s : List Char) : Option Document := do
  match ← documents? (← Token.ofText? s) with
  | [] => return ⟨[.scalar none [] .plain], []⟩
  | [es] => ofEvents? es
  | _ => none

end Document

end Rollout.Yaml
