import Rollout.Text.Digit

/-!
# Command templates

A template is literal text with placeholders in it: an opening brace, one or more decimal digits of any
script, and a closing brace. `segments` reads a template into its characters and placeholders in one
pass, so that nothing substituted for a placeholder is read again.

* `write_segments`: the segments of a template, written out, are the template.
* `fill` puts the numbered values in place; a placeholder denotes a number if its digits are ASCII.
-/

namespace Rollout.Template

/-- A character that stands for itself, or a placeholder by its digits. -/
inductive Segment where
  | literal (c : Char)
  | slot (digits : List Char)
  deriving Repr, DecidableEq

def Segment.write : Segment → List Char
  | .literal c => [c]
  | .slot ds => '{' :: ds ++ ['}']

def write (s : List Segment) : List Char := s.flatMap Segment.write

/-- Reads segments. An opening brace that may begin a placeholder is held back, with the digits after
it, until the character that decides. -/
def segmentsFrom : Option (List Char) → List Char → List Segment
  | none, [] => []
  | some ds, [] => ('{' :: ds).map .literal
  | none, c :: s => if c = '{' then segmentsFrom (some []) s else .literal c :: segmentsFrom none s
  | some ds, c :: s =>
    if Text.isDigit c then segmentsFrom (some (ds ++ [c])) s
    else if c = '}' ∧ ds ≠ [] then .slot ds :: segmentsFrom none s
    else if c = '{' then ('{' :: ds).map .literal ++ segmentsFrom (some []) s
    else ('{' :: ds).map .literal ++ .literal c :: segmentsFrom none s

/-- The segments of a template. -/
def segments (s : List Char) : List Segment := segmentsFrom none s

theorem write_append (a b : List Segment) : write (a ++ b) = write a ++ write b := by
  simp [write]

theorem write_literals (s : List Char) : write (s.map .literal) = s := by
  induction s with
  | nil => rfl
  | cons c s ih => simpa [write, Segment.write] using ih

theorem write_segmentsFrom (held : Option (List Char)) (s : List Char) :
    write (segmentsFrom held s) = (held.elim [] ('{' :: ·)) ++ s := by
  fun_induction segmentsFrom held s with
  | case1 => rfl
  | case2 ds => simpa using write_literals ('{' :: ds)
  | case3 s ih => simpa using ih
  | case4 c s h ih => simpa [write, Segment.write] using ih
  | case5 ds c s h ih => simpa using ih
  | case6 ds c s h h' ih => simpa [write, Segment.write, h'.1] using ih
  | case7 ds s h h' ih =>
    rw [write_append, write_literals, ih]; simp
  | case8 ds c s h h' h'' ih =>
    rw [write_append, write_literals]
    simpa [write, Segment.write] using ih

theorem write_segments (s : List Char) : write (segments s) = s := by
  simpa [segments] using write_segmentsFrom none s

/-- The value that a placeholder stands for. -/
def value? (values : List String) (digits : List Char) : Option String :=
  (Text.nat? digits).bind (values[·]?)

/-- The text a segment becomes; a placeholder without a value is the answer otherwise. -/
def Segment.fill (values : List String) : Segment → Except (List Char) (List Char)
  | .literal c => .ok [c]
  | .slot ds => match value? values ds with
    | some v => .ok v.toList
    | none => .error (Segment.slot ds).write

/-- Segments with the values in place of their placeholders, or the first that has none. -/
def fillSegments (values : List String) : List Segment → Except (List Char) (List Char)
  | [] => .ok []
  | x :: xs => do return (← x.fill values) ++ (← fillSegments values xs)

/-- A template with the values in place of its placeholders, or the first placeholder without one. -/
def fill (values : List String) (template : String) : Except String String :=
  match fillSegments values (segments template.toList) with
  | .ok s => .ok (String.ofList s)
  | .error s => .error (String.ofList s)

end Rollout.Template
