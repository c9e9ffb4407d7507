import Rollout.Text.Split

/-!
# Styled text

What is shown to a person is made of pieces: a text with its style and the least width it takes. The
same pieces are written with or without escape sequences. With them, a piece that has a style is
opened by one sequence, closed by another, and padded in between; a piece without a style is never
touched.

* `Piece.chars` writes a piece; `Line.render` a line of them.
* A sequence that ends all styles inside a styled text is followed by the opening one again, so that
  the style reaches to the end of the piece.
-/

namespace Rollout

inductive Color where
  | red
  | green
  | yellow
  | blue
  | cyan
  | white
  deriving Repr, DecidableEq

def Color.code : Color → Nat
  | .red => 31
  | .green => 32
  | .yellow => 33
  | .blue => 34
  | .cyan => 36
  | .white => 37

structure Style where
  bold : Bool := false
  dimmed : Bool := false
  italic : Bool := false
  color : Option Color := none
  deriving Repr, DecidableEq

namespace Style

/-- The numbers of a style's sequence, in the order they are written. -/
def codes (s : Style) : List Nat :=
  (if s.bold then [1] else []) ++ (if s.dimmed then [2] else []) ++
    (if s.italic then [3] else []) ++ (s.color.map Color.code).toList

/-- An escape sequence that sets styles. -/
def sequenceOf (codes : List Nat) : List Char :=
  '\x1b' :: '[' :: Text.join [';'] (codes.map fun n => (toString n).toList) ++ ['m']

/-- The sequence that begins a style. -/
def opening (s : Style) : List Char := sequenceOf s.codes

/-- The sequence that ends all styles. -/
def closing : List Char := sequenceOf [0]

end Style

/-- A text with its style, padded with spaces to the least width. -/
structure Piece where
  text : String
  style : Style := {}
  width : Nat := 0
  deriving Repr, DecidableEq

/-- A line to show, without its end. -/
abbrev Line := List Piece

namespace Piece

def plain (text : String) : Piece := { text }

/-- Spaces after a text, up to a width. -/
def pad (width : Nat) (s : List Char) : List Char :=
  s ++ List.replicate (width - s.length) ' '

/-- A text with the sequence `again` after each sequence that ends all styles. -/
def reopen (again : List Char) : List Char → List Char
  | '\x1b' :: '[' :: '0' :: 'm' :: s => Style.closing ++ again ++ reopen again s
  | c :: s => c :: reopen again s
  | [] => []

/-- A piece as it is shown, with or without escape sequences. -/
def chars (colored : Bool) (p : Piece) : List Char :=
  if colored ∧ p.style.codes ≠ [] then
    p.style.opening ++ pad p.width (reopen p.style.opening p.text.toList) ++ Style.closing
  else pad p.width p.text.toList

end Piece

namespace Line

def chars (colored : Bool) (l : Line) : List Char := l.flatMap (Piece.chars colored)

def render (colored : Bool) (l : Line) : String := String.ofList (chars colored l)

/-- Lines, each with its end. -/
def renderAll (colored : Bool) (ls : List Line) : String :=
  String.ofList (ls.flatMap fun l => chars colored l ++ ['\n'])

/-- A line across the screen. -/
def rule (width : Nat) : Line :=
  [{ text := String.ofList (List.replicate width '─'), style := { dimmed := true } }]

end Line

end Rollout
