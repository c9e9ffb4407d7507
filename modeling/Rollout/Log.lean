import Rollout.Text.Quoted
import Rollout.Text.Style

/-!
# Log records

What is noted beside the output, for someone who looks for the cause of a failure. A record has a
level, the part of the program it comes from, a message and named values.
-/

namespace Rollout

inductive LogLevel where
  | error
  | warn
  | info
  | debug
  deriving Repr, DecidableEq

namespace LogLevel

/-- How many levels are at least as grave. -/
def rank : LogLevel → Nat
  | .error => 1
  | .warn => 2
  | .info => 3
  | .debug => 4

def color : LogLevel → Color
  | .error => .red
  | .warn => .yellow
  | .info => .green
  | .debug => .blue

/-- The name of a level, in five characters. -/
def name : LogLevel → String
  | .error => "ERROR"
  | .warn => " WARN"
  | .info => " INFO"
  | .debug => "DEBUG"

end LogLevel

/-- A record; the values are as they are to be shown. -/
structure LogRecord where
  level : LogLevel
  origin : String
  message : String
  fields : List (String × String) := []
  deriving Repr, DecidableEq

namespace LogRecord

/-- Whether records up to a level include this one. -/
def upTo (r : LogRecord) (level : LogLevel) : Bool := r.level.rank ≤ level.rank

/-- A named value after what comes before it. -/
def fieldPieces : String × String → List Piece
  | (name, value) =>
    [.plain " ", { text := name, style := { italic := true } },
      { text := "=", style := { dimmed := true } }, .plain value]

/-- A record as a line: its level, its origin, the message and the values. -/
def line (r : LogRecord) : Line :=
  [{ text := r.level.name, style := { color := some r.level.color } }, .plain " ",
    { text := r.origin, style := { dimmed := true } }, { text := ":", style := { dimmed := true } },
    .plain (" " ++ r.message)] ++ r.fields.flatMap fieldPieces

end LogRecord

end Rollout
