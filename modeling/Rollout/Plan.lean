import Rollout.Operation
import Rollout.Task
import Rollout.Text.Style
import Rollout.Text.Utf8

/-!
# The plan and its confirmation

Before anything runs, every command is shown under its server, and one question is asked. Only a line
that says yes lets the run begin.

* `Plan.lines` shows the tasks, every command with a mark for its operation.
* `Plan.answer` reads the reply from the first line of the input.
-/

namespace Rollout.Plan

/-- The mark of a command: what its operation will do. -/
def mark : Operation → Piece
  | .raw _ => { text := "$", style := { dimmed := true } }
  | .upload .. | .uploadDir .. => { text := "↑", style := { color := some .green } }
  | .backup _ => { text := "~", style := { color := some .yellow } }
  | .zipBackup .. => { text := "+", style := { color := some .yellow } }

def commandLine (command : String) : Line :=
  [.plain "    ", mark (.ofCommand command), .plain (" " ++ command)]

/-- A server with its commands. -/
def taskLines (t : Task) : List Line :=
  [] :: [.plain "  ", { text := t.label, style := { bold := true, color := some .white } },
    .plain ":"] :: t.commands.map commandLine

def lines (ts : List Task) : List Line :=
  [[], [{ text := "Plan:", style := { bold := true, color := some .cyan } },
    .plain (" " ++ toString (Task.totalCommands ts) ++ " commands across " ++
      toString ts.length ++ " servers")]] ++
    ts.flatMap taskLines ++ [[], Line.rule 80]

/-- The question before a run; the reply goes on the same line. -/
def question : Line :=
  [{ text := "Run the commands above? [y/N]", style := { bold := true, color := some .yellow } },
    .plain " "]

def isYes (line : List Char) : Bool :=
  let word := (Text.trim line).map Char.toLower
  word = ['y'] || word = ['y', 'e', 's']

/-- The first line of the input with its end, and what comes after it. -/
def firstLine : List UInt8 → List UInt8 × List UInt8
  | [] => ([], [])
  | a :: s =>
    if a = 10 then ([a], s)
    else
      let (line, rest) := firstLine s
      (a :: line, rest)

/-- Whether the input says yes, and what is left of it; `none` if the line is not UTF-8. The end of
the input says no. -/
def answer (input : List UInt8) : Option Bool × List UInt8 :=
  let (line, rest) := firstLine input
  ((Utf8.decode? line).map isYes, rest)

end Rollout.Plan
