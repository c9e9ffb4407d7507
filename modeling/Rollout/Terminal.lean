import Rollout.Number.Binary64
import Rollout.Operation
import Rollout.Report
import Rollout.Task
import Rollout.Text.Style

/-!
# Progress on the terminal

What is shown while a run goes on. Every function gives lines of styled text, none at all in quiet
mode; whether they are written in color is decided where they are printed.
-/

namespace Rollout

/-- How much is shown. -/
structure Terminal where
  verbose : Bool := false
  quiet : Bool := false
  deriving Repr, DecidableEq

/-- What a command left behind. -/
structure CommandResult where
  stdout : String := ""
  stderr : String := ""
  exitCode : Int := 0
  deriving Repr, DecidableEq

def CommandResult.success (r : CommandResult) : Bool := r.exitCode == 0

/-- A progress bar: its length in bytes, unless it is hidden, and what stands before it. -/
structure ProgressBar where
  length : Option Nat
  label : String
  deriving Repr, DecidableEq

namespace Terminal

/-- A terminal that shows nothing. -/
def silent : Terminal := { quiet := true }

/-- Lines that quiet mode leaves out. -/
def unlessQuiet (t : Terminal) (ls : List Line) : List Line := if t.quiet then [] else ls

def green (text : String) : Piece := { text, style := { color := some .green } }

def cyan (text : String) : Piece := { text, style := { color := some .cyan } }

def boldGreen (text : String) : Piece := { text, style := { bold := true, color := some .green } }

/-- The header of a server, before it is connected to. -/
def header (t : Terminal) (target : Target) (index total : Nat) : List Line :=
  t.unlessQuiet [[],
    [boldGreen "SERVER", .plain " ", cyan target.label,
      .plain (" (" ++ toString index ++ "/" ++ toString total ++ ")")],
    Line.rule 60]

def connected (t : Terminal) (host : String) : List Line :=
  t.unlessQuiet [[.plain "  ", green "CONNECTED", .plain " ",
    { text := host, style := { bold := true, color := some .white } }]]

/-- The width of the column that names a command's operation. -/
def kindWidth : Nat := 9

/-- The name of an operation as the column shows it. -/
def kindLabel (o : Operation) : String :=
  String.ofList (Piece.pad kindWidth (o.kind.toList.map Char.toUpper))

/-- A command that is about to run. -/
def command (t : Terminal) (command : String) (o : Operation) : List Line :=
  t.unlessQuiet [[.plain "  ",
    { text := kindLabel o, style := { bold := true, color := some .yellow } },
    .plain (" " ++ command)]]

/-- Lines of a command's output, all in one style. -/
def outputLines (style : Style) (text : String) : List Line :=
  (Text.lines text.toList).map fun l => [.plain "      ", { text := String.ofList l, style }]

/-- The output of a command. Error output is shown if the command failed, or always if verbose. -/
def output (t : Terminal) (r : CommandResult) : List Line :=
  t.unlessQuiet <|
    outputLines { dimmed := true } r.stdout ++
      if t.verbose ∨ ¬ r.success then outputLines { color := some .red } r.stderr else []

def backup (t : Terminal) (o : BackupOutcome) : List Line :=
  t.unlessQuiet <| match o with
    | .created path => [[.plain "      ", green "backed up to", .plain (" " ++ path)]]
    | .alreadyExists path =>
      [[.plain "      ", cyan "SKIPPED", .plain (" " ++ path ++ " already exists")]]

def uploaded (t : Terminal) (path : String) : List Line :=
  t.unlessQuiet [[.plain "      ", green "uploaded to", .plain (" " ++ path)]]

/-- The progress bar of an upload; quiet mode hides it. -/
def progress (t : Terminal) (label : String) (total : Nat) : ProgressBar :=
  if t.quiet then ⟨none, ""⟩ else ⟨some total, label⟩

/-- The width of the column of host names. -/
def hostWidth : Nat := 30

/-- One server of a recap. -/
def recapLine (r : ServerReport) : Line :=
  let skipped := "skipped=" ++ toString r.backupsSkipped
  [{ text := r.host, style := { bold := true, color := some .white }, width := hostWidth },
    .plain " : ", green ("commands=" ++ toString r.executed),
    .plain ("    uploaded=" ++ toString r.uploaded ++
      "    backups=" ++ toString r.backupsCreated ++ "    "),
    if r.backupsSkipped > 0 then cyan skipped else .plain skipped]

def nanosecondsPerSecond : Nat := 1000000000

/-- Seconds with two decimals: the whole seconds and the fraction are numbers of 64 bits, added up
before the decimals are cut. -/
def seconds (nanoseconds : Nat) : String :=
  let parts := do
    let whole ← Binary64.ofNat? (nanoseconds / nanosecondsPerSecond)
    let fraction ← Binary64.ofRatio? (nanoseconds % nanosecondsPerSecond) nanosecondsPerSecond
    whole.add? fraction
  (parts.getD .zero).fixed 2

/-- The recap of a run that came to its end. -/
def recap (t : Terminal) (r : RunRecap) : List Line :=
  t.unlessQuiet <|
    [[], [boldGreen "RUN RECAP"], Line.rule 60] ++ r.servers.map recapLine ++
      [[], [.plain ("Total time: " ++ seconds r.nanoseconds ++ "s")]]

end Terminal

end Rollout
